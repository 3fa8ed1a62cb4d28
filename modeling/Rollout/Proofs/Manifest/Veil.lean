import Mathlib.Data.List.Forall2
import Rollout.Proofs.Manifest.Bodies
import Rollout.Proofs.Manifest.Merge

namespace Rollout

variable {hidden : List String} {r s : Resource}

-- A resource; of a hidden kind what identifies it, and no more.
def Resource.veil (hidden : List String) (r : Resource) : Resource :=
  if hidden.contains r.kind then ⟨"", r.kind, r.name, r.namespaceName, .null⟩ else r

namespace Resource

theorem veil_open (seen : hidden.contains r.kind = false) : r.veil hidden = r := by
  rw [veil, seen]
  rfl

theorem veil_hidden (unseen : hidden.contains r.kind = true) :
    r.veil hidden = ⟨"", r.kind, r.name, r.namespaceName, .null⟩ := by
  rw [veil, unseen]
  rfl

theorem veil_key (r : Resource) : (r.veil hidden).key = r.key := by
  unfold veil
  split <;> rfl

theorem veil_precedence (r : Resource) : (r.veil hidden).precedence = r.precedence := by
  unfold veil
  split <;> rfl

theorem veil_of_key {key : ResourceKey} (unseen : hidden.contains key.kind = true)
    (left : r.key = key) (right : s.key = key) : r.veil hidden = s.veil hidden := by
  obtain rfl := left
  have same : s.kind = r.kind ∧ s.namespaceName = r.namespaceName ∧ s.name = r.name :=
    ResourceKey.mk.inj right
  obtain ⟨kind, space, name⟩ := same
  have unseen : hidden.contains r.kind = true := unseen
  rw [veil_hidden unseen, veil_hidden (kind ▸ unseen), kind, space, name]

theorem key_of_veil (alike : r.veil hidden = s.veil hidden) : r.key = s.key := by
  rw [← veil_key r, alike, veil_key]

theorem eq_of_veil (alike : r.veil hidden = s.veil hidden)
    (seen : hidden.contains r.kind = false) : r = s := by
  have kinds : r.kind = s.kind := congrArg ResourceKey.kind (key_of_veil alike)
  rwa [veil_open seen, veil_open (kinds ▸ seen)] at alike

theorem withLabels_hidden (unseen : hidden.contains r.kind = true)
    (labels : List (String × String)) : (r.withLabels labels).veil hidden = r.veil hidden :=
  veil_of_key unseen withLabels_key rfl

theorem withLabels_alike (alike : r.veil hidden = s.veil hidden) (labels : List (String × String)) :
    (r.withLabels labels).veil hidden = (s.withLabels labels).veil hidden := by
  cases look : hidden.contains r.kind with
  | false => rw [eq_of_veil alike look]
  | true =>
    have kinds : r.kind = s.kind := congrArg ResourceKey.kind (key_of_veil alike)
    rw [withLabels_hidden look, withLabels_hidden (kinds ▸ look), alike]

variable {rs rs' : List Resource}

theorem veils_eq_iff : rs.map (veil hidden) = rs'.map (veil hidden) ↔
    List.Forall₂ (fun r s => r.veil hidden = s.veil hidden) rs rs' := by
  rw [← List.forall₂_eq_eq_eq, List.forall₂_map_left_iff, List.forall₂_map_right_iff]

theorem labelled_alike (alike : rs.map (veil hidden) = rs'.map (veil hidden))
    (labels : List (String × String)) :
    (rs.map fun r => r.withLabels labels).map (veil hidden) =
      (rs'.map fun r => r.withLabels labels).map (veil hidden) := by
  rw [veils_eq_iff] at alike ⊢
  rw [List.forall₂_map_left_iff, List.forall₂_map_right_iff]
  exact alike.imp fun _ _ same => withLabels_alike same labels

end Resource

namespace Manifest

variable {declared declared' : List Resource}

theorem putResource_veil (r : Resource) (rs : List Resource) :
    (putResource r rs).map (Resource.veil hidden) =
      putResource (r.veil hidden) (rs.map (Resource.veil hidden)) := by
  induction rs with
  | nil => rfl
  | cons head rest ih =>
    simp only [putResource, List.map_cons, Resource.veil_key]
    split
    · rfl
    · rw [List.map_cons, ih]

theorem merge_veil (declared : List Resource) :
    (merge declared).map (Resource.veil hidden) = merge (declared.map (Resource.veil hidden)) := by
  induction declared using List.reverseRecOn with
  | nil => rfl
  | append_singleton earlier r ih =>
    rw [merge_snoc, putResource_veil, ih, List.map_append, List.map_singleton, merge_snoc]

theorem ofResources_veil (declared : List Resource) :
    (ofResources declared).resources.map (Resource.veil hidden) =
      (ofResources (declared.map (Resource.veil hidden))).resources := by
  unfold ofResources
  rw [← merge_veil]
  refine List.map_mergeSort fun a _ b _ => ?_
  rw [Resource.veil_precedence, Resource.veil_precedence]

theorem ofResources_alike
    (alike : declared.map (Resource.veil hidden) = declared'.map (Resource.veil hidden)) :
    (ofResources declared).resources.map (Resource.veil hidden) =
      (ofResources declared').resources.map (Resource.veil hidden) := by
  rw [ofResources_veil, alike, ofResources_veil]

end Manifest

end Rollout
