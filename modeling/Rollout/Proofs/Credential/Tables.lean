import Rollout.Credential.Table
import Rollout.Proofs.Definition.Layers
import Rollout.Proofs.Sorted

namespace Rollout

namespace SecretTable

variable {key : String}

theorem fold_parts (entries : List (String × String)) :
    (keys (entries.foldl (fun table (k, v) => Sorted.put k v table) [])).Pairwise (· < ·) ∧
      ∀ key, (key ∈ keys (entries.foldl (fun table (k, v) => Sorted.put k v table) []) ↔
          key ∈ entries.map Prod.fst) ∧
        (entries.foldl (fun table (k, v) => Sorted.put k v table) []).lookup key =
          entries.reverse.lookup key := by
  induction entries using List.reverseRecOn with
  | nil => exact ⟨.nil, fun key => ⟨.rfl, rfl⟩⟩
  | append_singleton entries entry ih =>
    obtain ⟨k, v⟩ := entry
    obtain ⟨ascending, ih⟩ := ih
    rw [List.foldl_append, List.foldl_cons, List.foldl_nil]
    refine ⟨Sorted.put_ascending ascending, ?_⟩
    intro key
    obtain ⟨members, last⟩ := ih key
    refine ⟨?_, ?_⟩
    · unfold keys at members ⊢
      rw [Sorted.mem_names_put, members, List.map_append, List.mem_append, or_comm]
      simp
    · rw [Sorted.lookup_put, Declared.lookup_reverse_snoc, last]

theorem ofYaml_ascending (document : Yaml) : (keys (ofYaml document)).Pairwise (· < ·) :=
  (fold_parts _).1

theorem mem_keys_ofYaml (document : Yaml) :
    key ∈ keys (ofYaml document) ↔ key ∈ (leaves none document).map Prod.fst :=
  ((fold_parts _).2 key).1

theorem lookup_ofYaml (document : Yaml) (key : String) :
    (ofYaml document).lookup key = (leaves none document).reverse.lookup key :=
  ((fold_parts _).2 key).2

end SecretTable

end Rollout
