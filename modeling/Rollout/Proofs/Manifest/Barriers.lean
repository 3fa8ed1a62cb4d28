import Mathlib.Data.List.Nodup
import Mathlib.Data.List.Perm.Subperm
import Rollout.Proofs.Manifest.Merge

namespace Rollout.Manifest

open Resource

variable {m : Manifest} {r : Resource} {kind : String}

theorem precedence_le (r : Resource) : r.precedence ≤ kindOrder.length := List.idxOf_le_length

theorem precedence_eq_listed (listed : kind ∈ kindOrder) :
    r.precedence = precedenceOf kind ↔ r.kind = kind :=
  ⟨fun level => (List.idxOf_inj listed).mp level.symm |>.symm, fun same => congrArg precedenceOf same⟩

theorem precedence_eq_unlisted : r.precedence = kindOrder.length ↔ r.kind ∉ kindOrder :=
  List.idxOf_eq_length_iff

-- The resources of a sort make up one tier, and no other tier has any of them.
def Gathers (m : Manifest) (sort : Resource → Prop) : Prop :=
  ∃ before tier after, m.tiers = before ++ tier :: after ∧
    (∀ r, r ∈ tier ↔ r ∈ m.resources ∧ sort r) ∧
    ∀ other ∈ before ++ after, ∀ r ∈ other, ¬ sort r

theorem gathers_rank (sorted : m.resources.Pairwise fun a b => a.precedence ≤ b.precedence)
    (present : r ∈ m.resources) : m.Gathers fun s => s.precedence = r.precedence := by
  obtain ⟨tier, inTiers, here⟩ := List.mem_flatten.mp ((flatten_tiers m).symm ▸ present)
  obtain ⟨before, after, split⟩ := List.append_of_mem inTiers
  have rising := tiers_increase sorted
  rw [split] at rising
  obtain ⟨-, ahead, behind⟩ := List.pairwise_append.mp rising
  have others : ∀ other ∈ before ++ after, ∀ s ∈ other, ¬ s.precedence = r.precedence := by
    intro other member s inside
    rcases List.mem_append.mp member with earlier | later
    · exact Nat.ne_of_lt (behind other earlier tier (by simp) s inside r here)
    · exact Nat.ne_of_gt ((List.pairwise_cons.mp ahead).1 other later r here s inside)
  refine ⟨before, tier, after, split, fun s => ⟨fun inside => ?_, fun ⟨held, level⟩ => ?_⟩, others⟩
  · rw [← flatten_tiers m]
    exact ⟨List.mem_flatten.mpr ⟨tier, inTiers, inside⟩, tier_level inTiers inside here⟩
  · obtain ⟨own, inTiers', inside⟩ := List.mem_flatten.mp ((flatten_tiers m).symm ▸ held)
    rw [split] at inTiers'
    rcases List.mem_append.mp inTiers' with earlier | later
    · exact absurd level (others own (List.mem_append_left _ earlier) s inside)
    · rcases List.mem_cons.mp later with rfl | later
      · exact inside
      · exact absurd level (others own (List.mem_append_right _ later) s inside)

def tierRank (tier : List Resource) : Nat := (tier.head?.map Resource.precedence).getD 0

theorem tierRank_of_mem {tier : List Resource} (inTiers : tier ∈ m.tiers) (here : r ∈ tier) :
    tierRank tier = r.precedence := by
  cases tier with
  | nil => cases here
  | cons first rest => exact tier_level inTiers (List.mem_cons_self ..) here

theorem tier_inhabited {tier : List Resource} (inTiers : tier ∈ m.tiers) : ∃ r, r ∈ tier :=
  List.exists_mem_of_ne_nil tier (List.ne_nil_of_mem_splitBy inTiers)

-- There are no more tiers than ranks.
theorem length_tiers (sorted : m.resources.Pairwise fun a b => a.precedence ≤ b.precedence) :
    m.tiers.length ≤ kindOrder.length + 1 := by
  have rising : (m.tiers.map tierRank).Pairwise (· < ·) := by
    refine List.pairwise_map.mpr ((tiers_increase sorted).imp_of_mem ?_)
    intro a b inA inB before
    obtain ⟨r, inside⟩ := tier_inhabited inA
    obtain ⟨s, inside'⟩ := tier_inhabited inB
    rw [tierRank_of_mem inA inside, tierRank_of_mem inB inside']
    exact before r inside s inside'
  have bounded : m.tiers.map tierRank ⊆ List.range (kindOrder.length + 1) := by
    intro rank member
    obtain ⟨tier, inTiers, rfl⟩ := List.mem_map.mp member
    obtain ⟨r, inside⟩ := tier_inhabited inTiers
    rw [tierRank_of_mem inTiers inside]
    exact List.mem_range.mpr (Nat.lt_succ_of_le (precedence_le r))
  have distinct : (m.tiers.map tierRank).Nodup := rising.imp Nat.ne_of_lt
  simpa using (distinct.subperm bounded).length_le

-- Tiers that can be waited for one after the other.
structure Barriers (m : Manifest) : Prop where
  whole : m.tiers.flatten = m.resources
  filled : ∀ tier ∈ m.tiers, tier ≠ []
  level : ∀ tier ∈ m.tiers, ∀ r ∈ tier, ∀ s ∈ tier, r.precedence = s.precedence
  rising : m.tiers.Pairwise fun a b => ∀ r ∈ a, ∀ s ∈ b, r.precedence < s.precedence
  listed : ∀ kind ∈ kindOrder, (∃ r ∈ m.resources, r.kind = kind) →
    m.Gathers fun r => r.kind = kind
  unlisted : (∃ r ∈ m.resources, r.kind ∉ kindOrder) → m.Gathers fun r => r.kind ∉ kindOrder
  few : m.tiers.length ≤ kindOrder.length + 1

theorem tiers_barriers (declared : List Resource) : Barriers (ofResources declared) where
  whole := flatten_tiers _
  filled _ inTiers := List.ne_nil_of_mem_splitBy inTiers
  level _ inTiers _ left _ right := tier_level inTiers left right
  rising := tiers_increase (ofResources_sorted declared)
  listed kind listed := by
    rintro ⟨r, present, rfl⟩
    have gathered := gathers_rank (ofResources_sorted declared) present
    simpa only [show r.precedence = precedenceOf r.kind from rfl, precedence_eq_listed listed]
      using gathered
  unlisted := by
    rintro ⟨r, present, other⟩
    have gathered := gathers_rank (ofResources_sorted declared) present
    simpa only [precedence_eq_unlisted.mpr other, precedence_eq_unlisted] using gathered
  few := length_tiers (ofResources_sorted declared)

end Rollout.Manifest
