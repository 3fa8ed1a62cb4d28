import Mathlib.Data.List.Dedup
import Mathlib.Data.List.SplitBy
import Rollout.Manifest

namespace Rollout.Manifest

variable {declared rs : List Resource} {m : Manifest} {r s t : Resource}

-- A key counts by its last declaration; the place of the first one is a matter of order alone.
def Last (declared : List Resource) (r : Resource) : Prop :=
  ∃ before after, declared = before ++ r :: after ∧ ∀ s ∈ after, s.key ≠ r.key

theorem last_snoc : Last (declared ++ [r]) s ↔ s = r ∨ (Last declared s ∧ s.key ≠ r.key) := by
  constructor
  · rintro ⟨before, after, split, alone⟩
    rcases List.eq_nil_or_concat after with rfl | ⟨middle, last, rfl⟩
    · exact .inl (by simpa using (List.append_inj' split rfl).2.symm)
    · have split : declared ++ [r] = (before ++ s :: middle) ++ [last] := by simpa using split
      have parts := List.append_inj' split rfl
      have same : r = last := by simpa using parts.2
      subst last
      refine .inr ⟨⟨before, middle, parts.1, fun t member => alone t (by simp [member])⟩, ?_⟩
      exact (alone r (by simp)).symm
  · rintro (rfl | ⟨⟨before, after, rfl, alone⟩, other⟩)
    · exact ⟨declared, [], rfl, by simp⟩
    · refine ⟨before, after ++ [r], by simp, ?_⟩
      intro t member
      rcases List.mem_append.mp member with old | new
      · exact alone t old
      · rw [List.mem_singleton.mp new]; exact other.symm

theorem exists_last (present : r ∈ declared) : ∃ s, Last declared s ∧ s.key = r.key := by
  induction declared using List.reverseRecOn with
  | nil => cases present
  | append_singleton earlier t ih =>
    by_cases same : t.key = r.key
    · exact ⟨t, last_snoc.mpr (.inl rfl), same⟩
    · rcases List.mem_append.mp present with old | new
      · obtain ⟨s, last, key⟩ := ih old
        exact ⟨s, last_snoc.mpr (.inr ⟨last, fun equal => same (equal.symm.trans key)⟩), key⟩
      · exact absurd (congrArg Resource.key (List.mem_singleton.mp new).symm) same

theorem last_in_block {before block after : List Resource}
    (last : Last (before ++ (block ++ after)) r) (behind : ∀ s ∈ after, s.key ≠ r.key)
    (covered : ∃ s ∈ block, s.key = r.key) : r ∈ block := by
  obtain ⟨front, back, split, alone⟩ := last
  have inside : r ∈ block ++ after → r ∈ block := fun member =>
    (List.mem_append.mp member).resolve_right fun far => behind r far rfl
  rcases List.append_eq_append_iff.mp split with ⟨middle, -, tail⟩ | ⟨middle, -, tail⟩
  · exact inside (by simp [tail])
  · cases middle with
    | nil =>
      have whole : block ++ after = r :: back := tail.symm
      exact inside (whole ▸ List.mem_cons_self)
    | cons t middle =>
      obtain ⟨s, member, same⟩ := covered
      obtain ⟨-, rest⟩ := List.cons.inj tail
      exact absurd same (alone s (by simp [rest, member]))

theorem keys_putResource : (putResource r rs).map Resource.key =
    if r.key ∈ rs.map Resource.key then rs.map Resource.key
    else rs.map Resource.key ++ [r.key] := by
  induction rs with
  | nil => simp [putResource]
  | cons head rest ih =>
    by_cases same : head.key = r.key
    · simp [putResource, same]
    · have differ : r.key ≠ head.key := fun equal => same equal.symm
      simp only [putResource, same, if_false, List.map_cons, ih, List.mem_cons, differ, false_or]
      split <;> simp

theorem putResource_distinct (distinct : (rs.map Resource.key).Nodup) :
    ((putResource r rs).map Resource.key).Nodup := by
  rw [keys_putResource]
  split
  · exact distinct
  · rename_i absent
    exact List.nodup_append.mpr ⟨distinct, by simp, by
      intro key old other new equal
      rw [List.mem_singleton.mp new] at equal
      exact absent (equal ▸ old)⟩

theorem mem_putResource (distinct : (rs.map Resource.key).Nodup) :
    s ∈ putResource r rs ↔ s = r ∨ (s ∈ rs ∧ s.key ≠ r.key) := by
  induction rs with
  | nil => simp [putResource]
  | cons head rest ih =>
    obtain ⟨absent, restDistinct⟩ := List.nodup_cons.mp distinct
    by_cases same : head.key = r.key
    · have others : ∀ t ∈ rest, t.key ≠ r.key := fun t member equal =>
        absent (List.mem_map.mpr ⟨t, member, equal.trans same.symm⟩)
      simp only [putResource, same, if_true, List.mem_cons]
      constructor
      · rintro (rfl | member)
        · exact .inl rfl
        · exact .inr ⟨.inr member, others s member⟩
      · rintro (rfl | ⟨rfl | member, differ⟩)
        · exact .inl rfl
        · exact absurd same differ
        · exact .inr member
    · simp only [putResource, same, if_false, List.mem_cons, ih restDistinct]
      constructor
      · rintro (rfl | rfl | ⟨member, differ⟩)
        · exact .inr ⟨.inl rfl, same⟩
        · exact .inl rfl
        · exact .inr ⟨.inr member, differ⟩
      · rintro (rfl | ⟨rfl | member, differ⟩)
        · exact .inr (.inl rfl)
        · exact .inl rfl
        · exact .inr (.inr ⟨member, differ⟩)

theorem merge_snoc : merge (declared ++ [r]) = putResource r (merge declared) := by
  simp [merge]

theorem merge_distinct (declared : List Resource) :
    ((merge declared).map Resource.key).Nodup := by
  induction declared using List.reverseRecOn with
  | nil => simp [merge]
  | append_singleton earlier r ih => rw [merge_snoc]; exact putResource_distinct ih

theorem putResource_fresh (fresh : r.key ∉ rs.map Resource.key) : putResource r rs = rs ++ [r] := by
  induction rs with
  | nil => rfl
  | cons head rest ih =>
    obtain ⟨differ, later⟩ : r.key ≠ head.key ∧ r.key ∉ rest.map Resource.key := by
      simpa [not_or] using fresh
    rw [putResource, if_neg differ.symm, ih later, List.cons_append]

theorem merge_of_distinct (distinct : (declared.map Resource.key).Nodup) :
    merge declared = declared := by
  induction declared using List.reverseRecOn with
  | nil => rfl
  | append_singleton earlier r ih =>
    rw [List.map_append] at distinct
    obtain ⟨before, -, apart⟩ := List.nodup_append.mp distinct
    rw [merge_snoc, ih before]
    exact putResource_fresh fun present => apart _ present _ (by simp) rfl

theorem mem_merge : s ∈ merge declared ↔ Last declared s := by
  induction declared using List.reverseRecOn with
  | nil => simp [merge, Last]
  | append_singleton earlier r ih =>
    rw [merge_snoc, mem_putResource (merge_distinct earlier), ih, last_snoc]

theorem mem_ofResources : r ∈ (ofResources declared).resources ↔ Last declared r := by
  simp [ofResources, mem_merge]

theorem mem_of_last (last : Last declared r) : r ∈ declared := by
  obtain ⟨before, after, rfl, -⟩ := last
  simp

theorem ofResources_distinct (declared : List Resource) :
    ((ofResources declared).resources.map Resource.key).Nodup :=
  (((List.mergeSort_perm _ _).map Resource.key).nodup_iff).mpr (merge_distinct declared)

theorem ofResources_perm (distinct : (declared.map Resource.key).Nodup) :
    (ofResources declared).resources.Perm declared := by
  rw [ofResources, merge_of_distinct distinct]
  exact List.mergeSort_perm _ _

theorem mem_keys_merge {key : ResourceKey} : key ∈ (merge declared).map Resource.key ↔
    key ∈ declared.map Resource.key := by
  rw [List.mem_map, List.mem_map]
  constructor
  · rintro ⟨r, member, rfl⟩
    exact ⟨r, mem_of_last (mem_merge.mp member), rfl⟩
  · rintro ⟨r, member, rfl⟩
    obtain ⟨s, last, same⟩ := exists_last member
    exact ⟨s, mem_merge.mpr last, same⟩

theorem keys_ofResources (declared : List Resource) :
    ((ofResources declared).resources.map Resource.key).Perm (declared.map Resource.key).dedup := by
  refine (List.perm_ext_iff_of_nodup (ofResources_distinct declared) (List.nodup_dedup _)).mpr ?_
  intro key
  have sorted := (List.mergeSort_perm (merge declared) fun a b => a.precedence ≤ b.precedence).map
    Resource.key
  exact sorted.mem_iff.trans (mem_keys_merge.trans List.mem_dedup.symm)

theorem precedence_trans (a b c : Resource) (first : decide (a.precedence ≤ b.precedence) = true)
    (second : decide (b.precedence ≤ c.precedence) = true) :
    decide (a.precedence ≤ c.precedence) = true :=
  decide_eq_true (Nat.le_trans (of_decide_eq_true first) (of_decide_eq_true second))

theorem precedence_total (a b : Resource) :
    (decide (a.precedence ≤ b.precedence) || decide (b.precedence ≤ a.precedence)) = true := by
  simpa using Nat.le_total _ _

theorem ofResources_sorted (declared : List Resource) :
    (ofResources declared).resources.Pairwise fun a b => a.precedence ≤ b.precedence :=
  (List.pairwise_mergeSort precedence_trans precedence_total (merge declared)).imp of_decide_eq_true

theorem flatten_tiers (m : Manifest) : m.tiers.flatten = m.resources := List.flatten_splitBy _ _

-- Level with each other: neither has to wait for the other one.
def Level (a b : Resource) : Prop := a.precedence = b.precedence

instance : Trans Level Level Level := ⟨fun one two => one.trans two⟩
instance : Std.Symm Level := ⟨fun _ _ equal => equal.symm⟩

theorem tier_level {tier : List Resource} (present : tier ∈ m.tiers) (left : r ∈ tier)
    (right : s ∈ tier) : Level r s := by
  have chain : tier.IsChain Level :=
    (List.isChain_of_mem_splitBy present).imp fun _ _ equal => eq_of_beq equal
  exact List.Pairwise.forall_of_forall (R := Level) (fun _ _ => rfl) chain.pairwise left right

-- Strictness between tiers comes from their borders and spreads inwards, as each tier is level.
theorem increase_of_borders {tiers : List (List Resource)}
    (level : ∀ tier ∈ tiers, ∀ r ∈ tier, ∀ s ∈ tier, Level r s)
    (weak : tiers.Pairwise fun a b => ∀ r ∈ a, ∀ s ∈ b, r.precedence ≤ s.precedence)
    (borders : tiers.IsChain fun a b => ∃ ha hb,
      (a.getLast ha).precedence ≠ (b.head hb).precedence) :
    tiers.Pairwise fun a b => ∀ r ∈ a, ∀ s ∈ b, r.precedence < s.precedence := by
  induction tiers with
  | nil => exact .nil
  | cons a rest ih =>
    obtain ⟨fromA, restWeak⟩ := List.pairwise_cons.mp weak
    have restLevel := fun tier member => level tier (List.mem_cons_of_mem _ member)
    refine List.pairwise_cons.mpr ⟨?_, ih restLevel restWeak borders.tail⟩
    cases rest with
    | nil => simp
    | cons b later =>
      obtain ⟨ha, hb, border⟩ := (List.isChain_cons_cons.mp borders).1
      intro tier member r inA s inTier
      have top : r.precedence < (b.head hb).precedence := by
        have same : r.precedence = _ := level a (by simp) r inA _ (List.getLast_mem ha)
        have step := fromA b (by simp) (a.getLast ha) (List.getLast_mem ha) (b.head hb)
          (List.head_mem hb)
        omega
      have up : (b.head hb).precedence ≤ s.precedence := by
        rcases List.mem_cons.mp member with rfl | far
        · exact Nat.le_of_eq (level tier (by simp) _ (List.head_mem hb) s inTier)
        · exact (List.pairwise_cons.mp restWeak).1 tier far _ (List.head_mem hb) s inTier
      exact Nat.lt_of_lt_of_le top up

theorem tiers_increase (sorted : m.resources.Pairwise fun a b => a.precedence ≤ b.precedence) :
    m.tiers.Pairwise fun a b => ∀ r ∈ a, ∀ s ∈ b, r.precedence < s.precedence := by
  rw [← flatten_tiers] at sorted
  refine increase_of_borders (fun tier present r left s right => tier_level present left right)
    (List.pairwise_flatten.mp sorted).2 ?_
  refine (List.isChain_getLast_head_splitBy _ m.resources).imp ?_
  rintro a b ⟨ha, hb, border⟩
  exact ⟨ha, hb, by simpa using border⟩

def Earlier (m : Manifest) (t r : Resource) : Prop :=
  ∃ i j : Nat, i < j ∧ (∃ tier, m.tiers[i]? = some tier ∧ t ∈ tier) ∧
    ∃ tier, m.tiers[j]? = some tier ∧ r ∈ tier

theorem Earlier.present (earlier : m.Earlier t r) : t ∈ m.resources := by
  obtain ⟨i, -, -, ⟨tier, found, member⟩, -⟩ := earlier
  rw [← flatten_tiers]
  exact List.mem_flatten.mpr ⟨tier, List.mem_of_getElem? found, member⟩

theorem Earlier.below (sorted : m.resources.Pairwise fun a b => a.precedence ≤ b.precedence)
    (earlier : m.Earlier t r) : t.precedence < r.precedence := by
  obtain ⟨i, j, before, ⟨a, atI, inA⟩, b, atJ, inB⟩ := earlier
  obtain ⟨boundI, rfl⟩ := List.getElem?_eq_some_iff.mp atI
  obtain ⟨boundJ, rfl⟩ := List.getElem?_eq_some_iff.mp atJ
  exact List.pairwise_iff_getElem.mp (tiers_increase sorted) i j boundI boundJ before t inA r inB

theorem mem_tier (present : r ∈ m.resources) :
    ∃ (i : Nat) (tier : List Resource), m.tiers[i]? = some tier ∧ r ∈ tier := by
  rw [← flatten_tiers] at present
  obtain ⟨tier, inTiers, member⟩ := List.mem_flatten.mp present
  obtain ⟨i, found⟩ := List.mem_iff_getElem?.mp inTiers
  exact ⟨i, tier, found, member⟩

theorem earlier_of_precedence
    (sorted : m.resources.Pairwise fun a b => a.precedence ≤ b.precedence)
    (first : t ∈ m.resources) (second : r ∈ m.resources) (below : t.precedence < r.precedence) :
    m.Earlier t r := by
  obtain ⟨i, a, atI, inA⟩ := mem_tier first
  obtain ⟨j, b, atJ, inB⟩ := mem_tier second
  refine ⟨i, j, ?_, ⟨a, atI, inA⟩, b, atJ, inB⟩
  rcases Nat.lt_trichotomy i j with before | same | behind
  · exact before
  · subst same
    obtain rfl := Option.some.inj (atI.symm.trans atJ)
    exact absurd (tier_level (List.mem_of_getElem? atI) inA inB) (Nat.ne_of_lt below)
  · obtain ⟨boundJ, rfl⟩ := List.getElem?_eq_some_iff.mp atJ
    obtain ⟨boundI, rfl⟩ := List.getElem?_eq_some_iff.mp atI
    have above := List.pairwise_iff_getElem.mp (tiers_increase sorted) j i boundJ boundI behind
      r inB t inA
    omega

end Rollout.Manifest
