import Mathlib.Data.List.Induction
import Mathlib.Data.List.Pairwise
import Rollout.Proofs.Manifest.Merge

namespace Rollout.Manifest

variable {declared other rs rs' : List Resource} {m : Manifest} {r s : Resource} {rank : Nat}
variable {key : ResourceKey}

theorem precedence_of_key (same : r.key = s.key) : r.precedence = s.precedence :=
  congrArg Resource.precedenceOf (congrArg ResourceKey.kind same)

def ofRank (rank : Nat) (rs : List Resource) : List Resource := rs.filter fun r => r.precedence = rank

theorem ofRank_cons : ofRank rank (r :: rs) =
    if r.precedence = rank then r :: ofRank rank rs else ofRank rank rs := by
  by_cases here : r.precedence = rank <;> simp [ofRank, here]

theorem ofRank_append (rs rs' : List Resource) :
    ofRank rank (rs ++ rs') = ofRank rank rs ++ ofRank rank rs' :=
  List.filter_append rs rs'

theorem mem_ofRank : r ∈ ofRank rank rs ↔ r ∈ rs ∧ r.precedence = rank := by
  simp [ofRank]

theorem ofRank_putResource (r : Resource) (rs : List Resource) : ofRank rank (putResource r rs) =
    if r.precedence = rank then putResource r (ofRank rank rs) else ofRank rank rs := by
  induction rs with
  | nil => rw [putResource, ofRank_cons]; rfl
  | cons head rest ih =>
    by_cases same : head.key = r.key
    · have level := precedence_of_key same
      by_cases here : r.precedence = rank
      · simp [putResource, same, ofRank_cons, here, level]
      · simp [putResource, same, ofRank_cons, here, level]
    · by_cases here : r.precedence = rank
      · by_cases there : head.precedence = rank
        · simp [putResource, same, ofRank_cons, here, there, ih]
        · simp [putResource, same, ofRank_cons, here, there, ih]
      · simp [putResource, same, ofRank_cons, here, ih]

theorem ofRank_merge (declared : List Resource) :
    ofRank rank (merge declared) = merge (ofRank rank declared) := by
  induction declared using List.reverseRecOn with
  | nil => rfl
  | append_singleton earlier r ih =>
    rw [merge_snoc, ofRank_putResource, ih, ofRank_append, ofRank_cons]
    split
    · exact merge_snoc.symm
    · exact congrArg merge (List.append_nil _).symm

theorem ofRank_mergeSort (rs : List Resource) :
    ofRank rank (rs.mergeSort fun a b => a.precedence ≤ b.precedence) = ofRank rank rs := by
  have level : (ofRank rank rs).Pairwise fun a b => decide (a.precedence ≤ b.precedence) = true :=
    List.pairwise_of_forall_mem_list fun a left b right => by
      simp [(mem_ofRank.mp left).2, (mem_ofRank.mp right).2]
  have inside := List.sublist_mergeSort precedence_trans precedence_total level List.filter_sublist
  have kept : (ofRank rank rs).Sublist
      (ofRank rank (rs.mergeSort fun a b => a.precedence ≤ b.precedence)) := by
    simpa [ofRank] using inside.filter fun r => r.precedence = rank
  have sorted := List.mergeSort_perm rs fun a b => a.precedence ≤ b.precedence
  exact (kept.eq_of_length (sorted.filter _).length_eq.symm).symm

theorem ofRank_ofResources (declared : List Resource) :
    ofRank rank (ofResources declared).resources = merge (ofRank rank declared) := by
  rw [ofResources, ofRank_mergeSort, ofRank_merge]

theorem head_of_ranks (sorted : (r :: rs).Pairwise fun a b => a.precedence ≤ b.precedence)
    (sorted' : (s :: rs').Pairwise fun a b => a.precedence ≤ b.precedence)
    (same : ∀ rank, ofRank rank (r :: rs) = ofRank rank (s :: rs')) : r = s := by
  have below : ∀ {a b : Resource} {as bs : List Resource},
      (b :: bs).Pairwise (fun a b => a.precedence ≤ b.precedence) →
      ofRank a.precedence (a :: as) = ofRank a.precedence (b :: bs) →
      b.precedence ≤ a.precedence := by
    intro a b as bs ordered equal
    have present : a ∈ ofRank a.precedence (b :: bs) := equal ▸ mem_ofRank.mpr ⟨by simp, rfl⟩
    rcases List.mem_cons.mp (mem_ofRank.mp present).1 with rfl | later
    · exact Nat.le_refl _
    · exact (List.pairwise_cons.mp ordered).1 a later
  have level : r.precedence = s.precedence :=
    Nat.le_antisymm (below sorted (same _).symm) (below sorted' (same _))
  have heads := same r.precedence
  rw [ofRank_cons, ofRank_cons, if_pos rfl, if_pos level.symm] at heads
  exact (List.cons.inj heads).1

theorem eq_of_ranks (sorted : rs.Pairwise fun a b => a.precedence ≤ b.precedence)
    (sorted' : rs'.Pairwise fun a b => a.precedence ≤ b.precedence)
    (same : ∀ rank, ofRank rank rs = ofRank rank rs') : rs = rs' := by
  induction rs generalizing rs' with
  | nil =>
    cases rs' with
    | nil => rfl
    | cons s rest =>
      have present : s ∈ ofRank s.precedence [] := same _ ▸ mem_ofRank.mpr ⟨by simp, rfl⟩
      cases present
  | cons r rest ih =>
    cases rs' with
    | nil =>
      have present : r ∈ ofRank r.precedence [] := same _ ▸ mem_ofRank.mpr ⟨by simp, rfl⟩
      cases present
    | cons s rest' =>
      obtain rfl := head_of_ranks sorted sorted' same
      refine congrArg (r :: ·) (ih sorted.of_cons sorted'.of_cons fun rank => ?_)
      have equal := same rank
      rw [ofRank_cons, ofRank_cons] at equal
      split at equal
      · exact (List.cons.inj equal).2
      · exact equal

theorem ofResources_of_ranks (same : ∀ rank, merge (ofRank rank other) = merge (ofRank rank declared)) :
    ofResources other = ofResources declared :=
  congrArg Manifest.mk (eq_of_ranks (ofResources_sorted other) (ofResources_sorted declared)
    fun rank => by
      have equal := same rank
      rwa [← ofRank_ofResources, ← ofRank_ofResources] at equal)

theorem merge_append (declared more : List Resource) :
    merge (declared ++ more) = more.foldl (fun acc r => putResource r acc) (merge declared) :=
  List.foldl_append

theorem merge_merge_append (declared more : List Resource) :
    merge (merge declared ++ more) = merge (declared ++ more) := by
  rw [merge_append, merge_append, merge_of_distinct (merge_distinct declared)]

-- The last declaration of a key.
def declaration? (declared : List Resource) (key : ResourceKey) : Option Resource :=
  declared.reverse.find? fun r => r.key = key

theorem declaration?_eq_some : declaration? declared key = some r ↔ Last declared r ∧ r.key = key := by
  simp only [declaration?, List.find?_eq_some_iff_append, decide_eq_true_eq, Bool.not_eq_eq_eq_not,
    Bool.not_true, decide_eq_false_iff_not]
  constructor
  · rintro ⟨rfl, after, before, split, others⟩
    have back : declared = before.reverse ++ r :: after.reverse := by
      simpa using congrArg List.reverse split
    exact ⟨⟨before.reverse, after.reverse, back, fun s member => others s (by simpa using member)⟩,
      rfl⟩
  · rintro ⟨⟨before, after, rfl, alone⟩, rfl⟩
    exact ⟨rfl, after.reverse, before.reverse, by simp,
      fun s member => alone s (by simpa using member)⟩

theorem declaration?_of_mem (distinct : (declared.map Resource.key).Nodup) (present : r ∈ declared) :
    declaration? declared r.key = some r := by
  have last : Last declared r := mem_merge.mp ((merge_of_distinct distinct).symm ▸ present)
  exact declaration?_eq_some.mpr ⟨last, rfl⟩

theorem get?_eq_some (distinct : (m.resources.map Resource.key).Nodup) :
    m.get? key = some r ↔ r ∈ m.resources ∧ r.key = key := by
  constructor
  · intro found
    exact ⟨List.mem_of_find?_eq_some found, by simpa using List.find?_some found⟩
  · rintro ⟨present, rfl⟩
    obtain ⟨t, found⟩ : ∃ t, m.get? r.key = some t :=
      Option.isSome_iff_exists.mp (List.find?_isSome.mpr ⟨r, present, by simp⟩)
    have same : t.key = r.key := by simpa using List.find?_some found
    rw [found, List.inj_on_of_nodup_map distinct (List.mem_of_find?_eq_some found) present same]

theorem get?_ofResources (declared : List Resource) (key : ResourceKey) :
    (ofResources declared).get? key = declaration? declared key := by
  ext r
  rw [get?_eq_some (ofResources_distinct declared), declaration?_eq_some, mem_ofResources]

def firstPlace (declared : List Resource) (key : ResourceKey) : Nat :=
  (declared.map Resource.key).idxOf key

theorem firstPlace_snoc (known : key ∈ declared.map Resource.key) :
    firstPlace (declared ++ [r]) key = firstPlace declared key := by
  rw [firstPlace, List.map_append, List.idxOf_append_of_mem known, firstPlace]

theorem firstPlace_new (fresh : r.key ∉ declared.map Resource.key) :
    firstPlace (declared ++ [r]) r.key = declared.length := by
  rw [firstPlace, List.map_append, List.idxOf_append_of_notMem fresh]
  simp

-- Resources of one rank or not, the one whose key was declared first stands first.
theorem merge_places (declared : List Resource) : ((merge declared).map Resource.key).Pairwise
    fun a b => firstPlace declared a < firstPlace declared b := by
  induction declared using List.reverseRecOn with
  | nil => exact .nil
  | append_singleton earlier r ih =>
    have stay : ((merge earlier).map Resource.key).Pairwise
        fun a b => firstPlace (earlier ++ [r]) a < firstPlace (earlier ++ [r]) b :=
      ih.imp_of_mem fun left right before => by
        rwa [firstPlace_snoc (mem_keys_merge.mp left), firstPlace_snoc (mem_keys_merge.mp right)]
    rw [merge_snoc, keys_putResource]
    split
    · exact stay
    · next fresh =>
      refine List.pairwise_append.mpr ⟨stay, List.pairwise_singleton _ _, ?_⟩
      intro key old last new
      have known := mem_keys_merge.mp old
      rw [List.mem_singleton.mp new, firstPlace_snoc known,
        firstPlace_new fun present => fresh (mem_keys_merge.mpr present)]
      simpa [firstPlace] using List.idxOf_lt_length_of_mem known

-- `r` stands before `s`: it is of a lower rank, or of the same one with a key that was declared first.
def Precedes (declared : List Resource) (r s : Resource) : Prop :=
  r.precedence < s.precedence ∨
    (r.precedence = s.precedence ∧ firstPlace declared r.key < firstPlace declared s.key)

theorem ofResources_ordered (declared : List Resource) :
    (ofResources declared).resources.Pairwise (Precedes declared) := by
  refine List.pairwise_iff_forall_sublist.mpr fun {r s} both => ?_
  rcases Nat.lt_or_eq_of_le (List.pairwise_iff_forall_sublist.mp (ofResources_sorted declared) both)
    with below | level
  · exact .inl below
  · have ranked : [r, s].Sublist (ofRank s.precedence (merge declared)) := by
      have inRank := both.filter fun t => t.precedence = s.precedence
      rw [ofRank_merge, ← ofRank_ofResources]
      simpa [ofRank, level] using inRank
    have places := (ranked.trans List.filter_sublist).map Resource.key
    exact .inr ⟨level, List.pairwise_iff_forall_sublist.mp (merge_places declared) places⟩

-- What a manifest holds, and which declarations make the same one.
structure Arranged (declared : List Resource) (m : Manifest) : Prop where
  distinct : (m.resources.map Resource.key).Nodup
  keys : ∀ key, key ∈ m.resources.map Resource.key ↔ key ∈ declared.map Resource.key
  last : ∀ r, r ∈ m.resources ↔ Last declared r
  found : ∀ key, m.get? key = declaration? declared key
  ordered : m.resources.Pairwise (Precedes declared)
  stable : ofResources m.resources = m
  extended : ∀ more, ofResources (m.resources ++ more) = ofResources (declared ++ more)
  -- The same declarations of each rank in the same order, however they are mixed.
  reordered : ∀ other, (∀ rank, ofRank rank other = ofRank rank declared) → ofResources other = m

theorem ofResources_extended (declared more : List Resource) :
    ofResources ((ofResources declared).resources ++ more) = ofResources (declared ++ more) :=
  ofResources_of_ranks fun rank => by
    rw [ofRank_append, ofRank_append, ofRank_ofResources, merge_merge_append]

theorem ofResources_arranged (declared : List Resource) : Arranged declared (ofResources declared) where
  distinct := ofResources_distinct declared
  keys key := by rw [(keys_ofResources declared).mem_iff, List.mem_dedup]
  last r := mem_ofResources
  found := get?_ofResources declared
  ordered := ofResources_ordered declared
  stable := by simpa using ofResources_extended declared []
  extended := ofResources_extended declared
  reordered other same := ofResources_of_ranks fun rank => by rw [same]

theorem ofRank_swap (apart : r.precedence ≠ s.precedence) (rs : List Resource) (rank : Nat) :
    ofRank rank (r :: s :: rs) = ofRank rank (s :: r :: rs) := by
  by_cases here : r.precedence = rank
  · have there : s.precedence ≠ rank := fun there => apart (here.trans there.symm)
    simp only [ofRank_cons, if_pos here, if_neg there]
  · simp only [ofRank_cons, if_neg here]

def stallSecret (name : String) : Resource := .new "v1" "Secret" name (some "stall")
def stallIngress : Resource := .new "networking.k8s.io/v1" "Ingress" "web" (some "stall")
def stallSecretAgain : Resource := (stallSecret "b").withField "type" (.string "Opaque")

-- A secret that is declared twice, with resources of other ranks around it.
theorem stall_arranged :
    ofResources [stallSecret "b", stallIngress, stallSecret "a", stallSecretAgain] =
        ofResources [stallIngress, stallSecret "b", stallSecret "a", stallSecretAgain] ∧
      (ofResources [stallIngress, stallSecret "b", stallSecret "a", stallSecretAgain]).get?
          ⟨"Secret", some "stall", "b"⟩ = some stallSecretAgain := by
  have arranged := ofResources_arranged
    [stallIngress, stallSecret "b", stallSecret "a", stallSecretAgain]
  exact ⟨arranged.reordered _ fun rank => (ofRank_swap (by decide) _ rank).symm,
    (arranged.found _).trans rfl⟩

end Rollout.Manifest
