import Rollout.Proofs.Definition.Dockerfile

namespace Rollout.Fingerprint

open FileNode

variable {s t : FileNode} {path : List String} {bytes : List UInt8}

theorem sortByName_ascending {α : Type} {entries : List (String × α)}
    (distinct : (Declared.names entries).Nodup) :
    (sortByName entries).Pairwise fun a b => a.1 < b.1 := by
  have sorted : (sortByName entries).Pairwise fun a b => (!decide (b.1 < a.1)) = true := by
    refine List.pairwise_mergeSort ?_ ?_ entries
    · intro a b c before after
      simp only [Bool.not_eq_true', decide_eq_false_iff_not, Std.not_lt] at before after ⊢
      exact Std.le_trans before after
    · intro a b
      simp only [Bool.or_eq_true, Bool.not_eq_true', decide_eq_false_iff_not, Std.not_lt]
      exact Std.le_total
  have apart : (sortByName entries).Pairwise fun a b => a.1 ≠ b.1 :=
    List.pairwise_map.mp (((List.mergeSort_perm entries _).map Prod.fst).nodup_iff.mpr distinct)
  refine (sorted.and apart).imp ?_
  rintro a b ⟨notAfter, different⟩
  simp only [Bool.not_eq_true', decide_eq_false_iff_not, Std.not_lt] at notAfter
  exact Std.lt_of_le_of_ne notAfter different

theorem walkEntries_names (entries : List (String × FileNode)) :
    Declared.names (walkEntries entries) = Declared.names entries := by
  induction entries with
  | nil => rfl
  | cons entry rest ih =>
    obtain ⟨name, node⟩ := entry
    cases node with
    | file bytes => exact congrArg (name :: ·) ih
    | dir below => exact congrArg (name :: ·) ih
    | link target => exact congrArg (name :: ·) ih

mutual
theorem walk_ascending : ∀ node : FileNode, node.Distinct →
    (walk node).Pairwise fun f g => f.1 < g.1
  | .file bytes, _ => List.pairwise_singleton _ _
  | .link _, _ => List.Pairwise.nil
  | .dir entries, distinct => by
    rw [Distinct] at distinct
    have names : (Declared.names (walkEntries entries)).Nodup := by
      rw [walkEntries_names]
      exact distinct.1
    unfold walk
    refine List.pairwise_flatMap.mpr ⟨?_, (sortByName_ascending names).imp ?_⟩
    · rintro ⟨name, found⟩ member
      have member := List.mem_mergeSort.mp member
      have below := walkEntries_ascending entries distinct.2 (name, found) member
      exact List.pairwise_map.mpr (below.imp List.Lex.cons)
    · -- Two files of different entries are in the order of the entries.
      rintro ⟨name, found⟩ ⟨name', found'⟩ before f inFound g inFound'
      obtain ⟨⟨path, bytes⟩, -, rfl⟩ := List.mem_map.mp inFound
      obtain ⟨⟨path', bytes'⟩, -, rfl⟩ := List.mem_map.mp inFound'
      exact List.Lex.rel before
theorem walkEntries_ascending : ∀ entries : List (String × FileNode), DistinctEntries entries →
    ∀ found ∈ walkEntries entries, found.2.Pairwise fun f g => f.1 < g.1
  | [], _, found, member => by cases member
  | (name, .dir below) :: rest, distinct, found, member => by
    rw [DistinctEntries] at distinct
    unfold walkEntries at member
    rcases List.mem_cons.mp member with rfl | later
    · dsimp only
      split
      · exact List.Pairwise.nil
      · exact walk_ascending (.dir below) distinct.1
    · exact walkEntries_ascending rest distinct.2 found later
  | (name, .file bytes) :: rest, distinct, found, member => by
    rw [DistinctEntries] at distinct
    unfold walkEntries at member
    rcases List.mem_cons.mp member with rfl | later
    · exact walk_ascending (.file bytes) distinct.1
    · exact walkEntries_ascending rest distinct.2 found later
  | (name, .link target) :: rest, distinct, found, member => by
    rw [DistinctEntries] at distinct
    unfold walkEntries at member
    rcases List.mem_cons.mp member with rfl | later
    · exact walk_ascending (.link target) distinct.1
    · exact walkEntries_ascending rest distinct.2 found later
end

-- A regular file with no skipped directory between the root and itself, whatever its own name is.
def Source (root : FileNode) (path : List String) (bytes : List UInt8) : Prop :=
  root.get? path = some (.file bytes) ∧
    ∀ dir ∈ path.dropLast, dir ∉ [".git", "log", "tmp", "node_modules"]

theorem seen_iff : seen path = true ↔
    ∀ dir ∈ path.dropLast, dir ∉ [".git", "log", "tmp", "node_modules"] := by
  simp [seen, skippedDirs]

theorem source_iff_mem (distinct : s.Distinct) :
    Source s path bytes ↔ (path, bytes) ∈ s.files ∧ seen path = true := by
  rw [Source, ← seen_iff]
  exact and_congr_left fun _ => ⟨mem_files_of_get?, get?_of_mem_files distinct⟩

theorem mem_walk_iff (distinct : s.Distinct) : (path, bytes) ∈ walk s ↔ Source s path bytes := by
  rw [mem_walk, source_iff_mem distinct]

theorem walk_eq (distinct : s.Distinct) (distinct' : t.Distinct)
    (same : ∀ path bytes, Source s path bytes ↔ Source t path bytes) : walk s = walk t := by
  have ascending := walk_ascending s distinct
  have ascending' := walk_ascending t distinct'
  have once : ∀ {files : List (List String × List UInt8)},
      files.Pairwise (fun f g => f.1 < g.1) → files.Nodup := by
    intro files order
    refine order.imp ?_
    rintro f g before rfl
    exact List.lt_irrefl f.1 before
  have members : (walk s).Perm (walk t) := by
    refine (List.perm_ext_iff_of_nodup (once ascending) (once ascending')).mpr ?_
    rintro ⟨path, bytes⟩
    rw [mem_walk_iff distinct, mem_walk_iff distinct']
    exact same path bytes
  refine members.eq_of_pairwise ?_ ascending ascending'
  intro f g _ _ before after
  exact absurd after (List.lt_asymm before)

-- The stream holds the path and the bytes of every source, in the order of the paths. The root is
-- wherever the path leads, whatever the name of that directory is.
theorem context_of_sources {host host' : Host} {dir dir' : String}
    (there : host.files.node dir = .ok s) (there' : host'.files.node dir' = .ok t)
    (distinct : s.Distinct) (distinct' : t.Distinct) :
    (∃ files, ofContext host dir = .ok (ofBytes (frame files)) ∧
        frame files =
          files.flatMap (fun f => Utf8.encode ("/".intercalate f.1) ++ 0 :: f.2 ++ [0]) ∧
        files.Pairwise (fun f g => f.1 < g.1) ∧
        (∀ path bytes, (path, bytes) ∈ files ↔ Source s path bytes) ∧
        ∀ above name bytes, (∀ dir ∈ above, dir ∉ [".git", "log", "tmp", "node_modules"]) →
          s.get? (above ++ [name]) = some (.file bytes) → (above ++ [name], bytes) ∈ files) ∧
      ((∀ path bytes, Source s path bytes ↔ Source t path bytes) →
        ofContext host dir = ofContext host' dir') := by
  refine ⟨⟨walk s, ofContext_node there, rfl, walk_ascending s distinct,
    fun path bytes => mem_walk_iff distinct, ?_⟩, ?_⟩
  · intro above name bytes outside file
    refine (mem_walk_iff distinct).mpr ⟨file, ?_⟩
    rw [List.dropLast_concat]
    exact outside
  · intro same
    rw [ofContext_node there, ofContext_node there', walk_eq distinct distinct' same]

def plainShed : FileNode :=
  .dir [("log", .file [76]), ("lib", .dir [("rake", .file [114, 107])])]

def usedShed : FileNode :=
  .dir [("current", .link "lib"), ("lib", .dir [("rake", .file [114, 107]),
      ("tmp", .dir [("cache", .dir [("page", .file [60])])])]),
    ("pids", .dir []), ("log", .file [76])]

theorem plainShed_distinct : plainShed.Distinct := by
  simp [plainShed, Distinct, DistinctEntries, Declared.names]

theorem usedShed_distinct : usedShed.Distinct := by
  simp [usedShed, Distinct, DistinctEntries, Declared.names]

theorem sheds_same_sources (path : List String) (bytes : List UInt8) :
    Source plainShed path bytes ↔ Source usedShed path bytes := by
  have same : (plainShed.files.filter fun f => seen f.1).Perm
      (usedShed.files.filter fun f => seen f.1) := by decide +kernel
  have member := same.mem_iff (a := (path, bytes))
  rw [List.mem_filter, List.mem_filter] at member
  rw [source_iff_mem plainShed_distinct, source_iff_mem usedShed_distinct]
  exact member

theorem shed_of_sources :
    (∃ files, ofContext ⟨[], ⟨.dir [("tmp", usedShed)], [], []⟩⟩ "tmp" = .ok (ofBytes (frame files)) ∧
        (["log"], [76]) ∈ files ∧ (["lib", "tmp", "cache", "page"], [60]) ∉ files) ∧
      ofContext ⟨[], ⟨.dir [("tmp", usedShed)], [], []⟩⟩ "tmp" =
        ofContext ⟨[], ⟨.dir [("shed", plainShed)], [], []⟩⟩ "shed" := by
  have there : (⟨[], ⟨.dir [("tmp", usedShed)], [], []⟩⟩ : Host).files.node "tmp" = .ok usedShed := rfl
  have there' : (⟨[], ⟨.dir [("shed", plainShed)], [], []⟩⟩ : Host).files.node "shed" =
      .ok plainShed := rfl
  obtain ⟨⟨files, fingerprint, -, -, sources, named⟩, same⟩ :=
    context_of_sources there there' usedShed_distinct plainShed_distinct
  refine ⟨⟨files, fingerprint, named [] "log" [76] (by simp) rfl, ?_⟩, same fun path bytes => ?_⟩
  · intro cached
    have outside := ((sources _ _).mp cached).2 "tmp"
    simp at outside
  · exact (sheds_same_sources path bytes).symm

end Rollout.Fingerprint
