import Rollout.Proofs.FileTree.Following

namespace Rollout.FileTree

open FileNode

variable {tree before after first second third : FileTree} {path : String} {names : List String}
  {place : Place} {bytes : List UInt8} {kept : List String → Prop}

theorem locate_iff : tree.locate path = .ok place ↔
    path.isEmpty = false ∧ tree.root.IsDir (tree.origin path) ∧
      Leads tree.root linkLimit (tree.origin path) (Path.pieces path) place := by
  constructor
  · intro located
    unfold locate at located
    split at located
    · cases located
    · next some =>
      split at located
      · next entries dir =>
        exact ⟨Bool.not_eq_true _ ▸ some, ⟨entries, dir⟩, .of_follow located⟩
      · cases located
  · rintro ⟨some, ⟨entries, dir⟩, leads⟩
    rw [locate, some, if_neg Bool.false_ne_true, dir]
    exact leads.follow

theorem read_iff : tree.read path = .ok bytes ↔
    ∃ names, tree.locate path = .ok (.present names) ∧
      tree.root.get? names = some (.file bytes) := by
  constructor
  · intro read
    unfold FileTree.read node at read
    cases located : tree.locate path with
    | error e => simp [located] at read
    | ok place =>
      cases place with
      | vacant names => simp [located] at read
      | present names =>
        cases there : tree.root.get? names with
        | none => simp [located, there] at read
        | some node =>
          cases node with
          | dir entries => simp [located, there] at read
          | link target => simp [located, there] at read
          | file content =>
            simp only [located, there, Except.ok.injEq] at read
            exact ⟨names, rfl, read ▸ there⟩
  · rintro ⟨names, located, there⟩
    simp [FileTree.read, node, located, there]

theorem present_of_file (read : tree.read path = .ok bytes) : tree.present path = true := by
  obtain ⟨names, located, there⟩ := read_iff.mp read
  simp [FileTree.present, node, located, there, Except.isOk, Except.toBool]

structure Keeps (kept : List String → Prop) (before after : FileTree) : Prop where
  workingDir : after.workingDir = before.workingDir
  nodes : FileNode.Keeps kept before.root after.root

theorem Keeps.refl (kept : List String → Prop) (tree : FileTree) : Keeps kept tree tree :=
  ⟨rfl, .refl kept tree.root⟩

theorem Keeps.trans (here : Keeps kept first second) (there : Keeps kept second third) :
    Keeps kept first third :=
  ⟨there.workingDir.trans here.workingDir, here.nodes.trans there.nodes⟩

theorem Keeps.weaken {kept' : List String → Prop} (keeps : Keeps kept before after)
    (fewer : ∀ names, kept' names → kept names) : Keeps kept' before after :=
  ⟨keeps.workingDir, keeps.nodes.weaken fewer⟩

theorem Keeps.origin (keeps : Keeps kept before after) (path : String) :
    after.origin path = before.origin path := by
  rw [FileTree.origin, FileTree.origin, keeps.workingDir]

theorem Keeps.locate (keeps : Keeps kept before after)
    (located : before.locate path = .ok (.present names)) :
    after.locate path = .ok (.present names) := by
  obtain ⟨some, dir, leads⟩ := locate_iff.mp located
  refine locate_iff.mpr ⟨some, ?_, ?_⟩
  · rw [keeps.origin]
    exact keeps.nodes.dirs _ dir
  · rw [keeps.origin]
    exact leads.remains keeps.nodes

theorem Keeps.read (keeps : Keeps kept before after) (read : before.read path = .ok bytes)
    (same : ∀ names, after.locate path = .ok (.present names) → kept names) :
    after.read path = .ok bytes := by
  obtain ⟨names, located, there⟩ := read_iff.mp read
  have located' := keeps.locate located
  obtain ⟨content, there', unchanged⟩ := keeps.nodes.files names bytes there
  rw [unchanged (same names located')] at there'
  exact read_iff.mpr ⟨names, located', there'⟩

theorem unlocked_ok {changed : FileNode} (done : tree.unlocked names changed = .ok after) :
    after = { tree with root := changed } := by
  unfold unlocked at done
  split at done
  · cases done
  · exact (Except.ok.inj done).symm

theorem write_parts (written : tree.write path bytes = .ok after) :
    ∃ names, Keeps (· ≠ names) tree after ∧ SameFiles (· = names) tree.root after.root ∧
      after.locate path = .ok (.present names) ∧
      after.root.get? names = some (.file bytes) := by
  unfold write at written
  split at written
  · next names located =>
    obtain rfl := unlocked_ok written
    obtain ⟨some, dir, leads⟩ := locate_iff.mp located
    obtain ⟨free, up⟩ : tree.root.get? names = none ∧ _ := leads.found dir
    have keeps : FileNode.Keeps (· ≠ names) tree.root (insert (.file bytes) names tree.root) :=
      keeps_insert_free free
    have there : (insert (.file bytes) names tree.root).get? names = Option.some (.file bytes) :=
      get?_insert_self up
    refine ⟨names, ⟨rfl, keeps⟩, sameFiles_insert (childless_file bytes) ?_, ?_, there⟩
    · intro old was
      rw [free] at was
      cases was
    · exact locate_iff.mpr ⟨some, keeps.dirs _ dir, leads.filled keeps there⟩
  · next names located =>
    split at written
    · next old was =>
      obtain rfl := unlocked_ok written
      have keeps : FileNode.Keeps (· ≠ names) tree.root (insert (.file bytes) names tree.root) :=
        keeps_insert_file was
      have kept : Keeps (· ≠ names) tree
          { tree with root := insert (.file bytes) names tree.root } := ⟨rfl, keeps⟩
      refine ⟨names, kept, sameFiles_insert (childless_file bytes) ?_, kept.locate located,
        get?_insert_self (up_of_get? was)⟩
      intro node there
      rw [was] at there
      exact ⟨old, (Option.some.inj there).symm⟩
    · cases written
  · cases written

theorem write_read (written : tree.write path bytes = .ok after) :
    after.read path = .ok bytes := by
  obtain ⟨names, -, -, located, there⟩ := write_parts written
  exact read_iff.mpr ⟨names, located, there⟩

-- A file that is there already cannot be written if it is locked, and for no other reason.
theorem write_failed {e : FileError} (failed : tree.write path bytes = .error e)
    {content : List UInt8} (read : tree.read path = .ok content) :
    e = .denied ∧ ∃ names ∈ tree.locked, tree.locate path = .ok (.present names) := by
  obtain ⟨names, located, there⟩ := read_iff.mp read
  simp only [write, located, there, unlocked, List.contains_iff_mem] at failed
  split at failed
  · next held => exact ⟨(Except.error.inj failed).symm, names, held, located⟩
  · cases failed

theorem makeDir_parts (made : tree.makeDir path = .ok after) :
    ∃ names, Found tree.root (.vacant names) ∧
      after = { tree with root := insert (.dir []) names tree.root } := by
  unfold makeDir at made
  dsimp only at made
  split at made
  · next names located =>
    split at made
    · cases made
    · obtain ⟨-, dir, leads⟩ := locate_iff.mp located
      exact ⟨names, leads.found dir, unlocked_ok made⟩
  · cases made
  · cases made

inductive Built (tree : FileTree) : FileTree → Prop where
  | none : Built tree tree
  | make {before after : FileTree} {path : String} (built : Built tree before)
      (made : before.makeDir path = .ok after) : Built tree after

theorem Built.trans (here : Built first second) (there : Built second third) :
    Built first third := by
  induction there with
  | none => exact here
  | make built made ih => exact .make ih made

theorem Built.keeps (built : Built before after) : Keeps kept before after := by
  induction built with
  | none => exact .refl kept before
  | make built made ih =>
    obtain ⟨names, ⟨free, -⟩, rfl⟩ := makeDir_parts made
    exact ih.trans ⟨rfl, keeps_insert_free free⟩

theorem Built.sameFiles (built : Built before after) (but : List String → Prop) :
    SameFiles but before.root after.root := by
  induction built with
  | none => exact .refl but before.root
  | make built made ih =>
    obtain ⟨names, ⟨free, up⟩, rfl⟩ := makeDir_parts made
    exact ih.trans (sameFiles_insert_dir free but up)

theorem settle_built {made : Except FileError FileTree}
    (built : ∀ after, made = .ok after → Built tree after) : Built tree (tree.settle made).2 := by
  cases made with
  | error e => exact .none
  | ok after => exact built after rfl

theorem orThere_built {made : Except FileError FileTree} (there : orThere tree path made = .ok after)
    (built : ∀ after, made = .ok after → Built tree after) : Built tree after := by
  unfold orThere at there
  split at there
  · exact built _ there
  · split at there
    · obtain rfl := Except.ok.inj there
      exact .none
    · cases there

theorem makeDirs_built (tree : FileTree) (depth : Nat) (path : String) :
    Built tree (makeDirs tree depth path).2 := by
  induction depth generalizing path with
  | zero => exact .none
  | succ depth ih =>
    unfold makeDirs
    split
    · exact .none
    · split
      · next made => exact .make .none made
      · split
        · exact .none
        · next up _ =>
          have above := ih up
          split
          · next failed =>
            rw [failed] at above
            exact above
          · next there =>
            rw [there] at above
            refine above.trans (settle_built fun after last => orThere_built last ?_)
            intro after made
            exact .make .none made
      · refine settle_built fun after last => orThere_built last ?_
        intro after none
        cases none

theorem ensureDir_built (tree : FileTree) (path : String) :
    Built tree (tree.ensureDir path).2 :=
  makeDirs_built tree _ path

end Rollout.FileTree
