import Mathlib.Data.List.Basic
import Rollout.FileTree

namespace Rollout.FileNode

def IsDir (root : FileNode) (names : List String) : Prop :=
  ∃ entries, root.get? names = some (.dir entries)

variable {root node new : FileNode} {name : String} {names other rest : List String}

theorem get?_append (root : FileNode) (names rest : List String) :
    root.get? (names ++ rest) = (root.get? names).bind (get? rest) := by
  induction names generalizing root with
  | nil => rfl
  | cons name names ih =>
    cases root with
    | file bytes => rfl
    | link target => rfl
    | dir entries =>
      simp only [List.cons_append, get?]
      cases entries.lookup name with
      | none => rfl
      | some child => exact ih child

theorem get?_below (there : root.get? names = some node) (rest : List String) :
    root.get? (names ++ rest) = node.get? rest := by
  rw [get?_append, there]
  rfl

theorem get?_above (there : root.get? (names ++ name :: rest) = some node) : root.IsDir names := by
  rw [get?_append] at there
  obtain ⟨up, found, below⟩ := Option.bind_eq_some_iff.mp there
  cases up with
  | file bytes => cases below
  | link target => cases below
  | dir entries => exact ⟨entries, found⟩

theorem IsDir.top (dir : root.IsDir names) : root.IsDir [] := by
  cases names with
  | nil => exact dir
  | cons name rest =>
    obtain ⟨entries, there⟩ := dir
    have there : root.get? ([] ++ name :: rest) = some (.dir entries) := there
    exact get?_above there

theorem up_of_get? (there : root.get? names = some node) :
    names = [] ∨ root.IsDir names.dropLast := by
  rcases List.eq_nil_or_concat names with rfl | ⟨up, name, rfl⟩
  · exact .inl rfl
  · rw [List.concat_eq_append] at there ⊢
    rw [List.dropLast_concat]
    exact .inr (get?_above there)

theorem IsDir.dropLast (dir : root.IsDir names) : root.IsDir names.dropLast := by
  obtain ⟨entries, there⟩ := dir
  rcases up_of_get? there with rfl | up
  · exact ⟨entries, there⟩
  · exact up

theorem get?_insert_self (up : names = [] ∨ root.IsDir names.dropLast) :
    (insert new names root).get? names = some new := by
  induction names generalizing root with
  | nil => cases root <;> rfl
  | cons name rest ih =>
    have dir : root.IsDir (name :: rest).dropLast := up.resolve_left (List.cons_ne_nil _ _)
    obtain ⟨entries, top⟩ := dir.top
    obtain rfl : root = .dir entries := Option.some.inj top
    have here : ∀ child, (insert new rest child).get? rest = some new →
        (FileNode.dir (Declared.put name (insert new rest child) entries)).get? (name :: rest) =
          some new := by
      intro child put
      rw [get?, Declared.lookup_put, if_pos rfl]
      exact put
    refine here _ (ih ?_)
    cases rest with
    | nil => exact .inl rfl
    | cons next rest =>
      right
      obtain ⟨inner, there⟩ := dir
      rw [List.dropLast_cons_cons, get?] at there
      obtain ⟨child, found, below⟩ := Option.bind_eq_some_iff.mp there
      rw [found]
      exact ⟨inner, below⟩

theorem get?_insert_apart (there : root.get? other = some node) (apart : ¬ names <+: other) :
    (insert new names root).get? other = some node ∨
      (∃ entries, node = .dir entries) ∧ (insert new names root).IsDir other := by
  induction names generalizing root other with
  | nil => exact absurd List.nil_prefix apart
  | cons name rest ih =>
    cases root with
    | file bytes => exact .inl there
    | link target => exact .inl there
    | dir entries =>
      cases other with
      | nil =>
        obtain rfl := Option.some.inj there
        exact .inr ⟨⟨entries, rfl⟩, _, rfl⟩
      | cons first other =>
        rw [get?] at there
        obtain ⟨child, found, below⟩ := Option.bind_eq_some_iff.mp there
        by_cases same : first = name
        · subst same
          have step : (insert new (first :: rest) (.dir entries)).get? (first :: other) =
              (insert new rest child).get? other := by
            rw [insert, get?, Declared.lookup_put, if_pos rfl, found]
            rfl
          unfold IsDir
          rw [step]
          exact ih below fun inside => apart (List.cons_prefix_cons.mpr ⟨rfl, inside⟩)
        · left
          rw [insert, get?, Declared.lookup_put, if_neg same, found]
          exact below

-- What is left of a tree: directories, links, and files, of which the kept ones are unchanged.
structure Keeps (kept : List String → Prop) (before after : FileNode) : Prop where
  dirs : ∀ names, before.IsDir names → after.IsDir names
  links : ∀ names target, before.get? names = some (.link target) →
    after.get? names = some (.link target)
  files : ∀ names bytes, before.get? names = some (.file bytes) →
    ∃ bytes', after.get? names = some (.file bytes') ∧ (kept names → bytes' = bytes)

variable {kept : List String → Prop} {first second third : FileNode}

theorem Keeps.refl (kept : List String → Prop) (root : FileNode) : Keeps kept root root :=
  ⟨fun _ dir => dir, fun _ _ link => link, fun _ bytes file => ⟨bytes, file, fun _ => rfl⟩⟩

theorem Keeps.trans (here : Keeps kept first second) (there : Keeps kept second third) :
    Keeps kept first third := by
  refine ⟨?_, ?_, ?_⟩
  · intro names dir
    exact there.dirs names (here.dirs names dir)
  · intro names target link
    exact there.links names target (here.links names target link)
  · intro names bytes file
    obtain ⟨middle, file', same⟩ := here.files names bytes file
    obtain ⟨last, file'', same'⟩ := there.files names middle file'
    exact ⟨last, file'', fun kept => (same' kept).trans (same kept)⟩

theorem Keeps.weaken {kept' : List String → Prop} (keeps : Keeps kept first second)
    (fewer : ∀ names, kept' names → kept names) : Keeps kept' first second := by
  refine ⟨keeps.dirs, keeps.links, ?_⟩
  intro names bytes file
  obtain ⟨bytes', file', same⟩ := keeps.files names bytes file
  exact ⟨bytes', file', fun kept => same (fewer names kept)⟩

-- Nothing is below a place that is free or a file's, so every other node is apart from it.
theorem get?_insert_other (bare : ∀ old, root.get? names = some old → ∃ bytes, old = .file bytes)
    (there : root.get? other = some node) (different : other ≠ names) :
    (insert new names root).get? other = some node ∨
      (∃ entries, node = .dir entries) ∧ (insert new names root).IsDir other := by
  refine get?_insert_apart there ?_
  rintro ⟨rest, rfl⟩
  cases rest with
  | nil => exact different (List.append_nil names)
  | cons name rest =>
    obtain ⟨entries, dir⟩ := get?_above there
    obtain ⟨bytes, file⟩ := bare _ dir
    cases file

-- A new node keeps all else if it comes to a free place, or as a file to that of a file.
theorem keeps_insert (place : ∀ old, root.get? names = some old →
    (∃ bytes, old = .file bytes) ∧ (∃ bytes, new = .file bytes) ∧ ¬ kept names) :
    Keeps kept root (insert new names root) := by
  have bare : ∀ old, root.get? names = some old → ∃ bytes, old = .file bytes :=
    fun old there => (place old there).1
  refine ⟨?_, ?_, ?_⟩
  · rintro other ⟨entries, there⟩
    have different : other ≠ names := by
      rintro rfl
      obtain ⟨bytes, file⟩ := bare _ there
      cases file
    rcases get?_insert_other bare there different with same | ⟨-, dir⟩
    · exact ⟨entries, same⟩
    · exact dir
  · intro other target there
    have different : other ≠ names := by
      rintro rfl
      obtain ⟨bytes, file⟩ := bare _ there
      cases file
    rcases get?_insert_other bare there different with same | ⟨⟨entries, dir⟩, -⟩
    · exact same
    · cases dir
  · intro other content there
    by_cases same : other = names
    · subst same
      obtain ⟨-, ⟨bytes, rfl⟩, unkept⟩ := place _ there
      exact ⟨bytes, get?_insert_self (up_of_get? there), fun kept => absurd kept unkept⟩
    · rcases get?_insert_other bare there same with same | ⟨⟨entries, dir⟩, -⟩
      · exact ⟨content, same, fun _ => rfl⟩
      · cases dir

theorem keeps_insert_free (free : root.get? names = none) :
    Keeps kept root (insert new names root) := by
  refine keeps_insert ?_
  intro old there
  rw [free] at there
  cases there

theorem keeps_insert_file {old bytes : List UInt8} (file : root.get? names = some (.file old)) :
    Keeps (· ≠ names) root (insert (.file bytes) names root) := by
  refine keeps_insert ?_
  intro node there
  rw [file] at there
  exact ⟨⟨old, (Option.some.inj there).symm⟩, ⟨bytes, rfl⟩, fun kept => kept rfl⟩

def Childless (node : FileNode) : Prop := ∀ name rest, node.get? (name :: rest) = none

theorem childless_file (bytes : List UInt8) : (FileNode.file bytes).Childless := fun _ _ => rfl

theorem childless_dir : (FileNode.dir []).Childless := fun _ _ => rfl

theorem file_of_insert {bytes : List UInt8} (childless : new.Childless)
    (there : (insert new names root).get? other = some (.file bytes)) (different : other ≠ names) :
    root.get? other = some (.file bytes) := by
  induction names generalizing root other with
  | nil =>
    obtain ⟨name, rest, rfl⟩ := List.exists_cons_of_ne_nil different
    have top : insert new [] root = new := by cases root <;> rfl
    rw [top, childless name rest] at there
    cases there
  | cons name rest ih =>
    cases root with
    | file content => exact there
    | link target => exact there
    | dir entries =>
      cases other with
      | nil => cases there
      | cons first other =>
        rw [insert, get?, Declared.lookup_put] at there
        rw [get?]
        split at there
        · next same =>
          subst same
          have different : other ≠ rest := fun same => different (same ▸ rfl)
          have below := ih there different
          cases found : entries.lookup first with
          | none =>
            rw [found] at below
            cases other with
            | nil => cases below
            | cons next other => cases below
          | some child =>
            rw [found] at below
            exact below
        · exact there

-- The same files with the same bytes, but for some places.
def SameFiles (but : List String → Prop) (before after : FileNode) : Prop :=
  ∀ names bytes, ¬ but names →
    (after.get? names = some (.file bytes) ↔ before.get? names = some (.file bytes))

variable {but : List String → Prop}

theorem SameFiles.refl (but : List String → Prop) (root : FileNode) : SameFiles but root root :=
  fun _ _ _ => Iff.rfl

theorem SameFiles.trans (here : SameFiles but first second) (there : SameFiles but second third) :
    SameFiles but first third :=
  fun names bytes out => (there names bytes out).trans (here names bytes out)

theorem SameFiles.weaken {but' : List String → Prop} (same : SameFiles but first second)
    (more : ∀ names, but names → but' names) : SameFiles but' first second :=
  fun names bytes out => same names bytes fun inside => out (more names inside)

theorem sameFiles_insert (childless : new.Childless)
    (bare : ∀ old, root.get? names = some old → ∃ bytes, old = .file bytes) :
    SameFiles (· = names) root (insert new names root) := by
  intro other bytes different
  constructor
  · intro there
    exact file_of_insert childless there different
  · intro there
    rcases get?_insert_other bare there different with same | ⟨⟨entries, dir⟩, -⟩
    · exact same
    · cases dir

theorem sameFiles_insert_dir (free : root.get? names = none) (but : List String → Prop)
    (up : names = [] ∨ root.IsDir names.dropLast) :
    SameFiles but root (insert (.dir []) names root) := by
  have bare : ∀ old, root.get? names = some old → ∃ bytes, old = .file bytes := by
    intro old there
    rw [free] at there
    cases there
  intro other bytes _
  by_cases same : other = names
  · subst same
    rw [get?_insert_self up, free]
    exact ⟨nofun, nofun⟩
  · exact sameFiles_insert childless_dir bare other bytes same

end Rollout.FileNode
