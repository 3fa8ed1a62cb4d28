import Rollout.Proofs.FileTree.Writing
import Rollout.Proofs.Text.Splitting

namespace Rollout

namespace Path

variable {path up : String} {back : List Char}

theorem trimEnd_suffix (back : List Char) : trimEnd back <:+ back := by
  fun_induction trimEnd back with
  | case1 => exact List.suffix_refl _
  | case2 rest some ih => exact ih.trans (List.suffix_cons _ rest)
  | case3 rest ih => exact ih.trans (List.suffix_cons _ _)
  | case4 => exact List.suffix_refl _

theorem trimEnd_ne_nil (some : back ≠ []) : trimEnd back ≠ [] := by
  fun_induction trimEnd back with
  | case1 => exact some
  | case2 rest more ih => exact ih fun none => more (none ▸ rfl)
  | case3 rest ih => exact ih (List.cons_ne_nil _ _)
  | case4 => exact some

theorem trimEnd_parts (back : List Char) : trimEnd back = ['/'] ∨
    (trimEnd back = back ∧ back.head? ≠ some '/') ∨
      ∃ idle, back = idle ++ '/' :: trimEnd back := by
  -- The cases: the root, a slash that is cut off, a dot that is, and a text that stays.
  fun_induction trimEnd back with
  | case1 => exact .inl rfl
  | case2 rest some ih =>
    rcases ih with root | ⟨same, -⟩ | ⟨idle, parts⟩
    · exact .inl root
    · exact .inr (.inr ⟨[], by rw [same, List.nil_append]⟩)
    · exact .inr (.inr ⟨'/' :: idle, congrArg ('/' :: ·) parts⟩)
  | case3 rest ih =>
    rcases ih with root | ⟨-, notSlash⟩ | ⟨idle, parts⟩
    · exact .inl root
    · exact absurd rfl notSlash
    · exact .inr (.inr ⟨'.' :: idle, congrArg ('.' :: ·) parts⟩)
  | case4 back notRoot notSlash notDot =>
    refine .inr (.inl ⟨rfl, ?_⟩)
    intro slash
    cases back with
    | nil => cases slash
    | cons c rest =>
      obtain rfl := Option.some.inj slash
      exact notSlash rest rfl

theorem trimEnd_slash (rest : List Char) : trimEnd ('/' :: rest) = ['/'] ∨
    ∃ idle, '/' :: rest = idle ++ '/' :: trimEnd ('/' :: rest) := by
  rcases trimEnd_parts ('/' :: rest) with root | ⟨-, other⟩ | parts
  · exact .inl root
  · exact absurd rfl other
  · exact .inr parts

theorem cut_parts {cs cut rest : List Char} (whole : cs.reverse = cut ++ '/' :: rest)
    (rooted : cs ≠ ['/']) :
    ∃ tail, tail ≠ [] ∧ cs = (trimEnd ('/' :: rest)).reverse ++ tail ∧
      (trimEnd ('/' :: rest) = ['/'] ∨ ∃ more, tail = '/' :: more) := by
  rcases trimEnd_slash rest with root | ⟨idle, parts⟩
  · obtain ⟨idle, ends⟩ := trimEnd_suffix ('/' :: rest)
    rw [root] at ends ⊢
    have cs_eq : cs = '/' :: (cut ++ idle).reverse := by
      rw [← List.reverse_reverse cs, whole, ← ends]
      simp
    refine ⟨(cut ++ idle).reverse, ?_, cs_eq, .inl rfl⟩
    intro none
    rw [none] at cs_eq
    exact rooted cs_eq
  · rw [parts] at whole
    refine ⟨'/' :: (cut ++ idle).reverse, List.cons_ne_nil _ _, ?_, .inr ⟨_, rfl⟩⟩
    rw [← List.reverse_reverse cs, whole]
    simp

theorem parent_parts (above : parent? path = some up) :
    ∃ tail, tail ≠ [] ∧ path.toList = up.toList ++ tail ∧
      (up = "" ∨ up = "/" ∨ ∃ more, tail = '/' :: more) := by
  unfold parent? at above
  dsimp only at above
  split at above
  · cases above
  · cases above
  · next back notEmpty notRoot =>
    have filled : path.toList ≠ [] := fun none => notEmpty (by rw [none]; rfl)
    have rooted : path.toList ≠ ['/'] := fun root => notRoot (by rw [root]; rfl)
    have cut := (List.dropWhile_suffix fun c => decide (c ≠ '/')).trans
      (trimEnd_suffix path.toList.reverse)
    have first := List.head?_dropWhile_not (fun c => decide (c ≠ '/')) (trimEnd path.toList.reverse)
    split at above
    · obtain rfl := Option.some.inj above
      exact ⟨path.toList, filled, rfl, .inl rfl⟩
    · next some =>
      obtain ⟨c, rest, dropped⟩ := List.exists_cons_of_ne_nil some
      rw [dropped] at above first cut
      obtain rfl : c = '/' := by simpa using first
      obtain rfl := Option.some.inj above
      obtain ⟨dropped, whole⟩ := cut
      obtain ⟨tail, behind, parts, ends⟩ := cut_parts whole.symm rooted
      refine ⟨tail, behind, by rw [parts, String.toList_ofList], .inr (ends.imp_left ?_)⟩
      intro root
      rw [root]
      rfl

theorem isAbsolute_of_parts {tail : List Char} (filled : up ≠ "")
    (parts : path.toList = up.toList ++ tail) : isAbsolute path = isAbsolute up := by
  cases front : up.toList with
  | nil => exact absurd (String.toList_inj.mp front) filled
  | cons c more =>
    rw [isAbsolute, isAbsolute, parts, front]
    rfl

theorem parent_shorter (above : parent? path = some up) : up.length < path.length := by
  obtain ⟨tail, some, parts, -⟩ := parent_parts above
  have longer := congrArg List.length parts
  rw [List.length_append, String.length_toList, String.length_toList] at longer
  have more := List.length_pos_iff.mpr some
  omega

theorem parent_none (none : parent? path = none) (some : path ≠ "") :
    String.ofList (trimEnd path.toList.reverse).reverse = "/" := by
  unfold parent? at none
  dsimp only at none
  split at none
  · next empty =>
    have back : path.toList.reverse ≠ [] := by simpa using some
    exact absurd empty (trimEnd_ne_nil back)
  · next root =>
    rw [root]
    rfl
  · split at none
    · cases none
    · cases none

end Path

namespace FileTree

open FileNode

variable {root : FileNode} {links : Nat} {here front rest : List String} {place : Place}
  {tree after : FileTree} {path up : String}

-- Pieces of a path that are followed by others lead to a directory.
theorem Leads.before (leads : Leads root links here (front ++ rest) place) (some : rest ≠ [])
    (dir : root.IsDir here) :
    ∃ names, Leads root links here front (.present names) ∧ root.IsDir names := by
  generalize whole : front ++ rest = pieces at leads
  induction leads generalizing front with
  | @here links here => exact absurd (List.append_eq_nil_iff.mp whole).2 some
  | skip idle on ih =>
    cases front with
    | nil => exact ⟨_, .here, dir⟩
    | cons piece front =>
      obtain ⟨rfl, same⟩ := List.cons.inj whole
      obtain ⟨names, leads, there⟩ := ih dir same
      exact ⟨names, .skip idle leads, there⟩
  | up on ih =>
    cases front with
    | nil => exact ⟨_, .here, dir⟩
    | cons piece front =>
      obtain ⟨rfl, same⟩ := List.cons.inj whole
      obtain ⟨names, leads, there⟩ := ih dir.dropLast same
      exact ⟨names, .up leads, there⟩
  | enter named inner on ih =>
    cases front with
    | nil => exact ⟨_, .here, dir⟩
    | cons piece front =>
      obtain ⟨rfl, same⟩ := List.cons.inj whole
      obtain ⟨names, leads, there⟩ := ih inner same
      exact ⟨names, .enter named inner leads, there⟩
  | free named none =>
    cases front with
    | nil => exact ⟨_, .here, dir⟩
    | cons piece front =>
      obtain ⟨-, same⟩ := List.cons.inj whole
      exact absurd (List.append_eq_nil_iff.mp same).2 some
  | file named there =>
    cases front with
    | nil => exact ⟨_, .here, dir⟩
    | cons piece front =>
      obtain ⟨-, same⟩ := List.cons.inj whole
      exact absurd (List.append_eq_nil_iff.mp same).2 some
  | @link links here behind name target place named there on ih =>
    cases front with
    | nil => exact ⟨_, .here, dir⟩
    | cons piece front =>
      obtain ⟨rfl, same⟩ := List.cons.inj whole
      have start : root.IsDir (if Path.isAbsolute target then [] else here) := by
        split
        · exact dir.top
        · exact dir
      have onward : (Path.pieces target ++ front) ++ rest = Path.pieces target ++ behind :=
        (List.append_assoc _ _ _).trans (congrArg (Path.pieces target ++ ·) same)
      obtain ⟨names, leads, inner⟩ := ih start onward
      exact ⟨names, .link named there leads, inner⟩

theorem isDir_iff : tree.isDir path = true ↔
    ∃ names, tree.locate path = .ok (.present names) ∧ tree.root.IsDir names := by
  unfold isDir node
  constructor
  · intro dir
    cases located : tree.locate path with
    | error e => simp [located] at dir
    | ok place =>
      cases place with
      | vacant names => simp [located] at dir
      | present names =>
        cases there : tree.root.get? names with
        | none => simp [located, there] at dir
        | some node =>
          cases node with
          | file bytes => simp [located, there] at dir
          | link target => simp [located, there] at dir
          | dir entries => exact ⟨names, rfl, entries, there⟩
  · rintro ⟨names, located, entries, there⟩
    simp [located, there]

theorem isDir_root (dir : tree.root.IsDir []) : tree.isDir "/" = true :=
  isDir_iff.mpr ⟨[], locate_iff.mpr ⟨by decide, dir, .skip (.inl rfl) (.skip (.inl rfl) .here)⟩, dir⟩

theorem isDir_parent (located : tree.locate path = .ok place) (above : Path.parent? path = some up)
    (filled : up ≠ "") : tree.isDir up = true := by
  obtain ⟨-, dir, leads⟩ := locate_iff.mp located
  obtain ⟨tail, -, parts, empty | rfl | ⟨rest, rfl⟩⟩ := Path.parent_parts above
  · exact absurd empty filled
  · exact isDir_root dir.top
  · have same : tree.origin path = tree.origin up := by
      rw [origin, origin, Path.isAbsolute_of_parts filled parts]
    have pieces : Path.pieces path = Path.pieces up ++ (Text.splitChar '/' rest).map String.ofList := by
      rw [Path.pieces, parts, Text.splitChar_append, List.map_append, Path.pieces]
    have behind : (Text.splitChar '/' rest).map String.ofList ≠ [] := fun none =>
      Text.splitChar_ne_nil '/' rest (List.map_eq_nil_iff.mp none)
    rw [pieces, same] at leads
    rw [same] at dir
    obtain ⟨names, leads, there⟩ := leads.before behind dir
    exact isDir_iff.mpr ⟨names, locate_iff.mpr ⟨by simpa using filled, dir, leads⟩, there⟩

theorem makeDir_root (dir : tree.isDir path = true) (top : Path.parent? path = none)
    (filled : path ≠ "") : tree.makeDir path = .error .exists := by
  obtain ⟨_, located, -⟩ := isDir_iff.mp dir
  obtain ⟨-, dir, -⟩ := locate_iff.mp located
  obtain ⟨_, root, -⟩ := isDir_iff.mp (isDir_root dir.top)
  unfold makeDir
  dsimp only
  rw [Path.parent_none top filled, root]

theorem orThere_failed {made : Except FileError FileTree} {e : FileError}
    (failed : tree.settle (orThere tree path made) = (.error e, after)) :
    after.isDir path = false := by
  cases made with
  | ok made => cases (Prod.mk.inj failed).1
  | error e =>
    unfold orThere at failed
    dsimp only at failed
    split at failed
    · cases (Prod.mk.inj failed).1
    · next missing =>
      obtain ⟨-, rfl⟩ := Prod.mk.inj failed
      exact Bool.eq_false_iff.mpr missing

theorem makeDirs_failed {depth : Nat} {e : FileError}
    (failed : makeDirs tree depth path = (.error e, after)) (enough : path.length < depth) :
    after.isDir path = false := by
  induction depth generalizing path after e with
  | zero => exact absurd enough (Nat.not_lt_zero _)
  | succ depth ih =>
    unfold makeDirs at failed
    split at failed
    · cases (Prod.mk.inj failed).1
    · next some =>
      have filled : path ≠ "" := fun empty => some (String.isEmpty_iff.mpr empty)
      split at failed
      · cases (Prod.mk.inj failed).1
      · next notMade =>
        split at failed
        · next top =>
          obtain ⟨-, rfl⟩ := Prod.mk.inj failed
          refine Bool.eq_false_iff.mpr fun dir => ?_
          rw [makeDir_root dir top filled] at notMade
          cases notMade
        · next up above =>
          have shorter := Path.parent_shorter above
          split at failed
          · next middle failedAbove =>
            obtain ⟨-, rfl⟩ := Prod.mk.inj failed
            refine Bool.eq_false_iff.mpr fun dir => ?_
            obtain ⟨_, located, -⟩ := isDir_iff.mp dir
            have missing := ih failedAbove (by omega)
            by_cases empty : up = ""
            · obtain ⟨depth, rfl⟩ := Nat.exists_eq_add_of_lt (show 0 < depth by omega)
              rw [empty] at failedAbove
              cases (Prod.mk.inj failedAbove).1
            · rw [isDir_parent located above empty] at missing
              cases missing
          · exact orThere_failed failed
      · exact orThere_failed failed

theorem ensureDir_failed {e : FileError} (failed : tree.ensureDir path = (.error e, after)) :
    after.isDir path = false :=
  makeDirs_failed failed (Nat.lt_succ_self _)

end FileTree

end Rollout
