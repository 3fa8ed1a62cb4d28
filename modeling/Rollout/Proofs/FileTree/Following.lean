import Rollout.Proofs.FileTree.Nodes

namespace Rollout

-- A piece of a path that leads on by its name.
structure Path.IsName (piece : String) : Prop where
  nonempty : piece ≠ ""
  undotted : piece ≠ "."
  downward : piece ≠ ".."

-- The pieces of a path without the idle ones.
def Path.steps (pieces : List String) : List String := pieces.filter fun p => p ≠ "" ∧ p ≠ "."

namespace FileTree

open FileNode

-- Pieces of a path lead from a directory to a place, through so many links at most.
inductive Leads (root : FileNode) : Nat → List String → List String → Place → Prop where
  | here {links : Nat} {here : List String} : Leads root links here [] (.present here)
  | skip {links : Nat} {here rest : List String} {piece : String} {place : Place}
      (idle : piece = "" ∨ piece = ".") (on : Leads root links here rest place) :
      Leads root links here (piece :: rest) place
  | up {links : Nat} {here rest : List String} {place : Place}
      (on : Leads root links here.dropLast rest place) :
      Leads root links here (".." :: rest) place
  | free {links : Nat} {here : List String} {name : String} (named : Path.IsName name)
      (none : root.get? (here ++ [name]) = none) :
      Leads root links here [name] (.vacant (here ++ [name]))
  | enter {links : Nat} {here rest : List String} {name : String} {place : Place}
      (named : Path.IsName name) (dir : root.IsDir (here ++ [name]))
      (on : Leads root links (here ++ [name]) rest place) :
      Leads root links here (name :: rest) place
  | file {links : Nat} {here : List String} {name : String} {bytes : List UInt8}
      (named : Path.IsName name) (there : root.get? (here ++ [name]) = some (.file bytes)) :
      Leads root links here [name] (.present (here ++ [name]))
  | link {links : Nat} {here rest : List String} {name target : String} {place : Place}
      (named : Path.IsName name) (there : root.get? (here ++ [name]) = some (.link target))
      (on : Leads root links (if Path.isAbsolute target then [] else here)
        (Path.pieces target ++ rest) place) :
      Leads root (links + 1) here (name :: rest) place

variable {root before after : FileNode} {links : Nat} {here pieces names rest : List String}
  {place : Place} {kept : List String → Prop}

def beyond (root : FileNode) : Nat → List String → List String → Except FileError Place
  | 0 => fun _ _ => .error .tooManyLinks
  | links + 1 => follow root links

theorem follow_eq (root : FileNode) (links : Nat) :
    follow root links = followTo root (beyond root links) := by
  cases links <;> rfl

theorem leads_of_followTo
    (through : ∀ {here pieces}, beyond root links here pieces = .ok place →
      ∃ fewer, links = fewer + 1 ∧ Leads root fewer here pieces place) :
    ∀ {pieces here : List String}, followTo root (beyond root links) here pieces = .ok place →
      Leads root links here pieces place := by
  intro pieces
  induction pieces with
  | nil =>
    intro here found
    obtain rfl := Except.ok.inj found
    exact .here
  | cons piece rest ih =>
    intro here found
    unfold followTo at found
    split at found
    · next idle => exact .skip idle (ih found)
    · next busy =>
      rw [not_or] at busy
      split at found
      · next up =>
        subst up
        exact .up (ih found)
      · next down =>
        have named : Path.IsName piece := ⟨busy.1, busy.2, down⟩
        dsimp only at found
        split at found
        · next none =>
          split at found
          · next last =>
            obtain rfl := Except.ok.inj found
            obtain rfl := List.isEmpty_iff.mp last
            exact .free named none
          · cases found
        · next entries dir => exact .enter named ⟨entries, dir⟩ (ih found)
        · next bytes file =>
          split at found
          · next last =>
            obtain rfl := Except.ok.inj found
            obtain rfl := List.isEmpty_iff.mp last
            exact .file named file
          · cases found
        · next target link =>
          obtain ⟨fewer, rfl, on⟩ := through found
          exact .link named link on

theorem Leads.of_follow : ∀ {links : Nat} {here pieces : List String},
    follow root links here pieces = .ok place → Leads root links here pieces place := by
  intro links
  induction links with
  | zero =>
    intro here pieces found
    rw [follow_eq] at found
    refine leads_of_followTo ?_ found
    intro here pieces none
    cases none
  | succ links ih =>
    intro here pieces found
    rw [follow_eq] at found
    exact leads_of_followTo (fun found => ⟨links, rfl, ih found⟩) found

theorem followTo_name {name : String} (named : Path.IsName name)
    (through : List String → List String → Except FileError Place) :
    followTo root through here (name :: rest) =
      match root.get? (here ++ [name]) with
      | none => if rest.isEmpty then .ok (.vacant (here ++ [name])) else .error .notFound
      | some (.dir _) => followTo root through (here ++ [name]) rest
      | some (.file _) =>
        if rest.isEmpty then .ok (.present (here ++ [name])) else .error .notDirectory
      | some (.link target) =>
        through (if Path.isAbsolute target then [] else here) (Path.pieces target ++ rest) := by
  rw [followTo]
  exact (if_neg (not_or.mpr ⟨named.nonempty, named.undotted⟩)).trans (if_neg named.downward)

theorem Leads.follow (leads : Leads root links here pieces place) :
    follow root links here pieces = .ok place := by
  rw [follow_eq]
  induction leads with
  | here => rfl
  | skip idle on ih => rw [followTo, if_pos idle, ih]
  | up on ih => rw [followTo, if_neg (by decide), if_pos rfl, ih]
  | free named none =>
    rw [followTo_name named, none]
    rfl
  | enter named dir on ih =>
    obtain ⟨entries, there⟩ := dir
    rw [followTo_name named, there]
    exact ih
  | file named there =>
    rw [followTo_name named, there]
    rfl
  | link named there on ih =>
    rw [followTo_name named, there]
    rw [← follow_eq] at ih
    exact ih

def Found (root : FileNode) : Place → Prop
  | .present names => root.IsDir names ∨ ∃ bytes, root.get? names = some (.file bytes)
  | .vacant names => root.get? names = none ∧ (names = [] ∨ root.IsDir names.dropLast)

theorem Leads.found (leads : Leads root links here pieces place) (dir : root.IsDir here) :
    Found root place := by
  induction leads with
  | here => exact .inl dir
  | skip idle on ih => exact ih dir
  | up on ih => exact ih dir.dropLast
  | free named none =>
    refine ⟨none, .inr ?_⟩
    rw [List.dropLast_concat]
    exact dir
  | enter named there on ih => exact ih there
  | file named there => exact .inr ⟨_, there⟩
  | @link links here rest name target place named there on ih =>
    refine ih ?_
    split
    · exact dir.top
    · exact dir

theorem Leads.remains (keeps : Keeps kept before after)
    (leads : Leads before links here pieces (.present names)) :
    Leads after links here pieces (.present names) := by
  generalize led : Place.present names = place at leads
  induction leads with
  | here => exact .here
  | skip idle on ih => exact .skip idle (ih led)
  | up on ih => exact .up (ih led)
  | free named none => cases led
  | enter named dir on ih => exact .enter named (keeps.dirs _ dir) (ih led)
  | file named there =>
    obtain ⟨bytes, there, -⟩ := keeps.files _ _ there
    exact .file named there
  | link named there on ih => exact .link named (keeps.links _ _ there) (ih led)

theorem Leads.filled (keeps : Keeps kept before after) {bytes : List UInt8}
    (leads : Leads before links here pieces (.vacant names))
    (there : after.get? names = some (.file bytes)) :
    Leads after links here pieces (.present names) := by
  generalize led : Place.vacant names = place at leads
  induction leads with
  | here => cases led
  | skip idle on ih => exact .skip idle (ih led)
  | up on ih => exact .up (ih led)
  | free named none =>
    obtain rfl := Place.vacant.inj led
    exact .file named there
  | enter named dir on ih => exact .enter named (keeps.dirs _ dir) (ih led)
  | file named there => cases led
  | link named there on ih => exact .link named (keeps.links _ _ there) (ih led)

theorem steps_append (pieces rest : List String) :
    Path.steps (pieces ++ rest) = Path.steps pieces ++ Path.steps rest :=
  List.filter_append pieces rest

theorem steps_idle {piece : String} (idle : piece = "" ∨ piece = ".") (rest : List String) :
    Path.steps (piece :: rest) = Path.steps rest := by
  rcases idle with rfl | rfl
  · rfl
  · rfl

theorem steps_busy {piece : String} (busy : piece ≠ "" ∧ piece ≠ ".") (rest : List String) :
    Path.steps (piece :: rest) = piece :: Path.steps rest := by
  rw [Path.steps, List.filter_cons_of_pos (by simpa using busy), Path.steps]

theorem steps_name {name : String} (named : Path.IsName name) (rest : List String) :
    Path.steps (name :: rest) = name :: Path.steps rest :=
  steps_busy ⟨named.nonempty, named.undotted⟩ rest

theorem Leads.idle {idle : List String} (all : ∀ p ∈ idle, p = "" ∨ p = ".")
    (on : Leads root links here rest place) : Leads root links here (idle ++ rest) place := by
  induction idle with
  | nil => exact on
  | cons piece idle ih =>
    exact .skip (all piece List.mem_cons_self)
      (ih fun p member => all p (List.mem_cons_of_mem _ member))

-- The first step of a path is its own, whatever stands before it, and its end is the path's end.
theorem split_step {step : String} {steps : List String} (some : steps ≠ [])
    (path : Path.steps pieces = step :: steps) :
    ∃ idle rest, pieces = idle ++ step :: rest ∧ (∀ p ∈ idle, p = "" ∨ p = ".") ∧
      Path.steps rest = steps ∧ rest.getLast? = pieces.getLast? := by
  obtain ⟨idle, rest, rfl, before, -, after⟩ := List.filter_eq_cons_iff.mp path
  refine ⟨idle, rest, rfl, ?_, after, ?_⟩
  · intro p member
    have all : p ≠ "" → p = "." := by simpa using before p member
    exact or_iff_not_imp_left.mpr all
  · have left : rest ≠ [] := by
      rintro rfl
      exact some after.symm
    rw [List.append_cons, List.getLast?_append_of_ne_nil _ left]

theorem Leads.extend {at_ below : List String} (some : below ≠ [])
    (leads : Leads root links here pieces (.present at_)) (dir : root.IsDir at_) :
    ∀ {longer}, Path.steps longer = Path.steps pieces ++ below →
      ∃ fewer rest, Path.steps rest = below ∧ rest.getLast? = longer.getLast? ∧
        ∀ place, Leads root fewer at_ rest place → Leads root links here longer place := by
  generalize led : Place.present at_ = place at leads
  have more : ∀ steps : List String, steps ++ below ≠ [] := by
    intro steps none
    exact some (List.append_eq_nil_iff.mp none).2
  induction leads with
  | here =>
    intro longer same
    obtain rfl := Place.present.inj led
    exact ⟨_, longer, same, rfl, fun _ on => on⟩
  | skip idle on ih =>
    intro longer same
    rw [steps_idle idle] at same
    exact ih led same
  | up on ih =>
    intro longer same
    rw [steps_busy (by decide), List.cons_append] at same
    obtain ⟨idle, rest, rfl, all, after, ends⟩ := split_step (more _) same
    obtain ⟨fewer, rest', below', ends', onward⟩ := ih led after
    exact ⟨fewer, rest', below', ends'.trans ends,
      fun place on => .idle all (.up (onward place on))⟩
  | free named none => cases led
  | enter named there on ih =>
    intro longer same
    rw [steps_name named, List.cons_append] at same
    obtain ⟨idle, rest, rfl, all, after, ends⟩ := split_step (more _) same
    obtain ⟨fewer, rest', below', ends', onward⟩ := ih led after
    exact ⟨fewer, rest', below', ends'.trans ends,
      fun place on => .idle all (.enter named there (onward place on))⟩
  | file named there =>
    obtain rfl := Place.present.inj led
    obtain ⟨entries, dir⟩ := dir
    rw [there] at dir
    cases dir
  | @link links here behind name target place named there on ih =>
    intro longer same
    rw [steps_name named, List.cons_append] at same
    obtain ⟨idle, rest, rfl, all, after, ends⟩ := split_step (more _) same
    have through : Path.steps (Path.pieces target ++ rest) =
        Path.steps (Path.pieces target ++ behind) ++ below := by
      rw [steps_append, steps_append, after, List.append_assoc]
    have left : rest ≠ [] := by
      rintro rfl
      exact more _ after.symm
    obtain ⟨fewer, rest', below', ends', onward⟩ := ih led through
    rw [List.getLast?_append_of_ne_nil _ left] at ends'
    exact ⟨fewer, rest', below', ends'.trans ends,
      fun place on => .idle all (.link named there (onward place on))⟩

theorem steps_ne_nil {piece next : String} (busy : piece ≠ "" ∧ piece ≠ ".")
    (ends : (next :: rest).getLast? = (piece :: Path.steps (next :: rest)).getLast?) :
    Path.steps (next :: rest) ≠ [] := by
  intro none
  rw [none] at ends
  have last : piece ∈ next :: rest := List.mem_of_getLast? ends
  exact List.filter_eq_nil_iff.mp none piece last (by simpa using busy)

-- Names that lead down to a file lead there as a path with these steps, if the last of them ends it.
theorem Leads.descend {below : List String} {bytes : List UInt8}
    (file : root.get? (here ++ below) = some (.file bytes)) (downward : ".." ∉ below) :
    ∀ {pieces : List String}, Path.steps pieces = below → pieces.getLast? = below.getLast? →
      Leads root links here pieces (.present (here ++ below)) := by
  intro pieces
  induction pieces generalizing here below with
  | nil =>
    intro same _
    obtain rfl : below = [] := same.symm
    rw [List.append_nil]
    exact .here
  | cons piece rest ih =>
    intro same ends
    by_cases idle : piece = "" ∨ piece = "."
    · rw [steps_idle idle] at same
      refine .skip idle (ih file downward same ?_)
      cases rest with
      | nil =>
        obtain rfl : below = [] := same.symm
        cases ends
      | cons next rest => rwa [List.getLast?_cons_cons] at ends
    · rw [not_or] at idle
      rw [steps_busy idle] at same
      obtain rfl := same
      have named : Path.IsName piece :=
        ⟨idle.1, idle.2, fun up => downward (up ▸ List.mem_cons_self)⟩
      cases rest with
      | nil => exact .file named file
      | cons next rest =>
        rw [List.getLast?_cons_cons] at ends
        have later := steps_ne_nil idle ends
        rw [List.getLast?_cons_of_ne_nil later] at ends
        rw [List.append_cons] at file ⊢
        have dir : root.IsDir (here ++ [piece]) := by
          obtain ⟨name, names, steps⟩ := List.exists_cons_of_ne_nil later
          rw [steps] at file
          exact get?_above file
        exact .enter named dir
          (ih file (fun up => downward (List.mem_cons_of_mem _ up)) rfl ends)

end FileTree

end Rollout
