import Rollout.Text.Ascii

namespace Rollout.Text

def isBlank (c : Char) : Bool :=
  let n := c.toNat
  (9 ≤ n && n ≤ 13) || n == 0x20 || n == 0x85 || n == 0xA0 || n == 0x1680 ||
  (0x2000 ≤ n && n ≤ 0x200A) || n == 0x2028 || n == 0x2029 || n == 0x202F || n == 0x205F ||
  n == 0x3000

def trimLeft (cs : List Char) : List Char := cs.dropWhile isBlank

def trimRight (cs : List Char) : List Char := (cs.reverse.dropWhile isBlank).reverse

def trim (s : String) : String := String.ofList (trimRight (trimLeft s.toList))

theorem trimLeft_of_begins {cs : List Char} (first : ∀ c ∈ cs.head?, isBlank c = false) :
    trimLeft cs = cs := by
  cases cs with
  | nil => rfl
  | cons c cs =>
    rw [trimLeft, List.dropWhile_cons, first c rfl]
    rfl

theorem trimRight_of_ends {cs : List Char} (last : ∀ c ∈ cs.getLast?, isBlank c = false) :
    trimRight cs = cs := by
  have stays : cs.reverse.dropWhile isBlank = cs.reverse :=
    trimLeft_of_begins (by rwa [List.head?_reverse])
  rw [trimRight, stays, List.reverse_reverse]

theorem trim_of_ends {s : String} (first : ∀ c ∈ s.toList.head?, isBlank c = false)
    (last : ∀ c ∈ s.toList.getLast?, isBlank c = false) : trim s = s := by
  rw [trim, trimLeft_of_begins first, trimRight_of_ends last, String.ofList_toList]

theorem trim_plain {s : String} (plain : ∀ c ∈ s.toList, isBlank c = false) : trim s = s :=
  trim_of_ends (fun c first => plain c (List.mem_of_mem_head? first))
    fun c last => plain c (List.mem_of_mem_getLast? last)

theorem trim_line {s : String} (plain : ∀ c ∈ s.toList, isBlank c = false) :
    trim (s ++ "\n") = s := by
  have right : trimRight (s.toList ++ ['\n']) = s.toList := by
    rw [trimRight, List.reverse_append]
    exact trimRight_of_ends fun c last => plain c (List.mem_of_mem_getLast? last)
  rw [trim, String.toList_append]
  change String.ofList (trimRight (trimLeft (s.toList ++ ['\n']))) = s
  cases front : s.toList with
  | nil =>
    have empty : s = "" := String.toList_eq_nil_iff.mp front
    rw [empty]
    rfl
  | cons c rest =>
    have left : trimLeft (c :: rest ++ ['\n']) = c :: rest ++ ['\n'] :=
      trimLeft_of_begins fun d first => plain d (front ▸ List.mem_of_mem_head? first)
    rw [left, ← front, right, String.ofList_toList]

def splitChar (sep : Char) : List Char → List (List Char)
  | [] => [[]]
  | c :: rest =>
    if c = sep then [] :: splitChar sep rest
    else match splitChar sep rest with
      | [] => [[c]]
      | piece :: pieces => (c :: piece) :: pieces

theorem splitChar_ne_nil (sep : Char) (cs : List Char) : splitChar sep cs ≠ [] := by
  cases cs with
  | nil => exact List.cons_ne_nil _ _
  | cons c rest =>
    unfold splitChar
    split
    · exact List.cons_ne_nil _ _
    · split
      · exact List.cons_ne_nil _ _
      · exact List.cons_ne_nil _ _

theorem mem_splitChar {sep c : Char} {cs : List Char} (member : c ∈ cs) :
    c = sep ∨ ∃ piece ∈ splitChar sep cs, c ∈ piece := by
  induction cs with
  | nil => cases member
  | cons first rest ih =>
    unfold splitChar
    split
    · next same =>
      rcases List.mem_cons.mp member with rfl | later
      · exact .inl same
      · rcases ih later with same | ⟨piece, inPieces, inPiece⟩
        · exact .inl same
        · exact .inr ⟨piece, List.mem_cons_of_mem _ inPieces, inPiece⟩
    · cases pieces : splitChar sep rest with
      | nil =>
        rw [pieces] at ih
        rcases List.mem_cons.mp member with rfl | later
        · exact .inr ⟨[c], List.mem_singleton_self _, List.mem_singleton_self _⟩
        · rcases ih later with same | ⟨piece, inPieces, -⟩
          · exact .inl same
          · cases inPieces
      | cons piece more =>
        rw [pieces] at ih
        rcases List.mem_cons.mp member with rfl | later
        · exact .inr ⟨_, List.mem_cons_self, List.mem_cons_self⟩
        · rcases ih later with same | ⟨other, inPieces, inPiece⟩
          · exact .inl same
          · rcases List.mem_cons.mp inPieces with rfl | behind
            · exact .inr ⟨_, List.mem_cons_self, List.mem_cons_of_mem _ inPiece⟩
            · exact .inr ⟨other, List.mem_cons_of_mem _ behind, inPiece⟩

def splitFirst (sep : Char) : List Char → Option (List Char × List Char)
  | [] => none
  | c :: rest =>
    if c = sep then some ([], rest)
    else (splitFirst sep rest).map fun (a, b) => (c :: a, b)

theorem splitFirst_before {sep : Char} {cs before after : List Char}
    (found : splitFirst sep cs = some (before, after)) : sep ∉ before := by
  induction cs generalizing before after with
  | nil => cases found
  | cons c rest ih =>
    unfold splitFirst at found
    split at found
    · obtain ⟨rfl, -⟩ := Prod.mk.inj (Option.some.inj found)
      exact List.not_mem_nil
    · next other =>
      obtain ⟨⟨before', after'⟩, later, parts⟩ := Option.map_eq_some_iff.mp found
      obtain ⟨rfl, -⟩ := Prod.mk.inj parts
      intro member
      rcases List.mem_cons.mp member with same | inRest
      · exact other same.symm
      · exact ih later inRest

def splitLast (sep : Char) : List Char → Option (List Char × List Char)
  | [] => none
  | c :: rest =>
    match splitLast sep rest with
    | some (a, b) => some (c :: a, b)
    | none => if c = sep then some ([], rest) else none

def occurs (part : List Char) : List Char → Bool
  | [] => part.isEmpty
  | c :: rest => part.isPrefixOf (c :: rest) || occurs part rest

def splitAtText (part : List Char) : List Char → Option (List Char × List Char)
  | [] => if part.isEmpty then some ([], []) else none
  | c :: rest =>
    if part.isPrefixOf (c :: rest) then some ([], (c :: rest).drop part.length)
    else (splitAtText part rest).map fun (a, b) => (c :: a, b)

def dropReturn (line : List Char) : List Char :=
  if line.getLast? = some '\r' then line.dropLast else line

-- The lines of a text: a line ends at a line feed, of which a carriage return before it is a part,
-- and an empty last line does not count.
def lines (s : String) : List String :=
  match (splitChar '\n' s.toList).reverse with
  | [] => []
  | last :: above =>
    let ended := above.reverse.map dropReturn
    (ended ++ if last.isEmpty then [] else [last]).map String.ofList

def words (s : String) : List String :=
  (s.toList.splitBy fun a b => isBlank a == isBlank b).filterMap fun run =>
    if run.head?.any isBlank then none else some (String.ofList run)

end Rollout.Text
