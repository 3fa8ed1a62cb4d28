import Mathlib.Data.List.Basic
import Rollout.Json.Reader
import Rollout.Json.Writer

namespace Rollout

namespace Text

theorem hexValue?_hexDigit : ∀ n < 16, hexValue? (hexDigit n) = some n := by decide

theorem hexValue?_upperHexDigit : ∀ n < 16, hexValue? (upperHexDigit n) = some n := by decide

-- Two texts that begin with runs of one kind of characters, up to the ends of the runs.
theorem run_append_inj {p : Char → Bool} {run run' rest rest' : List Char}
    (inside : ∀ c ∈ run, p c = true) (inside' : ∀ c ∈ run', p c = true)
    (ended : ∀ c ∈ rest.head?, p c = false) (ended' : ∀ c ∈ rest'.head?, p c = false)
    (same : run ++ rest = run' ++ rest') : run = run' ∧ rest = rest' := by
  have stop : ∀ {rest : List Char}, (∀ c ∈ rest.head?, p c = false) → rest.takeWhile p = [] := by
    intro rest ended
    cases rest with
    | nil => rfl
    | cons c rest => rw [List.takeWhile_cons, ended c rfl, if_neg Bool.false_ne_true]
  have runs : run = run' := by
    have taken := congrArg (List.takeWhile p) same
    rwa [List.takeWhile_append_of_pos inside, List.takeWhile_append_of_pos inside', stop ended,
      stop ended', List.append_nil, List.append_nil] at taken
  rw [runs] at same
  exact ⟨runs, List.append_cancel_left same⟩

end Text

namespace Json

theorem unit?_escaped {n : Nat} (control : n < 0x20) (rest : List Char) :
    unit? ('0' :: '0' :: Text.hexDigit (n / 16) :: Text.hexDigit (n % 16) :: rest) =
      some (n, rest) := by
  have zero : Text.hexValue? '0' = some 0 := by decide
  have high := Text.hexValue?_hexDigit (n / 16) (by omega)
  have low := Text.hexValue?_hexDigit (n % 16) (by omega)
  simp [unit?, zero, high, low, Nat.div_add_mod']

theorem escapedUnit?_escaped {c : Char} (control : c.toNat < 0x20) (rest : List Char) :
    escapedUnit? ('0' :: '0' :: Text.hexDigit (c.toNat / 16) :: Text.hexDigit (c.toNat % 16) ::
      rest) = some (c, rest) := by
  have first : ¬ (0xD800 ≤ c.toNat ∧ c.toNat < 0xDC00) := by omega
  have second : ¬ (0xDC00 ≤ c.toNat ∧ c.toNat < 0xE000) := by omega
  simp only [escapedUnit?, unit?_escaped control, Option.bind_eq_bind, Option.bind_some, first,
    second, if_false, Char.ofNat_toNat]

theorem stringBody_escape (fuel : Nat) (acc : List Char) (c : Char) (rest : List Char) :
    stringBody (fuel + 1) acc (escape c ++ rest) = stringBody fuel (c :: acc) rest := by
  unfold escape
  split
  · subst_vars; simp [stringBody]
  split
  · subst_vars; simp [stringBody]
  split
  · subst_vars; simp [stringBody]
  split
  · subst_vars; simp [stringBody]
  split
  · subst_vars; simp [stringBody]
  split
  · next backspace =>
    have same : c = '\x08' := Char.toNat_inj.mp backspace
    subst same
    simp [stringBody]
  split
  · next feed =>
    have same : c = '\x0c' := Char.toNat_inj.mp feed
    subst same
    simp [stringBody]
  split
  · next control => simp [stringBody, escapedUnit?_escaped control]
  · next printed =>
    simp_all only [List.cons_append, List.nil_append, stringBody, if_false]

theorem stringBody_escaped (text : List Char) :
    ∀ (fuel : Nat) (acc rest : List Char), text.length < fuel →
      stringBody fuel acc (text.flatMap escape ++ '"' :: rest) =
        some (String.ofList (acc.reverse ++ text), rest) := by
  induction text with
  | nil =>
    intro fuel acc rest enough
    obtain ⟨fuel, rfl⟩ := Nat.exists_eq_add_of_lt enough
    simp [stringBody]
  | cons c text ih =>
    intro fuel acc rest enough
    obtain ⟨fuel, rfl⟩ : ∃ n, fuel = n + 1 := ⟨fuel - 1, by simp at enough; omega⟩
    rw [List.flatMap_cons, List.append_assoc, stringBody_escape,
      ih fuel (c :: acc) rest (by simpa using enough)]
    simp

theorem quote_append_inj {s t : String} {rest rest' : List Char}
    (same : quote s ++ rest = quote t ++ rest') : s = t ∧ rest = rest' := by
  have bodies : s.toList.flatMap escape ++ '"' :: rest = t.toList.flatMap escape ++ '"' :: rest' := by
    simpa [quote] using same
  have read := stringBody_escaped s.toList (s.toList.length + t.toList.length + 1) [] rest (by omega)
  rw [bodies, stringBody_escaped t.toList _ [] rest' (by omega)] at read
  have parts := Prod.mk.inj (Option.some.inj read)
  simpa [eq_comm] using parts

def isNumeral (c : Char) : Bool := c.isDigit || c == '-'

-- What follows a value: no part of a number.
def Ended (rest : List Char) : Prop := ∀ c ∈ rest.head?, isNumeral c = false

theorem ended_cons {c : Char} {rest : List Char} (other : isNumeral c = false) :
    Ended (c :: rest) := by
  intro first told
  obtain rfl := Option.some.inj told
  exact other

theorem int_text (i : Int) : (toString i).toList =
    if 0 ≤ i then Nat.toDigits 10 i.toNat else '-' :: Nat.toDigits 10 (-i).toNat := by
  rw [Int.toString_eq_repr, Int.repr_eq_if]
  split
  · rw [Nat.repr_eq_ofList_toDigits, String.toList_ofList]
  · rw [String.toList_append, Nat.repr_eq_ofList_toDigits, String.toList_ofList]
    simp

theorem digit_of_mem {n : Nat} {c : Char} (member : c ∈ Nat.toDigits 10 n) : c.isDigit = true :=
  Nat.isDigit_of_mem_toDigits (by decide) (by decide) member

theorem int_numeral (i : Int) : ∀ c ∈ (toString i).toList, isNumeral c = true := by
  intro c member
  rw [int_text] at member
  split at member
  · simp [isNumeral, digit_of_mem member]
  · rcases List.mem_cons.mp member with rfl | digit
    · rfl
    · simp [isNumeral, digit_of_mem digit]

theorem int_ne_nil (i : Int) : (toString i).toList ≠ [] := by
  rw [int_text]
  split
  · exact Nat.toDigits_ne_nil
  · exact List.cons_ne_nil _ _

theorem toDigits_ne_minus (n : Nat) (rest : List Char) : Nat.toDigits 10 n ≠ '-' :: rest := by
  intro same
  have member : '-' ∈ Nat.toDigits 10 n := same ▸ List.mem_cons_self
  cases digit_of_mem member

theorem toDigits_inj {n m : Nat} (same : Nat.toDigits 10 n = Nat.toDigits 10 m) : n = m := by
  rw [← Nat.ofDigitChars_ten_toDigits (n := n), same, Nat.ofDigitChars_ten_toDigits]

theorem int_inj {i j : Int} (same : (toString i).toList = (toString j).toList) : i = j := by
  rw [int_text, int_text] at same
  split at same
  · split at same
    · have digits := toDigits_inj same
      omega
    · exact absurd same (toDigits_ne_minus _ _)
  · split at same
    · exact absurd same.symm (toDigits_ne_minus _ _)
    · have digits := toDigits_inj (List.cons.inj same).2
      omega

theorem int_append_inj {i j : Int} {rest rest' : List Char} (ended : Ended rest)
    (ended' : Ended rest') (same : (toString i).toList ++ rest = (toString j).toList ++ rest') :
    i = j ∧ rest = rest' := by
  obtain ⟨digits, rests⟩ := Text.run_append_inj (int_numeral i) (int_numeral j) ended ended' same
  exact ⟨int_inj digits, rests⟩

mutual
def exact : Json → Bool
  | .number (.float _) => false
  | .array items => exactItems items
  | .object fields => exactFields fields
  | _ => true
def exactItems : List Json → Bool
  | [] => true
  | j :: rest => exact j && exactItems rest
def exactFields : List (String × Json) → Bool
  | [] => true
  | (_, j) :: rest => exact j && exactFields rest
end

inductive Shape where
  | null
  | bool
  | number
  | string
  | array
  | object
  deriving DecidableEq

def shape : Json → Shape
  | .null => .null
  | .bool _ => .bool
  | .number _ => .number
  | .string _ => .string
  | .array _ => .array
  | .object _ => .object

-- What a text that begins with a character is the text of.
def shapeFrom (c : Char) : Option Shape :=
  if isNumeral c then some .number
  else if c = '"' then some .string
  else if c = '[' then some .array
  else if c = '\x7b' then some .object
  else if c = 'n' then some .null
  else if c = 't' ∨ c = 'f' then some .bool
  else none

theorem compact_begins {j : Json} (exact : j.exact = true) :
    ∃ c rest, compact j = c :: rest ∧ shapeFrom c = some j.shape := by
  cases j with
  | null => exact ⟨'n', _, rfl, by decide⟩
  | bool b =>
    cases b with
    | true => exact ⟨'t', _, rfl, by decide⟩
    | false => exact ⟨'f', _, rfl, by decide⟩
  | number n =>
    cases n with
    | float x => cases exact
    | int i =>
      obtain ⟨c, rest, text⟩ := List.exists_cons_of_ne_nil (int_ne_nil i)
      have numeral := int_numeral i c (text ▸ List.mem_cons_self)
      exact ⟨c, rest, text, by simp [shapeFrom, numeral, shape]⟩
  | string s => exact ⟨'"', _, rfl, rfl⟩
  | array items => exact ⟨'[', _, rfl, rfl⟩
  | object fields => exact ⟨'\x7b', _, rfl, rfl⟩

theorem shape_eq {a b : Json} (exact : a.exact = true) (exact' : b.exact = true)
    {rest rest' : List Char} (same : compact a ++ rest = compact b ++ rest') :
    a.shape = b.shape := by
  obtain ⟨c, tail, text, shape⟩ := compact_begins exact
  obtain ⟨c', tail', text', shape'⟩ := compact_begins exact'
  rw [text, text'] at same
  have first := (List.cons.inj same).1
  rw [first, shape'] at shape
  exact (Option.some.inj shape).symm

theorem compact_ne_close {j : Json} (exact : j.exact = true) {close : Char}
    (closes : shapeFrom close = none) {rest rest' : List Char} :
    compact j ++ rest ≠ close :: rest' := by
  intro same
  obtain ⟨c, tail, text, shape⟩ := compact_begins exact
  rw [text] at same
  rw [(List.cons.inj same).1, closes] at shape
  cases shape

-- What stands behind an item: the end of the list, or a comma and the items after it.
def afterItem (items : List Json) (rest : List Char) : List Char :=
  match items with
  | [] => ']' :: rest
  | _ => ',' :: (compactItems items ++ ']' :: rest)

def afterField (fields : List (String × Json)) (rest : List Char) : List Char :=
  match fields with
  | [] => '\x7d' :: rest
  | _ => ',' :: (compactFields fields ++ '\x7d' :: rest)

theorem compactItems_cons (j : Json) (items : List Json) (rest : List Char) :
    compactItems (j :: items) ++ ']' :: rest = compact j ++ afterItem items rest := by
  cases items with
  | nil => simp [compactItems, afterItem]
  | cons k items => simp [compactItems, afterItem]

theorem compactFields_cons (name : String) (j : Json) (fields : List (String × Json))
    (rest : List Char) :
    compactFields ((name, j) :: fields) ++ '\x7d' :: rest =
      quote name ++ ':' :: (compact j ++ afterField fields rest) := by
  cases fields with
  | nil => simp [compactFields, afterField]
  | cons f fields => simp [compactFields, afterField]

theorem afterItem_ended (items : List Json) (rest : List Char) : Ended (afterItem items rest) := by
  cases items with
  | nil => exact ended_cons (by decide)
  | cons j items => exact ended_cons (by decide)

theorem afterField_ended (fields : List (String × Json)) (rest : List Char) :
    Ended (afterField fields rest) := by
  cases fields with
  | nil => exact ended_cons (by decide)
  | cons f fields => exact ended_cons (by decide)

mutual
theorem compact_append_inj : ∀ {a b : Json} {rest rest' : List Char}, a.exact = true →
    b.exact = true → Ended rest → Ended rest' → compact a ++ rest = compact b ++ rest' →
      a = b ∧ rest = rest'
  | a, b, rest, rest', exact, exact', ended, ended', same => by
    have shapes := shape_eq exact exact' same
    cases a with
    | null =>
      cases b with
      | null => exact ⟨rfl, List.append_cancel_left same⟩
      | _ => cases shapes
    | bool x =>
      cases b with
      | bool y =>
        have texts : (toString x).toList ++ rest = (toString y).toList ++ rest' := same
        cases x <;> cases y <;> simp_all [toString]
      | _ => cases shapes
    | number n =>
      cases b with
      | number m =>
        cases n with
        | float x => cases exact
        | int i =>
          cases m with
          | float x => cases exact'
          | int j =>
            obtain ⟨rfl, rests⟩ := int_append_inj ended ended' same
            exact ⟨rfl, rests⟩
      | _ => cases shapes
    | string s =>
      cases b with
      | string t =>
        obtain ⟨rfl, rests⟩ := quote_append_inj same
        exact ⟨rfl, rests⟩
      | _ => cases shapes
    | array items =>
      cases b with
      | array items' =>
        have inner : compactItems items ++ ']' :: rest = compactItems items' ++ ']' :: rest' := by
          simpa [compact] using same
        obtain ⟨rfl, rests⟩ := compactItems_inj exact exact' inner
        exact ⟨rfl, rests⟩
      | _ => cases shapes
    | object fields =>
      cases b with
      | object fields' =>
        have inner : compactFields fields ++ '\x7d' :: rest =
            compactFields fields' ++ '\x7d' :: rest' := by
          simpa [compact] using same
        obtain ⟨rfl, rests⟩ := compactFields_inj exact exact' inner
        exact ⟨rfl, rests⟩
      | _ => cases shapes
theorem compactItems_inj : ∀ {as bs : List Json} {rest rest' : List Char}, exactItems as = true →
    exactItems bs = true → compactItems as ++ ']' :: rest = compactItems bs ++ ']' :: rest' →
      as = bs ∧ rest = rest'
  | [], [], _, _, _, _, same => ⟨rfl, (List.cons.inj same).2⟩
  | [], b :: bs, _, _, _, exact', same => by
    rw [compactItems_cons] at same
    simp only [exactItems, Bool.and_eq_true] at exact'
    exact absurd same.symm (compact_ne_close exact'.1 (by decide))
  | a :: as, [], _, _, exact, _, same => by
    rw [compactItems_cons] at same
    simp only [exactItems, Bool.and_eq_true] at exact
    exact absurd same (compact_ne_close exact.1 (by decide))
  | a :: as, b :: bs, rest, rest', exact, exact', same => by
    rw [compactItems_cons, compactItems_cons] at same
    simp only [exactItems, Bool.and_eq_true] at exact exact'
    obtain ⟨first, after⟩ := compact_append_inj exact.1 exact'.1 (afterItem_ended as rest)
      (afterItem_ended bs rest') same
    rw [first]
    cases as with
    | nil =>
      cases bs with
      | nil => exact ⟨rfl, (List.cons.inj after).2⟩
      | cons b' bs => cases (List.cons.inj after).1
    | cons a' as =>
      cases bs with
      | nil => cases (List.cons.inj after).1
      | cons b' bs =>
        obtain ⟨items, rests⟩ := compactItems_inj exact.2 exact'.2 (List.cons.inj after).2
        exact ⟨congrArg _ items, rests⟩
theorem compactFields_inj : ∀ {as bs : List (String × Json)} {rest rest' : List Char},
    exactFields as = true → exactFields bs = true →
      compactFields as ++ '\x7d' :: rest = compactFields bs ++ '\x7d' :: rest' →
        as = bs ∧ rest = rest'
  | [], [], _, _, _, _, same => ⟨rfl, (List.cons.inj same).2⟩
  | [], (name, b) :: bs, _, _, _, _, same => by
    rw [compactFields_cons] at same
    cases (List.cons.inj same).1
  | (name, a) :: as, [], _, _, _, _, same => by
    rw [compactFields_cons] at same
    cases (List.cons.inj same).1
  | (name, a) :: as, (name', b) :: bs, rest, rest', exact, exact', same => by
    rw [compactFields_cons, compactFields_cons] at same
    simp only [exactFields, Bool.and_eq_true] at exact exact'
    obtain ⟨names, values⟩ := quote_append_inj same
    obtain ⟨first, after⟩ := compact_append_inj exact.1 exact'.1 (afterField_ended as rest)
      (afterField_ended bs rest') (List.cons.inj values).2
    rw [names, first]
    cases as with
    | nil =>
      cases bs with
      | nil => exact ⟨rfl, (List.cons.inj after).2⟩
      | cons b' bs => cases (List.cons.inj after).1
    | cons a' as =>
      cases bs with
      | nil => cases (List.cons.inj after).1
      | cons b' bs =>
        obtain ⟨fields, rests⟩ := compactFields_inj exact.2 exact'.2 (List.cons.inj after).2
        exact ⟨congrArg _ fields, rests⟩
end

theorem render_inj {a b : Json} (exact : a.exact = true) (exact' : b.exact = true)
    (same : a.render = b.render) : a = b := by
  have texts : compact a ++ [] = compact b ++ [] := by
    rw [List.append_nil, List.append_nil]
    exact String.ofList_inj.mp same
  have ended : Ended [] := by
    intro c told
    cases told
  exact (compact_append_inj exact exact' ended ended texts).1

end Json

end Rollout
