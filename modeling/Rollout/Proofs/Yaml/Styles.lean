import Mathlib.Data.List.Basic
import Rollout.Proofs.Json.Unambiguous
import Rollout.Yaml.Writer

namespace Rollout.Yaml

variable {key : Bool} {s : String} {cs : List Char} {c : Char}

theorem styleOf_eq (key : Bool) (s : String) : styleOf key s =
    if s.toList.contains '\n' then
      if (facts s.toList).block && !key then .literal else .double
    else if key && (facts s.toList).multiline then .double
    else if !isAmbiguous s && (facts s.toList).plain && !(key && s.toList.isEmpty) then .plain
    else if (facts s.toList).single then .single
    else .double := by
  unfold styleOf
  dsimp only
  generalize facts s.toList = f
  generalize s.toList.contains '\n' = newline
  generalize isAmbiguous s = ambiguous
  generalize s.toList.isEmpty = empty
  rcases f with ⟨multiline, plain, single, block⟩
  revert key newline ambiguous empty multiline plain single block
  decide

def holdsColon : List Char → Bool
  | [] => false
  | c :: rest => (c = ':' && blankOrEnd rest) || holdsColon rest

-- A text that is read as it stands, up to the end of its line or to a colon behind it.
structure PlainText (cs : List Char) : Prop where
  nonempty : cs ≠ []
  line : ∀ c ∈ cs, isBreak c = false
  unblank : cs.head? ≠ some ' '
  starts : startsIndicator cs = false
  colon : holdsColon cs = false

theorem holdsColon_of_indicator {blank : Bool} (none : holdsIndicator blank cs = false) :
    holdsColon cs = false := by
  induction cs generalizing blank with
  | nil => rfl
  | cons c rest ih =>
    simp only [holdsIndicator, Bool.or_eq_false_iff] at none
    simp only [holdsColon, Bool.or_eq_false_iff]
    exact ⟨none.1.1, ih none.2⟩

theorem holdsColon_cons {rest : List Char} (starts : startsIndicator (c :: rest) = false)
    (none : holdsColon rest = false) : holdsColon (c :: rest) = false := by
  simp only [startsIndicator, Bool.or_eq_false_iff] at starts
  simp only [holdsColon, none, Bool.or_false]
  by_cases colon : c = ':'
  · simpa [colon] using starts.2
  · simp [colon]

theorem facts_plain (some : cs ≠ []) (plain : (facts cs).plain = true) :
    PlainText cs ∧ isMarkerStart cs = false := by
  obtain ⟨c, rest, rfl⟩ := List.exists_cons_of_ne_nil some
  simp only [facts, List.isEmpty_cons, Bool.false_eq_true, if_false, Bool.and_eq_true,
    Bool.not_eq_true', Bool.or_eq_false_iff] at plain
  obtain ⟨⟨⟨⟨edges, -⟩, -⟩, lines⟩, ⟨marker, starts⟩, holds⟩ := plain
  refine ⟨⟨some, ?_, ?_, starts, holdsColon_cons starts (holdsColon_of_indicator holds)⟩, marker⟩
  · intro d inside
    exact Bool.eq_false_iff.mpr fun broken =>
      Bool.eq_false_iff.mp lines (List.any_eq_true.mpr ⟨d, inside, broken⟩)
  · intro first
    obtain rfl := Option.some.inj first
    simp at edges

-- No line end is followed by a blank, not even one before the text.
def Flush (fresh : Bool) (cs : List Char) : Prop :=
  hasPair isBreak (fun c => decide (c = ' ')) cs = false ∧ (fresh = true → cs.head? ≠ some ' ')

theorem Flush.rest {fresh : Bool} {rest : List Char} (flush : Flush fresh (c :: rest)) :
    Flush (isBreak c) rest := by
  obtain ⟨pairs, -⟩ := flush
  cases rest with
  | nil => exact ⟨rfl, nofun⟩
  | cons d rest =>
    simp only [hasPair, Bool.or_eq_false_iff] at pairs
    refine ⟨pairs.2, ?_⟩
    intro broken first
    obtain rfl := Option.some.inj first
    rw [broken] at pairs
    cases pairs.1

theorem facts_single (single : (facts cs).single = true) :
    hasPair isBreak (fun c => decide (c = ' ')) cs = false := by
  unfold facts at single
  split at single
  · next empty =>
    rw [List.isEmpty_iff.mp empty]
    rfl
  · simp only [Bool.and_eq_true, Bool.not_eq_true'] at single
    exact single.1

theorem isAmbiguous_empty : isAmbiguous "" = true := by decide

theorem plain_of_style (styled : styleOf key s = .plain) :
    isAmbiguous s = false ∧ PlainText s.toList ∧ isMarkerStart s.toList = false := by
  rw [styleOf_eq] at styled
  split at styled
  · split at styled <;> cases styled
  split at styled
  · cases styled
  split at styled
  · next wanted =>
    simp only [Bool.and_eq_true, Bool.not_eq_true'] at wanted
    obtain ⟨⟨clear, plain⟩, -⟩ := wanted
    have some : s.toList ≠ [] := by
      intro none
      rw [String.toList_eq_nil_iff.mp none, isAmbiguous_empty] at clear
      cases clear
    exact ⟨clear, facts_plain some plain⟩
  · split at styled <;> cases styled

theorem single_of_style (styled : styleOf key s = .single) :
    '\n' ∉ s.toList ∧ Flush false s.toList := by
  rw [styleOf_eq] at styled
  split at styled
  · split at styled <;> cases styled
  next one =>
  split at styled
  · cases styled
  split at styled
  · cases styled
  split at styled
  · next single => exact ⟨by simpa using one, facts_single single, nofun⟩
  · cases styled

theorem key_not_literal : styleOf true s ≠ .literal := by
  rw [styleOf_eq]
  simp only [Bool.not_true, Bool.and_false, Bool.false_eq_true, if_false]
  split
  · exact nofun
  split
  · exact nofun
  split
  · exact nofun
  split <;> exact nofun

def isWordChar (c : Char) : Bool := Text.isAlphanumeric c || c = '.' || c = '-'

structure Word (cs : List Char) : Prop where
  nonempty : cs ≠ []
  chars : ∀ c ∈ cs, isWordChar c = true
  minus : cs ≠ ['-']

theorem word_of_all (all : cs.all isWordChar = true) (long : 1 < cs.length) : Word cs := by
  refine ⟨?_, List.all_eq_true.mp all, ?_⟩
  · rintro rfl
    cases long
  · rintro rfl
    cases long with
    | step short => cases short

theorem wordChar_ascii (word : isWordChar c = true) : c.toNat < 128 := by
  simp only [isWordChar, Text.isAlphanumeric, Text.isDigit, Text.isLower, Text.isUpper,
    Bool.or_eq_true, Bool.and_eq_true, decide_eq_true_eq] at word
  rcases word with (((word | word) | word) | word) | word
  all_goals first
    | exact Nat.lt_of_le_of_lt word.2 (by decide)
    | exact word ▸ by decide

theorem wordChar_free (word : isWordChar c = true) :
    isBreak c = false ∧ isSpaceOrTab c = false ∧ c ≠ ' ' ∧ c ≠ ':' ∧ c ≠ '?' ∧
      "#,[]\x7b\x7d&*!|>'\"%@`".toList.contains c = false := by
  have all : ∀ n < 128, isWordChar (Char.ofNat n) = true →
      isBreak (Char.ofNat n) = false ∧ isSpaceOrTab (Char.ofNat n) = false ∧
      Char.ofNat n ≠ ' ' ∧ Char.ofNat n ≠ ':' ∧ Char.ofNat n ≠ '?' ∧
      "#,[]\x7b\x7d&*!|>'\"%@`".toList.contains (Char.ofNat n) = false := by decide +kernel
  have here := all c.toNat (wordChar_ascii word)
  rw [Char.ofNat_toNat] at here
  exact here word

theorem Word.plain (word : Word cs) : PlainText cs := by
  obtain ⟨c, rest, rfl⟩ := List.exists_cons_of_ne_nil word.nonempty
  have first := wordChar_free (word.chars c List.mem_cons_self)
  refine ⟨word.nonempty, fun d inside => (wordChar_free (word.chars d inside)).1, ?_, ?_, ?_⟩
  · intro blank
    exact first.2.2.1 (Option.some.inj blank)
  · simp only [startsIndicator, first.2.2.2.2.2, first.2.2.2.1, first.2.2.2.2.1, decide_false,
      Bool.false_or]
    cases rest with
    | nil =>
      have minus : c ≠ '-' := fun same => word.minus (same ▸ rfl)
      simp [minus]
    | cons d rest =>
      have next := wordChar_free (word.chars d (by simp))
      simp [blankOrEnd, next.1, next.2.1]
  · have colons : ∀ cs : List Char, (∀ c ∈ cs, isWordChar c = true) → holdsColon cs = false := by
      intro cs chars
      induction cs with
      | nil => rfl
      | cons c rest ih =>
        have other := (wordChar_free (chars c List.mem_cons_self)).2.2.2.1
        simp [holdsColon, other, ih fun d inside => chars d (List.mem_cons_of_mem c inside)]
    exact colons _ word.chars

theorem word_of_digits {n : Nat} : ∀ c ∈ Nat.toDigits 10 n, isWordChar c = true := by
  intro c member
  have digit := Json.digit_of_mem member
  have digit' : Text.isDigit c = true := digit
  simp [isWordChar, Text.isAlphanumeric, digit']

theorem word_int (i : Int) : Word (toString i).toList := by
  refine ⟨Json.int_ne_nil i, ?_, ?_⟩
  all_goals rw [Json.int_text]
  · intro c member
    split at member
    · exact word_of_digits c member
    · rcases List.mem_cons.mp member with rfl | digit
      · rfl
      · exact word_of_digits c digit
  · split
    · exact Json.toDigits_ne_minus _ _
    · exact fun same => Nat.toDigits_ne_nil (List.cons.inj same).2

theorem shortest_digits (m : Nat) (e : Int) :
    ∀ c ∈ (Binary64.shortest m e).digits, isWordChar c = true := by
  have zero : ∀ c ∈ ['0'], isWordChar c = true := List.all_eq_true.mp (by decide)
  unfold Binary64.shortest
  dsimp only
  split
  · exact zero
  · split
    · exact zero
    · next k g found =>
      intro c member
      have inText := (List.dropWhile_suffix _).subset (List.mem_reverse.mp member)
      have digits : (toString k).toList = Nat.toDigits 10 k := by
        rw [Nat.toString_eq_repr, Nat.repr_eq_ofList_toDigits, String.toList_ofList]
      rw [List.mem_reverse, digits] at inText
      exact word_of_digits c inText

theorem word_renderDigits (style : Binary64.Style) (m : Nat) (e : Int) :
    (∃ c ∈ Binary64.renderDigits style (Binary64.shortest m e), c ≠ '-') ∧
      ∀ c ∈ Binary64.renderDigits style (Binary64.shortest m e), isWordChar c = true := by
  have digits := shortest_digits m e
  generalize Binary64.shortest m e = d at digits
  have zeros : ∀ n, ∀ c ∈ Binary64.zeros n, isWordChar c = true := by
    intro n c member
    rw [List.eq_of_mem_replicate member]
    decide
  have point : isWordChar '.' = true := by decide
  have zero : isWordChar '0' = true := by decide
  have power : isWordChar 'e' = true := by decide
  have exponent := (word_int (d.point - 1)).chars
  unfold Binary64.renderDigits
  dsimp only
  split
  · split
    · refine ⟨⟨'.', by simp, by decide⟩, ?_⟩
      intro c member
      simp only [List.cons_append, List.mem_cons, List.mem_append] at member
      rcases member with rfl | rfl | member | member
      · exact zero
      · exact point
      · exact zeros _ c member
      · exact digits c member
    · split
      · refine ⟨⟨'.', by simp, by decide⟩, ?_⟩
        intro c member
        simp only [List.mem_append, List.mem_cons, List.not_mem_nil, or_false] at member
        rcases member with (member | member) | rfl | rfl
        · exact digits c member
        · exact zeros _ c member
        · exact point
        · exact zero
      · refine ⟨⟨'.', by simp, by decide⟩, ?_⟩
        intro c member
        simp only [List.mem_append, List.mem_cons] at member
        rcases member with member | rfl | member
        · exact digits c (List.mem_of_mem_take member)
        · exact point
        · exact digits c (List.mem_of_mem_drop member)
  · refine ⟨⟨'e', by simp, by decide⟩, ?_⟩
    intro c member
    simp only [List.mem_append, List.mem_cons] at member
    rcases member with (member | member) | rfl | member
    · exact digits c (List.mem_of_mem_take member)
    · split at member
      · cases member
      · next rest =>
        rcases List.mem_cons.mp member with rfl | member
        · exact point
        · exact digits c (List.mem_of_mem_drop member)
    · exact power
    · exact exponent c member

theorem word_float (x : Binary64) : Word (renderFloat x).toList := by
  cases x with
  | infinite negative => cases negative <;> exact word_of_all (by decide) (by decide)
  | notANumber => exact word_of_all (by decide) (by decide)
  | finite negative m e =>
    obtain ⟨⟨mark, inside, other⟩, chars⟩ :=
      word_renderDigits Binary64.fromHundredThousandth m e
    have filled := List.ne_nil_of_mem inside
    simp only [renderFloat, Binary64.render?, Option.getD_some, String.toList_ofList]
    cases negative with
    | false =>
      refine ⟨filled, chars, fun minus => ?_⟩
      have inMinus : mark ∈ ['-'] := minus ▸ inside
      exact other (List.mem_singleton.mp inMinus)
    | true =>
      refine ⟨List.cons_ne_nil _ _, ?_, fun same => filled (List.cons.inj same).2⟩
      intro c member
      rcases List.mem_cons.mp member with rfl | member
      · decide
      · exact chars c member

def IsWord : Json → Prop
  | .null => True
  | .bool _ => True
  | .number _ => True
  | _ => False

theorem word_scalar {j : Json} (word : IsWord j) : Word (scalarText j) := by
  cases j with
  | null => exact word_of_all (by decide) (by decide)
  | bool b => cases b <;> exact word_of_all (by decide) (by decide)
  | number n =>
    cases n with
    | int i => exact word_int i
    | float x => exact word_float x
  | string s => cases word
  | array items => cases word
  | object fields => cases word

end Rollout.Yaml
