import Rollout.Proofs.Yaml.Printing
import Rollout.Yaml.Token

namespace Rollout.Yaml

-- What a document says: texts, words that stand for something else, and how they are arranged.
inductive Outline where
  | word (s : String)
  | text (s : String)
  | sequence (items : List Outline)
  | mapping (fields : List (String × Outline))

namespace Outline

-- A scalar without quotes is a text unless it stands for something else.
def plain (s : String) : Outline := if isAmbiguous s then .word s else .text s

def text? : Outline → Option String
  | .text s => some s
  | _ => none

def unindent? : Nat → List Char → Option (List Char)
  | 0, cs => some cs
  | _ + 1, [] => none
  | depth + 1, c :: rest => if c = ' ' then unindent? depth rest else none

def takePlain : List Char → List Char × List Char
  | [] => ([], [])
  | c :: rest =>
    if isBreak c || (c = ':' && blankOrEnd rest) then ([], c :: rest)
    else (c :: (takePlain rest).1, (takePlain rest).2)

-- Blanks at the begin of a line do not count.
def takeSingle : Bool → List Char → Option (List Char × List Char)
  | _, [] => none
  | _, '\'' :: '\'' :: rest => (takeSingle false rest).map fun r => ('\'' :: r.1, r.2)
  | _, '\'' :: rest => some ([], rest)
  | fresh, c :: rest =>
    if fresh && c = ' ' then takeSingle true rest
    else (takeSingle (isBreak c) rest).map fun r => (c :: r.1, r.2)

def unescape? : List Char → Option (Char × List Char)
  | [] => none
  | '\\' :: [] => none
  | '\\' :: c :: rest =>
    match Token.escapeDigits? c with
    | some count =>
      (Token.hexNumber? (rest.take count)).map fun n => (Char.ofNat n, rest.drop count)
    | none => (Token.escape? c).map fun d => (d, rest)
  | c :: rest => some (c, rest)

def takeDouble : Nat → List Char → Option (List Char × List Char)
  | _, '"' :: rest => some ([], rest)
  | 0, _ => none
  | fuel + 1, cs => do
    let (c, rest) ← unescape? cs
    (takeDouble fuel rest).map fun r => (c :: r.1, r.2)

-- A scalar as far as it goes, whatever stands behind it on its line.
def flow? : List Char → Option (Outline × List Char)
  | '\'' :: rest => (takeSingle false rest).map fun r => (.text (String.ofList r.1), r.2)
  | '"' :: rest => (takeDouble rest.length rest).map fun r => (.text (String.ofList r.1), r.2)
  | cs => some (plain (String.ofList (takePlain cs).1), (takePlain cs).2)

-- The lines of a block as far as they are indented. The state is none at the begin of a line, and
-- otherwise the indentation that is still to be skipped.
def takeLines (depth : Nat) : Option Nat → List Char → List Char × List Char
  | _, [] => ([], [])
  | none, c :: rest =>
    if isBreak c then (c :: (takeLines depth none rest).1, (takeLines depth none rest).2)
    else if (unindent? depth (c :: rest)).isSome then takeLines depth (some (depth - 1)) rest
    else ([], c :: rest)
  | some 0, c :: rest =>
    let behind := takeLines depth (if isBreak c then none else some 0) rest
    (c :: behind.1, behind.2)
  | some (owed + 1), _ :: rest => takeLines depth (some owed) rest

-- The line ends at the end of a block are kept, cut off or made one.
def chomp (hints lines : List Char) : List Char :=
  let body := (lines.reverse.dropWhile isBreak).reverse
  if hints.contains '+' then lines
  else if hints.contains '-' then body
  else body ++ (lines.drop body.length).take 1

def scalar? (depth : Nat) : List Char → Option (Outline × List Char)
  | '|' :: cs =>
    let hints := cs.takeWhile (· != '\n')
    let lines := takeLines depth none (cs.dropWhile (· != '\n')).tail
    some (.text (String.ofList (chomp hints lines.1)), lines.2)
  | cs =>
    match flow? cs with
    | some (v, '\n' :: rest) => some (v, rest)
    | _ => none

section Blanks

theorem unindent_spaces (depth : Nat) (cs : List Char) :
    unindent? depth (spaces depth ++ cs) = some cs := by
  induction depth with
  | zero => rfl
  | succ depth ih => exact ih

theorem unindent_short {depth n : Nat} (cs : List Char) (short : n < depth)
    (ends : cs.head? ≠ some ' ') : unindent? depth (spaces n ++ cs) = none := by
  induction n generalizing depth with
  | zero =>
    obtain ⟨depth, rfl⟩ := Nat.exists_eq_succ_of_ne_zero (Nat.ne_of_gt short)
    cases cs with
    | nil => rfl
    | cons c rest =>
      have other : c ≠ ' ' := fun same => ends (congrArg some same)
      exact if_neg other
  | succ n ih =>
    obtain ⟨depth, rfl⟩ := Nat.exists_eq_succ_of_ne_zero (Nat.ne_of_gt (Nat.zero_lt_of_lt short))
    exact ih (Nat.lt_of_succ_lt_succ short)

end Blanks

section Flow

variable {cs tail rest : List Char} {c : Char} {s : String} {key : Bool} {depth : Nat}

-- What may stand behind a scalar on its line.
inductive Stops : List Char → Prop
  | line (rest : List Char) : Stops ('\n' :: rest)
  | colon {rest : List Char} : blankOrEnd rest = true → Stops (':' :: rest)

theorem Stops.unquoted (stops : Stops tail) : tail.head? ≠ some '\'' := by
  cases stops <;> simp

theorem takePlain_stops (stops : Stops tail) : takePlain tail = ([], tail) := by
  cases stops with
  | line rest => rfl
  | colon blank => simp [takePlain, blank]

theorem takePlain_text (line : ∀ c ∈ cs, isBreak c = false) (colon : holdsColon cs = false)
    (stops : Stops tail) : takePlain (cs ++ tail) = (cs, tail) := by
  induction cs with
  | nil => exact takePlain_stops stops
  | cons c rest ih =>
    simp only [holdsColon, Bool.or_eq_false_iff] at colon
    have behind := ih (fun d inside => line d (List.mem_cons_of_mem c inside)) colon.2
    have free : (decide (c = ':') && blankOrEnd (rest ++ tail)) = false := by
      cases rest with
      | nil =>
        have other : decide (c = ':') = false := by simpa [blankOrEnd] using colon.1
        rw [other, Bool.false_and]
      | cons d rest => exact colon.1
    rw [List.cons_append, takePlain, line c List.mem_cons_self, free, behind]
    rfl

theorem takeSingle_spaces (n : Nat) (cs : List Char) :
    takeSingle true (spaces n ++ cs) = takeSingle true cs := by
  induction n with
  | zero => rfl
  | succ n ih => exact ih

theorem takeSingle_char (other : c ≠ '\'') {fresh : Bool} (inked : fresh = true → c ≠ ' ')
    (rest : List Char) : takeSingle fresh (c :: rest) =
      (takeSingle (isBreak c) rest).map fun r => (c :: r.1, r.2) := by
  rw [takeSingle]
  · cases fresh with
    | false => rfl
    | true => simp [inked rfl]
  · exact fun _ same => absurd same other
  · exact other

theorem takeSingle_close (fresh : Bool) (open' : tail.head? ≠ some '\'') :
    takeSingle fresh ('\'' :: tail) = some ([], tail) := by
  rw [takeSingle]
  rintro rest rfl
  exact open' rfl

theorem takeSingle_text (depth : Nat) (fresh : Bool) (flush : Flush fresh cs)
    (open' : tail.head? ≠ some '\'') :
    takeSingle fresh (linesText singly depth fresh cs ++
      ((if endsFresh fresh cs then spaces depth else []) ++ '\'' :: tail)) = some (cs, tail) := by
  induction cs generalizing fresh with
  | nil =>
    cases fresh with
    | false => exact takeSingle_close false open'
    | true =>
      change takeSingle true (spaces depth ++ '\'' :: tail) = _
      rw [takeSingle_spaces, takeSingle_close true open']
  | cons c rest ih =>
    have behind := ih (isBreak c) flush.rest
    rw [endsFresh_cons]
    cases broken : isBreak c with
    | true =>
      rw [broken] at behind
      have other : c ≠ '\'' := by rintro rfl; cases broken
      have inked : fresh = true → c ≠ ' ' := by rintro - rfl; cases broken
      simp only [linesText, broken, if_true, List.cons_append]
      rw [takeSingle_char other inked, broken, behind]
      rfl
    | false =>
      rw [broken] at behind
      have inked : fresh = true → c ≠ ' ' := by
        rintro isFresh rfl
        exact flush.2 isFresh rfl
      -- No blank of the text is skipped with the indentation, since none follows a line end.
      have begun (x : List Char) : takeSingle fresh ((if fresh then spaces depth else []) ++ x) =
          takeSingle fresh x := by
        cases fresh with
        | false => rfl
        | true => exact takeSingle_spaces depth x
      simp only [linesText, broken, Bool.false_eq_true, if_false, List.append_assoc, begun]
      by_cases quote : c = '\''
      · subst quote
        simp only [singly, if_true, List.cons_append, List.nil_append, takeSingle]
        rw [behind]
        rfl
      · simp only [singly, quote, if_false, List.cons_append, List.nil_append]
        rw [takeSingle_char quote inked, broken, behind]
        rfl

theorem hexOf_length (width n : Nat) : (hexOf width n).length = width := by
  induction width generalizing n with
  | zero => rfl
  | succ width ih => rw [hexOf, List.length_append, ih]; rfl

theorem hexNumber_hexOf (width n : Nat) :
    Token.hexNumber? (hexOf width n) = some (n % Nat.pow 16 width) := by
  induction width generalizing n with
  | zero => exact congrArg some (Nat.mod_one n).symm
  | succ width ih =>
    have digit := Text.hexValue?_upperHexDigit (n % 16) (Nat.mod_lt n (by decide))
    have joined : n / 16 % Nat.pow 16 width * 16 + n % 16 = n % (16 * Nat.pow 16 width) := by
      rw [Nat.mod_mul]
      omega
    have grown : Nat.pow 16 (width + 1) = 16 * Nat.pow 16 width := Nat.mul_comm _ _
    have heads := ih (n / 16)
    unfold Token.hexNumber? at heads ⊢
    rw [hexOf, List.foldl_append, heads, grown, ← joined]
    simp [digit]

theorem unescape_hex {mark : Char} {width : Nat} (marked : Token.escapeDigits? mark = some width)
    (short : c.toNat < Nat.pow 16 width) (rest : List Char) :
    unescape? ('\\' :: mark :: (hexOf width c.toNat ++ rest)) = some (c, rest) := by
  have length := hexOf_length width c.toNat
  have digits : (hexOf width c.toNat ++ rest).take width = hexOf width c.toNat := by
    rw [List.take_append_of_le_length (Nat.le_of_eq length.symm),
      List.take_of_length_le (Nat.le_of_eq length)]
  have behind : (hexOf width c.toNat ++ rest).drop width = rest := List.drop_left' length
  simp only [unescape?, marked, digits, behind, hexNumber_hexOf, Nat.mod_eq_of_lt short,
    Option.map_some, Char.ofNat_toNat]

theorem toNat_lt (c : Char) : c.toNat < Nat.pow 16 8 := by
  have bound := c.valid
  have large : Nat.pow 16 8 = 4294967296 := by decide
  rw [large]
  exact c.val.toNat_lt

-- A character is read back from what it is escaped to, and that does not end the text.
def Unescapes (c : Char) (escaped : List Char) : Prop :=
  ∀ rest, unescape? (escaped ++ rest) = some (c, rest) ∧ (escaped ++ rest).head? ≠ some '"'

theorem unescapes_mark {mark : Char} {n : Nat} (same : c.toNat = n)
    (digits : Token.escapeDigits? mark = none)
    (marked : Token.escape? mark = some (Char.ofNat n)) : Unescapes c ['\\', mark] := by
  intro rest
  refine ⟨?_, nofun⟩
  rw [← same, Char.ofNat_toNat] at marked
  simp only [List.cons_append, List.nil_append, unescape?, digits, marked, Option.map_some]

theorem unescapes_hex {mark : Char} {width : Nat} (marked : Token.escapeDigits? mark = some width)
    (short : c.toNat < Nat.pow 16 width) :
    Unescapes c ('\\' :: mark :: hexOf width c.toNat) :=
  fun rest => ⟨unescape_hex marked short rest, nofun⟩

theorem unescapes_ite {p : Prop} [Decidable p] {escaped other : List Char}
    (yes : p → Unescapes c escaped) (no : ¬ p → Unescapes c other) :
    Unescapes c (if p then escaped else other) := by
  by_cases holds : p
  · rw [if_pos holds]
    exact yes holds
  · rw [if_neg holds]
    exact no holds

theorem unescapes_escape (c : Char) : Unescapes c (escapeDouble c) := by
  unfold escapeDouble
  dsimp only
  refine unescapes_ite (fun same => unescapes_mark (congrArg Char.toNat same) rfl rfl)
    fun quote => ?_
  refine unescapes_ite (fun same => unescapes_mark (congrArg Char.toNat same) rfl rfl)
    fun slash => ?_
  refine unescapes_ite ?_ fun _ => ?_
  · intro _ rest
    refine ⟨?_, fun same => quote (Option.some.inj same)⟩
    rw [List.singleton_append, unescape?]
    · exact fun same => absurd same slash
    · exact fun _ _ same => absurd same slash
  iterate 12 refine unescapes_ite (fun same => unescapes_mark same rfl rfl) fun _ => ?_
  refine unescapes_ite ?_ fun _ => unescapes_ite ?_ fun _ => ?_
  · exact fun short => unescapes_hex rfl (Nat.lt_succ_of_le short)
  · exact fun short => unescapes_hex rfl (Nat.lt_succ_of_le short)
  · exact unescapes_hex rfl (toNat_lt c)

theorem takeDouble_text {fuel : Nat} (fits : cs.length ≤ fuel) (tail : List Char) :
    takeDouble fuel (cs.flatMap escapeDouble ++ '"' :: tail) = some (cs, tail) := by
  induction cs generalizing fuel with
  | nil => simp [takeDouble]
  | cons c rest ih =>
    obtain ⟨fuel, rfl⟩ := Nat.exists_eq_succ_of_ne_zero (n := fuel) (by
      rintro rfl
      cases fits)
    obtain ⟨read, first⟩ := unescapes_escape c (rest.flatMap escapeDouble ++ '"' :: tail)
    have later := ih (Nat.le_of_succ_le_succ fits)
    rw [List.flatMap_cons, List.append_assoc, takeDouble, read]
    · simp [later]
    · rintro more same
      rw [same] at first
      exact first rfl

theorem escapeDouble_pos (c : Char) : 0 < (escapeDouble c).length := by
  refine List.length_pos_of_ne_nil fun none => ?_
  have read := (unescapes_escape c []).1
  rw [none] at read
  cases read

theorem escapes_length (cs : List Char) : cs.length ≤ (cs.flatMap escapeDouble).length := by
  induction cs with
  | nil => exact Nat.le_refl 0
  | cons c rest ih =>
    have first := escapeDouble_pos c
    rw [List.flatMap_cons, List.length_append, List.length_cons]
    omega

theorem flow_plain (text : PlainText cs) (stops : Stops tail) :
    flow? (cs ++ tail) = some (plain (String.ofList cs), tail) := by
  obtain ⟨c, rest, rfl⟩ := List.exists_cons_of_ne_nil text.nonempty
  have starts := text.starts
  simp only [startsIndicator, Bool.or_eq_false_iff] at starts
  have single : c ≠ '\'' := by rintro rfl; exact absurd starts.1 (by decide)
  have double : c ≠ '"' := by rintro rfl; exact absurd starts.1 (by decide)
  rw [flow?, takePlain_text text.line text.colon stops]
  · rintro rest same
    exact single (List.cons.inj same).1
  · rintro rest same
    exact double (List.cons.inj same).1

theorem flow_text (depth : Nat) (flow : styleOf key s ≠ .literal) (stops : Stops tail) :
    flow? (flowText depth (styleOf key s) s.toList ++ tail) = some (.text s, tail) := by
  cases styled : styleOf key s with
  | plain =>
    obtain ⟨clear, text, -⟩ := plain_of_style styled
    rw [flowText, flow_plain text stops, String.ofList_toList, plain, clear]
    rfl
  | single =>
    obtain ⟨-, flush⟩ := single_of_style styled
    have read := takeSingle_text depth false flush stops.unquoted
    simp only [flowText, List.cons_append, List.append_assoc, List.nil_append, flow?, read,
      Option.map_some, String.ofList_toList]
  | double =>
    have fits : s.toList.length ≤ (s.toList.flatMap escapeDouble ++ '"' :: tail).length := by
      rw [List.length_append]
      exact Nat.le_add_right_of_le (escapes_length s.toList)
    have read := takeDouble_text fits tail
    simp only [flowText, List.cons_append, List.append_assoc, List.nil_append, flow?, read,
      Option.map_some, String.ofList_toList]
  | literal => exact absurd styled flow

end Flow

section Blocks

variable {depth : Nat} {cs rest : List Char} {c : Char} {s : String} {key : Bool}

-- What may stand behind a value whose lines begin at a column or further right.
inductive Over (depth : Nat) : List Char → Prop
  | nil : Over depth []
  | marker (rest : List Char) : Over depth ('-' :: '-' :: '-' :: '\n' :: rest)
  | outer {column : Nat} {c : Char} (rest : List Char) : column < depth → c ≠ ' ' →
      isBreak c = false → Over depth (spaces column ++ c :: rest)

theorem Over.first (past : Over depth (c :: rest)) : isBreak c = false := by
  generalize same : c :: rest = cs at past
  cases past with
  | nil => cases same
  | marker rest =>
    obtain rfl := (List.cons.inj same).1
    rfl
  | @outer column d rest before other unbroken =>
    cases column with
    | zero =>
      obtain rfl := (List.cons.inj same).1
      exact unbroken
    | succ column =>
      obtain rfl := (List.cons.inj same).1
      rfl

theorem Over.unindent (past : Over depth rest) (deep : 0 < depth) :
    unindent? depth rest = none := by
  cases past with
  | nil => exact unindent_short [] deep nofun
  | marker rest => exact unindent_short (n := 0) _ deep (by simp)
  | outer rest before other unbroken =>
    refine unindent_short _ before fun same => ?_
    exact other (Option.some.inj same)

theorem takeLines_over (past : Over depth rest) (deep : 0 < depth) :
    takeLines depth none rest = ([], rest) := by
  cases rest with
  | nil => rfl
  | cons c rest => simp [takeLines, past.first, past.unindent deep]

theorem takeLines_owed (owed : Nat) (cs : List Char) :
    takeLines depth (some owed) (spaces owed ++ cs) = takeLines depth (some 0) cs := by
  induction owed with
  | zero => rfl
  | succ owed ih => exact ih

theorem takeLines_spaces (deep : 0 < depth) (cs : List Char) :
    takeLines depth none (spaces depth ++ cs) = takeLines depth (some 0) cs := by
  obtain ⟨depth, rfl⟩ := Nat.exists_eq_succ_of_ne_zero (Nat.ne_of_gt deep)
  have indented := unindent_spaces (depth + 1) cs
  have line : spaces (depth + 1) ++ cs = ' ' :: (spaces depth ++ cs) := rfl
  rw [line] at indented ⊢
  have blank : isBreak ' ' = false := by decide
  simp [takeLines, indented, blank, takeLines_owed]

theorem takeLines_text (cs : List Char) (deep : 0 < depth) (past : Over depth rest) (fresh : Bool) :
    takeLines depth (if fresh then none else some 0) (linesText plainly depth fresh cs ++
      ((if endsFresh fresh cs then [] else ['\n']) ++ rest)) =
        (cs ++ (if endsFresh fresh cs then [] else ['\n']), rest) := by
  induction cs generalizing fresh with
  | nil =>
    have stop := takeLines_over past deep
    cases fresh with
    | true => exact stop
    | false =>
      have broken : isBreak '\n' = true := by decide
      simp [linesText, endsFresh, takeLines, broken, stop]
  | cons c more ih =>
    have behind := ih (isBreak c)
    rw [endsFresh_cons]
    cases broken : isBreak c with
    | true =>
      rw [broken] at behind
      simp only [if_true] at behind
      cases fresh <;> simp [linesText, broken, takeLines, behind]
    | false =>
      rw [broken] at behind
      simp only [Bool.false_eq_true, if_false] at behind
      have inked (x : List Char) : takeLines depth (if fresh then none else some 0)
          ((if fresh then spaces depth else []) ++ x) = takeLines depth (some 0) x := by
        cases fresh with
        | false => rfl
        | true => exact takeLines_spaces deep x
      simp only [linesText, broken, plainly, Bool.false_eq_true, if_false, List.append_assoc,
        inked]
      simp [takeLines, broken, behind]

theorem endsFresh_concat (fresh : Bool) (cs : List Char) (c : Char) :
    endsFresh fresh (cs ++ [c]) = isBreak c := by
  simp [endsFresh]

theorem literalHints_eq (cs : List Char) : ∃ width, (width = [] ∨ width = ['2']) ∧
    literalHints cs = width ++ match cs.reverse with
      | [] => ['-']
      | [c] => if isBreak c then ['+'] else ['-']
      | c :: d :: _ => if isBreak c then (if isBreak d then ['+'] else []) else ['-'] := by
  refine ⟨_, ?_, rfl⟩
  split
  · exact .inr rfl
  · exact .inl rfl

theorem chomp_hints (cs : List Char) :
    chomp (literalHints cs) (cs ++ if endsFresh true cs then [] else ['\n']) = cs := by
  obtain ⟨width, digit, hints⟩ := literalHints_eq cs
  rw [hints]
  have feed : isBreak '\n' = true := by decide
  obtain rfl | ⟨init, c, rfl⟩ := cs.eq_nil_or_concat'
  · rcases digit with rfl | rfl <;> rfl
  rw [endsFresh_concat]
  cases broken : isBreak c with
  | false =>
    obtain rfl | ⟨init, d, rfl⟩ := init.eq_nil_or_concat'
    all_goals rcases digit with rfl | rfl <;> simp [chomp, broken, feed]
  | true =>
    obtain rfl | ⟨init, d, rfl⟩ := init.eq_nil_or_concat'
    · rcases digit with rfl | rfl <;> simp [chomp, broken]
    · cases twice : isBreak d <;> rcases digit with rfl | rfl <;> simp [chomp, broken, twice]

theorem literalHints_line (cs : List Char) : ∀ c ∈ literalHints cs, (c != '\n') = true := by
  obtain ⟨width, digit, hints⟩ := literalHints_eq cs
  rw [hints]
  intro c member
  have sign : c = '2' ∨ c = '+' ∨ c = '-' := by
    rcases List.mem_append.mp member with inside | inside
    · rcases digit with rfl | rfl
      · cases inside
      · exact .inl (List.mem_singleton.mp inside)
    · split at inside
      · exact .inr (.inr (List.mem_singleton.mp inside))
      · split at inside
        · exact .inr (.inl (List.mem_singleton.mp inside))
        · exact .inr (.inr (List.mem_singleton.mp inside))
      · split at inside
        · split at inside
          · exact .inr (.inl (List.mem_singleton.mp inside))
          · cases inside
        · exact .inr (.inr (List.mem_singleton.mp inside))
  rcases sign with rfl | rfl | rfl <;> decide

theorem scalar_literal (deep : 0 < depth) (past : Over depth rest) :
    scalar? depth (literalText depth s.toList ++ rest) = some (.text s, rest) := by
  have hints := literalHints_line s.toList
  have lines := takeLines_text s.toList deep past true
  simp only [if_true] at lines
  simp only [literalText, List.cons_append, List.append_assoc, scalar?,
    List.takeWhile_append_of_pos hints, List.dropWhile_append_of_pos hints, List.takeWhile_cons,
    List.dropWhile_cons, bne_self_eq_false, Bool.false_eq_true, if_false, List.tail_cons, lines,
    List.append_nil, chomp_hints, String.ofList_toList]

theorem scalar_flow {value : Outline} (unbarred : cs.head? ≠ some '|')
    (read : flow? cs = some (value, '\n' :: rest)) : scalar? depth cs = some (value, rest) := by
  rw [scalar?, read]
  · rfl
  · rintro behind rfl
    exact unbarred rfl

end Blocks

end Outline

end Rollout.Yaml
