import Rollout.Proofs.Yaml.Styles

namespace Rollout.Yaml

def spaces (n : Nat) : List Char := List.replicate n ' '

theorem spaces_reverse (n : Nat) : (spaces n).reverse = spaces n := List.reverse_replicate

def plainly (c : Char) : List Char := [c]

def singly (c : Char) : List Char := if c = '\'' then ['\'', '\''] else [c]

-- Whether a line has just ended behind a text, if it had or had not before it.
def endsFresh (fresh : Bool) (cs : List Char) : Bool := (cs.getLast?.map isBreak).getD fresh

-- A text whose lines begin behind an indentation, the first one just if it is fresh.
def linesText (write : Char → List Char) (depth : Nat) : Bool → List Char → List Char
  | _, [] => []
  | fresh, c :: rest =>
    if isBreak c then c :: linesText write depth true rest
    else (if fresh then spaces depth else []) ++ write c ++ linesText write depth false rest

-- A scalar that goes on where the line stands, without the end of that line.
def flowText (depth : Nat) (style : Style) (cs : List Char) : List Char :=
  match style with
  | .plain => cs
  | .single =>
    '\'' :: linesText singly depth false cs ++
      (if endsFresh false cs then spaces depth else []) ++ ['\'']
  | .double => '"' :: cs.flatMap escapeDouble ++ ['"']
  | .literal => []

def literalText (depth : Nat) (cs : List Char) : List Char :=
  '|' :: literalHints cs ++ '\n' :: linesText plainly depth true cs ++
    if endsFresh true cs then [] else ['\n']

def scalarLine (depth : Nat) (style : Style) (cs : List Char) : List Char :=
  if style = .literal then literalText depth cs else flowText depth style cs ++ ['\n']

def keyText (depth : Nat) (k : String) : List Char :=
  if isSimpleKey k then flowText (depth + 2) (styleOf true k) k.toList ++ [':']
  else '?' :: ' ' :: scalarLine (depth + 2) (styleOf false k) k.toList ++ spaces depth ++ [':']

-- What leads from an indicator to the value behind it, and the column where that begins. Behind a
-- key on its own line the values with entries get lines of their own.
def leadOf (depth : Nat) (keyed : Bool) : Json → List Char
  | .array (_ :: _) => if keyed then '\n' :: spaces depth else [' ']
  | .object (_ :: _) => if keyed then '\n' :: spaces (depth + 2) else [' ']
  | _ => [' ']

def columnOf (depth : Nat) (keyed : Bool) : Json → Nat
  | .array (_ :: _) => if keyed then depth else depth + 2
  | _ => depth + 2

mutual
-- The text of a value that begins at a column, up to the end of its last line.
def nodeText (depth : Nat) : Json → List Char
  | .string s => scalarLine (max depth 2) (styleOf false s) s.toList
  | .array [] => ['[', ']', '\n']
  | .array items => itemsText depth items
  | .object [] => ['\x7b', '\x7d', '\n']
  | .object fields => fieldsText depth fields
  | .null => scalarText .null ++ ['\n']
  | .bool b => scalarText (.bool b) ++ ['\n']
  | .number n => scalarText (.number n) ++ ['\n']
def itemsText (depth : Nat) : List Json → List Char
  | [] => []
  | [j] => '-' :: ' ' :: nodeText (depth + 2) j
  | j :: rest => '-' :: ' ' :: nodeText (depth + 2) j ++ spaces depth ++ itemsText depth rest
def fieldsText (depth : Nat) : List (String × Json) → List Char
  | [] => []
  | [(k, j)] =>
    keyText depth k ++ leadOf depth (isSimpleKey k) j ++
      nodeText (columnOf depth (isSimpleKey k) j) j
  | (k, j) :: rest =>
    keyText depth k ++ leadOf depth (isSimpleKey k) j ++
      nodeText (columnOf depth (isSimpleKey k) j) j ++ spaces depth ++ fieldsText depth rest
end

namespace Pen

variable {p : Pen} {depth : Nat} {cs out : List Char}

theorem putMany_eq (p : Pen) (cs : List Char) :
    p.putMany cs = { p with out := cs.reverse ++ p.out, column := p.column + cs.length } := by
  induction cs generalizing p with
  | nil => rfl
  | cons c rest ih =>
    change (p.put c).putMany rest = _
    rw [ih]
    simp only [put, List.reverse_cons, List.append_assoc, List.length_cons]
    congr 1
    omega

-- Behind a text that is over for its line: nothing is owed but a line end, if that.
def Settled (p : Pen) : Prop := p.margin = false ∨ p.margin = true ∧ p.column = 0 ∧ p.gap = true

def closed (p : Pen) : List Char := if p.margin then p.out else '\n' :: p.out

theorem indent_fresh (depth : Nat) (margin : p.margin = true) (short : p.column ≤ depth)
    (free : p.column = depth → p.gap = true) :
    p.indent depth = ⟨spaces (depth - p.column) ++ p.out, depth, true, true⟩ := by
  have calm : (!p.margin || decide (depth < p.column) ||
      (decide (p.column = depth) && !p.gap)) = false := by
    by_cases same : p.column = depth
    · simp [margin, same, free same]
    · simp [margin, same, short]
  unfold indent
  simp only [calm, Bool.false_eq_true, if_false, putMany_eq, List.length_replicate]
  rw [← spaces, spaces_reverse]
  congr 1
  omega

theorem closed_used (used : p.margin = false) : p.closed = '\n' :: p.out := by
  rw [closed, used]
  rfl

theorem indent_settled (settled : p.Settled) (depth : Nat) :
    p.indent depth = ⟨spaces depth ++ p.closed, depth, true, true⟩ := by
  rcases settled with used | ⟨margin, column, gap⟩
  · simp [indent, closed, used, putMany_eq, lineFeed, spaces, List.reverse_replicate]
  · rw [indent_fresh _ margin (by omega) fun _ => gap, closed, margin, column]
    rfl

theorem indent_start (margin : p.margin = true) (column : p.column = 0) (deep : 0 < depth) :
    p.indent depth = ⟨spaces depth ++ p.out, depth, true, true⟩ := by
  have short : p.column ≤ depth := by omega
  have apart : p.column ≠ depth := by omega
  rw [indent_fresh _ margin short fun same => absurd same apart, column]
  rfl

end Pen

section Scalars

variable {write : Char → List Char} {p : Pen} {depth : Nat} {fresh : Bool} {cs : List Char}

theorem endsFresh_cons (fresh : Bool) (c : Char) (rest : List Char) :
    endsFresh fresh (c :: rest) = endsFresh (isBreak c) rest := by
  cases rest with
  | nil => rfl
  | cons d rest =>
    simp only [endsFresh, List.getLast?_cons_cons]
    rw [List.getLast?_eq_some_getLast (List.cons_ne_nil d rest)]
    rfl

-- By induction on the text. Behind a line end the pen stands at the margin, and there the indentation
-- is written with the next character.
theorem writeLines_text (write : Char → List Char) (blank : write ' ' = [' '])
    (deep : 0 < depth) (fresh : Bool) (p : Pen) (one : '\n' ∉ cs) (flush : Flush fresh cs)
    (start : fresh = true → p.margin = true ∧ p.column = 0) :
    ∃ q, writeLines write depth fresh p cs = (endsFresh fresh cs, q) ∧
      q.out = (linesText write depth fresh cs).reverse ++ p.out ∧
      (endsFresh fresh cs = true → q.margin = true ∧ q.column = 0) := by
  induction cs generalizing fresh p with
  | nil => exact ⟨p, rfl, rfl, start⟩
  | cons c rest ih =>
    have one' : '\n' ∉ rest := fun later => one (List.mem_cons_of_mem c later)
    have flush' := flush.rest
    rw [endsFresh_cons]
    cases broken : isBreak c with
    | true =>
      have other : c ≠ '\n' := fun same => one (same ▸ List.mem_cons_self)
      rw [broken] at flush'
      obtain ⟨q, wrote, text, stands⟩ := ih true ⟨c :: p.out, 0, p.gap, true⟩ one' flush'
        fun _ => ⟨rfl, rfl⟩
      refine ⟨q, ?_, ?_, stands⟩
      · rw [← wrote, writeLines]
        simp [broken, other, Pen.lineEnd]
      · simp [text, linesText, broken]
    | false =>
      rw [broken] at flush'
      by_cases space : c = ' '
      · subst space
        have begun : fresh = false := Bool.eq_false_iff.mpr fun isFresh => flush.2 isFresh rfl
        subst begun
        obtain ⟨q, wrote, text, stands⟩ := ih false (p.put ' ') one' flush' nofun
        refine ⟨q, ?_, ?_, stands⟩
        · rw [← wrote, writeLines]
          simp [broken]
        · simp [text, linesText, broken, blank, Pen.put]
      · let inked := (if fresh then p.indent depth else p).putMany (write c)
        obtain ⟨q, wrote, text, stands⟩ :=
          ih false ⟨inked.out, inked.column, inked.gap, false⟩ one' flush' nofun
        refine ⟨q, ?_, ?_, stands⟩
        · rw [← wrote, writeLines]
          simp [broken, space, inked]
        · have ink : inked.out = (write c).reverse ++
              ((if fresh then spaces depth else []) ++ p.out) := by
            cases fresh with
            | false => simp [inked, Pen.putMany_eq]
            | true =>
              obtain ⟨margin, column⟩ := start rfl
              simp only [inked, if_true, Pen.putMany_eq, Pen.indent_start margin column deep]
          simp only [text, ink, linesText, broken, Bool.false_eq_true, if_false]
          cases fresh <;> simp [spaces_reverse]

theorem writeLiteral_text (cs : List Char) (deep : 0 < depth) (fresh : Bool) (p : Pen)
    (gap : p.gap = true) (start : if fresh then p.margin = true ∧ p.column = 0 else p.margin = false) :
    (writeLiteral depth fresh p cs).out = (linesText plainly depth fresh cs).reverse ++ p.out ∧
      (writeLiteral depth fresh p cs).gap = true ∧
      if endsFresh fresh cs then
        (writeLiteral depth fresh p cs).margin = true ∧ (writeLiteral depth fresh p cs).column = 0
      else (writeLiteral depth fresh p cs).margin = false := by
  induction cs generalizing fresh p with
  | nil => exact ⟨rfl, gap, start⟩
  | cons c rest ih =>
    rw [endsFresh_cons]
    cases broken : isBreak c with
    | true =>
      have step : writeLiteral depth fresh p (c :: rest) =
          writeLiteral depth true ⟨c :: p.out, 0, p.gap, true⟩ rest := by
        rw [writeLiteral]
        simp [broken, Pen.lineEnd]
      obtain ⟨text, gap', stands⟩ := ih true ⟨c :: p.out, 0, p.gap, true⟩ gap ⟨rfl, rfl⟩
      rw [step]
      refine ⟨?_, gap', stands⟩
      simp [text, linesText, broken]
    | false =>
      let inked := (if fresh then p.indent depth else p).put c
      have step : writeLiteral depth fresh p (c :: rest) =
          writeLiteral depth false ⟨inked.out, inked.column, inked.gap, false⟩ rest := by
        rw [writeLiteral]
        simp [broken, inked]
      have inks : inked.out = c :: ((if fresh then spaces depth else []) ++ p.out) ∧
          inked.gap = true := by
        cases fresh with
        | false => exact ⟨rfl, gap⟩
        | true =>
          obtain ⟨margin, column⟩ : p.margin = true ∧ p.column = 0 := start
          simp only [inked, if_true, Pen.indent_start margin column deep, Pen.put, and_self]
      obtain ⟨text, gap', stands⟩ :=
        ih false ⟨inked.out, inked.column, inked.gap, false⟩ inks.2 rfl
      rw [step]
      refine ⟨?_, gap', stands⟩
      rw [text]
      simp only [inks.1, linesText, broken, plainly, Bool.false_eq_true, if_false]
      cases fresh <;> simp [spaces_reverse]

theorem writeLines_line (depth : Nat) (single : ∀ c ∈ cs, isBreak c = false) (p : Pen) :
    ∃ q, writeLines plainly depth false p cs = (false, q) ∧ q.out = cs.reverse ++ p.out := by
  induction cs generalizing p with
  | nil => exact ⟨p, rfl, rfl⟩
  | cons c rest ih =>
    have first := single c List.mem_cons_self
    have later : ∀ d ∈ rest, isBreak d = false := fun d inside =>
      single d (List.mem_cons_of_mem c inside)
    by_cases space : c = ' '
    · subst space
      obtain ⟨q, wrote, text⟩ := ih later (p.put ' ')
      refine ⟨q, ?_, ?_⟩
      · rw [← wrote, writeLines]
        simp [first]
      · simp [text, Pen.put]
    · obtain ⟨q, wrote, text⟩ := ih later ⟨c :: p.out, p.column + 1, p.gap, false⟩
      refine ⟨q, ?_, ?_⟩
      · rw [← wrote, writeLines]
        simp [first, space, plainly, Pen.putMany_eq]
      · simp [text]

def Suits (style : Style) (cs : List Char) : Prop :=
  match style with
  | .plain => cs ≠ [] ∧ ∀ c ∈ cs, isBreak c = false
  | .single => '\n' ∉ cs ∧ Flush false cs
  | .double => True
  | .literal => True

-- What a scalar is put behind: a gap, which is made if there is none.
def Pen.spaced (p : Pen) : List Char := if p.gap then p.out else ' ' :: p.out

theorem Pen.indicator_out (p : Pen) (cs : List Char) (isMargin : Bool) :
    (p.indicator cs true isMargin).out = cs.reverse ++ p.spaced := by
  cases gap : p.gap <;> simp [indicator, putMany_eq, spaced, gap, put]

theorem writeScalar_flow (depth : Nat) {style : Style} (suits : Suits style cs)
    (flow : style ≠ .literal) (deep : style = .single → 0 < depth) (p : Pen) :
    (writeScalar p depth style cs).out = (flowText depth style cs).reverse ++ p.spaced ∧
      (writeScalar p depth style cs).gap = false ∧
      (writeScalar p depth style cs).margin = false := by
  cases style with
  | plain =>
    obtain ⟨some, single⟩ := suits
    obtain ⟨q, wrote, text⟩ := writeLines_line depth single
      (if !p.gap && !cs.isEmpty then p.put ' ' else p)
    refine ⟨?_, rfl, rfl⟩
    change (writeLines plainly depth false _ cs).2.out = _
    rw [wrote, text]
    cases gap : p.gap <;> simp [flowText, Pen.spaced, gap, some, Pen.put]
  | single =>
    obtain ⟨one, flush⟩ := suits
    obtain ⟨q, wrote, text, stands⟩ := writeLines_text singly rfl (deep rfl) false
      (p.indicator ['\''] true false) one flush nofun
    refine ⟨?_, rfl, rfl⟩
    have quoted : (writeScalar p depth .single cs).out =
        '\'' :: (if endsFresh false cs then q.indent depth else q).out := by
      unfold writeScalar
      change Pen.out (Pen.content (Pen.indicator (if (writeLines singly depth false _ cs).1 then
        (writeLines singly depth false _ cs).2.indent depth else
        (writeLines singly depth false _ cs).2) _ false false)) = _
      rw [wrote]
      rfl
    rw [quoted]
    cases ended : endsFresh false cs with
    | false => simp [flowText, ended, text, Pen.indicator_out]
    | true =>
      obtain ⟨margin, column⟩ := stands ended
      simp [flowText, ended, text, Pen.indent_start margin column (deep rfl), Pen.indicator_out,
        spaces_reverse]
  | double =>
    refine ⟨?_, rfl, rfl⟩
    have quoted : (writeScalar p depth .double cs).out =
        '"' :: ((cs.flatMap escapeDouble).reverse ++ (p.indicator ['"'] true false).out) := by
      simp [writeScalar, Pen.content, Pen.putMany_eq, Pen.indicator]
    rw [quoted, Pen.indicator_out]
    simp [flowText]
  | literal => exact absurd rfl flow

theorem writeScalar_line {style : Style} (suits : Suits style cs) (deep : 0 < depth) (p : Pen) :
    (writeScalar p depth style cs).Settled ∧
      (writeScalar p depth style cs).closed = (scalarLine depth style cs).reverse ++ p.spaced := by
  by_cases flow : style = .literal
  · subst flow
    have ink := p.indicator_out ('|' :: literalHints cs) false
    obtain ⟨text, gap, stands⟩ := writeLiteral_text cs deep true
      ⟨'\n' :: (p.indicator ('|' :: literalHints cs) true false).out, 0, true, true⟩ rfl ⟨rfl, rfl⟩
    have wrote : writeScalar p depth .literal cs = writeLiteral depth true
      ⟨'\n' :: (p.indicator ('|' :: literalHints cs) true false).out, 0, true, true⟩ cs := rfl
    rw [← wrote] at text gap stands
    generalize writeScalar p depth .literal cs = q at text gap stands
    cases ended : endsFresh true cs with
    | false =>
      rw [ended] at stands
      have used : q.margin = false := stands
      refine ⟨.inl used, ?_⟩
      simp [Pen.closed, used, text, ink, scalarLine, literalText, ended]
    | true =>
      rw [ended] at stands
      have margin : q.margin = true := stands.1
      refine ⟨.inr ⟨margin, stands.2, gap⟩, ?_⟩
      simp [Pen.closed, margin, text, ink, scalarLine, literalText, ended]
  · obtain ⟨text, -, used⟩ := writeScalar_flow depth suits flow (fun _ => deep) p
    refine ⟨.inl used, ?_⟩
    simp [Pen.closed, used, text, scalarLine, flow]

theorem suits_style (key : Bool) (s : String) : Suits (styleOf key s) s.toList := by
  cases styled : styleOf key s with
  | plain =>
    obtain ⟨-, plain, -⟩ := plain_of_style styled
    exact ⟨plain.nonempty, plain.line⟩
  | single => exact single_of_style styled
  | double => trivial
  | literal => trivial

theorem writeScalar_word {j : Json} (word : IsWord j) (p : Pen) :
    (writeScalar p 0 .plain (scalarText j)).Settled ∧
      (writeScalar p 0 .plain (scalarText j)).closed =
        (scalarText j ++ ['\n']).reverse ++ p.spaced := by
  have plain := (word_scalar word).plain
  have suits : Suits .plain (scalarText j) := ⟨plain.nonempty, plain.line⟩
  obtain ⟨text, -, used⟩ := writeScalar_flow 0 suits nofun nofun p
  refine ⟨.inl used, ?_⟩
  simp [Pen.closed, used, text, flowText]

end Scalars

variable {p : Pen} {depth : Nat} {out : List Char}

-- Where a value is put behind an indicator: on a line with nothing but such, or behind a key.
structure Pen.Behind (p : Pen) (depth : Nat) : Prop where
  gap : p.gap = false
  column : p.margin = true → p.column = depth + 1

theorem leadOf_inline (depth : Nat) (j : Json) : leadOf depth false j = [' '] := by
  unfold leadOf
  split <;> rfl

theorem columnOf_inline (depth : Nat) (j : Json) : columnOf depth false j = depth + 2 := by
  unfold columnOf
  split <;> rfl

def writeKey (p : Pen) (depth : Nat) (k : String) : Pen :=
  if isSimpleKey k then
    (writeScalar p (depth + 2) (styleOf true k) k.toList).indicator [':'] false false
  else
    ((writeScalar (p.indicator ['?'] true true) (depth + 2) (styleOf false k) k.toList).indent
      depth).indicator [':'] true true

theorem writeKey_text (k : String) (out : List Char) (depth : Nat) :
    (writeKey ⟨out, depth, true, true⟩ depth k).Behind depth ∧
      (writeKey ⟨out, depth, true, true⟩ depth k).out = (keyText depth k).reverse ++ out ∧
      (writeKey ⟨out, depth, true, true⟩ depth k).margin = !isSimpleKey k := by
  cases simple : isSimpleKey k with
  | true =>
    obtain ⟨text, gap, used⟩ := writeScalar_flow _ (suits_style true k) key_not_literal
      (fun _ => Nat.succ_pos (depth + 1)) ⟨out, depth, true, true⟩
    simp only [writeKey, simple, if_true]
    refine ⟨⟨rfl, ?_⟩, ?_, ?_⟩
    · intro margin
      simp [Pen.indicator] at margin
    · simp [Pen.indicator, Pen.putMany_eq, text, Pen.spaced, keyText, simple]
    · simp [Pen.indicator]
  | false =>
    obtain ⟨settled, text⟩ := writeScalar_line (suits_style false k) (Nat.succ_pos (depth + 1))
      (Pen.indicator ⟨out, depth, true, true⟩ ['?'] true true)
    simp only [writeKey, simple, Bool.false_eq_true, if_false]
    rw [Pen.indent_settled settled, text]
    refine ⟨⟨rfl, fun _ => ?_⟩, ?_, rfl⟩
    · simp [Pen.indicator, Pen.putMany_eq]
    · simp [Pen.indicator, Pen.putMany_eq, Pen.spaced, keyText, simple, spaces_reverse]

-- By recursion on the value. Whatever was written, the pen owes at most the end of its line, so that
-- the next entry begins on a line of its own.
mutual
theorem writeNode_text : ∀ (j : Json) (keyed : Bool) {p : Pen} {depth : Nat}, p.Behind depth →
    (keyed = true ∨ p.margin = true) →
    (writeNode (some depth) keyed p j).Settled ∧
      (writeNode (some depth) keyed p j).closed =
        (leadOf depth (!p.margin) j ++ nodeText (columnOf depth (!p.margin) j) j).reverse ++ p.out
  | .null, keyed, p, depth, behind, _ => by
    simpa [Pen.spaced, behind.gap, leadOf, nodeText, writeNode] using
      writeScalar_word (j := .null) trivial p
  | .bool b, keyed, p, depth, behind, _ => by
    simpa [Pen.spaced, behind.gap, leadOf, nodeText, writeNode] using
      writeScalar_word (j := .bool b) trivial p
  | .number n, keyed, p, depth, behind, _ => by
    simpa [Pen.spaced, behind.gap, leadOf, nodeText, writeNode] using
      writeScalar_word (j := .number n) trivial p
  | .string s, keyed, p, depth, behind, _ => by
    have deep : 0 < depth + 2 := Nat.succ_pos (depth + 1)
    simpa [Pen.spaced, behind.gap, leadOf, nodeText, columnOf, writeNode] using
      writeScalar_line (suits_style false s) deep p
  | .array [], keyed, p, depth, behind, _ => by
    simp [writeNode, Pen.indicator, Pen.putMany_eq, behind.gap, Pen.put, Pen.Settled, Pen.closed,
      leadOf, nodeText]
  | .array (j :: items), keyed, p, depth, behind, placed => by
    have filled : j :: items ≠ [] := List.cons_ne_nil j items
    cases margin : p.margin with
    | false =>
      have keyed' : keyed = true := by simpa [margin] using placed
      obtain ⟨settled, text⟩ := writeItems_text (j :: items) filled
        (Pen.indent_settled (.inl margin) depth)
      simp only [writeNode, keyed', margin]
      refine ⟨settled, ?_⟩
      rw [Pen.closed_used margin] at text
      simp [text, leadOf, nodeText, columnOf, spaces_reverse]
    | true =>
      have column := behind.column margin
      obtain ⟨settled, text⟩ := writeItems_text (j :: items) filled
        (Pen.indent_fresh (depth + 2) margin (by omega) (by omega))
      simp only [writeNode, margin, Bool.not_true, Bool.and_false, Bool.false_eq_true, if_false]
      refine ⟨settled, ?_⟩
      simp [text, leadOf, nodeText, columnOf, column, spaces]
  | .object [], keyed, p, depth, behind, _ => by
    simp [writeNode, Pen.indicator, Pen.putMany_eq, behind.gap, Pen.put, Pen.Settled, Pen.closed,
      leadOf, nodeText]
  | .object (f :: fields), keyed, p, depth, behind, _ => by
    have filled : f :: fields ≠ [] := List.cons_ne_nil f fields
    cases margin : p.margin with
    | false =>
      obtain ⟨settled, text⟩ := writeFields_text (f :: fields) filled
        (Pen.indent_settled (.inl margin) (depth + 2))
      refine ⟨settled, ?_⟩
      rw [Pen.closed_used margin] at text
      simp [writeNode, text, leadOf, nodeText, columnOf, spaces_reverse]
    | true =>
      have column := behind.column margin
      obtain ⟨settled, text⟩ := writeFields_text (f :: fields) filled
        (Pen.indent_fresh (depth + 2) margin (by omega) (by omega))
      refine ⟨settled, ?_⟩
      simp [writeNode, text, leadOf, nodeText, columnOf, column, spaces]
theorem writeItems_text : ∀ (items : List Json) {p : Pen} {depth : Nat} {out : List Char},
    items ≠ [] → p.indent depth = ⟨out, depth, true, true⟩ →
    (writeItems depth p items).Settled ∧
      (writeItems depth p items).closed = (itemsText depth items).reverse ++ out
  | [], _, _, _, filled, _ => absurd rfl filled
  | j :: rest, p, depth, out, _, start => by
    have marked : (Pen.indent p depth).indicator ['-'] true true =
        ⟨'-' :: out, depth + 1, false, true⟩ := by
      simp [start, Pen.indicator, Pen.putMany_eq]
    have behind : Pen.Behind ⟨'-' :: out, depth + 1, false, true⟩ depth := ⟨rfl, fun _ => rfl⟩
    obtain ⟨settled, text⟩ := writeNode_text j false behind (.inr rfl)
    simp only [Bool.not_true, leadOf_inline, columnOf_inline] at text
    rw [writeItems, marked]
    cases rest with
    | nil =>
      refine ⟨settled, ?_⟩
      rw [writeItems, text]
      simp [itemsText]
    | cons next rest =>
      obtain ⟨settled', text'⟩ := writeItems_text (next :: rest) (List.cons_ne_nil next rest)
        (Pen.indent_settled settled depth)
      refine ⟨settled', ?_⟩
      rw [text', text]
      simp [itemsText, spaces_reverse]
theorem writeFields_text : ∀ (fields : List (String × Json)) {p : Pen} {depth : Nat}
    {out : List Char}, fields ≠ [] → p.indent depth = ⟨out, depth, true, true⟩ →
    (writeFields depth p fields).Settled ∧
      (writeFields depth p fields).closed = (fieldsText depth fields).reverse ++ out
  | [], _, _, _, filled, _ => absurd rfl filled
  | (k, j) :: rest, p, depth, out, _, start => by
    obtain ⟨behind, key, margin⟩ := writeKey_text k out depth
    have step : writeFields depth p ((k, j) :: rest) = writeFields depth
        (writeNode (some depth) true (writeKey ⟨out, depth, true, true⟩ depth k) j) rest := by
      rw [writeFields, start]
      rfl
    obtain ⟨settled, text⟩ := writeNode_text j true behind (.inl rfl)
    rw [margin, Bool.not_not, key] at text
    rw [step]
    cases rest with
    | nil =>
      refine ⟨settled, ?_⟩
      rw [writeFields, text]
      simp [fieldsText]
    | cons next rest =>
      obtain ⟨settled', text'⟩ := writeFields_text (next :: rest) (List.cons_ne_nil next rest)
        (Pen.indent_settled settled depth)
      refine ⟨settled', ?_⟩
      rw [text', text]
      simp [fieldsText, spaces_reverse]
end

theorem writeNode_start (j : Json) : (writeNode none false Pen.start j).Settled ∧
    (writeNode none false Pen.start j).closed = (nodeText 0 j).reverse := by
  cases j with
  | null =>
    simpa [writeNode, nodeText, Pen.spaced, Pen.start] using
      writeScalar_word (j := .null) trivial Pen.start
  | bool b =>
    simpa [writeNode, nodeText, Pen.spaced, Pen.start] using
      writeScalar_word (j := .bool b) trivial Pen.start
  | number n =>
    simpa [writeNode, nodeText, Pen.spaced, Pen.start] using
      writeScalar_word (j := .number n) trivial Pen.start
  | string s =>
    simpa [writeNode, nodeText, Pen.spaced, Pen.start] using
      writeScalar_line (suits_style false s) Nat.two_pos Pen.start
  | array items =>
    cases items with
    | nil => exact ⟨.inl rfl, rfl⟩
    | cons j items =>
      obtain ⟨settled, text⟩ := writeItems_text (j :: items) (List.cons_ne_nil j items)
        (show Pen.start.indent 0 = ⟨[], 0, true, true⟩ from rfl)
      refine ⟨settled, ?_⟩
      simpa [writeNode, nodeText] using text
  | object fields =>
    cases fields with
    | nil => exact ⟨.inl rfl, rfl⟩
    | cons f fields =>
      obtain ⟨settled, text⟩ := writeFields_text (f :: fields) (List.cons_ne_nil f fields)
        (show Pen.start.indent 0 = ⟨[], 0, true, true⟩ from rfl)
      refine ⟨settled, ?_⟩
      simpa [writeNode, nodeText] using text

theorem render_text (j : Json) : (render j).toList = nodeText 0 j := by
  obtain ⟨settled, text⟩ := writeNode_start j
  rw [render, Pen.indent_settled settled, text]
  simp [spaces]

end Rollout.Yaml
