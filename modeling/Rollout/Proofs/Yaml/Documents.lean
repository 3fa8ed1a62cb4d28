import Rollout.Proofs.Yaml.Scalars

namespace Rollout.Yaml.Outline

mutual
def ofJson : Json → Outline
  | .string s => .text s
  | .array items => .sequence (ofItems items)
  | .object fields => .mapping (ofFields fields)
  | .null => plain (String.ofList (scalarText .null))
  | .bool b => plain (String.ofList (scalarText (.bool b)))
  | .number n => plain (String.ofList (scalarText (.number n)))
def ofItems : List Json → List Outline
  | [] => []
  | j :: rest => ofJson j :: ofItems rest
def ofFields : List (String × Json) → List (String × Outline)
  | [] => []
  | (k, j) :: rest => (k, ofJson j) :: ofFields rest
end

def after? (c : Char) : List Char → Option (List Char)
  | [] => none
  | d :: rest => if d = c then some rest else none

def key? (depth : Nat) : List Char → Option (String × List Char)
  | '?' :: ' ' :: cs => do
    let (value, behind) ← scalar? (depth + 2) cs
    let rest ← (unindent? depth behind).bind (after? ':')
    value.text?.map fun k => (k, rest)
  | cs => do
    let (value, behind) ← flow? cs
    let rest ← after? ':' behind
    value.text?.map fun k => (k, rest)

def isKey : List Char → Bool
  | '?' :: ' ' :: _ => true
  | cs =>
    match flow? cs with
    | some (_, ':' :: _) => true
    | _ => false

-- Where the value behind a key begins: its column and its text.
def value? (depth : Nat) : List Char → Option (Nat × List Char)
  | ' ' :: cs => some (depth + 2, cs)
  | '\n' :: cs =>
    match unindent? (depth + 2) cs with
    | some cs => some (depth + 2, cs)
    | none => (unindent? depth cs).map fun cs => (depth, cs)
  | _ => none

-- What stands at a column, unless the document ends there.
def next? (depth : Nat) (cs : List Char) : Option (List Char) :=
  (unindent? depth cs).filter fun cs => !cs.isEmpty && !isMarkerStart cs

mutual
-- Each reader gives back what stands behind the lines that it has read.
def nodeWithin : Nat → Nat → List Char → Option (Outline × List Char)
  | 0, _, _ => none
  | fuel + 1, depth, cs =>
    match cs with
    | '[' :: ']' :: '\n' :: rest => some (.sequence [], rest)
    | '\x7b' :: '\x7d' :: '\n' :: rest => some (.mapping [], rest)
    | '-' :: ' ' :: _ => (itemsWithin fuel depth cs).map fun r => (.sequence r.1, r.2)
    | '|' :: _ => scalar? (max depth 2) cs
    | _ =>
      if isKey cs then (fieldsWithin fuel depth cs).map fun r => (.mapping r.1, r.2)
      else scalar? (max depth 2) cs
def itemsWithin : Nat → Nat → List Char → Option (List Outline × List Char)
  | 0, _, _ => none
  | fuel + 1, depth, cs => do
    let rest ← (after? '-' cs).bind (after? ' ')
    let (first, behind) ← nodeWithin fuel (depth + 2) rest
    match next? depth behind with
    | some ('-' :: ' ' :: more) =>
      (itemsWithin fuel depth ('-' :: ' ' :: more)).map fun r => (first :: r.1, r.2)
    | _ => some ([first], behind)
def fieldsWithin : Nat → Nat → List Char → Option (List (String × Outline) × List Char)
  | 0, _, _ => none
  | fuel + 1, depth, cs => do
    let (k, rest) ← key? depth cs
    let (column, rest) ← value? depth rest
    let (first, behind) ← nodeWithin fuel column rest
    match next? depth behind with
    | some more => (fieldsWithin fuel depth more).map fun r => ((k, first) :: r.1, r.2)
    | none => some ([(k, first)], behind)
end

def documentsWithin : Nat → List Char → Option (List Outline)
  | _, [] => some []
  | fuel + 1, '-' :: '-' :: '-' :: '\n' :: cs => do
    let (first, behind) ← nodeWithin (cs.length + 1) 0 cs
    (documentsWithin fuel behind).map fun others => first :: others
  | _, _ => none

-- The documents of a text that was printed in block style.
def documents? (text : String) : Option (List Outline) := documentsWithin text.length text.toList

section Shapes

variable {depth : Nat} {cs tail rest : List Char} {c : Char} {s k : String} {key : Bool}

-- A line that begins with a scalar or a key, which no sign of another value is.
structure Inline (c : Char) (rest : List Char) : Prop where
  blank : c ≠ ' '
  line : isBreak c = false
  bracket : c ≠ '['
  brace : c ≠ '\x7b'
  bar : c ≠ '|'
  dash : c = '-' → rest.head? ≠ some ' '

theorem inline_plain (text : PlainText (c :: rest)) (tail : List Char) :
    Inline c (rest ++ tail) ∧ (c = '?' → (rest ++ tail).head? ≠ some ' ') := by
  have starts := text.starts
  simp only [startsIndicator, Bool.or_eq_false_iff] at starts
  have apart (d : Char) (listed : "#,[]\x7b\x7d&*!|>'\"%@`".toList.contains d = true) : c ≠ d := by
    rintro rfl
    rw [starts.1] at listed
    cases listed
  have marked (mark : c = '?' ∨ c = '-') : (rest ++ tail).head? ≠ some ' ' := by
    have filled : blankOrEnd rest = false := by
      rcases mark with rfl | rfl <;> simpa using starts.2
    cases rest with
    | nil => cases filled
    | cons d rest =>
      intro blank
      obtain rfl := Option.some.inj blank
      cases filled
  refine ⟨⟨?_, text.line c List.mem_cons_self, apart '[' (by decide), apart '\x7b' (by decide),
    apart '|' (by decide), fun same => marked (.inr same)⟩, fun same => marked (.inl same)⟩
  rintro rfl
  exact text.unblank rfl

theorem inline_sign (sign : c = '\'' ∨ c = '"' ∨ c = '?') : Inline c rest := by
  have undashed : c ≠ '-' := by rcases sign with rfl | rfl | rfl <;> decide
  refine ⟨?_, ?_, ?_, ?_, ?_, fun dash => absurd dash undashed⟩
  all_goals rcases sign with rfl | rfl | rfl <;> decide

theorem inline_flow (depth : Nat) (flow : styleOf key s ≠ .literal) (tail : List Char) :
    ∃ c rest, flowText depth (styleOf key s) s.toList ++ tail = c :: rest ∧ Inline c rest ∧
      (c = '?' → rest.head? ≠ some ' ') := by
  cases styled : styleOf key s with
  | plain =>
    obtain ⟨-, text, -⟩ := plain_of_style styled
    obtain ⟨c, rest, same⟩ := List.exists_cons_of_ne_nil text.nonempty
    rw [same] at text
    exact ⟨c, rest ++ tail, by simp [flowText, same], inline_plain text tail⟩
  | single => exact ⟨'\'', _, rfl, inline_sign (.inl rfl), fun same => absurd same (by decide)⟩
  | double =>
    exact ⟨'"', _, rfl, inline_sign (.inr (.inl rfl)), fun same => absurd same (by decide)⟩
  | literal => exact absurd styled flow

theorem isKey_colon {value : Outline} (read : flow? cs = some (value, ':' :: rest)) :
    isKey cs = true := by
  unfold isKey
  split
  · rfl
  · rw [read]
    rfl

theorem isKey_line {value : Outline} (read : flow? (c :: cs) = some (value, '\n' :: rest))
    (mark : c = '?' → cs.head? ≠ some ' ') : isKey (c :: cs) = false := by
  rw [isKey, read]
  · rfl
  · rintro behind same
    obtain ⟨rfl, rfl⟩ := List.cons.inj same
    exact mark rfl rfl

theorem scalar_text (key : Bool) (s : String) (deep : 0 < depth) (past : Over depth rest) :
    scalar? depth (scalarLine depth (styleOf key s) s.toList ++ rest) = some (.text s, rest) := by
  by_cases flow : styleOf key s = .literal
  · rw [flow]
    exact scalar_literal deep past
  · have read := flow_text depth flow (.line rest)
    obtain ⟨c, more, same, inline, -⟩ := inline_flow depth flow ('\n' :: rest)
    simp only [scalarLine, flow, if_false, List.append_assoc, List.singleton_append]
    refine scalar_flow ?_ read
    rw [same]
    exact fun barred => inline.bar (Option.some.inj barred)

theorem key_text (k : String) (blank : blankOrEnd tail = true) :
    key? depth (keyText depth k ++ tail) = some (k, tail) := by
  cases simple : isSimpleKey k with
  | true =>
    have read := flow_text (s := k) (depth + 2) key_not_literal (.colon blank)
    obtain ⟨c, rest, same, -, mark⟩ :=
      inline_flow (s := k) (depth + 2) key_not_literal (':' :: tail)
    simp only [keyText, simple, if_true, List.append_assoc, List.singleton_append]
    rw [key?, read]
    · rfl
    · rintro cs matched
      rw [same] at matched
      obtain ⟨rfl, rfl⟩ := List.cons.inj matched
      exact mark rfl rfl
  | false =>
    have past : Over (depth + 2) (spaces depth ++ ':' :: tail) :=
      .outer tail (Nat.lt_add_of_pos_right Nat.two_pos) (by decide) (by decide)
    have read := scalar_text false k (Nat.succ_pos (depth + 1)) past
    simp [keyText, simple, key?, read, unindent_spaces, after?, text?]

theorem marker_colon (free : isMarkerStart cs = false) :
    isMarkerStart (cs ++ ':' :: tail) = false := by
  match cs with
  | [] => rfl
  | [_] => simp [isMarkerStart, List.isPrefixOf]
  | [_, _] => simp [isMarkerStart, List.isPrefixOf]
  | _ :: _ :: _ :: _ => simpa [isMarkerStart, List.isPrefixOf] using free

theorem key_inline (depth : Nat) (k : String) (blank : blankOrEnd tail = true) :
    ∃ c rest, keyText depth k ++ tail = c :: rest ∧ Inline c rest ∧ isKey (c :: rest) = true ∧
      isMarkerStart (c :: rest) = false := by
  cases simple : isSimpleKey k with
  | true =>
    have read := flow_text (s := k) (depth + 2) key_not_literal (.colon blank)
    obtain ⟨c, rest, same, inline, -⟩ :=
      inline_flow (s := k) (depth + 2) key_not_literal (':' :: tail)
    simp only [keyText, simple, if_true, List.append_assoc, List.singleton_append]
    refine ⟨c, rest, same, inline, same ▸ isKey_colon read, same ▸ ?_⟩
    cases styled : styleOf true k with
    | plain => exact marker_colon (plain_of_style styled).2.2
    | single => rfl
    | double => rfl
    | literal => exact absurd styled key_not_literal
  | false =>
    simp only [keyText, simple, Bool.false_eq_true, if_false, List.cons_append]
    exact ⟨'?', _, rfl, inline_sign (.inr (.inr rfl)), rfl, rfl⟩

end Shapes

section Nodes

variable {depth fuel : Nat} {c : Char} {rest : List Char}

theorem leadOf_blank (depth : Nat) (keyed : Bool) (j : Json) (tail : List Char) :
    blankOrEnd (leadOf depth keyed j ++ tail) = true := by
  unfold leadOf
  split
  · cases keyed <;> rfl
  · cases keyed <;> rfl
  · rfl

theorem Over.mono {deeper : Nat} (past : Over depth rest) (le : depth ≤ deeper) :
    Over deeper rest := by
  cases past with
  | nil => exact .nil
  | marker rest => exact .marker rest
  | outer rest before other unbroken =>
    exact .outer rest (Nat.lt_of_lt_of_le before le) other unbroken

theorem next_over (past : Over depth rest) : next? depth rest = none := by
  by_cases deep : 0 < depth
  · rw [next?, past.unindent deep]
    rfl
  · obtain rfl := Nat.eq_zero_of_not_pos deep
    cases past with
    | nil => rfl
    | marker rest => rfl
    | outer rest before _ _ => exact absurd before (Nat.not_lt_zero _)

theorem next_spaces (free : isMarkerStart (c :: rest) = false) :
    next? depth (spaces depth ++ c :: rest) = some (c :: rest) := by
  simp [next?, unindent_spaces, free]

-- The next key behind the value of a key.
def Keyed (depth : Nat) (cs : List Char) : Prop :=
  ∃ c rest, cs = spaces depth ++ c :: rest ∧ Inline c rest ∧ isMarkerStart (c :: rest) = false

-- What may stand behind a value: entries may begin at the column of the keys that they are behind.
def Behind (depth : Nat) (j : Json) (cs : List Char) : Prop :=
  Over depth cs ∨ (∃ items, j = .array items) ∧ Keyed depth cs

theorem Keyed.over {cs : List Char} (keyed : Keyed depth cs) : Over (depth + 2) cs := by
  obtain ⟨c, rest, rfl, inline, -⟩ := keyed
  exact .outer rest (Nat.lt_add_of_pos_right Nat.two_pos) inline.blank inline.line

theorem over_deeper {cs : List Char} (ends : Over depth cs ∨ Keyed depth cs) :
    Over (depth + 2) cs :=
  ends.elim (fun past => past.mono (Nat.le_add_right depth 2)) Keyed.over

theorem behind_value {cs : List Char} (ends : Over depth cs ∨ Keyed depth cs) (keyed : Bool)
    (j : Json) : Behind (columnOf depth keyed j) j cs := by
  unfold columnOf
  split
  · cases keyed with
    | true => exact ends.imp id fun next => ⟨⟨_, rfl⟩, next⟩
    | false => exact .inl (over_deeper ends)
  · exact .inl (over_deeper ends)

theorem node_inline (inline : Inline c rest) : nodeWithin (fuel + 1) depth (c :: rest) =
    if isKey (c :: rest) then
      (fieldsWithin fuel depth (c :: rest)).map fun r => (.mapping r.1, r.2)
    else scalar? (max depth 2) (c :: rest) := by
  rw [nodeWithin]
  · rintro behind same
    exact inline.bracket (List.cons.inj same).1
  · rintro behind same
    exact inline.brace (List.cons.inj same).1
  · rintro behind same
    obtain ⟨rfl, rfl⟩ := List.cons.inj same
    exact inline.dash rfl rfl
  · rintro behind same
    exact inline.bar (List.cons.inj same).1

theorem node_text (s : String) (past : Over (max depth 2) rest) :
    nodeWithin (fuel + 1) depth (nodeText depth (.string s) ++ rest) = some (.text s, rest) := by
  have deep : 0 < max depth 2 := Nat.lt_of_lt_of_le Nat.two_pos (Nat.le_max_right depth 2)
  have whole := scalar_text false s deep past
  rw [nodeText, ← whole]
  by_cases flow : styleOf false s = .literal
  · simp only [scalarLine, flow, if_true, literalText, List.cons_append]
    rfl
  · have read := flow_text (max depth 2) flow (.line rest)
    obtain ⟨c, more, same, inline, mark⟩ :=
      inline_flow (max depth 2) flow ('\n' :: rest)
    simp only [scalarLine, flow, if_false, List.append_assoc, List.singleton_append]
    rw [same] at read ⊢
    rw [node_inline inline, isKey_line read mark]
    rfl

theorem node_word {j : Json} (word : IsWord j) (rest : List Char) :
    nodeWithin (fuel + 1) depth (scalarText j ++ '\n' :: rest) =
      some (plain (String.ofList (scalarText j)), rest) := by
  have text := (word_scalar word).plain
  obtain ⟨c, more, same⟩ := List.exists_cons_of_ne_nil text.nonempty
  have read := flow_plain text (.line rest)
  rw [same] at text
  obtain ⟨inline, mark⟩ := inline_plain text ('\n' :: rest)
  have line : scalarText j ++ '\n' :: rest = c :: (more ++ '\n' :: rest) := by rw [same]; rfl
  rw [line] at read ⊢
  rw [node_inline inline, isKey_line read mark]
  exact scalar_flow (fun barred => inline.bar (Option.some.inj barred)) read

theorem itemsText_dash (depth : Nat) (j : Json) (items : List Json) :
    ∃ rest, itemsText depth (j :: items) = '-' :: ' ' :: rest := by
  cases items <;> exact ⟨_, rfl⟩

theorem fieldsText_key (depth : Nat) (k : String) (j : Json) (fields : List (String × Json))
    (rest : List Char) : ∃ tail, blankOrEnd tail = true ∧
      fieldsText depth ((k, j) :: fields) ++ rest = keyText depth k ++ tail := by
  cases fields with
  | nil =>
    refine ⟨leadOf depth (isSimpleKey k) j ++ (nodeText (columnOf depth (isSimpleKey k) j) j ++
      rest), leadOf_blank .., ?_⟩
    simp only [fieldsText, List.append_assoc]
  | cons next fields =>
    refine ⟨leadOf depth (isSimpleKey k) j ++ (nodeText (columnOf depth (isSimpleKey k) j) j ++
      (spaces depth ++ (fieldsText depth (next :: fields) ++ rest))), leadOf_blank .., ?_⟩
    simp only [fieldsText, List.append_assoc]

theorem value_text (depth : Nat) (keyed : Bool) (j : Json) (tail : List Char) :
    value? depth (leadOf depth keyed j ++ (nodeText (columnOf depth keyed j) j ++ tail)) =
      some (columnOf depth keyed j, nodeText (columnOf depth keyed j) j ++ tail) := by
  cases j with
  | array items =>
    cases items with
    | nil => rfl
    | cons j items =>
      cases keyed with
      | false => rfl
      | true =>
        obtain ⟨rest, dash⟩ := itemsText_dash depth j items
        have shallow : unindent? (depth + 2) (spaces depth ++ '-' :: ' ' :: (rest ++ tail)) =
            none :=
          unindent_short _ (Nat.lt_add_of_pos_right Nat.two_pos) (by simp)
        simp [value?, leadOf, columnOf, nodeText, dash, shallow, unindent_spaces]
  | object fields =>
    cases fields with
    | nil => rfl
    | cons field fields =>
      cases keyed with
      | false => rfl
      | true => simp [value?, leadOf, columnOf, unindent_spaces]
  | null => rfl
  | bool b => rfl
  | number n => rfl
  | string s => rfl

theorem keyText_pos (depth : Nat) (k : String) : 0 < (keyText depth k).length := by
  unfold keyText
  split
  · rw [List.length_append]
    exact Nat.succ_pos _
  · exact Nat.succ_pos _

theorem leadOf_pos (depth : Nat) (keyed : Bool) (j : Json) :
    0 < (leadOf depth keyed j).length := by
  unfold leadOf
  split
  · cases keyed <;> exact Nat.succ_pos _
  · cases keyed <;> exact Nat.succ_pos _
  · exact Nat.succ_pos _

theorem item_last {cs : List Char} {v : Outline}
    (first : nodeWithin fuel (depth + 2) cs = some (v, rest))
    (ends : Over depth rest ∨ Keyed depth rest) :
    itemsWithin (fuel + 1) depth ('-' :: ' ' :: cs) = some ([v], rest) := by
  have dashed : (after? '-' ('-' :: ' ' :: cs)).bind (after? ' ') = some cs := rfl
  simp only [itemsWithin, dashed, first, Option.bind_eq_bind, Option.bind_some]
  rcases ends with past | ⟨c, more, same, inline, free⟩
  · rw [next_over past]
  · rw [same, next_spaces free]
    split
    · next begun =>
      obtain ⟨rfl, rfl⟩ := List.cons.inj (Option.some.inj begun)
      exact absurd rfl (inline.dash rfl)
    · rfl

theorem item_before {cs more : List Char} {v : Outline} {vs : List Outline}
    (first : nodeWithin fuel (depth + 2) cs = some (v, spaces depth ++ '-' :: ' ' :: more))
    (others : itemsWithin fuel depth ('-' :: ' ' :: more) = some (vs, rest)) :
    itemsWithin (fuel + 1) depth ('-' :: ' ' :: cs) = some (v :: vs, rest) := by
  have dashed : (after? '-' ('-' :: ' ' :: cs)).bind (after? ' ') = some cs := rfl
  have next : next? depth (spaces depth ++ '-' :: ' ' :: more) = some ('-' :: ' ' :: more) :=
    next_spaces rfl
  simp only [itemsWithin, dashed, first, next, others, Option.bind_eq_bind, Option.bind_some,
    Option.map_some]

section Fields

variable {cs tail text : List Char} {k : String} {column : Nat} {v : Outline}

theorem field_last (key : key? depth cs = some (k, tail))
    (value : value? depth tail = some (column, text))
    (first : nodeWithin fuel column text = some (v, rest)) (past : Over depth rest) :
    fieldsWithin (fuel + 1) depth cs = some ([(k, v)], rest) := by
  simp only [fieldsWithin, key, value, first, next_over past, Option.bind_eq_bind,
    Option.bind_some]

theorem field_before {more : List Char} {vs : List (String × Outline)}
    (key : key? depth cs = some (k, tail)) (value : value? depth tail = some (column, text))
    (first : nodeWithin fuel column text = some (v, spaces depth ++ c :: more))
    (free : isMarkerStart (c :: more) = false)
    (others : fieldsWithin fuel depth (c :: more) = some (vs, rest)) :
    fieldsWithin (fuel + 1) depth cs = some ((k, v) :: vs, rest) := by
  simp only [fieldsWithin, key, value, first, next_spaces free, others, Option.bind_eq_bind,
    Option.bind_some, Option.map_some]

end Fields

-- Fuel of the length of the text is enough: each reader takes a sign before it calls another one,
-- but for a node, which needs one more than the collection that it is.
structure Reads (fuel : Nat) : Prop where
  node : ∀ j depth rest, (nodeText depth j).length < fuel → Behind depth j rest →
    nodeWithin fuel depth (nodeText depth j ++ rest) = some (ofJson j, rest)
  items : ∀ j items depth rest, (itemsText depth (j :: items)).length ≤ fuel →
    Over depth rest ∨ Keyed depth rest →
    itemsWithin fuel depth (itemsText depth (j :: items) ++ rest) =
      some (ofItems (j :: items), rest)
  fields : ∀ k j fields depth rest, (fieldsText depth ((k, j) :: fields)).length ≤ fuel →
    Over depth rest →
    fieldsWithin fuel depth (fieldsText depth ((k, j) :: fields) ++ rest) =
      some (ofFields ((k, j) :: fields), rest)

theorem reads_zero : Reads 0 := by
  refine ⟨fun j depth rest fits => absurd fits (Nat.not_lt_zero _), ?_, ?_⟩
  · intro j items depth rest fits
    obtain ⟨more, dash⟩ := itemsText_dash depth j items
    rw [dash] at fits
    exact absurd fits (Nat.not_succ_le_zero _)
  · intro k j fields depth rest fits
    obtain ⟨tail, -, begun⟩ := fieldsText_key depth k j fields []
    have key := keyText_pos depth k
    rw [List.append_nil] at begun
    rw [begun, List.length_append] at fits
    omega

theorem Reads.node_next (reads : Reads fuel) (j : Json) (depth : Nat) (rest : List Char)
    (fits : (nodeText depth j).length < fuel + 1) (behind : Behind depth j rest) :
    nodeWithin (fuel + 1) depth (nodeText depth j ++ rest) = some (ofJson j, rest) := by
  cases j with
  | null => simpa [nodeText, ofJson] using node_word (j := .null) trivial rest
  | bool b => simpa [nodeText, ofJson] using node_word (j := .bool b) trivial rest
  | number n => simpa [nodeText, ofJson] using node_word (j := .number n) trivial rest
  | string s =>
    obtain past | ⟨⟨items, other⟩, -⟩ := behind
    · exact node_text s (past.mono (Nat.le_max_left depth 2))
    · cases other
  | array items =>
    cases items with
    | nil => rfl
    | cons j items =>
      have read :=
        reads.items j items depth rest (Nat.le_of_lt_succ fits) (behind.imp id And.right)
      obtain ⟨more, dash⟩ := itemsText_dash depth j items
      simp only [nodeText]
      rw [dash] at read ⊢
      exact congrArg (Option.map _) read
  | object fields =>
    cases fields with
    | nil => rfl
    | cons field fields =>
      obtain ⟨k, j⟩ := field
      obtain past | ⟨⟨items, other⟩, -⟩ := behind
      · have read := reads.fields k j fields depth rest (Nat.le_of_lt_succ fits) past
        obtain ⟨tail, blank, begun⟩ := fieldsText_key depth k j fields rest
        obtain ⟨c, more, same, inline, isKey, -⟩ := key_inline depth k blank
        simp only [nodeText]
        rw [begun, same] at read ⊢
        rw [node_inline inline, isKey, if_pos rfl, read]
        rfl
      · cases other

theorem Reads.items_next (reads : Reads fuel) (j : Json) (items : List Json) (depth : Nat)
    (rest : List Char) (fits : (itemsText depth (j :: items)).length ≤ fuel + 1)
    (ends : Over depth rest ∨ Keyed depth rest) :
    itemsWithin (fuel + 1) depth (itemsText depth (j :: items) ++ rest) =
      some (ofItems (j :: items), rest) := by
  cases items with
  | nil =>
    have fits' : (nodeText (depth + 2) j).length < fuel := by
      simp only [itemsText, List.length_cons] at fits
      omega
    have read := reads.node j (depth + 2) rest fits' (.inl (over_deeper ends))
    exact item_last read ends
  | cons next items =>
    simp only [itemsText, List.length_append, List.length_cons] at fits
    obtain ⟨more, dash⟩ := itemsText_dash depth next items
    have others := reads.items next items depth rest (by omega) ends
    let behind := spaces depth ++ (itemsText depth (next :: items) ++ rest)
    have past : Over (depth + 2) behind := by
      simp only [behind, dash]
      exact .outer _ (Nat.lt_add_of_pos_right Nat.two_pos) (by decide) (by decide)
    have read := reads.node j (depth + 2) behind (by omega) (.inl past)
    have text : itemsText depth (j :: next :: items) ++ rest =
        '-' :: ' ' :: (nodeText (depth + 2) j ++ behind) := by
      simp only [itemsText, behind, List.cons_append, List.append_assoc]
    rw [text]
    simp only [behind, dash] at others read ⊢
    exact item_before read others

theorem Reads.fields_next (reads : Reads fuel) (k : String) (j : Json)
    (fields : List (String × Json)) (depth : Nat) (rest : List Char)
    (fits : (fieldsText depth ((k, j) :: fields)).length ≤ fuel + 1) (past : Over depth rest) :
    fieldsWithin (fuel + 1) depth (fieldsText depth ((k, j) :: fields) ++ rest) =
      some (ofFields ((k, j) :: fields), rest) := by
  have lead := leadOf_pos depth (isSimpleKey k) j
  have key := keyText_pos depth k
  cases fields with
  | nil =>
    simp only [fieldsText, List.length_append] at fits
    have read := reads.node j _ rest (by omega) (behind_value (.inl past) (isSimpleKey k) j)
    simp only [fieldsText, List.append_assoc]
    exact field_last (key_text k (leadOf_blank ..)) (value_text ..) read past
  | cons next fields =>
    obtain ⟨l, i⟩ := next
    simp only [fieldsText, List.length_append] at fits
    have others := reads.fields l i fields depth rest (by omega) past
    obtain ⟨tail, blank, begun⟩ := fieldsText_key depth l i fields rest
    obtain ⟨c, more, same, inline, -, free⟩ := key_inline depth l blank
    rw [begun, same] at others
    have next : Keyed depth (spaces depth ++ c :: more) := ⟨c, more, rfl, inline, free⟩
    -- Entries may stand at the column of the keys, so that the next key has to end them.
    have read := reads.node j _ _ (by omega) (behind_value (.inr next) (isSimpleKey k) j)
    simp only [fieldsText, List.append_assoc]
    rw [begun, same]
    exact field_before (key_text k (leadOf_blank ..)) (value_text ..) read free others

theorem reads (fuel : Nat) : Reads fuel := by
  induction fuel with
  | zero => exact reads_zero
  | succ fuel ih => exact ⟨ih.node_next, ih.items_next, ih.fields_next⟩

end Nodes

theorem documents_text {fuel : Nat} (docs : List Json) (fits : docs.length ≤ fuel) :
    documentsWithin fuel (docs.flatMap fun j => "---\n".toList ++ nodeText 0 j) =
      some (docs.map ofJson) := by
  induction docs generalizing fuel with
  | nil => cases fuel <;> rfl
  | cons j docs ih =>
    obtain ⟨fuel, rfl⟩ := Nat.exists_eq_succ_of_ne_zero (n := fuel) (by
      rintro rfl
      cases fits)
    let behind := docs.flatMap fun j => "---\n".toList ++ nodeText 0 j
    have past : Over 0 behind := by
      cases docs with
      | nil => exact .nil
      | cons j docs => exact .marker _
    have first := (reads ((nodeText 0 j ++ behind).length + 1)).node j 0 behind (by
      rw [List.length_append]
      omega) (.inl past)
    have others := ih (Nat.le_of_succ_le_succ fits)
    have text : (j :: docs).flatMap (fun j => "---\n".toList ++ nodeText 0 j) =
      '-' :: '-' :: '-' :: '\n' :: (nodeText 0 j ++ behind) := rfl
    rw [text, documentsWithin, first]
    simp only [Option.bind_eq_bind, Option.bind_some, behind, others, Option.map_some,
      List.map_cons]

theorem documents_length (docs : List Json) :
    docs.length ≤ (docs.flatMap fun j => "---\n".toList ++ nodeText 0 j).length := by
  induction docs with
  | nil => exact Nat.le_refl 0
  | cons j docs ih =>
    simp only [List.flatMap_cons, List.length_append, List.length_cons]
    have marker : "---\n".toList.length = 4 := by decide
    omega

-- Values that are printed one behind another are read back, each behind its marker.
theorem documents_joined (docs : List Json) :
    documents? (String.join (docs.map fun j => "---\n" ++ render j)) =
      some (docs.map ofJson) := by
  have text : (String.join (docs.map fun j => "---\n" ++ render j)).toList =
      docs.flatMap fun j => "---\n".toList ++ nodeText 0 j := by
    induction docs with
    | nil => rfl
    | cons j docs ih => simp [String.toList_append, render_text, ih]
  have length := documents_length docs
  rw [← text, String.length_toList] at length
  rw [documents?, text]
  exact documents_text docs length

end Rollout.Yaml.Outline
