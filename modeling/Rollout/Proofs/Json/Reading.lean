import Rollout.Proofs.Json.Unambiguous

namespace Rollout.Json

mutual
def numberless : Json → Bool
  | .number _ => false
  | .array items => numberlessItems items
  | .object fields => numberlessFields fields
  | _ => true
def numberlessItems : List Json → Bool
  | [] => true
  | j :: rest => numberless j && numberlessItems rest
def numberlessFields : List (String × Json) → Bool
  | [] => true
  | (_, j) :: rest => numberless j && numberlessFields rest
end

mutual
def nesting : Json → Nat
  | .array items => nestingItems items + 1
  | .object fields => nestingFields fields + 1
  | _ => 0
def nestingItems : List Json → Nat
  | [] => 0
  | j :: rest => max (nesting j) (nestingItems rest)
def nestingFields : List (String × Json) → Nat
  | [] => 0
  | (_, j) :: rest => max (nesting j) (nestingFields rest)
end

mutual
theorem numberless_exact : ∀ {j : Json}, j.numberless = true → j.exact = true
  | .null, _ | .bool _, _ | .string _, _ => rfl
  | .array _, free => numberlessItems_exact free
  | .object _, free => numberlessFields_exact free
theorem numberlessItems_exact : ∀ {items : List Json}, numberlessItems items = true →
    exactItems items = true
  | [], _ => rfl
  | j :: rest, free => by
    simp only [numberlessItems, exactItems, Bool.and_eq_true] at free ⊢
    exact ⟨numberless_exact free.1, numberlessItems_exact free.2⟩
theorem numberlessFields_exact : ∀ {fields : List (String × Json)}, numberlessFields fields = true →
    exactFields fields = true
  | [], _ => rfl
  | (_, j) :: rest, free => by
    simp only [numberlessFields, exactFields, Bool.and_eq_true] at free ⊢
    exact ⟨numberless_exact free.1, numberlessFields_exact free.2⟩
end

theorem length_escape (c : Char) : 1 ≤ (escape c).length := by
  unfold escape
  repeat' split
  all_goals simp

theorem length_escaped (text : List Char) : text.length ≤ (text.flatMap escape).length := by
  induction text with
  | nil => exact Nat.le_refl 0
  | cons c text ih =>
    have one := length_escape c
    rw [List.flatMap_cons, List.length_append, List.length_cons]
    omega

theorem stringBody_quoted (s : String) (rest : List Char) :
    stringBody ((s.toList.flatMap escape ++ '"' :: rest).length + 1) []
      (s.toList.flatMap escape ++ '"' :: rest) = some (s, rest) := by
  have enough := length_escaped s.toList
  rw [stringBody_escaped s.toList _ [] rest
    (by simp only [List.length_append, List.length_cons]; omega)]
  simp

theorem skipSpace_cons {c : Char} (visible : isSpace c = false) (rest : List Char) :
    skipSpace (c :: rest) = c :: rest := by
  simp [skipSpace, visible]

theorem visible_of_shape {c : Char} {shape : Shape} (begins : shapeFrom c = some shape) :
    isSpace c = false := by
  by_contra space
  simp only [Bool.not_eq_false, isSpace, Bool.or_eq_true, decide_eq_true_eq] at space
  rcases space with ((rfl | rfl) | rfl) | rfl <;> cases begins

theorem skipSpace_compact {j : Json} (exact : j.exact = true) (rest : List Char) :
    skipSpace (compact j ++ rest) = compact j ++ rest := by
  obtain ⟨c, tail, text, begins⟩ := compact_begins exact
  rw [text, List.cons_append, skipSpace_cons (visible_of_shape begins)]

theorem length_compact {j : Json} (exact : j.exact = true) : 0 < (compact j).length := by
  obtain ⟨c, tail, text, -⟩ := compact_begins exact
  rw [text]
  exact Nat.succ_pos _

theorem length_compactItems (j : Json) (items : List Json) :
    (compact j).length + (compactItems items).length ≤ (compactItems (j :: items)).length := by
  cases items <;> simp [compactItems]

theorem length_compactFields (name : String) (j : Json) (fields : List (String × Json)) :
    (compact j).length + (compactFields fields).length + 2 ≤
      (compactFields ((name, j) :: fields)).length := by
  cases fields <;> simp [compactFields, quote] <;> omega

theorem value?_object {fuel depth : Nat} (below : depth ≠ 0) (text : List Char) :
    value? (fuel + 1) depth ('\x7b' :: '"' :: text) =
      (fields? fuel (depth - 1) ('"' :: text)).map fun (fs, rest) => (.object fs, rest) := by
  rw [value?, skipSpace_cons (by decide)]
  simp [below, skipSpace_cons (show isSpace '"' = false by decide)]

mutual
theorem value?_compact : ∀ {j : Json} {fuel depth : Nat} {rest : List Char}, j.numberless = true →
    j.nesting ≤ depth → (compact j).length < fuel →
      value? fuel depth (compact j ++ rest) = some (j, rest)
  | j, 0, depth, rest, _, _, enough => absurd enough (Nat.not_lt_zero _)
  | .null, fuel + 1, depth, rest, _, _, _ => by
    rw [value?, skipSpace_compact rfl]
    rfl
  | .bool b, fuel + 1, depth, rest, _, _, _ => by
    rw [value?, skipSpace_compact rfl]
    cases b <;> rfl
  | .string s, fuel + 1, depth, rest, _, _, _ => by
    rw [value?, skipSpace_compact rfl]
    simp only [compact, quote, List.cons_append, List.append_assoc, List.nil_append,
      stringBody_quoted, Option.map_some]
  | .array items, fuel + 1, depth, rest, free, deep, enough => by
    rw [value?, skipSpace_compact (numberless_exact free)]
    have below : depth ≠ 0 := by simp only [nesting] at deep; omega
    simp only [compact, List.cons_append, List.append_assoc, List.nil_append, if_neg below]
    cases items with
    | nil => rfl
    | cons j items =>
      have read : items? fuel (depth - 1) (compactItems (j :: items) ++ ']' :: rest) =
          some (j :: items, rest) := by
        refine items?_compact (List.cons_ne_nil _ _) free ?_ ?_
        · simp only [nesting] at deep; omega
        · simp [compact] at enough ⊢; omega
      have first : j.exact = true := by
        simp only [numberless, numberlessItems, Bool.and_eq_true] at free
        exact numberless_exact free.1
      have visible : skipSpace (compactItems (j :: items) ++ ']' :: rest) =
          compactItems (j :: items) ++ ']' :: rest := by
        rw [compactItems_cons, skipSpace_compact first]
      rw [visible]
      split
      · next closed =>
        rw [compactItems_cons] at closed
        exact absurd closed (compact_ne_close first (by decide))
      · rw [read]
        rfl
  | .object fields, fuel + 1, depth, rest, free, deep, enough => by
    have below : depth ≠ 0 := by simp only [nesting] at deep; omega
    simp only [compact, List.cons_append, List.append_assoc, List.nil_append]
    cases fields with
    | nil =>
      rw [value?, skipSpace_cons (by decide)]
      simp [compactFields, below, skipSpace_cons (show isSpace '\x7d' = false by decide)]
    | cons field fields =>
      obtain ⟨name, j⟩ := field
      have read : fields? fuel (depth - 1) (compactFields ((name, j) :: fields) ++ '\x7d' :: rest) =
          some ((name, j) :: fields, rest) := by
        refine fields?_compact (List.cons_ne_nil _ _) free ?_ ?_
        · simp only [nesting] at deep; omega
        · simp [compact] at enough ⊢; omega
      rw [compactFields_cons] at read ⊢
      exact (value?_object below _).trans (congrArg _ read)
theorem items?_compact : ∀ {items : List Json} {fuel depth : Nat} {rest : List Char}, items ≠ [] →
    numberlessItems items = true → nestingItems items ≤ depth →
      (compactItems items).length + 1 < fuel →
      items? fuel depth (compactItems items ++ ']' :: rest) = some (items, rest)
  | [], _, _, _, present, _, _, _ => absurd rfl present
  | j :: items, 0, depth, rest, _, _, _, enough => absurd enough (Nat.not_lt_zero _)
  | j :: items, fuel + 1, depth, rest, _, free, deep, enough => by
    simp only [numberlessItems, Bool.and_eq_true] at free
    simp only [nestingItems] at deep
    have whole := length_compactItems j items
    have present := length_compact (numberless_exact free.1)
    have first : value? fuel depth (compact j ++ afterItem items rest) =
        some (j, afterItem items rest) := value?_compact free.1 (by omega) (by omega)
    rw [compactItems_cons, items?, first]
    cases items with
    | nil => rfl
    | cons k items =>
      have others : items? fuel depth (compactItems (k :: items) ++ ']' :: rest) =
          some (k :: items, rest) :=
        items?_compact (List.cons_ne_nil _ _) free.2 (by omega) (by omega)
      simp only [afterItem, skipSpace_cons (show isSpace ',' = false by decide), others]
      rfl
theorem fields?_compact : ∀ {fields : List (String × Json)} {fuel depth : Nat} {rest : List Char},
    fields ≠ [] → numberlessFields fields = true → nestingFields fields ≤ depth →
      (compactFields fields).length < fuel →
      fields? fuel depth (compactFields fields ++ '\x7d' :: rest) = some (fields, rest)
  | [], _, _, _, present, _, _, _ => absurd rfl present
  | (name, j) :: fields, 0, depth, rest, _, _, _, enough => absurd enough (Nat.not_lt_zero _)
  | (name, j) :: fields, fuel + 1, depth, rest, _, free, deep, enough => by
    simp only [numberlessFields, Bool.and_eq_true] at free
    simp only [nestingFields] at deep
    have whole := length_compactFields name j fields
    have first : value? fuel depth (compact j ++ afterField fields rest) =
        some (j, afterField fields rest) := value?_compact free.1 (by omega) (by omega)
    rw [compactFields_cons, fields?]
    simp only [quote, List.cons_append, List.append_assoc, List.nil_append,
      skipSpace_cons (show isSpace '"' = false by decide), stringBody_quoted,
      skipSpace_cons (show isSpace ':' = false by decide), first]
    cases fields with
    | nil => rfl
    | cons field fields =>
      have others : fields? fuel depth (compactFields (field :: fields) ++ '\x7d' :: rest) =
          some (field :: fields, rest) :=
        fields?_compact (List.cons_ne_nil _ _) free.2 (by omega) (by omega)
      simp only [afterField, skipSpace_cons (show isSpace ',' = false by decide), others]
      rfl
end

theorem parse?_render {j : Json} (free : j.numberless = true) (deep : j.nesting ≤ depthLimit) :
    parse? j.render = some j := by
  unfold parse? parseWithin? render
  rw [String.toList_ofList]
  have enough : (compact j).length < 2 * (compact j).length + 2 := by omega
  have read : value? (2 * (compact j).length + 2) depthLimit (compact j ++ []) = some (j, []) :=
    value?_compact free deep enough
  rw [List.append_nil] at read
  simp [read, skipSpace]

end Rollout.Json
