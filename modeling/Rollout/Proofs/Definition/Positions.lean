import Mathlib.Data.List.Induction
import Rollout.Definition.Evaluation
import Rollout.Proofs.Kdl.Offsets

namespace Rollout.Scope

open Kdl

variable {front behind later : List Char} {offset : Nat}

def past (place : Nat × Nat) (c : Char) : Nat × Nat :=
  if c = '\n' then (place.1 + 1, 1) else (place.1, place.2 + c.utf8Size)

theorem position_foldl (line column : Nat) (front behind : List Char) :
    position line column (bytes front) (front ++ behind) = front.foldl past (line, column) := by
  induction front generalizing line column with
  | nil => cases behind <;> simp [position]
  | cons c front ih =>
    have size := c.utf8Size_pos
    obtain ⟨n, more⟩ : ∃ n, bytes (c :: front) = n + 1 :=
      ⟨bytes (c :: front) - 1, by rw [bytes_cons]; omega⟩
    rw [more, List.cons_append, position, List.foldl_cons]
    rw [bytes_cons] at more
    by_cases newline : c = '\n'
    · subst newline
      obtain rfl : n = bytes front := by
        have : Char.utf8Size '\n' = 1 := rfl
        omega
      rw [if_pos rfl, ih, past, if_pos rfl]
    · rw [if_neg newline, ← more, Nat.add_sub_cancel_left, ih, past, if_neg newline]

theorem foldl_line (place : Nat × Nat) (front : List Char) :
    (front.foldl past place).1 = place.1 + front.count '\n' := by
  induction front generalizing place with
  | nil => simp
  | cons c front ih =>
    rw [List.foldl_cons, ih, List.count_cons, past]
    by_cases newline : c = '\n'
    · simp only [newline, beq_self_eq_true, if_true]
      omega
    · simp [newline]

theorem foldl_inLine (place : Nat × Nat) (inLine : '\n' ∉ front) :
    front.foldl past place = (place.1, place.2 + bytes front) := by
  induction front generalizing place with
  | nil => simp
  | cons c front ih =>
    rw [List.mem_cons, not_or] at inLine
    rw [List.foldl_cons, ih _ inLine.2, past, if_neg (Ne.symm inLine.1), bytes_cons, Nat.add_assoc]

-- Where lines begin: behind a line end, or where the text begins.
inductive LineStart : List Char → Prop where
  | text : LineStart []
  | line (above : List Char) : LineStart (above ++ ['\n'])

theorem foldl_lineStart {lines : List Char} (start : LineStart lines) :
    lines.foldl past (1, 1) = (lines.count '\n' + 1, 1) := by
  cases start with
  | text => rfl
  | line above =>
    have line := foldl_line (1, 1) above
    rw [List.foldl_append, List.foldl_cons, List.foldl_nil, past, if_pos rfl, line]
    simp [Nat.add_comm]

theorem exists_lineStart (front : List Char) :
    ∃ lines inLine, front = lines ++ inLine ∧ LineStart lines ∧ '\n' ∉ inLine := by
  induction front using List.reverseRecOn with
  | nil => exact ⟨[], [], rfl, .text, List.not_mem_nil⟩
  | append_singleton front c ih =>
    by_cases newline : c = '\n'
    · exact ⟨front ++ [c], [], by simp, newline ▸ .line front, List.not_mem_nil⟩
    · obtain ⟨lines, inLine, rfl, start, single⟩ := ih
      exact ⟨lines, inLine ++ [c], by simp, start, by simp [single, Ne.symm newline]⟩

-- The line and column of an offset in a text: the line is one more than the line ends before the
-- offset, and from where that line begins it is one byte less than the column to the offset.
structure Exact (text : List Char) (offset line column : Nat) (lines inLine behind : List Char) :
    Prop where
  whole : text = lines ++ inLine ++ behind
  boundary : offset = bytes (lines ++ inLine)
  number : line = (lines ++ inLine).count '\n' + 1
  start : LineStart lines
  single : '\n' ∉ inLine
  first : 1 ≤ column
  back : bytes lines + (column - 1) = offset

theorem position_exact (front behind : List Char) : ∃ lines inLine,
    Exact (front ++ behind) (bytes front) (position 1 1 (bytes front) (front ++ behind)).1
      (position 1 1 (bytes front) (front ++ behind)).2 lines inLine behind := by
  obtain ⟨lines, inLine, rfl, start, single⟩ := exists_lineStart front
  refine ⟨lines, inLine, rfl, rfl, ?_, start, single, ?_, ?_⟩ <;> rw [position_foldl]
  · rw [foldl_line, Nat.add_comm]
  all_goals rw [List.foldl_append, foldl_lineStart start, foldl_inLine _ single]
  · exact Nat.le_add_right _ _
  · rw [bytes_append, Nat.add_sub_cancel_left]

def Precedes (place later : Nat × Nat) : Prop :=
  place.1 < later.1 ∨ place.1 = later.1 ∧ place.2 < later.2

theorem Precedes.trans {a b c : Nat × Nat} (first : Precedes a b) (second : Precedes b c) :
    Precedes a c := by
  unfold Precedes at *
  omega

theorem Precedes.ne {place later : Nat × Nat} (precedes : Precedes place later) :
    place ≠ later := by
  rintro rfl
  unfold Precedes at precedes
  omega

theorem past_precedes (place : Nat × Nat) (c : Char) : Precedes place (past place c) := by
  have := c.utf8Size_pos
  unfold Precedes past
  split
  · exact .inl (Nat.lt_succ_self _)
  · exact .inr ⟨rfl, by omega⟩

theorem foldl_precedes (place : Nat × Nat) (some : front ≠ []) :
    Precedes place (front.foldl past place) := by
  induction front generalizing place with
  | nil => exact absurd rfl some
  | cons c front ih =>
    cases front with
    | nil => exact past_precedes place c
    | cons d front => exact (past_precedes place c).trans (ih (past place c) (List.cons_ne_nil _ _))

theorem position_precedes {text before after : List Char} (first : text = front ++ behind)
    (second : text = before ++ after) (less : bytes front < bytes before) :
    Precedes (position 1 1 (bytes front) text) (position 1 1 (bytes before) text) := by
  -- both are beginnings of one text, and the shorter one has fewer bytes
  have longer : front <+: before := by
    rcases List.prefix_or_prefix_of_prefix ⟨behind, first.symm⟩ ⟨after, second.symm⟩ with
      longer | ⟨rest, rfl⟩
    · exact longer
    · rw [bytes_append] at less
      omega
  obtain ⟨between, rfl⟩ := longer
  have some : between ≠ [] := by
    rintro rfl
    simp at less
  have start : position 1 1 (bytes front) text = front.foldl past (1, 1) := by
    rw [first, position_foldl]
  rw [start, second, position_foldl, List.foldl_append]
  exact foldl_precedes _ some

-- The nodes of a text stand at places that give their offsets back, one behind the other.
structure Apart (text : String) (nodes : List Kdl.Node) : Prop where
  exact : ∀ node ∈ allOf nodes, ∃ lines inLine behind, Exact text.toList node.offset
    (position 1 1 node.offset text.toList).1 (position 1 1 node.offset text.toList).2
    lines inLine behind
  ordered : (allOf nodes).Pairwise fun node later =>
    Precedes (position 1 1 node.offset text.toList) (position 1 1 later.offset text.toList)
  distinct : ((allOf nodes).map fun node => position 1 1 node.offset text.toList).Nodup

theorem parse?_apart {text : String} {nodes : List Kdl.Node}
    (parsed : Kdl.parse? text = some nodes) : Apart text nodes := by
  obtain ⟨bounds, ascending⟩ := parse?_offsets parsed
  have ordered : (allOf nodes).Pairwise fun node later =>
      Precedes (position 1 1 node.offset text.toList) (position 1 1 later.offset text.toList) := by
    refine ascending.imp_of_mem fun {node later} member behind less => ?_
    obtain ⟨front, _, first, offset⟩ := bounds node member
    obtain ⟨before, _, second, next⟩ := bounds later behind
    rw [offset, next] at less ⊢
    exact position_precedes first second less
  refine ⟨fun node member => ?_, ordered, List.pairwise_map.mpr (ordered.imp Precedes.ne)⟩
  obtain ⟨front, behind, same, offset⟩ := bounds node member
  obtain ⟨lines, inLine, exact⟩ := position_exact front behind
  rw [offset, same]
  exact ⟨lines, inLine, behind, exact⟩

end Rollout.Scope
