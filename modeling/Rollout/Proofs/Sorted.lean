import Mathlib.Data.List.Basic
import Rollout.Sorted

namespace Rollout.Sorted

variable {α β : Type} {name key : String} {value : α} {entries : List (String × α)}

theorem mem_names_put : key ∈ (put name value entries).map Prod.fst ↔
    key = name ∨ key ∈ entries.map Prod.fst := by
  induction entries with
  | nil => simp [put]
  | cons entry rest ih =>
    obtain ⟨k, v⟩ := entry
    unfold put
    split
    · next same =>
      subst same
      simp
    · split
      · simp
      · rw [List.map_cons, List.mem_cons, ih, List.map_cons, List.mem_cons]
        exact or_left_comm

theorem put_ascending (ascending : (entries.map Prod.fst).Pairwise (· < ·)) :
    ((put name value entries).map Prod.fst).Pairwise (· < ·) := by
  induction entries with
  | nil => exact List.pairwise_singleton _ _
  | cons entry rest ih =>
    obtain ⟨k, v⟩ := entry
    obtain ⟨first, behind⟩ := List.pairwise_cons.mp ascending
    unfold put
    split
    · next same =>
      subst same
      exact ascending
    · next other =>
      split
      · next before =>
        refine List.pairwise_cons.mpr ⟨?_, ascending⟩
        intro later member
        rcases List.mem_cons.mp member with rfl | member
        · exact before
        · exact String.lt_trans before (first later member)
      · next notBefore =>
        refine List.pairwise_cons.mpr ⟨?_, ih behind⟩
        intro later member
        rcases mem_names_put.mp member with rfl | member
        · exact Std.lt_of_le_of_ne (Std.not_lt.mp notBefore) (Ne.symm other)
        · exact first later member

theorem ascending_nodup (ascending : (entries.map Prod.fst).Pairwise (· < ·)) :
    (entries.map Prod.fst).Nodup :=
  ascending.imp Std.ne_of_lt

-- Puts what is read from each value under its name; values from which nothing is read are left out.
def putRead (read : β → Option α) (before : List (String × α)) (entries : List (String × β)) :
    List (String × α) :=
  entries.foldl (fun acc entry => match read entry.2 with
    | some value => put entry.1 value acc
    | none => acc) before

theorem putRead_ascending (read : β → Option α) {before : List (String × α)}
    (ascending : (before.map Prod.fst).Pairwise (· < ·)) (entries : List (String × β)) :
    ((putRead read before entries).map Prod.fst).Pairwise (· < ·) := by
  induction entries generalizing before with
  | nil => exact ascending
  | cons entry rest ih =>
    rw [putRead, List.foldl_cons]
    split
    · exact ih (put_ascending ascending)
    · exact ih ascending

theorem lookup_putRead (read : β → Option α) (before : List (String × α))
    {entries : List (String × β)} (distinct : (entries.map Prod.fst).Nodup) (name : String) :
    (putRead read before entries).lookup name =
      ((entries.lookup name).bind read).or (before.lookup name) := by
  induction entries generalizing before with
  | nil => rfl
  | cons entry rest ih =>
    obtain ⟨k, v⟩ := entry
    obtain ⟨fresh, others⟩ := List.nodup_cons.mp distinct
    have step : putRead read before ((k, v) :: rest) = putRead read
        (match read v with
          | some value => put k value before
          | none => before) rest := rfl
    rw [step, ih _ others]
    by_cases here : name = k
    · subst here
      have apart : ∀ entry ∈ rest, name ≠ entry.1 := fun entry member same =>
        fresh (List.mem_map.mpr ⟨entry, member, same.symm⟩)
      have absent : rest.lookup name = none :=
        List.lookup_eq_none_iff.mpr fun entry member => by simpa using apart entry member
      cases found : read v with
      | none => simp [absent, found]
      | some value => simp [absent, found, lookup_put]
    · cases read v with
      | none => simp [List.lookup_cons, beq_eq_false_iff_ne.mpr here]
      | some value => simp [List.lookup_cons, beq_eq_false_iff_ne.mpr here, lookup_put, here]

end Rollout.Sorted
