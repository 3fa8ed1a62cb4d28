namespace Rollout.Sorted

variable {α : Type}

def put (name : String) (value : α) : List (String × α) → List (String × α)
  | [] => [(name, value)]
  | (k, v) :: rest =>
    if name = k then (name, value) :: rest
    else if name < k then (name, value) :: (k, v) :: rest
    else (k, v) :: put name value rest

def ofList (entries : List (String × α)) : List (String × α) :=
  entries.foldl (fun acc (name, value) => put name value acc) []

theorem lookup_put (name other : String) (value : α) (entries : List (String × α)) :
    (put name value entries).lookup other =
      if other = name then some value else entries.lookup other := by
  induction entries with
  | nil =>
    by_cases h : other = name
    · simp [put, h]
    · simp [put, List.lookup_cons, List.lookup_nil, h, beq_eq_false_iff_ne.2 h]
  | cons entry rest ih =>
    obtain ⟨k, v⟩ := entry
    by_cases hk : name = k
    · subst hk
      by_cases h : other = name
      · simp [put, h]
      · simp [put, List.lookup_cons, h, beq_eq_false_iff_ne.2 h]
    · by_cases hlt : name < k
      · by_cases h : other = name
        · simp [put, hk, hlt, h]
        · simp [put, hk, hlt, List.lookup_cons, h, beq_eq_false_iff_ne.2 h]
      · by_cases ho : other = k
        · subst ho
          have hn : ¬ other = name := fun h => hk h.symm
          simp [put, hk, hlt, hn]
        · simp [put, hk, hlt, List.lookup_cons, beq_eq_false_iff_ne.2 ho, ih]

-- A name that comes after all others.
theorem put_behind {name : String} {value : α} {entries : List (String × α)}
    (behind : ∀ entry ∈ entries, name ≠ entry.1 ∧ ¬ name < entry.1) :
    put name value entries = entries ++ [(name, value)] := by
  induction entries with
  | nil => rfl
  | cons entry rest ih =>
    obtain ⟨⟨other, later⟩, others⟩ := List.forall_mem_cons.mp behind
    rw [put, if_neg other, if_neg later, ih others, List.cons_append]

end Rollout.Sorted
