namespace Rollout

abbrev Declared (α : Type) := List (String × α)

namespace Declared

variable {α : Type}

def names (entries : Declared α) : List String := entries.map Prod.fst

def put (name : String) (value : α) : Declared α → Declared α
  | [] => [(name, value)]
  | (k, v) :: rest => if name = k then (name, value) :: rest else (k, v) :: put name value rest

def remove (name : String) (entries : Declared α) : Declared α :=
  entries.filter fun (k, _) => k ≠ name

def putLast (name : String) (value : α) (entries : Declared α) : Declared α :=
  remove name entries ++ [(name, value)]

def ofList (entries : List (String × α)) : Declared α :=
  entries.foldl (fun acc (k, v) => put k v acc) []

theorem lookup_put (name other : String) (value : α) (entries : Declared α) :
    (put name value entries).lookup other =
      if other = name then some value else entries.lookup other := by
  induction entries with
  | nil =>
    by_cases h : other = name
    · simp [put, h]
    · simp [put, List.lookup_cons, List.lookup_nil, h, beq_eq_false_iff_ne.2 h]
  | cons entry rest ih =>
    obtain ⟨k, v⟩ := entry
    by_cases hk : name = k
    · subst hk
      by_cases h : other = name
      · simp [put, h]
      · simp [put, List.lookup_cons, h, beq_eq_false_iff_ne.2 h]
    · by_cases ho : other = k
      · subst ho
        have hn : ¬ other = name := fun h => hk h.symm
        simp [put, hk, hn]
      · simp [put, hk, List.lookup_cons, beq_eq_false_iff_ne.2 ho, ih]

-- A name that is set anew keeps its place, and a new one comes last.
theorem names_put (name : String) (value : α) (entries : Declared α) :
    names (put name value entries) =
      if name ∈ names entries then names entries else names entries ++ [name] := by
  induction entries with
  | nil => simp [put, names]
  | cons entry rest ih =>
    obtain ⟨k, v⟩ := entry
    simp only [names] at ih ⊢
    by_cases hk : name = k
    · subst hk; simp [put]
    · simp only [put, hk, if_false, List.map_cons, ih, List.mem_cons, false_or]
      by_cases h : name ∈ rest.map Prod.fst <;> simp [h]

theorem lookup_of_mem {κ : Type} [BEq κ] [LawfulBEq κ] {entries : List (κ × α)} {k : κ} {v : α}
    (distinct : (entries.map Prod.fst).Nodup) (member : (k, v) ∈ entries) :
    entries.lookup k = some v := by
  obtain ⟨before, after, rfl⟩ := List.append_of_mem member
  refine List.lookup_eq_some_iff.mpr ⟨before, after, rfl, ?_⟩
  intro entry earlier
  rw [List.map_append, List.map_cons] at distinct
  have apart := (List.nodup_append.mp distinct).2.2 entry.1 (List.mem_map_of_mem earlier) k
    (by simp)
  simpa using apart.symm

end Declared

end Rollout
