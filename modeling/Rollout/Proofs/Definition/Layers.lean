import Mathlib.Data.List.Dedup
import Mathlib.Data.List.Induction
import Rollout.Declared

namespace Rollout

-- `order` says which of several declarations of a name gives it its place.
structure Layers {α : Type} (order : List String → List String) (declared : List (String × α))
    (result : Declared α) : Prop where
  names : Declared.names result = order (declared.map Prod.fst)
  distinct : (Declared.names result).Nodup
  last : ∀ name, result.lookup name = declared.reverse.lookup name

namespace Declared

variable {α : Type}

theorem remove_cons (name k : String) (v : α) (rest : Declared α) :
    remove name ((k, v) :: rest) =
      if k = name then remove name rest else (k, v) :: remove name rest := by
  by_cases here : k = name <;> simp [remove, here]

theorem lookup_remove (name other : String) (entries : Declared α) :
    (remove name entries).lookup other = if other = name then none else entries.lookup other := by
  induction entries with
  | nil => simp [remove]
  | cons entry rest ih =>
    obtain ⟨k, v⟩ := entry
    rw [remove_cons]
    by_cases here : k = name
    · subst here
      rw [if_pos rfl, ih]
      by_cases same : other = k
      · simp [same]
      · simp [same, List.lookup_cons, beq_eq_false_iff_ne.mpr same]
    · rw [if_neg here]
      by_cases same : other = k
      · subst same
        simp [here]
      · simp [ih, List.lookup_cons, beq_eq_false_iff_ne.mpr same]

theorem lookup_putLast (name other : String) (value : α) (entries : Declared α) :
    (putLast name value entries).lookup other =
      if other = name then some value else entries.lookup other := by
  rw [putLast, List.lookup_append, lookup_remove]
  by_cases same : other = name
  · simp [same]
  · simp [same, List.lookup_cons, beq_eq_false_iff_ne.mpr same]

theorem names_putLast (name : String) (value : α) (entries : Declared α) :
    names (putLast name value entries) = (names entries).filter (fun k => k ≠ name) ++ [name] := by
  simp [names, putLast, remove, List.filter_map, Function.comp_def]

theorem eraseDups_snoc (names : List String) (name : String) :
    (names ++ [name]).eraseDups =
      if name ∈ names then names.eraseDups else names.eraseDups ++ [name] := by
  by_cases known : name ∈ names <;> simp [List.eraseDups_append, known, List.removeAll, List.eraseDups_cons]

theorem dedup_snoc (names : List String) (name : String) :
    (names ++ [name]).dedup = names.dedup.filter (fun k => k ≠ name) ++ [name] := by
  induction names with
  | nil => simp
  | cons first rest ih =>
    by_cases later : first ∈ rest
    · rw [List.cons_append, List.dedup_cons_of_mem (by simp [later]), ih,
        List.dedup_cons_of_mem later]
    · by_cases same : first = name
      · subst same
        rw [List.cons_append, List.dedup_cons_of_mem (by simp), ih,
          List.dedup_cons_of_notMem later]
        simp
      · rw [List.cons_append, List.dedup_cons_of_notMem (by simp [later, same]), ih,
          List.dedup_cons_of_notMem later]
        simp [same]

theorem lookup_reverse_snoc (declared : List (String × α)) (name other : String) (value : α) :
    (declared ++ [(name, value)]).reverse.lookup other =
      if other = name then some value else declared.reverse.lookup other := by
  by_cases same : other = name
  · simp [same]
  · simp [same, List.lookup_cons, beq_eq_false_iff_ne.mpr same]

theorem layers_put (declared : List (String × α)) :
    Layers List.eraseDups declared
      (declared.foldl (fun before entry => put entry.1 entry.2 before) []) := by
  induction declared using List.reverseRecOn with
  | nil => exact ⟨rfl, .nil, fun _ => rfl⟩
  | append_singleton declared entry ih =>
    obtain ⟨name, value⟩ := entry
    rw [List.foldl_append]
    generalize declared.foldl _ [] = before at ih
    have known : name ∈ declared.map Prod.fst ↔ name ∈ names before := by
      rw [ih.names, List.mem_eraseDups]
    refine ⟨?_, ?_, fun other => ?_⟩
    · simp only [List.foldl_cons, List.foldl_nil, names_put, List.map_append, List.map_cons,
        List.map_nil, eraseDups_snoc, known, ih.names]
    · have distinct := ih.distinct
      simp only [List.foldl_cons, List.foldl_nil, names_put]
      split
      · exact distinct
      · rename_i fresh
        refine List.nodup_append.mpr ⟨distinct, by simp, fun k member other here => ?_⟩
        rw [List.mem_singleton.mp here]
        exact fun same => fresh (same ▸ member)
    · simp only [List.foldl_cons, List.foldl_nil, lookup_put, lookup_reverse_snoc, ih.last]

theorem layers_putLast (declared : List (String × α)) :
    Layers List.dedup declared
      (declared.foldl (fun before entry => putLast entry.1 entry.2 before) []) := by
  induction declared using List.reverseRecOn with
  | nil => exact ⟨rfl, .nil, fun _ => rfl⟩
  | append_singleton declared entry ih =>
    obtain ⟨name, value⟩ := entry
    rw [List.foldl_append]
    generalize declared.foldl _ [] = before at ih
    have inOrder : names (putLast name value before) =
        ((declared ++ [(name, value)]).map Prod.fst).dedup := by
      rw [names_putLast, ih.names, List.map_append, List.map_cons, List.map_nil, dedup_snoc]
    refine ⟨inOrder, ?_, fun other => ?_⟩
    · exact inOrder ▸ List.nodup_dedup _
    · simp only [List.foldl_cons, List.foldl_nil, lookup_putLast, lookup_reverse_snoc, ih.last]

theorem names_map {β : Type} (f : α → β) (entries : Declared α) :
    names (entries.map fun entry => (entry.1, f entry.2)) = names entries := by
  simp [names, Function.comp_def]

theorem lookup_map {β : Type} (f : α → β) (name : String) (entries : Declared α) :
    (entries.map fun entry => (entry.1, f entry.2)).lookup name = (entries.lookup name).map f := by
  induction entries with
  | nil => rfl
  | cons entry rest ih =>
    obtain ⟨k, v⟩ := entry
    by_cases same : name = k
    · simp [same]
    · simp only [List.map_cons, List.lookup_cons, beq_eq_false_iff_ne.mpr same, ih]

end Declared

theorem Layers.map {α β : Type} {order : List String → List String} {declared : List (String × α)}
    {result : Declared α} (layers : Layers order declared result) (f : α → β) :
    Layers order (declared.map fun entry => (entry.1, f entry.2))
      (result.map fun entry => (entry.1, f entry.2)) := by
  have keys : (declared.map fun entry => (entry.1, f entry.2)).map Prod.fst =
      declared.map Prod.fst := Declared.names_map f declared
  refine ⟨?_, ?_, fun name => ?_⟩
  · rw [Declared.names_map, layers.names, keys]
  · rw [Declared.names_map]
    exact layers.distinct
  · rw [← List.map_reverse, Declared.lookup_map, Declared.lookup_map, layers.last]

end Rollout
