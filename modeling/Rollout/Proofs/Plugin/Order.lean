import Mathlib.Data.List.Basic
import Rollout.Plugin
import Rollout.Text.Blank

namespace Rollout.Plugin

variable {plugins before before' rest : List Plugin} {p p' : Plugin} {met met' : List String}
variable {all : List String} {id id' : String}

def Provided (earlier : List Plugin) (id : String) : Prop := ∃ p ∈ earlier, p.id = id

-- Each plugin finds all that it requires among those before it.
def Ordered (plugins : List Plugin) : Prop :=
  ∀ before p after, plugins = before ++ p :: after → ∀ id ∈ p.requires, Provided before id

-- The first requirement that is not met: the one behind `met` of the plugin behind `before`.
structure Lacks (plugins before : List Plugin) (p : Plugin) (met : List String) (id : String) :
    Prop where
  place : ∃ after, plugins = before ++ p :: after
  among : ∃ more, p.requires = met ++ id :: more
  ordered : Ordered before
  earlier : ∀ other ∈ met, Provided before other
  missing : ¬ Provided before id

theorem provided_iff : Provided before id ↔ id ∈ before.map Plugin.id := List.mem_map.symm

-- The first item of a list that does not do behind those before it.
theorem first_unique {α : Type} (good : List α → α → Prop) {l l' r r' : List α} {x x' : α}
    (same : l ++ x :: r = l' ++ x' :: r') (bad : ¬ good l x) (bad' : ¬ good l' x')
    (goods : ∀ a y b, l = a ++ y :: b → good a y) (goods' : ∀ a y b, l' = a ++ y :: b → good a y) :
    l = l' ∧ x = x' := by
  rcases List.append_eq_append_iff.mp same with ⟨more, rfl, tail⟩ | ⟨more, rfl, tail⟩
  · cases more with
    | nil => exact ⟨by simp, (List.cons.inj tail).1⟩
    | cons y more =>
      obtain ⟨rfl, -⟩ := List.cons.inj tail
      exact absurd (goods' l x more rfl) bad
  · cases more with
    | nil => exact ⟨by simp, (List.cons.inj tail).1.symm⟩
    | cons y more =>
      obtain ⟨rfl, -⟩ := List.cons.inj tail
      exact absurd (goods l' x' more rfl) bad'

theorem ordered_nil : Ordered [] := fun _ _ _ split => by simp at split

theorem ordered_snoc (lead : Ordered before) (found : ∀ id ∈ p.requires, Provided before id) :
    Ordered (before ++ [p]) := by
  intro front q after split
  rcases List.eq_nil_or_concat after with rfl | ⟨behind, last, rfl⟩
  · obtain ⟨rfl, same⟩ := List.append_inj' split rfl
    obtain rfl := (List.cons.inj same).1
    exact found
  · rw [List.concat_eq_append, ← List.cons_append, ← List.append_assoc] at split
    obtain ⟨rfl, -⟩ := List.append_inj' split rfl
    exact lead front q behind rfl

theorem Lacks.disorders (lacks : Lacks plugins before p met id) : ¬ Ordered plugins := by
  intro ordered
  obtain ⟨after, split⟩ := lacks.place
  obtain ⟨more, requires⟩ := lacks.among
  exact lacks.missing (ordered before p after split id (by simp [requires]))

theorem Lacks.unique (one : Lacks plugins before p met id)
    (other : Lacks plugins before' p' met' id') : p = p' ∧ id = id' := by
  obtain ⟨after, split⟩ := one.place
  obtain ⟨after', split'⟩ := other.place
  obtain ⟨more, requires⟩ := one.among
  obtain ⟨more', requires'⟩ := other.among
  have short : ¬ ∀ id ∈ p.requires, Provided before id := fun found =>
    one.missing (found id (by simp [requires]))
  have short' : ¬ ∀ id ∈ p'.requires, Provided before' id := fun found =>
    other.missing (found id' (by simp [requires']))
  obtain ⟨rfl, rfl⟩ := first_unique
    (fun (before : List Plugin) (p : Plugin) => ∀ id ∈ p.requires, Provided before id)
    (split.symm.trans split') short short' one.ordered other.ordered
  refine ⟨rfl, (first_unique (fun _ id => Provided before id)
    (requires.symm.trans requires') one.missing other.missing ?_ ?_).2⟩
  · exact fun a y b front => one.earlier y (by simp [front])
  · exact fun a y b front => other.earlier y (by simp [front])

theorem unmet?_none :
    unmet? (before.map Plugin.id) p = none ↔ ∀ id ∈ p.requires, Provided before id := by
  simp [unmet?, Provided]

theorem unmet?_some : unmet? (before.map Plugin.id) p = some id ↔
    (∃ met more, p.requires = met ++ id :: more ∧ ∀ other ∈ met, Provided before other) ∧
      ¬ Provided before id := by
  rw [unmet?, List.find?_eq_some_iff_append, and_comm]
  simp [Provided]

def objection (all : List String) (p : Plugin) (id : String) : PluginOrderError :=
  ⟨p.id, id, if all.contains id then tooLate else undeclared⟩

theorem checkOrderFrom_met (found : ∀ id ∈ p.requires, Provided before id) :
    checkOrderFrom all (before.map Plugin.id) (p :: rest) =
      checkOrderFrom all ((before ++ [p]).map Plugin.id) rest := by
  rw [checkOrderFrom, unmet?_none.mpr found, List.map_append]
  rfl

theorem checkOrderFrom_unmet (lacking : unmet? (before.map Plugin.id) p = some id) :
    checkOrderFrom all (before.map Plugin.id) (p :: rest) = .error (objection all p id) := by
  rw [checkOrderFrom, lacking]
  rfl

-- The induction is on the plugins to come; those before them are in order.
theorem checkOrderFrom_cases (all : List String) (lead : Ordered before) (rest : List Plugin) :
    (Ordered (before ++ rest) ∧ checkOrderFrom all (before.map Plugin.id) rest = .ok ()) ∨
      ∃ front p met id, Lacks (before ++ rest) front p met id ∧
        checkOrderFrom all (before.map Plugin.id) rest = .error (objection all p id) := by
  induction rest generalizing before with
  | nil =>
    rw [List.append_nil]
    exact .inl ⟨lead, rfl⟩
  | cons p rest ih =>
    cases lacking : unmet? (before.map Plugin.id) p with
    | some id =>
      obtain ⟨⟨met, more, requires, earlier⟩, missing⟩ := unmet?_some.mp lacking
      exact .inr ⟨before, p, met, id, ⟨⟨rest, rfl⟩, ⟨more, requires⟩, lead, earlier, missing⟩,
        checkOrderFrom_unmet lacking⟩
    | none =>
      have found := unmet?_none.mp lacking
      rw [checkOrderFrom_met found, List.append_cons]
      exact ih (ordered_snoc lead found)

theorem checkOrder_cases (plugins : List Plugin) :
    (Ordered plugins ∧ checkOrder plugins = .ok ()) ∨ ∃ before p met id,
      Lacks plugins before p met id ∧
        checkOrder plugins = .error (objection (plugins.map Plugin.id) p id) :=
  checkOrderFrom_cases _ ordered_nil plugins

-- What becomes of one requirement of the plugin at a position if only the first plugin with that id
-- is looked at.
def judgePlace (plugins : List Plugin) (position : Nat) (p : Plugin) (id : String) :
    Except PluginOrderError Unit :=
  match plugins.findIdx? fun q => q.id == id with
  | some place => if place < position then .ok () else .error ⟨p.id, id, tooLate⟩
  | none => .error ⟨p.id, id, undeclared⟩

def checkPlacesFrom (plugins : List Plugin) (position : Nat) :
    List Plugin → Except PluginOrderError Unit
  | [] => .ok ()
  | p :: rest => do
    p.requires.forM (judgePlace plugins position p)
    checkPlacesFrom plugins (position + 1) rest

def checkPlaces (plugins : List Plugin) : Except PluginOrderError Unit :=
  checkPlacesFrom plugins 0 plugins

theorem findIdx?_provided :
    (∃ place, (plugins.findIdx? fun q => q.id == id) = some place) ↔ Provided plugins id := by
  rw [← Option.isSome_iff_exists, List.findIdx?_isSome, List.any_eq_true]
  simp [Provided]

theorem judgePlace_met (rest : List Plugin) (p : Plugin) (found : Provided before id) :
    judgePlace (before ++ rest) before.length p id = .ok () := by
  obtain ⟨place, first⟩ := findIdx?_provided.mpr found
  have inside : place < before.length := (List.findIdx?_eq_some_iff_getElem.mp first).1
  rw [judgePlace, List.findIdx?_append, first]
  exact if_pos inside

theorem judgePlace_unmet (rest : List Plugin) (p : Plugin) (missing : ¬ Provided before id) :
    judgePlace (before ++ rest) before.length p id =
      .error (objection ((before ++ rest).map Plugin.id) p id) := by
  have front : (before.findIdx? fun q => q.id == id) = none :=
    Option.eq_none_iff_forall_ne_some.mpr fun place first =>
      missing (findIdx?_provided.mp ⟨place, first⟩)
  have absent : id ∉ before.map Plugin.id := fun present => missing (provided_iff.mpr present)
  rw [judgePlace, objection, List.findIdx?_append, front]
  cases back : rest.findIdx? fun q => q.id == id with
  | some place =>
    have present : id ∈ rest.map Plugin.id :=
      provided_iff.mp (findIdx?_provided.mp ⟨place, back⟩)
    simp [present]
  | none =>
    have later : id ∉ rest.map Plugin.id := by
      intro present
      obtain ⟨place, first⟩ := findIdx?_provided.mpr (provided_iff.mpr present)
      rw [back] at first
      cases first
    simp [absent, later]

section

variable {α ε : Type} {f : α → Except ε Unit} {xs ys : List α} {x : α} {e : ε}

theorem forM_passes (passes : ∀ x ∈ xs, f x = .ok ()) : xs.forM f = .ok () := by
  induction xs with
  | nil => rfl
  | cons x xs ih =>
    obtain ⟨first, others⟩ := List.forall_mem_cons.mp passes
    rw [List.forM_eq_forM, List.forM_cons, first]
    exact ih others

theorem forM_stops (passes : ∀ x ∈ xs, f x = .ok ()) (stops : f x = .error e) :
    (xs ++ x :: ys).forM f = .error e := by
  induction xs with
  | nil =>
    rw [List.nil_append, List.forM_eq_forM, List.forM_cons, stops]
    rfl
  | cons y xs ih =>
    obtain ⟨first, others⟩ := List.forall_mem_cons.mp passes
    rw [List.cons_append, List.forM_eq_forM, List.forM_cons, first]
    exact ih others

end

theorem checkPlacesFrom_eq (before rest : List Plugin) :
    checkPlacesFrom (before ++ rest) before.length rest =
      checkOrderFrom ((before ++ rest).map Plugin.id) (before.map Plugin.id) rest := by
  induction rest generalizing before with
  | nil => rfl
  | cons p rest ih =>
    rw [checkPlacesFrom]
    cases lacking : unmet? (before.map Plugin.id) p with
    | none =>
      have found := unmet?_none.mp lacking
      have later := ih (before ++ [p])
      rw [List.length_append, ← List.append_cons] at later
      rw [forM_passes fun id required => judgePlace_met (p :: rest) p (found id required),
        checkOrderFrom_met found]
      exact later
    | some id =>
      obtain ⟨⟨met, more, requires, earlier⟩, missing⟩ := unmet?_some.mp lacking
      rw [requires, forM_stops (fun other inside => judgePlace_met (p :: rest) p (earlier other inside))
        (judgePlace_unmet (p :: rest) p missing), checkOrderFrom_unmet lacking]
      rfl

def Says (reason words : String) : Prop := Text.occurs words.toList reason.toList = true

-- What a check of a list comes to. The objection is the only one there can be, and its words tell
-- whether the plugin that is required stands further down or nowhere.
structure Judged (plugins : List Plugin) : Prop where
  passes : checkOrder plugins = .ok () ↔ Ordered plugins
  objects : ∀ e, checkOrder plugins = .error e ↔
    ∃ before p met, Lacks plugins before p met e.requires ∧ e.plugin = p.id ∧
      (Provided plugins e.requires → e.reason = tooLate) ∧
      (¬ Provided plugins e.requires → e.reason = undeclared)
  tells : ∀ e, checkOrder plugins = .error e →
    (Says e.reason "declared before" ↔ Provided plugins e.requires) ∧
      (Says e.reason "not declared" ↔ ¬ Provided plugins e.requires)
  places : checkOrder plugins = checkPlaces plugins

theorem objection_late (p : Plugin) (present : Provided plugins id) :
    objection (plugins.map Plugin.id) p id = ⟨p.id, id, tooLate⟩ := by
  have inside : (plugins.map Plugin.id).contains id = true := by
    simpa using provided_iff.mp present
  rw [objection, if_pos inside]

theorem objection_undeclared (p : Plugin) (absent : ¬ Provided plugins id) :
    objection (plugins.map Plugin.id) p id = ⟨p.id, id, undeclared⟩ := by
  have outside : ¬ (plugins.map Plugin.id).contains id = true := fun inside =>
    absent (provided_iff.mpr (by simpa using inside))
  rw [objection, if_neg outside]

theorem objection_tells (p : Plugin) (id : String) :
    (Says (objection (plugins.map Plugin.id) p id).reason "declared before" ↔
        Provided plugins id) ∧
      (Says (objection (plugins.map Plugin.id) p id).reason "not declared" ↔
        ¬ Provided plugins id) := by
  have late : Says tooLate "declared before" ∧ ¬ Says tooLate "not declared" := by
    unfold Says
    decide
  have nowhere : ¬ Says undeclared "declared before" ∧ Says undeclared "not declared" := by
    unfold Says
    decide
  by_cases present : Provided plugins id
  · rw [objection_late p present]
    exact ⟨iff_of_true late.1 present, iff_of_false late.2 (not_not_intro present)⟩
  · rw [objection_undeclared p present]
    exact ⟨iff_of_false nowhere.1 present, iff_of_true nowhere.2 present⟩

theorem order_judged (plugins : List Plugin) : Judged plugins := by
  have places : checkOrder plugins = checkPlaces plugins := (checkPlacesFrom_eq [] plugins).symm
  rcases checkOrder_cases plugins with ⟨ordered, passed⟩ | ⟨before, p, met, id, lacks, stopped⟩
  · refine ⟨iff_of_true passed ordered, fun e => iff_of_false ?_ ?_, fun e failed => ?_, places⟩
    · rw [passed]
      exact fun failed => by cases failed
    · rintro ⟨_, _, _, lacks, -⟩
      exact lacks.disorders ordered
    · rw [passed] at failed
      cases failed
  · refine ⟨iff_of_false ?_ lacks.disorders, fun e => ⟨fun failed => ?_, ?_⟩, fun e failed => ?_,
      places⟩
    · rw [stopped]
      exact fun passed => by cases passed
    · obtain rfl := Except.error.inj (stopped.symm.trans failed)
      refine ⟨before, p, met, lacks, rfl, fun present => ?_, fun absent => ?_⟩
      · exact congrArg PluginOrderError.reason (objection_late p present)
      · exact congrArg PluginOrderError.reason (objection_undeclared p absent)
    · rintro ⟨_, _, _, other, named, late, nowhere⟩
      obtain ⟨rfl, rfl⟩ := lacks.unique other
      rw [stopped]
      refine congrArg Except.error ?_
      by_cases present : Provided plugins e.requires
      · rw [objection_late p present, ← named, ← late present]
      · rw [objection_undeclared p present, ← named, ← nowhere present]
    · obtain rfl := Except.error.inj (stopped.symm.trans failed)
      exact objection_tells p id

end Rollout.Plugin
