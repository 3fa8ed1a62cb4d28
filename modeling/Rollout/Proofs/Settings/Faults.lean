import Rollout.Settings.Check

namespace Rollout

-- What a field asks of a value. A text may have to fit, and is told what is wrong if it does not.
inductive Demand where
  | text (fits : String → Prop) [decides : DecidablePred fits] (fault : String → String)
  | int (low high : Int)
  | bool

namespace Demand

def anyText : Demand := .text (fun _ => True) id

def Met : Demand → Value → Prop
  | @text fits _ _, v => ∃ s, v.text? = some s ∧ s ≠ "" ∧ fits s
  | .int low high, v => ∃ i, v.int? = some i ∧ low ≤ i ∧ i ≤ high
  | .bool, v => ∃ b, v.bool? = some b

def fault? : Demand → Value → Option String
  | @text fits _ fault, v =>
    match v.text? with
    | some s => if s = "" then some "must not be empty" else if fits s then none else some (fault s)
    | none => some ("expected a string, found " ++ v.kind)
  | .int low high, v =>
    match v.int? with
    | some i => if low ≤ i ∧ i ≤ high then none else some s!"{i} is out of range {low}..={high}"
    | none => some ("expected an integer, found " ++ v.kind)
  | .bool, v =>
    match v.bool? with
    | some _ => none
    | none => some ("expected a boolean, found " ++ v.kind)

theorem fault?_eq_none {demand : Demand} {v : Value} :
    demand.fault? v = none ↔ demand.Met v := by
  cases demand with
  | text fits fault =>
    cases read : v.text? with
    | none => simp [fault?, Met, read]
    | some s =>
      by_cases blank : s = ""
      · simp [fault?, Met, read, blank]
      · by_cases fit : fits s <;> simp [fault?, Met, read, blank, fit]
  | int low high =>
    cases read : v.int? with
    | none => simp [fault?, Met, read]
    | some i => by_cases inside : low ≤ i ∧ i ≤ high <;> simp [fault?, Met, read, inside]
  | bool => cases read : v.bool? <;> simp [fault?, Met, read]

end Demand

structure SchemaField where
  name : String
  required : Bool
  demand : Demand

namespace SchemaField

-- A field, by the setting that stands under its name, is as the schema has it.
def Conforms (f : SchemaField) : Option Setting → Prop
  | some (.value v) => f.demand.Met v
  | some (.block _) => False
  | none => f.required = false

def fault? (f : SchemaField) : Option Setting → Option String
  | some (.value v) => f.demand.fault? v
  | some (.block _) => some "expected a value, found a block"
  | none => if f.required then some "is required" else none

theorem fault?_eq_none {f : SchemaField} {setting : Option Setting} :
    f.fault? setting = none ↔ f.Conforms setting := by
  cases setting with
  | none => cases required : f.required <;> simp [fault?, Conforms, required]
  | some setting =>
    cases setting with
    | value v => exact Demand.fault?_eq_none
    | block entries => simp [fault?, Conforms]

instance (f : SchemaField) (setting : Option Setting) : Decidable (f.Conforms setting) :=
  decidable_of_iff _ fault?_eq_none

end SchemaField

def schemaNames (schema : List SchemaField) : List String := schema.map SchemaField.name

namespace Check

variable {check : Check} {name : String} {required : Bool} {low high : Int}

@[simp] theorem ofSettings_violation (subject : String) (settings : Settings) (field : String) :
    (ofSettings subject settings).violation field = fun message => ⟨subject, field, message⟩ := by
  simp [ofSettings, violation, funext_iff]

@[simp] theorem ofSettings_settings (subject : String) (settings : Settings) :
    (ofSettings subject settings).settings = settings := rfl

def faults (check : Check) (schema : List SchemaField) : List Violation :=
  schema.filterMap fun f =>
    (f.fault? (check.settings.lookup f.name)).map (check.violation f.name)

def unknown (check : Check) (known : List String) : List Violation :=
  ((Declared.names check.settings).filter fun name => name ∉ known).map fun name =>
    check.violation name "unknown setting"

def screen (check : Check) (schema : List SchemaField) : List Violation :=
  check.faults schema ++ check.unknown (schemaNames schema)

theorem faults_append (check : Check) (first rest : List SchemaField) :
    check.faults (first ++ rest) = check.faults first ++ check.faults rest :=
  List.filterMap_append

theorem faults_single (check : Check) (f : SchemaField) : check.faults [f] =
    ((f.fault? (check.settings.lookup f.name)).map (check.violation f.name)).toList := by
  cases fault : f.fault? (check.settings.lookup f.name) <;> simp [faults, fault]

theorem only_unknown (check : Check) (known : List String) :
    check.only known = check.unknown known := by
  unfold only unknown
  induction Declared.names check.settings with
  | nil => rfl
  | cons name rest ih =>
    rw [List.filterMap_cons, List.filter_cons, ih]
    by_cases inside : name ∈ known <;> simp [inside]

-- A text that is judged further: what is taken instead of a missing one has to pass the judge, and
-- then a field that failed once does not fail again.
theorem text_judged {fits : String → Prop} [DecidablePred fits] {fault : String → String}
    {judge : String → List Violation} {fallback : String} (accepted : judge fallback = [])
    (judged : ∀ s, s ≠ "" → judge s = if fits s then [] else [check.violation name (fault s)]) :
    (check.text name required).2 ++ judge ((check.text name required).1.getD fallback) =
      check.faults [⟨name, required, .text fits fault⟩] := by
  rw [faults_single]
  unfold text value
  rcases check.settings.lookup name with _ | v | entries
  · cases required <;>
      simp [andThen, refuse, SchemaField.fault?, accepted]
  · cases read : v.text? with
    | none =>
      simp [andThen, refuse, SchemaField.fault?, Demand.fault?, read, accepted]
    | some s =>
      by_cases blank : s = ""
      · simp [andThen, refuse, SchemaField.fault?, Demand.fault?, read, blank, accepted]
      · by_cases fit : fits s <;>
          simp [andThen, SchemaField.fault?, Demand.fault?, read, blank, fit, judged s blank]
  · simp [andThen, refuse, SchemaField.fault?, accepted]

theorem text_faults (check : Check) (name : String) (required : Bool) :
    (check.text name required).2 = check.faults [⟨name, required, .anyText⟩] := by
  let judge (_ : String) : List Violation := []
  have judged : (check.text name required).2 ++ judge ((check.text name required).1.getD "") =
      check.faults [⟨name, required, .anyText⟩] :=
    text_judged rfl fun s _ => (if_pos trivial).symm
  rwa [List.append_nil] at judged

theorem int_faults (check : Check) (name : String) (low high : Int) :
    (check.int name low high).2 = check.faults [⟨name, false, .int low high⟩] := by
  rw [faults_single]
  unfold int value
  rcases check.settings.lookup name with _ | v | entries
  · simp [andThen, SchemaField.fault?]
  · cases read : v.int? with
    | none => simp [andThen, refuse, SchemaField.fault?, Demand.fault?, read]
    | some i =>
      by_cases inside : low ≤ i ∧ i ≤ high <;>
        simp [andThen, refuse, SchemaField.fault?, Demand.fault?, read, inside]
  · simp [andThen, refuse, SchemaField.fault?]

theorem int_given (check : Check) (name : String) (low high : Int) :
    (check.int name low high).1 = none ∨ (check.int name low high).2 = [] := by
  unfold int value
  rcases check.settings.lookup name with _ | v | entries
  · exact .inl rfl
  · cases read : v.int? with
    | none => exact .inl (by simp [andThen, refuse, read])
    | some i => by_cases inside : low ≤ i ∧ i ≤ high <;> simp [andThen, refuse, read, inside]
  · exact .inl rfl

theorem bool_faults (check : Check) (name : String) :
    (check.bool name).2 = check.faults [⟨name, false, .bool⟩] := by
  rw [faults_single]
  unfold bool value
  rcases check.settings.lookup name with _ | v | entries
  · simp [andThen, SchemaField.fault?]
  · cases read : v.bool? <;>
      simp [andThen, refuse, SchemaField.fault?, Demand.fault?, read]
  · simp [andThen, refuse, SchemaField.fault?]

theorem text_read (check : Check) (name : String) (required : Bool) :
    (check.text name required).1 = (check.settings.text? name).filter fun s => s ≠ "" := by
  unfold text value Settings.text? Settings.value?
  rcases check.settings.lookup name with _ | v | entries
  · cases required <;> rfl
  · cases read : v.text? with
    | none => simp [andThen, refuse, read]
    | some s => by_cases blank : s = "" <;> simp [andThen, refuse, read, blank, Option.filter_some]
  · rfl

theorem int_read (check : Check) (name : String) (low high : Int) :
    (check.int name low high).1 =
      (check.settings.int? name).filter fun i => low ≤ i ∧ i ≤ high := by
  unfold int value Settings.int? Settings.value?
  rcases check.settings.lookup name with _ | v | entries
  · rfl
  · cases read : v.int? with
    | none => simp [andThen, refuse, read]
    | some i =>
      by_cases inside : low ≤ i ∧ i ≤ high <;>
        simp [andThen, refuse, read, inside, Option.filter_some]
  · rfl

theorem bool_read (check : Check) (name : String) :
    (check.bool name).1 = check.settings.bool? name := by
  unfold bool value Settings.bool? Settings.value?
  rcases check.settings.lookup name with _ | v | entries
  · rfl
  · cases read : v.bool? <;> simp [andThen, refuse, read]
  · rfl

end Check

end Rollout
