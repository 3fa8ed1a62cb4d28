import Rollout.Proofs.Settings.Discretion

namespace Rollout

namespace Settings

def blockAt? : Settings → List String → Option Settings
  | settings, [] => some settings
  | settings, name :: path => (settings.block? name).bind fun entries => blockAt? entries path

def at? (root : Settings) (path : List String) (name : String) : Option Setting :=
  (root.blockAt? path).bind fun block => block.lookup name

theorem blockAt?_snoc (root : Settings) (path : List String) (name : String) :
    root.blockAt? (path ++ [name]) = (root.blockAt? path).bind fun block => block.block? name := by
  induction path generalizing root with
  | nil => cases inner : root.block? name <;> simp [blockAt?, inner]
  | cons first rest ih =>
    cases inner : root.block? first with
    | none => simp [blockAt?, inner]
    | some entries => simpa [blockAt?, inner] using ih entries

end Settings

theorem dotted_snoc (path : List String) (block name : String) :
    dotted (path ++ [block] ++ [name]) = dotted (path ++ [block]) ++ "." ++ name := by
  induction path with
  | nil => simp [dotted]
  | cons first rest ih =>
    cases rest with
    | nil => simp [dotted, String.append_assoc]
    | cons second rest =>
      simp only [List.cons_append, dotted] at ih ⊢
      rw [ih]
      simp only [String.append_assoc]

namespace CheckStep

def field? : CheckStep → Option String
  | .text field _ => some field
  | .int field _ _ => some field
  | .bool field => some field
  | .block field _ => some field
  | .note _ _ => none
  | .only _ => none

def Optional : CheckStep → Prop
  | .text _ required => required = false
  | _ => True

-- What a step wants to find: a text that is not empty, a number in its range, a boolean or a block.
def Wants : CheckStep → Setting → Prop
  | .text _ _, .value v => ∃ s, v.text? = some s ∧ s ≠ ""
  | .int _ low high, .value v => ∃ i, v.int? = some i ∧ low ≤ i ∧ i ≤ high
  | .bool _, .value v => ∃ b, v.bool? = some b
  | .block _ _, .block _ => True
  | _, _ => False

mutual
-- The steps that are taken, with the paths of their blocks: behind the step for a block that there
-- is those inside of it.
def visits (root : Settings) (path : List String) : CheckStep → List (List String × CheckStep)
  | .block field steps =>
    (path, .block field steps) ::
      if (root.blockAt? (path ++ [field])).isSome then visitsAll root (path ++ [field]) steps
      else []
  | .text field required => [(path, .text field required)]
  | .int field low high => [(path, .int field low high)]
  | .bool field => [(path, .bool field)]
  | .note field message => [(path, .note field message)]
  | .only known => [(path, .only known)]
def visitsAll (root : Settings) (path : List String) :
    List CheckStep → List (List String × CheckStep)
  | [] => []
  | step :: rest => visits root path step ++ visitsAll root path rest
end

end CheckStep

namespace Reading

def Given : Reading → Prop
  | .text found => found.isSome
  | .int found => found.isSome
  | .bool found => found.isSome
  | .block found => found.isSome
  | .done => False

def Tells : Reading → Setting → Prop
  | .text found, .value v => found = v.text?
  | .int found, .value v => found = v.int?
  | .bool found, .value v => found = v.bool?
  | .block found, .block _ => found.isSome
  | _, _ => False

mutual
-- A reading, and behind that of a block the readings inside of it.
def flat : Reading → List Reading
  | .block (some readings) => .block (some readings) :: flatAll readings
  | .block none => [.block none]
  | .text found => [.text found]
  | .int found => [.int found]
  | .bool found => [.bool found]
  | .done => [.done]
def flatAll : List Reading → List Reading
  | [] => []
  | reading :: rest => flat reading ++ flatAll rest
end

end Reading

-- A step that was taken: in which block, what it gave, and what it recorded itself.
structure Taken where
  path : List String
  step : CheckStep
  reading : Reading
  recorded : List Violation

-- A step that reads a field gives a value, or records one violation, or does neither where the field
-- is optional and absent.
structure Taken.Reads (subject : String) (root : Settings) (t : Taken) (field : String) :
    Prop where
  asked : t.step.field? = some field
  outcome : (t.reading.Given ∧ t.recorded = []) ∨
    (¬ t.reading.Given ∧ ∃ message, t.recorded = [⟨subject, dotted (t.path ++ [field]), message⟩]) ∨
    (¬ t.reading.Given ∧ t.recorded = [] ∧ t.step.Optional ∧ root.at? t.path field = none)
  given : t.reading.Given ↔ ∃ setting, root.at? t.path field = some setting ∧ t.step.Wants setting
  told : t.reading.Given → ∃ setting, root.at? t.path field = some setting ∧ t.reading.Tells setting

inductive Taken.Sound (subject : String) (root : Settings) : Taken → Prop where
  | field {t : Taken} {field : String} (reads : t.Reads subject root field) : Sound subject root t
  | note (path : List String) (field message : String) : Sound subject root
      ⟨path, .note field message, .done, [⟨subject, dotted (path ++ [field]), message⟩]⟩
  | only (path : List String) (known : List String) {block : Settings}
      (here : root.blockAt? path = some block) : Sound subject root
      ⟨path, .only known, .done, ((Declared.names block).filter fun name => name ∉ known).map
        fun name => ⟨subject, dotted (path ++ [name]), "unknown setting"⟩⟩

-- The log of a program: all steps that were taken, all that they gave and all that they recorded.
structure Logged (subject : String) (root : Settings) (log : List Taken)
    (steps : List (List String × CheckStep)) (readings : List Reading) (found : List Violation) :
    Prop where
  steps : log.map (fun t => (t.path, t.step)) = steps
  readings : log.map Taken.reading = readings
  found : log.flatMap Taken.recorded = found
  sound : ∀ t ∈ log, t.Sound subject root

variable {subject : String} {root : Settings} {path : List String} {check : Check}

-- A check of the block behind a path of the outermost block.
structure Check.Stands (check : Check) (subject : String) (root : Settings) (path : List String) :
    Prop where
  subject : check.subject = subject
  reach : ∀ name, check.above ++ name = dotted (path ++ [name])
  here : root.blockAt? path = some check.settings

namespace Check

theorem ofSettings_stands (subject : String) (root : Settings) :
    (ofSettings subject root).Stands subject root [] :=
  ⟨rfl, fun _ => String.empty_append, rfl⟩

theorem Stands.at? (stands : check.Stands subject root path) (name : String) :
    root.at? path name = check.settings.lookup name := by
  rw [Settings.at?, stands.here, Option.bind_some]

theorem Stands.violation (stands : check.Stands subject root path) (name message : String) :
    check.violation name message = ⟨subject, dotted (path ++ [name]), message⟩ := by
  rw [Check.violation, stands.subject, stands.reach]

theorem Stands.inside (stands : check.Stands subject root path) {field : String}
    {entries : Settings} (found : check.settings.lookup field = some (.block entries)) :
    Stands ⟨check.subject, check.above ++ field ++ ".", entries⟩ subject root
      (path ++ [field]) := by
  refine ⟨stands.subject, fun name => ?_, ?_⟩
  · dsimp only
    rw [dotted_snoc, ← stands.reach]
  · rw [Settings.blockAt?_snoc, stands.here, Option.bind_some, Settings.block?, found]

-- A field that a schema describes: where it has no fault it is given, or it is optional and absent.
theorem Stands.reads (stands : check.Stands subject root path) {f : SchemaField} {step : CheckStep}
    {reading : Reading} (asked : step.field? = some f.name)
    (optional : f.required = false → step.Optional)
    (wants : ∀ setting, step.Wants setting ↔ ∃ v, setting = .value v ∧ f.demand.Met v)
    (given : reading.Given ↔ ∃ v, check.settings.lookup f.name = some (.value v) ∧ f.demand.Met v)
    (told : ∀ v, check.settings.lookup f.name = some (.value v) → reading.Given →
      reading.Tells (.value v)) :
    Taken.Reads subject root ⟨path, step, reading, check.faults [f]⟩ f.name := by
  refine ⟨asked, ?_, ?_, ?_⟩
  · dsimp only
    rw [faults_single, stands.at?]
    cases fault : f.fault? (check.settings.lookup f.name) with
    | some message =>
      refine .inr (.inl ⟨fun gives => ?_, message, ?_⟩)
      · obtain ⟨v, holds, met⟩ := given.mp gives
        have conforms : f.Conforms (check.settings.lookup f.name) := by rw [holds]; exact met
        rw [SchemaField.fault?_eq_none.mpr conforms] at fault
        cases fault
      · rw [Option.map_some, Option.toList_some, stands.violation]
    | none =>
      have conforms := SchemaField.fault?_eq_none.mp fault
      rcases holds : check.settings.lookup f.name with _ | v | entries
      · rw [holds] at conforms
        refine .inr (.inr ⟨fun gives => ?_, rfl, optional conforms, rfl⟩)
        obtain ⟨v, same, -⟩ := given.mp gives
        rw [holds] at same
        cases same
      · rw [holds] at conforms
        exact .inl ⟨given.mpr ⟨v, holds, conforms⟩, rfl⟩
      · rw [holds] at conforms
        cases conforms
  · dsimp only
    rw [given, stands.at?]
    constructor
    · rintro ⟨v, holds, met⟩
      exact ⟨.value v, holds, (wants _).mpr ⟨v, rfl, met⟩⟩
    · rintro ⟨setting, holds, wanted⟩
      obtain ⟨v, rfl, met⟩ := (wants setting).mp wanted
      exact ⟨v, holds, met⟩
  · intro gives
    obtain ⟨v, holds, -⟩ := given.mp gives
    exact ⟨.value v, (stands.at? f.name).trans holds, told v holds gives⟩

theorem Stands.text_reads (stands : check.Stands subject root path) (field : String)
    (required : Bool) :
    Taken.Reads subject root ⟨path, .text field required, .text (check.text field required).1,
      (check.text field required).2⟩ field := by
  rw [text_faults, text_read, Settings.text?, Settings.value?]
  refine stands.reads (f := ⟨field, required, .anyText⟩) rfl id ?_ ?_ ?_
  · rintro (v | entries) <;> simp [CheckStep.Wants, Demand.anyText, Demand.Met]
  · rcases check.settings.lookup field with _ | v | entries
    · simp [Reading.Given]
    · cases read : v.text? <;> simp [Reading.Given, read, Demand.anyText, Demand.Met]
    · simp [Reading.Given]
  · intro v holds gives
    rw [holds] at gives ⊢
    obtain ⟨s, given⟩ := Option.isSome_iff_exists.mp gives
    exact given.trans (Option.filter_eq_some_iff.mp given).1.symm

theorem Stands.int_reads (stands : check.Stands subject root path) (field : String)
    (low high : Int) :
    Taken.Reads subject root ⟨path, .int field low high, .int (check.int field low high).1,
      (check.int field low high).2⟩ field := by
  rw [int_faults, int_read, Settings.int?, Settings.value?]
  refine stands.reads (f := ⟨field, false, .int low high⟩) rfl (fun _ => trivial) ?_ ?_ ?_
  · rintro (v | entries) <;> simp [CheckStep.Wants, Demand.Met]
  · rcases check.settings.lookup field with _ | v | entries
    · simp [Reading.Given]
    · cases read : v.int? <;> simp [Reading.Given, read, Demand.Met]
    · simp [Reading.Given]
  · intro v holds gives
    rw [holds] at gives ⊢
    obtain ⟨i, given⟩ := Option.isSome_iff_exists.mp gives
    exact given.trans (Option.filter_eq_some_iff.mp given).1.symm

theorem Stands.bool_reads (stands : check.Stands subject root path) (field : String) :
    Taken.Reads subject root ⟨path, .bool field, .bool (check.bool field).1,
      (check.bool field).2⟩ field := by
  rw [bool_faults, bool_read, Settings.bool?, Settings.value?]
  refine stands.reads (f := ⟨field, false, .bool⟩) rfl (fun _ => trivial) ?_ ?_ ?_
  · rintro (v | entries) <;> simp [CheckStep.Wants, Demand.Met]
  · rcases check.settings.lookup field with _ | v | entries
    · simp [Reading.Given]
    · cases read : v.bool? <;> simp [Reading.Given, read, Demand.Met]
    · simp [Reading.Given]
  · intro v holds gives
    rw [holds]
    rfl

theorem Stands.block_reads (stands : check.Stands subject root path) (field : String)
    (steps : List CheckStep) :
    (∃ entries, check.settings.lookup field = some (.block entries) ∧
      ∀ readings, Taken.Reads subject root
        ⟨path, .block field steps, .block (some readings), []⟩ field) ∨
    (check.settings.block? field = none ∧ (check.block field).1 = none ∧
      Taken.Reads subject root
        ⟨path, .block field steps, .block none, (check.block field).2⟩ field) := by
  have at? := stands.at? field
  unfold block Settings.block?
  rcases holds : check.settings.lookup field with _ | v | entries
  · rw [holds] at at?
    refine .inr ⟨rfl, rfl, rfl, .inr (.inr ⟨nofun, rfl, trivial, at?⟩), ?_, nofun⟩
    simp [Reading.Given, at?]
  · rw [holds] at at?
    refine .inr ⟨rfl, rfl, rfl, .inr (.inl ⟨nofun, "expected a block", ?_⟩), ?_, nofun⟩
    · exact congrArg (fun found => [found]) (stands.violation field "expected a block")
    · simp [Reading.Given, at?, CheckStep.Wants]
  · rw [holds] at at?
    refine .inl ⟨entries, rfl, fun readings => ⟨rfl, .inl ⟨rfl, rfl⟩, ?_, fun _ => ⟨_, at?, rfl⟩⟩⟩
    simp [Reading.Given, at?, CheckStep.Wants]

end Check

namespace Logged

variable {t : Taken} {log rest : List Taken} {steps more : List (List String × CheckStep)}
variable {readings others : List Reading} {found later : List Violation}

theorem nil : Logged subject root [] [] [] [] := ⟨rfl, rfl, rfl, by simp⟩

theorem append (first : Logged subject root log steps readings found)
    (second : Logged subject root rest more others later) :
    Logged subject root (log ++ rest) (steps ++ more) (readings ++ others) (found ++ later) := by
  obtain ⟨rfl, rfl, rfl, sound⟩ := first
  obtain ⟨rfl, rfl, rfl, sound'⟩ := second
  refine ⟨List.map_append, List.map_append, List.flatMap_append, fun t member => ?_⟩
  exact (List.mem_append.mp member).elim (sound t) (sound' t)

theorem single (sound : t.Sound subject root) :
    Logged subject root [t] [(t.path, t.step)] [t.reading] t.recorded :=
  ⟨rfl, rfl, by simp, by simpa using sound⟩

theorem enter {field : String} {inside : List CheckStep}
    (reads : Taken.Reads subject root
      ⟨path, .block field inside, .block (some readings), []⟩ field)
    (logged : Logged subject root log steps (Reading.flatAll readings) found) :
    Logged subject root (⟨path, .block field inside, .block (some readings), []⟩ :: log)
      ((path, .block field inside) :: steps) (Reading.flat (.block (some readings))) found :=
  (single (.field reads)).append logged

end Logged

namespace CheckStep

mutual
theorem run_logged : ∀ (step : CheckStep) {check : Check} {path : List String},
    check.Stands subject root path →
      ∃ log, Logged subject root log (visits root path step) (Reading.flat (run check step).1)
        (run check step).2
  | .text field required, _, _, stands => ⟨_, .single (.field (stands.text_reads field required))⟩
  | .int field low high, _, _, stands => ⟨_, .single (.field (stands.int_reads field low high))⟩
  | .bool field, _, _, stands => ⟨_, .single (.field (stands.bool_reads field))⟩
  | .note field message, check, path, stands => by
    have noted : Logged subject root _ _ _ _ := .single (.note path field message)
    rw [← stands.violation field message] at noted
    exact ⟨_, noted⟩
  | .only known, check, path, stands => by
    have screened : Logged subject root _ _ _ _ := .single (.only path known stands.here)
    simp only [← stands.violation] at screened
    rw [run, Check.only_unknown]
    exact ⟨_, screened⟩
  | .block field steps, check, path, stands => by
    have inner : root.blockAt? (path ++ [field]) = check.settings.block? field := by
      rw [Settings.blockAt?_snoc, stands.here, Option.bind_some]
    rw [visits, run, inner]
    obtain ⟨entries, holds, reads⟩ | ⟨absent, refused, reads⟩ := stands.block_reads field steps
    · obtain ⟨log, logged⟩ := runAll_logged steps (stands.inside holds)
      simp only [Settings.block?, Check.block, holds]
      exact ⟨_, .enter (reads _) logged⟩
    · have stopped := Logged.single (.field reads)
      rw [absent]
      cases found : check.block field with
      | mk nested recorded =>
        rw [found] at refused stopped
        obtain rfl : nested = none := refused
        exact ⟨_, stopped⟩
theorem runAll_logged : ∀ (steps : List CheckStep) {check : Check} {path : List String},
    check.Stands subject root path →
      ∃ log, Logged subject root log (visitsAll root path steps)
        (Reading.flatAll (runAll check steps).1) (runAll check steps).2
  | [], _, _, _ => ⟨[], .nil⟩
  | step :: rest, _, _, stands => by
    obtain ⟨log, logged⟩ := run_logged step stands
    obtain ⟨others, later⟩ := runAll_logged rest stands
    exact ⟨log ++ others, logged.append later⟩
end

-- A program on any settings, from the outermost block on.
theorem runAll_recorded (subject : String) (root : Settings) (steps : List CheckStep) :
    ∃ log, Logged subject root log (visitsAll root [] steps)
      (Reading.flatAll (runAll (Check.ofSettings subject root) steps).1)
      (runAll (Check.ofSettings subject root) steps).2 :=
  runAll_logged steps (Check.ofSettings_stands subject root)

example : (runAll (Check.ofSettings "plugin vault" [("size", .value (.int 70)),
    ("door", .block [("lock", .block [("pins", .value (.bool true))])])])
      [.int "size" 1 64, .block "door" [.text "colour" true,
        .block "lock" [.int "pins" 4 9, .only ["key"]], .text "handle" false], .bool "open"]).2 =
      [⟨"plugin vault", "size", "70 is out of range 1..=64"⟩,
        ⟨"plugin vault", "door.colour", "is required"⟩,
        ⟨"plugin vault", "door.lock.pins", "expected an integer, found boolean"⟩,
        ⟨"plugin vault", "door.lock.pins", "unknown setting"⟩] := by
  decide +kernel

end CheckStep

end Rollout
