import Rollout.Proofs.Assembly.Twins
import Rollout.Proofs.Definition.Layers
import Rollout.Proofs.Settings.Faults

namespace Rollout

namespace Check

variable {check : Check} {name : String} {known : List String} {schema : List SchemaField}

theorem unknown_mem (check : Check) (present : name ∈ Declared.names check.settings)
    (outside : name ∉ known) : check.violation name "unknown setting" ∈ check.unknown known :=
  List.mem_map_of_mem (List.mem_filter.mpr ⟨present, by simpa using outside⟩)

theorem faults_remove (subject : String) (settings : Settings) (apart : name ∉ schemaNames schema) :
    (ofSettings subject (Declared.remove name settings)).faults schema =
      (ofSettings subject settings).faults schema := by
  refine List.filterMap_congr fun f inside => ?_
  have other : f.name ≠ name := fun same => apart (same ▸ List.mem_map_of_mem inside)
  rw [ofSettings_violation, ofSettings_violation, ofSettings_settings, ofSettings_settings,
    Declared.lookup_remove, if_neg other]

theorem unknown_remove (subject : String) (settings : Settings) (inside : name ∈ known) :
    (ofSettings subject (Declared.remove name settings)).unknown known =
      (ofSettings subject settings).unknown known := by
  have names : ((Declared.names (Declared.remove name settings)).filter fun k => k ∉ known) =
      (Declared.names settings).filter fun k => k ∉ known := by
    unfold Declared.names Declared.remove
    rw [List.filter_map, List.filter_map, List.filter_filter]
    refine congrArg _ (List.filter_congr fun entry _ => ?_)
    by_cases same : entry.1 = name <;> simp [same, inside]
  simp only [unknown, ofSettings_violation, ofSettings_settings, names]

theorem faults_absent (absent : ∀ f ∈ schema, f.required = false ∧
    f.name ∉ Declared.names check.settings) : check.faults schema = [] := by
  refine List.filterMap_eq_nil_iff.mpr fun f inside => ?_
  obtain ⟨optional, outside⟩ := absent f inside
  have missing : check.settings.lookup f.name = none := by
    refine List.lookup_eq_none_iff.mpr fun entry member => ?_
    have other : f.name ≠ entry.1 := fun same => outside (same ▸ List.mem_map_of_mem member)
    simpa using other
  simp [missing, SchemaField.fault?, optional]

end Check

theorem Settings.block?_eq_some {settings entries : Settings} {name : String} :
    settings.block? name = some entries ↔ settings.lookup name = some (.block entries) := by
  unfold Settings.block?
  rcases settings.lookup name with _ | v | entries' <;> simp

namespace RailsApp

variable {settings entries : Settings} {name : String}

def hostFault (hostname : String) : String := s!"'{hostname}' is not a valid host name"

def schema : List SchemaField :=
  [⟨"hostname", true, .text (isHostname · = true) hostFault⟩, ⟨"ingress_class", false, .anyText⟩,
    ⟨"replicas", false, .int 0 100⟩, ⟨"port", false, .int 1 65535⟩,
    ⟨"manage_database", false, .bool⟩]

-- Of a database that is provided already no field may be given.
def managedSchema : List SchemaField :=
  databaseFields.map fun name => ⟨name, false, .text (fun _ => False) fun _ => providedByPlugin⟩

theorem managedViolations_faults (db : Check) : managedViolations db = db.faults managedSchema := by
  unfold managedViolations managedSchema Check.faults
  rw [List.filterMap_map, List.filterMap_eq_flatMap_toList]
  refine List.flatMap_congr fun name _ => ?_
  let judge (s : String) := if s = "" then [] else [db.violation name providedByPlugin]
  have judged : (db.text name false).2 ++ judge ((db.text name false).1.getD "") =
      db.faults [⟨name, false, .text (fun _ => False) fun _ => providedByPlugin⟩] :=
    Check.text_judged (if_pos rfl) fun s present => by simp [judge, present]
  refine Eq.trans ?_ (judged.trans (Check.faults_single db _))
  rcases Check.text_cases db name false with ⟨s, read⟩ | ⟨fault, read⟩ | ⟨-, read⟩
  · have given := (Check.text_read db name false).symm.trans (congrArg Prod.fst read)
    have present : s ≠ "" := of_decide_eq_true (Option.filter_eq_some_iff.mp given).2
    simp [read, judge, present]
  · simp [read, judge]
  · simp [read, judge]

def entriesFaults (check : Check) : List Violation :=
  match check.settings.lookup "env" with
  | some (.block entries) => variableViolations check entries
  | some (.value _) => [check.violation "env" "expected a block"]
  | none => []

abbrev checked (settings : Settings) : Check := .ofSettings ("plugin " ++ pluginId) settings

theorem hostnameViolations_eq (check : Check) {s : String} (present : s ≠ "") :
    hostnameViolations check s =
      if isHostname s = true then [] else [check.violation "hostname" (hostFault s)] := by
  unfold hostnameViolations
  by_cases host : isHostname s = true <;> simp [host, present, hostFault]

theorem violations_parts (settings : Settings) : (plugin settings).violations =
    (checked settings).faults schema ++ (databaseRead (checked settings)).2 ++
      entriesFaults (checked settings) ++ (checked settings).unknown fields := by
  have hostname : ((checked settings).text "hostname" true).2 ++
      hostnameViolations (checked settings) (((checked settings).text "hostname" true).1.getD "") =
        (checked settings).faults
          [⟨"hostname", true, .text (isHostname · = true) hostFault⟩] :=
    Check.text_judged rfl fun s present => hostnameViolations_eq _ present
  have read : (plugin settings).violations =
      ((checked settings).text "hostname" true).2 ++
        hostnameViolations (checked settings)
          (((checked settings).text "hostname" true).1.getD "") ++
        ((checked settings).text "ingress_class" false).2 ++
        ((checked settings).int "replicas" 0 100).2 ++ ((checked settings).int "port" 1 65535).2 ++
        ((checked settings).bool "manage_database").2 ++ (databaseRead (checked settings)).2 ++
        entriesFaults (checked settings) ++ (checked settings).only fields := by
    change (ofSettings settings).2 = _
    unfold ofSettings entriesFaults
    rw [Check.ofSettings_settings]
    rcases settings.lookup "env" with _ | v | entries <;> rfl
  rw [read, hostname, Check.text_faults, Check.int_faults, Check.int_faults, Check.bool_faults,
    Check.only_unknown]
  simp only [← Check.faults_append]
  rfl

theorem databaseRead_block {db : Settings} (block : settings.block? "database" = some db) :
    (databaseRead (checked settings)).2 = (databaseOf (settings.bool? "manage_database")
      ⟨"plugin " ++ pluginId, "database.", db⟩).2 := by
  unfold databaseRead Check.block
  rw [Check.bool_read, Check.ofSettings_settings, Settings.block?_eq_some.mp block]
  rfl

theorem databaseRead_remove (database : "database" ≠ name) (managed : "manage_database" ≠ name) :
    (databaseRead (checked (Declared.remove name settings))).2 =
      (databaseRead (checked settings)).2 := by
  have flag : Settings.bool? (Declared.remove name settings) "manage_database" =
      settings.bool? "manage_database" := by
    unfold Settings.bool? Settings.value?
    rw [Declared.lookup_remove, if_neg managed]
  unfold databaseRead Check.block
  rw [Check.bool_read, Check.bool_read, Check.ofSettings_settings, Check.ofSettings_settings, flag,
    Declared.lookup_remove, if_neg database]
  rcases settings.lookup "database" with _ | v | entries <;> rfl

theorem entriesFaults_remove (env : "env" ≠ name) :
    entriesFaults (checked (Declared.remove name settings)) = entriesFaults (checked settings) := by
  unfold entriesFaults
  rw [Check.ofSettings_settings, Check.ofSettings_settings, Declared.lookup_remove, if_neg env]
  rcases settings.lookup "env" with _ | v | entries <;> rfl

theorem databaseOf_unknown {managed : Option Bool} (free : managed ≠ some true) (db : Check) :
    db.unknown databaseFields ⊆ (databaseOf managed db).2 := by
  unfold databaseOf
  rw [if_neg free, Check.only_unknown]
  exact List.subset_append_right _ _

theorem databaseOf_managed (db : Check) :
    (databaseOf (some true) db).2 = db.faults managedSchema := by
  unfold databaseOf
  rw [if_pos rfl, managedViolations_faults]

theorem managed_refused (db : Check) (present : name ∈ Declared.names db.settings)
    (known : name ∈ databaseFields) :
    ∃ message, db.violation name message ∈ db.faults managedSchema := by
  obtain ⟨setting, found⟩ : ∃ setting, db.settings.lookup name = some setting := by
    cases found : db.settings.lookup name with
    | some setting => exact ⟨setting, rfl⟩
    | none =>
      obtain ⟨entry, member, rfl⟩ := List.mem_map.mp present
      simpa using List.lookup_eq_none_iff.mp found entry member
  let f : SchemaField := ⟨name, false, .text (fun _ => False) fun _ => providedByPlugin⟩
  have faulty : ¬ f.Conforms (some setting) := by
    cases setting with
    | value v =>
      rintro ⟨s, -, -, never⟩
      exact never
    | block entries => exact id
  cases fault : f.fault? (some setting) with
  | none => exact absurd (SchemaField.fault?_eq_none.mp fault) faulty
  | some message =>
    refine ⟨message, List.mem_filterMap.mpr ⟨f, List.mem_map_of_mem known, ?_⟩⟩
    rw [found, fault]
    rfl

theorem database_unread {db : Settings} (block : settings.block? "database" = some db)
    (managed : settings.bool? "manage_database" = some true)
    (outside : ∀ name ∈ Declared.names db, name ∉ databaseFields) :
    (plugin settings).violations = (plugin (Declared.remove "database" settings)).violations := by
  have silent : (databaseRead (checked settings)).2 = [] := by
    rw [databaseRead_block block, managed, databaseOf_managed]
    refine Check.faults_absent fun f inside => ?_
    obtain ⟨name, known, rfl⟩ := List.mem_map.mp inside
    exact ⟨rfl, fun present => outside name present known⟩
  have absent : (databaseRead (checked (Declared.remove "database" settings))).2 = [] := by
    unfold databaseRead Check.block
    rw [Check.ofSettings_settings, Declared.lookup_remove, if_pos rfl]
  rw [violations_parts, violations_parts, Check.faults_remove _ _ (by decide),
    Check.unknown_remove _ _ (by decide), entriesFaults_remove (by decide), silent, absent]

theorem variables_free (block : settings.block? "env" = some entries)
    (values : ∀ entry ∈ entries, ∃ v, entry.2 = .value v) :
    (plugin settings).violations = (plugin (Declared.remove "env" settings)).violations := by
  have silent : entriesFaults (checked settings) = [] := by
    unfold entriesFaults
    rw [Check.ofSettings_settings, Settings.block?_eq_some.mp block]
    refine List.filterMap_eq_nil_iff.mpr fun (name, setting) member => ?_
    obtain ⟨v, rfl⟩ := values _ member
    rfl
  have absent : entriesFaults (checked (Declared.remove "env" settings)) = [] := by
    unfold entriesFaults
    rw [Check.ofSettings_settings, Declared.lookup_remove, if_pos rfl]
  rw [violations_parts, violations_parts, Check.faults_remove _ _ (by decide),
    Check.unknown_remove _ _ (by decide), databaseRead_remove (by decide) (by decide), silent,
    absent]

-- How strictly the names in the settings of a web application are read.
structure Strict (settings : Settings) (found : List Violation) : Prop where
  outer : ∀ name ∈ Declared.names settings, name ∉ fields →
    ⟨"plugin rails_app", name, "unknown setting"⟩ ∈ found
  inner : ∀ db, settings.block? "database" = some db →
    settings.bool? "manage_database" ≠ some true →
      ∀ name ∈ Declared.names db, name ∉ databaseFields →
        ⟨"plugin rails_app", "database." ++ name, "unknown setting"⟩ ∈ found
  -- a block beside a database that is provided is refused for every field of the schema in it
  provided : ∀ db, settings.block? "database" = some db →
    settings.bool? "manage_database" = some true →
      ∀ name ∈ Declared.names db, name ∈ databaseFields →
        ∃ message, ⟨"plugin rails_app", "database." ++ name, message⟩ ∈ found
  -- and without such a field it is as if it were not there
  unread : ∀ db, settings.block? "database" = some db →
    settings.bool? "manage_database" = some true →
      (∀ name ∈ Declared.names db, name ∉ databaseFields) →
        found = (plugin (Declared.remove "database" settings)).violations
  -- a variable may have any name
  free : ∀ entries, settings.block? "env" = some entries →
    (∀ entry ∈ entries, ∃ v, entry.2 = .value v) →
      found = (plugin (Declared.remove "env" settings)).violations

theorem violations_strict (settings : Settings) : Strict settings (plugin settings).violations := by
  have inBlock : (databaseRead (checked settings)).2 ⊆ (plugin settings).violations := by
    intro v found
    rw [violations_parts]
    simp only [List.mem_append]
    exact .inl (.inl (.inr found))
  refine ⟨?_, ?_, ?_, ?_, ?_⟩
  · intro name present outside
    have refused := Check.unknown_mem (checked settings) present outside
    rw [Check.ofSettings_violation] at refused
    rw [violations_parts]
    exact List.mem_append_right _ refused
  · intro db block free name present outside
    have refused := Check.unknown_mem ⟨"plugin " ++ pluginId, "database.", db⟩ present outside
    apply inBlock
    rw [databaseRead_block block]
    exact databaseOf_unknown free _ refused
  · intro db block managed name present known
    obtain ⟨message, refused⟩ := managed_refused ⟨"plugin " ++ pluginId, "database.", db⟩ present
      known
    refine ⟨message, inBlock ?_⟩
    rw [databaseRead_block block, managed, databaseOf_managed]
    exact refused
  · intro db block managed outside
    exact database_unread block managed outside
  · intro entries block values
    exact variables_free block values

def pantrySettings (managed : Bool) (database : Settings) : Settings :=
  [("hostname", .value (.string "pantry.example.com")), ("shelf", .value (.int 3)),
    ("manage_database", .value (.bool managed)), ("database", .block database),
    ("env", .block [("shelf", .value (.secret "SHELF" ⟨"top"⟩))])]

theorem pantry_strict :
    (plugin (pantrySettings false [("port", .value (.int 1)), ("size", .block [])])).violations.map
        Violation.field =
      ["database.user", "database.password", "database.host", "database.port", "database.size",
        "shelf"] ∧
    Strict (pantrySettings false [("port", .value (.int 1)), ("size", .block [])])
      (plugin (pantrySettings false [("port", .value (.int 1)), ("size", .block [])])).violations :=
  ⟨by decide +kernel, violations_strict _⟩

-- The database is provided by another plugin, and the block beside that passes.
theorem spare_block_accepted :
    let database : Settings := [("size", .value (.string "large"))]
    (pantrySettings true database).block? "database" = some database ∧
      (pantrySettings true database).bool? "manage_database" = some true ∧
      "size" ∉ databaseFields ∧
      (plugin (pantrySettings true database)).violations.map Violation.field = ["shelf"] := by
  decide +kernel

end RailsApp

end Rollout
