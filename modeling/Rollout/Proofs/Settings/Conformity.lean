import Mathlib.Data.Char
import Mathlib.Data.List.Nodup
import Rollout.Proofs.Assembly.Completeness
import Rollout.Proofs.Settings.Faults

namespace Rollout

namespace DigitalOcean

def IsWebUrl (url : String) : Prop :=
  "http://".toList <+: url.toList ∨ "https://".toList <+: url.toList

instance : DecidablePred IsWebUrl := fun _ => inferInstanceAs (Decidable (_ ∨ _))

def schema : List SchemaField :=
  [⟨"access_token", true, .anyText⟩, ⟨"cluster_id", true, .anyText⟩,
    ⟨"api_url", false, .text IsWebUrl fun _ => "must be an http(s) URL"⟩]

theorem urlViolations_eq (check : Check) (url : String) : urlViolations check url =
    if IsWebUrl url then [] else [check.violation "api_url" "must be an http(s) URL"] := by
  refine if_congr ?_ rfl rfl
  rw [Bool.or_eq_true, List.isPrefixOf_iff_prefix, List.isPrefixOf_iff_prefix]
  rfl

-- Settings without a fault make a configuration, so that no fault is lost in between.
theorem violations_screened (settings : Settings) : (provider settings).violations =
    (Check.ofSettings ("provider " ++ providerId) settings).screen schema := by
  change violationsOf (ofSettings settings) = _
  unfold ofSettings
  generalize Check.ofSettings _ settings = check
  have url : (check.text "api_url" false).2 ++
      urlViolations check ((check.text "api_url" false).1.getD defaultApiUrl) =
        check.faults [⟨"api_url", false, .text IsWebUrl fun _ => "must be an http(s) URL"⟩] :=
    Check.text_judged (by rw [urlViolations_eq, if_pos (by decide)])
      fun s _ => urlViolations_eq check s
  have found : (check.text "access_token" true).2 ++ (check.text "cluster_id" true).2 ++
      (check.text "api_url" false).2 ++
      urlViolations check ((check.text "api_url" false).1.getD defaultApiUrl) ++
      check.only fields = check.screen schema := by
    rw [List.append_assoc _ (check.text "api_url" false).2, url, Check.text_faults,
      Check.text_faults, ← Check.faults_append, ← Check.faults_append, Check.only_unknown]
    rfl
  dsimp only
  rw [found]
  cases whole : check.screen schema with
  | nil => split <;> simp_all [violationsOf]
  | cons fault rest => split <;> simp_all [violationsOf]

end DigitalOcean

namespace DockerDesktop

def schema : List SchemaField := [⟨"kubeconfig", false, .anyText⟩, ⟨"context", false, .anyText⟩]

theorem violations_screened (settings : Settings) : (provider settings).violations =
    (Check.ofSettings ("provider " ++ providerId) settings).screen schema := by
  change (ofSettings settings).2 = _
  unfold ofSettings
  dsimp only
  rw [Check.text_faults, Check.text_faults, ← Check.faults_append, Check.only_unknown]
  rfl

end DockerDesktop

namespace Postgres

-- Digits, and one of the units behind them.
def IsStorage (s : String) : Prop :=
  ∃ digits unit, s = digits ++ unit ∧ digits ≠ "" ∧ digits.toList.all Text.isDigit = true ∧
    unit ∈ units

theorem units_letters : ∀ unit ∈ units, unit.toList.all isLetter = true := by decide

theorem isLetter_digit {c : Char} (digit : Text.isDigit c = true) : isLetter c = false := by
  simp only [Text.isDigit, Bool.and_eq_true, decide_eq_true_eq] at digit
  have lower : c < 'a' := lt_of_le_of_lt digit.2 (by decide)
  have upper : c < 'A' := lt_of_le_of_lt digit.2 (by decide)
  simp [isLetter, Text.isLower, Text.isUpper, Char.not_le.mpr lower, Char.not_le.mpr upper]

theorem isQuantity_iff (s : String) : isQuantity s = true ↔ IsStorage s := by
  unfold isQuantity IsStorage
  dsimp only
  constructor
  · intro quantity
    simp only [Bool.and_eq_true, Bool.not_eq_true', List.contains_iff_mem] at quantity
    obtain ⟨⟨present, digits⟩, unit⟩ := quantity
    refine ⟨.ofList (s.toList.reverse.dropWhile isLetter).reverse, _, ?_, ?_, ?_, unit⟩
    · rw [← String.ofList_append, ← List.reverse_append, List.takeWhile_append_dropWhile,
        List.reverse_reverse, String.ofList_toList]
    · intro blank
      have none := congrArg String.toList blank
      rw [String.toList_ofList] at none
      rw [none] at present
      cases present
    · rwa [String.toList_ofList]
  · rintro ⟨digits, unit, rfl, present, numeric, known⟩
    have letters : ∀ c ∈ unit.toList.reverse, isLetter c = true := by
      simpa using units_letters unit known
    have stop : digits.toList.reverse.takeWhile isLetter = [] := by
      cases back : digits.toList.reverse with
      | nil => rfl
      | cons c rest =>
        have last : c ∈ digits.toList := List.mem_reverse.mp (back ▸ List.mem_cons_self)
        rw [List.takeWhile_cons, isLetter_digit (List.all_eq_true.mp numeric c last),
          if_neg Bool.false_ne_true]
    have rest : digits.toList.reverse.dropWhile isLetter = digits.toList.reverse := by
      have whole : digits.toList.reverse.takeWhile isLetter ++
          digits.toList.reverse.dropWhile isLetter = digits.toList.reverse :=
        List.takeWhile_append_dropWhile
      rwa [stop, List.nil_append] at whole
    rw [String.toList_append, List.reverse_append, List.takeWhile_append_of_pos letters,
      List.dropWhile_append_of_pos letters, stop, rest]
    simp [numeric, known, present]

instance : DecidablePred IsStorage := fun s => decidable_of_iff _ (isQuantity_iff s)

def storageFault (s : String) : String := s!"'{s}' is not a storage quantity such as 10Gi"

def schema : List SchemaField :=
  [⟨"user", true, .anyText⟩, ⟨"password", true, .anyText⟩, ⟨"database", false, .anyText⟩,
    ⟨"storage", false, .text IsStorage storageFault⟩, ⟨"version", false, .int 9 99⟩]

theorem storageViolations_eq (check : Check) (s : String) : storageViolations check s =
    if IsStorage s then [] else [check.violation "storage" (storageFault s)] := by
  unfold storageViolations
  by_cases quantity : isQuantity s = true
  · rw [if_pos quantity, if_pos ((isQuantity_iff s).mp quantity)]
  · rw [if_neg quantity, if_neg fun storage => quantity ((isQuantity_iff s).mpr storage)]
    rfl

theorem violations_screened (settings : Settings) : (plugin settings).violations =
    (Check.ofSettings ("plugin " ++ pluginId) settings).screen schema := by
  change (ofSettings settings).2 = _
  unfold ofSettings
  generalize Check.ofSettings _ settings = check
  have storage : (check.text "storage" false).2 ++
      storageViolations check ((check.text "storage" false).1.getD defaultStorage) =
        check.faults [⟨"storage", false, .text IsStorage storageFault⟩] :=
    Check.text_judged (by rw [storageViolations_eq, if_pos (by decide)])
      fun s _ => storageViolations_eq check s
  dsimp only
  rw [List.append_assoc _ (Check.text _ "storage" false).2, storage, Check.text_faults,
    Check.text_faults, Check.text_faults, Check.int_faults]
  simp only [← Check.faults_append, Check.only_unknown]
  rfl

end Postgres

structure Screened (subject : String) (schema : List SchemaField) (settings : Settings)
    (found : List Violation) : Prop where
  -- the faults of the fields in the order of the schema, and then the unknown names as declared
  exact : found =
    (schema.filterMap fun f =>
      (f.fault? (settings.lookup f.name)).map fun message => ⟨subject, f.name, message⟩) ++
    ((Declared.names settings).filter fun name => name ∉ schemaNames schema).map
      fun name => ⟨subject, name, "unknown setting"⟩
  -- a field has a fault if it does not conform, and one fault only
  fields : found.map Violation.field =
    schemaNames (schema.filter fun f => ¬ f.Conforms (settings.lookup f.name)) ++
      (Declared.names settings).filter fun name => name ∉ schemaNames schema
  clean : found = [] ↔ (∀ f ∈ schema, f.Conforms (settings.lookup f.name)) ∧
    ∀ name ∈ Declared.names settings, name ∈ schemaNames schema
  once : (Declared.names settings).Nodup → (found.map Violation.field).Nodup

section Screening

variable {subject : String} {schema : List SchemaField} {settings : Settings}
variable {found : List Violation}

theorem faults_fields (schema : List SchemaField) (subject : String) (settings : Settings) :
    (schema.filterMap fun f => (f.fault? (settings.lookup f.name)).map fun message =>
      Violation.mk subject f.name message).map Violation.field =
      schemaNames (schema.filter fun f => ¬ f.Conforms (settings.lookup f.name)) := by
  induction schema with
  | nil => rfl
  | cons f rest ih =>
    rw [List.filterMap_cons, List.filter_cons]
    cases fault : f.fault? (settings.lookup f.name) with
    | none =>
      have conforms := SchemaField.fault?_eq_none.mp fault
      simpa [conforms] using ih
    | some message =>
      have faulty : ¬ f.Conforms (settings.lookup f.name) := fun conforms => by
        rw [SchemaField.fault?_eq_none.mpr conforms] at fault
        cases fault
      simpa [faulty, schemaNames] using ih

theorem screened_of_exact (distinct : (schemaNames schema).Nodup)
    (exact : found = (Check.ofSettings subject settings).screen schema) :
    Screened subject schema settings found := by
  have listed : found =
      (schema.filterMap fun f =>
        (f.fault? (settings.lookup f.name)).map fun message => ⟨subject, f.name, message⟩) ++
      ((Declared.names settings).filter fun name => name ∉ schemaNames schema).map
        fun name => ⟨subject, name, "unknown setting"⟩ := by
    simpa [Check.screen, Check.faults, Check.unknown] using exact
  have fields : found.map Violation.field =
      schemaNames (schema.filter fun f => ¬ f.Conforms (settings.lookup f.name)) ++
        (Declared.names settings).filter fun name => name ∉ schemaNames schema := by
    rw [listed, List.map_append, faults_fields, List.map_map]
    exact congrArg _ (List.map_id _)
  refine ⟨listed, fields, ?_, fun declaredOnce => ?_⟩
  · have none : found = [] ↔ found.map Violation.field = [] := List.map_eq_nil_iff.symm
    rw [none, fields, List.append_eq_nil_iff]
    simp [schemaNames]
  · rw [fields]
    have apart : List.Disjoint
        (schemaNames (schema.filter fun f => ¬ f.Conforms (settings.lookup f.name)))
        ((Declared.names settings).filter fun name => name ∉ schemaNames schema) := by
      intro name inside outside
      have known : name ∈ schemaNames schema :=
        (List.filter_sublist.map SchemaField.name).subset inside
      simp [known] at outside
    refine List.Nodup.append ?_ (declaredOnce.filter _) apart
    exact distinct.sublist (List.filter_sublist.map SchemaField.name)

end Screening

-- Settings of a provider or a database server, whatever they are.
theorem settings_screened (settings : Settings) :
    Screened "provider digitalocean" DigitalOcean.schema settings
        (DigitalOcean.provider settings).violations ∧
      Screened "provider docker_desktop" DockerDesktop.schema settings
        (DockerDesktop.provider settings).violations ∧
      Screened "plugin postgres" Postgres.schema settings (Postgres.plugin settings).violations :=
  ⟨screened_of_exact (by decide) (DigitalOcean.violations_screened settings),
    screened_of_exact (by decide) (DockerDesktop.violations_screened settings),
    screened_of_exact (by decide) (Postgres.violations_screened settings)⟩

example : (Postgres.plugin [("shelf", .value (.int 3)), ("user", .block []),
    ("storage", .value (.secret "SIZE" ⟨"lots"⟩)), ("version", .value (.bool true))]).violations =
      [⟨"plugin postgres", "user", "expected a value, found a block"⟩,
        ⟨"plugin postgres", "password", "is required"⟩,
        ⟨"plugin postgres", "storage", "'lots' is not a storage quantity such as 10Gi"⟩,
        ⟨"plugin postgres", "version", "expected an integer, found boolean"⟩,
        ⟨"plugin postgres", "shelf", "unknown setting"⟩] := by
  decide +kernel

end Rollout
