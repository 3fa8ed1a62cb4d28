import Rollout.Proofs.Plugin.Strictness
import Rollout.Proofs.Settings.Conformity

namespace Rollout

def Setting.secretText? : Setting → Option String
  | .value (.secret _ s) => some s.text
  | _ => none

def Settings.secretAt? : Settings → List String → Option String
  | _, [] => none
  | settings, [name] => (settings.lookup name).bind Setting.secretText?
  | settings, name :: next :: path =>
    (settings.block? name).bind fun entries => secretAt? entries (next :: path)

def dotted : List String → String
  | [] => ""
  | [name] => name
  | name :: next :: path => name ++ "." ++ dotted (next :: path)

-- Two findings in two blocks of settings. Where their messages differ the field is given by secrets
-- that differ, and it is quoted or one of the secrets is empty.
inductive Told (quoted : List (List String)) (a b : Settings) : Violation → Violation → Prop where
  | same (v : Violation) : Told quoted a b v v
  | apart {subject x y : String} {path : List String} (message message' : String)
      (given : a.secretAt? path = some x) (given' : b.secretAt? path = some y) (differ : x ≠ y)
      (shown : path ∈ quoted ∨ x = "" ∨ y = "") :
      Told quoted a b ⟨subject, dotted path, message⟩ ⟨subject, dotted path, message'⟩

def Demand.Plain : Demand → Prop
  | @text fits _ fault => ∀ s s', ¬ fits s → ¬ fits s' → fault s = fault s'
  | _ => True

theorem Demand.anyText_plain : Demand.anyText.Plain := fun _ _ never => absurd trivial never

-- Two secrets that do not fit are told of in the same words unless they are quoted or empty.
theorem Demand.fault?_told {demand : Demand} {key : String} {x y : Secret}
    {message message' : String} (faulty : demand.fault? (.secret key x) = some message)
    (faulty' : demand.fault? (.secret key y) = some message') : message = message' ∨
      x.text ≠ y.text ∧ (¬ demand.Plain ∨ x.text = "" ∨ y.text = "") := by
  by_cases texts : x.text = y.text
  · obtain rfl : x = y := congrArg Secret.mk texts
    exact .inl (Option.some.inj (faulty.symm.trans faulty'))
  by_cases blank : x.text = "" ∨ y.text = ""
  · exact .inr ⟨texts, .inr blank⟩
  by_cases plain : demand.Plain
  · left
    obtain ⟨present, present'⟩ := not_or.mp blank
    cases demand with
    | text fits fault =>
      simp only [fault?, Value.text?, if_neg present, if_neg present', Option.ite_none_left_eq_some]
        at faulty faulty'
      have same := plain x.text y.text faulty.1 faulty'.1
      exact (Option.some.inj faulty.2).symm.trans (same.trans (Option.some.inj faulty'.2))
    | int low high => exact Option.some.inj (faulty.symm.trans faulty')
    | bool => exact Option.some.inj (faulty.symm.trans faulty')
  · exact .inr ⟨texts, .inl plain⟩

theorem Settings.lookup_kinds {es fs : Settings}
    (alike : Settings.veil .all es = Settings.veil .all fs) (name : String) :
    es.lookup name = fs.lookup name ∨
    (∃ key x y, es.lookup name = some (.value (.secret key x)) ∧
      fs.lookup name = some (.value (.secret key y))) ∨
    ∃ a b, es.lookup name = some (.block a) ∧ fs.lookup name = some (.block b) ∧
      Settings.veil .all a = Settings.veil .all b := by
  have met := lookup_alike alike name
  rcases lookup_cases alike name with
    ⟨none, none'⟩ | ⟨v, w, value, value'⟩ | ⟨a, b, block, block', inner⟩
  · exact .inl (none.trans none'.symm)
  · rw [value, value'] at met ⊢
    have veiled : v.veil true = w.veil true := Setting.value.inj (Option.some.inj met)
    rcases Value.veil_eq_iff.mp veiled with rfl | ⟨-, key, x, y, rfl, rfl⟩
    · exact .inl rfl
    · exact .inr (.inl ⟨key, x, y, rfl, rfl⟩)
  · exact .inr (.inr ⟨a, b, block, block', inner⟩)

abbrev Mark := List String × Option String

def marked (subject : String) (marks : List Mark) : List Violation :=
  marks.filterMap fun mark => mark.2.map fun message => ⟨subject, dotted mark.1, message⟩

def marks (above : List String) (schema : List SchemaField) (settings : Settings) : List Mark :=
  schema.map fun f => (above ++ [f.name], f.fault? (settings.lookup f.name))

theorem Check.faults_marked {check : Check} {above : List String}
    (reach : ∀ name, check.above ++ name = dotted (above ++ [name])) (schema : List SchemaField) :
    check.faults schema = marked check.subject (marks above schema check.settings) := by
  unfold Check.faults marked marks
  rw [List.filterMap_map]
  refine List.filterMap_congr fun f _ => ?_
  have same : check.violation f.name = fun message =>
      ⟨check.subject, dotted (above ++ [f.name]), message⟩ := by
    funext message
    rw [Check.violation, reach]
  rw [same]
  rfl

section Runs

variable {quoted : List (List String)} {a b es fs : Settings} {subject : String}

-- Two marks at one path, whose messages differ at most as findings do.
def MarkTold (quoted : List (List String)) (a b : Settings) (mark mark' : Mark) : Prop :=
  mark.1 = mark'.1 ∧ ∀ message message', mark.2 = some message → mark'.2 = some message' →
    ∀ subject, Told quoted a b ⟨subject, dotted mark.1, message⟩ ⟨subject, dotted mark.1, message'⟩

theorem field_told {f : SchemaField} {path : List String}
    (alike : Settings.veil .all es = Settings.veil .all fs)
    (lies : a.secretAt? path = (es.lookup f.name).bind Setting.secretText?)
    (lies' : b.secretAt? path = (fs.lookup f.name).bind Setting.secretText?)
    (plain : f.demand.Plain ∨ path ∈ quoted) :
    MarkTold quoted a b (path, f.fault? (es.lookup f.name))
      (path, f.fault? (fs.lookup f.name)) := by
  refine ⟨rfl, fun message message' faulty faulty' subject => ?_⟩
  dsimp only at faulty faulty'
  have same (equal : message = message') : Told quoted a b ⟨subject, dotted path, message⟩
      ⟨subject, dotted path, message'⟩ := equal ▸ .same _
  rcases Settings.lookup_kinds alike f.name with
    equal | ⟨key, x, y, secret, secret'⟩ | ⟨inner, inner', block, block', -⟩
  · rw [equal] at faulty
    exact same (Option.some.inj (faulty.symm.trans faulty'))
  · rw [secret] at lies faulty
    rw [secret'] at lies' faulty'
    rcases Demand.fault?_told faulty faulty' with equal | ⟨differ, shown⟩
    · exact same equal
    · exact .apart message message' lies lies' differ (shown.imp_left plain.resolve_left)
  · rw [block] at faulty
    rw [block'] at faulty'
    exact same (Option.some.inj (faulty.symm.trans faulty'))

theorem marks_told {above : List String} {schema : List SchemaField}
    (alike : Settings.veil .all es = Settings.veil .all fs)
    (lies : ∀ name, a.secretAt? (above ++ [name]) = (es.lookup name).bind Setting.secretText?)
    (lies' : ∀ name, b.secretAt? (above ++ [name]) = (fs.lookup name).bind Setting.secretText?)
    (plain : ∀ f ∈ schema, f.demand.Plain ∨ above ++ [f.name] ∈ quoted) :
    List.Forall₂ (MarkTold quoted a b) (marks above schema es) (marks above schema fs) := by
  rw [marks, marks, List.forall₂_map_left_iff, List.forall₂_map_right_iff, List.forall₂_same]
  exact fun f inside => field_told alike (lies f.name) (lies' f.name) (plain f inside)

theorem marked_fields {marks : List Mark} :
    (marked subject marks).map Violation.field ⊆ marks.map fun mark => dotted mark.1 := by
  intro field inside
  obtain ⟨v, member, rfl⟩ := List.mem_map.mp inside
  obtain ⟨mark, given, found⟩ := List.mem_filterMap.mp member
  obtain ⟨message, -, rfl⟩ := Option.map_eq_some_iff.mp found
  exact List.mem_map_of_mem given

theorem marks_paths {marks marks' : List Mark}
    (told : List.Forall₂ (MarkTold quoted a b) marks marks') :
    (marks.map fun mark => dotted mark.1) = marks'.map fun mark => dotted mark.1 := by
  induction told with
  | nil => rfl
  | cons first _ ih => rw [List.map_cons, List.map_cons, first.1, ih]

-- Marks whose paths are all different: if the fields are the same the faults are at the same marks.
theorem marked_told {marks marks' : List Mark}
    (told : List.Forall₂ (MarkTold quoted a b) marks marks')
    (distinct : (marks.map fun mark => dotted mark.1).Nodup)
    (same : (marked subject marks).map Violation.field =
      (marked subject marks').map Violation.field) :
    List.Forall₂ (Told quoted a b) (marked subject marks) (marked subject marks') := by
  induction told with
  | nil => exact .nil
  | @cons mark mark' rest rest' first told ih =>
    obtain ⟨path, fault⟩ := mark
    obtain ⟨path', fault'⟩ := mark'
    obtain ⟨rfl, told₁⟩ := first
    obtain ⟨fresh, others⟩ := List.nodup_cons.mp distinct
    cases fault with
    | none =>
      cases fault' with
      | none => exact ih others same
      | some message' =>
        have inside : dotted path ∈ (marked subject rest).map Violation.field := by
          change (marked subject rest).map _ = dotted path :: _ at same
          exact same ▸ List.mem_cons_self
        exact absurd (marked_fields inside) fresh
    | some message =>
      cases fault' with
      | none =>
        have inside : dotted path ∈ (marked subject rest').map Violation.field := by
          change dotted path :: _ = (marked subject rest').map _ at same
          exact same ▸ List.mem_cons_self
        exact absurd (marks_paths told ▸ marked_fields inside) fresh
      | some message' =>
        exact .cons (told₁ message message' rfl rfl subject)
          (ih others (List.cons.inj same).2)

-- What the findings in two blocks of settings tell of the secrets.
structure Discreet (quoted : List (List String)) (a b : Settings) (found found' : List Violation) :
    Prop where
  told : List.Forall₂ (Told quoted a b) found found'
  -- nothing, where no secret is quoted and none is empty in one block only
  silent : (∀ path x y, a.secretAt? path = some x → b.secretAt? path = some y →
    (x = "" ↔ y = "") ∧ (path ∈ quoted → x = y)) → found = found'

theorem discreet_of_told {found found' : List Violation}
    (told : List.Forall₂ (Told quoted a b) found found') : Discreet quoted a b found found' := by
  refine ⟨told, fun close => List.forall₂_eq_eq_eq ▸ told.imp fun v w pair => ?_⟩
  cases pair with
  | same => rfl
  | apart message message' given given' differ shown =>
    obtain ⟨blank, equal⟩ := close _ _ _ given given'
    rcases shown with shown | rfl | rfl
    · exact absurd (equal shown) differ
    · exact absurd (blank.mp rfl).symm differ
    · exact absurd (blank.mpr rfl) differ

theorem discreet_of_marks {marks marks' : List Mark} {rest found found' : List Violation}
    (told : List.Forall₂ (MarkTold quoted a b) marks marks')
    (distinct : (marks.map fun mark => dotted mark.1).Nodup)
    (read : found = marked subject marks ++ rest) (read' : found' = marked subject marks' ++ rest)
    (same : found.map Violation.field = found'.map Violation.field) :
    Discreet quoted a b found found' := by
  subst read read'
  rw [List.map_append, List.map_append] at same
  have marksTold := marked_told told distinct (List.append_cancel_right same)
  exact discreet_of_told (List.rel_append marksTold (List.forall₂_same.mpr fun v _ => .same v))

theorem Settings.names_veil (places : Places) (settings : Settings) :
    Declared.names (settings.veil places) = Declared.names settings := by
  induction settings with
  | nil => rfl
  | cons entry rest ih => exact congrArg (entry.1 :: ·) ih

theorem Settings.names_alike {places : Places}
    (alike : Settings.veil places es = Settings.veil places fs) :
    Declared.names es = Declared.names fs := by
  rw [← names_veil places es, alike, names_veil]

theorem Check.unknown_alike (subject above : String) (known : List String)
    (alike : Settings.veil .all es = Settings.veil .all fs) :
    Check.unknown ⟨subject, above, es⟩ known = Check.unknown ⟨subject, above, fs⟩ known := by
  unfold Check.unknown
  rw [Settings.names_alike alike]
  rfl

theorem marks_names (schema : List SchemaField) (settings : Settings) :
    ((marks [] schema settings).map fun mark => dotted mark.1) = schemaNames schema := by
  unfold marks schemaNames
  rw [List.map_map]
  rfl

theorem faults_top (schema : List SchemaField) (settings : Settings) :
    (Check.ofSettings subject settings).faults schema =
      marked subject (marks [] schema settings) :=
  Check.faults_marked (fun _ => String.empty_append) schema

theorem screen_discreet {schema : List SchemaField}
    (plain : ∀ f ∈ schema, f.demand.Plain ∨ [f.name] ∈ quoted)
    (distinct : (schemaNames schema).Nodup) (alike : Settings.veil .all a = Settings.veil .all b)
    (same : ((Check.ofSettings subject a).screen schema).map Violation.field =
      ((Check.ofSettings subject b).screen schema).map Violation.field) :
    Discreet quoted a b ((Check.ofSettings subject a).screen schema)
      ((Check.ofSettings subject b).screen schema) := by
  refine discreet_of_marks (marks_told alike (fun _ => rfl) (fun _ => rfl) plain)
    (marks_names schema a ▸ distinct) (congrArg (· ++ _) (faults_top schema a)) ?_ same
  rw [Check.screen, faults_top schema b]
  exact congrArg _ (Check.unknown_alike subject "" (schemaNames schema) alike).symm

end Runs

namespace RailsApp

variable {quoted : List (List String)} {a b es fs db : Settings} {managed : Option Bool}

def loginSchema (managed : Option Bool) : List SchemaField :=
  [⟨"user", true, .anyText⟩, ⟨"password", true, .anyText⟩,
    ⟨"host", managed = some false, .anyText⟩]

def portField : SchemaField := ⟨"port", false, .int 1 65535⟩

-- A port has a fault of its own, or it is given without a host.
def portFault (managed : Option Bool) (db : Check) : Option String :=
  (portField.fault? (db.settings.lookup "port")).or
    (if (db.text "host" (managed = some false)).1.isNone && (db.int "port" 1 65535).1.isSome then
      some "only applies together with host" else none)

def databaseMarks (managed : Option Bool) (db : Check) : List Mark :=
  if managed = some true then marks ["database"] managedSchema db.settings
  else marks ["database"] (loginSchema managed) db.settings ++
    (["database", "port"], portFault managed db) ::
      marks ["database"] [⟨"name", false, .anyText⟩] db.settings

abbrev databaseCheck (db : Settings) : Check := ⟨"plugin " ++ pluginId, "database.", db⟩

theorem faults_inside (schema : List SchemaField) (db : Settings) :
    (databaseCheck db).faults schema =
      marked ("plugin " ++ pluginId) (marks ["database"] schema db) :=
  Check.faults_marked (fun _ => rfl) schema

theorem port_marked (managed : Option Bool) (db : Settings) :
    ((databaseCheck db).int "port" 1 65535).2 ++
      (if ((databaseCheck db).text "host" (managed = some false)).1.isNone &&
          ((databaseCheck db).int "port" 1 65535).1.isSome then
        [(databaseCheck db).violation "port" "only applies together with host"] else []) =
      marked ("plugin " ++ pluginId)
        [(["database", "port"], portFault managed (databaseCheck db))] := by
  have given := Check.int_given (databaseCheck db) "port" 1 65535
  have found := Check.int_faults (databaseCheck db) "port" 1 65535
  rw [Check.faults_single] at found
  unfold portFault marked
  change _ = Option.toList (portField.fault? (db.lookup "port") |>.map _) at found
  cases fault : portField.fault? (db.lookup "port") with
  | none =>
    rw [fault] at found
    rw [found]
    split
    · rfl
    · rfl
  | some message =>
    rw [fault] at found
    have none := given.resolve_right (by rw [found]; exact List.cons_ne_nil _ _)
    rw [found, none, Option.some_or, Option.isSome_none, Bool.and_false,
      if_neg Bool.false_ne_true]
    rfl

theorem databaseOf_marked (managed : Option Bool) (db : Settings) :
    (databaseOf managed (databaseCheck db)).2 =
      marked ("plugin " ++ pluginId) (databaseMarks managed (databaseCheck db)) ++
        if managed = some true then [] else (databaseCheck db).unknown databaseFields := by
  unfold databaseMarks
  by_cases provided : managed = some true
  · rw [if_pos provided, if_pos provided, List.append_nil, provided, databaseOf_managed,
      faults_inside]
  · rw [if_neg provided, if_neg provided]
    have login : ((databaseCheck db).text "user" true).2 ++
        ((databaseCheck db).text "password" true).2 ++
        ((databaseCheck db).text "host" (managed = some false)).2 =
        marked ("plugin " ++ pluginId) (marks ["database"] (loginSchema managed) db) := by
      rw [Check.text_faults, Check.text_faults, Check.text_faults, ← Check.faults_append,
        ← Check.faults_append, ← faults_inside]
      rfl
    unfold databaseOf
    rw [if_neg provided]
    dsimp only
    rw [login, List.append_assoc _ (Check.int _ _ _ _).2, port_marked,
      Check.text_faults _ "name", faults_inside, Check.only_unknown]
    simp only [marked, ← List.filterMap_append, List.append_assoc]
    rfl

theorem portField_alike (alike : Settings.veil .all es = Settings.veil .all fs) :
    portField.fault? (es.lookup "port") = portField.fault? (fs.lookup "port") := by
  rcases Settings.lookup_kinds alike "port" with
    equal | ⟨key, x, y, secret, secret'⟩ | ⟨inner, inner', block, block', -⟩
  · rw [equal]
  · rw [secret, secret']
    rfl
  · rw [block, block']
    rfl

-- A port is told of in the same words, since no number is a secret.
theorem port_told (alike : Settings.veil .all es = Settings.veil .all fs) :
    MarkTold quoted a b (["database", "port"], portFault managed (databaseCheck es))
      (["database", "port"], portFault managed (databaseCheck fs)) := by
  refine ⟨rfl, fun message message' faulty faulty' subject => ?_⟩
  suffices same : message = message' from same ▸ .same _
  unfold portFault at faulty faulty'
  dsimp only at faulty faulty'
  rw [portField_alike alike] at faulty
  cases fault : portField.fault? (fs.lookup "port") with
  | some own =>
    rw [fault] at faulty faulty'
    exact Option.some.inj (faulty.symm.trans faulty')
  | none =>
    rw [fault, Option.none_or, Option.ite_none_right_eq_some] at faulty faulty'
    exact Option.some.inj (faulty.2.symm.trans faulty'.2)

theorem databaseMarks_told (block : a.block? "database" = some es)
    (block' : b.block? "database" = some fs)
    (alike : Settings.veil .all es = Settings.veil .all fs) :
    List.Forall₂ (MarkTold quoted a b) (databaseMarks managed (databaseCheck es))
      (databaseMarks managed (databaseCheck fs)) := by
  have lies (name : String) : a.secretAt? (["database"] ++ [name]) =
      (es.lookup name).bind Setting.secretText? := by
    change (a.block? "database").bind _ = _
    rw [block]
    rfl
  have lies' (name : String) : b.secretAt? (["database"] ++ [name]) =
      (fs.lookup name).bind Setting.secretText? := by
    change (b.block? "database").bind _ = _
    rw [block']
    rfl
  unfold databaseMarks
  split
  · refine marks_told alike lies lies' fun f inside => .inl ?_
    obtain ⟨name, -, rfl⟩ := List.mem_map.mp inside
    exact fun _ _ _ _ => rfl
  · refine List.rel_append (marks_told alike lies lies' fun f inside => .inl ?_) ?_
    · simp only [loginSchema, List.mem_cons, List.not_mem_nil, or_false] at inside
      rcases inside with rfl | rfl | rfl <;> exact Demand.anyText_plain
    · refine .cons (port_told alike) (marks_told alike lies lies' fun f inside => .inl ?_)
      obtain rfl := List.mem_singleton.mp inside
      exact Demand.anyText_plain

theorem databaseMarks_names (managed : Option Bool) (db : Check) :
    (databaseMarks managed db).map (fun mark => dotted mark.1) =
      databaseFields.map ("database." ++ ·) := by
  unfold databaseMarks
  split
  · rfl
  · rfl

theorem managed_alike (alike : Settings.veil .all a = Settings.veil .all b) :
    a.bool? "manage_database" = b.bool? "manage_database" := by
  unfold Settings.bool? Settings.value?
  rcases Settings.lookup_kinds alike "manage_database" with
    equal | ⟨key, x, y, secret, secret'⟩ | ⟨inner, inner', block, block', -⟩
  · rw [equal]
  · rw [secret, secret']
    rfl
  · rw [block, block']

theorem databaseRead_told (alike : Settings.veil .all a = Settings.veil .all b) :
    ∃ own own' rest,
      (databaseRead (checked a)).2 = marked ("plugin " ++ pluginId) own ++ rest ∧
      (databaseRead (checked b)).2 = marked ("plugin " ++ pluginId) own' ++ rest ∧
      List.Forall₂ (MarkTold quoted a b) own own' ∧
      (own.map fun mark => dotted mark.1).Sublist (databaseFields.map ("database." ++ ·)) := by
  rcases Settings.lookup_cases alike "database" with
    ⟨none, none'⟩ | ⟨v, w, value, value'⟩ | ⟨es, fs, block, block', inner⟩
  · refine ⟨[], [], [], ?_, ?_, .nil, List.nil_sublist _⟩
    · simp [databaseRead, Check.block, none, marked]
    · simp [databaseRead, Check.block, none', marked]
  · refine ⟨[], [], [⟨"plugin " ++ pluginId, "database", "expected a block"⟩], ?_, ?_, .nil,
      List.nil_sublist _⟩
    · simp [databaseRead, Check.block, Check.refuse, value, marked]
    · simp [databaseRead, Check.block, Check.refuse, value', marked]
  · have held := Settings.block?_eq_some.mpr block
    have held' := Settings.block?_eq_some.mpr block'
    refine ⟨_, _, _, (databaseRead_block held).trans (databaseOf_marked _ es), ?_,
      databaseMarks_told held held' inner, (databaseMarks_names _ _).symm ▸ List.Sublist.refl _⟩
    rw [databaseRead_block held', ← managed_alike alike, databaseOf_marked]
    split
    · rfl
    · rw [Check.unknown_alike _ _ _ inner]

theorem variableViolations_veil (check : Check) (places : Places) (entries : Settings) :
    variableViolations check (entries.veil places) = variableViolations check entries := by
  induction entries with
  | nil => rfl
  | cons entry rest ih =>
    obtain ⟨name, v | es⟩ := entry
    · exact ih
    · exact congrArg (check.violation ("env." ++ name) "expected a value, found a block" :: ·) ih

theorem entriesFaults_alike (alike : Settings.veil .all a = Settings.veil .all b) :
    entriesFaults (checked a) = entriesFaults (checked b) := by
  unfold entriesFaults
  rw [Check.ofSettings_settings, Check.ofSettings_settings]
  rcases Settings.lookup_cases alike "env" with
    ⟨none, none'⟩ | ⟨v, w, value, value'⟩ | ⟨es, fs, block, block', inner⟩
  · rw [none, none']
  · rw [value, value']
    rfl
  · rw [block, block']
    change variableViolations (checked a) es = variableViolations (checked a) fs
    rw [← variableViolations_veil _ (Places.below .all "env") es, inner, variableViolations_veil]

theorem violations_discreet (alike : Settings.veil .all a = Settings.veil .all b)
    (same : (plugin a).violations.map Violation.field = (plugin b).violations.map Violation.field) :
    Discreet [["hostname"]] a b (plugin a).violations (plugin b).violations := by
  obtain ⟨own, own', rest, found, found', told, inside⟩ := databaseRead_told alike
  have plain : ∀ f ∈ schema, f.demand.Plain ∨ [] ++ [f.name] ∈ [["hostname"]] := by
    intro f member
    simp only [schema, List.mem_cons, List.not_mem_nil, or_false] at member
    rcases member with rfl | rfl | rfl | rfl | rfl
    · exact .inr (by decide)
    · exact .inl Demand.anyText_plain
    all_goals exact .inl trivial
  have distinct : ((marks [] schema a ++ own).map fun mark => dotted mark.1).Nodup := by
    rw [List.map_append, marks_names]
    exact List.Nodup.sublist ((List.Sublist.refl _).append inside) (by decide)
  have unknown : (checked a).unknown fields = (checked b).unknown fields :=
    Check.unknown_alike _ _ _ alike
  have read : (plugin a).violations = marked ("plugin " ++ pluginId) (marks [] schema a ++ own) ++
      (rest ++ (entriesFaults (checked a) ++ (checked a).unknown fields)) := by
    rw [violations_parts, found, faults_top]
    simp only [marked, List.filterMap_append, List.append_assoc]
  have read' : (plugin b).violations = marked ("plugin " ++ pluginId) (marks [] schema b ++ own') ++
      (rest ++ (entriesFaults (checked a) ++ (checked a).unknown fields)) := by
    rw [violations_parts, found', faults_top, entriesFaults_alike alike, unknown]
    simp only [marked, List.filterMap_append, List.append_assoc]
  have top := marks_told alike (fun _ => rfl) (fun _ => rfl) plain
  exact discreet_of_marks (List.rel_append top told) distinct read read' same

end RailsApp

-- Settings of any provider or plugin that differ in the texts of secrets only.
theorem messages_discreet {a b : Settings} (alike : Settings.veil .all a = Settings.veil .all b) :
    ((DigitalOcean.provider a).violations.map Violation.field =
        (DigitalOcean.provider b).violations.map Violation.field →
      Discreet [] a b (DigitalOcean.provider a).violations (DigitalOcean.provider b).violations) ∧
    ((DockerDesktop.provider a).violations.map Violation.field =
        (DockerDesktop.provider b).violations.map Violation.field →
      Discreet [] a b (DockerDesktop.provider a).violations
        (DockerDesktop.provider b).violations) ∧
    ((Postgres.plugin a).violations.map Violation.field =
        (Postgres.plugin b).violations.map Violation.field →
      Discreet [["storage"]] a b (Postgres.plugin a).violations (Postgres.plugin b).violations) ∧
    ((RailsApp.plugin a).violations.map Violation.field =
        (RailsApp.plugin b).violations.map Violation.field →
      Discreet [["hostname"]] a b (RailsApp.plugin a).violations
        (RailsApp.plugin b).violations) := by
  refine ⟨fun same => ?_, fun same => ?_, fun same => ?_, RailsApp.violations_discreet alike⟩
  · rw [DigitalOcean.violations_screened, DigitalOcean.violations_screened] at same ⊢
    refine screen_discreet (fun f inside => .inl ?_) (by decide) alike same
    simp only [DigitalOcean.schema, List.mem_cons, List.not_mem_nil, or_false] at inside
    rcases inside with rfl | rfl | rfl
    · exact Demand.anyText_plain
    · exact Demand.anyText_plain
    · exact fun _ _ _ _ => rfl
  · rw [DockerDesktop.violations_screened, DockerDesktop.violations_screened] at same ⊢
    refine screen_discreet (fun f inside => .inl ?_) (by decide) alike same
    simp only [DockerDesktop.schema, List.mem_cons, List.not_mem_nil, or_false] at inside
    rcases inside with rfl | rfl <;> exact Demand.anyText_plain
  · rw [Postgres.violations_screened, Postgres.violations_screened] at same ⊢
    refine screen_discreet (fun f inside => ?_) (by decide) alike same
    simp only [Postgres.schema, List.mem_cons, List.not_mem_nil, or_false] at inside
    rcases inside with rfl | rfl | rfl | rfl | rfl
    · exact .inl Demand.anyText_plain
    · exact .inl Demand.anyText_plain
    · exact .inl Demand.anyText_plain
    · exact .inr (by decide)
    · exact .inl trivial

def vaultSettings (size password : String) : Settings :=
  [("user", .value (.string "keeper")), ("password", .value (.secret "PASSWORD" ⟨password⟩)),
    ("storage", .value (.secret "SIZE" ⟨size⟩)), ("shelf", .value (.int 3))]

theorem vault_discreet :
    (Postgres.plugin (vaultSettings "lots" "")).violations.map Violation.field =
      ["password", "storage", "shelf"] ∧
    Discreet [["storage"]] (vaultSettings "lots" "") (vaultSettings "many" "")
      (Postgres.plugin (vaultSettings "lots" "")).violations
      (Postgres.plugin (vaultSettings "many" "")).violations :=
  ⟨by decide +kernel, (messages_discreet (by decide)).2.2.1 (by decide +kernel)⟩

theorem vault_size_told :
    Settings.veil .all (vaultSettings "lots" "hunter2") =
        Settings.veil .all (vaultSettings "many" "hunter2") ∧
      (Postgres.plugin (vaultSettings "lots" "hunter2")).violations.map Violation.field =
        (Postgres.plugin (vaultSettings "many" "hunter2")).violations.map Violation.field ∧
      (Postgres.plugin (vaultSettings "lots" "hunter2")).violations.map Violation.message =
        ["'lots' is not a storage quantity such as 10Gi", "unknown setting"] ∧
      (Postgres.plugin (vaultSettings "lots" "hunter2")).violations ≠
        (Postgres.plugin (vaultSettings "many" "hunter2")).violations := by
  decide +kernel

end Rollout
