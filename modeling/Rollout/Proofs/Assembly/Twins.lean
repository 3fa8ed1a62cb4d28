import Rollout.Proofs.Assembly.Completeness
import Rollout.Proofs.Definition.Secrets
import Rollout.Proofs.Manifest.Veil

namespace Rollout

open Assembly

structure Check.Twin (places : Places) (c d : Check) : Prop where
  subject : c.subject = d.subject
  above : c.above = d.above
  settings : Settings.veil places c.settings = Settings.veil places d.settings

namespace Check.Twin

variable {places : Places} {c d : Check}

theorem refuse (twin : Twin places c d) {α : Type} (field message : String) :
    (c.refuse field message : Found α) = d.refuse field message := by
  unfold Check.refuse Check.violation
  rw [twin.subject, twin.above]

theorem value (twin : Twin places c d) (field : String)
    (seen : places.below field = .none) (required : Bool) :
    c.value field required = d.value field required := by
  unfold Check.value
  simp only [Settings.lookup_seen twin.settings seen, twin.refuse]

theorem text (twin : Twin places c d) (field : String)
    (seen : places.below field = .none) (required : Bool) :
    c.text field required = d.text field required := by
  unfold Check.text
  simp only [twin.value field seen, twin.refuse]

theorem int (twin : Twin places c d) (field : String)
    (seen : places.below field = .none) (low high : Int) :
    c.int field low high = d.int field low high := by
  unfold Check.int
  simp only [twin.value field seen, twin.refuse]

theorem bool (twin : Twin places c d) (field : String)
    (seen : places.below field = .none) :
    c.bool field = d.bool field := by
  unfold Check.bool
  simp only [twin.value field seen, twin.refuse]

end Check.Twin

theorem option_alike {α β : Type} {f : α → β} {x y : Option α} (same : x.map f = y.map f) :
    (x = none ∧ y = none) ∨ ∃ a b, x = some a ∧ y = some b ∧ f a = f b := by
  cases x with
  | none =>
    cases y with
    | none => exact .inl ⟨rfl, rfl⟩
    | some b => cases same
  | some a =>
    cases y with
    | none => cases same
    | some b => exact .inr ⟨a, b, rfl, rfl, Option.some.inj same⟩

-- A veil hides no difference between values and blocks, nor between what is there and what is not.
theorem Settings.lookup_cases {places : Places} {a b : Settings}
    (alike : Settings.veil places a = Settings.veil places b) (name : String) :
    (a.lookup name = none ∧ b.lookup name = none) ∨
    (∃ v w, a.lookup name = some (.value v) ∧ b.lookup name = some (.value w)) ∨
    ∃ es fs, a.lookup name = some (.block es) ∧ b.lookup name = some (.block fs) ∧
      Settings.veil (places.below name) es = Settings.veil (places.below name) fs := by
  rcases option_alike (lookup_alike alike name) with absent | ⟨s, t, found, found', same⟩
  · exact .inl absent
  · refine .inr ?_
    cases s with
    | value v =>
      cases t with
      | value w => exact .inl ⟨v, w, found, found'⟩
      | block fs => simp only [Setting.veil] at same; cases same
    | block es =>
      cases t with
      | value w => simp only [Setting.veil] at same; cases same
      | block fs =>
        simp only [Setting.veil] at same
        exact .inr ⟨es, fs, found, found', Setting.block.inj same⟩

theorem Check.Twin.block {places : Places} {c d : Check} (twin : Twin places c d) (field : String) :
    (∃ vs, c.block field = (none, vs) ∧ d.block field = (none, vs)) ∨
    ∃ c' d', c.block field = (some c', []) ∧ d.block field = (some d', []) ∧
      Twin (places.below field) c' d' := by
  unfold Check.block
  rcases Settings.lookup_cases twin.settings field with
    ⟨none, none'⟩ | ⟨v, w, value, value'⟩ | ⟨es, fs, block, block', alike⟩
  · rw [none, none']
    exact .inl ⟨[], rfl, rfl⟩
  · rw [value, value']
    exact .inl ⟨[c.violation field "expected a block"], rfl, (twin.refuse ..).symm⟩
  · rw [block, block']
    refine .inr ⟨_, _, rfl, rfl, twin.subject, ?_, alike⟩
    rw [twin.above]

theorem bind_alike {ε α β γ δ : Type} {x y : Except ε α} {f : α → γ} {k l : α → Except ε β}
    {g : β → δ} (first : x.map f = y.map f)
    (later : ∀ a b, f a = f b → (k a).map g = (l b).map g) :
    (x >>= k).map g = (y >>= l).map g := by
  cases x with
  | error e =>
    cases y with
    | error e' =>
      obtain rfl := Except.error.inj first
      rfl
    | ok b => cases first
  | ok a =>
    cases y with
    | error e' => cases first
    | ok b => exact later a b (Except.ok.inj first)

theorem Resource.secrets_alike {hidden : List String} (unseen : hidden.contains "Secret" = true)
    {name : String} {space : Option String} {type : Json} (field : String) (data data' : Json) :
    (((Resource.new "v1" "Secret" name space).withField "type" type).withField field data).veil
        hidden =
      (((Resource.new "v1" "Secret" name space).withField "type" type).withField field data').veil
        hidden := by
  have key : ∀ data : Json, (((Resource.new "v1" "Secret" name space).withField "type" type).withField
      field data).key = ⟨"Secret", space, name⟩ := fun data => by
    rw [withField_key, withField_key, new_key]
  exact veil_of_key unseen (key data) (key data')

def Contribution.veil (hidden : List String) (part : Contribution) : Contribution :=
  ⟨part.resources.map (Resource.veil hidden), part.exports⟩

namespace Postgres

-- The places of a server's login.
def credentials : Places
  | [field] => field == "user" || field == "password"
  | _ => false

structure Twin (p q : Postgres) : Prop where
  database : p.database = q.database
  storage : p.storage = q.storage
  version : p.version = q.version

variable {p q : Postgres} {hidden : List String}

theorem credentials_seen {field : String} (user : field ≠ "user") (password : field ≠ "password") :
    credentials.below field = .none := by
  funext path
  cases path with
  | nil => simp [Places.below, credentials, Places.none, user, password]
  | cons => rfl

theorem ofSettings_twin {a b : Settings}
    (alike : Settings.veil credentials a = Settings.veil credentials b) :
    Twin (ofSettings a).1 (ofSettings b).1 := by
  have twin : Check.Twin credentials (.ofSettings ("plugin " ++ pluginId) a)
      (.ofSettings ("plugin " ++ pluginId) b) := ⟨rfl, rfl, alike⟩
  have database := twin.text "database" (credentials_seen (by decide) (by decide)) false
  have storage := twin.text "storage" (credentials_seen (by decide) (by decide)) false
  have version := twin.int "version" (credentials_seen (by decide) (by decide)) 9 99
  refine ⟨congrArg Prod.fst database, ?_, ?_⟩
  · exact congrArg (fun found => found.1.getD defaultStorage) storage
  · exact congrArg (fun found => found.1.getD defaultVersion) version

theorem Twin.exports (twin : Twin p q) (ctx : PluginContext) : p.exports ctx = q.exports ctx := by
  unfold Postgres.exports databaseName
  rw [twin.database]

-- The user of a server stands in its secret, and in the probe of its pods.
theorem Twin.contribution (twin : Twin p q) (secret : hidden.contains "Secret" = true)
    (probed : hidden.contains "StatefulSet" = true ∨ p.user = q.user) (ctx : PluginContext) :
    (p.contribution ctx).veil hidden = (q.contribution ctx).veil hidden := by
  have login : (p.secret ctx).veil hidden = (q.secret ctx).veil hidden :=
    Resource.veil_of_key secret databaseSecret_key databaseSecret_key
  have server : (p.statefulSet ctx).veil hidden = (q.statefulSet ctx).veil hidden := by
    rcases probed with unseen | user
    · exact Resource.veil_of_key unseen database_key database_key
    · unfold statefulSet container volumeClaim
      rw [user, twin.storage, twin.version]
  simp only [Contribution.veil, Postgres.contribution, List.map_cons, List.map_nil, login, server,
    twin.exports ctx]

end Postgres

def RailsDatabase.user? : RailsDatabase → Option String
  | .owned server => .some server.user
  | _ => Option.none

inductive RailsDatabase.Twin : RailsDatabase → RailsDatabase → Prop where
  | none : Twin .none .none
  | external (user password user' password' host : String) (port : Int) (name : Option String) :
      Twin (.external user password host port name) (.external user' password' host port name)
  | owned {p q : Postgres} (servers : p.Twin q) : Twin (.owned p) (.owned q)
  | managed : Twin .managed .managed

namespace RailsApp

-- The places of a database's login and of the variables.
def credentials : Places
  | "database" :: path => Postgres.credentials path
  | ["env", _] => true
  | _ => false

structure Twin (app web : RailsApp) : Prop where
  hostname : app.hostname = web.hostname
  ingressClass : app.ingressClass = web.ingressClass
  replicas : app.replicas = web.replicas
  port : app.port = web.port
  database : app.database.Twin web.database
  vars : app.vars = web.vars
  secrets : app.secrets.isEmpty = web.secrets.isEmpty

variable {app web : RailsApp} {hidden : List String}

theorem credentials_seen {field : String} (database : field ≠ "database") (env : field ≠ "env") :
    credentials.below field = .none := by
  funext path
  unfold Places.below credentials
  split
  · next same => exact absurd (List.cons.inj same).1 database
  · next same => exact absurd (List.cons.inj same).1 env
  · rfl

theorem variablesOf_veil (places : Places) (entries : Settings) :
    variablesOf (entries.veil places) = variablesOf entries := by
  unfold variablesOf
  generalize [] = acc
  induction entries generalizing acc with
  | nil => rfl
  | cons entry rest ih =>
    obtain ⟨name, setting⟩ := entry
    simp only [Settings.veil, Setting.veilEntries, List.foldl_cons] at ih ⊢
    rw [ih]
    cases setting with
    | value v => cases v <;> rfl
    | block es => rfl

theorem put_isEmpty (name text : String) (entries : List (String × String)) :
    (Sorted.put name text entries).isEmpty = false := by
  cases entries with
  | nil => rfl
  | cons entry rest =>
    unfold Sorted.put
    split
    · rfl
    · split <;> rfl

def isSecret : Setting → Bool
  | .value (.secret _ _) => true
  | _ => false

theorem secretsOf_isEmpty (entries : Settings) :
    (secretsOf entries).isEmpty = !entries.any fun entry => isSecret entry.2 := by
  unfold secretsOf
  rw [← Bool.true_and (!_)]
  change _ = (([] : List (String × String)).isEmpty && _)
  generalize [] = acc
  induction entries generalizing acc with
  | nil => simp
  | cons entry rest ih =>
    obtain ⟨name, setting⟩ := entry
    rw [List.foldl_cons, ih, List.any_cons]
    cases setting with
    | value v =>
      cases v with
      | secret key value => simp [isSecret, put_isEmpty]
      | _ => rfl
    | block es => rfl

theorem isSecret_veil (places : Places) (setting : Setting) :
    isSecret (setting.veil places) = isSecret setting := by
  cases setting with
  | value v => cases v <;> rfl
  | block es => rfl

theorem secretsOf_veil (places : Places) (entries : Settings) :
    (secretsOf (entries.veil places)).isEmpty = (secretsOf entries).isEmpty := by
  rw [secretsOf_isEmpty, secretsOf_isEmpty]
  congr 1
  induction entries with
  | nil => rfl
  | cons entry rest ih =>
    simp only [Settings.veil, Setting.veilEntries, List.any_cons, isSecret_veil] at ih ⊢
    rw [ih]

theorem variables_alike {places : Places} {es fs : Settings}
    (alike : Settings.veil places es = Settings.veil places fs) :
    variablesOf es = variablesOf fs ∧ (secretsOf es).isEmpty = (secretsOf fs).isEmpty := by
  rw [← variablesOf_veil places es, ← secretsOf_veil places es, alike, variablesOf_veil,
    secretsOf_veil]
  exact ⟨rfl, rfl⟩

-- Of a login that was accepted both parts are there, so they decide nothing.
theorem databaseOf_twin {managed : Option Bool} {c d : Check}
    (twin : Check.Twin Postgres.credentials c d) (clean : (databaseOf managed c).2 = [])
    (clean' : (databaseOf managed d).2 = []) :
    (databaseOf managed c).1.Twin (databaseOf managed d).1 := by
  have host := twin.text "host" (Postgres.credentials_seen (by decide) (by decide))
    (managed = some false)
  have port := twin.int "port" (Postgres.credentials_seen (by decide) (by decide)) 1 65535
  have name := twin.text "name" (Postgres.credentials_seen (by decide) (by decide)) false
  unfold databaseOf at clean clean' ⊢
  split
  · exact .managed
  · next free =>
    simp only [if_neg free, List.append_eq_nil_iff] at clean clean'
    obtain ⟨user, read⟩ := Check.text_required clean.1.1.1.1.1.1
    obtain ⟨password, readPassword⟩ := Check.text_required clean.1.1.1.1.1.2
    obtain ⟨user', read'⟩ := Check.text_required clean'.1.1.1.1.1.1
    obtain ⟨password', readPassword'⟩ := Check.text_required clean'.1.1.1.1.1.2
    simp only [read, readPassword, read', readPassword', host, port, name]
    cases (d.text "host" (managed = some false)).1 with
    | some there => exact .external _ _ _ _ _ _ _
    | none =>
      cases managed with
      | none => exact .owned ⟨rfl, rfl, rfl⟩
      | some given => exact .none

def databaseRead (check : Check) : RailsDatabase × List Violation :=
  match check.block "database" with
  | (some db, vs) =>
    ((databaseOf (check.bool "manage_database").1 db).1,
      vs ++ (databaseOf (check.bool "manage_database").1 db).2)
  | (none, vs) => (if (check.bool "manage_database").1 = some true then .managed else .none, vs)

def entriesRead (settings : Settings) : Settings :=
  match settings.lookup "env" with
  | some (.block entries) => entries
  | _ => []

theorem databaseRead_twin {c d : Check} (twin : Check.Twin credentials c d)
    (clean : (databaseRead c).2 = []) (clean' : (databaseRead d).2 = []) :
    (databaseRead c).1.Twin (databaseRead d).1 := by
  have managed := twin.bool "manage_database" (credentials_seen (by decide) (by decide))
  unfold databaseRead at clean clean' ⊢
  rcases twin.block "database" with ⟨vs, block, block'⟩ | ⟨c', d', block, block', login⟩
  · rw [block, block', managed]
    dsimp only
    split
    · exact .managed
    · exact .none
  · simp only [block, block', managed, List.nil_append] at clean clean' ⊢
    exact databaseOf_twin login clean clean'

theorem entriesRead_alike {a b : Settings}
    (alike : Settings.veil credentials a = Settings.veil credentials b) :
    variablesOf (entriesRead a) = variablesOf (entriesRead b) ∧
      (secretsOf (entriesRead a)).isEmpty = (secretsOf (entriesRead b)).isEmpty := by
  unfold entriesRead
  rcases Settings.lookup_cases alike "env" with
    ⟨none, none'⟩ | ⟨v, w, value, value'⟩ | ⟨es, fs, block, block', entries⟩
  · rw [none, none']
    exact ⟨rfl, rfl⟩
  · rw [value, value']
    exact ⟨rfl, rfl⟩
  · rw [block, block']
    exact variables_alike entries

theorem ofSettings_entries (settings : Settings) :
    (ofSettings settings).1.vars = variablesOf (entriesRead settings) ∧
      (ofSettings settings).1.secrets = secretsOf (entriesRead settings) := by
  unfold ofSettings entriesRead
  dsimp only
  cases settings.lookup "env" with
  | none => exact ⟨rfl, rfl⟩
  | some setting => cases setting <;> exact ⟨rfl, rfl⟩

theorem ofSettings_database (settings : Settings) :
    (ofSettings settings).1.database =
      (databaseRead (.ofSettings ("plugin " ++ pluginId) settings)).1 :=
  rfl

theorem databaseRead_clean {settings : Settings} (clean : (ofSettings settings).2 = []) :
    (databaseRead (.ofSettings ("plugin " ++ pluginId) settings)).2 = [] := by
  unfold ofSettings at clean
  unfold databaseRead
  simp only [List.append_eq_nil_iff] at clean
  have found := clean.1.1.2
  rcases block : (Check.ofSettings ("plugin " ++ pluginId) settings).block "database" with
    ⟨_ | db, vs⟩
  · rw [block] at found
    exact found
  · rw [block] at found
    exact found

theorem ofSettings_twin {a b : Settings}
    (alike : Settings.veil credentials a = Settings.veil credentials b)
    (clean : (ofSettings a).2 = []) (clean' : (ofSettings b).2 = []) :
    Twin (ofSettings a).1 (ofSettings b).1 := by
  have twin : Check.Twin credentials (.ofSettings ("plugin " ++ pluginId) a)
      (.ofSettings ("plugin " ++ pluginId) b) := ⟨rfl, rfl, alike⟩
  have hostname := twin.text "hostname" (credentials_seen (by decide) (by decide)) true
  have ingressClass := twin.text "ingress_class" (credentials_seen (by decide) (by decide)) false
  have replicas := twin.int "replicas" (credentials_seen (by decide) (by decide)) 0 100
  have port := twin.int "port" (credentials_seen (by decide) (by decide)) 1 65535
  have database := databaseRead_twin twin (databaseRead_clean clean) (databaseRead_clean clean')
  obtain ⟨vars, secrets⟩ := entriesRead_alike alike
  obtain ⟨varsRead, secretsRead⟩ := ofSettings_entries a
  obtain ⟨varsRead', secretsRead'⟩ := ofSettings_entries b
  refine ⟨?_, ?_, ?_, ?_, ?_, ?_, ?_⟩
  · exact congrArg (fun found => found.1.getD "") hostname
  · exact congrArg (fun found => found.1.getD defaultIngressClass) ingressClass
  · exact congrArg (fun found => found.1.getD 1) replicas
  · exact congrArg (fun found => found.1.getD defaultPort) port
  · rwa [ofSettings_database, ofSettings_database]
  · rw [varsRead, varsRead', vars]
  · rw [secretsRead, secretsRead', secrets]

namespace Twin

theorem allSecrets (twin : Twin app web) (ctx : PluginContext) :
    (app.allSecrets ctx).isEmpty = (web.allSecrets ctx).isEmpty := by
  have database := twin.database
  unfold RailsApp.allSecrets
  generalize app.database = d at database ⊢
  generalize web.database = e at database ⊢
  cases database with
  | external => rw [put_isEmpty, put_isEmpty]
  | none => exact twin.secrets
  | owned servers => exact twin.secrets
  | managed => exact twin.secrets

theorem secret (twin : Twin app web) (unseen : hidden.contains "Secret" = true)
    (ctx : PluginContext) :
    (app.secret ctx).map (Resource.veil hidden) = (web.secret ctx).map (Resource.veil hidden) := by
  unfold RailsApp.secret
  rw [twin.allSecrets ctx]
  split
  · rfl
  · rw [List.map_singleton, List.map_singleton]
    exact congrArg (fun r => [r]) (Resource.secrets_alike unseen "stringData" _ _)

theorem config (twin : Twin app web) (ctx : PluginContext) : app.config ctx = web.config ctx := by
  unfold RailsApp.config defaultVariables
  rw [twin.port, twin.vars]

theorem deployment (twin : Twin app web) (ctx : PluginContext) (vars : List Json) :
    app.deployment ctx vars = web.deployment ctx vars := by
  unfold RailsApp.deployment podSpec container variableSources
  rw [twin.replicas, twin.port, twin.allSecrets ctx]

theorem service (twin : Twin app web) (ctx : PluginContext) : app.service ctx = web.service ctx := by
  unfold RailsApp.service
  rw [twin.port]

theorem ingress (twin : Twin app web) (ctx : PluginContext) : app.ingress ctx = web.ingress ctx := by
  unfold RailsApp.ingress
  rw [twin.ingressClass, twin.hostname]

variable {parts parts' : List Resource × List Json}

theorem databaseParts (twin : Twin app web) (unseen : hidden.contains "Secret" = true)
    (probed : hidden.contains "StatefulSet" = true ∨ app.database.user? = web.database.user?)
    (ctx : PluginContext) :
    (app.databaseParts ctx).map (Prod.map (List.map (Resource.veil hidden)) id) =
      (web.databaseParts ctx).map (Prod.map (List.map (Resource.veil hidden)) id) := by
  have database := twin.database
  unfold RailsApp.databaseParts
  generalize app.database = d at database probed ⊢
  generalize web.database = e at database probed ⊢
  cases database with
  | none => rfl
  | external => rfl
  | managed => rfl
  | @owned p q servers =>
    have users : hidden.contains "StatefulSet" = true ∨ p.user = q.user :=
      probed.imp_right Option.some.inj
    have same := congrArg Contribution.resources (servers.contribution unseen users ctx)
    change Except.ok ((p.contribution ctx).resources.map (Resource.veil hidden), loginVariables ctx) =
      .ok ((q.contribution ctx).resources.map (Resource.veil hidden), loginVariables ctx)
    exact congrArg (fun resources => Except.ok (resources, loginVariables ctx)) same

theorem contribution (twin : Twin app web) (unseen : hidden.contains "Secret" = true)
    (probed : hidden.contains "StatefulSet" = true ∨ app.database.user? = web.database.user?)
    (ctx : PluginContext) :
    (app.contribution ctx).map (Contribution.veil hidden) =
      (web.contribution ctx).map (Contribution.veil hidden) := by
  refine bind_alike (twin.databaseParts unseen probed ctx) fun parts parts' same => ?_
  obtain ⟨resources, vars⟩ := parts
  obtain ⟨resources', vars'⟩ := parts'
  obtain ⟨servers, leads⟩ := Prod.mk.inj same
  obtain rfl : vars = vars' := leads
  have all : (resources ++ app.config ctx :: app.secret ctx ++
      [app.deployment ctx vars, app.service ctx, app.ingress ctx]).map (Resource.veil hidden) =
      (resources' ++ web.config ctx :: web.secret ctx ++
        [web.deployment ctx vars, web.service ctx, web.ingress ctx]).map (Resource.veil hidden) := by
    simp only [List.map_append, List.map_cons, servers, twin.secret unseen ctx, twin.config ctx,
      twin.deployment ctx vars, twin.service ctx, twin.ingress ctx]
  change Except.ok (Contribution.mk _ [("service", webName ctx), ("url", "https://" ++ app.hostname)]) =
    .ok (Contribution.mk _ [("service", webName ctx), ("url", "https://" ++ web.hostname)])
  rw [all, twin.hostname]

end Twin

end RailsApp

structure Plugin.Twin (hidden : List String) (p q : Plugin) : Prop where
  id : p.id = q.id
  contribute : ∀ ctx, (p.contribute ctx).map (Contribution.veil hidden) =
    (q.contribute ctx).map (Contribution.veil hidden)

def pluginCredentials (id : String) : Places :=
  if id = Postgres.pluginId then Postgres.credentials
  else if id = RailsApp.pluginId then RailsApp.credentials
  else .none

def serverUser? (id : String) (settings : Settings) : Option String :=
  if id = Postgres.pluginId then some (Postgres.ofSettings settings).1.user
  else if id = RailsApp.pluginId then (RailsApp.ofSettings settings).1.database.user?
  else none

theorem builtin_twin {hidden : List String} {id : String} {a b : Settings} {p q : Plugin}
    (unseen : hidden.contains "Secret" = true)
    (alike : Settings.veil (pluginCredentials id) a = Settings.veil (pluginCredentials id) b)
    (made : Registries.builtin.plugin id a = .ok p) (made' : Registries.builtin.plugin id b = .ok q)
    (clean : p.violations = []) (clean' : q.violations = [])
    (probed : hidden.contains "StatefulSet" = true ∨ serverUser? id a = serverUser? id b) :
    p.Twin hidden q := by
  rcases builtin_made made with ⟨rfl, rfl⟩ | ⟨rfl, rfl⟩
  · obtain ⟨-, rfl⟩ | ⟨other, -⟩ := builtin_made made'
    · have twin := Postgres.ofSettings_twin alike
      have users := probed.imp_right Option.some.inj
      exact ⟨rfl, fun ctx => congrArg Except.ok (twin.contribution unseen users ctx)⟩
    · exact absurd other (by decide)
  · obtain ⟨other, -⟩ | ⟨-, rfl⟩ := builtin_made made'
    · exact absurd other (by decide)
    · have twin := RailsApp.ofSettings_twin alike clean clean'
      exact ⟨rfl, fun ctx => twin.contribution unseen probed ctx⟩

end Rollout
