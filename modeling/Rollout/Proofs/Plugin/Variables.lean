import Rollout.Proofs.Assembly.Contributions
import Rollout.Proofs.Assembly.Twins
import Rollout.Proofs.Definition.Layers
import Rollout.Proofs.Manifest.Containers
import Rollout.Proofs.Sorted

namespace Rollout

namespace RailsApp

open Assembly

variable {settings entries : Settings} {ctx : PluginContext} {app : RailsApp} {part : Contribution}
variable {servers rs : List Resource} {vars : List Json}

-- The database of a block; `managed` is the explicit choice, if one was made.
def blockAsked (managed : Option Bool) (db : Settings) : RailsDatabase :=
  if managed = some true then .managed
  else match db.text? "user", db.text? "password", db.text? "host" with
    | some user, some password, some host =>
      .external user password host ((db.int? "port").getD 5432) (db.text? "name")
    | some user, some password, none => .owned (Postgres.owned user password (db.text? "name"))
    | _, _, _ => .none

def databaseAsked (settings : Settings) : RailsDatabase :=
  match settings.block? "database" with
  | some db => blockAsked (settings.bool? "manage_database") db
  | none => if settings.bool? "manage_database" = some true then .managed else .none

-- The secret that holds a login, and its keys.
structure Login where
  secret : String
  user : String
  password : String
  url : String

def Login.find? (login : Login) (name : String) : Option Variable :=
  ([("DATABASE_USER", login.user), ("DATABASE_PASSWORD", login.password),
    ("DATABASE_URL", login.url)].lookup name).map (.ofSecret login.secret)

def ownLogin (ctx : PluginContext) : Login :=
  ⟨ctx.objectName "postgres", "POSTGRES_USER", "POSTGRES_PASSWORD", "DATABASE_URL"⟩

-- The login that a plugin exports.
def exportedLogin? (exports : Option Exports) : Option Login := do
  let exports ← exports
  pure ⟨← exports.lookup "secret_name", ← exports.lookup "user_key",
    ← exports.lookup "password_key", ← exports.lookup "url_key"⟩

def ofDatabase (ctx : PluginContext) (name : String) : RailsDatabase → Option Variable
  | .owned _ => (ownLogin ctx).find? name
  | .managed => (exportedLogin? (ctx.exports.lookup "postgres")).bind (·.find? name)
  | .external user password host port database =>
    if name = "DATABASE_URL" then
      some (.text (DatabaseUrl.render
        ⟨user, password, host, port, database.getD ctx.defaultDatabase⟩))
    else none
  | .none => none

def ofEntry (settings : Settings) (name : String) : Option String :=
  ((settings.block? "env").bind fun entries => entries.value? name).map variableText

def ofDefault (settings : Settings) (ctx : PluginContext) (name : String) : Option String :=
  [("PORT", toString ((settings.int? "port").getD 3000)), ("RACK_ENV", ctx.environment),
    ("RAILS_ENV", ctx.environment), ("RAILS_LOG_TO_STDOUT", "true"),
    ("RAILS_SERVE_STATIC_FILES", "true")].lookup name

-- The database decides first, then the settings' own entries, and then the defaults.
def due? (settings : Settings) (ctx : PluginContext) (name : String) : Option Variable :=
  (ofDatabase ctx name (databaseAsked settings)).or
    (((ofEntry settings name).or (ofDefault settings ctx name)).map .text)

def Distinct (settings : Settings) : Prop :=
  ∀ entries, settings.block? "env" = some entries → (Declared.names entries).Nodup

theorem databaseOf_asked {managed : Option Bool} {db : Check}
    (clean : (databaseOf managed db).2 = []) :
    (databaseOf managed db).1 = blockAsked managed db.settings := by
  unfold databaseOf at clean ⊢
  unfold blockAsked
  split
  · rfl
  · next free =>
    simp only [if_neg free, List.append_eq_nil_iff] at clean
    obtain ⟨⟨⟨⟨⟨⟨user, password⟩, host⟩, port⟩, -⟩, database⟩, -⟩ := clean
    obtain ⟨user', found, given⟩ := Check.text_given user
    obtain ⟨password', found', given'⟩ := Check.text_given password
    simp only [found, found', given, given', Check.text_clean host, Check.int_clean port,
      Check.text_clean database]
    cases there : db.settings.text? "host" with
    | some host' => rfl
    | none =>
      cases managed with
      | none => rfl
      | some given =>
        cases given with
        | true => exact absurd rfl free
        | false =>
          have required : (db.text "host" true).2 = [] := host
          obtain ⟨host', -, present⟩ := Check.text_given required
          rw [there] at present
          cases present

theorem databaseRead_asked {check : Check} (managed : (check.bool "manage_database").2 = [])
    (clean : (databaseRead check).2 = []) :
    (databaseRead check).1 = databaseAsked check.settings := by
  unfold databaseRead at clean ⊢
  unfold databaseAsked
  rw [Check.bool_clean managed] at clean ⊢
  rcases block : check.block "database" with ⟨_ | db, vs⟩
  · simp only [block] at clean ⊢
    have absent := Check.block_clean ((congrArg Prod.snd block).trans clean)
    rw [block] at absent
    rw [← absent]
    rfl
  · simp only [block, List.append_eq_nil_iff] at clean ⊢
    have present := Check.block_clean ((congrArg Prod.snd block).trans clean.1)
    rw [block] at present
    rw [← present]
    exact databaseOf_asked clean.2

theorem ofSettings_asked (clean : (ofSettings settings).2 = []) :
    (ofSettings settings).1.database = databaseAsked settings ∧
      (ofSettings settings).1.port = (settings.int? "port").getD 3000 := by
  have database := databaseRead_clean clean
  unfold ofSettings at clean
  simp only [List.append_eq_nil_iff] at clean
  obtain ⟨⟨⟨⟨⟨⟨⟨⟨-, -⟩, -⟩, -⟩, port⟩, managed⟩, -⟩, -⟩, -⟩ := clean
  refine ⟨(ofSettings_database settings).trans (databaseRead_asked managed database), ?_⟩
  exact congrArg (·.getD defaultPort) (Check.int_clean port)

def plainText? : Setting → Option String
  | .value (.secret _ _) => none
  | .value v => some (variableText v)
  | .block _ => none

def secretText? : Setting → Option String
  | .value (.secret _ value) => some value.text
  | _ => none

theorem variablesOf_eq (entries : Settings) :
    variablesOf entries = Sorted.putRead plainText? [] entries := by
  unfold variablesOf Sorted.putRead
  congr 1
  funext acc entry
  obtain ⟨name, setting⟩ := entry
  rcases setting with v | block
  · cases v <;> rfl
  · rfl

theorem secretsOf_eq (entries : Settings) :
    secretsOf entries = Sorted.putRead secretText? [] entries := by
  unfold secretsOf Sorted.putRead
  congr 1
  funext acc entry
  obtain ⟨name, setting⟩ := entry
  rcases setting with v | block
  · cases v <;> rfl
  · rfl

theorem lookup_overlay (base : List (String × String)) {top : List (String × String)}
    (distinct : (top.map Prod.fst).Nodup) (name : String) :
    (overlay base top).lookup name = (top.lookup name).or (base.lookup name) := by
  have found := Sorted.lookup_putRead some base distinct name
  rwa [Option.bind_fun_some] at found

-- Each variable is a secret or none, so it is found on one side alone.
theorem entries_found (distinct : (Declared.names entries).Nodup) (name : String) :
    ((secretsOf entries).lookup name).or ((variablesOf entries).lookup name) =
      (entries.value? name).map variableText := by
  rw [secretsOf_eq, variablesOf_eq, Sorted.lookup_putRead _ _ distinct,
    Sorted.lookup_putRead _ _ distinct]
  unfold Settings.value?
  rcases entries.lookup name with _ | v | block
  · rfl
  · cases v <;> rfl
  · rfl

theorem entriesRead_eq (settings : Settings) :
    entriesRead settings = (settings.block? "env").getD [] := by
  unfold entriesRead Settings.block?
  rcases settings.lookup "env" with _ | v | entries <;> rfl

theorem values_found (clean : (ofSettings settings).2 = []) (distinct : Distinct settings)
    (ctx : PluginContext) (name : String) :
    ((ofSettings settings).1.secrets.lookup name).or
        ((overlay ((ofSettings settings).1.defaultVariables ctx) (ofSettings settings).1.vars).lookup
          name) =
      (ofEntry settings name).or (ofDefault settings ctx name) := by
  obtain ⟨vars, secrets⟩ := ofSettings_entries settings
  have declared : ((secretsOf (entriesRead settings)).lookup name).or
      ((variablesOf (entriesRead settings)).lookup name) = ofEntry settings name := by
    rw [entriesRead_eq, ofEntry]
    cases block : settings.block? "env" with
    | none => rfl
    | some entries => exact entries_found (distinct entries block) name
  have sorted : ((variablesOf (entriesRead settings)).map Prod.fst).Nodup := by
    rw [variablesOf_eq]
    exact Sorted.ascending_nodup (Sorted.putRead_ascending _ .nil _)
  rw [vars, secrets, lookup_overlay _ sorted, ← Option.or_assoc, declared, defaultVariables,
    (ofSettings_asked clean).2]
  rfl

theorem entry_seen (name variableName secret key : String) :
    Container.fromItem? name (fromSecret variableName secret key) =
      if name = variableName then some (.ofSecret secret key) else none := by
  by_cases here : name = variableName
  · subst here
    rw [if_pos rfl]
    exact if_pos rfl
  · rw [if_neg here]
    exact if_neg fun same => here (Json.string.inj (Option.some.inj same)).symm

def Login.variables (login : Login) : List Json :=
  [fromSecret "DATABASE_USER" login.secret login.user,
    fromSecret "DATABASE_PASSWORD" login.secret login.password,
    fromSecret "DATABASE_URL" login.secret login.url]

theorem login_seen (login : Login) (name : String) :
    login.variables.reverse.findSome? (Container.fromItem? name) = login.find? name := by
  simp only [Login.variables, List.reverse_cons, List.reverse_nil, List.nil_append, List.cons_append,
    List.findSome?_cons, List.findSome?_nil, entry_seen, Login.find?, List.lookup_cons,
    List.lookup_nil]
  by_cases isUser : name = "DATABASE_USER"
  · subst isUser
    rfl
  · by_cases isPassword : name = "DATABASE_PASSWORD"
    · subst isPassword
      rfl
    · by_cases isUrl : name = "DATABASE_URL"
      · subst isUrl
        rfl
      · simp [isUser, isPassword, isUrl, beq_eq_false_iff_ne.mpr]

theorem needed_made {exports : Option Exports} {name value : String}
    (made : needed exports name = .ok value) : exports.bind (·.lookup name) = some value := by
  unfold needed at made
  split at made
  · next found => rw [found, Except.ok.inj made]
  · cases made

theorem databaseVariables_made {exports : Option Exports}
    (made : databaseVariables exports = .ok vars) :
    ∃ login, exportedLogin? exports = some login ∧ vars = login.variables := by
  obtain ⟨secret, neededSecret, made⟩ := bind_eq_ok.mp made
  obtain ⟨user, neededUser, made⟩ := bind_eq_ok.mp made
  obtain ⟨password, neededPassword, made⟩ := bind_eq_ok.mp made
  obtain ⟨url, neededUrl, made⟩ := bind_eq_ok.mp made
  refine ⟨⟨secret, user, password, url⟩, ?_, (Except.ok.inj made).symm⟩
  obtain ⟨es, rfl, hasSecret⟩ := Option.bind_eq_some_iff.mp (needed_made neededSecret)
  have hasUser : es.lookup "user_key" = some user := needed_made neededUser
  have hasPassword : es.lookup "password_key" = some password := needed_made neededPassword
  have hasUrl : es.lookup "url_key" = some url := needed_made neededUrl
  simp only [exportedLogin?, Option.bind_eq_bind, Option.bind_some, hasSecret, hasUser, hasPassword,
    hasUrl]
  rfl

-- The URL of an external database is put among the secrets last, so it wins over a declared one.
theorem database_seen (found : app.databaseParts ctx = .ok (servers, vars)) (name : String)
    (plain : Option String) :
    (vars.reverse.findSome? (Container.fromItem? name)).or
        ((((app.allSecrets ctx).lookup name).or plain).map .text) =
      (ofDatabase ctx name app.database).or (((app.secrets.lookup name).or plain).map .text) := by
  have made := databaseParts_made found
  unfold allSecrets
  cases database : app.database with
  | none =>
    obtain ⟨-, rfl⟩ : servers = [] ∧ vars = [] := by rwa [database] at made
    rfl
  | managed =>
    rw [database] at made
    obtain ⟨login, exported, rfl⟩ := databaseVariables_made made.2
    have exported : exportedLogin? (ctx.exports.lookup "postgres") = some login := exported
    rw [login_seen, ofDatabase, exported, Option.bind_some]
  | owned server =>
    rw [database] at made
    have own : vars = (ownLogin ctx).variables := made.2
    rw [own, login_seen, ofDatabase]
  | external user password host port base =>
    obtain ⟨-, rfl⟩ : servers = [] ∧ vars = [] := by rwa [database] at made
    simp only [Sorted.lookup_put, ofDatabase]
    split
    · rfl
    · rfl

theorem textFields_at? (values : List (String × String)) (name : String) :
    ((Json.object (textFields values)).at? [name]).bind Json.asString? = values.lookup name := by
  have found : (Json.object (textFields values)).field? name = (values.lookup name).map .string :=
    Declared.lookup_map Json.string name values
  rw [Json.at?, found]
  cases values.lookup name <;> rfl

open Manifest Resource

theorem texts_held {base : Resource} {space kind object field : String}
    {values : List (String × String)} (found : declaration? rs ⟨kind, some space, object⟩ =
      some (base.withField field (.object (textFields values))))
    (whole : base.IsObject) (free : identityFields.contains field = false) (name : String) :
    Container.held? rs space kind object field name = values.lookup name := by
  rw [Container.held?, found, Option.bind_some, withField_at? whole free, textFields_at?]

theorem contributed_apart (found : app.databaseParts ctx = .ok (servers, vars)) :
    ((servers ++ (Piece.web app vars).resources ctx).map Resource.key).Nodup := by
  have taken : (servers.map Resource.key).Sublist (keysOfServer ctx) := by
    rw [databaseParts_servers found]
    cases app.ownServer? with
    | none => exact List.nil_sublist _
    | some server =>
      rw [Option.toList_some, List.flatMap_singleton, server_takes]
  rw [List.map_append]
  exact (server_beside_web ctx).sublist (taken.append web_takes)

theorem contributed_declared {r : Resource} {key : ResourceKey}
    (found : app.databaseParts ctx = .ok (servers, vars))
    (present : r ∈ servers ++ (Piece.web app vars).resources ctx) (own : r.key = key) :
    declaration? (servers ++ (Piece.web app vars).resources ctx) key = some r :=
  own ▸ declaration?_of_mem (contributed_apart found) present

theorem sources_seen (found : app.databaseParts ctx = .ok (servers, vars)) (name : String) :
    (app.variableSources ctx).reverse.findSome? (Container.fromSource?
        (servers ++ (Piece.web app vars).resources ctx) ctx.namespaceName name) =
      ((app.allSecrets ctx).lookup name).or
        ((overlay (app.defaultVariables ctx) app.vars).lookup name) := by
  generalize same : servers ++ (Piece.web app vars).resources ctx = rs
  have config : declaration? rs ⟨"ConfigMap", some ctx.namespaceName, configName ctx⟩ =
      some (app.config ctx) :=
    same ▸ contributed_declared found (by simp [Piece.resources]) config_key
  have secrets : ∀ secret ∈ app.secret ctx,
      declaration? rs ⟨"Secret", some ctx.namespaceName, secretName ctx⟩ = some secret :=
    fun secret member => same ▸
      contributed_declared found (by simp [Piece.resources, member]) (secrets_key member)
  have fromConfig : Container.fromSource? rs ctx.namespaceName name
      (.object [("configMapRef", .object [("name", .string (configName ctx))])]) =
      (overlay (app.defaultVariables ctx) app.vars).lookup name :=
    texts_held config new_isObject (by decide) name
  unfold RailsApp.secret at secrets
  unfold variableSources
  split
  · next empty =>
    rw [List.isEmpty_iff.mp empty, List.reverse_singleton, List.findSome?_singleton, fromConfig]
    rfl
  · next filled =>
    rw [if_neg filled] at secrets
    have fromSecrets : Container.fromSource? rs ctx.namespaceName name
        (.object [("secretRef", .object [("name", .string (secretName ctx))])]) =
        (app.allSecrets ctx).lookup name :=
      texts_held (secrets _ (List.mem_singleton_self _)) (withField_isObject new_isObject)
        (by decide) name
    rw [List.reverse_cons, List.reverse_singleton, List.singleton_append, List.findSome?_cons,
      List.findSome?_singleton, fromConfig, fromSecrets]
    cases (app.allSecrets ctx).lookup name <;> rfl

theorem web_deployed (found : app.databaseParts ctx = .ok (servers, vars)) :
    Container.deployed (servers ++ (Piece.web app vars).resources ctx) = [app.container ctx vars] := by
  have before : (servers ++ app.config ctx :: app.secret ctx).filter
      (fun r => r.kind = "Deployment") = [] := by
    refine List.filter_eq_nil_iff.mpr fun r member => ?_
    change ¬decide (r.key.kind = "Deployment") = true
    rcases List.mem_append.mp member with server | web
    · rw [databaseParts_servers found] at server
      obtain ⟨own, -, member⟩ := List.mem_flatMap.mp server
      simp only [Piece.resources, List.mem_cons, List.not_mem_nil, or_false] at member
      rcases member with rfl | rfl | rfl <;>
        simp [databaseSecret_key, databaseService_key, database_key]
    · rcases List.mem_cons.mp web with rfl | secret
      · simp [config_key]
      · simp [secrets_key secret]
  have after : [app.deployment ctx vars, app.service ctx, app.ingress ctx].filter
      (fun r => r.kind = "Deployment") = [app.deployment ctx vars] := rfl
  rw [Container.deployed, Piece.resources, ← List.append_assoc, List.filter_append, before, after,
    List.nil_append, List.flatMap_singleton, deployment_containers]
  rfl

def loginTexts (server : Postgres) (ctx : PluginContext) : List (String × String) :=
  [("DATABASE_URL", server.url ctx), ("POSTGRES_DB", server.databaseName ctx),
    ("POSTGRES_PASSWORD", server.password), ("POSTGRES_USER", server.user)]

-- What a container finds in its environment, by the settings of the application.
structure Furnished (settings : Settings) (ctx : PluginContext) (rs : List Resource)
    (container : Json) : Prop where
  web : container.field? "name" = some (.string "web")
  finds : ∀ name, Container.sees? rs ctx.namespaceName container name = due? settings ctx name
  -- The secret of a server of its own comes along; another one's is known by its exports.
  owned : ∀ server, databaseAsked settings = .owned server → ∀ name,
    Container.held? rs ctx.namespaceName "Secret" (ctx.objectName "postgres") "stringData" name =
      (loginTexts server ctx).lookup name
  managed : databaseAsked settings = .managed →
    (exportedLogin? (ctx.exports.lookup "postgres")).isSome

theorem web_furnished (clean : (ofSettings settings).2 = []) (distinct : Distinct settings)
    (found : (ofSettings settings).1.databaseParts ctx = .ok (servers, vars)) :
    Furnished settings ctx (servers ++ (Piece.web (ofSettings settings).1 vars).resources ctx)
      ((ofSettings settings).1.container ctx vars) where
  web := rfl
  finds name := by
    have entries : Container.items "env" ((ofSettings settings).1.container ctx vars) = vars := rfl
    have sources : Container.items "envFrom" ((ofSettings settings).1.container ctx vars) =
        (ofSettings settings).1.variableSources ctx := rfl
    rw [Container.sees?, entries, sources, sources_seen found, database_seen found,
      values_found clean distinct, (ofSettings_asked clean).1]
    rfl
  owned server asked name := by
    have database : (ofSettings settings).1.database = .owned server :=
      (ofSettings_asked clean).1.trans asked
    have made := databaseParts_made found
    rw [database] at made
    have present : server.secret ctx ∈
        servers ++ (Piece.web (ofSettings settings).1 vars).resources ctx := by
      simp [made.1, Piece.resources]
    have declared := contributed_declared found present databaseSecret_key
    exact texts_held declared (withField_isObject new_isObject) (by decide) name
  managed asked := by
    have database : (ofSettings settings).1.database = .managed :=
      (ofSettings_asked clean).1.trans asked
    have made := databaseParts_made found
    rw [database] at made
    obtain ⟨login, exported, -⟩ := databaseVariables_made made.2
    exact Option.isSome_of_eq_some exported

theorem contributed_environment (clean : (plugin settings).violations = [])
    (distinct : Distinct settings) (made : (plugin settings).contribute ctx = .ok part) :
    ∃ container, Container.deployed part.resources = [container] ∧
      Furnished settings ctx part.resources container := by
  obtain ⟨servers, vars, found, same⟩ := contribution_parts made
  rw [same]
  exact ⟨_, web_deployed found, web_furnished clean distinct found⟩

def kioskSettings : Settings :=
  [("hostname", .value (.string "kiosk.example")),
    ("database", .block [("user", .value (.string "kiosk")),
      ("password", .value (.secret "DB" ⟨"s3cret"⟩))]),
    ("env", .block [("DATABASE_USER", .value (.string "someone")),
      ("PORT", .value (.secret "PORT" ⟨"8080"⟩)), ("WORKERS", .value (.int 4))])]

def kioskContext : PluginContext :=
  ⟨"kiosk", "staging", "kiosk-staging", ⟨"docker.io", "kiosk/web", some "v1"⟩, none, []⟩

theorem kiosk_environment : ∃ part container,
    (plugin kioskSettings).violations = [] ∧ Distinct kioskSettings ∧
      (plugin kioskSettings).contribute kioskContext = .ok part ∧
      Container.deployed part.resources = [container] ∧
      Container.sees? part.resources "kiosk-staging" container "DATABASE_USER" =
        some (.ofSecret "kiosk-postgres" "POSTGRES_USER") ∧
      Container.held? part.resources "kiosk-staging" "Secret" "kiosk-postgres" "stringData"
        "POSTGRES_USER" = some "kiosk" ∧
      Container.sees? part.resources "kiosk-staging" container "PORT" = some (.text "8080") ∧
      Container.sees? part.resources "kiosk-staging" container "WORKERS" = some (.text "4") ∧
      Container.sees? part.resources "kiosk-staging" container "RAILS_ENV" = some (.text "staging") ∧
      Container.sees? part.resources "kiosk-staging" container "HOME" = none := by
  have clean : (plugin kioskSettings).violations = [] := by decide +kernel
  have distinct : Distinct kioskSettings := by
    intro entries found
    obtain rfl := Option.some.inj found
    decide
  have made : ∃ part, (plugin kioskSettings).contribute kioskContext = .ok part := ⟨_, rfl⟩
  obtain ⟨part, made⟩ := made
  obtain ⟨container, deployed, furnished⟩ := contributed_environment clean distinct made
  have asked : databaseAsked kioskSettings = .owned (Postgres.owned "kiosk" "s3cret" none) := rfl
  refine ⟨part, container, clean, distinct, made, deployed, (furnished.finds _).trans ?_,
    (furnished.owned _ asked _).trans ?_, (furnished.finds _).trans ?_, (furnished.finds _).trans ?_,
    (furnished.finds _).trans ?_, (furnished.finds _).trans ?_⟩ <;> decide +kernel

end RailsApp

end Rollout
