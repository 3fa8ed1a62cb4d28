import Rollout.Plugin.Postgres

namespace Rollout

inductive RailsDatabase where
  | none
  | external (user password host : String) (port : Int) (name : Option String)
  | owned (server : Postgres)
  | managed
  deriving DecidableEq, Repr

structure RailsApp where
  hostname : String
  ingressClass : String
  replicas : Int
  port : Int
  database : RailsDatabase
  vars : List (String × String)
  -- Environment variables that come from secrets, sorted.
  secrets : List (String × String)
  deriving DecidableEq, Repr

namespace RailsApp

def pluginId : String := "rails_app"
def defaultIngressClass : String := "nginx"
def defaultPort : Int := 3000
def defaultDatabasePort : Int := 5432

def isLabelChar (c : Char) : Bool := Text.isAlphanumeric c || c == '-'

def isLabel (cs : List Char) : Bool :=
  !cs.isEmpty && cs.length ≤ 63 && cs.all isLabelChar && cs.head? != some '-' &&
    cs.getLast? != some '-'

def isHostname (s : String) : Bool :=
  s.utf8ByteSize ≤ 253 && s.toList.contains '.' && (Text.splitChar '.' s.toList).all isLabel

def fields : List String :=
  ["hostname", "ingress_class", "replicas", "port", "manage_database", "database", "env"]

def databaseFields : List String := ["user", "password", "host", "port", "name"]

def providedByPlugin : String := "is provided by the postgres plugin when manage_database is set"

def managedViolations (db : Check) : List Violation :=
  databaseFields.flatMap fun field =>
    match db.text field false with
    | (some _, vs) => vs ++ [db.violation field providedByPlugin]
    | (none, vs) => vs

-- The database of a block; `managed` is the explicit choice, if one was made. Saying that it is not
-- managed promises an external host.
def databaseOf (managed : Option Bool) (db : Check) : RailsDatabase × List Violation :=
  if managed = some true then (.managed, managedViolations db)
  else
    let (user, v1) := db.text "user" true
    let (password, v2) := db.text "password" true
    let (host, v3) := db.text "host" (managed = some false)
    let (port, v4) := db.int "port" 1 65535
    let v5 := if host.isNone && port.isSome then
        [db.violation "port" "only applies together with host"] else []
    let (name, v6) := db.text "name" false
    let database : RailsDatabase := match user, password, host with
      | some user, some password, some host =>
        .external user password host (port.getD defaultDatabasePort) name
      | some user, some password, none =>
        if managed.isNone then .owned (Postgres.owned user password name) else .none
      | _, _, _ => .none
    (database, v1 ++ v2 ++ v3 ++ v4 ++ v5 ++ v6 ++ db.only databaseFields)

def variableText : Value → String
  | .string s => s
  | .int i => toString i
  | .bool b => toString b
  | .secret _ value => value.text

def variablesOf (entries : Settings) : List (String × String) :=
  entries.foldl (fun acc (name, setting) =>
    match setting with
    | .value (.secret _ _) => acc
    | .value v => Sorted.put name (variableText v) acc
    | .block _ => acc) []

def secretsOf (entries : Settings) : List (String × String) :=
  entries.foldl (fun acc (name, setting) =>
    match setting with
    | .value (.secret _ value) => Sorted.put name value.text acc
    | _ => acc) []

def variableViolations (check : Check) (entries : Settings) : List Violation :=
  entries.filterMap fun (name, setting) =>
    match setting with
    | .value _ => none
    | .block _ => some (check.violation ("env." ++ name) "expected a value, found a block")

def hostnameViolations (check : Check) (hostname : String) : List Violation :=
  if hostname.isEmpty || isHostname hostname then []
  else [check.violation "hostname" s!"'{hostname}' is not a valid host name"]

def ofSettings (settings : Settings) : RailsApp × List Violation :=
  let check := Check.ofSettings ("plugin " ++ pluginId) settings
  let (hostname, v1) := check.text "hostname" true
  let hostname := hostname.getD ""
  let (ingressClass, v2) := check.text "ingress_class" false
  let (replicas, v3) := check.int "replicas" 0 100
  let (port, v4) := check.int "port" 1 65535
  let (managed, v5) := check.bool "manage_database"
  let (database, v6) := match check.block "database" with
    | (some db, vs) => let (database, more) := databaseOf managed db; (database, vs ++ more)
    | (none, vs) => (if managed = some true then .managed else .none, vs)
  let (entries, v7) := match settings.lookup "env" with
    | some (.block entries) => (entries, variableViolations check entries)
    | some (.value _) => ([], [check.violation "env" "expected a block"])
    | none => ([], [])
  (⟨hostname, ingressClass.getD defaultIngressClass, replicas.getD 1, port.getD defaultPort, database,
      variablesOf entries, secretsOf entries⟩,
    v1 ++ hostnameViolations check hostname ++ v2 ++ v3 ++ v4 ++ v5 ++ v6 ++ v7 ++ check.only fields)

def webName (ctx : PluginContext) : String := ctx.objectName "web"
def configName (ctx : PluginContext) : String := ctx.objectName "config"
def secretName (ctx : PluginContext) : String := ctx.objectName "secrets"

-- Variables that every application gets unless it sets them itself.
def defaultVariables (app : RailsApp) (ctx : PluginContext) : List (String × String) :=
  [("PORT", toString app.port), ("RACK_ENV", ctx.environment), ("RAILS_ENV", ctx.environment),
    ("RAILS_LOG_TO_STDOUT", "true"), ("RAILS_SERVE_STATIC_FILES", "true")]

def overlay (base top : List (String × String)) : List (String × String) :=
  top.foldl (fun acc (k, v) => Sorted.put k v acc) base

def textFields (entries : List (String × String)) : List (String × Json) :=
  entries.map fun (k, v) => (k, .string v)

def config (app : RailsApp) (ctx : PluginContext) : Resource :=
  (Resource.new "v1" "ConfigMap" (configName ctx) (some ctx.namespaceName)).withField "data"
    (.object (textFields (overlay (app.defaultVariables ctx) app.vars)))

def allSecrets (app : RailsApp) (ctx : PluginContext) : List (String × String) :=
  match app.database with
  | .external user password host port name =>
    Sorted.put "DATABASE_URL"
      (DatabaseUrl.render ⟨user, password, host, port, name.getD ctx.defaultDatabase⟩) app.secrets
  | _ => app.secrets

def secret (app : RailsApp) (ctx : PluginContext) : List Resource :=
  if (app.allSecrets ctx).isEmpty then []
  else [((Resource.new "v1" "Secret" (secretName ctx) (some ctx.namespaceName)).withField "type"
    (.string "Opaque")).withField "stringData" (.object (textFields (app.allSecrets ctx)))]

def needed (exports : Option Exports) (name : String) : Except Error String :=
  match exports.bind fun es => es.lookup name with
  | some value => .ok value
  | none => .error (.internal s!"{Postgres.pluginId} plugin did not export '{name}'")

def fromSecret (variableName secret key : String) : Json :=
  .object [("name", .string variableName),
    ("valueFrom", .object [("secretKeyRef", .object [("key", .string key), ("name", .string secret)])])]

def databaseVariables (exports : Option Exports) : Except Error (List Json) := do
  let secret ← needed exports "secret_name"
  let user ← needed exports "user_key"
  let password ← needed exports "password_key"
  let url ← needed exports "url_key"
  pure [fromSecret "DATABASE_USER" secret user, fromSecret "DATABASE_PASSWORD" secret password,
    fromSecret "DATABASE_URL" secret url]

def databaseParts (app : RailsApp) (ctx : PluginContext) : Except Error (List Resource × List Json) :=
  match app.database with
  | .owned server => do
    let part := server.contribution ctx
    pure (part.resources, ← databaseVariables (some part.exports))
  | .managed => do pure ([], ← databaseVariables (ctx.exports.lookup Postgres.pluginId))
  | .external .. => pure ([], [])
  | .none => pure ([], [])

def variableSources (app : RailsApp) (ctx : PluginContext) : List Json :=
  Json.object [("configMapRef", .object [("name", .string (configName ctx))])] ::
    if (app.allSecrets ctx).isEmpty then []
    else [.object [("secretRef", .object [("name", .string (secretName ctx))])]]

def container (app : RailsApp) (ctx : PluginContext) (vars : List Json) : Json :=
  .object [
    ("env", .array vars),
    ("envFrom", .array (app.variableSources ctx)),
    ("image", .string ctx.image.render),
    ("name", .string "web"),
    ("ports", .array [.object [("containerPort", .int app.port), ("name", .string "http")]]),
    ("readinessProbe", .object [
      ("initialDelaySeconds", .nat 5),
      ("periodSeconds", .nat 10),
      ("tcpSocket", .object [("port", .int app.port)])])]

def podSpec (app : RailsApp) (ctx : PluginContext) (vars : List Json) : Json :=
  let containers := ("containers", Json.array [app.container ctx vars])
  match ctx.registrySecret with
  | some secret =>
    .object [containers, ("imagePullSecrets", .array [.object [("name", .string secret)]])]
  | none => .object [containers]

def deployment (app : RailsApp) (ctx : PluginContext) (vars : List Json) : Resource :=
  let selector := ctx.selector "web"
  (Resource.new "apps/v1" "Deployment" (webName ctx) (some ctx.namespaceName)).withField "spec"
    (.object [
      ("replicas", .int app.replicas),
      ("selector", .object [("matchLabels", selector)]),
      ("template", .object [
        ("metadata", .object [("labels", selector)]),
        ("spec", app.podSpec ctx vars)])])

def service (app : RailsApp) (ctx : PluginContext) : Resource :=
  (Resource.new "v1" "Service" (webName ctx) (some ctx.namespaceName)).withField "spec"
    (.object [
      ("ports", .array [.object [("name", .string "http"), ("port", .nat 80),
        ("targetPort", .int app.port)]]),
      ("selector", ctx.selector "web")])

def ingress (app : RailsApp) (ctx : PluginContext) : Resource :=
  let backend := Json.object [("service", .object [("name", .string (webName ctx)),
    ("port", .object [("number", .nat 80)])])]
  (Resource.new "networking.k8s.io/v1" "Ingress" (webName ctx) (some ctx.namespaceName)).withField
    "spec"
    (.object [
      ("ingressClassName", .string app.ingressClass),
      ("rules", .array [.object [
        ("host", .string app.hostname),
        ("http", .object [("paths", .array [.object [
          ("backend", backend), ("path", .string "/"), ("pathType", .string "Prefix")]])])]])])

def contribution (app : RailsApp) (ctx : PluginContext) : Except Error Contribution := do
  let (resources, vars) ← app.databaseParts ctx
  pure ⟨resources ++ app.config ctx :: app.secret ctx ++
      [app.deployment ctx vars, app.service ctx, app.ingress ctx],
    [("service", webName ctx), ("url", "https://" ++ app.hostname)]⟩

def plugin (settings : Settings) : Plugin :=
  let (app, violations) := ofSettings settings
  ⟨pluginId, if app.database = .managed then [Postgres.pluginId] else [], violations,
    app.contribution⟩

end RailsApp

end Rollout
