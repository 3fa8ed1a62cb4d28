import Rollout.DatabaseUrl
import Rollout.Plugin
import Rollout.Settings.Check

namespace Rollout

structure Postgres where
  user : String
  password : String
  database : Option String
  storage : String
  version : Int
  deriving DecidableEq, Repr

namespace Postgres

def pluginId : String := "postgres"
def port : Nat := 5432
def defaultStorage : String := "10Gi"
def defaultVersion : Int := 16

def isLetter (c : Char) : Bool := Text.isLower c || Text.isUpper c

def units : List String := ["", "Ki", "Mi", "Gi", "Ti", "K", "M", "G", "T"]

def isQuantity (s : String) : Bool :=
  let back := s.toList.reverse
  let digits := (back.dropWhile isLetter).reverse
  let unit := (back.takeWhile isLetter).reverse
  !digits.isEmpty && digits.all Text.isDigit && units.contains (String.ofList unit)

def fields : List String := ["user", "password", "database", "storage", "version"]

def storageViolations (check : Check) (storage : String) : List Violation :=
  if isQuantity storage then []
  else [check.violation "storage" s!"'{storage}' is not a storage quantity such as 10Gi"]

def ofSettings (settings : Settings) : Postgres × List Violation :=
  let check := Check.ofSettings ("plugin " ++ pluginId) settings
  let (user, v1) := check.text "user" true
  let (password, v2) := check.text "password" true
  let (database, v3) := check.text "database" false
  let (storage, v4) := check.text "storage" false
  let (version, v5) := check.int "version" 9 99
  let storage := storage.getD defaultStorage
  (⟨user.getD "", password.getD "", database, storage, version.getD defaultVersion⟩,
    v1 ++ v2 ++ v3 ++ v4 ++ storageViolations check storage ++ v5 ++ check.only fields)

def owned (user password : String) (database : Option String) : Postgres :=
  ⟨user, password, database, defaultStorage, defaultVersion⟩

def name (ctx : PluginContext) : String := ctx.objectName "postgres"

def host (ctx : PluginContext) : String := name ctx ++ "." ++ ctx.namespaceName ++ ".svc.cluster.local"

def databaseName (p : Postgres) (ctx : PluginContext) : String :=
  p.database.getD ctx.defaultDatabase

def url (p : Postgres) (ctx : PluginContext) : String :=
  DatabaseUrl.render ⟨p.user, p.password, host ctx, port, p.databaseName ctx⟩

def userKey : String := "POSTGRES_USER"
def passwordKey : String := "POSTGRES_PASSWORD"
def databaseKey : String := "POSTGRES_DB"
def urlKey : String := "DATABASE_URL"

def secret (p : Postgres) (ctx : PluginContext) : Resource :=
  ((Resource.new "v1" "Secret" (name ctx) (some ctx.namespaceName)).withField "type"
    (.string "Opaque")).withField "stringData"
    (.object [(urlKey, .string (p.url ctx)), (databaseKey, .string (p.databaseName ctx)),
      (passwordKey, .string p.password), (userKey, .string p.user)])

def service (ctx : PluginContext) : Resource :=
  (Resource.new "v1" "Service" (name ctx) (some ctx.namespaceName)).withField "spec"
    (.object [
      ("ports", .array [.object [("name", .string "postgres"), ("port", .nat port),
        ("targetPort", .nat port)]]),
      ("selector", ctx.selector "database")])

def container (p : Postgres) (ctx : PluginContext) : Json :=
  .object [
    ("env", .array [.object [("name", .string "PGDATA"),
      ("value", .string "/var/lib/postgresql/data/pgdata")]]),
    ("envFrom", .array [.object [("secretRef", .object [("name", .string (name ctx))])]]),
    ("image", .string s!"postgres:{p.version}"),
    ("name", .string "postgres"),
    ("ports", .array [.object [("containerPort", .nat port), ("name", .string "postgres")]]),
    ("readinessProbe", .object [
      ("exec", .object [("command",
        .array [.string "pg_isready", .string "-U", .string p.user])]),
      ("periodSeconds", .nat 10)]),
    ("volumeMounts", .array [.object [("mountPath", .string "/var/lib/postgresql/data"),
      ("name", .string "data")]])]

def volumeClaim (p : Postgres) : Json :=
  .object [
    ("metadata", .object [("name", .string "data")]),
    ("spec", .object [
      ("accessModes", .array [.string "ReadWriteOnce"]),
      ("resources", .object [("requests", .object [("storage", .string p.storage)])])])]

def statefulSet (p : Postgres) (ctx : PluginContext) : Resource :=
  let selector := ctx.selector "database"
  (Resource.new "apps/v1" "StatefulSet" (name ctx) (some ctx.namespaceName)).withField "spec"
    (.object [
      ("replicas", .nat 1),
      ("selector", .object [("matchLabels", selector)]),
      ("serviceName", .string (name ctx)),
      ("template", .object [
        ("metadata", .object [("labels", selector)]),
        ("spec", .object [("containers", .array [p.container ctx])])]),
      ("volumeClaimTemplates", .array [p.volumeClaim])])

def exports (p : Postgres) (ctx : PluginContext) : Exports :=
  [("database", p.databaseName ctx), ("host", host ctx), ("password_key", passwordKey),
    ("port", toString port), ("secret_name", name ctx), ("url_key", urlKey), ("user_key", userKey)]

def contribution (p : Postgres) (ctx : PluginContext) : Contribution :=
  ⟨[p.secret ctx, service ctx, p.statefulSet ctx], p.exports ctx⟩

def plugin (settings : Settings) : Plugin :=
  let (p, violations) := ofSettings settings
  ⟨pluginId, [], violations, fun ctx => .ok (p.contribution ctx)⟩

end Postgres

end Rollout
