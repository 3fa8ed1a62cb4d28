import Rollout.Base64
import Rollout.Definition.Validation
import Rollout.Json.Writer
import Rollout.Manifest
import Rollout.Registry

namespace Rollout

structure Prepared where
  provider : Provider
  plugins : List Plugin
  warnings : List String

structure Resolved where
  manifest : Manifest
  image : Image
  kubeconfig : KubeConfig
  cluster : ClusterInfo

namespace Assembly

def buildPlugins (registries : Registries) : List (String × Settings) → Except Error (List Plugin)
  | [] => .ok []
  | (id, settings) :: rest => do
    let plugin ← registries.plugin id settings
    let plugins ← buildPlugins registries rest
    pure (plugin :: plugins)

def allViolations (env : Environment) (provider : Provider) (plugins : List Plugin) : Findings :=
  let found := env.findings
  { found with
    violations := found.violations ++ provider.violations ++ plugins.flatMap Plugin.violations }

-- All violations are found in one pass; only the order of plugins is looked at after them.
def prepare (registries : Registries) (env : Environment) : Except Error Prepared := do
  match env.kubernetes.provider? with
  | none => .error (.validation [env.noProvider])
  | some (id, settings) =>
    let provider ← registries.provider id settings
    let plugins ← buildPlugins registries env.kubernetes.plugins
    let warnings ← (allViolations env provider plugins).accept
    match Plugin.checkOrder plugins with
    | .ok () => pure ⟨provider, plugins, warnings⟩
    | .error e => .error (.pluginOrder e)

def standardLabels (env : Environment) : List (String × String) :=
  [("app.kubernetes.io/instance", env.app ++ "-" ++ env.name),
    ("app.kubernetes.io/managed-by", "berth"), ("app.kubernetes.io/name", env.app)]

def dockerHubKey : String := "https://index.docker.io/v1/"

def authKey (image : Image) : String :=
  if image.registry = Image.defaultRegistry then dockerHubKey else image.registry

def loginText (field : String) (value : Value) : Except Error String :=
  match value.text? with
  | some s => .ok s
  | none => .error (.internal s!"registry credential '{field}' is not a string")

def dockerConfig (image : Image) (username password email : String) : Json :=
  .object [("auths", .object [(authKey image, .object [
    ("auth", .string (Base64.encode (Utf8.encode (username ++ ":" ++ password)))),
    ("email", .string email),
    ("password", .string password),
    ("username", .string username)])])]

def pullSecret (env : Environment) (name : String) (login : RegistryLogin) : Except Error Resource := do
  let username ← loginText "username" login.username
  let password ← loginText "password" login.password
  let email ← loginText "email" login.email
  let config := (dockerConfig env.docker.image username password email).render
  pure (((Resource.new "v1" "Secret" name (some env.namespaceOf)).withField "type"
    (.string "kubernetes.io/dockerconfigjson")).withField "data"
    (.object [(".dockerconfigjson", .string (Base64.encode (Utf8.encode config)))]))

def baseResources (env : Environment) : Except Error (List Resource) := do
  let space := Resource.new "v1" "Namespace" env.namespaceOf none
  match env.docker.login, env.registrySecret? with
  | some login, some name => do pure [space, ← pullSecret env name login]
  | _, _ => pure [space]

def context (env : Environment) (image : Image) (exports : Declared Exports) : PluginContext :=
  ⟨env.app, env.name, env.namespaceOf, image, env.registrySecret?, exports⟩

-- The resources of plugins behind those that exported so far.
def contributions (env : Environment) (image : Image) :
    Declared Exports → List Plugin → Except Error (List Resource)
  | _, [] => .ok []
  | exports, p :: rest => do
    let part ← p.contribute (context env image exports)
    let more ← contributions env image (Declared.put p.id part.exports exports) rest
    pure (part.resources ++ more)

-- The manifest of an environment, which depends on the definition and the image alone.
def compose (env : Environment) (image : Image) (plugins : List Plugin) : Except Error Manifest := do
  let base ← baseResources env
  let parts ← contributions env image [] plugins
  pure (Manifest.ofResources ((base ++ parts).map fun r => r.withLabels (standardLabels env)))

def assemble (env : Environment) (image : Image) (prepared : Prepared) : Inquiry Resolved :=
  fun host wire =>
    match prepared.provider.kubeconfig host wire with
    | (.error e, wire) => (.error e, wire)
    | (.ok kubeconfig, wire) =>
      match prepared.provider.describe host wire with
      | (.error e, wire) => (.error e, wire)
      | (.ok cluster, wire) =>
        (do
          let manifest ← compose env image prepared.plugins
          pure ⟨manifest, image, kubeconfig, cluster⟩, wire)

def build (registries : Registries) (env : Environment) (image : Image) : Inquiry Resolved :=
  fun host wire =>
    match prepare registries env with
    | .error e => (.error e, wire)
    | .ok prepared => assemble env image prepared host wire

end Assembly

end Rollout
