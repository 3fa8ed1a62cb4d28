import Rollout.Definition
import Rollout.Host
import Rollout.Kdl.Reader

namespace Rollout

abbrev SecretLookup := String → Except Error Secret

structure Scope where
  file : Option String
  text : String
  lookup : SecretLookup
  labels : List String

namespace Scope

def within (scope : Scope) (label : String) : Scope :=
  { scope with labels := scope.labels ++ [label] }

def position (line column : Nat) : Nat → List Char → Nat × Nat
  | _, [] => (line, column)
  | 0, _ => (line, column)
  | bytes + 1, c :: rest =>
    if c = '\n' then position (line + 1) 1 bytes rest
    else position line (column + c.utf8Size) (bytes + 1 - c.utf8Size) rest

def locate (scope : Scope) (node : Kdl.Node) : Location :=
  let (line, column) := position 1 1 node.offset scope.text.toList
  ⟨scope.file, line, column, scope.labels⟩

def unknown (scope : Scope) (kind : String) (node : Kdl.Node) : Error :=
  .definition (.unknownNode kind node.name (scope.locate node))

def missing (scope : Scope) (field : String) (node : Kdl.Node) : Error :=
  .definition (.missingField field (scope.locate node))

def invalid (scope : Scope) (node : Kdl.Node) (message : String) : Error :=
  .definition (.invalidValue node.name message (scope.locate node))

def argument (scope : Scope) (node : Kdl.Node) : Except Error Kdl.Entry :=
  if node.properties.isEmpty then
    match node.arguments with
    | [entry] => .ok entry
    | [] => .error (scope.invalid node "expected a value")
    | _ => .error (scope.invalid node "expected exactly one value")
  else .error (scope.invalid node "properties (key=value) are not supported")

def value (scope : Scope) (node : Kdl.Node) (entry : Kdl.Entry) : Except Error Value :=
  match entry.type with
  | some type =>
    if type = "secret" then
      match entry.value with
      | .string key => (scope.lookup key).map (.secret key)
      | _ => .error (scope.invalid node "secret reference must name a string key")
    else .error (scope.invalid node s!"unknown type annotation '({type})'")
  | none =>
    match entry.value with
    | .string s => .ok (.string s)
    | .boolean b => .ok (.bool b)
    | .integer i =>
      if fitsSigned 64 i then .ok (.int i) else .error (scope.invalid node "integer out of range")
    | raw => .error (scope.invalid node ("unsupported value " ++ raw.render))

def scalar (scope : Scope) (node : Kdl.Node) : Except Error Value := do
  scope.value node (← scope.argument node)

def string (scope : Scope) (node : Kdl.Node) : Except Error String := do
  match ← scope.scalar node with
  | .string s => pure s
  | other => throw (scope.invalid node ("expected a string literal, found " ++ other.kind))

def identifier (scope : Scope) (node : Kdl.Node) : Except Error String := do
  let entry ← scope.argument node
  match entry.type, entry.value with
  | none, .string id =>
    if id.isEmpty then throw (scope.invalid node "expected a non-empty identifier string")
    pure id
  | _, _ => throw (scope.invalid node "expected a non-empty identifier string")

mutual
-- An entry of a block of settings: a block of its own if it has braces, else a scalar.
def setting (scope : Scope) : Kdl.Node → Except Error Setting
  | ⟨offset, name, entries, some nodes⟩ =>
    let node : Kdl.Node := ⟨offset, name, entries, some nodes⟩
    if node.arguments.isEmpty then (settings (scope.within name) [] nodes).map .block
    else .error (scope.invalid node "a block cannot also take a value")
  | ⟨offset, name, entries, none⟩ => (scope.scalar ⟨offset, name, entries, none⟩).map .value
def settings (scope : Scope) (before : Settings) : List Kdl.Node → Except Error Settings
  | [] => .ok before
  | node :: rest => do
    let entry ← setting scope node
    settings scope (Declared.put node.name entry before) rest
end

structure LoginDraft where
  username : Option Value
  password : Option Value
  email : Option Value

def loginField (scope : Scope) (draft : LoginDraft) (node : Kdl.Node) : Except Error LoginDraft :=
  match node.name with
  | "username" => do pure { draft with username := some (← scope.scalar node) }
  | "password" => do pure { draft with password := some (← scope.scalar node) }
  | "email" => do pure { draft with email := some (← scope.scalar node) }
  | _ => .error (scope.unknown "field" node)

def required {α : Type} (found : Option α) (e : Error) : Except Error α :=
  match found with
  | some a => .ok a
  | none => .error e

def login (scope : Scope) (node : Kdl.Node) : Except Error RegistryLogin := do
  let draft ← node.nodes.foldlM scope.loginField ⟨none, none, none⟩
  pure
    { username := ← required draft.username (scope.missing "username" node)
      password := ← required draft.password (scope.missing "password" node)
      email := ← required draft.email (scope.missing "email" node) }

structure DockerDraft where
  image : Option Image
  login : Option RegistryLogin
  dockerfile : String
  buildContext : String

def defaultDockerfile : String := "Dockerfile"

def defaultBuildContext : String := "."

def dockerField (scope : Scope) (draft : DockerDraft) (node : Kdl.Node) :
    Except Error DockerDraft :=
  match node.name with
  | "image_url" => do
    match Image.parse (← scope.string node) with
    | .ok image => pure { draft with image := some image }
    | .error e => throw (scope.invalid node e.message)
  | "credentials" => do
    pure { draft with login := some (← (scope.within "credentials").login node) }
  | "dockerfile" => do pure { draft with dockerfile := ← scope.string node }
  | "build_context" => do pure { draft with buildContext := ← scope.string node }
  | _ => .error (scope.unknown "field" node)

def docker (scope : Scope) (node : Kdl.Node) : Except Error DockerConfig := do
  let draft ← node.nodes.foldlM scope.dockerField
    ⟨none, none, defaultDockerfile, defaultBuildContext⟩
  let image ← required draft.image (scope.missing "image_url" node)
  pure ⟨image, draft.login, draft.dockerfile, draft.buildContext⟩

def kubernetesField (scope : Scope) (draft : KubernetesConfig) (node : Kdl.Node) :
    Except Error KubernetesConfig :=
  match node.name with
  | "namespace" => do pure { draft with namespaceName := some (← scope.string node) }
  | "provider" => do
    let id ← scope.identifier node
    let block ← (scope.within s!"provider \"{id}\"").settings [] node.nodes
    pure { draft with providers := Declared.putLast id block draft.providers }
  | "add_plugin" => do
    let id ← scope.identifier node
    let block ← (scope.within s!"add_plugin \"{id}\"").settings [] node.nodes
    pure { draft with plugins := Declared.putLast id block draft.plugins }
  | _ => .error (scope.unknown "block" node)

def kubernetes (scope : Scope) (node : Kdl.Node) : Except Error KubernetesConfig :=
  node.nodes.foldlM scope.kubernetesField ⟨none, [], []⟩

structure EnvironmentDraft where
  name : String
  docker : DockerConfig
  kubernetes : KubernetesConfig

def environmentField (scope : Scope) (draft : Option DockerConfig × Option KubernetesConfig)
    (node : Kdl.Node) : Except Error (Option DockerConfig × Option KubernetesConfig) :=
  match node.name with
  | "docker" => do pure (some (← (scope.within "docker").docker node), draft.2)
  | "kubernetes" => do pure (draft.1, some (← (scope.within "kubernetes").kubernetes node))
  | _ => .error (scope.unknown "block" node)

def environment (scope : Scope) (name : String) (node : Kdl.Node) :
    Except Error EnvironmentDraft := do
  let (docker, kubernetes) ← node.nodes.foldlM scope.environmentField (none, none)
  let docker ← required docker (scope.missing "docker" node)
  let kubernetes ← required kubernetes (scope.missing "kubernetes" node)
  pure ⟨name, docker, kubernetes⟩

def environmentScoped : List String :=
  ["docker", "kubernetes", "credentials", "provider", "add_plugin", "image_url", "username",
    "password", "email", "namespace"]

structure Draft where
  app : Option String
  environments : Declared EnvironmentDraft

def Draft.empty : Draft := ⟨none, []⟩

def topField (scope : Scope) (draft : Draft) (node : Kdl.Node) : Except Error Draft :=
  match node.name with
  | "app" => do pure { draft with app := some (← scope.string node) }
  | "environment" => do
    let name ← scope.identifier node
    let env ← (scope.within s!"environment \"{name}\"").environment name node
    pure { draft with environments := Declared.put name env draft.environments }
  | name =>
    if environmentScoped.contains name then
      .error (.definition (.outsideScope name (scope.locate node)))
    else .error (scope.unknown "block" node)

def document (scope : Scope) (draft : Draft) (nodes : List Kdl.Node) : Except Error Draft :=
  nodes.foldlM scope.topField draft

def Draft.finish (draft : Draft) : Except Error Definition :=
  match draft.app with
  | none => .error (.definition (.missingField "app" Location.nowhere))
  | some app =>
    .ok
      { app := app
        environments := draft.environments.map fun (name, env) =>
          (name, ⟨env.name, app, env.docker, env.kubernetes⟩) }

end Scope

namespace Definition

structure Source where
  file : Option String
  text : String

def syntaxMessage : String := "Failed to parse KDL document"

def addSource (lookup : SecretLookup) (draft : Scope.Draft) (source : Source) :
    Except Error Scope.Draft :=
  match Kdl.parse? source.text with
  | none => .error (.definition (.malformed (source.file.getD "<input>") syntaxMessage))
  | some nodes => Scope.document ⟨source.file, source.text, lookup, []⟩ draft nodes

def ofSources (lookup : SecretLookup) (sources : List Source) : Except Error Definition := do
  (← sources.foldlM (addSource lookup) Scope.Draft.empty).finish

def addFile (lookup : SecretLookup) (host : Host) (draft : Scope.Draft) (path : String) :
    Except Error Scope.Draft :=
  if host.files.present path then
    match host.readText path with
    | .ok text => addSource lookup draft ⟨some path, text⟩
    | .error e => .error (.io e)
  else .error (.definition (.fileNotFound path))

def ofFiles (lookup : SecretLookup) (host : Host) (paths : List String) :
    Except Error Definition := do
  (← paths.foldlM (addFile lookup host) Scope.Draft.empty).finish

def environment (definition : Definition) (name : Option String) : Except Error Environment :=
  let available := ", ".intercalate (Declared.names definition.environments)
  match name with
  | some name =>
    match definition.environments.lookup name with
    | some env => .ok env
    | none => .error (.definition (.unknownEnvironment name available))
  | none =>
    match definition.environments with
    | [(_, env)] => .ok env
    | [] =>
      .error (.definition (.noEnvironment "the definition declares no environments"))
    | _ =>
      .error (.definition (.noEnvironment s!"choose one of {available} with --environment"))

-- The names of definition files, the preferred one first.
def fileNames : List String := ["berth.kdl", "deploy.kdl"]

def findFile (files : FileTree) (start : String) : Except Error String :=
  let candidates := (Path.ancestors start).flatMap fun dir => fileNames.map (Path.join dir)
  match candidates.find? files.present with
  | some path => .ok path
  | none => .error (.definition (.fileNotFound (Path.join start "berth.kdl")))

end Definition

end Rollout
