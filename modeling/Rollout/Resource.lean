import Rollout.Json
import Rollout.Yaml.Writer

namespace Rollout

structure ResourceKey where
  kind : String
  namespaceName : Option String
  name : String
  deriving DecidableEq, Repr

def ResourceKey.render (key : ResourceKey) : String :=
  match key.namespaceName with
  | some ns => s!"{key.kind}/{ns}/{key.name}"
  | none => s!"{key.kind}/{key.name}"

def ResourceKey.before (a b : ResourceKey) : Bool :=
  if a.kind ≠ b.kind then a.kind < b.kind
  else if a.namespaceName ≠ b.namespaceName then
    match a.namespaceName, b.namespaceName with
    | none, _ => true
    | some _, none => false
    | some x, some y => x < y
  else a.name < b.name

structure Resource where
  apiVersion : String
  kind : String
  name : String
  namespaceName : Option String
  -- The whole object; the fields of every object in it are sorted.
  body : Json
  deriving DecidableEq

namespace Resource

-- Kinds in the order in which they are applied; all others come last.
def kindOrder : List String :=
  ["Namespace", "ServiceAccount", "Secret", "ConfigMap", "PersistentVolumeClaim", "Service",
    "StatefulSet", "Deployment", "Job", "CronJob", "Ingress"]

def precedenceOf (kind : String) : Nat := kindOrder.idxOf kind

def precedence (r : Resource) : Nat := precedenceOf r.kind

def key (r : Resource) : ResourceKey := ⟨r.kind, r.namespaceName, r.name⟩

def new (apiVersion kind name : String) (namespaceName : Option String) : Resource :=
  let metadata := match namespaceName with
    | some ns => Json.object [("name", .string name), ("namespace", .string ns)]
    | none => Json.object [("name", .string name)]
  ⟨apiVersion, kind, name, namespaceName,
    .object [("apiVersion", .string apiVersion), ("kind", .string kind), ("metadata", metadata)]⟩

def identityFields : List String := ["apiVersion", "kind", "metadata"]

-- Sets a top-level field other than those of the identity.
def withField (r : Resource) (field : String) (value : Json) : Resource :=
  if identityFields.contains field then r else { r with body := r.body.set field value }

def addLabel (labels : List (String × Json)) (label : String × String) : List (String × Json) :=
  if (labels.lookup label.1).isSome then labels else Sorted.put label.1 (.string label.2) labels

-- Adds labels to the metadata; a label that is there already keeps its value.
def withLabels (r : Resource) (labels : List (String × String)) : Resource :=
  match r.body.field? "metadata" with
  | some (.object metadata) =>
    match (metadata.lookup "labels").getD (.object []) with
    | .object existing =>
      let merged := labels.foldl addLabel existing
      { r with body := r.body.set "metadata" (.object (Sorted.put "labels" (.object merged) metadata)) }
    | _ => r
  | _ => r

def toYaml (r : Resource) : String := Yaml.render r.body

end Resource

end Rollout
