import Rollout.Proofs.Manifest.Arrangement

namespace Rollout

-- A text, or what a secret holds under one of its keys.
inductive Variable where
  | text (s : String)
  | ofSecret (secret key : String)
  deriving DecidableEq

namespace Container

-- What is held under a name by the object of a kind that is declared in a namespace.
def held? (rs : List Resource) (space kind object field name : String) : Option String :=
  (Manifest.declaration? rs ⟨kind, some space, object⟩).bind fun r =>
    (r.body.at? [field, name]).bind Json.asString?

def fromSource? (rs : List Resource) (space name : String) (source : Json) : Option String :=
  match source.at? ["configMapRef", "name"], source.at? ["secretRef", "name"] with
  | some (.string object), none => held? rs space "ConfigMap" object "data" name
  | none, some (.string object) => held? rs space "Secret" object "stringData" name
  | _, _ => none

def fromItem? (name : String) (entry : Json) : Option Variable :=
  if entry.field? "name" = some (.string name) then
    match entry.field? "value", entry.at? ["valueFrom", "secretKeyRef", "name"],
      entry.at? ["valueFrom", "secretKeyRef", "key"] with
    | some (.string s), none, none => some (.text s)
    | none, some (.string secret), some (.string key) => some (.ofSecret secret key)
    | _, _, _ => none
  else none

def items (field : String) (container : Json) : List Json :=
  ((container.field? field).bind Json.asArray?).getD []

def sees? (rs : List Resource) (space : String) (container : Json) (name : String) :
    Option Variable :=
  ((items "env" container).reverse.findSome? (fromItem? name)).or
    (((items "envFrom" container).reverse.findSome? (fromSource? rs space name)).map .text)

def deployed (rs : List Resource) : List Json :=
  (rs.filter fun r => r.kind = "Deployment").flatMap fun r =>
    ((r.body.at? ["spec", "template", "spec", "containers"]).bind Json.asArray?).getD []

end Container

end Rollout
