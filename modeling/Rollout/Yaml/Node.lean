import Rollout.Yaml.Mismatch

namespace Rollout.Yaml

inductive Node where
  | scalar (place : Place) (tag : Option String) (plain : Bool) (text : String)
  | sequence (place : Place) (tag : Option String) (items : List Node)
  | mapping (place : Place) (tag : Option String) (entries : List (Node × Node))

-- A tag of the document's own stays with the value; a bare mark counts as its own name.
def ownTag? (tag : Option String) : Option String :=
  match tag with
  | some t =>
    match t.toList with
    | ['!'] => some "!"
    | '!' :: rest => some (String.ofList rest)
    | _ => none
  | none => none

def withTag (tag : Option String) (v : Yaml) : Yaml :=
  match ownTag? tag with
  | some t => .tagged t v
  | none => v

def scalarValue? (tag : Option String) (plain : Bool) (text : String) : Option Yaml :=
  if tag = some "!" then ofScalar none plain text
  else match ownTag? tag with
    | some t => (ofScalar none plain text).map (.tagged t)
    | none => ofScalar tag plain text

def repeatedKey? : List Yaml → Option Yaml
  | keys => go [] keys
where
  go (seen : List Yaml) : List Yaml → Option Yaml
    | [] => none
    | k :: rest => if seen.any (same k) then some k else go (k :: seen) rest

def depthLimit : Nat := 128

namespace Node

def empty (place : Place) : Node := .scalar place none true ""

def place : Node → Place
  | .scalar p _ _ _ => p
  | .sequence p _ _ => p
  | .mapping p _ _ => p

def step : Node → Step
  | .scalar _ _ _ text => .field text
  | _ => .unnamed

mutual
-- The value of a node, if collections are nested at most `depth` deep, the keys of each mapping
-- differ and every scalar fits its tag.
def valueWithin (depth : Nat) (trail : Trail) : Node → Except Mismatch Yaml
  | .scalar place tag plain text =>
    match scalarValue? tag plain text with
    | some v => .ok v
    | none => .error ⟨trail, place, scalarCause tag text⟩
  | .sequence place tag items =>
    if depth = 0 then .error ⟨trail, place, .nesting⟩
    else (itemsWithin (depth - 1) trail 0 items).map fun vs => withTag tag (.sequence vs)
  | .mapping place tag entries =>
    if depth = 0 then .error ⟨trail, place, .nesting⟩
    else
      (entriesWithin (depth - 1) trail entries).bind fun es =>
        match repeatedKey? (es.map Prod.fst) with
        | none => .ok (withTag tag (.mapping es))
        | some key => .error ⟨trail, place, .repeatedKey (describeKey key)⟩
def itemsWithin (depth : Nat) (trail : Trail) (n : Nat) : List Node → Except Mismatch (List Yaml)
  | [] => .ok []
  | v :: rest => do
    .ok ((← valueWithin depth (.item n :: trail) v) :: (← itemsWithin depth trail (n + 1) rest))
def entriesWithin (depth : Nat) (trail : Trail) :
    List (Node × Node) → Except Mismatch (List (Yaml × Yaml))
  | [] => .ok []
  | (k, v) :: rest => do
    .ok ((← valueWithin depth trail k, ← valueWithin depth (k.step :: trail) v) ::
      (← entriesWithin depth trail rest))
end

def value (v : Node) : Except Mismatch Yaml := valueWithin depthLimit [] v

end Node

end Rollout.Yaml
