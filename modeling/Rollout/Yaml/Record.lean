import Rollout.Yaml.Node

namespace Rollout.Yaml

abbrev Decoder (α : Type) := Trail → Node → Except Mismatch α

-- What a node is called where it was not expected. A scalar may also be wrong in itself.
def Node.unlike (expected : String) : Node → Cause
  | .scalar _ tag plain text =>
    match scalarValue? tag plain text with
    | some v => .kind (describe v) expected
    | none =>
      match scalarCause tag text with
      | .kind found _ => .kind found expected
      | cause => cause
  | .sequence _ _ _ => .kind "sequence" expected
  | .mapping _ _ _ => .kind "map" expected

def unlike {α : Type} (expected : String) (trail : Trail) (node : Node) : Except Mismatch α :=
  .error ⟨trail, node.place, node.unlike expected⟩

def text : Decoder String
  | _, .scalar _ _ _ text => .ok text
  | trail, node => unlike "a string" trail node

def itemsFrom {α : Type} (item : Decoder α) (trail : Trail) :
    Nat → List Node → Except Mismatch (List α)
  | _, [] => .ok []
  | n, v :: rest => do .ok ((← item (.item n :: trail) v) :: (← itemsFrom item trail (n + 1) rest))

def list {α : Type} (item : Decoder α) : Decoder (List α)
  | trail, .sequence _ _ items => itemsFrom item trail 0 items
  | trail, .scalar place tag plain text =>
    if plain && text.isEmpty then .ok []
    else unlike "a sequence" trail (.scalar place tag plain text)
  | trail, node => unlike "a sequence" trail node

structure Field (α : Type) where
  name : String
  optional : Bool
  trailing : Bool
  -- Puts the node into the record; the record has its own trail and place.
  put : Trail → Place → Step → Node → α → Except Mismatch α

def Field.of {α β : Type} (name : String) (optional : Bool) (decoder : Decoder β)
    (put : β → α → α) : Field α :=
  ⟨name, optional, optional, fun trail _ step node a => do
    .ok (put (← decoder (step :: trail) node) a)⟩

def Field.optionalText {α : Type} (name : String) (put : String → α → α) : Field α where
  name := name
  optional := true
  trailing := false
  put := fun trail place step node a =>
    match node with
    | .scalar _ tag true text =>
      if tag = some (coreTag "null") then
        if isNullWord text then .ok a
        else .error ⟨trail, place, .value (describeText text) "null"⟩
      else if tag.isNone && (text.isEmpty || isNullWord text) then .ok a
      else .ok (put text a)
    | node => do .ok (put (← Yaml.text (step :: trail) node) a)

def elements (n : Nat) : String := if n = 1 then "1 element" else s!"{n} elements"

-- The fields of a record written in order, from the field number `n` on.
def putItems {α : Type} (name : String) (count : Nat) (trail : Trail) (place : Place) :
    Nat → List (Field α) → List Node → α → Except Mismatch α
  | n, [], rest, a =>
    if rest.isEmpty then .ok a
    else .error ⟨trail, place, .length (n + rest.length) ("sequence of " ++ elements n)⟩
  | n, f :: fields, [], a =>
    if f.trailing then putItems name count trail place n fields [] a
    else .error ⟨trail, place, .length n (s!"struct {name} with " ++ elements count)⟩
  | n, f :: fields, v :: rest, a => do
    putItems name count trail place (n + 1) fields rest (← f.put trail place (.item n) v a)

-- The entries of a record written as a mapping; `seen` are the fields that were there before.
def putEntries {α : Type} (fields : List (Field α)) (trail : Trail) (place : Place) :
    List String → List (Node × Node) → α → Except Mismatch α
  | seen, [], a =>
    match fields.find? fun f => !f.optional && !seen.contains f.name with
    | some f => .error ⟨trail, place, .missing f.name⟩
    | none => .ok a
  | seen, (.scalar _ _ _ key, v) :: rest, a =>
    match fields.find? (·.name = key) with
    | some f =>
      if seen.contains key then .error ⟨trail, place, .repeated key⟩
      else do putEntries fields trail place (key :: seen) rest (← f.put trail place (.field key) v a)
    | none => putEntries fields trail place seen rest a
  | _, (key, _) :: _, _ => unlike "field identifier" trail key

def record {α : Type} (name : String) (fields : List (Field α)) (blank : α) : Decoder α
  | trail, .sequence place _ items => putItems name fields.length trail place 0 fields items blank
  | trail, .mapping place _ entries => putEntries fields trail place [] entries blank
  | trail, .scalar place tag plain text =>
    if plain && text.isEmpty then putEntries fields trail place [] [] blank
    else unlike ("struct " ++ name) trail (.scalar place tag plain text)

end Rollout.Yaml
