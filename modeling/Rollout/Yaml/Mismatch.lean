import Rollout.Text.Quoted
import Rollout.Yaml.Place
import Rollout.Yaml.Scalar

namespace Rollout.Yaml

inductive Step where
  | field (name : String)
  | unnamed
  | item (n : Nat)
  deriving DecidableEq, Repr

abbrev Trail := List Step

namespace Trail

def text : Trail → String
  | [] => ""
  | .item n :: above => text above ++ s!"[{n}]"
  | .field name :: above => below above ++ name
  | .unnamed :: above => below above ++ "?"
where
  below (above : Trail) : String :=
    if above.isEmpty then "" else text above ++ "."

end Trail

inductive Cause where
  -- Something of one kind where another was expected.
  | kind (found expected : String)
  | value (found expected : String)
  | length (n : Nat) (expected : String)
  | missing (field : String)
  | repeated (field : String)
  | repeatedKey (key : String)
  | nesting
  deriving DecidableEq, Repr

def Cause.message : Cause → String
  | .kind found expected => s!"invalid type: {found}, expected {expected}"
  | .value found expected => s!"invalid value: {found}, expected {expected}"
  | .length n expected => s!"invalid length {n}, expected {expected}"
  | .missing field => s!"missing field \x60{field}\x60"
  | .repeated field => s!"duplicate field \x60{field}\x60"
  | .repeatedKey key => "duplicate entry " ++ key
  | .nesting => "recursion limit exceeded"

structure Mismatch where
  trail : Trail
  place : Place
  cause : Cause
  deriving DecidableEq, Repr

-- The way to the node, unless it is the whole document or the fault is one of the text, then what
-- is wrong and where.
def Mismatch.message (m : Mismatch) : String :=
  (if m.trail.isEmpty || m.cause = .nesting then "" else m.trail.text ++ ": ") ++
    m.cause.message ++ m.place.suffix

def describeText (s : String) : String := "string " ++ Text.quoted s

def describeFloat (x : Binary64) : String :=
  let digits := match x with
    | .infinite false => "inf"
    | .infinite true => "-inf"
    | .notANumber => "NaN"
    | x => (x.render? Binary64.positional).getD "NaN"
  s!"floating point \x60{digits}\x60"

-- An integer that fits 128 bits but not 64 is called by the type that holds it.
def describeInt (i : Int) : String :=
  if fitsWord 64 i then s!"integer \x60{i}\x60"
  else if i < 0 then s!"integer \x60{i}\x60 as i128"
  else s!"integer \x60{i}\x60 as u128"

def describe : Yaml → String
  | .null => "unit value"
  | .bool b => s!"boolean \x60{b}\x60"
  | .int i => describeInt i
  | .float x => describeFloat x
  | .string s => describeText s
  | .sequence _ => "sequence"
  | .mapping _ => "map"
  | .tagged _ v => describe v

def describeKey : Yaml → String
  | .null => "with null key"
  | .bool b => s!"with key \x60{b}\x60"
  | .int i => s!"with key {i}"
  | .float x => "with key " ++ renderFloat x
  | .string s => "with key " ++ Text.quoted s
  | _ => "in YAML map"

def scalarCause (tag : Option String) (text : String) : Cause :=
  let wanted :=
    if tag = some (coreTag "bool") then some "a boolean"
    else if tag = some (coreTag "int") then some "an integer"
    else if tag = some (coreTag "float") then some "a float"
    else if tag = some (coreTag "null") then some "null"
    else none
  match integer? text, wanted with
  | some i, none => .kind (describeInt i) "any YAML value"
  | some i, some "an integer" => .kind (describeInt i) "any YAML value"
  | _, wanted => .value (describeText text) (wanted.getD "any YAML value")

end Rollout.Yaml
