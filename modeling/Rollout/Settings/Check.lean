import Rollout.Error
import Rollout.Settings

namespace Rollout

-- A block under check: on whose behalf, where it lies (the dotted path in front of its fields), and
-- its entries.
structure Check where
  subject : String
  above : String
  settings : Settings

namespace Check

abbrev Found (α : Type) := Option α × List Violation

def ofSettings (subject : String) (settings : Settings) : Check := ⟨subject, "", settings⟩

def violation (check : Check) (field message : String) : Violation :=
  ⟨check.subject, check.above ++ field, message⟩

def refuse {α : Type} (check : Check) (field message : String) : Found α :=
  (none, [check.violation field message])

def value (check : Check) (field : String) (required : Bool) : Found Value :=
  match check.settings.lookup field with
  | some (.value v) => (some v, [])
  | some (.block _) => check.refuse field "expected a value, found a block"
  | none => if required then check.refuse field "is required" else (none, [])

def andThen {α β : Type} (found : Found α) (f : α → Found β) : Found β :=
  match found with
  | (some a, before) => let (b, more) := f a; (b, before ++ more)
  | (none, before) => (none, before)

def text (check : Check) (field : String) (required : Bool) : Found String :=
  andThen (check.value field required) fun v =>
    match v.text? with
    | some s => if s.isEmpty then check.refuse field "must not be empty" else (some s, [])
    | none => check.refuse field ("expected a string, found " ++ v.kind)

def int (check : Check) (field : String) (low high : Int) : Found Int :=
  andThen (check.value field false) fun v =>
    match v.int? with
    | some i =>
      if low ≤ i ∧ i ≤ high then (some i, [])
      else check.refuse field s!"{i} is out of range {low}..={high}"
    | none => check.refuse field ("expected an integer, found " ++ v.kind)

def bool (check : Check) (field : String) : Found Bool :=
  andThen (check.value field false) fun v =>
    match v.bool? with
    | some b => (some b, [])
    | none => check.refuse field ("expected a boolean, found " ++ v.kind)

def block (check : Check) (field : String) : Found Check :=
  match check.settings.lookup field with
  | some (.block entries) => (some ⟨check.subject, check.above ++ field ++ ".", entries⟩, [])
  | some (.value _) => check.refuse field "expected a block"
  | none => (none, [])

def only (check : Check) (known : List String) : List Violation :=
  (Declared.names check.settings).filterMap fun name =>
    if known.contains name then none else some (check.violation name "unknown setting")

end Check

inductive CheckStep where
  | text (field : String) (required : Bool)
  | int (field : String) (low high : Int)
  | bool (field : String)
  | block (field : String) (steps : List CheckStep)
  | note (field message : String)
  | only (known : List String)

inductive Reading where
  | text (found : Option String)
  | int (found : Option Int)
  | bool (found : Option Bool)
  | block (found : Option (List Reading))
  | done

namespace CheckStep

mutual
def run (check : Check) : CheckStep → Reading × List Violation
  | .text field required => let (s, vs) := check.text field required; (.text s, vs)
  | .int field low high => let (i, vs) := check.int field low high; (.int i, vs)
  | .bool field => let (b, vs) := check.bool field; (.bool b, vs)
  | .block field steps =>
    match check.block field with
    | (some nested, _) => let (rs, vs) := runAll nested steps; (.block (some rs), vs)
    | (none, vs) => (.block none, vs)
  | .note field message => (.done, [check.violation field message])
  | .only known => (.done, check.only known)
def runAll (check : Check) : List CheckStep → List Reading × List Violation
  | [] => ([], [])
  | step :: rest =>
    let (r, vs) := run check step
    let (rs, more) := runAll check rest
    (r :: rs, vs ++ more)
end

end CheckStep

end Rollout
