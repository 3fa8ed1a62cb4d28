import Rollout.Error
import Rollout.Json

namespace Rollout

inductive RunState where
  | idle
  | working (stage : Stage)
  | done
  | failed (stage : Stage) (cause : RemoteError)
  deriving DecidableEq, Repr

def RemoteError.toJson : RemoteError → Json
  | .timeout after => .object [("kind", .string "timeout"), ("after", .string after)]
  | .remote message => .object [("kind", .string "remote"), ("message", .string message)]
  | .rejected resource message =>
    .object [("kind", .string "rejected"), ("resource", .string resource),
      ("message", .string message)]
  | .cancelled => .object [("kind", .string "cancelled")]

def fieldText (name : String) (record : Json) : String :=
  ((record.field? name).bind Json.asString?).getD ""

-- A record of a kind that is not known counts with its message.
def RemoteError.ofJson (record : Json) : RemoteError :=
  match fieldText "kind" record with
  | "timeout" => .timeout (fieldText "after" record)
  | "rejected" => .rejected (fieldText "resource" record) (fieldText "message" record)
  | "cancelled" => .cancelled
  | _ => .remote (fieldText "message" record)

namespace RunState

def isTerminal : RunState → Bool
  | .done => true
  | .failed _ _ => true
  | _ => false

def stage? : RunState → Option Stage
  | .working stage => some stage
  | .failed stage _ => some stage
  | _ => none

def mayEnter : RunState → RunState → Bool
  | .idle, .working .resolving => true
  | .working .resolving, .working .building => true
  | .working .resolving, .working .applying => true
  | .working .building, .working .pushing => true
  | .working .pushing, .working .applying => true
  | .working .applying, .done => true
  | here, .failed stage _ => here.stage? == some stage
  | _, _ => false

def label : RunState → String
  | .idle => "Idle"
  | .working stage => stage.name
  | .done => "Done"
  | .failed stage _ => "Failed(" ++ stage.name ++ ")"

def render : RunState → String
  | .failed stage cause => "Failed(" ++ stage.name ++ ", " ++ cause.message ++ ")"
  | state => state.label

def jsonFields : RunState → List (String × Json)
  | .idle => [("state", .string "idle")]
  | .working stage => [("state", .string stage.key)]
  | .done => [("state", .string "done")]
  | .failed stage cause =>
    [("state", .string "failed"), ("stage", .string stage.key), ("cause", cause.toJson)]

def toJson (state : RunState) : Json := .object state.jsonFields

def ofJson? (record : Json) : Option RunState :=
  match fieldText "state" record with
  | "idle" => some .idle
  | "done" => some .done
  | "failed" => do
    let stage ← Stage.ofKey? (fieldText "stage" record)
    some (.failed stage (RemoteError.ofJson (← record.field? "cause")))
  | key => (Stage.ofKey? key).map .working

end RunState

end Rollout
