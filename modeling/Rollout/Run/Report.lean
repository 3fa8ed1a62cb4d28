import Rollout.Definition
import Rollout.Moment
import Rollout.Resource
import Rollout.Run.State

namespace Rollout

inductive ApplyOutcome where
  | applied
  | unchanged
  deriving DecidableEq, Repr

def ApplyOutcome.name : ApplyOutcome → String
  | .applied => "applied"
  | .unchanged => "unchanged"

structure Transition where
  state : RunState
  moment : Moment
  deriving DecidableEq, Repr

structure RunReport where
  runId : String
  environment : String
  state : RunState
  transitions : List Transition
  image : Option String
  digest : Option String
  manifestDigest : Option String
  applied : List (ResourceKey × ApplyOutcome)
  startedAt : Moment
  finishedAt : Option Moment
  deriving DecidableEq, Repr

namespace RunReport

def new (runId environment : String) (now : Moment) : RunReport :=
  ⟨runId, environment, .idle, [⟨.idle, now⟩], none, none, none, [], now, none⟩

def enter (report : RunReport) (state : RunState) (now : Moment) : RunReport :=
  { report with
    state := state
    transitions := report.transitions ++ [⟨state, now⟩]
    finishedAt := if state.isTerminal then some now else report.finishedAt }

def isSuccess (report : RunReport) : Bool := report.state = .done

def failure? (report : RunReport) : Option (Stage × RemoteError) :=
  match report.state with
  | .failed stage cause => some (stage, cause)
  | _ => none

def visited (report : RunReport) (state : RunState) : Bool :=
  report.transitions.any fun t => t.state = state

def count (report : RunReport) (outcome : ApplyOutcome) : Nat :=
  (report.applied.filter fun (_, o) => o = outcome).length

def millis? (report : RunReport) : Option Int :=
  report.finishedAt.map fun stop => Moment.millisBetween report.startedAt stop

def result (report : RunReport) : Except Error RunReport :=
  match report.failure? with
  | some (stage, cause) => .error (.execution stage cause)
  | none => .ok report

def toJson (report : RunReport) : Json :=
  .object [
    ("run_id", .string report.runId),
    ("environment", .string report.environment),
    ("state", report.state.toJson),
    ("transitions", .array (report.transitions.map fun t =>
      .object (t.state.jsonFields ++ [("at", .string t.moment.render)]))),
    ("image", optional report.image),
    ("digest", optional report.digest),
    ("manifest_digest", optional report.manifestDigest),
    ("applied", .array (report.applied.map fun (key, outcome) =>
      .object [("resource", .string key.render), ("outcome", .string outcome.name)])),
    ("started_at", .string report.startedAt.render),
    ("finished_at", (report.finishedAt.map fun m => Json.string m.render).getD .null)]

end RunReport

end Rollout
