import Rollout.Definition
import Rollout.Json.Writer
import Rollout.Provider
import Rollout.Run.Report
import Rollout.Text.Table
import Rollout.Yaml.Writer

namespace Rollout

inductive OutputFormat where
  | text
  | json
  deriving DecidableEq, Repr

inductive Paint where
  | red
  | green
  | yellow
  | bold
  | dimmed
  deriving DecidableEq, Repr

def Paint.code : Paint → String
  | .red => "31"
  | .green => "32"
  | .yellow => "33"
  | .bold => "1"
  | .dimmed => "2"

structure Output where
  format : OutputFormat
  color : Bool
  deriving DecidableEq, Repr

namespace Output

-- Words are set off if the output is a terminal, unless variables forbid it or ask for it.
def wantsColor (vars : List (String × String)) (terminal : Bool) : Bool :=
  let asks (name : String) : Option Bool := (vars.lookup name).map (· ≠ "0")
  if asks "CLICOLOR_FORCE" = some true then true
  else if (asks "NO_COLOR").isSome then false
  else (asks "CLICOLOR").getD true && terminal

def paint (out : Output) (p : Paint) (s : String) : String :=
  if out.color then "\x1b[" ++ p.code ++ "m" ++ s ++ "\x1b[0m" else s

def check (out : Output) : String := out.paint .green "✓"
def cross (out : Output) : String := out.paint .red "✗"
def warn (out : Output) : String := out.paint .yellow "⚠"

def message (out : Output) (status symbol text : String) : String :=
  match out.format with
  | .json => (Json.object [("message", .string text), ("status", .string status)]).renderPretty
  | .text => symbol ++ " " ++ text

def success (out : Output) (text : String) : String := out.message "success" out.check text
def error (out : Output) (text : String) : String := out.message "error" out.cross text
def warning (out : Output) (text : String) : String := out.message "warning" out.warn text

def orDash (value : Option String) : String := value.getD "-"

def texts (xs : List String) : Json := .array (xs.map Json.string)

def validation (out : Output) (env : Environment) (warnings : List String) : String :=
  let provider := orDash (env.kubernetes.provider?.map Prod.fst)
  let plugins := Declared.names env.kubernetes.plugins
  match out.format with
  | .json =>
    (Json.object [("environment", .string env.name), ("plugins", texts plugins),
      ("provider", .string provider), ("valid", .bool true), ("warnings", texts warnings)]).renderPretty
  | .text =>
    let listed := if plugins.isEmpty then "-" else ", ".intercalate plugins
    let notes := if warnings.isEmpty then ""
      else "\n" ++ out.warn ++ " Warnings:\n" ++ String.join (warnings.map fun w => "   - " ++ w ++ "\n")
    out.check ++ s!" Environment '{env.name}' is valid\n\n" ++ s!"   App: {env.app}\n" ++
      s!"   Namespace: {env.namespaceOf}\n" ++ s!"   Image: {env.docker.image.render}\n" ++
      s!"   Provider: {provider}\n" ++ s!"   Plugins: {listed}\n" ++ notes

def environment (out : Output) (env : Environment) : String :=
  match out.format with
  | .json => env.toJson.renderPretty
  | .text => Yaml.render env.toJson

def clusterJson (c : ClusterInfo) : Json :=
  .object [("id", .string c.id), ("name", .string c.name), ("region", optional c.region),
    ("version", optional c.version), ("endpoint", optional c.endpoint)]

def cluster (out : Output) (c : ClusterInfo) : String :=
  match out.format with
  | .json => (clusterJson c).renderPretty
  | .text =>
    Text.Table.render [["Field", "Value"], ["ID", c.id], ["Name", c.name], ["Region", orDash c.region],
      ["Version", orDash c.version], ["Endpoint", orDash c.endpoint]] ++ "\n"

def keys (out : Output) (names : List String) : String :=
  match out.format with
  | .json => (texts names).renderPretty
  | .text =>
    if names.isEmpty then "No credentials stored.\n" else String.join (names.map fun n => n ++ "\n")

def status (out : Output) (report : RunReport) : String :=
  match report.state with
  | .done => out.check ++ s!" Deployed '{report.environment}'"
  | .failed stage cause => out.cross ++ " " ++ out.paint .bold stage.name ++ " failed: " ++ cause.message
  | state => out.warn ++ " Run stopped in " ++ state.render

def shortened (count : Nat) (s : String) : String :=
  if s.utf8ByteSize ≤ count then s else String.ofList (s.toList.take count) ++ "..."

def noted (label : String) (value : Option String) : String :=
  match value with
  | some v => s!"   {label}: {v}\n"
  | none => ""

def outcome (out : Output) (o : ApplyOutcome) : String :=
  match o with
  | .applied => out.paint .green o.name
  | .unchanged => out.paint .dimmed o.name

def transitionTable (report : RunReport) : String :=
  Text.Table.render (["State", "At"] ::
    report.transitions.map fun t => [t.state.label, t.moment.timeText])

def resourceTable (out : Output) (report : RunReport) : String :=
  Text.Table.render (["#", "Resource", "Outcome"] ::
    report.applied.mapIdx fun i (key, o) => [toString (i + 1), key.render, out.outcome o])

def reportText (out : Output) (report : RunReport) : String :=
  let resources := if report.applied.isEmpty then "" else "\n" ++ out.resourceTable report ++ "\n"
  "\n" ++ out.status report ++ "\n\n" ++ s!"   Run: {report.runId}\n" ++ noted "Image" report.image ++
    noted "Digest" report.digest ++ noted "Manifest" (report.manifestDigest.map (shortened 12)) ++
    noted "Duration" (report.millis?.map secondsText) ++ "\n" ++ transitionTable report ++ "\n" ++
    resources ++ "\nResources: " ++ out.paint .green (toString (report.count .applied)) ++ " applied, " ++
    out.paint .dimmed (toString (report.count .unchanged)) ++ " unchanged\n"

def report (out : Output) (r : RunReport) : String :=
  match out.format with
  | .json => r.toJson.renderPretty
  | .text => out.reportText r

end Output

end Rollout
