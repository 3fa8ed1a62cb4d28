import Rollout.CommandLine

namespace Rollout

namespace CommandLine

def programName : String := "berth"
def programVersion : String := "0.1.0"

def Level.about : Level → String
  | .program => "Declarative deployments to Kubernetes."
  | .validate => "Evaluate the definition and validate provider and plugin settings"
  | .show => "Print the evaluated environment with secrets redacted"
  | .manifest => "Print the rendered manifest without applying anything"
  | .deploy => "Build, push and apply"
  | .apply => "Apply the manifest without building"
  | .remote => "Cluster provider calls"
  | .describe => "Describe the target cluster"
  | .kubeconfig => "Print the kubeconfig for the target cluster"
  | .credentials => "Manage the encrypted credential store"
  | .encrypt => "Encrypt a plaintext YAML file into the store"
  | .keys => "List the keys in the store"

def OptionSpec.usage (spec : OptionSpec) : String :=
  let short := match spec.short with
    | some c => String.ofList ['-', c] ++ ", "
    | none => "    "
  let value := if spec.arity = .switch then "" else s!" <{spec.long.toUpper}>"
  short ++ "--" ++ spec.long ++ value

def listed (title : String) (rows : List (String × String)) : String :=
  let width := rows.foldl (fun w row => max w row.1.length) 0
  if rows.isEmpty then ""
  else
    "\n" ++ title ++ "\n" ++ String.join (rows.map fun (left, right) =>
      let gap := String.ofList (List.replicate (width + 2 - left.length) ' ')
      (if right.isEmpty then "  " ++ left else "  " ++ left ++ gap ++ right) ++ "\n")

def helpText : String :=
  Level.about .program ++ "\n\nUsage: " ++ programName ++ " [OPTIONS] <COMMAND>\n" ++
    listed "Commands:" (Level.program.commands.flatMap fun (name, level) =>
      (name, level.about) :: level.commands.map fun (below, inner) =>
        (name ++ " " ++ below, inner.about)) ++
    listed "Options:" ((sharedOptions.map fun spec => (spec.usage, "")) ++
      [("-h, --help", ""), ("-V, --version", "")])

end CommandLine

open CommandLine in
def UsageError.message (e : UsageError) : String :=
  let wrong (what : String) : String :=
    "error: " ++ what ++ "\n\nUsage: " ++ programName ++
      " [OPTIONS] <COMMAND>\n\nFor more information, try '--help'.\n"
  match e with
  | .help | .helpForMissing => helpText
  | .version => programName ++ " " ++ programVersion ++ "\n"
  | .missingCommand => wrong "a subcommand is required but one was not provided"
  | .unknownCommand => wrong "unrecognized subcommand"
  | .unknownArgument => wrong "unexpected argument found"
  | .invalidValue => wrong "a value is missing or not one of the possible values"
  | .malformedValue => wrong "invalid value for an argument"
  | .givenTwice => wrong "an argument cannot be used multiple times"
  | .missingArgument => wrong "a required argument was not provided"
  | .excessValue => wrong "unexpected value for a switch"

end Rollout
