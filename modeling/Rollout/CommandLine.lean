import Rollout.Duration.Reader
import Rollout.Output
import Rollout.Run

namespace Rollout

inductive Command where
  | validate
  | show
  | manifest (tag : Option String)
  | deploy (options : RunOptions)
  | apply (options : RunOptions)
  | describe
  | kubeconfig
  | encrypt (plaintext : String) (out : Option String)
  | keys
  deriving DecidableEq, Repr

structure CommandLine where
  config : List String
  environment : Option String
  credentials : Option String
  keyPath : Option String
  strict : Bool
  verbose : Bool
  output : OutputFormat
  logFormat : OutputFormat
  command : Command
  deriving DecidableEq, Repr

inductive UsageError where
  | help
  | version
  | helpForMissing
  | missingCommand
  | unknownCommand
  | unknownArgument
  -- A value is missing or not among those that are possible.
  | invalidValue
  | malformedValue
  | givenTwice
  | missingArgument
  | excessValue
  deriving DecidableEq, Repr

def UsageError.exitCode : UsageError → Nat
  | .help => 0
  | .version => 0
  | _ => 2

namespace CommandLine

inductive Item where
  | config
  | environment
  | credentials
  | keyPath
  | strict
  | verbose
  | output
  | logFormat
  | tag
  | concurrency
  | buildTimeout
  | pushTimeout
  | applyTimeout
  | skipBuild
  | plaintext
  | out
  deriving DecidableEq, Repr

inductive Arity where
  | switch
  | single
  -- Any number of times, each time a list that commas divide.
  | list
  deriving DecidableEq, Repr

structure OptionSpec where
  item : Item
  long : String
  short : Option Char
  arity : Arity
  variableName : Option String

def sharedOptions : List OptionSpec := [
  ⟨.config, "config", some 'c', .list, some "BERTH_CONFIG"⟩,
  ⟨.environment, "environment", some 'e', .single, some "BERTH_ENV"⟩,
  ⟨.credentials, "credentials", none, .single, some "BERTH_CREDENTIALS"⟩,
  ⟨.keyPath, "key-path", none, .single, some "BERTH_KEY_PATH"⟩,
  ⟨.strict, "strict-credentials", none, .switch, none⟩,
  ⟨.verbose, "verbose", some 'v', .switch, none⟩,
  ⟨.output, "output", none, .single, none⟩,
  ⟨.logFormat, "log-format", none, .single, none⟩]

def tagOption : OptionSpec := ⟨.tag, "tag", none, .single, none⟩

def runOptions : List OptionSpec := [
  tagOption,
  ⟨.concurrency, "concurrency", none, .single, none⟩,
  ⟨.buildTimeout, "build-timeout", none, .single, none⟩,
  ⟨.pushTimeout, "push-timeout", none, .single, none⟩,
  ⟨.applyTimeout, "apply-timeout", none, .single, none⟩]

inductive Level where
  | program
  | validate
  | show
  | manifest
  | deploy
  | apply
  | remote
  | describe
  | kubeconfig
  | credentials
  | encrypt
  | keys
  deriving DecidableEq, Repr

namespace Level

def commands : Level → List (String × Level)
  | .program => [("validate", .validate), ("show", .show), ("manifest", .manifest),
      ("deploy", .deploy), ("apply", .apply), ("remote", .remote), ("credentials", .credentials)]
  | .remote => [("describe", .describe), ("kubeconfig", .kubeconfig)]
  | .credentials => [("encrypt", .encrypt), ("keys", .keys), ("show-keys", .keys)]
  | _ => []

def ownOptions : Level → List OptionSpec
  | .manifest => [tagOption]
  | .deploy => runOptions ++ [⟨.skipBuild, "skip-build", none, .switch, none⟩]
  | .apply => runOptions
  | .encrypt => [⟨.out, "out", none, .single, none⟩]
  | _ => []

def options (level : Level) : List OptionSpec := level.ownOptions ++ sharedOptions

def takesArgument (level : Level) : Bool := level = .encrypt

end Level

def readFormat? (value : String) : Option OutputFormat :=
  if value = "text" then some .text else if value = "json" then some .json else none

def readCount? (value : String) : Option Nat :=
  let digits := match value.toList with
    | '+' :: rest => rest
    | cs => cs
  let n := Text.digitsValue digits
  if !digits.isEmpty && digits.all Text.isDigit && fitsUnsigned 64 n then some n else none

def Item.check (item : Item) (value : String) : Except UsageError Unit :=
  let possible (b : Bool) : Except UsageError Unit := if b then .ok () else .error .invalidValue
  let readable (b : Bool) : Except UsageError Unit := if b then .ok () else .error .malformedValue
  match item with
  | .config | .credentials | .keyPath | .plaintext | .out => possible !value.isEmpty
  | .output | .logFormat => possible (readFormat? value).isSome
  | .concurrency => readable (readCount? value).isSome
  | .buildTimeout | .pushTimeout | .applyTimeout => readable (Duration.parse? value).isSome
  | .environment | .strict | .verbose | .tag | .skipBuild => .ok ()

end CommandLine

end Rollout
