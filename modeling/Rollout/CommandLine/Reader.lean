import Rollout.CommandLine

namespace Rollout.CommandLine

-- Where a value comes from; the command line counts more.
inductive Origin where
  | variable
  | words
  deriving DecidableEq, Repr

structure Given where
  item : Item
  origin : Origin
  values : List String
  deriving DecidableEq, Repr

def given? (item : Item) (found : List Given) : Option Given := found.find? (·.item = item)

structure Draft where
  found : List Given
  -- An item that has not been settled, with the value it has got.
  waiting : Option (Item × Arity × Option String)
  -- Two dashes were met, so no further word is an option.
  closed : Bool
  argumentMet : Bool

namespace Draft

def start : Draft := ⟨[], none, false, false⟩

-- The next word is a value whatever it looks like, unless it looks like an option.
def wantsValue (d : Draft) : Bool :=
  match d.waiting with
  | some (_, _, none) => true
  | _ => false

def record (d : Draft) (item : Item) (arity : Arity) (origin : Origin) (values : List String) :
    Except UsageError Draft := do
  let values := if arity = .list then
      values.flatMap fun v => (Text.splitChar ',' v.toList).map String.ofList
    else values
  if arity ≠ .list && (given? item d.found).isSome then throw .givenTwice
  values.forM item.check
  let before := ((given? item d.found).map Given.values).getD []
  pure { d with found := d.found.filter (·.item ≠ item) ++ [⟨item, origin, before ++ values⟩] }

def settle (d : Draft) : Except UsageError Draft :=
  match d.waiting with
  | none => .ok d
  | some (item, arity, value) =>
    let d := { d with waiting := none }
    match value with
    | some value => d.record item arity .words [value]
    | none => .error .invalidValue

def add (d : Draft) (spec : OptionSpec) (values : List String) : Except UsageError Draft := do
  (← d.settle).record spec.item spec.arity .words values

def await (d : Draft) (spec : OptionSpec) : Except UsageError Draft := do
  pure { (← d.settle) with waiting := some (spec.item, spec.arity, none) }

def ask {α : Type} (d : Draft) (answer : UsageError) : Except UsageError α := do
  let _ ← d.settle
  throw answer

end Draft

def longOption (level : Level) (d : Draft) (word : List Char) : Except UsageError Draft :=
  let (name, value) := match Text.splitFirst '=' word with
    | some (name, value) => (String.ofList name, some (String.ofList value))
    | none => (String.ofList word, none)
  let switch (asked : Except UsageError Draft) : Except UsageError Draft :=
    if value.isSome then .error .excessValue else asked
  if name = "help" then switch (d.ask .help)
  else if name = "version" then switch (d.ask .version)
  else match level.options.find? (·.long = name) with
    | none => .error .unknownArgument
    | some spec =>
      if spec.arity = .switch then switch (d.add spec [])
      else match value with
        | some value => d.add spec [value]
        | none => d.await spec

-- Options of one letter each, of which the last may be followed by its value.
def shortOptions (level : Level) : Draft → List Char → Except UsageError Draft
  | d, [] => .ok d
  | d, c :: rest =>
    if c = 'h' then d.ask .help
    else if c = 'V' then d.ask .version
    else match level.options.find? (·.short = some c) with
      | none => .error .unknownArgument
      | some spec =>
        if spec.arity = .switch then do shortOptions level (← d.add spec []) rest
        else match rest with
          | [] => d.await spec
          | '=' :: value => d.add spec [String.ofList value]
          | value => d.add spec [String.ofList value]

def argument (level : Level) (d : Draft) (word : String) : Except UsageError Draft :=
  if level.takesArgument && !d.argumentMet then do
    pure { (← d.settle) with waiting := some (.plaintext, .single, some word), argumentMet := true }
  else if level.commands.isEmpty then .error .unknownArgument
  else if d.closed && ((level.commands.lookup word).isSome || word = "help") then
    .error .unknownArgument
  else .error .unknownCommand

def word (level : Level) (d : Draft) (w : String) : Except UsageError Draft :=
  if d.closed then argument level d w
  else match w.toList with
    | ['-', '-'] => .ok { d with closed := true }
    | '-' :: '-' :: name => longOption level d name
    | '-' :: c :: rest => shortOptions level d (c :: rest)
    | _ =>
      match d.waiting with
      | some (item, arity, none) => .ok { d with waiting := some (item, arity, some w) }
      | _ => argument level d w

def helpFor (level : Level) : List String → UsageError
  | [] => .help
  | w :: rest =>
    if level.commands.isEmpty then .unknownCommand
    else if w = "help" then (if rest.isEmpty then .help else .unknownCommand)
    else match level.commands.lookup w with
      | some level => helpFor level rest
      | none => .unknownCommand

def addVariables (vars : List (String × String)) (d : Draft) :
    List OptionSpec → Except UsageError Draft
  | [] => .ok d
  | spec :: rest =>
    match spec.variableName.bind fun name => vars.lookup name with
    | some value =>
      if (given? spec.item d.found).isSome then addVariables vars d rest
      else do addVariables vars (← d.record spec.item spec.arity .variable [value]) rest
    | none => addVariables vars d rest

abbrev Reading := List (Level × List Given)

def close (vars : List (String × String)) (level : Level) (d : Draft) (below : Reading) :
    Except UsageError Reading := do
  let d ← addVariables vars (← d.settle) level.options
  if below.isEmpty && !level.commands.isEmpty then
    throw (if d.found.isEmpty then .helpForMissing else .missingCommand)
  if level.takesArgument && (given? .plaintext d.found).isNone then throw .missingArgument
  pure ((level, d.found) :: below)

def read (vars : List (String × String)) : Level → Draft → List String →
    Except UsageError Reading
  | level, d, [] => close vars level d []
  | level, d, w :: rest =>
    if d.closed || d.wantsValue then do read vars level (← word level d w) rest
    else if w = "help" && !level.commands.isEmpty then .error (helpFor level rest)
    else match level.commands.lookup w with
      | some below => do close vars level d (← read vars below Draft.start rest)
      | none => do read vars level (← word level d w) rest

-- The item as the levels give it: a deeper level counts unless the words of a higher one stand
-- against its variable.
def settled? (reading : Reading) (item : Item) : Option Given :=
  reading.foldl (fun above (_, found) =>
    match above, given? item found with
    | some a, some b => if a.origin = .words && b.origin = .variable then some a else some b
    | none, b => b
    | a, none => a) none

def value? (reading : Reading) (item : Item) : Option String :=
  (settled? reading item).bind fun g => g.values.head?

def isSet (reading : Reading) (item : Item) : Bool := (settled? reading item).isSome

def runOptionsOf (reading : Reading) (skipBuild : Bool) : RunOptions :=
  let default := RunOptions.default
  let limit (item : Item) (default : Duration) : Duration :=
    ((value? reading item).bind Duration.parse?).getD default
  { tag := value? reading .tag
    skipBuild := skipBuild
    buildTimeout := limit .buildTimeout default.buildTimeout
    pushTimeout := limit .pushTimeout default.pushTimeout
    applyTimeout := limit .applyTimeout default.applyTimeout
    concurrency := ((value? reading .concurrency).bind readCount?).getD default.concurrency
    root := none }

-- The command of the deepest level; a level that divides further is never the deepest.
def commandOf? (reading : Reading) : Option Command :=
  match (reading.getLast?).map Prod.fst with
  | some .validate => some .validate
  | some .show => some .show
  | some .manifest => some (.manifest (value? reading .tag))
  | some .deploy => some (.deploy (runOptionsOf reading (isSet reading .skipBuild)))
  | some .apply => some (.apply (runOptionsOf reading true))
  | some .describe => some .describe
  | some .kubeconfig => some .kubeconfig
  | some .encrypt => some (.encrypt ((value? reading .plaintext).getD "") (value? reading .out))
  | some .keys => some .keys
  | _ => none

def ofReading (reading : Reading) : Except UsageError CommandLine :=
  match commandOf? reading with
  | none => .error .missingCommand
  | some command =>
    .ok {
      config := ((settled? reading .config).map Given.values).getD []
      environment := value? reading .environment
      credentials := value? reading .credentials
      keyPath := value? reading .keyPath
      strict := isSet reading .strict
      verbose := isSet reading .verbose
      output := ((value? reading .output).bind readFormat?).getD .text
      logFormat := ((value? reading .logFormat).bind readFormat?).getD .text
      command := command }

def parse (vars : List (String × String)) (words : List String) :
    Except UsageError CommandLine := do
  ofReading (← read vars .program Draft.start words)

end Rollout.CommandLine
