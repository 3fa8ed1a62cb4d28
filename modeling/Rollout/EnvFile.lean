import Rollout.Host
import Rollout.Text.WordChar

namespace Rollout

namespace EnvFile

inductive Problem where
  | badLine (text : String) (position : Nat)
  | unreadable (message : String)
  deriving DecidableEq, Repr

def Problem.message : Problem → String
  | .badLine text position =>
    "Error parsing line: '" ++ text ++ s!"', error at line index: {position}"
  | .unreadable message => message

def size (cs : List Char) : Nat := (String.ofList cs).utf8ByteSize

def badLine {α : Type} (cs : List Char) (position : Nat) : Except Problem α :=
  .error (.badLine (String.ofList cs) position)

inductive Quoting where
  | bare
  | blank
  | escaped
  | single
  | singleEscaped
  | double
  | doubleEscaped
  deriving DecidableEq, Repr

def Quoting.opened (c : Char) : Quoting :=
  if c = '\\' then .escaped else if c = '\x22' then .double else if c = '\x27' then .single else .bare

def Quoting.next? (c : Char) : Quoting → Option Quoting
  | .bare =>
    if Text.isBlank c && c ≠ '\n' && c ≠ '\r' then some .blank else some (Quoting.opened c)
  | .blank => if c = '#' then none else some (Quoting.opened c)
  | .escaped => some .bare
  | .single => some (if c = '\\' then .singleEscaped else if c = '\x27' then .bare else .single)
  | .singleEscaped => some .single
  | .double => some (if c = '\\' then .doubleEscaped else if c = '\x22' then .bare else .double)
  | .doubleEscaped => some .double

-- A line up to its comment, and what stands open at its end if it has none.
def Quoting.scan : Quoting → List Char → List Char × Option Quoting
  | q, [] => ([], some q)
  | q, c :: rest =>
    match q.next? c with
    | none => ([], none)
    | some q =>
      let (kept, stop) := Quoting.scan q rest
      (c :: kept, stop)

structure Variables where
  set : List (String × String)
  named : List (String × String)

-- The value behind a dollar sign; an unknown name stands for nothing.
def Variables.value (vars : Variables) (name : List Char) : List Char :=
  let name := String.ofList name
  ((vars.set.lookup name).getD ((vars.named.lookup name).getD "")).toList

inductive Mode where
  | bare
  | single
  | double
  | ended
  deriving DecidableEq, Repr

structure Draft where
  mode : Mode
  escaped : Bool
  name : Option (Bool × List Char)
  text : List Char

namespace Draft

def start : Draft := ⟨.bare, false, none, []⟩

def push (d : Draft) (c : Char) : Draft := { d with text := d.text ++ [c] }

def escape? (d : Draft) (c : Char) : Option Draft :=
  let d := { d with escaped := false }
  if c = '\\' || c = '\x27' || c = '\x22' || c = '$' || c = ' ' then some (d.push c)
  else if c = 'n' then some (d.push '\n')
  else none

def inName (vars : Variables) (d : Draft) (braced : Bool) (name : List Char) (c : Char) : Draft :=
  let ended := { d with name := none, text := d.text ++ vars.value name }
  if Text.isWordChar c then { d with name := some (braced, name ++ [c]) }
  else if braced then
    if c = '\x7d' then ended else { d with name := some (true, name ++ [c]) }
  else if c = '\x7b' && name.isEmpty then { d with name := some (true, []) }
  else if c = '$' then { ended with name := some (false, []) }
  else ended.push c

-- The draft behind a character outside names and single quotes.
def plain (d : Draft) (c : Char) : Draft :=
  if c = '$' then { d with name := some (false, []) }
  else if c = '\\' then { d with escaped := true }
  else if d.mode = .double then
    if c = '\x22' then { d with mode := .bare } else d.push c
  else if c = '\x27' then { d with mode := .single }
  else if c = '\x22' then { d with mode := .double }
  else if c = ' ' || c = '\t' then { d with mode := .ended }
  else d.push c

def next? (vars : Variables) (d : Draft) (c : Char) : Option Draft :=
  if d.mode = .ended then (if c = ' ' || c = '\t' then some d else none)
  else if d.escaped then d.escape? c
  else if d.mode = .single then
    some (if c = '\x27' then { d with mode := .bare } else d.push c)
  else match d.name with
    | some (braced, name) => some (d.inName vars braced name c)
    | none => some (d.plain c)

def finish? (vars : Variables) (d : Draft) : Option (List Char) :=
  if d.mode = .single || d.mode = .double then none
  else match d.name with
    | some (true, _) => none
    | some (false, name) => some (d.text ++ vars.value name)
    | none => some d.text

def read (vars : Variables) (whole : List Char) : Nat → Draft → List Char → Except Problem (List Char)
  | _, d, [] =>
    match d.finish? vars with
    | some value => .ok value
    | none => badLine whole (size whole - 1)
  | position, d, c :: rest =>
    if d.mode = .ended && c = '#' then .ok d.text
    else match d.next? vars c with
      | some d => read vars whole (position + 1) d rest
      | none => badLine whole position

end Draft

def isNameStart (c : Char) : Bool := Text.isLower c || Text.isUpper c || c = '_'
def isNameChar (c : Char) : Bool := Text.isAlphanumeric c || c = '_' || c = '.'

structure Place where
  line : List Char
  position : Nat
  rest : List Char

namespace Place

def skipBlanks (p : Place) : Place :=
  let rest := Text.trimLeft p.rest
  ⟨p.line, p.position + (size p.rest - size rest), rest⟩

def fail {α : Type} (p : Place) : Except Problem α := badLine p.line p.position

def name (p : Place) : Except Problem (String × Place) :=
  if p.rest.head?.any isNameStart then
    let name := p.rest.takeWhile isNameChar
    .ok (String.ofList name,
      (⟨p.line, p.position + name.length, p.rest.dropWhile isNameChar⟩ : Place).skipBlanks)
  else p.fail

def equals (p : Place) : Except Problem Place :=
  match p.rest with
  | '=' :: rest => .ok (⟨p.line, p.position + 1, rest⟩ : Place).skipBlanks
  | _ => p.fail

def isOver (p : Place) : Bool := p.rest.isEmpty || p.rest.head? = some '#'

end Place

-- The name of an assignment and the place of its value. The word `export` may stand in front, but
-- can also be a name.
def target (p : Place) : Except Problem (String × Place) := do
  let (name, p) ← p.name
  if name = "export" && p.rest.head? ≠ some '=' then
    let (name, p) ← p.name
    pure (name, ← p.equals)
  else pure (name, ← p.equals)

def Variables.assign (vars : Variables) (line : List Char) : Except Problem Variables :=
  let p := (⟨line, 0, Text.trimRight line⟩ : Place).skipBlanks
  if p.isOver then .ok vars
  else do
    let (name, p) ← target p
    let value ← if p.isOver then pure [] else Draft.read vars p.rest 0 Draft.start p.rest
    let value := String.ofList value
    pure ⟨if (vars.set.lookup name).isSome then vars.set else Declared.put name value vars.set,
      Declared.put name value vars.named⟩

def dropLineEnd (line : List Char) : List Char :=
  match line.reverse with
  | '\n' :: '\r' :: rest => rest.reverse
  | '\n' :: rest => rest.reverse
  | _ => line

-- Takes over lines that hold their line ends; `waiting` is the begin of an assignment that goes on
-- and `q` is what stands open there. A line that is no text is an error when it is reached.
def loadLines : List Char → Quoting → Variables → List (Option (List Char)) →
    Except Problem Variables
  | waiting, q, vars, [] => if q = .bare then .ok vars else badLine waiting (size waiting)
  | _, _, _, none :: _ => .error (.unreadable "stream did not contain valid UTF-8")
  | waiting, q, vars, some line :: rest =>
    let text := waiting ++ line
    if (Text.trimLeft text).head? = some '#' then loadLines [] .bare vars rest
    else match q.scan line with
      | (kept, none) => do loadLines [] .bare (← vars.assign (waiting ++ kept)) rest
      | (_, some .bare) => do loadLines [] .bare (← vars.assign (dropLineEnd text)) rest
      | (_, some q) => loadLines text q vars rest

def splitLines : List UInt8 → List (List UInt8)
  | [] => []
  | b :: rest =>
    if b = 0x0A then [b] :: splitLines rest
    else match splitLines rest with
      | [] => [[b]]
      | line :: lines => (b :: line) :: lines

def dropMark (bytes : List UInt8) : List UInt8 :=
  match bytes with
  | 0xEF :: 0xBB :: 0xBF :: rest => rest
  | _ => bytes

def loadBytes (set : List (String × String)) (bytes : List UInt8) :
    Except Problem (List (String × String)) := do
  let lines := (splitLines (dropMark bytes)).map fun line =>
    (Utf8.decode line).toOption.map String.toList
  pure (← loadLines [] .bare ⟨set, []⟩ lines).set

end EnvFile

-- Sets the variables of the file `.env` in a directory, if there is one.
def Host.loadEnvFile (host : Host) (dir : String) : Except Error Host :=
  let path := Path.join dir ".env"
  let refuse {α : Type} (message : String) : Except Error α :=
    .error (.definition (.malformed path message))
  if host.files.present path then
    match host.files.read path with
    | .error e => refuse e.message
    | .ok bytes =>
      match EnvFile.loadBytes host.vars bytes with
      | .ok vars => .ok { host with vars }
      | .error problem => refuse problem.message
  else .ok host

end Rollout
