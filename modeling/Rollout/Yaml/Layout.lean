import Rollout.Yaml.Token

namespace Rollout.Yaml

-- A place where a key may have begun: the number of tokens before it and its position.
structure KeyPlace where
  possible : Bool
  required : Bool
  tokens : Nat
  place : Place
  index : Nat

structure Layout where
  here : Cursor
  -- The column of the innermost block, or -1 outside of all blocks.
  indent : Int
  indents : List Int
  flow : Nat
  keyAllowed : Bool
  keys : List KeyPlace
  tokens : List (Token × Place)

structure Tokens where
  tokens : List (Token × Place)
  ending : Except Fault Place

namespace Layout

def noKey : KeyPlace := ⟨false, false, 0, ⟨0, 0⟩, 0⟩

def start (text : List Char) : Layout :=
  { here := .start text, indent := -1, indents := [], flow := 0, keyAllowed := true,
    keys := [noKey], tokens := [] }

def inFlow (s : Layout) : Bool := s.flow ≠ 0

def push (s : Layout) (t : Token) : Layout := { s with tokens := s.tokens ++ [(t, s.here.place)] }

def insertAt (s : Layout) (n : Nat) (t : Token) (place : Place) : Layout :=
  { s with tokens := s.tokens.take n ++ (t, place) :: s.tokens.drop n }

-- White space, comments and line ends before a token. A tab is no indentation.
def toNextToken : Nat → Layout → Layout
  | 0, s => s
  | n + 1, s =>
    let tabs := s.inFlow || !s.keyAllowed
    match s.here.rest with
    | c :: _ =>
      if c = '\uFEFF' && s.here.column = 0 then toNextToken n { s with here := s.here.skip }
      else if c = ' ' || (tabs && c = '\t') then toNextToken n { s with here := s.here.skip }
      else if c = '#' then toNextToken n { s with here := s.here.skipToBreak }
      else if isBreak c then
        toNextToken n
          { s with here := s.here.skipBreak, keyAllowed := s.keyAllowed || !s.inFlow }
      else s
    | [] => s

def noColon {α : Type} (s : Layout) (k : KeyPlace) : Except Fault α :=
  s.here.wrong "while scanning a simple key" k.place "could not find expected ':'"

-- Keys may not go on behind their line nor over 1024 characters.
def dropStaleKeys (s : Layout) : Except Fault Layout := do
  let keys ← s.keys.mapM fun k =>
    if k.possible && (k.place.line < s.here.place.line || k.index + 1024 < s.here.index) then
      if k.required then s.noColon k else .ok { k with possible := false }
    else .ok k
  .ok { s with keys := keys }

def removeKey (s : Layout) : Except Fault Layout :=
  match s.keys with
  | k :: keys =>
    if k.possible && k.required then s.noColon k
    else .ok { s with keys := { k with possible := false } :: keys }
  | [] => .ok s

def saveKey (s : Layout) : Except Fault Layout :=
  if s.keyAllowed then do
    let s ← s.removeKey
    let k : KeyPlace :=
      { possible := true, required := !s.inFlow && s.indent = s.here.column,
        tokens := s.tokens.length, place := s.here.place, index := s.here.index }
    .ok { s with keys := k :: s.keys.tail }
  else .ok s

-- Opens a block collection, in front of the token number `n`, if its place is deeper than the
-- present block.
def rollIndent (s : Layout) (place : Place) (n : Nat) (t : Token) : Layout :=
  if !s.inFlow && s.indent < place.column then
    { s.insertAt n t place with indent := place.column, indents := s.indent :: s.indents }
  else s

def unrollIndents (column : Int) : List Int → Layout → Layout
  | outer :: rest, s =>
    if !s.inFlow && column < s.indent then
      unrollIndents column rest { s.push .blockEnd with indent := outer, indents := rest }
    else s
  | [], s => s

def unroll (column : Int) (s : Layout) : Layout := unrollIndents column s.indents s

def single (s : Layout) (t : Token) (allowed : Bool) : Layout :=
  { s.push t with here := s.here.skip, keyAllowed := allowed }

def flowStart (s : Layout) (t : Token) : Except Fault Layout := do
  let s ← s.saveKey
  .ok { s.single t true with keys := noKey :: s.keys, flow := s.flow + 1 }

def flowEnd (s : Layout) (t : Token) : Except Fault Layout := do
  let s ← s.removeKey
  let s := if s.inFlow then { s with flow := s.flow - 1, keys := s.keys.tail } else s
  .ok (s.single t false)

def misplaced {α : Type} (s : Layout) (what : String) : Except Fault α :=
  .error ⟨what ++ " are not allowed in this context", s.here.place, none⟩

-- An entry or an explicit key of a block, which has to stand where a key may.
def blockItem (s : Layout) (opening item : Token) (what : String) (allowed : Bool) :
    Except Fault Layout := do
  if !s.inFlow && !s.keyAllowed then s.misplaced what
  let s := s.rollIndent s.here.place s.tokens.length opening
  let s ← s.removeKey
  .ok (s.single item allowed)

def value (s : Layout) : Except Fault Layout :=
  match s.keys with
  | k :: keys =>
    if k.possible then
      let s := s.insertAt k.tokens .key k.place
      let s := s.rollIndent k.place k.tokens .blockMappingStart
      .ok { s.single .value false with keys := { k with possible := false } :: keys }
    else if !s.inFlow && !s.keyAllowed then s.misplaced "mapping values"
    else
      let s := s.rollIndent s.here.place s.tokens.length .blockMappingStart
      .ok (s.single .value (!s.inFlow))
  | [] => .ok s

def named (s : Layout) (make : String → Token) (during : String) : Except Fault Layout := do
  let s ← s.saveKey
  let (name, k) ← Token.readName during s.here
  .ok { s.push (make name) with here := k, keyAllowed := false }

def tag (s : Layout) : Except Fault Layout := do
  let s ← s.saveKey
  let (t, k) ← Token.readTag s.inFlow s.here
  .ok { s.push t with here := k, keyAllowed := false }

def blockScalar (s : Layout) (literal : Bool) : Except Fault Layout := do
  let s ← s.removeKey
  let (t, k) ← Token.readBlockScalar literal s.indent s.here
  .ok { s.push t with here := k, keyAllowed := true }

def quoted (s : Layout) (one : Bool) : Except Fault Layout := do
  let s ← s.saveKey
  let (t, k) ← Token.readQuoted one s.here
  .ok { s.push t with here := k, keyAllowed := false }

def plain (s : Layout) : Except Fault Layout := do
  let s ← s.saveKey
  let (t, broken, k) ← Token.readPlain s.inFlow (s.indent + 1) s.here
  .ok { s.push t with here := k, keyAllowed := broken }

def marker (s : Layout) (t : Token) : Except Fault Layout := do
  let s ← (s.unroll (-1)).removeKey
  .ok { s.push t with here := s.here.skipMany 3, keyAllowed := false }

def directive (s : Layout) : Except Fault Layout := do
  let s ← (s.unroll (-1)).removeKey
  let (t, k) ← Token.readDirective s.here
  .ok { s.push t with here := k, keyAllowed := false }

def step (s : Layout) : Except Fault Layout :=
  match s.here.rest with
  | [] => .ok s
  | c :: rest =>
    if s.here.column = 0 && c = '%' then s.directive
    else if s.here.atMarker then s.marker (if c = '-' then .documentStart else .documentEnd)
    else if c = '[' then s.flowStart .flowSequenceStart
    else if c = '\x7b' then s.flowStart .flowMappingStart
    else if c = ']' then s.flowEnd .flowSequenceEnd
    else if c = '\x7d' then s.flowEnd .flowMappingEnd
    else if c = ',' then do .ok ((← s.removeKey).single .flowEntry true)
    else if c = '-' && blankOrEnd rest then
      s.blockItem .blockSequenceStart .blockEntry "block sequence entries" true
    else if c = '?' && (s.inFlow || blankOrEnd rest) then
      s.blockItem .blockMappingStart .key "mapping keys" (!s.inFlow)
    else if c = ':' && (s.inFlow || blankOrEnd rest) then s.value
    else if c = '*' then s.named .alias "while scanning an alias"
    else if c = '&' then s.named .anchor "while scanning an anchor"
    else if c = '!' then s.tag
    else if c = '|' && !s.inFlow then s.blockScalar true
    else if c = '>' && !s.inFlow then s.blockScalar false
    else if c = '\x27' then s.quoted true
    else if c = '\x22' then s.quoted false
    else if Token.startsPlain s.inFlow s.here.rest then s.plain
    else
      s.here.wrong "while scanning for the next token" s.here.place
        "found character that cannot start any token"

def settle (s : Layout) : Except Fault Layout := do
  let s ← (s.toNextToken (s.here.rest.length + 1)).dropStaleKeys
  .ok (s.unroll s.here.column)

def finish (s : Layout) : Except Fault Layout :=
  let p := s.here.place
  let s := if p.column = 0 then s else { s with here := { s.here with place := ⟨p.line + 1, 0⟩ } }
  (s.unroll (-1)).removeKey

-- The tokens that are beyond doubt: behind a place where a key may have begun, further tokens may
-- have to be put in front.
def certain (s : Layout) : List (Token × Place) :=
  (s.keys.filter (·.possible)).foldl (fun ts k => ts.take k.tokens) s.tokens

def run : Nat → Layout → Tokens
  | 0, s => ⟨s.certain, .ok s.here.place⟩
  | n + 1, s =>
    match s.settle with
    | .error fault => ⟨s.certain, .error fault⟩
    | .ok settled =>
      if settled.here.rest.isEmpty then
        match settled.finish with
        | .error fault => ⟨settled.certain, .error fault⟩
        | .ok s => ⟨s.tokens, .ok s.here.place⟩
      else
        match settled.step with
        | .error fault => ⟨settled.certain, .error fault⟩
        | .ok s => run n s

end Layout

-- A byte order mark in front of the text is no part of it.
def withoutMark (text : List Char) : List Char :=
  match text with
  | c :: rest => if c = '\uFEFF' then rest else c :: rest
  | [] => []

def firstForbidden? : Nat → List Char → Option Nat
  | _, [] => none
  | n, c :: rest => if isAllowed c then firstForbidden? (n + c.utf8Size) rest else some n

def Tokens.ofText (text : List Char) : Tokens :=
  let body := withoutMark text
  match firstForbidden? (if body.length = text.length then 0 else 3) body with
  | some n =>
    let problem := "control characters are not allowed"
    let problem := if n = 0 then problem else s!"{problem} at position {n}"
    ⟨[], .error ⟨problem, ⟨0, 0⟩, none⟩⟩
  | none => (Layout.start body).run (body.length + 2)

end Rollout.Yaml
