import Rollout.Json.Writer
import Rollout.Yaml.Scalar
import Rollout.Yaml.Cursor

namespace Rollout.Yaml

-- The text written so far, backwards, and where the pen stands.
structure Pen where
  out : List Char
  column : Nat
  -- Whether the last thing written was a gap.
  gap : Bool
  -- Whether the line holds nothing but indentation and indicators so far.
  margin : Bool

namespace Pen

def start : Pen := ⟨[], 0, true, true⟩

def put (p : Pen) (c : Char) : Pen := { p with out := c :: p.out, column := p.column + 1 }

def putMany (p : Pen) (cs : List Char) : Pen := cs.foldl put p

def lineFeed (p : Pen) : Pen := { p with out := '\n' :: p.out, column := 0 }

def lineEnd (p : Pen) (c : Char) : Pen := { p with out := c :: p.out, column := 0 }

def indent (p : Pen) (depth : Nat) : Pen :=
  let p := if !p.margin || depth < p.column || (p.column = depth && !p.gap) then p.lineFeed else p
  { p.putMany (List.replicate (depth - p.column) ' ') with gap := true, margin := true }

def indicator (p : Pen) (cs : List Char) (needGap isMargin : Bool) : Pen :=
  let p := if needGap && !p.gap then p.put ' ' else p
  { p.putMany cs with gap := false, margin := p.margin && isMargin }

def content (p : Pen) : Pen := { p with gap := false, margin := false }

end Pen

inductive Style where
  | plain
  | single
  | double
  | literal
  deriving DecidableEq, Repr

def isPrintable (c : Char) : Bool :=
  let n := c.toNat
  n = 0x0A || (0x20 ≤ n && n ≤ 0x7E) || (0xA0 ≤ n && n ≤ 0xFFFD && n ≠ 0xFEFF) || 0x10000 ≤ n

structure Facts where
  multiline : Bool
  plain : Bool
  single : Bool
  block : Bool
  deriving DecidableEq, Repr

def startsIndicator : List Char → Bool
  | [] => false
  | c :: rest =>
    "#,[]\x7b\x7d&*!|>'\"%@`".toList.contains c ||
    ((c = '?' || c = ':' || c = '-') && blankOrEnd rest)

-- Whether a colon or a comment sign inside the text would be taken for one; `blank` tells whether a
-- blank stands before.
def holdsIndicator (blank : Bool) : List Char → Bool
  | [] => false
  | c :: rest =>
    (c = ':' && blankOrEnd rest) || (c = '#' && blank) ||
    holdsIndicator (isSpaceOrTab c || isBreak c) rest

def hasPair (p q : Char → Bool) : List Char → Bool
  | c :: d :: rest => (p c && q d) || hasPair p q (d :: rest)
  | _ => false

def isMarkerStart (cs : List Char) : Bool :=
  ['-', '-', '-'].isPrefixOf cs || ['.', '.', '.'].isPrefixOf cs

def facts (cs : List Char) : Facts :=
  if cs.isEmpty then ⟨false, true, true, false⟩
  else
    let isSpace (c : Char) : Bool := c = ' '
    let multiline := cs.any isBreak
    let first := cs.head?
    let last := cs.getLast?
    let edges := (first.toList ++ last.toList).any fun c => isSpace c || isBreak c
    let breakSpace := hasPair isBreak isSpace cs
    let spaceBreak := hasPair isSpace isBreak cs
    let special := cs.any fun c => !isPrintable c
    let indicators := isMarkerStart cs || startsIndicator cs ||
      match cs with
      | c :: rest => holdsIndicator (isSpaceOrTab c || isBreak c) rest
      | [] => false
    let unfit := spaceBreak || special
    ⟨multiline, !edges && !breakSpace && !unfit && !multiline && !indicators,
      !breakSpace && !unfit, !last.any isSpace && !unfit⟩

def isAmbiguous (s : String) : Bool :=
  match ofPlain s with
  | some (.string _) => hasLeadingZero s.toList
  | _ => true

-- How a text is written; a key before a colon stands on one line.
def styleOf (isKey : Bool) (s : String) : Style :=
  let cs := s.toList
  let f := facts cs
  let wanted : Style :=
    if cs.contains '\n' then .literal else if isAmbiguous s then .single else .plain
  let wanted := if isKey && f.multiline then .double else wanted
  let wanted := if wanted = .plain && (!f.plain || (cs.isEmpty && isKey)) then .single else wanted
  let wanted := if wanted = .single && !f.single then .double else wanted
  if wanted = .literal && (!f.block || isKey) then .double else wanted

def hexOf : Nat → Nat → List Char
  | 0, _ => []
  | width + 1, n => hexOf width (n / 16) ++ [Text.upperHexDigit (n % 16)]

def escapeDouble (c : Char) : List Char :=
  let n := c.toNat
  if c = '"' then ['\\', '"']
  else if c = '\\' then ['\\', '\\']
  else if isPrintable c && !isBreak c then [c]
  else if n = 0 then ['\\', '0']
  else if n = 7 then ['\\', 'a']
  else if n = 8 then ['\\', 'b']
  else if n = 9 then ['\\', 't']
  else if n = 10 then ['\\', 'n']
  else if n = 11 then ['\\', 'v']
  else if n = 12 then ['\\', 'f']
  else if n = 13 then ['\\', 'r']
  else if n = 27 then ['\\', 'e']
  else if n = 0x85 then ['\\', 'N']
  else if n = 0x2028 then ['\\', 'L']
  else if n = 0x2029 then ['\\', 'P']
  else if n ≤ 0xFF then '\\' :: 'x' :: hexOf 2 n
  else if n ≤ 0xFFFF then '\\' :: 'u' :: hexOf 4 n
  else '\\' :: 'U' :: hexOf 8 n

-- Lines of a scalar that continue at an indentation; `broken` tells whether a line has just ended.
def writeLines (double : Char → List Char) (depth : Nat) : Bool → Pen → List Char → Bool × Pen
  | broken, p, [] => (broken, p)
  | broken, p, c :: rest =>
    if isBreak c then
      let p := if !broken && c = '\n' then p.lineFeed else p
      writeLines double depth true { p.lineEnd c with margin := true } rest
    else if c = ' ' then writeLines double depth broken (p.put c) rest
    else
      let p := if broken then p.indent depth else p
      writeLines double depth false { p.putMany (double c) with margin := false } rest

def writeLiteral (depth : Nat) : Bool → Pen → List Char → Pen
  | _, p, [] => p
  | broken, p, c :: rest =>
    if isBreak c then writeLiteral depth true { p.lineEnd c with margin := true } rest
    else
      let p := if broken then p.indent depth else p
      writeLiteral depth false { p.put c with margin := false } rest

-- The signs behind the bar of a literal block: an indentation if the text begins with a blank, and
-- what becomes of the line ends at its end.
def literalHints (cs : List Char) : List Char :=
  let width := if cs.head?.any (fun c => c = ' ' || isBreak c) then ['2'] else []
  let chomp := match cs.reverse with
    | [] => ['-']
    | [c] => if isBreak c then ['+'] else ['-']
    | c :: d :: _ => if isBreak c then (if isBreak d then ['+'] else []) else ['-']
  width ++ chomp

def writeScalar (p : Pen) (depth : Nat) (style : Style) (cs : List Char) : Pen :=
  match style with
  | .plain =>
    let p := if !p.gap && !cs.isEmpty then p.put ' ' else p
    (writeLines (fun c => [c]) depth false p cs).2.content
  | .single =>
    let p := p.indicator ['\''] true false
    let (broken, p) := writeLines (fun c => if c = '\'' then ['\'', '\''] else [c]) depth false p cs
    let p := if broken then p.indent depth else p
    (p.indicator ['\''] false false).content
  | .double =>
    let p := p.indicator ['"'] true false
    ((p.putMany (cs.flatMap escapeDouble)).indicator ['"'] false false).content
  | .literal =>
    let p := p.indicator ('|' :: literalHints cs) true false
    writeLiteral depth true { p.lineFeed with margin := true, gap := true } cs

def isSimpleKey (s : String) : Bool := !(facts s.toList).multiline && s.utf8ByteSize ≤ 128

def scalarText : Json → List Char
  | .null => "null".toList
  | .bool b => (toString b).toList
  | .number (.int i) => (toString i).toList
  | .number (.float x) => (renderFloat x).toList
  | _ => []

mutual
-- A value below the indentation `depth`; none stands for the document itself. `inMapping` tells
-- whether it is the value of a key.
def writeNode (depth : Option Nat) (inMapping : Bool) (p : Pen) : Json → Pen
  | .string s => writeScalar p ((depth.map (· + 2)).getD 2) (styleOf false s) s.toList
  | .array [] => ((p.indicator ['['] true false).indicator [']'] false false)
  | .array items =>
    let inner := match depth with
      | none => 0
      | some d => if inMapping && !p.margin then d else d + 2
    writeItems inner p items
  | .object [] => ((p.indicator ['\x7b'] true false).indicator ['\x7d'] false false)
  | .object fields => writeFields ((depth.map (· + 2)).getD 0) p fields
  | .null => writeScalar p 0 .plain (scalarText .null)
  | .bool b => writeScalar p 0 .plain (scalarText (.bool b))
  | .number n => writeScalar p 0 .plain (scalarText (.number n))
def writeItems (depth : Nat) (p : Pen) : List Json → Pen
  | [] => p
  | j :: rest =>
    writeItems depth (writeNode (some depth) false ((p.indent depth).indicator ['-'] true true) j) rest
def writeFields (depth : Nat) (p : Pen) : List (String × Json) → Pen
  | [] => p
  | (k, j) :: rest =>
    let p := p.indent depth
    let p :=
      if isSimpleKey k then
        (writeScalar p (depth + 2) (styleOf true k) k.toList).indicator [':'] false false
      else
        let p := writeScalar (p.indicator ['?'] true true) (depth + 2) (styleOf false k) k.toList
        (p.indent depth).indicator [':'] true true
    writeFields depth (writeNode (some depth) true p j) rest
end

def render (j : Json) : String :=
  String.ofList ((writeNode none false Pen.start j).indent 0).out.reverse

end Rollout.Yaml
