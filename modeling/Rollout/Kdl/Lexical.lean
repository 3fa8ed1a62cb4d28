import Rollout.Kdl.Document
import Rollout.Number.Words
import Rollout.Text.Blank

namespace Rollout.Kdl

def isSpace (c : Char) : Bool :=
  let n := c.toNat
  n == 0x09 || n == 0x20 || n == 0xA0 || n == 0x1680 || (0x2000 ≤ n && n ≤ 0x200A) ||
  n == 0x202F || n == 0x205F || n == 0x3000

def isNewline (c : Char) : Bool :=
  let n := c.toNat
  (0x0A ≤ n && n ≤ 0x0D) || n == 0x85 || n == 0x2028 || n == 0x2029

def isForbidden (c : Char) : Bool :=
  let n := c.toNat
  n ≤ 0x08 || (0x0E ≤ n && n ≤ 0x1F) || n == 0x200E || n == 0x200F ||
  (0x202A ≤ n && n ≤ 0x202E) || (0x2066 ≤ n && n ≤ 0x2069) || n == 0xFEFF

def isWordChar (c : Char) : Bool :=
  !isSpace c && !isNewline c && !isForbidden c &&
  !"\\/()\x7b\x7d;[]\x22#=".toList.contains c

-- Where a skip stands: between tokens, behind a backslash that joins lines, inside comments that
-- nest `depth` deep, or in a comment that ends with its line.
inductive Gap where
  | blank
  | joined
  | comment (depth : Nat) (joined : Bool)
  | lineComment

-- Skips a gap; with `lines` also line ends and the comments before them. A comment or a joined line
-- that never ends is no gap.
def skipGap (lines : Bool) : Gap → List Char → Option (List Char)
  | .blank, [] => some []
  | .blank, '/' :: '*' :: rest => skipGap lines (.comment 0 false) rest
  | .blank, '/' :: '/' :: rest =>
    if lines then skipGap lines .lineComment rest else some ('/' :: '/' :: rest)
  | .blank, '\\' :: rest => skipGap lines .joined rest
  | .blank, c :: rest =>
    if isSpace c || (lines && isNewline c) then skipGap lines .blank rest else some (c :: rest)
  | .joined, [] => some []
  | .joined, '/' :: '*' :: rest => skipGap lines (.comment 0 true) rest
  | .joined, '/' :: '/' :: rest => skipGap lines .lineComment rest
  | .joined, '\r' :: '\n' :: rest => skipGap lines .blank rest
  | .joined, c :: rest =>
    if isSpace c then skipGap lines .joined rest
    else if isNewline c then skipGap lines .blank rest
    else none
  | .comment _ _, [] => none
  | .comment depth joined, '/' :: '*' :: rest => skipGap lines (.comment (depth + 1) joined) rest
  | .comment 0 joined, '*' :: '/' :: rest => skipGap lines (if joined then .joined else .blank) rest
  | .comment (depth + 1) joined, '*' :: '/' :: rest => skipGap lines (.comment depth joined) rest
  | .comment depth joined, _ :: rest => skipGap lines (.comment depth joined) rest
  | .lineComment, [] => some []
  | .lineComment, '\r' :: '\n' :: rest => skipGap lines .blank rest
  | .lineComment, c :: rest =>
    if isNewline c then skipGap lines .blank rest else skipGap lines .lineComment rest

def skipSpace (cs : List Char) : Option (List Char) := skipGap false .blank cs

def skipLines (cs : List Char) : Option (List Char) := skipGap true .blank cs

def afterLineComment : List Char → List Char
  | [] => []
  | '\r' :: '\n' :: rest => rest
  | c :: rest => if isNewline c then rest else afterLineComment rest

def terminator? : List Char → Option (List Char)
  | [] => some []
  | '/' :: '/' :: rest => some (afterLineComment rest)
  | ';' :: rest => some rest
  | '\r' :: '\n' :: rest => some rest
  | c :: rest => if isNewline c then some rest else none

inductive Piece where
  | plain (c : Char)
  | escaped (c : Char)
  | newline
  deriving DecidableEq, Repr

def Piece.char : Piece → Char
  | .plain c => c
  | .escaped c => c
  | .newline => '\n'

inductive StringMode where
  | body
  | escape
  | blanks
  | number (value count : Nat)

def escaped? (c : Char) : Option Char :=
  if c = 'n' then some '\n'
  else if c = 'r' then some '\r'
  else if c = 't' then some '\t'
  else if c = 'b' then some '\x08'
  else if c = 'f' then some '\x0c'
  else if c = 's' then some ' '
  else if c = '\\' then some '\\'
  else if c = '"' then some '"'
  else none

def blanksFollow : List Char → Bool
  | c :: _ => isSpace c || isNewline c
  | [] => false

def stringPieces (multi : Bool) : StringMode → List Char → Option (List Piece × List Char)
  | _, [] => none
  | .body, '"' :: '"' :: '"' :: rest =>
    if multi then some ([], rest) else some ([], '"' :: '"' :: rest)
  | .body, '\r' :: '\n' :: rest =>
    if multi then (stringPieces multi .body rest).map fun (ps, r) => (.newline :: ps, r) else none
  | .body, c :: rest =>
    if c = '"' then
      if multi then (stringPieces multi .body rest).map fun (ps, r) => (.plain c :: ps, r)
      else some ([], rest)
    else if c = '\\' then stringPieces multi .escape rest
    else if isNewline c then
      if multi then (stringPieces multi .body rest).map fun (ps, r) => (.newline :: ps, r) else none
    else if isForbidden c then none
    else (stringPieces multi .body rest).map fun (ps, r) => (.plain c :: ps, r)
  | .escape, 'u' :: c :: rest =>
    if c = '\x7b' then stringPieces multi (.number 0 0) rest else none
  | .escape, c :: rest =>
    match escaped? c with
    | some d => (stringPieces multi .body rest).map fun (ps, r) => (.escaped d :: ps, r)
    | none =>
      if isSpace c || isNewline c then
        stringPieces multi (if blanksFollow rest then .blanks else .body) rest
      else none
  | .blanks, _ :: rest => stringPieces multi (if blanksFollow rest then .blanks else .body) rest
  | .number value count, c :: rest =>
    if c = '\x7d' then
      if 0 < count ∧ count ≤ 6 ∧ value.isValidChar then
        (stringPieces multi .body rest).map fun (ps, r) => (.escaped (Char.ofNat value) :: ps, r)
      else none
    else match Text.hexValue? c with
      | some d => stringPieces multi (.number (value * 16 + d) (count + 1)) rest
      | none => none

def rawPieces (multi : Bool) (close : List Char) : List Char → Option (List Piece × List Char)
  | [] => none
  | '\r' :: '\n' :: rest =>
    if multi then (rawPieces multi close rest).map fun (ps, r) => (.newline :: ps, r) else none
  | c :: rest =>
    if close.isPrefixOf (c :: rest) then some ([], (c :: rest).drop close.length)
    else if isNewline c then
      if multi then (rawPieces multi close rest).map fun (ps, r) => (.newline :: ps, r) else none
    else if isForbidden c then none
    else (rawPieces multi close rest).map fun (ps, r) => (.plain c :: ps, r)

def Piece.isPlainSpace : Piece → Bool
  | .plain c => isSpace c
  | _ => false

def pieceLines : List Piece → List (List Piece)
  | [] => [[]]
  | .newline :: rest => [] :: pieceLines rest
  | p :: rest =>
    match pieceLines rest with
    | [] => [[p]]
    | line :: lines => (p :: line) :: lines

def dedentLine? (margin line : List Piece) : Option (List Piece) :=
  if line.all Piece.isPlainSpace then some []
  else if margin.isPrefixOf line then some (line.drop margin.length)
  else none

-- A string of several lines: the last line holds the indentation of all.
def dedent? (pieces : List Piece) : Option String := do
  let lines := pieceLines pieces
  let margin ← lines.getLast?
  if margin.all Piece.isPlainSpace then
    let lines ← lines.dropLast.mapM (dedentLine? margin)
    some (String.ofList (List.intercalate [Piece.newline] lines |>.map Piece.char))
  else none

def text (pieces : List Piece) : String := String.ofList (pieces.map Piece.char)

def newline? : List Char → Option (List Char)
  | '\r' :: '\n' :: rest => some rest
  | c :: rest => if isNewline c then some rest else none
  | [] => none

def quoted? : List Char → Option (String × List Char)
  | '"' :: '"' :: rest => do
    let rest ← newline? rest
    let (pieces, rest) ← stringPieces true .body rest
    some (← dedent? pieces, rest)
  | '"' :: rest => some ("", rest)
  | rest => do
    let (pieces, rest) ← stringPieces false .body rest
    some (text pieces, rest)

def raw? (sharps : Nat) : List Char → Option (String × List Char)
  | '"' :: '"' :: '"' :: rest => do
    let rest ← newline? rest
    let (pieces, rest) ← rawPieces true (['"', '"', '"'] ++ List.replicate sharps '#') rest
    some (← dedent? pieces, rest)
  | '"' :: rest => do
    let (pieces, rest) ← rawPieces false ('"' :: List.replicate sharps '#') rest
    some (text pieces, rest)
  | _ => none

-- Digits count as long as their value fits the positive half of 128 bits; a sign in front of them
-- changes nothing about that.
def isMagnitude (n : Nat) : Bool := fitsSigned 128 n

def basedDigits? (base : Nat) (cs : List Char) : Option Nat :=
  let digit (c : Char) : Option Nat := (Text.hexValue? c).filter (· < base)
  match cs with
  | [] => none
  | first :: _ =>
    if (digit first).isNone then none
    else cs.foldl
      (fun acc c => do
        let n ← acc
        if c = '_' then some n else some (n * base + (← digit c)))
      (some 0) |>.filter isMagnitude

-- Digits, then anything: the first has to be one, the others may be underscores.
def digitRun (cs : List Char) : Option (List Char × List Char) :=
  match cs with
  | c :: _ =>
    let isRun (d : Char) : Bool := Text.isDigit d || d == '_'
    let digits := (cs.takeWhile isRun).filter (· ≠ '_')
    if Text.isDigit c && isMagnitude (Text.digitsValue digits) then some (digits, cs.dropWhile isRun)
    else none
  | [] => none

def signed (negative : Bool) (n : Nat) : Scalar := .integer (if negative then -(n : Int) else n)

def exponent? : List Char → Option Int
  | c :: rest =>
    if c = 'e' ∨ c = 'E' then do
      let (negative, rest) := match rest with
        | '-' :: rest => (true, rest)
        | '+' :: rest => (false, rest)
        | rest => (false, rest)
      let (ds, rest) ← digitRun rest
      if rest.isEmpty then
        let n : Int := Text.digitsValue ds
        some (if negative then -n else n)
      else none
    else none
  | [] => some 0

def unsigned? (negative : Bool) : List Char → Option Scalar
  | '0' :: 'x' :: rest => (basedDigits? 16 rest).map (signed negative)
  | '0' :: 'o' :: rest => (basedDigits? 8 rest).map (signed negative)
  | '0' :: 'b' :: rest => (basedDigits? 2 rest).map (signed negative)
  | cs => do
    let (whole, rest) ← digitRun cs
    match rest with
    | [] => some (signed negative (Text.digitsValue whole))
    | '.' :: rest =>
      let (fraction, rest) ← digitRun rest
      let e ← exponent? rest
      some (.decimal (Binary64.ofDecimal negative (Text.digitsValue (whole ++ fraction))
        (e - fraction.length)))
    | rest =>
      let e ← exponent? rest
      some (.decimal (Binary64.ofDecimal negative (Text.digitsValue whole) e))

-- Whether a word has to be a number: a digit comes first, behind at most a sign and a point.
def looksNumeric (word : List Char) : Bool :=
  let word := match word with
    | '+' :: rest => rest
    | '-' :: rest => rest
    | rest => rest
  let word := match word with
    | '.' :: rest => rest
    | rest => rest
  word.head?.any Text.isDigit

def reserved : List String := ["true", "false", "null", "inf", "nan"]

def bareWord? (word : List Char) : Option String :=
  let s := String.ofList word
  if word.isEmpty || looksNumeric word || reserved.contains s then none else some s

def number? (word : List Char) : Option Scalar :=
  match word with
  | '+' :: rest => unsigned? false rest
  | '-' :: rest => unsigned? true rest
  | rest => unsigned? false rest

def keyword? (word : List Char) : Option Scalar :=
  match String.ofList word with
  | "true" => some (.boolean true)
  | "false" => some (.boolean false)
  | "null" => some .null
  | "inf" => some (.decimal (.infinite false))
  | "-inf" => some (.decimal (.infinite true))
  | "nan" => some (.decimal .notANumber)
  | _ => none

def scalar? : List Char → Option (Scalar × List Char)
  | [] => none
  | c :: rest =>
    if c = '"' then (quoted? rest).map fun (s, rest) => (.string s, rest)
    else if c = '#' then
      let sharps := rest.takeWhile (· == '#')
      let behind := rest.dropWhile (· == '#')
      if behind.head? = some '"' then
        (raw? (sharps.length + 1) behind).map fun (s, rest) => (.string s, rest)
      else (keyword? (rest.takeWhile isWordChar)).map fun k => (k, rest.dropWhile isWordChar)
    else
      let word := (c :: rest).takeWhile isWordChar
      let behind := (c :: rest).dropWhile isWordChar
      if looksNumeric word then (number? word).map fun n => (n, behind)
      else (bareWord? word).map fun s => (.string s, behind)

def name? (cs : List Char) : Option (String × List Char) := do
  let (value, rest) ← scalar? cs
  match value with
  | .string s => some (s, rest)
  | _ => none

end Rollout.Kdl
