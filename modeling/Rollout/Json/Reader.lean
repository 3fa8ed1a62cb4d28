import Rollout.Json
import Rollout.Number.Words
import Rollout.Text.Blank

namespace Rollout.Json

def isSpace (c : Char) : Bool := c = ' ' || c = '\t' || c = '\n' || c = '\r'

def skipSpace (cs : List Char) : List Char := cs.dropWhile isSpace

def unit? : List Char → Option (Nat × List Char)
  | a :: b :: c :: d :: rest => do
    let high := (← Text.hexValue? a) * 16 + (← Text.hexValue? b)
    let n := high * 256 + (← Text.hexValue? c) * 16 + (← Text.hexValue? d)
    some (n, rest)
  | _ => none

-- The character of a `\u` escape, of two if the first is half of a pair.
def escapedUnit? (cs : List Char) : Option (Char × List Char) := do
  let (n, rest) ← unit? cs
  if 0xD800 ≤ n ∧ n < 0xDC00 then
    match rest with
    | '\\' :: 'u' :: rest =>
      let (m, rest) ← unit? rest
      if 0xDC00 ≤ m ∧ m < 0xE000 then
        some (Char.ofNat (0x10000 + (n - 0xD800) * 1024 + (m - 0xDC00)), rest)
      else none
    | _ => none
  else if 0xDC00 ≤ n ∧ n < 0xE000 then none
  else some (Char.ofNat n, rest)

-- The rest of a string after its opening quote; every step reads at least one character.
def stringBody : Nat → List Char → List Char → Option (String × List Char)
  | 0, _, _ => none
  | _ + 1, _, [] => none
  | fuel + 1, acc, c :: rest =>
    if c = '"' then some (String.ofList acc.reverse, rest)
    else if c = '\\' then
      match rest with
      | 'u' :: rest =>
        match escapedUnit? rest with
        | some (d, rest) => stringBody fuel (d :: acc) rest
        | none => none
      | '"' :: rest => stringBody fuel ('"' :: acc) rest
      | '\\' :: rest => stringBody fuel ('\\' :: acc) rest
      | '/' :: rest => stringBody fuel ('/' :: acc) rest
      | 'b' :: rest => stringBody fuel ('\x08' :: acc) rest
      | 'f' :: rest => stringBody fuel ('\x0c' :: acc) rest
      | 'n' :: rest => stringBody fuel ('\n' :: acc) rest
      | 'r' :: rest => stringBody fuel ('\r' :: acc) rest
      | 't' :: rest => stringBody fuel ('\t' :: acc) rest
      | _ => none
    else if c.toNat < 0x20 then none
    else stringBody fuel (c :: acc) rest

def digits (cs : List Char) : List Char × List Char :=
  (cs.takeWhile Text.isDigit, cs.dropWhile Text.isDigit)

def fraction? : List Char → Option (List Char × List Char)
  | '.' :: rest =>
    let (ds, rest) := digits rest
    if ds.isEmpty then none else some (ds, rest)
  | rest => some ([], rest)

def exponent? : List Char → Option (Option Int × List Char)
  | c :: rest =>
    if c = 'e' ∨ c = 'E' then
      let (negative, rest) := match rest with
        | '-' :: rest => (true, rest)
        | '+' :: rest => (false, rest)
        | rest => (false, rest)
      let (ds, rest) := digits rest
      if ds.isEmpty then none
      else
        let n : Int := Text.digitsValue ds
        some (some (if negative then -n else n), rest)
    else some (none, c :: rest)
  | [] => some (none, [])

def number? (negative : Bool) (cs : List Char) : Option (Number × List Char) := do
  let (whole, rest) := digits cs
  match whole with
  | [] => none
  | '0' :: _ :: _ => none
  | _ => pure ()
  let (fraction, rest) ← fraction? rest
  let (exponent, rest) ← exponent? rest
  let value := Text.digitsValue whole
  let i : Int := if negative then -(value : Int) else value
  if fraction.isEmpty ∧ exponent.isNone ∧ ¬ (negative ∧ value = 0) ∧
      fitsWord 64 i then
    some (.int i, rest)
  else
    let x := Binary64.ofDecimal negative (Text.digitsValue (whole ++ fraction))
      (exponent.getD 0 - fraction.length)
    match x with
    | .finite .. => some (.float x, rest)
    | _ => none

mutual
def value? : Nat → Nat → List Char → Option (Json × List Char)
  | 0, _, _ => none
  | fuel + 1, depth, cs =>
    match skipSpace cs with
    | 'n' :: 'u' :: 'l' :: 'l' :: rest => some (.null, rest)
    | 't' :: 'r' :: 'u' :: 'e' :: rest => some (.bool true, rest)
    | 'f' :: 'a' :: 'l' :: 's' :: 'e' :: rest => some (.bool false, rest)
    | '"' :: rest => (stringBody (rest.length + 1) [] rest).map fun (s, rest) => (.string s, rest)
    | '-' :: rest => (number? true rest).map fun (n, rest) => (.number n, rest)
    | '[' :: rest =>
      if depth = 0 then none
      else match skipSpace rest with
        | ']' :: rest => some (.array [], rest)
        | rest => (items? fuel (depth - 1) rest).map fun (js, rest) => (.array js, rest)
    | c :: rest =>
      if c = '\x7b' then
        if depth = 0 then none
        else match skipSpace rest with
          | d :: rest =>
            if d = '\x7d' then some (.object [], rest)
            else (fields? fuel (depth - 1) (d :: rest)).map fun (fs, rest) => (.object fs, rest)
          | [] => none
      else if Text.isDigit c then (number? false (c :: rest)).map fun (n, rest) => (.number n, rest)
      else none
    | [] => none
def items? : Nat → Nat → List Char → Option (List Json × List Char)
  | 0, _, _ => none
  | fuel + 1, depth, cs =>
    match value? fuel depth cs with
    | none => none
    | some (j, rest) =>
      match skipSpace rest with
      | ',' :: rest => (items? fuel depth rest).map fun (js, rest) => (j :: js, rest)
      | ']' :: rest => some ([j], rest)
      | _ => none
def fields? : Nat → Nat → List Char → Option (List (String × Json) × List Char)
  | 0, _, _ => none
  | fuel + 1, depth, cs =>
    match skipSpace cs with
    | '"' :: rest =>
      match stringBody (rest.length + 1) [] rest with
      | none => none
      | some (name, rest) =>
        match skipSpace rest with
        | ':' :: rest =>
          match value? fuel depth rest with
          | none => none
          | some (j, rest) =>
            match skipSpace rest with
            | ',' :: rest =>
              (fields? fuel depth rest).map fun (fs, rest) => ((name, j) :: fs, rest)
            | d :: rest => if d = '\x7d' then some ([(name, j)], rest) else none
            | [] => none
        | _ => none
    | _ => none
end

def depthLimit : Nat := 127

def parseWithin? (depth : Nat) (text : String) : Option Json :=
  let cs := text.toList
  match value? (2 * cs.length + 2) depth cs with
  | some (j, rest) => if (skipSpace rest).isEmpty then some j else none
  | none => none

def parse? (text : String) : Option Json := parseWithin? depthLimit text

end Rollout.Json
