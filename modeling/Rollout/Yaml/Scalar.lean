import Rollout.Number.Words
import Rollout.Yaml
import Rollout.Text.Blank

namespace Rollout.Yaml

def isNullWord (s : String) : Bool := ["null", "Null", "NULL", "~"].contains s

def boolWord? (s : String) : Option Bool :=
  if ["true", "True", "TRUE"].contains s then some true
  else if ["false", "False", "FALSE"].contains s then some false
  else none

def hasLeadingZero (cs : List Char) : Bool :=
  let digits := match cs with
    | '-' :: rest => rest
    | '+' :: rest => rest
    | rest => rest
  match digits with
  | '0' :: rest => !rest.isEmpty && rest.all Text.isDigit
  | _ => false

def digit? (base : Nat) (c : Char) : Option Nat :=
  let n :=
    if '0' ≤ c ∧ c ≤ '9' then c.toNat - 48
    else if 'a' ≤ c ∧ c ≤ 'f' then c.toNat - 87
    else if 'A' ≤ c ∧ c ≤ 'F' then c.toNat - 55
    else base
  if n < base then some n else none

def natural? (base : Nat) (cs : List Char) : Option Nat :=
  if cs.isEmpty then none
  else cs.foldl (fun acc c => do some ((← acc) * base + (← digit? base c))) (some 0)

def based? : List Char → Option Nat
  | '0' :: 'x' :: rest => natural? 16 rest
  | '0' :: 'o' :: rest => natural? 8 rest
  | '0' :: 'b' :: rest => natural? 2 rest
  | _ => none

def integer? (s : String) : Option Int :=
  let cs := s.toList
  let unsigned (cs : List Char) : Option Nat :=
    match based? cs with
    | some n => some n
    | none => if hasLeadingZero cs then none else natural? 10 cs
  match cs with
  | '+' :: rest => (unsigned rest).map fun n => (n : Int)
  | '-' :: rest => (unsigned rest).map fun n => -(n : Int)
  | rest => (unsigned rest).map fun n => (n : Int)

def decimal? (negative : Bool) (cs : List Char) : Option Binary64 :=
  let whole := cs.takeWhile Text.isDigit
  let rest := cs.dropWhile Text.isDigit
  let (fraction, rest) := match rest with
    | '.' :: rest => (rest.takeWhile Text.isDigit, rest.dropWhile Text.isDigit)
    | rest => ([], rest)
  if whole.isEmpty && fraction.isEmpty then none
  else
    let exponent : Option Int := match rest with
      | [] => some 0
      | c :: rest =>
        if c = 'e' ∨ c = 'E' then
          let (minus, ds) := match rest with
            | '-' :: ds => (true, ds)
            | '+' :: ds => (false, ds)
            | ds => (false, ds)
          if ds.isEmpty || !ds.all Text.isDigit then none
          else
            let n : Int := Text.digitsValue ds
            some (if minus then -n else n)
        else none
    exponent.map fun e =>
      Binary64.ofDecimal negative (Text.digitsValue (whole ++ fraction)) (e - fraction.length)

def float? (s : String) : Option Binary64 :=
  let unsigned := match s.toList with
    | '+' :: rest => rest
    | rest => rest
  if [".inf", ".Inf", ".INF"].contains (String.ofList unsigned) then some (.infinite false)
  else if ["-.inf", "-.Inf", "-.INF"].contains s then some (.infinite true)
  else if [".nan", ".NaN", ".NAN"].contains s then some .notANumber
  else
    let found := match unsigned with
      | '-' :: rest => if s.toList.head? = some '+' then none else decimal? true rest
      | rest => decimal? false rest
    match found with
    | some (.finite negative m e) => some (.finite negative m e)
    | _ => none

-- An integer has to fit 64 bits; one that only fits 128 is refused, and one beyond is a float.
def integerValue? (i : Int) : Option (Option Yaml) :=
  if fitsWord 64 i then some (some (.int i))
  else if fitsWord 128 i then some none
  else none

def ofPlain (s : String) : Option Yaml :=
  if s.isEmpty || isNullWord s then some .null
  else match boolWord? s with
    | some b => some (.bool b)
    | none =>
      match (integer? s).bind integerValue? with
      | some found => found
      | none =>
        if hasLeadingZero s.toList then some (.string s)
        else match float? s with
          | some x => some (.float x)
          | none => some (.string s)

def coreTag (name : String) : String := "tag:yaml.org,2002:" ++ name

-- A scalar with one of the core tags has to be of that kind.
def ofCoreTag (tag s : String) : Option (Option Yaml) :=
  if tag = coreTag "bool" then some ((boolWord? s).map .bool)
  else if tag = coreTag "int" then
    some (((integer? s).bind integerValue?).bind id)
  else if tag = coreTag "float" then some ((float? s).map .float)
  else if tag = coreTag "null" then some (if isNullWord s then some .null else none)
  else none

-- The value of a scalar; a tag that is not of the core schema is dealt with elsewhere.
def ofScalar (tag : Option String) (plain : Bool) (s : String) : Option Yaml :=
  match tag with
  | some tag =>
    match ofCoreTag tag s with
    | some found => found
    | none => some (.string s)
  | none => if plain then ofPlain s else some (.string s)

end Rollout.Yaml
