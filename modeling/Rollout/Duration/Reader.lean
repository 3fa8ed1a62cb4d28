import Rollout.Duration

namespace Rollout.Duration

def bound : Nat := Nat.pow 2 64

def within (n : Nat) : Option Nat := if n < bound then some n else none

def readDigits : List Char → List Char × List Char
  | c :: rest =>
    if Text.isDigit c then
      let (ds, rest) := readDigits rest
      (c :: ds, rest)
    else if Text.isBlank c then readDigits rest
    else ([], c :: rest)
  | [] => ([], [])

def isUnitChar (c : Char) : Bool := Text.isLower c || Text.isUpper c || c = 'µ'

structure Amount where
  whole : Nat
  fraction : Option (List Char)

def readAmount (cs : List Char) : Option (Amount × List Char) := do
  let (ds, rest) := readDigits cs
  let whole ← within (Text.digitsValue ds)
  match rest with
  | '.' :: rest =>
    let (fs, rest) := readDigits rest
    if fs.isEmpty then none
    let _ ← within (Nat.pow 10 fs.length)
    some (⟨whole, some fs⟩, rest)
  | rest => some (⟨whole, none⟩, rest)

def second : Nat := 1000000000

def wholeStep (unit : Nat) : Nat := if unit < second then 1 else second

def fractionStep (unit : Nat) : Nat := if unit < 3600 * second then 1 else second

def Amount.nanos (a : Amount) (unit : Nat) : Option Nat := do
  let _ ← within (a.whole * (unit / wholeStep unit))
  match a.fraction with
  | none => some (a.whole * unit)
  | some fs =>
    if unit = 1 then none
    let part ← within (Text.digitsValue fs * (unit / fractionStep unit))
    if part % Nat.pow 10 fs.length ≠ 0 then none
    some (a.whole * unit + part / Nat.pow 10 fs.length * fractionStep unit)

-- Amounts with their units, added to a span; each takes at least one character.
def readParts : Nat → Duration → List Char → Option Duration
  | 0, _, _ => none
  | fuel + 1, total, cs => do
    let (amount, rest) ← readAmount cs
    let unit ← unitNanos? (String.ofList (rest.takeWhile isUnitChar))
    let total : Duration := ⟨total.nanos + (← amount.nanos unit)⟩
    let _ ← within total.seconds
    match rest.dropWhile isUnitChar with
    | [] => some total
    | c :: rest =>
      if Text.isDigit c then readParts fuel total (c :: rest)
      else if Text.isBlank c then
        match Text.trimLeft rest with
        | [] => some total
        | d :: rest => if Text.isDigit d then readParts fuel total (d :: rest) else none
      else none

def parse? (text : String) : Option Duration :=
  if text = "0" then some ⟨0⟩
  else
    match Text.trimLeft text.toList with
    | c :: rest => if Text.isDigit c then readParts text.length ⟨0⟩ (c :: rest) else none
    | [] => none

end Rollout.Duration
