namespace Rollout

inductive Binary64 where
  | finite (negative : Bool) (mantissa : Nat) (exponent : Int)
  | infinite (negative : Bool)
  | notANumber
  deriving DecidableEq, Repr

namespace Binary64

def roundDiv (num den : Nat) : Nat :=
  let q := num / den
  let twice := 2 * (num % den)
  if twice < den then q
  else if den < twice then q + 1
  else if q % 2 = 0 then q else q + 1

def scaled (num den : Nat) (e : Int) : Nat × Nat :=
  match e with
  | .ofNat k => (num, den * Nat.pow 2 k)
  | .negSucc k => (num * Nat.pow 2 (k + 1), den)

def nearest (negative : Bool) (num den : Nat) : Binary64 :=
  if num = 0 then .finite negative 0 0
  else
    let guess : Int := (Nat.log2 num : Int) - (Nat.log2 den : Int) - 52
    -- the exponent for which the quotient has 53 bits, or the least one
    let (n, d) := scaled num den guess
    let e := if n < Nat.pow 2 52 * d then guess - 1 else guess
    let e := max e (-1074)
    let (n, d) := scaled num den e
    let m := roundDiv n d
    let (m, e) := if m = Nat.pow 2 53 then (Nat.pow 2 52, e + 1) else (m, e)
    if e > 971 then .infinite negative else .finite negative m e

def ofDecimal (negative : Bool) (digits : Nat) (exponent : Int) : Binary64 :=
  let size : Int := (toString digits).length
  if digits = 0 then .finite negative 0 0
  else if exponent + size > 400 then .infinite negative
  else if exponent + size < -400 then .finite negative 0 0
  else match exponent with
    | .ofNat k => nearest negative (digits * Nat.pow 10 k) 1
    | .negSucc k => nearest negative digits (Nat.pow 10 (k + 1))

structure Digits where
  digits : List Char
  point : Int
  deriving DecidableEq, Repr

-- The end of the interval of values that read as `m * 2 ^ e`, in units of `2 ^ (e - 2)`.
def bounds (m : Nat) (e : Int) : Nat × Nat :=
  let low := if m = Nat.pow 2 52 ∧ e > -1074 then 4 * m - 1 else 4 * m - 2
  (low, 4 * m + 2)

def inUnits (k : Nat) (g u : Int) : Nat × Nat :=
  let (n, d) := match g with
    | .ofNat j => (k * Nat.pow 10 j, 1)
    | .negSucc j => (k, Nat.pow 10 (j + 1))
  scaled n d u

def readsBack (m : Nat) (e : Int) (k : Nat) (g : Int) : Bool :=
  let (n, d) := inUnits k g (e - 2)
  let (low, high) := bounds m e
  if m % 2 = 0 then low * d ≤ n && n ≤ high * d else low * d < n && n < high * d

-- The number of decimal digits of the integer part of `num / den`, or the negated number of zeros
-- behind the point: the `p` with `10 ^ (p - 1) ≤ num / den < 10 ^ p`.
def magnitude (num den : Nat) : Int :=
  if den ≤ num then (toString (num / den)).length
  else
    let inverse : Int := (toString (den / num)).length
    -- `10 ^ (inverse - 1) ≤ den / num`, so the quotient is at most `10 ^ (1 - inverse)`
    if den = num * Nat.pow 10 (inverse.toNat - 1) then 2 - inverse else 1 - inverse

-- The nearer of the two neighbours on the grid of `n` digits that reads back.
def onGrid (m : Nat) (e : Int) (p : Int) (n : Nat) : Option (Nat × Int) :=
  let g := p - n
  let (num, den) := scaled m 1 (-e)
  -- the value in units of `10 ^ g`
  let (num, den) := match g with
    | .ofNat j => (num, den * Nat.pow 10 j)
    | .negSucc j => (num * Nat.pow 10 (j + 1), den)
  let low := num / den
  let rest := num % den
  let lowOk := decide (low ≠ 0) && readsBack m e low g
  let highOk := readsBack m e (low + 1) g
  if lowOk && highOk then
    if 2 * rest < den then some (low, g)
    else if den < 2 * rest then some (low + 1, g)
    else some (if low % 2 = 0 then low else low + 1, g)
  else if lowOk then some (low, g)
  else if highOk then some (low + 1, g)
  else none

def shortest (m : Nat) (e : Int) : Digits :=
  if m = 0 then ⟨['0'], 1⟩
  else
    let (num, den) := scaled m 1 (-e)
    let p := magnitude num den
    match (List.range 17).findSome? fun n => onGrid m e p (n + 1) with
    | none => ⟨['0'], 1⟩
    | some (k, g) =>
      let text := (toString k).toList
      let kept := (text.reverse.dropWhile (· == '0')).reverse
      ⟨kept, g + text.length⟩

-- Where the point may stand in positional notation, counted from the first digit; other numbers are
-- written with an exponent.
structure Style where
  leastPoint : Int
  mostPoint : Int

def fromTenThousandth : Style := ⟨-3, 16⟩

def fromHundredThousandth : Style := ⟨-4, 16⟩

-- Positional always: no number has its first digit further from the point.
def positional : Style := ⟨-400, 400⟩

def zeros (n : Nat) : List Char := List.replicate n '0'

def renderDigits (style : Style) (d : Digits) : List Char :=
  let len : Int := d.digits.length
  if style.leastPoint ≤ d.point ∧ d.point ≤ style.mostPoint then
    if d.point ≤ 0 then '0' :: '.' :: zeros (-d.point).toNat ++ d.digits
    else if len ≤ d.point then d.digits ++ zeros (d.point - len).toNat ++ ['.', '0']
    else d.digits.take d.point.toNat ++ '.' :: d.digits.drop d.point.toNat
  else
    let fraction := match d.digits.drop 1 with
      | [] => []
      | rest => '.' :: rest
    d.digits.take 1 ++ fraction ++ 'e' :: (toString (d.point - 1)).toList

-- The text of a finite number; infinities and the rest are named by the format that writes them.
def render? (style : Style) : Binary64 → Option String
  | .finite negative m e =>
    let body := renderDigits style (shortest m e)
    some (String.ofList (if negative then '-' :: body else body))
  | _ => none

end Binary64

end Rollout
