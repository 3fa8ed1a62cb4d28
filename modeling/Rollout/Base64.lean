namespace Rollout.Base64

inductive Error where
  | symbol (index : Nat) (byte : UInt8)
  | length (count : Nat)
  -- The last symbol holds bits that belong to no byte.
  | lastSymbol (index : Nat) (byte : UInt8)
  | padding
  deriving DecidableEq, Repr

def Error.message : Error → String
  | .symbol index byte => s!"Invalid symbol {byte.toNat}, offset {index}."
  | .length count => s!"Invalid input length: {count}"
  | .lastSymbol index byte => s!"Invalid last symbol {byte.toNat}, offset {index}."
  | .padding => "Invalid padding"

def symbol (n : Nat) : UInt8 :=
  UInt8.ofNat <|
    if n < 26 then 65 + n
    else if n < 52 then 71 + n
    else if n < 62 then n - 4
    else if n = 62 then 43
    else 47

def value? (b : UInt8) : Option Nat :=
  let n := b.toNat
  if 65 ≤ n ∧ n ≤ 90 then some (n - 65)
  else if 97 ≤ n ∧ n ≤ 122 then some (n - 71)
  else if 48 ≤ n ∧ n ≤ 57 then some (n + 4)
  else if n = 43 then some 62
  else if n = 47 then some 63
  else none

def pad : UInt8 := 61

def encodeBytes : List UInt8 → List UInt8
  | a :: b :: c :: rest =>
    let n := a.toNat * 65536 + b.toNat * 256 + c.toNat
    symbol (n / 262144) :: symbol (n / 4096 % 64) :: symbol (n / 64 % 64) :: symbol (n % 64) ::
      encodeBytes rest
  | [a, b] =>
    let n := a.toNat * 1024 + b.toNat * 4
    [symbol (n / 4096), symbol (n / 64 % 64), symbol (n % 64), pad]
  | [a] =>
    let n := a.toNat * 16
    [symbol (n / 64), symbol (n % 64), pad, pad]
  | [] => []

def encode (bytes : List UInt8) : String :=
  String.ofList ((encodeBytes bytes).map fun b => Char.ofNat b.toNat)

-- The last group, of at most four bytes: symbols first, then padding.
structure Tail where
  values : List Nat
  lastByte : UInt8
  pads : Nat
  firstPad : Nat
  deriving DecidableEq, Repr

def readTail (start : Nat) : Nat → Tail → List UInt8 → Except Error Tail
  | _, tail, [] => .ok tail
  | i, tail, b :: rest =>
    if b = pad then
      if i < 2 then .error (.symbol (start + i) b)
      else
        readTail start (i + 1)
          { tail with pads := tail.pads + 1, firstPad := if tail.pads = 0 then i else tail.firstPad }
          rest
    else if 0 < tail.pads then .error (.symbol (start + tail.firstPad) pad)
    else match value? b with
      | none => .error (.symbol (start + i) b)
      | some v => readTail start (i + 1) { tail with values := tail.values ++ [v], lastByte := b } rest

def tailBytes (start : Nat) (tail : Tail) : Except Error (List UInt8) :=
  match tail.values with
  | [a, b] =>
    if b % 16 = 0 then .ok [UInt8.ofNat (a * 4 + b / 16)]
    else .error (.lastSymbol (start + 1) tail.lastByte)
  | [a, b, c] =>
    if c % 4 = 0 then
      .ok [UInt8.ofNat (a * 4 + b / 16), UInt8.ofNat (b % 16 * 16 + c / 4)]
    else .error (.lastSymbol (start + 2) tail.lastByte)
  | [a, b, c, d] =>
    .ok [UInt8.ofNat (a * 4 + b / 16), UInt8.ofNat (b % 16 * 16 + c / 4),
      UInt8.ofNat (c % 4 * 64 + d)]
  | _ => .ok []

def decodeTail (start : Nat) (group : List UInt8) : Except Error (List UInt8) := do
  let tail ← readTail start 0 ⟨[], 0, 0, 0⟩ group
  if tail.values.length < 2 then throw (.length (start + tail.values.length))
  if (tail.pads + tail.values.length) % 4 ≠ 0 then throw .padding
  tailBytes start tail

def decodeFrom (start : Nat) : List UInt8 → Except Error (List UInt8)
  | a :: b :: c :: d :: e :: rest =>
    match value? a, value? b, value? c, value? d with
    | some w, some x, some y, some z =>
      (decodeFrom (start + 4) (e :: rest)).map fun bytes =>
        UInt8.ofNat (w * 4 + x / 16) :: UInt8.ofNat (x % 16 * 16 + y / 4) ::
          UInt8.ofNat (y % 4 * 64 + z) :: bytes
    | none, _, _, _ => .error (.symbol start a)
    | _, none, _, _ => .error (.symbol (start + 1) b)
    | _, _, none, _ => .error (.symbol (start + 2) c)
    | _, _, _, none => .error (.symbol (start + 3) d)
  | [] => .ok []
  | group => decodeTail start group

-- A byte too many that is no symbol is told first: it is most often a line end.
def decode (text : List UInt8) : Except Error (List UInt8) :=
  match text.getLast? with
  | some last =>
    if text.length % 4 = 1 ∧ last ≠ pad ∧ (value? last).isNone then
      .error (.symbol (text.length - 1) last)
    else decodeFrom 0 text
  | none => .ok []

end Rollout.Base64
