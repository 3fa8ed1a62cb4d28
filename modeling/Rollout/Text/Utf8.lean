namespace Rollout.Utf8

inductive Piece where
  | char (c : Char)
  -- `len` bytes from byte `start` on that no character begins with.
  | bad (start len : Nat)
  -- The text ends inside the character that begins at byte `start`.
  | cut (start : Nat)
  deriving DecidableEq, Repr

-- A character that has begun: bytes still owed, the range of the next one, the bits so far, and how
-- many bytes were read.
structure Pending where
  owed : Nat
  low : Nat
  high : Nat
  bits : Nat
  seen : Nat
  deriving DecidableEq, Repr

def lead (start : Nat) (b : Nat) : Piece ⊕ Pending :=
  if b < 0x80 then .inl (.char (Char.ofNat b))
  else if b < 0xC2 then .inl (.bad start 1)
  else if b < 0xE0 then .inr ⟨1, 0x80, 0xBF, b - 0xC0, 1⟩
  else if b = 0xE0 then .inr ⟨2, 0xA0, 0xBF, 0, 1⟩
  else if b = 0xED then .inr ⟨2, 0x80, 0x9F, 0xD, 1⟩
  else if b < 0xF0 then .inr ⟨2, 0x80, 0xBF, b - 0xE0, 1⟩
  else if b = 0xF0 then .inr ⟨3, 0x90, 0xBF, 0, 1⟩
  else if b < 0xF4 then .inr ⟨3, 0x80, 0xBF, b - 0xF0, 1⟩
  else if b = 0xF4 then .inr ⟨3, 0x80, 0x8F, 4, 1⟩
  else .inl (.bad start 1)

def scan : Option Pending → Nat → List UInt8 → List Piece
  | none, _, [] => []
  | some p, i, [] => [.cut (i - p.seen)]
  | none, i, b :: rest =>
    match lead i b.toNat with
    | .inl piece => piece :: scan none (i + 1) rest
    | .inr p => scan (some p) (i + 1) rest
  | some p, i, b :: rest =>
    let n := b.toNat
    if p.low ≤ n ∧ n ≤ p.high then
      let bits := p.bits * 64 + (n - 0x80)
      if p.owed ≤ 1 then .char (Char.ofNat bits) :: scan none (i + 1) rest
      else scan (some ⟨p.owed - 1, 0x80, 0xBF, bits, p.seen + 1⟩) (i + 1) rest
    else
      -- the byte that broke the character may begin the next one
      .bad (i - p.seen) p.seen ::
        match lead i n with
        | .inl piece => piece :: scan none (i + 1) rest
        | .inr q => scan (some q) (i + 1) rest

inductive Invalid where
  | sequence (start len : Nat)
  | incomplete (start : Nat)
  deriving DecidableEq, Repr

def Invalid.message : Invalid → String
  | .sequence start len => s!"invalid utf-8 sequence of {len} bytes from index {start}"
  | .incomplete start => s!"incomplete utf-8 byte sequence from index {start}"

def strict : List Piece → Except Invalid (List Char)
  | [] => .ok []
  | .char c :: rest => (strict rest).map (c :: ·)
  | .bad start len :: _ => .error (.sequence start len)
  | .cut start :: _ => .error (.incomplete start)

def Piece.replaced : Piece → Char
  | .char c => c
  | .bad _ _ => '\uFFFD'
  | .cut _ => '\uFFFD'

def decode (bytes : List UInt8) : Except Invalid String :=
  (strict (scan none 0 bytes)).map String.ofList

def decodeLossy (bytes : List UInt8) : String :=
  String.ofList ((scan none 0 bytes).map Piece.replaced)

def encode (text : String) : List UInt8 :=
  text.toList.flatMap String.utf8EncodeChar

end Rollout.Utf8
