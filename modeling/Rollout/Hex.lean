import Rollout.Text.Ascii
import Rollout.Text.Quoted

namespace Rollout.Hex

inductive Error where
  | oddLength
  | invalid (found : UInt8) (index : Nat)
  deriving DecidableEq, Repr

def Error.message : Error → String
  | .oddLength => "Odd number of digits"
  | .invalid found index =>
    s!"Invalid character {Text.quotedChar (Char.ofNat found.toNat)} at position {index}"

def encode (bytes : List UInt8) : String :=
  String.ofList (bytes.flatMap fun b => [Text.hexDigit (b.toNat / 16), Text.hexDigit (b.toNat % 16)])

theorem mem_encode {bytes : List UInt8} {c : Char} (member : c ∈ (encode bytes).toList) :
    ∃ n < 16, c = Text.hexDigit n := by
  rw [encode, String.toList_ofList] at member
  obtain ⟨b, -, digit⟩ := List.mem_flatMap.mp member
  have bound := b.toNat_lt
  rcases List.mem_cons.mp digit with rfl | digit
  · exact ⟨_, by omega, rfl⟩
  · exact ⟨_, by omega, List.mem_singleton.mp digit⟩

theorem encode_cons (b : UInt8) (bytes : List UInt8) : (encode (b :: bytes)).toList =
    Text.hexDigit (b.toNat / 16) :: Text.hexDigit (b.toNat % 16) :: (encode bytes).toList := by
  simp [encode]

def value? (b : UInt8) : Option Nat := Text.hexValue? (Char.ofNat b.toNat)

def decodeFrom (index : Nat) : List UInt8 → Except Error (List UInt8)
  | a :: b :: rest =>
    match value? a, value? b with
    | some x, some y => (decodeFrom (index + 2) rest).map (UInt8.ofNat (16 * x + y) :: ·)
    | none, _ => .error (.invalid a index)
    | _, none => .error (.invalid b (index + 1))
  | _ => .ok []

def decode (text : List UInt8) : Except Error (List UInt8) :=
  if text.length % 2 = 1 then .error .oddLength else decodeFrom 0 text

end Rollout.Hex
