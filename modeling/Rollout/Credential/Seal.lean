import Rollout.Base64
import Rollout.Cipher.Gcm
import Rollout.Hex
import Rollout.Text.Blank
import Rollout.Text.Utf8

namespace Rollout.Seal

def separator : List Char := ['-', '-']

def nonceLength : Nat := 12

def tagLength : Nat := 16

inductive Error where
  | keyNotHex (e : Hex.Error)
  | keyLength (found : Nat)
  | segments (found : Nat)
  | notBase64 (part : String) (e : Base64.Error)
  | nonceLength (found : Nat)
  | tagLength (found : Nat)
  | forged
  | notText (e : Utf8.Invalid)
  deriving DecidableEq, Repr

def Error.message : Error → String
  | .keyNotHex e => "key is not hex: " ++ e.message
  | .keyLength found => s!"key must be 16 or 32 bytes, found {found}"
  | .segments found => s!"expected 3 '--' separated segments, found {found}"
  | .notBase64 part e => s!"{part} is not base64: " ++ e.message
  | .nonceLength found => s!"nonce must be 12 bytes, found {found}"
  | .tagLength found => s!"tag must be 16 bytes, found {found}"
  | .forged => "decryption failed (wrong key or tampered store)"
  | .notText e => "plaintext is not UTF-8: " ++ e.message

def decodeKey (text : String) : Except Error (List UInt8) :=
  match Hex.decode (Utf8.encode (Text.trim text)) with
  | .error e => .error (.keyNotHex e)
  | .ok key =>
    if key.length = 16 ∨ key.length = 32 then .ok key else .error (.keyLength key.length)

def encrypt (nonce : List UInt8) (text key : String) : Except Error String := do
  let key ← decodeKey key
  let (ciphertext, tag) := Gcm.encrypt key nonce (Utf8.encode text)
  pure (String.ofList
    ((Base64.encode ciphertext).toList ++ separator ++ (Base64.encode nonce).toList ++ separator ++
      (Base64.encode tag).toList))

def split : List Char → List (List Char)
  | [] => [[]]
  | '-' :: '-' :: rest => [] :: split rest
  | c :: rest =>
    match split rest with
    | [] => [[c]]
    | piece :: pieces => (c :: piece) :: pieces

def decodePart (name : String) (part : List Char) : Except Error (List UInt8) :=
  match Base64.decode (Utf8.encode (String.ofList part)) with
  | .ok bytes => .ok bytes
  | .error e => .error (.notBase64 name e)

def decrypt (sealed key : String) : Except Error String := do
  let key ← decodeKey key
  match split (Text.trim sealed).toList with
  | [ciphertext, nonce, tag] =>
    let ciphertext ← decodePart "ciphertext" ciphertext
    let nonce ← decodePart "nonce" nonce
    let tag ← decodePart "tag" tag
    if nonce.length ≠ nonceLength then throw (.nonceLength nonce.length)
    if tag.length ≠ tagLength then throw (.tagLength tag.length)
    match Gcm.decrypt key nonce ciphertext tag with
    | none => throw .forged
    | some bytes =>
      match Utf8.decode bytes with
      | .ok text => pure text
      | .error e => throw (.notText e)
  | parts => throw (.segments parts.length)

end Rollout.Seal
