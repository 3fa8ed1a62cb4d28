import Rollout.Proofs.Credential.Sealing
import Rollout.Proofs.Text.Hex
import Rollout.Proofs.Text.Splitting

namespace Rollout.Seal

open Text

variable {nonce ciphertext tag bytes : List UInt8} {text key other document : String}

-- What a text stands for as a key, blanks around it not counted.
def IsKey (key : String) (bytes : List UInt8) : Prop :=
  Hex.decode (Utf8.encode (trim key)) = .ok bytes ∧ (bytes.length = 16 ∨ bytes.length = 32)

-- The same digits, in capitals or not, with any blanks around them.
def SameDigits (key other : String) : Prop :=
  (trim other).toList.map Char.toLower = (trim key).toList.map Char.toLower

theorem decodeKey_iff : decodeKey key = .ok bytes ↔ IsKey key bytes := by
  unfold decodeKey IsKey
  constructor
  · intro decoded
    split at decoded
    · cases decoded
    · next found =>
      split at decoded
      · next whole =>
        obtain rfl := Except.ok.inj decoded
        exact ⟨found, whole⟩
      · cases decoded
  · rintro ⟨found, whole⟩
    rw [found]
    exact if_pos whole

theorem decodeKey_encode (whole : bytes.length = 16 ∨ bytes.length = 32) :
    decodeKey (Hex.encode bytes) = .ok bytes := by
  refine decodeKey_iff.mpr ⟨?_, whole⟩
  rw [trim_plain (Hex.encode_unblank _), Hex.decode_encode]

theorem IsKey.same_iff (is : IsKey key bytes) : SameDigits key other ↔ IsKey other bytes := by
  obtain ⟨digits, whole⟩ := is
  unfold SameDigits
  rw [IsKey, Hex.decode_iff, ← Hex.decode_iff.mp digits, and_iff_left whole]

-- What a text is made of that may be opened: three parts in base 64, with the lengths that the last
-- two have to have.
def IsSealed (document : String) (ciphertext nonce tag : List UInt8) : Prop :=
  split (trim document).toList = [(Base64.encode ciphertext).toList, (Base64.encode nonce).toList,
      (Base64.encode tag).toList] ∧
    nonce.length = nonceLength ∧ tag.length = tagLength

def unpack (document : String) : Except Error (List UInt8 × List UInt8 × List UInt8) := do
  match split (trim document).toList with
  | [ciphertext, nonce, tag] =>
    let ciphertext ← decodePart "ciphertext" ciphertext
    let nonce ← decodePart "nonce" nonce
    let tag ← decodePart "tag" tag
    if nonce.length ≠ nonceLength then throw (.nonceLength nonce.length)
    if tag.length ≠ tagLength then throw (.tagLength tag.length)
    pure (ciphertext, nonce, tag)
  | parts => throw (.segments parts.length)

theorem decodePart_iff {name : String} {part : List Char} :
    decodePart name part = .ok bytes ↔ part = (Base64.encode bytes).toList := by
  unfold decodePart
  constructor
  · intro decoded
    split at decoded
    · next found =>
      obtain rfl := Except.ok.inj decoded
      rw [← Base64.decode_iff.mp found, String.toList_ofList]
    · cases decoded
  · rintro rfl
    rw [String.ofList_toList, Base64.decode_encode]

theorem unpack_iff : unpack document = .ok (ciphertext, nonce, tag) ↔
    IsSealed document ciphertext nonce tag := by
  unfold unpack IsSealed
  constructor
  · intro unpacked
    split at unpacked
    · next first second third parts =>
      obtain ⟨ciphertext', one, unpacked⟩ := bind_eq_ok.mp unpacked
      obtain ⟨nonce', two, unpacked⟩ := bind_eq_ok.mp unpacked
      obtain ⟨tag', three, unpacked⟩ := bind_eq_ok.mp unpacked
      dsimp only [bind, Except.bind] at unpacked
      split at unpacked
      · cases unpacked
      · next twelve =>
        split at unpacked
        · cases unpacked
        · next sixteen =>
          obtain ⟨rfl, same⟩ := Prod.mk.inj (Except.ok.inj unpacked)
          obtain ⟨rfl, rfl⟩ := Prod.mk.inj same
          rw [parts, decodePart_iff.mp one, decodePart_iff.mp two, decodePart_iff.mp three]
          exact ⟨rfl, not_not.mp twelve, not_not.mp sixteen⟩
    · cases unpacked
  · rintro ⟨parts, twelve, sixteen⟩
    rw [parts]
    simp only [decodePart_encode, twelve, sixteen, bind, Except.bind, ne_eq, not_true_eq_false,
      if_false, pure, Except.pure]

def finish : Option (List UInt8) → Except Error String
  | none => .error .forged
  | some bytes =>
    match Utf8.decode bytes with
    | .ok text => .ok text
    | .error e => .error (.notText e)

-- Opening with any cipher: it is asked last, with the key and the parts that were read.
def decryptWith (cipher : List UInt8 → List UInt8 → List UInt8 → List UInt8 → Option (List UInt8))
    (document key : String) : Except Error String := do
  let key ← decodeKey key
  let (ciphertext, nonce, tag) ← unpack document
  finish (cipher key nonce ciphertext tag)

theorem decrypt_eq (document key : String) :
    decrypt document key = decryptWith Gcm.decrypt document key := by
  unfold decrypt decryptWith unpack finish
  refine congrArg _ (funext fun key => ?_)
  match split (trim document).toList with
  | [] => rfl
  | [_] => rfl
  | [_, _] => rfl
  | _ :: _ :: _ :: _ :: _ => rfl
  | [first, second, third] =>
    dsimp only
    cases decodePart "ciphertext" first with
    | error e => rfl
    | ok ciphertext =>
      cases decodePart "nonce" second with
      | error e => rfl
      | ok nonce =>
        cases decodePart "tag" third with
        | error e => rfl
        | ok tag =>
          dsimp only [bind, Except.bind]
          split
          · rfl
          · split
            · rfl
            · rfl

theorem decryptWith_asked (is : IsKey key bytes) (sealed : IsSealed document ciphertext nonce tag)
    (cipher : List UInt8 → List UInt8 → List UInt8 → List UInt8 → Option (List UInt8)) :
    decryptWith cipher document key = finish (cipher bytes nonce ciphertext tag) := by
  unfold decryptWith
  rw [decodeKey_iff.mpr is, unpack_iff.mpr sealed]
  rfl

-- Refused with one error, whatever the cipher would answer.
def Refused (document key : String) : Prop :=
  ∃ e, decrypt document key = .error e ∧ ∀ cipher, decryptWith cipher document key = .error e

theorem refused_iff : Refused document key ↔
    ¬ ∃ bytes ciphertext nonce tag, IsKey key bytes ∧ IsSealed document ciphertext nonce tag := by
  constructor
  · rintro ⟨e, -, refused⟩ ⟨bytes, ciphertext, nonce, tag, is, sealed⟩
    have opened := decryptWith_asked is sealed fun _ _ _ _ => some []
    rw [refused] at opened
    cases opened
  · intro none
    have early : ∃ e, ∀ cipher, decryptWith cipher document key = .error e := by
      unfold decryptWith
      cases decoded : decodeKey key with
      | error e => exact ⟨e, fun _ => rfl⟩
      | ok bytes =>
        cases unpacked : unpack document with
        | error e => exact ⟨e, fun _ => rfl⟩
        | ok parts =>
          obtain ⟨ciphertext, nonce, tag⟩ := parts
          exact absurd ⟨bytes, ciphertext, nonce, tag, decodeKey_iff.mp decoded,
            unpack_iff.mp unpacked⟩ none
    obtain ⟨e, refused⟩ := early
    exact ⟨e, by rw [decrypt_eq, refused], refused⟩

theorem joined_sealed {first last : String} (front : Blank first) (back : Blank last)
    (twelve : nonce.length = nonceLength) (sixteen : tag.length = tagLength) :
    IsSealed (first ++ String.ofList (joined ciphertext nonce tag) ++ last) ciphertext nonce tag := by
  have plain : ∀ c ∈ (String.ofList (joined ciphertext nonce tag)).toList, isBlank c = false := by
    rw [String.toList_ofList]
    exact joined_unblank
  refine ⟨?_, twelve, sixteen⟩
  rw [trim_surrounded front back plain, String.toList_ofList, split_joined]

-- What is sealed has its form and opens with every text of its key; the cipher is asked just where a
-- text and a key have theirs.
theorem sealed_returns :
    (∀ text key bytes nonce, IsKey key bytes → nonce.length = nonceLength →
      (∀ other, SameDigits key other ↔ IsKey other bytes) ∧
      ∃ document ciphertext tag, encrypt nonce text key = .ok document ∧
        split document.toList = [(Base64.encode ciphertext).toList, (Base64.encode nonce).toList,
          (Base64.encode tag).toList] ∧
        ciphertext.length = (Utf8.encode text).length ∧ tag.length = tagLength ∧
        ∀ first last other, Blank first → Blank last → SameDigits key other →
          decrypt (first ++ document ++ last) other = .ok text) ∧
    ∀ document key, Refused document key ↔
      ¬ ∃ bytes ciphertext nonce tag, IsKey key bytes ∧ IsSealed document ciphertext nonce tag := by
  refine ⟨?_, fun document key => refused_iff⟩
  intro text key bytes nonce is twelve
  have enough : 4 ≤ bytes.length := by
    have sizes := is.2
    omega
  have sixteen : (Gcm.encrypt bytes nonce (Utf8.encode text)).2.length = tagLength :=
    Gcm.length_tag enough twelve _
  have sealed : encrypt nonce text key = .ok (String.ofList
      (joined (Gcm.encrypt bytes nonce (Utf8.encode text)).1 nonce
        (Gcm.encrypt bytes nonce (Utf8.encode text)).2)) := by
    rw [encrypt, decodeKey_iff.mpr is]
    rfl
  refine ⟨fun other => is.same_iff, _, (Gcm.encrypt bytes nonce (Utf8.encode text)).1,
    (Gcm.encrypt bytes nonce (Utf8.encode text)).2, sealed, ?_, ?_, sixteen, ?_⟩
  · rw [String.toList_ofList, split_joined]
  · exact Gcm.length_crypt enough twelve _
  · intro first last other front back same
    rw [decrypt_eq, decryptWith_asked (is.same_iff.mp same) (joined_sealed front back twelve sixteen),
      Gcm.decrypt_encrypt enough twelve, finish, Utf8.decode_encode]

def vaultKey : String := " 000102030405060708090A0B0C0D0E0F\n"

def vaultPlainKey : String := "000102030405060708090a0b0c0d0e0f"

def vaultNonce : List UInt8 := List.replicate 12 1

theorem vault_returns :
    (∃ document, encrypt vaultNonce "" vaultKey = .ok document ∧
      decrypt ("\n" ++ document ++ " ") vaultPlainKey = .ok "") ∧
    Refused "YQ==--YQ==--YQ==" vaultPlainKey := by
  have is : IsKey vaultKey ((List.range 16).map UInt8.ofNat) := ⟨by decide +kernel, .inl rfl⟩
  have same : SameDigits vaultKey vaultPlainKey := by
    unfold SameDigits
    decide +kernel
  obtain ⟨-, document, ciphertext, tag, sealed, -, -, -, opens⟩ :=
    sealed_returns.1 "" vaultKey _ vaultNonce is rfl
  refine ⟨⟨document, sealed, opens "\n" " " vaultPlainKey ?_ ?_ same⟩, ?_⟩
  · exact List.all_eq_true.mp (by decide)
  · exact List.all_eq_true.mp (by decide)
  · refine (sealed_returns.2 _ _).mpr ?_
    rintro ⟨bytes, ciphertext, nonce, tag, -, parts, twelve, -⟩
    have segments : split (trim "YQ==--YQ==--YQ==").toList =
        ["YQ==".toList, "YQ==".toList, "YQ==".toList] := by decide +kernel
    have read : Base64.decode (Utf8.encode "YQ==") = .ok [97] := by decide +kernel
    rw [segments] at parts
    have second := (List.cons.inj (List.cons.inj parts).2).1
    have again := Base64.decode_iff.mpr (String.toList_inj.mp second)
    rw [read] at again
    obtain rfl := Except.ok.inj again
    cases twelve

end Rollout.Seal
