import Rollout.Credential.Seal
import Rollout.Proofs.Cipher.Gcm
import Rollout.Proofs.Text.Base64

namespace Rollout.Seal

variable {nonce : List UInt8} {text key sealed_ : String} {bytes : List UInt8}

theorem split_part {part : List Char} (plain : '-' ∉ part) (rest : List Char) :
    split (part ++ separator ++ rest) = part :: split rest := by
  induction part with
  | nil => rfl
  | cons c part ih =>
    have first : c ≠ '-' := fun same => plain (same ▸ List.mem_cons_self)
    rw [List.cons_append, List.cons_append, split,
      ih fun member => plain (List.mem_cons_of_mem _ member)]
    intro rest same
    exact absurd same first

theorem split_last {part : List Char} (plain : '-' ∉ part) : split part = [part] := by
  induction part with
  | nil => rfl
  | cons c part ih =>
    have first : c ≠ '-' := fun same => plain (same ▸ List.mem_cons_self)
    rw [split, ih fun member => plain (List.mem_cons_of_mem _ member)]
    intro rest same
    exact absurd same first

def joined (ciphertext nonce tag : List UInt8) : List Char :=
  (Base64.encode ciphertext).toList ++ separator ++ (Base64.encode nonce).toList ++ separator ++
    (Base64.encode tag).toList

theorem split_joined (ciphertext nonce tag : List UInt8) :
    split (joined ciphertext nonce tag) = [(Base64.encode ciphertext).toList,
      (Base64.encode nonce).toList, (Base64.encode tag).toList] := by
  have plain : ∀ bytes, '-' ∉ (Base64.encode bytes).toList :=
    fun bytes member => (Base64.encode_plain member).2 rfl
  have parted : joined ciphertext nonce tag = (Base64.encode ciphertext).toList ++ separator ++
      ((Base64.encode nonce).toList ++ separator ++ (Base64.encode tag).toList) := by
    simp only [joined, List.append_assoc]
  rw [parted, split_part (plain _), split_part (plain _), split_last (plain _)]

theorem joined_unblank {ciphertext nonce tag : List UInt8} :
    ∀ c ∈ joined ciphertext nonce tag, Text.isBlank c = false := by
  intro c member
  have dash : ∀ c ∈ separator, Text.isBlank c = false := by
    have all : (separator.all fun c => !Text.isBlank c) = true := rfl
    simpa using all
  have letter : ∀ bytes, ∀ c ∈ (Base64.encode bytes).toList, Text.isBlank c = false :=
    fun bytes c member => (Base64.encode_plain member).1
  rw [joined] at member
  simp only [List.mem_append] at member
  rcases member with (((first | between) | second) | between) | third
  · exact letter _ c first
  · exact dash c between
  · exact letter _ c second
  · exact dash c between
  · exact letter _ c third

theorem trim_joined (ciphertext nonce tag : List UInt8) :
    Text.trim (String.ofList (joined ciphertext nonce tag)) =
      String.ofList (joined ciphertext nonce tag) := by
  refine Text.trim_plain ?_
  rw [String.toList_ofList]
  exact joined_unblank

theorem decodePart_encode (name : String) (bytes : List UInt8) :
    decodePart name (Base64.encode bytes).toList = .ok bytes := by
  rw [decodePart, String.ofList_toList, Base64.decode_encode]

theorem decodeKey_length {key : String} (decoded : decodeKey key = .ok bytes) :
    bytes.length = 16 ∨ bytes.length = 32 := by
  unfold decodeKey at decoded
  split at decoded
  · cases decoded
  · split at decoded
    · next whole =>
      obtain rfl := Except.ok.inj decoded
      exact whole
    · cases decoded

theorem encrypt_parts (sealed : encrypt nonce text key = .ok sealed_) :
    ∃ bytes, decodeKey key = .ok bytes ∧ sealed_ = String.ofList
      (joined (Gcm.encrypt bytes nonce (Utf8.encode text)).1 nonce
        (Gcm.encrypt bytes nonce (Utf8.encode text)).2) := by
  unfold encrypt at sealed
  cases decoded : decodeKey key with
  | error e => rw [decoded] at sealed; cases sealed
  | ok bytes =>
    rw [decoded] at sealed
    exact ⟨bytes, rfl, (Except.ok.inj sealed).symm⟩

theorem decrypt_encrypt (twelve : nonce.length = nonceLength)
    (sealed : encrypt nonce text key = .ok sealed_) : decrypt sealed_ key = .ok text := by
  obtain ⟨bytes, decoded, rfl⟩ := encrypt_parts sealed
  have enough : 4 ≤ bytes.length := by
    have sizes := decodeKey_length decoded
    omega
  have opened := Gcm.decrypt_encrypt enough twelve (Utf8.encode text)
  have tag : (Gcm.encrypt bytes nonce (Utf8.encode text)).2.length = tagLength :=
    Gcm.length_tag enough twelve _
  simp only [decrypt, decoded, trim_joined, String.toList_ofList, split_joined, decodePart_encode,
    twelve, tag, opened, Utf8.decode_encode, bind, Except.bind, ne_eq, not_true_eq_false, if_false,
    pure, Except.pure]

end Rollout.Seal
