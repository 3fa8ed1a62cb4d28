import Rollout.Hex
import Rollout.Proofs.Except
import Rollout.Proofs.Text.Encoding
import Rollout.Text.Blank

namespace Rollout

namespace Hex

open Text

variable {b : UInt8} {c : Char} {n : Nat}

theorem value?_some (found : value? b = some n) :
    n < 16 ∧ b.toNat < 128 ∧ (Char.ofNat b.toNat).toLower = hexDigit n := by
  have all : ∀ k < 256, ∀ n ∈ value? (UInt8.ofNat k),
      n < 16 ∧ k < 128 ∧ (Char.ofNat k).toLower = hexDigit n := by decide +kernel
  have here := all b.toNat b.toNat_lt n
  rw [UInt8.ofNat_toNat] at here
  exact here found

theorem value?_digit (small : n < 16) (same : (Char.ofNat b.toNat).toLower = hexDigit n) :
    value? b = some n := by
  have all : ∀ k < 256, ∀ n < 16, (Char.ofNat k).toLower = hexDigit n →
      value? (UInt8.ofNat k) = some n := by decide +kernel
  have here := all b.toNat b.toNat_lt n small
  rw [UInt8.ofNat_toNat] at here
  exact here same

-- Only letters of ASCII have another case, so a digit in either case is of ASCII.
theorem toNat_of_lower (small : n < 16) (same : c.toLower = hexDigit n) : c.toNat < 128 := by
  have digits : ∀ n < 16, (hexDigit n).toNat < 128 := by decide
  by_contra wide
  have stays : c.toLower = c := by
    refine dif_neg ?_
    rintro ⟨-, capital⟩
    have capital : c.toNat ≤ 90 := capital
    omega
  rw [same] at stays
  exact wide (stays ▸ digits n small)

theorem decodeFrom_written : ∀ {digits bytes : List UInt8} {i : Nat}, digits.length % 2 = 0 →
    decodeFrom i digits = .ok bytes →
      (∀ b ∈ digits, b.toNat < 128) ∧
        (digits.map fun b => (Char.ofNat b.toNat).toLower) = (encode bytes).toList
  | [], _, _, _, decoded => by
    obtain rfl := Except.ok.inj decoded
    exact ⟨by simp, rfl⟩
  | [_], _, _, even, _ => by simp at even
  | a :: b :: rest, bytes, i, even, decoded => by
    unfold decodeFrom at decoded
    split at decoded
    · next x y first second =>
      obtain ⟨more, later, rfl⟩ := map_eq_ok.mp decoded
      obtain ⟨small, short, lower⟩ := value?_some first
      obtain ⟨small', short', lower'⟩ := value?_some second
      have even : rest.length % 2 = 0 := by
        simp only [List.length_cons] at even
        omega
      obtain ⟨shorts, lowers⟩ := decodeFrom_written even later
      have told : (UInt8.ofNat (16 * x + y)).toNat = 16 * x + y := Utf8.toNat_ofNat (by omega)
      have high : (16 * x + y) / 16 = x := by omega
      have low : (16 * x + y) % 16 = y := by omega
      refine ⟨List.forall_mem_cons.mpr ⟨short, List.forall_mem_cons.mpr ⟨short', shorts⟩⟩, ?_⟩
      rw [encode_cons, told, high, low, List.map_cons, List.map_cons, lower, lower', lowers]
    · cases decoded
    · cases decoded

theorem decodeFrom_digits (bytes : List UInt8) : ∀ {digits : List UInt8} {i : Nat},
    (digits.map fun b => (Char.ofNat b.toNat).toLower) = (encode bytes).toList →
      digits.length % 2 = 0 ∧ decodeFrom i digits = .ok bytes := by
  induction bytes with
  | nil =>
    intro digits i same
    obtain rfl := List.map_eq_nil_iff.mp same
    exact ⟨rfl, rfl⟩
  | cons byte bytes ih =>
    intro digits i same
    have bound := byte.toNat_lt
    rw [encode_cons] at same
    obtain ⟨a, digits, rfl, first, same⟩ := List.map_eq_cons_iff.mp same
    obtain ⟨b, rest, rfl, second, same⟩ := List.map_eq_cons_iff.mp same
    have high : value? a = some (byte.toNat / 16) := value?_digit (by omega) first
    have low : value? b = some (byte.toNat % 16) := value?_digit (by omega) second
    obtain ⟨even, later⟩ := ih (i := i + 2) same
    refine ⟨by simp only [List.length_cons]; omega, ?_⟩
    rw [decodeFrom, high, low]
    dsimp only
    rw [later, Nat.div_add_mod, UInt8.ofNat_toNat]
    rfl

theorem decode_iff {text : String} {bytes : List UInt8} :
    decode (Utf8.encode text) = .ok bytes ↔
      text.toList.map Char.toLower = (encode bytes).toList := by
  unfold decode
  constructor
  · intro decoded
    split at decoded
    · cases decoded
    · next even =>
      obtain ⟨short, lower⟩ := decodeFrom_written (Nat.mod_two_ne_one.mp even) decoded
      rw [Utf8.toList_of_short short, List.map_map]
      exact lower
  · intro same
    have short : ∀ c ∈ text.toList, c.toNat < 128 := by
      intro c member
      have lowered : c.toLower ∈ (encode bytes).toList := same ▸ List.mem_map_of_mem member
      obtain ⟨n, small, digit⟩ := mem_encode lowered
      exact toNat_of_lower small digit
    rw [Utf8.toList_of_short (Utf8.encode_short short), List.map_map] at same
    obtain ⟨even, decoded⟩ := decodeFrom_digits bytes (i := 0) same
    rw [if_neg (by omega), decoded]

theorem decode_encode (bytes : List UInt8) : decode (Utf8.encode (encode bytes)) = .ok bytes := by
  have lower : ∀ n < 16, (Text.hexDigit n).toLower = Text.hexDigit n := by decide
  refine decode_iff.mpr ?_
  refine (List.map_congr_left fun c member => ?_).trans (List.map_id _)
  obtain ⟨n, small, rfl⟩ := mem_encode member
  exact lower n small

theorem encode_unblank (bytes : List UInt8) :
    ∀ c ∈ (encode bytes).toList, Text.isBlank c = false := by
  have digits : ∀ n < 16, Text.isBlank (Text.hexDigit n) = false := by decide
  intro c member
  obtain ⟨n, bound, rfl⟩ := mem_encode member
  exact digits n bound

end Hex

end Rollout
