import Mathlib.Data.List.Basic
import Rollout.Text.Utf8

namespace Rollout.Utf8

variable {i bits seen low high owed n : Nat} {b : UInt8} {rest : List UInt8}

theorem toNat_ofNat (byte : n < 256) : (UInt8.ofNat n).toNat = n := by
  simp [Nat.mod_eq_of_lt byte]

theorem scan_lead {p : Pending} (leads : lead i b.toNat = .inr p) :
    scan none i (b :: rest) = scan (some p) (i + 1) rest := by
  rw [scan, leads]

theorem scan_more (more : 1 < owed) (byte : n < 64) (inside : low ≤ n + 128)
    (inside' : n + 128 ≤ high) :
    scan (some ⟨owed, low, high, bits, seen⟩) i (UInt8.ofNat (n + 128) :: rest) =
      scan (some ⟨owed - 1, 0x80, 0xBF, bits * 64 + n, seen + 1⟩) (i + 1) rest := by
  have told : (UInt8.ofNat (n + 128)).toNat = n + 128 := toNat_ofNat (by omega)
  rw [scan]
  dsimp only
  rw [told, if_pos ⟨inside, inside'⟩, if_neg (by omega), Nat.add_sub_cancel]

theorem scan_last (byte : n < 64) (inside : low ≤ n + 128) (inside' : n + 128 ≤ high) :
    scan (some ⟨1, low, high, bits, seen⟩) i (UInt8.ofNat (n + 128) :: rest) =
      .char (Char.ofNat (bits * 64 + n)) :: scan none (i + 1) rest := by
  have told : (UInt8.ofNat (n + 128)).toNat = n + 128 := toNat_ofNat (by omega)
  rw [scan]
  dsimp only
  rw [told, if_pos ⟨inside, inside'⟩, if_pos (Nat.le_refl 1), Nat.add_sub_cancel]

theorem lead_one (short : n ≤ 127) : lead i n = .inl (.char (Char.ofNat n)) := by
  rw [lead, if_pos (by omega)]

theorem lead_two (low : 128 ≤ n) (high : n ≤ 2047) :
    lead i (n / 64 % 32 + 192) = .inr ⟨1, 0x80, 0xBF, n / 64, 1⟩ := by
  have first : n / 64 % 32 = n / 64 := Nat.mod_eq_of_lt (by omega)
  rw [lead, if_neg (by omega), if_neg (by omega), if_pos (by omega), first]
  simp

-- After the first byte of three, the second one is confined where the form would be too long or half
-- of a surrogate pair.
theorem lead_three (low : 2048 ≤ n) (high : n ≤ 65535) (whole : n.isValidChar) :
    ∃ least most, lead i (n / 4096 % 16 + 224) = .inr ⟨2, least, most, n / 4096, 1⟩ ∧
      least ≤ n / 64 % 64 + 128 ∧ n / 64 % 64 + 128 ≤ most := by
  have first : n / 4096 % 16 = n / 4096 := Nat.mod_eq_of_lt (by omega)
  rw [lead, first, if_neg (by omega), if_neg (by omega), if_neg (by omega)]
  by_cases least : n / 4096 = 0
  · refine ⟨0xA0, 0xBF, ?_, by omega, by omega⟩
    rw [if_pos (by omega), least]
  rw [if_neg (by omega)]
  by_cases surrogate : n / 4096 = 13
  · refine ⟨0x80, 0x9F, ?_, by omega, ?_⟩
    · rw [if_pos (by omega), surrogate]
    · unfold Nat.isValidChar at whole
      omega
  rw [if_neg (by omega), if_pos (by omega)]
  exact ⟨0x80, 0xBF, by simp, by omega, by omega⟩

theorem lead_four (low : 65536 ≤ n) (high : n < 1114112) :
    ∃ least most, lead i (n / 262144 % 8 + 240) = .inr ⟨3, least, most, n / 262144, 1⟩ ∧
      least ≤ n / 4096 % 64 + 128 ∧ n / 4096 % 64 + 128 ≤ most := by
  have first : n / 262144 % 8 = n / 262144 := Nat.mod_eq_of_lt (by omega)
  rw [lead, first, if_neg (by omega), if_neg (by omega), if_neg (by omega), if_neg (by omega),
    if_neg (by omega), if_neg (by omega)]
  by_cases least : n / 262144 = 0
  · refine ⟨0x90, 0xBF, ?_, by omega, by omega⟩
    rw [if_pos (by omega), least]
  rw [if_neg (by omega)]
  by_cases most : n / 262144 = 4
  · refine ⟨0x80, 0x8F, ?_, by omega, by omega⟩
    rw [if_neg (by omega), if_pos (by omega), most]
  rw [if_pos (by omega)]
  exact ⟨0x80, 0xBF, by simp, by omega, by omega⟩

theorem scan_char (i : Nat) (c : Char) (rest : List UInt8) :
    ∃ next, scan none i (String.utf8EncodeChar c ++ rest) = .char c :: scan none next rest := by
  have whole : c.val.toNat.isValidChar := c.valid
  have same : Char.ofNat c.val.toNat = c := Char.ofNat_toNat c
  unfold String.utf8EncodeChar
  generalize c.val.toNat = n at whole same ⊢
  dsimp only
  split
  · next one =>
    refine ⟨i + 1, ?_⟩
    have told : (UInt8.ofNat n).toNat = n := toNat_ofNat (by omega)
    rw [List.cons_append, scan, told, lead_one one, same]
    rfl
  split
  · next longer two =>
    refine ⟨i + 2, ?_⟩
    have told : (UInt8.ofNat (n / 64 % 32 + 192)).toNat = n / 64 % 32 + 192 :=
      toNat_ofNat (by omega)
    have all : n / 64 * 64 + n % 64 = n := by omega
    rw [List.cons_append, scan_lead (told ▸ lead_two (by omega) two), List.cons_append,
      scan_last (by omega) (by omega) (by omega), all, same]
    rfl
  split
  · next longer' three =>
    refine ⟨i + 3, ?_⟩
    have told : (UInt8.ofNat (n / 4096 % 16 + 224)).toNat = n / 4096 % 16 + 224 :=
      toNat_ofNat (by omega)
    obtain ⟨least, most, leads, inside, inside'⟩ := lead_three (i := i) (by omega) three whole
    have all : (n / 4096 * 64 + n / 64 % 64) * 64 + n % 64 = n := by omega
    rw [List.cons_append, scan_lead (told ▸ leads), List.cons_append,
      scan_more (by omega) (by omega) inside inside', List.cons_append,
      scan_last (by omega) (by omega) (by omega), all, same]
    rfl
  · next longer' longest =>
    refine ⟨i + 4, ?_⟩
    have told : (UInt8.ofNat (n / 262144 % 8 + 240)).toNat = n / 262144 % 8 + 240 :=
      toNat_ofNat (by omega)
    have bound : n < 1114112 := by
      unfold Nat.isValidChar at whole
      omega
    obtain ⟨least, most, leads, inside, inside'⟩ := lead_four (i := i) (by omega) bound
    have all : ((n / 262144 * 64 + n / 4096 % 64) * 64 + n / 64 % 64) * 64 + n % 64 = n := by omega
    rw [List.cons_append, scan_lead (told ▸ leads), List.cons_append,
      scan_more (by omega) (by omega) inside inside', List.cons_append,
      scan_more (by omega) (by omega) (by omega) (by omega), List.cons_append,
      scan_last (by omega) (by omega) (by omega), all, same]
    rfl

theorem scan_encoded (text : List Char) :
    ∀ i, scan none i (text.flatMap String.utf8EncodeChar) = text.map .char := by
  induction text with
  | nil => exact fun _ => rfl
  | cons c text ih =>
    intro i
    obtain ⟨next, scanned⟩ := scan_char i c (text.flatMap String.utf8EncodeChar)
    rw [List.flatMap_cons, scanned, ih, List.map_cons]

theorem strict_chars (text : List Char) : strict (text.map .char) = .ok text := by
  induction text with
  | nil => rfl
  | cons c text ih =>
    rw [List.map_cons, strict, ih]
    rfl

theorem decode_encode (text : String) : decode (encode text) = .ok text := by
  rw [decode, encode, scan_encoded, strict_chars]
  exact congrArg Except.ok String.ofList_toList

theorem encode_inj {first second : String} (same : encode first = encode second) :
    first = second := by
  have decoded := congrArg decode same
  rw [decode_encode, decode_encode] at decoded
  exact Except.ok.inj decoded

theorem encodeChar_ascii {n : Nat} (short : n < 128) :
    String.utf8EncodeChar (Char.ofNat n) = [UInt8.ofNat n] := by
  have valid : n.isValidChar := .inl (by omega)
  have told : (Char.ofNat n).val.toNat = n := by
    rw [Char.ofNat, dif_pos valid]
    rfl
  unfold String.utf8EncodeChar
  dsimp only
  rw [told, if_pos (by omega)]

theorem encode_ascii {bytes : List UInt8} (short : ∀ b ∈ bytes, b.toNat < 128) :
    encode (String.ofList (bytes.map fun b => Char.ofNat b.toNat)) = bytes := by
  rw [encode, String.toList_ofList]
  induction bytes with
  | nil => rfl
  | cons b bytes ih =>
    rw [List.map_cons, List.flatMap_cons, encodeChar_ascii (short b List.mem_cons_self),
      ih fun b member => short b (List.mem_cons_of_mem _ member), UInt8.ofNat_toNat]
    rfl

theorem toList_of_short {text : String} (short : ∀ b ∈ encode text, b.toNat < 128) :
    text.toList = (encode text).map fun b => Char.ofNat b.toNat := by
  have same := encode_inj (encode_ascii short)
  rw [← String.toList_inj.mpr same, String.toList_ofList]

theorem encode_short {text : String} (short : ∀ c ∈ text.toList, c.toNat < 128) :
    ∀ b ∈ encode text, b.toNat < 128 := by
  intro b member
  obtain ⟨c, inText, inBytes⟩ := List.mem_flatMap.mp member
  have one := encodeChar_ascii (short c inText)
  rw [Char.ofNat_toNat] at one
  rw [one] at inBytes
  rw [List.mem_singleton.mp inBytes, toNat_ofNat (Nat.lt_trans (short c inText) (by decide))]
  exact short c inText

end Rollout.Utf8
