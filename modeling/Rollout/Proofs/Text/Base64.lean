import Rollout.Base64
import Rollout.Proofs.Except
import Rollout.Proofs.Text.Encoding
import Rollout.Text.Blank

namespace Rollout

namespace Base64

variable {start i v w x y z pads first : Nat} {values : List Nat} {last : UInt8}
  {rest bytes : List UInt8}

theorem value?_symbol : ∀ n < 64, value? (symbol n) = some n := by decide

theorem symbol_ne_pad : ∀ n < 64, symbol n ≠ pad := by decide

theorem readTail_symbol (small : v < 64) :
    readTail start i ⟨values, last, 0, first⟩ (symbol v :: rest) =
      readTail start (i + 1) ⟨values ++ [v], symbol v, 0, first⟩ rest := by
  rw [readTail, if_neg (symbol_ne_pad v small), if_neg (Nat.lt_irrefl 0), value?_symbol v small]

theorem readTail_pad (late : 2 ≤ i) :
    readTail start i ⟨values, last, pads, first⟩ (pad :: rest) =
      readTail start (i + 1) ⟨values, last, pads + 1, if pads = 0 then i else first⟩ rest := by
  rw [readTail, if_pos rfl, if_neg (by omega)]

theorem decodeTail_read {group : List UInt8} {tail : Tail}
    (read : readTail start 0 ⟨[], 0, 0, 0⟩ group = .ok tail) (enough : 2 ≤ tail.values.length)
    (full : tail.pads + tail.values.length = 4) : decodeTail start group = tailBytes start tail := by
  have whole : (tail.pads + tail.values.length) % 4 = 0 := by rw [full]
  simp [decodeTail, read, Nat.not_lt.mpr enough, whole, bind, Except.bind]

theorem decodeTail_four (first : w < 64) (second : x < 64) (third : y < 64) (fourth : z < 64) :
    decodeTail start [symbol w, symbol x, symbol y, symbol z] =
      .ok [UInt8.ofNat (w * 4 + x / 16), UInt8.ofNat (x % 16 * 16 + y / 4),
        UInt8.ofNat (y % 4 * 64 + z)] := by
  have read : readTail start 0 ⟨[], 0, 0, 0⟩ [symbol w, symbol x, symbol y, symbol z] =
      .ok ⟨[w, x, y, z], symbol z, 0, 0⟩ := by
    rw [readTail_symbol first, readTail_symbol second, readTail_symbol third,
      readTail_symbol fourth]
    rfl
  exact decodeTail_read read (by simp) rfl

theorem decodeTail_three (first : w < 64) (second : x < 64) (third : y < 64) (whole : y % 4 = 0) :
    decodeTail start [symbol w, symbol x, symbol y, pad] =
      .ok [UInt8.ofNat (w * 4 + x / 16), UInt8.ofNat (x % 16 * 16 + y / 4)] := by
  have read : readTail start 0 ⟨[], 0, 0, 0⟩ [symbol w, symbol x, symbol y, pad] =
      .ok ⟨[w, x, y], symbol y, 1, 3⟩ := by
    rw [readTail_symbol first, readTail_symbol second, readTail_symbol third,
      readTail_pad (by decide)]
    rfl
  rw [decodeTail_read read (by simp) rfl]
  exact if_pos whole

theorem decodeTail_two (first : w < 64) (second : x < 64) (whole : x % 16 = 0) :
    decodeTail start [symbol w, symbol x, pad, pad] = .ok [UInt8.ofNat (w * 4 + x / 16)] := by
  have read : readTail start 0 ⟨[], 0, 0, 0⟩ [symbol w, symbol x, pad, pad] =
      .ok ⟨[w, x], symbol x, 2, 2⟩ := by
    rw [readTail_symbol first, readTail_symbol second, readTail_pad (by decide),
      readTail_pad (by decide)]
    rfl
  rw [decodeTail_read read (by simp) rfl]
  exact if_pos whole

theorem decodeFrom_more (first : w < 64) (second : x < 64) (third : y < 64) (fourth : z < 64)
    (more : rest ≠ []) :
    decodeFrom start (symbol w :: symbol x :: symbol y :: symbol z :: rest) =
      (decodeFrom (start + 4) rest).map fun bytes =>
        UInt8.ofNat (w * 4 + x / 16) :: UInt8.ofNat (x % 16 * 16 + y / 4) ::
          UInt8.ofNat (y % 4 * 64 + z) :: bytes := by
  obtain ⟨b, rest, rfl⟩ := List.exists_cons_of_ne_nil more
  rw [decodeFrom, value?_symbol w first, value?_symbol x second, value?_symbol y third,
    value?_symbol z fourth]

theorem encodeBytes_ne_nil (a : UInt8) (bytes : List UInt8) : encodeBytes (a :: bytes) ≠ [] := by
  match bytes with
  | [] => exact List.cons_ne_nil _ _
  | [_] => exact List.cons_ne_nil _ _
  | _ :: _ :: _ => exact List.cons_ne_nil _ _

theorem length_encodeBytes (bytes : List UInt8) : (encodeBytes bytes).length % 4 = 0 := by
  induction bytes using encodeBytes.induct with
  | case1 a b c rest ih =>
    simp only [encodeBytes, List.length_cons]
    omega
  | case2 a b => simp [encodeBytes]
  | case3 a => simp [encodeBytes]
  | case4 => rfl

theorem decodeFrom_encodeBytes (bytes : List UInt8) :
    ∀ start, decodeFrom start (encodeBytes bytes) = .ok bytes := by
  induction bytes using encodeBytes.induct with
  | case1 a b c rest ih =>
    intro start
    have boundA := a.toNat_lt
    have boundB := b.toNat_lt
    have boundC := c.toNat_lt
    rw [encodeBytes]
    generalize joined : a.toNat * 65536 + b.toNat * 256 + c.toNat = n
    have first : n / 262144 * 4 + n / 4096 % 64 / 16 = a.toNat := by omega
    have second : n / 4096 % 64 % 16 * 16 + n / 64 % 64 / 4 = b.toNat := by omega
    have third : n / 64 % 64 % 4 * 64 + n % 64 = c.toNat := by omega
    cases rest with
    | nil =>
      rw [encodeBytes]
      change decodeTail start [_, _, _, _] = _
      rw [decodeTail_four (by omega) (by omega) (by omega) (by omega), first, second, third]
      simp only [UInt8.ofNat_toNat]
    | cons d rest =>
      rw [decodeFrom_more (by omega) (by omega) (by omega) (by omega) (encodeBytes_ne_nil d rest),
        ih (start + 4), first, second, third]
      simp only [UInt8.ofNat_toNat]
      rfl
  | case2 a b =>
    intro start
    have boundA := a.toNat_lt
    have boundB := b.toNat_lt
    rw [encodeBytes]
    generalize joined : a.toNat * 1024 + b.toNat * 4 = n
    have first : n / 4096 * 4 + n / 64 % 64 / 16 = a.toNat := by omega
    have second : n / 64 % 64 % 16 * 16 + n % 64 / 4 = b.toNat := by omega
    change decodeTail start [symbol (n / 4096), symbol (n / 64 % 64), symbol (n % 64), pad] = _
    rw [decodeTail_three (by omega) (by omega) (by omega) (by omega), first, second]
    simp only [UInt8.ofNat_toNat]
  | case3 a =>
    intro start
    have boundA := a.toNat_lt
    rw [encodeBytes]
    generalize joined : a.toNat * 16 = n
    have first : n / 64 * 4 + n % 64 / 16 = a.toNat := by omega
    change decodeTail start [symbol (n / 64), symbol (n % 64), pad, pad] = _
    rw [decodeTail_two (by omega) (by omega) (by omega), first]
    simp only [UInt8.ofNat_toNat]
  | case4 => exact fun _ => rfl

theorem decode_encodeBytes (bytes : List UInt8) : decode (encodeBytes bytes) = .ok bytes := by
  unfold decode
  split
  · rw [if_neg, decodeFrom_encodeBytes]
    rintro ⟨odd, -⟩
    have whole := length_encodeBytes bytes
    omega
  · next none =>
    cases bytes with
    | nil => rfl
    | cons a rest =>
      exact absurd (List.getLast?_eq_none_iff.mp none) (encodeBytes_ne_nil a rest)

theorem mem_encodeBytes {b : UInt8} (member : b ∈ encodeBytes bytes) :
    b = pad ∨ ∃ n < 64, b = symbol n := by
  induction bytes using encodeBytes.induct with
  | case1 x y z rest ih =>
    have boundX := x.toNat_lt
    have boundY := y.toNat_lt
    have boundZ := z.toNat_lt
    rw [encodeBytes] at member
    simp only [List.mem_cons] at member
    rcases member with rfl | rfl | rfl | rfl | later
    · exact .inr ⟨_, by omega, rfl⟩
    · exact .inr ⟨_, by omega, rfl⟩
    · exact .inr ⟨_, by omega, rfl⟩
    · exact .inr ⟨_, by omega, rfl⟩
    · exact ih later
  | case2 x y =>
    have boundX := x.toNat_lt
    have boundY := y.toNat_lt
    simp only [encodeBytes, List.mem_cons, List.not_mem_nil, or_false] at member
    rcases member with rfl | rfl | rfl | rfl
    · exact .inr ⟨_, by omega, rfl⟩
    · exact .inr ⟨_, by omega, rfl⟩
    · exact .inr ⟨_, by omega, rfl⟩
    · exact .inl rfl
  | case3 x =>
    have boundX := x.toNat_lt
    simp only [encodeBytes, List.mem_cons, List.not_mem_nil, or_false] at member
    rcases member with rfl | rfl | rfl | rfl
    · exact .inr ⟨_, by omega, rfl⟩
    · exact .inr ⟨_, by omega, rfl⟩
    · exact .inl rfl
    · exact .inl rfl
  | case4 => cases member

-- A byte that shows as a letter, a digit or a sign of its own.
def Plain (b : UInt8) : Prop :=
  b.toNat < 128 ∧ Text.isBlank (Char.ofNat b.toNat) = false ∧ Char.ofNat b.toNat ≠ '-'

instance (b : UInt8) : Decidable (Plain b) := inferInstanceAs (Decidable (_ ∧ _))

theorem symbol_plain : ∀ n < 64, Plain (symbol n) := by decide

theorem encodeBytes_plain {b : UInt8} (member : b ∈ encodeBytes bytes) : Plain b := by
  rcases mem_encodeBytes member with rfl | ⟨n, small, rfl⟩
  · decide
  · exact symbol_plain n small

theorem encode_plain {c : Char} (member : c ∈ (encode bytes).toList) :
    Text.isBlank c = false ∧ c ≠ '-' := by
  rw [encode, String.toList_ofList] at member
  obtain ⟨b, inBytes, rfl⟩ := List.mem_map.mp member
  exact (encodeBytes_plain inBytes).2

theorem encode_bytes (bytes : List UInt8) : Utf8.encode (encode bytes) = encodeBytes bytes := by
  rw [encode, Utf8.encode_ascii fun b member => (encodeBytes_plain member).1]

theorem decode_encode (bytes : List UInt8) : decode (Utf8.encode (encode bytes)) = .ok bytes := by
  rw [encode_bytes, decode_encodeBytes]

theorem symbol_of_value? {b : UInt8} (read : value? b = some v) : v < 64 ∧ b = symbol v := by
  have all : ∀ n < 256, ∀ v ∈ value? (UInt8.ofNat n), v < 64 ∧ UInt8.ofNat n = symbol v := by
    decide +kernel
  have here := all b.toNat b.toNat_lt v
  rw [UInt8.ofNat_toNat] at here
  exact here read

theorem readTail_padded {group : List UInt8} {tail tail' : Tail} (padded : 0 < tail.pads)
    (read : readTail start i tail group = .ok tail') :
    ∃ more, group = List.replicate more pad ∧ tail'.values = tail.values ∧
      tail'.pads = tail.pads + more := by
  induction group generalizing i tail with
  | nil =>
    obtain rfl := Except.ok.inj read
    exact ⟨0, rfl, rfl, rfl⟩
  | cons b rest ih =>
    unfold readTail at read
    split at read
    · next same =>
      split at read
      · cases read
      · obtain ⟨more, rfl, values, pads⟩ := ih (Nat.succ_pos _) read
        exact ⟨more + 1, by rw [same, List.replicate_succ], values, by rw [pads]; dsimp only; omega⟩
    · cases read

-- What is read of a group without padding so far: symbols, and padding behind them.
theorem readTail_parts {group : List UInt8} {tail tail' : Tail} (bare : tail.pads = 0)
    (read : readTail start i tail group = .ok tail') :
    ∃ values, (∀ v ∈ values, v < 64) ∧ tail'.values = tail.values ++ values ∧
      group = values.map symbol ++ List.replicate tail'.pads pad := by
  induction group generalizing i tail with
  | nil =>
    obtain rfl := Except.ok.inj read
    exact ⟨[], by simp, by simp, by simp [bare]⟩
  | cons b rest ih =>
    unfold readTail at read
    split at read
    · next same =>
      split at read
      · cases read
      · obtain ⟨more, rfl, values, pads⟩ := readTail_padded (Nat.succ_pos _) read
        have count : tail'.pads = more + 1 := by
          rw [pads]
          dsimp only
          omega
        exact ⟨[], by simp, by simp [values], by rw [same, count]; rfl⟩
    · split at read
      · cases read
      · split at read
        · cases read
        · next v found =>
          obtain ⟨small, same⟩ := symbol_of_value? found
          have bare' : ({ tail with values := tail.values ++ [v], lastByte := b } : Tail).pads = 0 :=
            bare
          obtain ⟨values, bound, read', rfl⟩ := ih bare' read
          refine ⟨v :: values, List.forall_mem_cons.mpr ⟨small, bound⟩, ?_, ?_⟩
          · rw [read', List.append_assoc, List.singleton_append]
          · rw [same, List.map_cons, List.cons_append]

theorem decodeTail_parts {group : List UInt8} (decoded : decodeTail start group = .ok bytes) :
    ∃ tail, readTail start 0 ⟨[], 0, 0, 0⟩ group = .ok tail ∧ 2 ≤ tail.values.length ∧
      (tail.pads + tail.values.length) % 4 = 0 ∧ tailBytes start tail = .ok bytes := by
  obtain ⟨tail, read, decoded⟩ := bind_eq_ok.mp decoded
  dsimp only [bind, Except.bind] at decoded
  split at decoded
  · cases decoded
  · split at decoded
    · cases decoded
    · next enough whole => exact ⟨tail, read, Nat.le_of_not_lt enough, not_not.mp whole, decoded⟩

theorem encodeBytes_two (high : w < 64) (low : x < 64) (whole : x % 16 = 0) :
    encodeBytes [UInt8.ofNat (w * 4 + x / 16)] = [symbol w, symbol x, pad, pad] := by
  have told : (UInt8.ofNat (w * 4 + x / 16)).toNat = w * 4 + x / 16 := Utf8.toNat_ofNat (by omega)
  have first : (w * 4 + x / 16) * 16 / 64 = w := by omega
  have second : (w * 4 + x / 16) * 16 % 64 = x := by omega
  rw [encodeBytes, told, first, second]

theorem encodeBytes_three (high : w < 64) (middle : x < 64) (low : y < 64) (whole : y % 4 = 0) :
    encodeBytes [UInt8.ofNat (w * 4 + x / 16), UInt8.ofNat (x % 16 * 16 + y / 4)] =
      [symbol w, symbol x, symbol y, pad] := by
  have told : (UInt8.ofNat (w * 4 + x / 16)).toNat = w * 4 + x / 16 := Utf8.toNat_ofNat (by omega)
  have told' : (UInt8.ofNat (x % 16 * 16 + y / 4)).toNat = x % 16 * 16 + y / 4 :=
    Utf8.toNat_ofNat (by omega)
  rw [encodeBytes, told, told']
  generalize joined : (w * 4 + x / 16) * 1024 + (x % 16 * 16 + y / 4) * 4 = n
  have first : n / 4096 = w := by omega
  have second : n / 64 % 64 = x := by omega
  have third : n % 64 = y := by omega
  rw [first, second, third]

theorem encodeBytes_four (one : w < 64) (two : x < 64) (three : y < 64) (four : z < 64)
    (rest : List UInt8) :
    encodeBytes (UInt8.ofNat (w * 4 + x / 16) :: UInt8.ofNat (x % 16 * 16 + y / 4) ::
        UInt8.ofNat (y % 4 * 64 + z) :: rest) =
      symbol w :: symbol x :: symbol y :: symbol z :: encodeBytes rest := by
  have told : (UInt8.ofNat (w * 4 + x / 16)).toNat = w * 4 + x / 16 := Utf8.toNat_ofNat (by omega)
  have told' : (UInt8.ofNat (x % 16 * 16 + y / 4)).toNat = x % 16 * 16 + y / 4 :=
    Utf8.toNat_ofNat (by omega)
  have told'' : (UInt8.ofNat (y % 4 * 64 + z)).toNat = y % 4 * 64 + z :=
    Utf8.toNat_ofNat (by omega)
  rw [encodeBytes, told, told', told'']
  generalize joined : (w * 4 + x / 16) * 65536 + (x % 16 * 16 + y / 4) * 256 + (y % 4 * 64 + z) = n
  have first : n / 262144 = w := by omega
  have second : n / 4096 % 64 = x := by omega
  have third : n / 64 % 64 = y := by omega
  have fourth : n % 64 = z := by omega
  rw [first, second, third, fourth]

theorem decodeTail_written {group : List UInt8} (short : group.length ≤ 4)
    (decoded : decodeTail start group = .ok bytes) : group = encodeBytes bytes := by
  obtain ⟨tail, read, enough, whole, told⟩ := decodeTail_parts decoded
  obtain ⟨values, small, same, rfl⟩ := readTail_parts rfl read
  rw [List.nil_append] at same
  rw [List.length_append, List.length_map, List.length_replicate] at short
  rw [same] at enough whole
  unfold tailBytes at told
  rw [same] at told
  match values with
  | [] => simp at enough
  | [_] => simp at enough
  | [a, b] =>
    obtain pads : tail.pads = 2 := by
      simp only [List.length_cons, List.length_nil] at short whole
      omega
    simp only [List.forall_mem_cons] at small
    dsimp only at told
    split at told
    · next zero =>
      obtain rfl := Except.ok.inj told
      rw [encodeBytes_two small.1 small.2.1 zero, pads]
      rfl
    · cases told
  | [a, b, c] =>
    obtain pads : tail.pads = 1 := by
      simp only [List.length_cons, List.length_nil] at short whole
      omega
    simp only [List.forall_mem_cons] at small
    dsimp only at told
    split at told
    · next zero =>
      obtain rfl := Except.ok.inj told
      rw [encodeBytes_three small.1 small.2.1 small.2.2.1 zero, pads]
      rfl
    · cases told
  | [a, b, c, d] =>
    obtain pads : tail.pads = 0 := by
      simp only [List.length_cons, List.length_nil] at short
      omega
    simp only [List.forall_mem_cons] at small
    obtain rfl := Except.ok.inj told
    rw [encodeBytes_four small.1 small.2.1 small.2.2.1 small.2.2.2.1, pads]
    rfl
  | _ :: _ :: _ :: _ :: _ :: more =>
    simp only [List.length_cons] at short
    omega

theorem decodeFrom_symbols {a b c d e : UInt8}
    (decoded : decodeFrom start (a :: b :: c :: d :: e :: rest) = .ok bytes) :
    ∃ w x y z more, value? a = some w ∧ value? b = some x ∧ value? c = some y ∧
      value? d = some z ∧ decodeFrom (start + 4) (e :: rest) = .ok more ∧
      bytes = UInt8.ofNat (w * 4 + x / 16) :: UInt8.ofNat (x % 16 * 16 + y / 4) ::
        UInt8.ofNat (y % 4 * 64 + z) :: more := by
  unfold decodeFrom at decoded
  split at decoded
  · next w x y z first second third fourth =>
    obtain ⟨more, later, told⟩ := map_eq_ok.mp decoded
    exact ⟨w, x, y, z, more, first, second, third, fourth, later, told.symm⟩
  all_goals cases decoded

theorem decodeFrom_written : ∀ {text : List UInt8} {start : Nat} {bytes : List UInt8},
    decodeFrom start text = .ok bytes → text = encodeBytes bytes
  | [], _, _, decoded => by
    obtain rfl := Except.ok.inj decoded
    rfl
  | [_], _, _, decoded => decodeTail_written (by simp) decoded
  | [_, _], _, _, decoded => decodeTail_written (by simp) decoded
  | [_, _, _], _, _, decoded => decodeTail_written (by simp) decoded
  | [_, _, _, _], _, _, decoded => decodeTail_written (by simp) decoded
  | a :: b :: c :: d :: e :: rest, start, bytes, decoded => by
    obtain ⟨w, x, y, z, more, first, second, third, fourth, later, rfl⟩ :=
      decodeFrom_symbols decoded
    obtain ⟨smallW, rfl⟩ := symbol_of_value? first
    obtain ⟨smallX, rfl⟩ := symbol_of_value? second
    obtain ⟨smallY, rfl⟩ := symbol_of_value? third
    obtain ⟨smallZ, rfl⟩ := symbol_of_value? fourth
    rw [encodeBytes_four smallW smallX smallY smallZ, ← decodeFrom_written later]

theorem decode_written {text : List UInt8} (decoded : decode text = .ok bytes) :
    text = encodeBytes bytes := by
  unfold decode at decoded
  split at decoded
  · split at decoded
    · cases decoded
    · exact decodeFrom_written decoded
  · next none =>
    obtain rfl := Except.ok.inj decoded
    rw [List.getLast?_eq_none_iff.mp none]
    rfl

theorem decode_iff {text : String} {bytes : List UInt8} :
    decode (Utf8.encode text) = .ok bytes ↔ text = encode bytes := by
  constructor
  · intro decoded
    have written := decode_written decoded
    rw [← encode_bytes] at written
    exact Utf8.encode_inj written
  · rintro rfl
    exact decode_encode bytes

end Base64

end Rollout
