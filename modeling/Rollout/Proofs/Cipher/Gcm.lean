import Mathlib.Data.List.Basic
import Rollout.Cipher.Gcm

namespace Rollout

namespace Aes

theorem length_xorBytes (xs ys : List UInt8) :
    (xorBytes xs ys).length = min xs.length ys.length :=
  List.length_zipWith

theorem xorBytes_xorBytes : ∀ {xs ys : List UInt8}, xs.length ≤ ys.length →
    xorBytes (xorBytes xs ys) ys = xs
  | [], _, _ => rfl
  | x :: xs, [], short => absurd short (by simp)
  | x :: xs, y :: ys, short => by
    have rest := xorBytes_xorBytes (Nat.le_of_succ_le_succ short)
    unfold xorBytes at rest ⊢
    rw [List.zipWith_cons_cons, List.zipWith_cons_cons, rest, UInt8.xor_assoc, UInt8.xor_self,
      UInt8.xor_zero]

def Sized (count : Nat) (parts : List (List UInt8)) : Prop := ∀ part ∈ parts, part.length = count

theorem Sized.cons {count : Nat} {part : List UInt8} {parts : List (List UInt8)}
    (first : part.length = count) (rest : Sized count parts) : Sized count (part :: parts) := by
  intro other member
  rcases List.mem_cons.mp member with rfl | later
  · exact first
  · exact rest other later

theorem Sized.getD {count i : Nat} {parts : List (List UInt8)} (sized : Sized count parts)
    (inside : i < parts.length) : (parts.getD i []).length = count := by
  rw [List.getD_eq_getElem?_getD, List.getElem?_eq_getElem inside]
  exact sized _ (List.getElem_mem inside)

theorem wordsOf_sized (key : List UInt8) : Sized 4 (wordsOf key) := by
  induction key using wordsOf.induct with
  | case1 a b c d rest ih =>
    rw [wordsOf]
    exact .cons rfl ih
  | case2 key short =>
    rw [wordsOf]
    · intro part member
      cases member
    · exact short

theorem length_lt_four : ∀ {bytes : List UInt8},
    (∀ a b c d rest, bytes = a :: b :: c :: d :: rest → False) → bytes.length < 4
  | [], _ => by simp
  | [_], _ => by simp
  | [_, _], _ => by simp
  | [_, _, _], _ => by simp
  | a :: b :: c :: d :: rest, short => (short a b c d rest rfl).elim

theorem length_wordsOf (key : List UInt8) : (wordsOf key).length = key.length / 4 := by
  induction key using wordsOf.induct with
  | case1 a b c d rest ih =>
    rw [wordsOf, List.length_cons, ih]
    simp only [List.length_cons]
    omega
  | case2 key short =>
    rw [wordsOf]
    · have few := length_lt_four short
      rw [List.length_nil]
      omega
    · exact short

theorem length_rotateWord (w : Word) : (rotateWord w).length = w.length := by
  unfold rotateWord
  split
  · rfl
  · rfl

theorem expand_sized {nk : Nat} (some : 0 < nk) :
    ∀ {n i : Nat} {constant : UInt8} {ws : List Word}, Sized 4 ws → nk ≤ ws.length →
      Sized 4 (expand nk n i constant ws) := by
  intro n
  induction n with
  | zero => exact fun sized _ => sized
  | succ n ih =>
    intro i constant ws sized enough
    have last : (ws.getD 0 []).length = 4 := sized.getD (by omega)
    have back : (ws.getD (nk - 1) []).length = 4 := sized.getD (by omega)
    have next : ∀ word : Word, word.length = 4 →
        Sized 4 (xorBytes (ws.getD (nk - 1) []) word :: ws) := by
      intro word four
      refine .cons ?_ sized
      rw [length_xorBytes, back, four, Nat.min_self]
    have longer : ∀ word : Word, nk ≤ (word :: ws).length :=
      fun word => Nat.le_succ_of_le enough
    rw [expand]
    dsimp only
    split
    · refine ih (next _ ?_) (longer _)
      rw [length_xorBytes, List.length_map, length_rotateWord, last]
      rfl
    · split
      · refine ih (next _ ?_) (longer _)
        rw [List.length_map, last]
      · exact ih (next _ last) (longer _)

theorem roundKeysOf_sized {words : List Word} (sized : Sized 4 words) :
    Sized 16 (roundKeysOf words) := by
  induction words using roundKeysOf.induct with
  | case1 a b c d rest ih =>
    rw [roundKeysOf]
    refine .cons ?_ (ih fun part member => sized part (by simp [member]))
    simp [sized a (by simp), sized b (by simp), sized c (by simp), sized d (by simp)]
  | case2 words short =>
    rw [roundKeysOf]
    · intro part member
      cases member
    · exact short

theorem roundKeys_sized {key : List UInt8} (some : 4 ≤ key.length) :
    Sized 16 (roundKeys key) := by
  have words : 0 < (wordsOf key).length := by
    rw [length_wordsOf]
    omega
  have reversed : Sized 4 (wordsOf key).reverse :=
    fun part member => wordsOf_sized key part (List.mem_reverse.mp member)
  refine roundKeysOf_sized fun part member => ?_
  exact expand_sized words reversed (by simp) part (List.mem_reverse.mp member)

theorem length_shiftRows (state : List UInt8) : (shiftRows state).length = state.length := by
  unfold shiftRows
  split
  · rfl
  · rfl

theorem length_mixColumns (state : List UInt8) :
    (mixColumns state).length = state.length / 4 * 4 := by
  induction state using mixColumns.induct with
  | case1 a b c d rest ih =>
    rw [mixColumns]
    simp only [List.length_cons, ih]
    omega
  | case2 state short =>
    rw [mixColumns]
    · have few := length_lt_four short
      rw [List.length_nil]
      omega
    · exact short

theorem length_rounds : ∀ {keys : List (List UInt8)} {state : List UInt8}, Sized 16 keys →
    state.length = 16 → (rounds keys state).length = 16
  | [], _, _, whole => whole
  | [key], state, sized, whole => by
    rw [rounds, length_xorBytes, length_shiftRows, List.length_map, whole,
      sized key (List.mem_singleton_self key)]
    rfl
  | key :: next :: keys, state, sized, whole => by
    have rest : Sized 16 (next :: keys) :=
      fun part member => sized part (List.mem_cons_of_mem _ member)
    change (rounds (next :: keys) _).length = 16
    refine length_rounds rest ?_
    rw [length_xorBytes, length_mixColumns, length_shiftRows, List.length_map, whole,
      sized key List.mem_cons_self]
    rfl

theorem length_encryptBlock {keys : List (List UInt8)} {block : List UInt8} (sized : Sized 16 keys)
    (whole : block.length = 16) : (encryptBlock keys block).length = 16 := by
  unfold encryptBlock
  split
  · exact whole
  · next first rest =>
    refine length_rounds (fun part member => sized part (List.mem_cons_of_mem _ member)) ?_
    rw [length_xorBytes, whole, sized first List.mem_cons_self]
    rfl

end Aes

namespace Gcm

open Aes

variable {key nonce : List UInt8}

theorem length_ofNat (count n : Nat) : (ofNat count n).length = count := by
  simp [ofNat]

theorem length_keyStream {keys : List (List UInt8)} (sized : Sized 16 keys)
    (twelve : nonce.length = 12) :
    ∀ n counter, (keyStream keys nonce n counter).length = 16 * n := by
  intro n
  induction n with
  | zero => exact fun _ => rfl
  | succ n ih =>
    intro counter
    have block : (encryptBlock keys (nonce ++ ofNat 4 counter)).length = 16 := by
      refine length_encryptBlock sized ?_
      rw [List.length_append, twelve, length_ofNat]
    rw [keyStream, List.length_append, block, ih]
    omega

theorem stream_enough (some : 4 ≤ key.length) (twelve : nonce.length = 12) (text : List UInt8) :
    text.length ≤ (keyStream (roundKeys key) nonce (blockCount text) 2).length := by
  rw [length_keyStream (roundKeys_sized some) twelve, blockCount]
  omega

theorem length_crypt (some : 4 ≤ key.length) (twelve : nonce.length = 12) (text : List UInt8) :
    (crypt key nonce text).length = text.length := by
  rw [crypt, length_xorBytes]
  exact Nat.min_eq_left (stream_enough some twelve text)

theorem crypt_crypt (some : 4 ≤ key.length) (twelve : nonce.length = 12) (text : List UInt8) :
    crypt key nonce (crypt key nonce text) = text := by
  have blocks : blockCount (crypt key nonce text) = blockCount text := by
    rw [blockCount, blockCount, length_crypt some twelve]
  rw [crypt, blocks, crypt]
  exact xorBytes_xorBytes (stream_enough some twelve text)

theorem length_tag (some : 4 ≤ key.length) (twelve : nonce.length = 12)
    (ciphertext : List UInt8) : (tag key nonce ciphertext).length = 16 := by
  have block : (encryptBlock (roundKeys key) (nonce ++ ofNat 4 1)).length = 16 := by
    refine length_encryptBlock (roundKeys_sized some) ?_
    rw [List.length_append, twelve, length_ofNat]
  rw [tag, length_xorBytes, length_ofNat, block]
  rfl

theorem decrypt_encrypt (some : 4 ≤ key.length) (twelve : nonce.length = 12) (text : List UInt8) :
    decrypt key nonce (encrypt key nonce text).1 (encrypt key nonce text).2 = Option.some text := by
  change decrypt key nonce (crypt key nonce text) (tag key nonce (crypt key nonce text)) = _
  rw [decrypt, if_pos rfl, crypt_crypt some twelve]

end Gcm

end Rollout
