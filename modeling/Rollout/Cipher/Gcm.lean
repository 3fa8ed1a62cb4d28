import Rollout.Cipher.Aes

namespace Rollout.Gcm

def toNat (bytes : List UInt8) : Nat := bytes.foldl (fun n b => n * 256 + b.toNat) 0

def ofNat (count n : Nat) : List UInt8 :=
  (List.range count).map fun i => UInt8.ofNat (n / Nat.pow 256 (count - 1 - i) % 256)

-- Multiplication in the field of 2 ^ 128 elements, from the highest bit of `y` on.
def multiplyBits (y : Nat) : Nat → Nat → Nat → Nat
  | 0, _, product => product
  | n + 1, v, product =>
    let product := if y.testBit n then product ^^^ v else product
    let v := if v % 2 = 1 then (v / 2) ^^^ (0xe1 * Nat.pow 2 120) else v / 2
    multiplyBits y n v product

def multiply (x y : Nat) : Nat := multiplyBits y 128 x 0

-- Sixteen bytes at a time, the last block filled up with zeros; `n` blocks at most.
def hashBlocks (h : Nat) : Nat → Nat → List UInt8 → Nat
  | 0, acc, _ => acc
  | n + 1, acc, bytes =>
    let block := bytes.take 16
    let filled := block ++ List.replicate (16 - block.length) 0
    hashBlocks h n (multiply (acc ^^^ toNat filled) h) (bytes.drop 16)

def blockCount (bytes : List UInt8) : Nat := (bytes.length + 15) / 16

def keyStream (keys : List (List UInt8)) (nonce : List UInt8) : Nat → Nat → List UInt8
  | 0, _ => []
  | n + 1, counter =>
    Aes.encryptBlock keys (nonce ++ ofNat 4 counter) ++ keyStream keys nonce n (counter + 1)

def crypt (key nonce text : List UInt8) : List UInt8 :=
  Aes.xorBytes text (keyStream (Aes.roundKeys key) nonce (blockCount text) 2)

def tag (key nonce ciphertext : List UInt8) : List UInt8 :=
  let keys := Aes.roundKeys key
  let h := toNat (Aes.encryptBlock keys (List.replicate 16 0))
  let hashed := hashBlocks h (blockCount ciphertext) 0 ciphertext
  let hashed := multiply (hashed ^^^ (8 * ciphertext.length)) h
  Aes.xorBytes (ofNat 16 hashed) (Aes.encryptBlock keys (nonce ++ ofNat 4 1))

def encrypt (key nonce text : List UInt8) : List UInt8 × List UInt8 :=
  let ciphertext := crypt key nonce text
  (ciphertext, tag key nonce ciphertext)

def decrypt (key nonce ciphertext expected : List UInt8) : Option (List UInt8) :=
  if tag key nonce ciphertext = expected then some (crypt key nonce ciphertext) else none

end Rollout.Gcm
