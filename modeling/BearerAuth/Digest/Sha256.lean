import BearerAuth.Bytes.Words

/-!
# SHA-256

The digest of FIPS 180-4 with 32-bit words: 32 bytes for any message.
`Sha256.digest` computes it.
-/

namespace BearerAuth.Digest.Sha256

open Bytes

/-- The round constants: the fractional parts of the cube roots of the first 64
primes. -/
def constants : List UInt32 :=
  [0x428a2f98, 0x71374491, 0xb5c0fbcf, 0xe9b5dba5, 0x3956c25b, 0x59f111f1,
    0x923f82a4, 0xab1c5ed5, 0xd807aa98, 0x12835b01, 0x243185be, 0x550c7dc3,
    0x72be5d74, 0x80deb1fe, 0x9bdc06a7, 0xc19bf174, 0xe49b69c1, 0xefbe4786,
    0x0fc19dc6, 0x240ca1cc, 0x2de92c6f, 0x4a7484aa, 0x5cb0a9dc, 0x76f988da,
    0x983e5152, 0xa831c66d, 0xb00327c8, 0xbf597fc7, 0xc6e00bf3, 0xd5a79147,
    0x06ca6351, 0x14292967, 0x27b70a85, 0x2e1b2138, 0x4d2c6dfc, 0x53380d13,
    0x650a7354, 0x766a0abb, 0x81c2c92e, 0x92722c85, 0xa2bfe8a1, 0xa81a664b,
    0xc24b8b70, 0xc76c51a3, 0xd192e819, 0xd6990624, 0xf40e3585, 0x106aa070,
    0x19a4c116, 0x1e376c08, 0x2748774c, 0x34b0bcb5, 0x391c0cb3, 0x4ed8aa4a,
    0x5b9cca4f, 0x682e6ff3, 0x748f82ee, 0x78a5636f, 0x84c87814, 0x8cc70208,
    0x90befffa, 0xa4506ceb, 0xbef9a3f7, 0xc67178f2]

/-- The initial state: the fractional parts of the square roots of the first
eight primes. -/
def initial : Vector UInt32 8 :=
  #v[0x6a09e667, 0xbb67ae85, 0x3c6ef372, 0xa54ff53a, 0x510e527f, 0x9b05688c,
    0x1f83d9ab, 0x5be0cd19]

/-- The word rotated right by `n` bits. -/
@[inline] def rotateRight (x n : UInt32) : UInt32 :=
  (x >>> n) ||| (x <<< (32 - n))

/-- The word that follows the words of the schedule so far. -/
def nextWord (words : Array UInt32) : UInt32 :=
  let back (k : Nat) : UInt32 := words.getD (words.size - k) 0
  let x := back 15
  let y := back 2
  back 16 + (rotateRight x 7 ^^^ rotateRight x 18 ^^^ (x >>> 3)) +
    back 7 + (rotateRight y 17 ^^^ rotateRight y 19 ^^^ (y >>> 10))

/-- The 64 words of the schedule of a block: its own sixteen and those derived
from them. -/
def schedule (block : List UInt8) : Array UInt32 :=
  let own := (groups 4 block).map fun bytes => UInt32.ofNat (ofBigEndian bytes)
  Nat.repeat (fun words => words.push (nextWord words)) 48 own.toArray

/-- One round, with the sum of its round constant and its schedule word. -/
def round (v : Vector UInt32 8) (input : UInt32) : Vector UInt32 8 :=
  let a := v.get 0
  let e := v.get 4
  let choice := (e &&& v.get 5) ^^^ (~~~ e &&& v.get 6)
  let majority := (a &&& v.get 1) ^^^ (a &&& v.get 2) ^^^ (v.get 1 &&& v.get 2)
  let first := v.get 7 + (rotateRight e 6 ^^^ rotateRight e 11 ^^^ rotateRight e 25) +
    choice + input
  let second := (rotateRight a 2 ^^^ rotateRight a 13 ^^^ rotateRight a 22) + majority
  #v[first + second, a, v.get 1, v.get 2, v.get 3 + first, e, v.get 5, v.get 6]

/-- Absorbs one block of 64 bytes. -/
def compress (state : Vector UInt32 8) (block : List UInt8) : Vector UInt32 8 :=
  let inputs := constants.zip (schedule block).toList
  let mixed := inputs.foldl (fun v kw => round v (kw.1 + kw.2)) state
  Vector.ofFn fun i => state.get i + mixed.get i

/-- What follows a message of `length` bytes to fill its last block: a one bit,
zeros, and the length in bits. -/
def padding (length : Nat) : List UInt8 :=
  let zeros := (119 - length % 64) % 64
  0x80 :: List.replicate zeros 0 ++ bigEndian 8 (8 * length)

/-- The words of the state after absorbing `message` from `start`. -/
def absorb (start : Vector UInt32 8) (message : List UInt8) : Vector UInt32 8 :=
  (groups 64 (message ++ padding message.length)).foldl compress start

/-- The SHA-256 digest: 32 bytes. -/
def digest (message : List UInt8) : List UInt8 :=
  (absorb initial message).toList.flatMap fun word => bigEndian 4 word.toNat

end BearerAuth.Digest.Sha256
