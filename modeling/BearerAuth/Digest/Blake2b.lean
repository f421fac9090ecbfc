import BearerAuth.Digest.Sha512

/-!
# BLAKE2b

The unkeyed BLAKE2b digest of RFC 7693, with a result of one to sixty-four
bytes. Argon2 builds on it for both its seed and its variable-length results.

- `Blake2b.digest size message`: the digest; `length_digest` says that it has
  `size` bytes.
-/

namespace BearerAuth.Digest.Blake2b

open Bytes

/-- The initial chaining value, which is that of SHA-512. -/
def initial : Vector UInt64 8 := Sha512.initial

/-- The order in which each of the twelve rounds takes the message words. -/
def schedule : List (Vector (Fin 16) 16) :=
  [#v[0, 1, 2, 3, 4, 5, 6, 7, 8, 9, 10, 11, 12, 13, 14, 15],
   #v[14, 10, 4, 8, 9, 15, 13, 6, 1, 12, 0, 2, 11, 7, 5, 3],
   #v[11, 8, 12, 0, 5, 2, 15, 13, 10, 14, 3, 6, 7, 1, 9, 4],
   #v[7, 9, 3, 1, 13, 12, 11, 14, 2, 6, 5, 10, 4, 0, 15, 8],
   #v[9, 0, 5, 7, 2, 4, 10, 15, 14, 1, 11, 12, 6, 8, 3, 13],
   #v[2, 12, 6, 10, 0, 11, 8, 3, 4, 13, 7, 5, 15, 14, 1, 9],
   #v[12, 5, 1, 15, 14, 13, 4, 10, 0, 7, 6, 3, 9, 2, 8, 11],
   #v[13, 11, 7, 14, 12, 1, 3, 9, 5, 0, 15, 4, 8, 6, 2, 10],
   #v[6, 15, 14, 9, 11, 3, 0, 8, 12, 2, 13, 7, 1, 4, 10, 5],
   #v[10, 2, 8, 4, 7, 6, 1, 5, 15, 11, 9, 14, 3, 12, 13, 0],
   #v[0, 1, 2, 3, 4, 5, 6, 7, 8, 9, 10, 11, 12, 13, 14, 15],
   #v[14, 10, 4, 8, 9, 15, 13, 6, 1, 12, 0, 2, 11, 7, 5, 3]]

/-- The quarter round: mixes two message words into four words of the work
vector. -/
def mix (v : Vector UInt64 16) (a b c d : Fin 16) (x y : UInt64) : Vector UInt64 16 :=
  let va := v[a] + v[b] + x
  let vd := rotateRight (v[d] ^^^ va) 32
  let vc := v[c] + vd
  let vb := rotateRight (v[b] ^^^ vc) 24
  let va := va + vb + y
  let vd := rotateRight (vd ^^^ va) 16
  let vc := vc + vd
  let vb := rotateRight (vb ^^^ vc) 63
  (((v.set a va).set b vb).set c vc).set d vd

/-- One round: the quarter round on the four columns and then on the four
diagonals. -/
def round (message : Vector UInt64 16) (v : Vector UInt64 16) (s : Vector (Fin 16) 16) :
    Vector UInt64 16 :=
  let v := mix v 0 4 8 12 message[s[0]] message[s[1]]
  let v := mix v 1 5 9 13 message[s[2]] message[s[3]]
  let v := mix v 2 6 10 14 message[s[4]] message[s[5]]
  let v := mix v 3 7 11 15 message[s[6]] message[s[7]]
  let v := mix v 0 5 10 15 message[s[8]] message[s[9]]
  let v := mix v 1 6 11 12 message[s[10]] message[s[11]]
  let v := mix v 2 7 8 13 message[s[12]] message[s[13]]
  mix v 3 4 9 14 message[s[14]] message[s[15]]

/-- The sixteen message words of a block, which is filled up with zeros on the
right. -/
def messageWords (block : List UInt8) : Vector UInt64 16 :=
  let words := (groups 8 block).map fun bytes => UInt64.ofNat (ofLittleEndian bytes)
  Vector.ofFn fun i => words.getD i.val 0

/-- Absorbs one block; `count` is the number of bytes absorbed so far, this
block included. -/
def compress (state : Vector UInt64 8) (block : List UInt8) (count : Nat) (final : Bool) :
    Vector UInt64 8 :=
  let work := state ++ initial
  let work := work.set 12 (work[12] ^^^ UInt64.ofNat count)
  let work := work.set 13 (work[13] ^^^ UInt64.ofNat (count >>> 64))
  let work := if final then work.set 14 (~~~ work[14]) else work
  let mixed := schedule.foldl (round (messageWords block)) work
  Vector.ofFn fun i => state[i] ^^^ mixed[i.val] ^^^ mixed[i.val + 8]

/-- Absorbs the blocks in order, the last one as the final block. -/
def absorb (state : Vector UInt64 8) (count : Nat) : List (List UInt8) → Vector UInt64 8
  | [] => compress state [] count true
  | [block] => compress state block (count + block.length) true
  | block :: rest => absorb (compress state block (count + block.length) false)
      (count + block.length) rest

/-- The BLAKE2b digest of `message` with `size` bytes; sizes above sixty-four
count as sixty-four. -/
def digest (size : Nat) (message : List UInt8) : List UInt8 :=
  let size := min size 64
  let start := initial.set 0 (initial[0] ^^^ 0x01010000 ^^^ UInt64.ofNat size)
  let state := absorb start 0 (groups 128 message)
  (state.toList.flatMap fun word => littleEndian 8 word.toNat).take size

theorem length_flatMap_words (words : List UInt64) :
    (words.flatMap fun word => littleEndian 8 word.toNat).length = 8 * words.length := by
  induction words with
  | nil => rfl
  | cons word words ih => simp only [List.flatMap_cons, List.length_append, ih,
      length_littleEndian, List.length_cons]; omega

/-- A digest has the size asked for. -/
theorem length_digest (size : Nat) (message : List UInt8) :
    (digest size message).length = min size 64 := by
  simp only [digest, List.length_take, length_flatMap_words, Vector.length_toList]
  omega

end BearerAuth.Digest.Blake2b
