import BearerAuth.Digest.Blake2b

/-!
# The blocks of Argon2

Argon2 fills its memory with blocks of 1024 bytes. A block is held as eight rows
of sixteen 64-bit words, in plain fields, because a hash goes through tens of
thousands of them.

- `Row.permute`: the permutation of sixteen words that Argon2 takes from
  BLAKE2b, with a multiplication added to each addition.
- `Block.compress`: the compression of two blocks into one.
- `Block.ofBytes`, `Block.toBytes`: blocks as bytes, each word least significant
  byte first.
-/

namespace BearerAuth.Digest.Argon2

open Bytes

/-- Sixteen 64-bit words. -/
structure Row where
  (w0 w1 w2 w3 w4 w5 w6 w7 w8 w9 w10 w11 w12 w13 w14 w15 : UInt64)

/-- A block of memory: 128 words. -/
structure Block where
  (r0 r1 r2 r3 r4 r5 r6 r7 : Row)

/-- The addition of the permutation: `x + y` plus twice the product of the low
halves. -/
@[inline] def addMul (x y : UInt64) : UInt64 :=
  x + y + 2 * (x &&& 0xffffffff) * (y &&& 0xffffffff)

/-- The quarter round on four words, handed to the continuation `k`. -/
@[inline] def quarter {α : Type} (a b c d : UInt64)
    (k : UInt64 → UInt64 → UInt64 → UInt64 → α) : α :=
  let a := addMul a b
  let d := Bytes.rotateRight (d ^^^ a) 32
  let c := addMul c d
  let b := Bytes.rotateRight (b ^^^ c) 24
  let a := addMul a b
  let d := Bytes.rotateRight (d ^^^ a) 16
  let c := addMul c d
  let b := Bytes.rotateRight (b ^^^ c) 63
  k a b c d

namespace Row

/-- The row of zeros. -/
def zero : Row := ⟨0, 0, 0, 0, 0, 0, 0, 0, 0, 0, 0, 0, 0, 0, 0, 0⟩

/-- The permutation: the quarter round on the columns and then on the diagonals
of the row seen as four by four words. -/
def permute (r : Row) : Row :=
  quarter r.w0 r.w4 r.w8 r.w12 fun w0 w4 w8 w12 =>
  quarter r.w1 r.w5 r.w9 r.w13 fun w1 w5 w9 w13 =>
  quarter r.w2 r.w6 r.w10 r.w14 fun w2 w6 w10 w14 =>
  quarter r.w3 r.w7 r.w11 r.w15 fun w3 w7 w11 w15 =>
  quarter w0 w5 w10 w15 fun w0 w5 w10 w15 =>
  quarter w1 w6 w11 w12 fun w1 w6 w11 w12 =>
  quarter w2 w7 w8 w13 fun w2 w7 w8 w13 =>
  quarter w3 w4 w9 w14 fun w3 w4 w9 w14 =>
  ⟨w0, w1, w2, w3, w4, w5, w6, w7, w8, w9, w10, w11, w12, w13, w14, w15⟩

/-- The rows combined word by word with exclusive or. -/
def xor (r s : Row) : Row :=
  ⟨r.w0 ^^^ s.w0, r.w1 ^^^ s.w1, r.w2 ^^^ s.w2, r.w3 ^^^ s.w3,
    r.w4 ^^^ s.w4, r.w5 ^^^ s.w5, r.w6 ^^^ s.w6, r.w7 ^^^ s.w7,
    r.w8 ^^^ s.w8, r.w9 ^^^ s.w9, r.w10 ^^^ s.w10, r.w11 ^^^ s.w11,
    r.w12 ^^^ s.w12, r.w13 ^^^ s.w13, r.w14 ^^^ s.w14, r.w15 ^^^ s.w15⟩

/-- The words in order. -/
def toList (r : Row) : List UInt64 :=
  [r.w0, r.w1, r.w2, r.w3, r.w4, r.w5, r.w6, r.w7,
    r.w8, r.w9, r.w10, r.w11, r.w12, r.w13, r.w14, r.w15]

/-- The row of the first sixteen words of `words`, filled up with zeros. -/
def ofList (words : List UInt64) : Row :=
  let w (i : Nat) : UInt64 := words.getD i 0
  ⟨w 0, w 1, w 2, w 3, w 4, w 5, w 6, w 7,
    w 8, w 9, w 10, w 11, w 12, w 13, w 14, w 15⟩

end Row

namespace Block

/-- The block of zeros. -/
def zero : Block :=
  ⟨.zero, .zero, .zero, .zero, .zero, .zero, .zero, .zero⟩

instance : Inhabited Block := ⟨zero⟩

/-- The blocks combined word by word with exclusive or. -/
def xor (a b : Block) : Block :=
  ⟨a.r0.xor b.r0, a.r1.xor b.r1, a.r2.xor b.r2, a.r3.xor b.r3,
    a.r4.xor b.r4, a.r5.xor b.r5, a.r6.xor b.r6, a.r7.xor b.r7⟩

/-- The block seen as eight by eight pairs of words and reflected in its
diagonal. -/
def transpose (b : Block) : Block :=
  ⟨⟨b.r0.w0, b.r0.w1, b.r1.w0, b.r1.w1, b.r2.w0, b.r2.w1, b.r3.w0, b.r3.w1,
      b.r4.w0, b.r4.w1, b.r5.w0, b.r5.w1, b.r6.w0, b.r6.w1, b.r7.w0, b.r7.w1⟩,
    ⟨b.r0.w2, b.r0.w3, b.r1.w2, b.r1.w3, b.r2.w2, b.r2.w3, b.r3.w2, b.r3.w3,
      b.r4.w2, b.r4.w3, b.r5.w2, b.r5.w3, b.r6.w2, b.r6.w3, b.r7.w2, b.r7.w3⟩,
    ⟨b.r0.w4, b.r0.w5, b.r1.w4, b.r1.w5, b.r2.w4, b.r2.w5, b.r3.w4, b.r3.w5,
      b.r4.w4, b.r4.w5, b.r5.w4, b.r5.w5, b.r6.w4, b.r6.w5, b.r7.w4, b.r7.w5⟩,
    ⟨b.r0.w6, b.r0.w7, b.r1.w6, b.r1.w7, b.r2.w6, b.r2.w7, b.r3.w6, b.r3.w7,
      b.r4.w6, b.r4.w7, b.r5.w6, b.r5.w7, b.r6.w6, b.r6.w7, b.r7.w6, b.r7.w7⟩,
    ⟨b.r0.w8, b.r0.w9, b.r1.w8, b.r1.w9, b.r2.w8, b.r2.w9, b.r3.w8, b.r3.w9,
      b.r4.w8, b.r4.w9, b.r5.w8, b.r5.w9, b.r6.w8, b.r6.w9, b.r7.w8, b.r7.w9⟩,
    ⟨b.r0.w10, b.r0.w11, b.r1.w10, b.r1.w11, b.r2.w10, b.r2.w11, b.r3.w10, b.r3.w11,
      b.r4.w10, b.r4.w11, b.r5.w10, b.r5.w11, b.r6.w10, b.r6.w11, b.r7.w10, b.r7.w11⟩,
    ⟨b.r0.w12, b.r0.w13, b.r1.w12, b.r1.w13, b.r2.w12, b.r2.w13, b.r3.w12, b.r3.w13,
      b.r4.w12, b.r4.w13, b.r5.w12, b.r5.w13, b.r6.w12, b.r6.w13, b.r7.w12, b.r7.w13⟩,
    ⟨b.r0.w14, b.r0.w15, b.r1.w14, b.r1.w15, b.r2.w14, b.r2.w15, b.r3.w14, b.r3.w15,
      b.r4.w14, b.r4.w15, b.r5.w14, b.r5.w15, b.r6.w14, b.r6.w15, b.r7.w14, b.r7.w15⟩⟩

/-- The permutation on each row. -/
def permuteRows (b : Block) : Block :=
  ⟨b.r0.permute, b.r1.permute, b.r2.permute, b.r3.permute,
    b.r4.permute, b.r5.permute, b.r6.permute, b.r7.permute⟩

/-- The compression of two blocks: their exclusive or goes through the
permutation row by row and column by column, and the result is combined with
what went in. -/
def compress (a b : Block) : Block :=
  let mixed := a.xor b
  mixed.permuteRows.transpose.permuteRows.transpose.xor mixed

/-- The 128 words in order. -/
def words (b : Block) : List UInt64 :=
  b.r0.toList ++ b.r1.toList ++ b.r2.toList ++ b.r3.toList ++
    b.r4.toList ++ b.r5.toList ++ b.r6.toList ++ b.r7.toList

/-- The block of the first 128 words of `words`, filled up with zeros. -/
def ofWords (words : List UInt64) : Block :=
  let row (i : Nat) : Row := .ofList (words.drop (16 * i))
  ⟨row 0, row 1, row 2, row 3, row 4, row 5, row 6, row 7⟩

/-- The block that 1024 bytes hold. -/
def ofBytes (bytes : List UInt8) : Block :=
  ofWords ((groups 8 bytes).map fun word => UInt64.ofNat (ofLittleEndian word))

/-- The 1024 bytes of the block. -/
def toBytes (b : Block) : List UInt8 :=
  b.words.flatMap fun word => littleEndian 8 word.toNat

end Block

end BearerAuth.Digest.Argon2
