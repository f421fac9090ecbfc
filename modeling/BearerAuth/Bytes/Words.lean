/-!
# Words as bytes

Fixed-width numbers written as bytes, least significant byte first
(`littleEndian`) or last (`bigEndian`). The digests read and write their blocks
through these, and rotate the words between (`rotateRight`).
-/

namespace BearerAuth.Bytes

/-- Eight is not zero, so that literals number the eight words of a state. -/
instance neZeroEight : @NeZero Nat Zero.ofOfNat0 8 := ⟨Nat.succ_ne_zero 7⟩

/-- The word rotated right by `n` bits. -/
@[inline] def rotateRight (x n : UInt64) : UInt64 :=
  (x >>> n) ||| (x <<< (64 - n))

/-- The low `count` bytes of `n`, least significant first. -/
def littleEndian (count n : Nat) : List UInt8 :=
  match count with
  | 0 => []
  | count + 1 => UInt8.ofNat n :: littleEndian count (n / 256)

/-- The low `count` bytes of `n`, most significant first. -/
def bigEndian (count n : Nat) : List UInt8 :=
  (littleEndian count n).reverse

/-- The number whose bytes are given least significant first. -/
def ofLittleEndian : List UInt8 → Nat
  | [] => 0
  | b :: rest => b.toNat + 256 * ofLittleEndian rest

/-- The number whose bytes are given most significant first. -/
def ofBigEndian (bytes : List UInt8) : Nat :=
  ofLittleEndian bytes.reverse

/-- Cuts `items` into groups of `size`; the last group may be shorter. A size of
zero gives no groups. -/
def groups {α : Type} (size : Nat) (items : List α) : List (List α) :=
  if size = 0 then [] else go items.length items
where
  /-- Takes at most `fuel` groups; the number of items is always enough. -/
  go : Nat → List α → List (List α)
    | 0, _ => []
    | _ + 1, [] => []
    | fuel + 1, items => items.take size :: go fuel (items.drop size)

@[simp] theorem length_littleEndian (count n : Nat) : (littleEndian count n).length = count := by
  induction count generalizing n with
  | zero => rfl
  | succ count ih => simp [littleEndian, ih]

@[simp] theorem length_bigEndian (count n : Nat) : (bigEndian count n).length = count := by
  simp [bigEndian]

end BearerAuth.Bytes
