/-!
# Floating-point numbers of 64 bits

Finite numbers of the IEEE 754 format with 53 bits of precision, held exactly,
and decimals rounded to them. A tie goes to the even neighbour.

- `Double`: a finite number, as a sign, an integer below 2^53 and a power of
  two.
- `Double.ofDecimal?`: the number nearest to a decimal, unless it is too large.
-/

namespace BearerAuth.Decimal

/-- The finite number `significand * 2 ^ exponent`, with a sign. -/
structure Double where
  negative : Bool
  significand : Nat
  exponent : Int
  deriving DecidableEq, Repr

namespace Double

/-- The least exponent of the format. -/
def leastExponent : Int := -1074

/-- `num / den` rounded to an integer, a tie to the even one. -/
def roundQuotient (num den : Nat) : Nat :=
  let q := num / den
  let r := num % den
  if den < 2 * r || (2 * r == den && q % 2 == 1) then q + 1 else q

/-- The largest exponent of two not above the ratio `num / den` of positive
numbers. -/
def floorLog2 (num den : Nat) : Int :=
  let guess : Int := (num.log2 : Int) - den.log2
  if den <<< guess.toNat ≤ num <<< (-guess).toNat then guess else guess - 1

/-- The number nearest to the ratio `num / den`; none if that is beyond the
largest number. -/
def ofRatio? (negative : Bool) (num den : Nat) : Option Double :=
  if num = 0 then some ⟨negative, 0, leastExponent⟩
  else
    let exponent := max (floorLog2 num den - 52) leastExponent
    let rounded := roundQuotient (num <<< (-exponent).toNat) (den <<< exponent.toNat)
    let result : Double :=
      if rounded = 0x20000000000000 then ⟨negative, 0x10000000000000, exponent + 1⟩
      else ⟨negative, rounded, exponent⟩
    if 971 < result.exponent then none else some result

/-- The number nearest to `digits * 10 ^ exponent`; none if that is beyond the
largest number. -/
def ofDecimal? (negative : Bool) (digits : Nat) (exponent : Int) : Option Double :=
  let size : Int := digits.log2 / 3 + 1
  if digits = 0 ∨ exponent + size < -400 then some ⟨negative, 0, leastExponent⟩
  else if 400 < exponent then none
  else ofRatio? negative (digits * Nat.pow 10 exponent.toNat) (Nat.pow 10 (-exponent).toNat)

end Double

end BearerAuth.Decimal
