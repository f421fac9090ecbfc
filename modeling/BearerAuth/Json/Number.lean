import BearerAuth.Text.Integer

/-!
# JSON numbers

A number is kept as it is written: sign, digits, fraction and exponent. What it
denotes is asked for where it matters.

- `Number.ofInt`, `Number.integer?`: integers as numbers and back.
- `Number.finite`: whether the number has a place among the 64-bit
  floating-point numbers.
-/

namespace BearerAuth.Json

/-- An exponent of ten. -/
structure Exponent where
  negative : Bool
  digits : List UInt8
  deriving DecidableEq, Repr

/-- A number as it is written. The digits are ASCII bytes; without a decimal
point there are no fraction digits. -/
structure Number where
  negative : Bool
  whole : List UInt8
  fraction : List UInt8
  exponent : Option Exponent
  deriving DecidableEq, Repr

/-- Whether the byte is an ASCII digit. -/
def isDigit (b : UInt8) : Bool :=
  48 ≤ b && b ≤ 57

/-- The number that ASCII digits spell. -/
def ofDigits (digits : List UInt8) : Nat :=
  digits.foldl (fun acc b => 10 * acc + (b.toNat - 48)) 0

/-- The ASCII digits of a number, without leading zeros. -/
def toDigits (n : Nat) : List UInt8 :=
  if n < 10 then [UInt8.ofNat (48 + n)]
  else toDigits (n / 10) ++ [UInt8.ofNat (48 + n % 10)]

namespace Number

/-- The integer `n` as a number. -/
def ofInt (n : Int) : Number where
  negative := n < 0
  whole := toDigits n.natAbs
  fraction := []
  exponent := none

/-- The integer that the number is, if it is written as one. Minus zero is no
integer. -/
def integer? (n : Number) : Option Int :=
  if n.fraction ≠ [] ∨ n.exponent ≠ none then none
  else
    let size := ofDigits n.whole
    if n.negative then (if size = 0 then none else some (-size)) else some size

/-- The integer that the number is, if it fits sixty-four bits with sign. -/
def int64? (n : Number) : Option Int64 :=
  match n.integer? with
  | some i => if Text.Range.int64.holds i then some (.ofInt i) else none
  | none => none

/-- The leading digits that fit sixty-four bits, as a number, and how many of
the others there are. -/
def significant (acc : Nat) : List UInt8 → Nat × Nat
  | [] => (acc, 0)
  | b :: rest =>
    let next := 10 * acc + (b.toNat - 48)
    if next < 0x10000000000000000 then significant next rest else (acc, rest.length + 1)

/-- The number as a significand that fits sixty-four bits and an exponent of
ten. Digits that do not fit are cut off. -/
def scaled (n : Number) : Nat × Int :=
  let (whole, dropped) := significant 0 n.whole
  let (significand, cut) := significant whole n.fraction
  let exponent : Int :=
    match n.exponent with
    | none => 0
    | some e => if e.negative then -(ofDigits e.digits : Int) else ofDigits e.digits
  (significand, dropped - (n.fraction.length - cut : Nat) + exponent)

/-- `n` rounded to its leading fifty-three bits, a tie to the even neighbour. -/
def round53 (n : Nat) : Nat :=
  let excess := n.log2 + 1 - 53
  let unit := 1 <<< excess
  let low := n / unit
  let rest := n % unit
  let up := unit < 2 * rest || (unit == 2 * rest && low % 2 == 1)
  (if up then low + 1 else low) * unit

/-- The least value that rounds to infinity: the largest finite number and half
a step. -/
def overflowBound : Nat :=
  1 <<< 1024 - 1 <<< 970

/-- Whether the number is finite as a 64-bit floating-point number, the
significand and the power of ten being rounded before they are multiplied. -/
def finite (n : Number) : Bool :=
  let (significand, exponent) := n.scaled
  significand == 0 || exponent < 0 ||
    (exponent ≤ 308 && round53 significand * round53 (Nat.pow 10 exponent.toNat) < overflowBound)

/-- Whether the exponent alone is beyond the range of thirty-two bits before its
last digit, so that a reader that stops there leaves digits behind. -/
def exponentRunsOver (n : Number) : Bool :=
  match n.exponent with
  | none => false
  | some e =>
    !e.negative && n.scaled.1 != 0 && 0x80000000 ≤ ofDigits e.digits.dropLast

end Number

end BearerAuth.Json
