/-!
# Integers within a range

A decimal number as settings and columns hold it: an optional sign and at least
one ASCII digit, with leading zeros allowed. A minus sign is allowed only where
the range has negative numbers.

- `Text.Range`: the range a number has to lie in.
- `Range.read`: the number, or the first reason why there is none.
-/

namespace BearerAuth.Text

/-- Why a text is no number of a range. -/
inductive IntegerError where
  | empty
  | invalidDigit
  | tooLarge
  | tooSmall
  deriving DecidableEq, Repr

/-- The wording of the error. -/
def IntegerError.message : IntegerError → String
  | .empty => "cannot parse integer from empty string"
  | .invalidDigit => "invalid digit found in string"
  | .tooLarge => "number too large to fit in target type"
  | .tooSmall => "number too small to fit in target type"

/-- The integers from `low` to `high`. -/
structure Range where
  low : Int
  high : Int

namespace Range

/-- Sixteen bits without sign. -/
def word16 : Range := ⟨0, 65535⟩

/-- Thirty-two bits with sign. -/
def int32 : Range := ⟨-2147483648, 2147483647⟩

/-- Sixty-four bits with sign. -/
def int64 : Range := ⟨-9223372036854775808, 9223372036854775807⟩

/-- Whether the range has the number. -/
def holds (r : Range) (n : Int) : Bool :=
  r.low ≤ n && n ≤ r.high

theorem holds_iff {r : Range} {n : Int} : r.holds n = true ↔ r.low ≤ n ∧ n ≤ r.high := by
  simp [holds]

/-- The nearest number of the range. -/
def clamp (r : Range) (n : Int) : Int :=
  if n < r.low then r.low else if r.high < n then r.high else n

/-- The value of an ASCII digit. -/
def digit? (c : Char) : Option Nat :=
  if 48 ≤ c.toNat ∧ c.toNat ≤ 57 then some (c.toNat - 48) else none

/-- Reads digits from left to right onto `acc`; each digit counts `sign` times
its value. The first character that is no digit, or that leads out of the range,
decides. -/
def readDigits (r : Range) (sign : Int) (acc : Int) : List Char → Except IntegerError Int
  | [] => .ok acc
  | c :: rest =>
    match digit? c with
    | none => .error .invalidDigit
    | some d =>
      let acc := acc * 10 + sign * d
      if r.high < acc then .error .tooLarge
      else if acc < r.low then .error .tooSmall
      else readDigits r sign acc rest

/-- The number of the range that the characters spell. -/
def readList (r : Range) : List Char → Except IntegerError Int
  | [] => .error .empty
  | ['+'] => .error .invalidDigit
  | ['-'] => .error .invalidDigit
  | '+' :: digits => r.readDigits 1 0 digits
  | '-' :: digits =>
    if r.low < 0 then r.readDigits (-1) 0 digits else .error .invalidDigit
  | digits => r.readDigits 1 0 digits

/-- The number of the range that the text spells. -/
def read (r : Range) (s : String) : Except IntegerError Int :=
  r.readList s.toList

end Range

end BearerAuth.Text
