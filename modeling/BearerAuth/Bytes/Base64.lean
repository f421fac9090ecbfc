/-!
# Base64 without padding

Three bytes are written as four symbols of six bits; a last group of one or two
bytes takes two or three symbols, whose unused low bits are zero. There is no
padding, and reading is strict, so every byte sequence has exactly one written
form.

- `Base64.Alphabet`: the sixty-four symbols; `urlSafe` and `standard` differ in
  the last two.
- `Alphabet.encode`, `Alphabet.decode?`: writing and reading.
-/

namespace BearerAuth.Bytes.Base64

/-- An alphabet: letters and digits, then the symbols for 62 and 63. -/
structure Alphabet where
  symbol62 : Char
  symbol63 : Char
  deriving DecidableEq

/-- The alphabet that is safe in addresses and file names. -/
def urlSafe : Alphabet := ⟨'-', '_'⟩

/-- The standard alphabet. -/
def standard : Alphabet := ⟨'+', '/'⟩

namespace Alphabet

/-- The symbol for a number below 64. -/
def symbol (a : Alphabet) (n : Nat) : Char :=
  if n < 26 then Char.ofNat (65 + n)
  else if n < 52 then Char.ofNat (97 + (n - 26))
  else if n < 62 then Char.ofNat (48 + (n - 52))
  else if n = 62 then a.symbol62
  else a.symbol63

/-- The number that a symbol stands for. -/
def value? (a : Alphabet) (c : Char) : Option Nat :=
  if 65 ≤ c.toNat ∧ c.toNat ≤ 90 then some (c.toNat - 65)
  else if 97 ≤ c.toNat ∧ c.toNat ≤ 122 then some (c.toNat - 97 + 26)
  else if 48 ≤ c.toNat ∧ c.toNat ≤ 57 then some (c.toNat - 48 + 52)
  else if c = a.symbol62 then some 62
  else if c = a.symbol63 then some 63
  else none

/-- The written form of `bytes`. -/
def encode (a : Alphabet) : List UInt8 → List Char
  | [] => []
  | [x] =>
    [a.symbol (x.toNat / 4), a.symbol (x.toNat % 4 * 16)]
  | [x, y] =>
    [a.symbol (x.toNat / 4), a.symbol (x.toNat % 4 * 16 + y.toNat / 16),
      a.symbol (y.toNat % 16 * 4)]
  | x :: y :: z :: rest =>
    a.symbol (x.toNat / 4) :: a.symbol (x.toNat % 4 * 16 + y.toNat / 16) ::
      a.symbol (y.toNat % 16 * 4 + z.toNat / 64) :: a.symbol (z.toNat % 64) :: a.encode rest

/-- The bytes whose written form is given; none when it is no written form. -/
def decode? (a : Alphabet) : List Char → Option (List UInt8)
  | [] => some []
  | [_] => none
  | [c₁, c₂] => do
    let v₁ ← a.value? c₁
    let v₂ ← a.value? c₂
    if v₂ % 16 = 0 then some [UInt8.ofNat (v₁ * 4 + v₂ / 16)] else none
  | [c₁, c₂, c₃] => do
    let v₁ ← a.value? c₁
    let v₂ ← a.value? c₂
    let v₃ ← a.value? c₃
    if v₃ % 4 = 0 then
      some [UInt8.ofNat (v₁ * 4 + v₂ / 16), UInt8.ofNat (v₂ % 16 * 16 + v₃ / 4)]
    else none
  | c₁ :: c₂ :: c₃ :: c₄ :: rest => do
    let v₁ ← a.value? c₁
    let v₂ ← a.value? c₂
    let v₃ ← a.value? c₃
    let v₄ ← a.value? c₄
    let tail ← a.decode? rest
    some (UInt8.ofNat (v₁ * 4 + v₂ / 16) :: UInt8.ofNat (v₂ % 16 * 16 + v₃ / 4) ::
      UInt8.ofNat (v₃ % 4 * 64 + v₄) :: tail)

end Alphabet

end BearerAuth.Bytes.Base64
