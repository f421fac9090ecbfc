import BearerAuth.Json.Basic

/-!
# Reading JSON

The grammar of RFC 8259 over bytes. Escapes are resolved while reading; half of
a surrogate pair becomes three bytes that no text contains, so that it counts as
a string but not as text.

- `Json.read?`: the value that a whole document holds.
- `Json.isData`: whether a document holds a value that can be kept as data.
-/

namespace BearerAuth.Json

/-- Whether the byte may stand between the parts of a document. -/
def isSpace (b : UInt8) : Bool :=
  b == 0x20 || b == 0x09 || b == 0x0a || b == 0x0d

/-- What follows the blanks at the start. -/
def skipSpace (bytes : List UInt8) : List UInt8 :=
  bytes.dropWhile isSpace

/-- The value of a hexadecimal digit. -/
def hexValue? (b : UInt8) : Option Nat :=
  if 48 ≤ b ∧ b ≤ 57 then some (b.toNat - 48)
  else if 65 ≤ b ∧ b ≤ 70 then some (b.toNat - 55)
  else if 97 ≤ b ∧ b ≤ 102 then some (b.toNat - 87)
  else none

/-- The value of four hexadecimal digits. -/
def hex4? (a b c d : UInt8) : Option Nat := do
  let a ← hexValue? a
  let b ← hexValue? b
  let c ← hexValue? c
  let d ← hexValue? d
  some (4096 * a + 256 * b + 16 * c + d)

/-- The bytes that UTF-8 gives to a code point. Surrogates get three bytes by
the same rule, which no text contains. -/
def codePointBytes (n : Nat) : List UInt8 :=
  if n < 0x80 then [UInt8.ofNat n]
  else if n < 0x800 then [UInt8.ofNat (0xC0 + n / 64), UInt8.ofNat (0x80 + n % 64)]
  else if n < 0x10000 then
    [UInt8.ofNat (0xE0 + n / 4096), UInt8.ofNat (0x80 + n / 64 % 64), UInt8.ofNat (0x80 + n % 64)]
  else
    [UInt8.ofNat (0xF0 + n / 262144), UInt8.ofNat (0x80 + n / 4096 % 64),
      UInt8.ofNat (0x80 + n / 64 % 64), UInt8.ofNat (0x80 + n % 64)]

/-- What a one-letter escape stands for. -/
def shortEscape? (b : UInt8) : Option UInt8 :=
  if b = 0x22 then some 0x22
  else if b = 0x5c then some 0x5c
  else if b = 0x2f then some 0x2f
  else if b = 0x62 then some 0x08
  else if b = 0x66 then some 0x0c
  else if b = 0x6e then some 0x0a
  else if b = 0x72 then some 0x0d
  else if b = 0x74 then some 0x09
  else none

/-- The unit at the start of the inside of a string: a byte that stands for
itself or an escape, as the bytes it stands for and the rest. -/
def unit? : List UInt8 → Option (List UInt8 × List UInt8)
  | [] => none
  | 0x5c :: 0x75 :: a :: b :: c :: d :: rest => do
    let high ← hex4? a b c d
    match rest with
    | 0x5c :: 0x75 :: e :: f :: g :: h :: more =>
      let low ← hex4? e f g h
      if 0xD800 ≤ high ∧ high ≤ 0xDBFF ∧ 0xDC00 ≤ low ∧ low ≤ 0xDFFF then
        some (codePointBytes (0x10000 + (high - 0xD800) * 1024 + (low - 0xDC00)), more)
      -- the escape that is no second half is read again as a unit of its own
      else some (codePointBytes high, rest)
    | _ => some (codePointBytes high, rest)
  | 0x5c :: e :: rest => (shortEscape? e).map fun b => ([b], rest)
  | b :: rest => if b < 0x20 ∨ b = 0x5c then none else some ([b], rest)

/-- The inside of a string up to its closing quote, and what follows the quote. -/
def string? : (fuel : Nat) → List UInt8 → Option (List UInt8 × List UInt8)
  | 0, _ => none
  | _ + 1, 0x22 :: rest => some ([], rest)
  | fuel + 1, bytes => do
    let (unit, rest) ← unit? bytes
    let (more, rest) ← string? fuel rest
    some (unit ++ more, rest)

/-- The digits at the start, of which there has to be one, and the rest. -/
def digits? (bytes : List UInt8) : Option (List UInt8 × List UInt8) :=
  let digits := bytes.takeWhile isDigit
  if digits.isEmpty then none else some (digits, bytes.dropWhile isDigit)

/-- The fraction at the start, if there is a decimal point, and the rest. -/
def fraction? : List UInt8 → Option (List UInt8 × List UInt8)
  | 0x2e :: rest => digits? rest
  | rest => some ([], rest)

/-- The digits of an exponent after its optional sign. -/
def signedExponent? : List UInt8 → Option (Exponent × List UInt8)
  | 0x2d :: rest => (digits? rest).map fun (digits, rest) => (⟨true, digits⟩, rest)
  | 0x2b :: rest => (digits? rest).map fun (digits, rest) => (⟨false, digits⟩, rest)
  | rest => (digits? rest).map fun (digits, rest) => (⟨false, digits⟩, rest)

/-- The exponent at the start, if there is one, and the rest. -/
def exponent? : List UInt8 → Option (Option Exponent × List UInt8)
  | b :: rest =>
    if b = 0x65 ∨ b = 0x45 then
      (signedExponent? rest).map fun (e, rest) => (some e, rest)
    else some (none, b :: rest)
  | [] => some (none, [])

/-- The number at the start, after its sign, and the rest. A leading zero stands
alone. -/
def unsigned? (negative : Bool) (bytes : List UInt8) : Option (Number × List UInt8) := do
  let (whole, rest) ← digits? bytes
  if whole.head? = some 0x30 ∧ 1 < whole.length then none
  else
    let (fraction, rest) ← fraction? rest
    let (exponent, rest) ← exponent? rest
    some (⟨negative, whole, fraction, exponent⟩, rest)

/-- The number at the start and the rest. -/
def number? : List UInt8 → Option (Number × List UInt8)
  | 0x2d :: rest => unsigned? true rest
  | bytes => unsigned? false bytes

mutual

/-- The value at the start, after blanks, and the rest. -/
def value? : (fuel : Nat) → List UInt8 → Option (Json × List UInt8)
  | 0, _ => none
  | fuel + 1, bytes =>
    match skipSpace bytes with
    | [] => none
    | 0x6e :: 0x75 :: 0x6c :: 0x6c :: rest => some (.null, rest)
    | 0x74 :: 0x72 :: 0x75 :: 0x65 :: rest => some (.bool true, rest)
    | 0x66 :: 0x61 :: 0x6c :: 0x73 :: 0x65 :: rest => some (.bool false, rest)
    | 0x22 :: rest => do
      let (s, rest) ← string? (rest.length + 1) rest
      some (.string s, rest)
    | 0x5b :: rest =>
      match skipSpace rest with
      | 0x5d :: rest => some (.array [], rest)
      | rest => do
        let (items, rest) ← items? fuel rest
        some (.array items, rest)
    | 0x7b :: rest =>
      match skipSpace rest with
      | 0x7d :: rest => some (.object [], rest)
      | rest => do
        let (members, rest) ← members? fuel rest
        some (.object members, rest)
    | rest => do
      let (n, rest) ← number? rest
      some (.number n, rest)

/-- The items of an array up to its closing bracket, and what follows it. -/
def items? : (fuel : Nat) → List UInt8 → Option (List Json × List UInt8)
  | 0, _ => none
  | fuel + 1, bytes => do
    let (item, rest) ← value? fuel bytes
    match skipSpace rest with
    | 0x5d :: rest => some ([item], rest)
    | 0x2c :: rest => do
      let (items, rest) ← items? fuel rest
      some (item :: items, rest)
    | _ => none

/-- The members of an object up to its closing brace, and what follows it. -/
def members? : (fuel : Nat) → List UInt8 → Option (List (List UInt8 × Json) × List UInt8)
  | 0, _ => none
  | fuel + 1, bytes =>
    match skipSpace bytes with
    | 0x22 :: rest => do
      let (name, rest) ← string? (rest.length + 1) rest
      match skipSpace rest with
      | 0x3a :: rest => do
        let (value, rest) ← value? fuel rest
        match skipSpace rest with
        | 0x7d :: rest => some ([(name, value)], rest)
        | 0x2c :: rest => do
          let (members, rest) ← members? fuel rest
          some ((name, value) :: members, rest)
        | _ => none
      | _ => none
    | _ => none

end

/-- The value that the whole document holds, blanks around it aside. Each step
down or on takes a byte, so twice the length of the document bounds the steps. -/
def read? (document : List UInt8) : Option Json := do
  let (j, rest) ← value? (2 * document.length + 2) document
  if (skipSpace rest).isEmpty then some j else none

/-- Whether the document holds a value that can be kept as data. -/
def isData (document : List UInt8) : Bool :=
  match read? document with
  | some j => j.buffers depthLimit
  | none => false

end BearerAuth.Json
