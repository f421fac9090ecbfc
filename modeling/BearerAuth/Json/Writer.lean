import BearerAuth.Json.Basic

/-!
# Writing JSON

The compact written form: no blanks, members in order, and in strings only
quotes, backslashes and control characters are escaped, the latter by their
short forms where there are such.

- `Json.write`: the bytes of a value.
- `Json.render`: the same as a text.
-/

namespace BearerAuth.Json

/-- The lower-case hexadecimal digit for a number below sixteen. -/
def hexDigit (n : Nat) : UInt8 :=
  UInt8.ofNat (if n < 10 then 48 + n else 87 + n)

/-- How a byte is written inside a string. -/
def escape (b : UInt8) : List UInt8 :=
  if b = 0x22 then [0x5c, 0x22]
  else if b = 0x5c then [0x5c, 0x5c]
  else if b = 0x08 then [0x5c, 0x62]
  else if b = 0x0c then [0x5c, 0x66]
  else if b = 0x0a then [0x5c, 0x6e]
  else if b = 0x0d then [0x5c, 0x72]
  else if b = 0x09 then [0x5c, 0x74]
  else if b < 0x20 then
    [0x5c, 0x75, 0x30, 0x30, hexDigit (b.toNat / 16), hexDigit (b.toNat % 16)]
  else [b]

/-- The written form of a string, with its quotes. -/
def writeString (bytes : List UInt8) : List UInt8 :=
  0x22 :: bytes.flatMap escape ++ [0x22]

/-- The written form of a number. -/
def writeNumber (n : Number) : List UInt8 :=
  (if n.negative then [0x2d] else []) ++ n.whole ++
    (if n.fraction = [] then [] else 0x2e :: n.fraction) ++
    match n.exponent with
    | none => []
    | some e => 0x65 :: (if e.negative then [0x2d] else []) ++ e.digits

mutual

/-- The compact written form of a value. -/
def write : Json → List UInt8
  | .null => [0x6e, 0x75, 0x6c, 0x6c]
  | .bool true => [0x74, 0x72, 0x75, 0x65]
  | .bool false => [0x66, 0x61, 0x6c, 0x73, 0x65]
  | .number n => writeNumber n
  | .string bytes => writeString bytes
  | .array items => 0x5b :: writeItems items ++ [0x5d]
  | .object members => 0x7b :: writeMembers members ++ [0x7d]

/-- The items of an array, with a comma between each two. -/
def writeItems : List Json → List UInt8
  | [] => []
  | [item] => item.write
  | item :: rest => item.write ++ 0x2c :: writeItems rest

/-- The members of an object, with a comma between each two. -/
def writeMembers : List (List UInt8 × Json) → List UInt8
  | [] => []
  | [(name, value)] => writeString name ++ 0x3a :: value.write
  | (name, value) :: rest => writeString name ++ 0x3a :: value.write ++ 0x2c :: writeMembers rest

end

/-- The compact written form as a text; empty if a string of the value is no
text. -/
def render (j : Json) : String :=
  (Text.ofUtf8? j.write).getD ""

end BearerAuth.Json
