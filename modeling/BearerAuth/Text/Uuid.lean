/-!
# UUID texts

The written forms of a UUID: thirty-two hexadecimal digits, the same digits in
hyphenated groups of 8-4-4-4-12, and the hyphenated form in braces or after
`urn:uuid:`. Letters may have either case.
-/

namespace BearerAuth.Text.Uuid

/-- Whether the character is a hexadecimal digit. -/
def isHexDigit (c : Char) : Bool :=
  let n := c.toNat
  (48 ≤ n && n ≤ 57) || (65 ≤ n && n ≤ 70) || (97 ≤ n && n ≤ 102)

/-- Thirty-two digits in a row. -/
def isSimple (cs : List Char) : Bool :=
  cs.length == 32 && cs.all isHexDigit

/-- Groups of digits with a hyphen between each two, of the lengths given. -/
def isGrouped : List Nat → List Char → Bool
  | [], _ => false
  | [n], cs => cs.length == n && cs.all isHexDigit
  | n :: rest, cs =>
    (cs.take n).length == n && (cs.take n).all isHexDigit && (cs.drop n).head? == some '-' &&
      isGrouped rest (cs.drop (n + 1))

/-- Groups of 8-4-4-4-12 digits. -/
def isHyphenated (cs : List Char) : Bool :=
  isGrouped [8, 4, 4, 4, 12] cs

/-- The name space under which a UUID is written as a resource name. -/
def scheme : List Char := "urn:uuid:".toList

/-- Whether the text is a written form of a UUID. -/
def accepts (s : String) : Bool :=
  let cs := s.toList
  isSimple cs || isHyphenated cs ||
    (cs.head? == some '\x7b' && cs.getLast? == some '\x7d' && isHyphenated (cs.drop 1).dropLast) ||
    ((cs.take scheme.length).map Char.toLower == scheme && isHyphenated (cs.drop scheme.length))

end BearerAuth.Text.Uuid
