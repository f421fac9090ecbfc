/-!
# Blank characters

A character is blank if Unicode gives it the property `White_Space`: the
twenty-five code points of `isBlank`. Header values and numeric settings are
read without the blanks around them.

- `Text.trim`: a text without leading and trailing blanks.
- `Text.blank`: whether nothing else is in a text.
-/

namespace BearerAuth.Text

/-- Whether Unicode counts the character as white space. -/
def isBlank (c : Char) : Bool :=
  let n := c.toNat
  (9 ≤ n && n ≤ 13) || n == 0x20 || n == 0x85 || n == 0xA0 || n == 0x1680 ||
    (0x2000 ≤ n && n ≤ 0x200A) || n == 0x2028 || n == 0x2029 || n == 0x202F || n == 0x205F ||
    n == 0x3000

/-- The characters without the blanks at both ends. -/
def trimList (cs : List Char) : List Char :=
  ((cs.dropWhile isBlank).reverse.dropWhile isBlank).reverse

/-- The text without the blanks at both ends. -/
def trim (s : String) : String :=
  String.ofList (trimList s.toList)

/-- Whether the text holds nothing but blanks. -/
def blank (s : String) : Bool :=
  s.toList.all isBlank

end BearerAuth.Text
