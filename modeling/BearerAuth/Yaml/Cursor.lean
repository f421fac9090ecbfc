/-!
# Positions in a YAML document

A cursor is the rest of a document together with its place: how many characters
lie before it, the line and the column. Lines end with a carriage return, a line
feed, both, or one of the breaks U+0085, U+2028 and U+2029.

- `Cursor.skip`, `Cursor.skipBreak`: past one character, past one line break.
- `Cursor.takeBreak`: a line break as it counts in a text, where most breaks
  become line feeds.
-/

namespace BearerAuth.Yaml

/-- Whether the character may stand in a document at all. -/
def isPrintable (c : Char) : Bool :=
  let n := c.toNat
  n == 0x09 || n == 0x0A || n == 0x0D || (0x20 ≤ n && n ≤ 0x7E) || n == 0x85 ||
    (0xA0 ≤ n && n ≤ 0xD7FF) || (0xE000 ≤ n && n ≤ 0xFFFD) || 0x10000 ≤ n

/-- A space or a tab. -/
def isBlank (c : Char) : Bool :=
  c == ' ' || c == '\t'

/-- The start of a line break. -/
def isBreak (c : Char) : Bool :=
  let n := c.toNat
  n == 0x0D || n == 0x0A || n == 0x85 || n == 0x2028 || n == 0x2029

/-- A character of names: a letter, a digit, a hyphen or an underscore. -/
def isWord (c : Char) : Bool :=
  c.isAlphanum || c == '_' || c == '-'

/-- The indicators of flow collections. -/
def isFlowIndicator (c : Char) : Bool :=
  c == ',' || c == '[' || c == ']' || c == '{' || c == '}'

/-- The end of the document, a line break or a blank comes first. -/
def startsBlank : List Char → Bool
  | [] => true
  | c :: _ => isBlank c || isBreak c

/-- The end of the document or a line break comes first. -/
def startsBreak : List Char → Bool
  | [] => true
  | c :: _ => isBreak c

/-- The rest of a document and its place. -/
structure Cursor where
  rest : List Char
  index : Nat
  line : Nat
  column : Nat
  deriving Repr, Inhabited

namespace Cursor

/-- The cursor at the start of a document. -/
def start (document : List Char) : Cursor := ⟨document, 0, 0, 0⟩

/-- Past `n` characters of one line. -/
def advance (c : Cursor) (n : Nat) : Cursor :=
  { c with rest := c.rest.drop n, index := c.index + n, column := c.column + n }

/-- Past one character. -/
def skip (c : Cursor) : Cursor := c.advance 1

/-- Past the characters at the start that `p` holds of; none of them breaks a
line. -/
def skipWhile (p : Char → Bool) (c : Cursor) : Cursor :=
  c.advance (c.rest.takeWhile p).length

/-- Past the blanks. -/
def skipBlanks (c : Cursor) : Cursor := c.skipWhile isBlank

/-- Past the rest of the line. -/
def skipLine (c : Cursor) : Cursor := c.skipWhile fun x => !isBreak x

/-- Past a line break, if one comes first, and the characters for which it
counts in a text. -/
def takeBreak (c : Cursor) : List Char × Cursor :=
  let next (rest : List Char) (length : Nat) : Cursor :=
    { rest, index := c.index + length, line := c.line + 1, column := 0 }
  match c.rest with
  | '\r' :: '\n' :: rest => (['\n'], next rest 2)
  | x :: rest =>
    if x == '\u2028' || x == '\u2029' then ([x], next rest 1)
    else if isBreak x then (['\n'], next rest 1)
    else ([], c)
  | [] => ([], c)

/-- Past a line break, if one comes first. -/
def skipBreak (c : Cursor) : Cursor := c.takeBreak.2

/-- Whether the mark that starts or ends a document comes first, at the start of
a line. -/
def atDocumentMark (c : Cursor) : Bool :=
  c.column == 0 && (c.rest.take 3 == "---".toList || c.rest.take 3 == "...".toList) &&
    startsBlank (c.rest.drop 3)

/-- Past blanks and a comment to the end of the line, if nothing else is left of
it. -/
def finishLine? (c : Cursor) : Option Cursor :=
  let c := c.skipBlanks
  let c := if c.rest.head? == some '#' then c.skipLine else c
  if startsBreak c.rest then some c.skipBreak else none

end Cursor

end BearerAuth.Yaml
