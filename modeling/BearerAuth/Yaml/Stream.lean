import BearerAuth.Yaml.Scalar
import BearerAuth.Yaml.Token

/-!
# The tokens of a YAML document

A document is read token by token. Keys of mappings have no mark of their own:
where a key may stand, its place is remembered, and when the colon after it
turns up the mark of the key is put in front of it. A key has to be on one line
with its colon and at most 1024 characters before it.

- `Token.scan?`: the tokens of a whole document.
-/

namespace BearerAuth.Yaml

/-- A place where a key may have started. A required key is the only thing that
may stand there. -/
structure KeyPlace where
  possible : Bool := false
  required : Bool := false
  number : Nat := 0
  index : Nat := 0
  line : Nat := 0
  column : Nat := 0
  deriving Repr, Inhabited

/-- The state between two tokens: the columns of the open block collections,
innermost first, and the places for keys, one for each open flow collection and
one for the blocks around them. -/
structure Scan where
  cursor : Cursor
  tokens : Array Token := #[.streamStart]
  indent : Int := -1
  outer : List Int := []
  place : KeyPlace := {}
  outerPlaces : List KeyPlace := []
  keyAllowed : Bool := true
  deriving Inhabited

namespace Scan

/-- Whether a flow collection is open. -/
def inFlow (s : Scan) : Bool := !s.outerPlaces.isEmpty

/-- Adds a token at the end. -/
def push (s : Scan) (t : Token) : Scan := { s with tokens := s.tokens.push t }

/-- Adds a token in front of the token with the number given. -/
def insert (s : Scan) (number : Nat) (t : Token) : Scan :=
  { s with tokens := (s.tokens.extract 0 number).push t ++ s.tokens.extract number s.tokens.size }

/-- Moves the cursor. -/
def moveTo (s : Scan) (c : Cursor) : Scan := { s with cursor := c }

/-- Takes one token of one character. -/
def take (s : Scan) (t : Token) : Scan := (s.push t).moveTo s.cursor.skip

/-- Closes the block collections that start to the right of `column`. -/
def closeBlocks (column : Int) (s : Scan) : Scan :=
  if s.inFlow then s else go (s.outer.length + 1) s
where
  /-- Closes at most `fuel` collections. -/
  go : Nat → Scan → Scan
    | 0, s => s
    | fuel + 1, s =>
      if column < s.indent then
        go fuel { s.push .blockEnd with indent := s.outer.headD (-1), outer := s.outer.drop 1 }
      else s

/-- Opens a block collection at `column` if none is open there, in front of the
token with the number given. -/
def openBlock (s : Scan) (column : Nat) (number : Nat) (t : Token) : Scan :=
  if s.inFlow || (column : Int) ≤ s.indent then s
  else { s.insert number t with indent := column, outer := s.indent :: s.outer }

/-- Gives up the place of a key; none if there has to be a key. -/
def dropPlace? (s : Scan) : Option Scan :=
  if s.place.possible && s.place.required then none
  else some { s with place := { s.place with possible := false } }

/-- Remembers that a key may start at the cursor, where one is allowed. -/
def savePlace? (s : Scan) : Option Scan :=
  if !s.keyAllowed then some s
  else do
    let s ← s.dropPlace?
    some { s with
      place :=
        { possible := true
          required := !s.inFlow && s.indent == s.cursor.column
          number := s.tokens.size
          index := s.cursor.index
          line := s.cursor.line
          column := s.cursor.column } }

/-- The place after the cursor has moved on: keys do not reach over lines or
1024 characters. -/
def refreshPlace? (c : Cursor) (k : KeyPlace) : Option KeyPlace :=
  if k.possible && (k.line < c.line || k.index + 1024 < c.index) then
    if k.required then none else some { k with possible := false }
  else some k

/-- Gives up the places that are too far behind the cursor. -/
def refreshPlaces? (s : Scan) : Option Scan := do
  let place ← refreshPlace? s.cursor s.place
  let outerPlaces ← s.outerPlaces.mapM (refreshPlace? s.cursor)
  some { s with place, outerPlaces }

/-- Past blanks, comments and line breaks. A line break in a block allows a key.
Tabs count as blank where no key may start. -/
def skipToToken : (fuel : Nat) → Scan → Scan
  | 0, s => s
  | fuel + 1, s =>
    let c := s.cursor
    let c := if c.column == 0 && c.rest.head? == some '\ufeff' then c.skip else c
    let c := c.skipWhile fun x => x == ' ' || (x == '\t' && (s.inFlow || !s.keyAllowed))
    let c := if c.rest.head? == some '#' then c.skipLine else c
    if c.rest.head?.any isBreak then
      skipToToken fuel { s with cursor := c.skipBreak, keyAllowed := !s.inFlow || s.keyAllowed }
    else s.moveTo c

/-! ## Directives -/

/-- The number at the cursor, of at most nine digits. -/
def versionNumber? (c : Cursor) : Option (Nat × Cursor) :=
  let digits := c.rest.takeWhile Char.isDigit
  if digits.isEmpty || 9 < digits.length then none
  else some (digits.foldl (fun n d => 10 * n + (d.toNat - 48)) 0, c.advance digits.length)

/-- The handle of a tag at the cursor. A directive needs the closing mark of all
but the shortest. -/
def tagHandle? (directive : Bool) (c : Cursor) : Option (String × Cursor) :=
  match c.rest with
  | '!' :: rest =>
    let word := rest.takeWhile isWord
    match rest.drop word.length with
    | '!' :: _ => some (String.ofList ('!' :: word ++ ['!']), c.advance (word.length + 2))
    | _ =>
      if directive && !word.isEmpty then none
      else some (String.ofList ('!' :: word), c.advance (word.length + 1))
  | _ => none

/-- Whether the character may stand in a tag as it is. -/
def isTagChar (full : Bool) (c : Char) : Bool :=
  isWord c || ";/?:@&=+$.!~*'()".toList.contains c || (full && ",[]".toList.contains c)

/-- The bytes of the percent escapes that spell one character. -/
def escapedBytes? (rest : List Char) : Option (List UInt8) := do
  let byte? (n : Nat) : Option UInt8 :=
    match rest.drop (3 * n) with
    | '%' :: a :: b :: _ => (hexNumber? [a, b]).map UInt8.ofNat
    | _ => none
  let first ← byte? 0
  let more : Option Nat :=
    if first &&& 0x80 == 0 then some 0
    else if first &&& 0xE0 == 0xC0 then some 1
    else if first &&& 0xF0 == 0xE0 then some 2
    else if first &&& 0xF8 == 0xF0 then some 3
    else none
  let tail ← (List.range (← more)).mapM fun i => byte? (i + 1)
  if tail.all fun b => b &&& 0xC0 == 0x80 then some (first :: tail) else none

/-- The text of a tag from the cursor on, where escapes stand for bytes. -/
def tagBytes? (full : Bool) : (fuel : Nat) → List UInt8 → Cursor → Option (List UInt8 × Cursor)
  | 0, bytes, c => some (bytes, c)
  | fuel + 1, bytes, c =>
    match c.rest with
    | '%' :: _ => do
      let escaped ← escapedBytes? c.rest
      tagBytes? full fuel (bytes ++ escaped) (c.advance (3 * escaped.length))
    | x :: _ =>
      if isTagChar full x then
        tagBytes? full fuel (bytes ++ (String.singleton x).toUTF8.data.toList) c.skip
      else some (bytes, c)
    | [] => some (bytes, c)

/-- The text of a tag at the cursor, after `start`. There has to be something,
but the mark that `start` begins with is enough. -/
def tagText? (full : Bool) (start : String) (c : Cursor) : Option (String × Cursor) := do
  let (bytes, next) ← tagBytes? full (c.rest.length + 1) [] c
  if start.isEmpty && bytes.isEmpty then none
  else
    let text ← String.fromUTF8? ⟨bytes.toArray⟩
    some (String.ofList (start.toList.drop 1) ++ text, next)

/-- Takes a directive and the rest of its line. -/
def directive? (s : Scan) : Option Scan := do
  let c := s.cursor.skip
  let name := c.rest.takeWhile isWord
  let c := c.advance name.length
  if name.isEmpty || !startsBlank c.rest then none
  else if name == "YAML".toList then
    let (major, c) ← versionNumber? c.skipBlanks
    if c.rest.head? != some '.' then none
    else
      let (minor, c) ← versionNumber? c.skip
      let c ← c.finishLine?
      some ((s.push (.versionDirective major minor)).moveTo c)
  else if name == "TAG".toList then
    let (handle, c) ← tagHandle? true c.skipBlanks
    if !c.rest.head?.any isBlank then none
    else
      let (start, c) ← tagText? true "" c.skipBlanks
      if !startsBlank c.rest then none
      else
        let c ← c.finishLine?
        some ((s.push (.tagDirective handle start)).moveTo c)
  else none

/-! ## Properties of nodes -/

/-- The name of an anchor or alias at the cursor, after its mark. -/
def anchorName? (c : Cursor) : Option (String × Cursor) :=
  let name := c.rest.takeWhile isWord
  let rest := c.rest.drop name.length
  let ended := startsBlank rest || rest.head?.any fun x => "?:,]\x7d%@\x60".toList.contains x
  if name.isEmpty || !ended then none else some (String.ofList name, c.advance name.length)

/-- The tag at the cursor. -/
def tag? (c : Cursor) : Option (TagText × Cursor) :=
  match c.rest with
  | '!' :: '<' :: _ => do
    let (suffix, c) ← tagText? true "" (c.advance 2)
    if c.rest.head? != some '>' then none else some (⟨"", suffix⟩, c.skip)
  | _ => do
    let (handle, next) ← tagHandle? false c
    if 1 < handle.length && handle.toList.getLast? == some '!' then
      let (suffix, next) ← tagText? false "" next
      some (⟨handle, suffix⟩, next)
    else
      let (suffix, next) ← tagText? false handle next
      if suffix.isEmpty then some (⟨"", "!"⟩, next) else some (⟨"!", suffix⟩, next)

/-! ## Tokens -/

/-- Starts a token before which the places of keys and the open blocks are given
up. -/
def atMargin? (s : Scan) : Option Scan := do
  let s ← (s.closeBlocks (-1)).dropPlace?
  some { s with keyAllowed := false }

/-- Takes the bracket that opens a flow collection. -/
def openFlow? (s : Scan) (t : Token) : Option Scan := do
  let s ← s.savePlace?
  some ({ s with outerPlaces := s.place :: s.outerPlaces, place := {}, keyAllowed := true }.take t)

/-- Takes the bracket that closes a flow collection. -/
def closeFlow? (s : Scan) (t : Token) : Option Scan := do
  let s ← s.dropPlace?
  let s :=
    match s.outerPlaces with
    | [] => s
    | place :: rest => { s with place, outerPlaces := rest }
  some ({ s with keyAllowed := false }.take t)

/-- Takes the comma between the entries of a flow collection. -/
def takeComma? (s : Scan) : Option Scan := do
  let s ← s.dropPlace?
  some ({ s with keyAllowed := true }.take .flowEntry)

/-- Takes the mark of an entry of a block sequence. -/
def takeDash? (s : Scan) : Option Scan := do
  if !s.inFlow && !s.keyAllowed then none
  else
    let s := s.openBlock s.cursor.column s.tokens.size .blockSequenceStart
    let s ← s.dropPlace?
    some ({ s with keyAllowed := true }.take .blockEntry)

/-- Takes the mark of a key. -/
def key? (s : Scan) : Option Scan := do
  if !s.inFlow && !s.keyAllowed then none
  else
    let s := s.openBlock s.cursor.column s.tokens.size .blockMappingStart
    let s ← s.dropPlace?
    some ({ s with keyAllowed := !s.inFlow }.take .key)

/-- Takes the mark of a value, which may turn what lies before it into a key. -/
def value? (s : Scan) : Option Scan :=
  if s.place.possible then
    let place := s.place
    let s := s.insert place.number .key
    let s := s.openBlock place.column place.number .blockMappingStart
    some ({ s with place := { place with possible := false }, keyAllowed := false }.take .value)
  else if !s.inFlow && !s.keyAllowed then none
  else
    let s := s.openBlock s.cursor.column s.tokens.size .blockMappingStart
    some ({ s with keyAllowed := !s.inFlow }.take .value)

/-- Takes an alias or an anchor. -/
def reference? (s : Scan) (make : String → Token) : Option Scan := do
  let s ← s.savePlace?
  let (name, c) ← anchorName? s.cursor.skip
  some (({ s with keyAllowed := false }.push (make name)).moveTo c)

/-- Takes a tag. -/
def tagToken? (s : Scan) : Option Scan := do
  let s ← s.savePlace?
  let (tag, c) ← tag? s.cursor
  if startsBlank c.rest || (s.inFlow && c.rest.head? == some ',') then
    some (({ s with keyAllowed := false }.push (.tag tag)).moveTo c)
  else none

/-- Takes a block scalar. -/
def block? (s : Scan) (literal : Bool) : Option Scan := do
  let s ← s.dropPlace?
  let (text, c) ← blockScalar? literal s.indent s.cursor
  let style := if literal then Style.literal else .folded
  some (({ s with keyAllowed := true }.push (.scalar text style)).moveTo c)

/-- Takes a quoted scalar. -/
def quoted? (s : Scan) (single : Bool) : Option Scan := do
  let s ← s.savePlace?
  let (text, c) ← quotedScalar? single s.cursor
  some (({ s with keyAllowed := false }.push (.scalar text .quoted)).moveTo c)

/-- Takes a plain scalar; a line break after it allows a key. -/
def plain? (s : Scan) : Option Scan := do
  let s ← s.savePlace?
  let (text, broken, c) ← plainScalar? s.inFlow (s.indent + 1).toNat s.cursor
  some (({ s with keyAllowed := broken }.push (.scalar text .plain)).moveTo c)

/-- Whether a plain scalar may start with the character, `rest` following it. -/
def startsPlain (inFlow : Bool) (x : Char) (rest : List Char) : Bool :=
  if x == '-' then !rest.head?.any isBlank
  else if x == '?' || x == ':' then !inFlow && !startsBlank rest
  else !("-?:,[]\x7b\x7d#&*!|>'\"%@\x60".toList.contains x || isBlank x || isBreak x)

/-- Takes the token at the cursor; there is one. -/
def token? (s : Scan) (x : Char) (rest : List Char) : Option Scan :=
  if s.cursor.column == 0 && x == '%' then do (← s.atMargin?).directive?
  else if s.cursor.atDocumentMark then do
    let s ← s.atMargin?
    some ((s.push (if x == '-' then .documentStart else .documentEnd)).moveTo (s.cursor.advance 3))
  else if x == '[' then s.openFlow? .flowSequenceStart
  else if x == '{' then s.openFlow? .flowMappingStart
  else if x == ']' then s.closeFlow? .flowSequenceEnd
  else if x == '}' then s.closeFlow? .flowMappingEnd
  else if x == ',' then s.takeComma?
  else if x == '-' && startsBlank rest then s.takeDash?
  else if x == '?' && (s.inFlow || startsBlank rest) then s.key?
  else if x == ':' && (s.inFlow || startsBlank rest) then s.value?
  else if x == '*' then s.reference? .alias
  else if x == '&' then s.reference? .anchor
  else if x == '!' then s.tagToken?
  else if x == '|' && !s.inFlow then s.block? true
  else if x == '>' && !s.inFlow then s.block? false
  else if x == '\'' then s.quoted? true
  else if x == '"' then s.quoted? false
  else if startsPlain s.inFlow x rest then s.plain?
  else none

/-- Ends the document, on a line of its own. -/
def finish? (s : Scan) : Option (Array Token) := do
  let s ← (s.closeBlocks (-1)).dropPlace?
  some (s.push .streamEnd).tokens

/-- Takes all tokens. Each token has at least one character, so the length of
the document bounds their number. -/
def run? : (fuel : Nat) → Scan → Option (Array Token)
  | 0, _ => none
  | fuel + 1, s => do
    let s := s.skipToToken (s.cursor.rest.length + 1)
    let s ← s.refreshPlaces?
    let s := s.closeBlocks s.cursor.column
    match s.cursor.rest with
    | [] => s.finish?
    | x :: rest => run? fuel (← s.token? x rest)

end Scan

/-- The tokens of a document; none if it is malformed. -/
def Token.scan? (document : List Char) : Option (List Token) :=
  if document.all isPrintable then
    (Scan.run? (document.length + 1) { cursor := .start document }).map Array.toList
  else none

end BearerAuth.Yaml
