import BearerAuth.Yaml.Cursor

/-!
# YAML scalars as they are written

Plain, quoted and block scalars, each read from a cursor at its start. Line
breaks inside a scalar are folded: a single break counts as a space, further
ones as themselves.

- `plainScalar?`, `quotedScalar?`, `blockScalar?`: the text of a scalar and the
  cursor behind it.
-/

namespace BearerAuth.Yaml

/-- What lies between two words of a scalar: blanks on one line, or a first line
break and the breaks after it. -/
structure Gap where
  blanks : List Char := []
  broken : Bool := false
  first : List Char := []
  others : List Char := []

/-- The text that a gap counts for. -/
def Gap.fold (g : Gap) : List Char :=
  if !g.broken then g.blanks
  else if g.first == ['\n'] then (if g.others.isEmpty then [' '] else g.others)
  else g.first ++ g.others

/-- The gap at the cursor, going on from `g`. Behind a line break a tab before
column `indent` is refused; blanks there do not count. -/
def gap? (indent : Nat) : (fuel : Nat) → Gap → Cursor → Option (Gap × Cursor)
  | 0, g, c => some (g, c)
  | fuel + 1, g, c =>
    match c.rest with
    | [] => some (g, c)
    | x :: _ =>
      if isBlank x then
        if g.broken then
          if c.column < indent && x == '\t' then none else gap? indent fuel g c.skip
        else gap? indent fuel { g with blanks := g.blanks ++ [x] } c.skip
      else if isBreak x then
        let (text, next) := c.takeBreak
        if g.broken then gap? indent fuel { g with others := g.others ++ text } next
        else gap? indent fuel { g with broken := true, first := text } next
      else some (g, c)

/-! ## Plain scalars -/

/-- The characters of a plain scalar up to the next blank or its end. In a flow
collection a colon before an indicator is refused. -/
def plainWord? (flow : Bool) : List Char → Option (List Char)
  | [] => some []
  | x :: rest =>
    if isBlank x || isBreak x then some []
    else if flow && x == ':' && rest.head?.any fun y => isFlowIndicator y || y == '?' then none
    else if (x == ':' && startsBlank rest) || (flow && isFlowIndicator x) then some []
    else (plainWord? flow rest).map (x :: ·)

/-- The words of a plain scalar from the cursor on, where `g` is the gap before
the cursor. -/
def plainWords? (flow : Bool) (indent : Nat) :
    (fuel : Nat) → (text : List Char) → Gap → Cursor → Option (List Char × Gap × Cursor)
  | 0, text, g, c => some (text, g, c)
  | fuel + 1, text, g, c =>
    if c.atDocumentMark || c.rest.head? == some '#' then some (text, g, c)
    else
      match plainWord? flow c.rest with
      | none => none
      | some [] => some (text, g, c)
      | some word =>
        let text := text ++ g.fold ++ word
        match gap? indent (c.rest.length + 1) {} (c.advance word.length) with
        | none => none
        | some (g, c) =>
          if !flow && c.column < indent then some (text, g, c)
          else plainWords? flow indent fuel text g c

/-- The plain scalar at the cursor. The flag says whether a line break follows
it. -/
def plainScalar? (flow : Bool) (indent : Nat) (c : Cursor) : Option (String × Bool × Cursor) :=
  (plainWords? flow indent (c.rest.length + 1) [] {} c).map fun (text, g, c) =>
    (String.ofList text, g.broken, c)

/-! ## Quoted scalars -/

/-- The value of a hexadecimal digit. -/
def hexValue? (c : Char) : Option Nat :=
  let n := c.toNat
  if 48 ≤ n ∧ n ≤ 57 then some (n - 48)
  else if 65 ≤ n ∧ n ≤ 70 then some (n - 55)
  else if 97 ≤ n ∧ n ≤ 102 then some (n - 87)
  else none

/-- The number that hexadecimal digits spell. -/
def hexNumber? (digits : List Char) : Option Nat :=
  digits.foldlM (fun acc c => (hexValue? c).map (16 * acc + ·)) 0

/-- The character of a one-letter escape. -/
def shortEscape? (c : Char) : Option Char :=
  [('0', '\x00'), ('a', '\x07'), ('b', '\x08'), ('t', '\t'), ('\t', '\t'), ('n', '\n'),
    ('v', '\x0b'), ('f', '\x0c'), ('r', '\r'), ('e', '\x1b'), (' ', ' '), ('"', '"'), ('/', '/'),
    ('\\', '\\'), ('N', '\u0085'), ('_', '\u00a0'), ('L', '\u2028'), ('P', '\u2029')].lookup c

/-- The number of digits of an escape that gives a code point. -/
def escapeLength? (c : Char) : Option Nat :=
  [('x', 2), ('u', 4), ('U', 8)].lookup c

/-- The character of an escape, after its backslash, and how many characters
spell it. -/
def escape? : List Char → Option (Char × Nat)
  | [] => none
  | x :: rest =>
    match shortEscape? x with
    | some y => some (y, 1)
    | none => do
      let length ← escapeLength? x
      let digits := rest.take length
      let n ← hexNumber? digits
      if digits.length < length ∨ (0xD800 ≤ n ∧ n ≤ 0xDFFF) ∨ 0x10FFFF < n then none
      else some (Char.ofNat n, length + 1)

/-- The characters of a quoted scalar up to the next blank, its closing quote or
an escaped line break. The flag says whether it is the latter. -/
def quotedWord? (single : Bool) : (fuel : Nat) → (word : List Char) → Cursor →
    Option (List Char × Bool × Cursor)
  | 0, _, _ => none
  | fuel + 1, word, c =>
    match c.rest with
    | [] => some (word, false, c)
    | x :: rest =>
      if isBlank x || isBreak x then some (word, false, c)
      else if single then
        if x == '\'' then
          if rest.head? == some '\'' then quotedWord? single fuel (word ++ ['\'']) (c.advance 2)
          else some (word, false, c)
        else quotedWord? single fuel (word ++ [x]) c.skip
      else if x == '"' then some (word, false, c)
      else if x == '\\' then
        if rest.head?.any isBreak then some (word, true, c.skip.skipBreak)
        else
          match escape? rest with
          | none => none
          | some (y, length) => quotedWord? single fuel (word ++ [y]) (c.advance (length + 1))
      else quotedWord? single fuel (word ++ [x]) c.skip

/-- The rest of a quoted scalar. -/
def quotedWords? (single : Bool) : (fuel : Nat) → (text : List Char) → Cursor →
    Option (List Char × Cursor)
  | 0, _, _ => none
  | fuel + 1, text, c =>
    if c.atDocumentMark || c.rest.isEmpty then none
    else do
      let (word, escaped, c) ← quotedWord? single (c.rest.length + 1) [] c
      let text := text ++ word
      if !escaped && c.rest.head? == some (if single then '\'' else '"') then some (text, c.skip)
      else
        let (g, c) ← gap? 0 (c.rest.length + 1) { broken := escaped } c
        quotedWords? single fuel (text ++ g.fold) c

/-- The quoted scalar at the cursor. -/
def quotedScalar? (single : Bool) (c : Cursor) : Option (String × Cursor) :=
  (quotedWords? single (c.rest.length + 1) [] c.skip).map fun (text, c) => (String.ofList text, c)

/-! ## Block scalars -/

/-- What happens to the line breaks at the end of a block scalar. -/
inductive Chomping where
  | clip
  | strip
  | keep
  deriving DecidableEq, Repr

/-- The header of a block scalar, after its indicator: chomping and an explicit
indentation, in either order. -/
def blockHeader? (c : Cursor) : Option (Chomping × Option Nat × Cursor) :=
  let chomping? (c : Cursor) : Option (Chomping × Cursor) :=
    match c.rest with
    | '+' :: _ => some (.keep, c.skip)
    | '-' :: _ => some (.strip, c.skip)
    | _ => none
  let indent? (c : Cursor) : Option (Option (Nat × Cursor)) :=
    match c.rest with
    | x :: _ =>
      if x == '0' then none
      else if x.isDigit then some (some (x.toNat - 48, c.skip))
      else some none
    | [] => some none
  match chomping? c with
  | some (chomping, c) =>
    match indent? c with
    | none => none
    | some (some (indent, c)) => some (chomping, some indent, c)
    | some none => some (chomping, none, c)
  | none =>
    match indent? c with
    | none => none
    | some none => some (.clip, none, c)
    | some (some (indent, c)) =>
      match chomping? c with
      | some (chomping, c) => some (chomping, some indent, c)
      | none => some (.clip, some indent, c)

/-- The line breaks at the cursor, past the indentation of the lines: their
text, the deepest indentation seen, and the cursor. With an indentation of zero
all spaces count as indentation. -/
def blockBreaks? (indent : Nat) : (fuel deepest : Nat) → (breaks : List Char) → Cursor →
    Option (List Char × Nat × Cursor)
  | 0, deepest, breaks, c => some (breaks, deepest, c)
  | fuel + 1, deepest, breaks, c =>
    let spaces := (c.rest.takeWhile (· == ' ')).length
    let c := c.advance (if indent == 0 then spaces else min spaces (indent - c.column))
    let deepest := max deepest c.column
    match c.rest with
    | [] => some (breaks, deepest, c)
    | x :: _ =>
      if x == '\t' && (indent == 0 || c.column < indent) then none
      else if isBreak x then
        let (text, c) := c.takeBreak
        blockBreaks? indent fuel deepest (breaks ++ text) c
      else some (breaks, deepest, c)

/-- The lines of a block scalar: `lastBreak` ended the line before, `breaks`
follow it. -/
def blockLines? (literal : Bool) (indent : Nat) :
    (fuel : Nat) → (text lastBreak breaks : List Char) →
    (wasBlank : Bool) → Cursor → Option (List Char × List Char × List Char × Cursor)
  | 0, text, lastBreak, breaks, _, c => some (text, lastBreak, breaks, c)
  | fuel + 1, text, lastBreak, breaks, wasBlank, c =>
    if c.column != indent || c.rest.isEmpty then some (text, lastBreak, breaks, c)
    else
      let blank := c.rest.head?.any isBlank
      let join :=
        if !literal && lastBreak == ['\n'] && !wasBlank && !blank then
          (if breaks.isEmpty then [' '] else [])
        else lastBreak
      let line := c.rest.takeWhile fun x => !isBreak x
      let (lastBreak, next) := (c.advance line.length).takeBreak
      match blockBreaks? indent (next.rest.length + 1) 0 [] next with
      | none => none
      | some (nextBreaks, _, next) =>
        blockLines? literal indent fuel (text ++ join ++ breaks ++ line) lastBreak nextBreaks blank
          next

/-- The block scalar at the cursor, in a collection whose column is `parent` (-1
for none). -/
def blockScalar? (literal : Bool) (parent : Int) (c : Cursor) : Option (String × Cursor) := do
  let (chomping, explicit, c) ← blockHeader? c.skip
  let c ← c.finishLine?
  let least := max 1 (parent + 1).toNat
  let given := explicit.map fun n => if 0 ≤ parent then parent.toNat + n else n
  let (breaks, deepest, c) ← blockBreaks? (given.getD 0) (c.rest.length + 1) 0 [] c
  let indent := given.getD (max deepest least)
  let (text, lastBreak, breaks, c) ←
    blockLines? literal indent (c.rest.length + 1) [] [] breaks false c
  let ending :=
    match chomping with
    | .strip => []
    | .clip => lastBreak
    | .keep => lastBreak ++ breaks
  some (String.ofList (text ++ ending), c)

end BearerAuth.Yaml
