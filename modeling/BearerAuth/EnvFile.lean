import BearerAuth.Environment

/-!
# Variables from a file

A file of lines `NAME=value` adds variables that are not set. Values may be
quoted, refer to other variables, and be followed by a comment; a quoted value
may go on over several lines. Reading stops at the first line that is malformed.

- `EnvFile.lines`: the logical lines of a file.
- `EnvFile.assignment?`: the variable that a line sets.
- `EnvFile.load`: the environment with the variables of a file added.
-/

namespace BearerAuth.EnvFile

open Text (isBlank)

/-- The variables that are set. -/
abbrev Assignments := List (String × String)

/-! ## Lines -/

/-- Where a line stands between two characters. -/
inductive LineState where
  | plain
  | blank
  | escaped
  | single
  | singleEscaped
  | double
  | doubleEscaped
  deriving DecidableEq, Repr

/-- Where the line stands after a character outside of quotes. -/
def LineState.outside (c : Char) : LineState :=
  if c = '\\' then .escaped
  else if c = '"' then .double
  else if c = '\'' then .single
  else .plain

/-- Where the line stands after a character. -/
def LineState.after (s : LineState) (c : Char) : LineState :=
  match s with
  | .blank => .outside c
  | .escaped => .plain
  | .plain => if isBlank c && c != '\n' && c != '\r' then .blank else .outside c
  | .double => if c = '\\' then .doubleEscaped else if c = '"' then .plain else .double
  | .doubleEscaped => .double
  | .single => if c = '\\' then .singleEscaped else if c = '\'' then .plain else .single
  | .singleEscaped => .single

/-- Where the line stands after the characters, and those before a comment if
there is one. -/
def scanLine (s : LineState) (seen : List Char) : List Char → LineState × Option (List Char)
  | [] => (s, none)
  | c :: rest =>
    if s = .blank ∧ c = '#' then (s, some seen)
    else scanLine (s.after c) (seen ++ [c]) rest

/-- The pieces of a text, each with the line feed that ends it. -/
def physicalLines : List Char → List (List Char)
  | [] => []
  | c :: rest =>
    if c = '\n' then [c] :: physicalLines rest
    else
      match physicalLines rest with
      | [] => [[c]]
      | line :: lines => (c :: line) :: lines

/-- The line without the characters that end it. -/
def chomp (line : List Char) : List Char :=
  match line.reverse with
  | '\n' :: '\r' :: rest => rest.reverse
  | '\n' :: rest => rest.reverse
  | _ => line

/-- The logical lines, where `start` has been read of one that is not at its
end. A line that never ends is given as none. -/
def logicalLines (state : LineState) (start : List Char) :
    List (List Char) → List (Option (List Char))
  | [] => if state = .plain then [] else [none]
  | line :: rest =>
    let whole := start ++ line
    if (whole.dropWhile isBlank).head? = some '#' then some [] :: logicalLines .plain [] rest
    else
      match scanLine state [] line with
      | (_, some before) => some (start ++ before) :: logicalLines .plain [] rest
      | (.plain, none) => some (chomp whole) :: logicalLines .plain [] rest
      | (state, none) => logicalLines state whole rest

/-- The logical lines of a file. -/
def lines (file : List Char) : List (Option (List Char)) :=
  let text :=
    match file with
    | '\ufeff' :: rest => rest
    | _ => file
  logicalLines .plain [] (physicalLines text)

/-! ## Values -/

/-- How far a value has been read. A reference is being read where `name` is
given; one in braces is `braced`. -/
structure ValueState where
  output : List Char := []
  single : Bool := false
  double : Bool := false
  escaped : Bool := false
  ended : Bool := false
  name : Option (List Char) := none
  braced : Bool := false

/-- The value of a variable: as it is set, or else as a line before has it. -/
def refer (set known : Assignments) (name : List Char) : List Char :=
  let name := String.ofList name
  (((set.lookup name).or (known.lookup name)).getD "").toList

/-- The value after one more character, where `value` gives the value of a
variable. -/
def ValueState.step? (value : List Char → List Char) (s : ValueState) (c : Char) :
    Option ValueState :=
  if s.ended then (if c = ' ' ∨ c = '\t' then some s else none)
  else if s.escaped then
    if c = '\\' ∨ c = '\'' ∨ c = '"' ∨ c = '$' ∨ c = ' ' then
      some { s with output := s.output ++ [c], escaped := false }
    else if c = 'n' then some { s with output := s.output ++ ['\n'], escaped := false }
    else none
  else if s.single then
    if c = '\'' then some { s with single := false } else some { s with output := s.output ++ [c] }
  else
    match s.name with
    | some name =>
      if c.isAlphanum || 0x80 ≤ c.toNat then some { s with name := some (name ++ [c]) }
      else if s.braced then
        if c = '}' then
          some { s with output := s.output ++ value name, name := none, braced := false }
        else some { s with name := some (name ++ [c]) }
      else if c = '{' ∧ name = [] then some { s with braced := true }
      else
        let output := s.output ++ value name
        if c = '$' then some { s with output, name := some [] }
        else some { s with output := output ++ [c], name := none }
    | none =>
      if c = '$' then some { s with name := some [] }
      else if s.double then
        if c = '"' then some { s with double := false }
        else if c = '\\' then some { s with escaped := true }
        else some { s with output := s.output ++ [c] }
      else if c = '\'' then some { s with single := true }
      else if c = '"' then some { s with double := true }
      else if c = '\\' then some { s with escaped := true }
      else if c = ' ' ∨ c = '\t' then some { s with ended := true }
      else some { s with output := s.output ++ [c] }

/-- The value that the characters spell; a comment may follow it. -/
def readValue? (value : List Char → List Char) (s : ValueState) :
    List Char → Option (List Char)
  | [] =>
    if s.braced || s.single || s.double then none
    else some (s.output ++ (match s.name with
      | some name => value name
      | none => []))
  | c :: rest =>
    if s.ended ∧ c = '#' then readValue? value s []
    else
      match s.step? value c with
      | none => none
      | some s => readValue? value s rest

/-! ## Assignments -/

/-- The name at the start and the rest. -/
def name? (cs : List Char) : Option (List Char × List Char) :=
  if cs.head?.any fun c => c.isAlpha || c == '_' then
    let name := cs.takeWhile fun c => c.isAlphanum || c == '_' || c == '.'
    some (name, (cs.drop name.length).dropWhile isBlank)
  else none

/-- What follows the equals sign at the start. -/
def equals? : List Char → Option (List Char)
  | '=' :: rest => some rest
  | _ => none

/-- The name and the value's characters of a line, if it sets a variable. -/
def target? (cs : List Char) : Option (List Char × List Char) := do
  let (name, rest) ← name? cs
  match equals? rest with
  | some rest => some (name, rest)
  | none =>
    if name = "export".toList then
      let (name, rest) ← name? rest
      (equals? rest).map fun rest => (name, rest)
    else none

/-- The variable that a line sets and its value; nothing for a line without one.
A malformed line gives none. -/
def assignment? (set known : Assignments) (line : List Char) :
    Option (Option (String × String)) :=
  let line := Text.trimList line
  if line.isEmpty || line.head? == some '#' then some none
  else do
    let (name, rest) ← target? line
    let rest := rest.dropWhile isBlank
    if rest.isEmpty || rest.head? == some '#' then some (some (String.ofList name, ""))
    else
      let value ← readValue? (refer set known) {} rest
      some (some (String.ofList name, String.ofList value))

/-- The variables that are set, with those of the lines added that are not. -/
def loadLines (set known : Assignments) : List (Option (List Char)) → Assignments
  | [] => set
  | none :: _ => set
  | some line :: rest =>
    match assignment? set known line with
    | none => set
    | some none => loadLines set known rest
    | some (some (name, value)) =>
      let set := if (set.lookup name).isSome then set else set ++ [(name, value)]
      loadLines set ((name, value) :: known) rest

/-- The variables that are set, with those of a file added that are not. -/
def load (set : Assignments) (file : String) : Assignments :=
  loadLines set [] (lines file.toList)

end BearerAuth.EnvFile
