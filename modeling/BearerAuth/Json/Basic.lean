import BearerAuth.Json.Number
import BearerAuth.Text.Utf8

/-!
# JSON values

The tree of a JSON document. Strings and member names are kept as bytes, because
a document may hold strings that are no text where nobody looks at them; members
keep their order and may repeat.

- `Json.text?`, `Json.int64?`: what a value is as a text or an integer.
- `Json.ofText`, `Json.ofInt`: texts and integers as values.
- `Json.buffers`: whether a value can be held as data whatever it is asked for
  later.
- `Json.skim`: how far a reader gets that stops at the first thing it cannot
  hold.
-/

namespace BearerAuth

/-- A JSON value. -/
inductive Json where
  | null
  | bool (value : Bool)
  | number (value : Json.Number)
  | string (bytes : List UInt8)
  | array (items : List Json)
  | object (members : List (List UInt8 × Json))
  deriving Repr, Inhabited

namespace Json

/-- The text as a JSON string. -/
def ofText (s : String) : Json :=
  .string (Text.utf8 s)

/-- The integer as a JSON number. -/
def ofInt (n : Int) : Json :=
  .number (.ofInt n)

/-- The integer of sixty-four bits as a JSON number. -/
def ofInt64 (n : Int64) : Json :=
  ofInt n.toInt

/-- The JSON object with the members given, in order. -/
def ofMembers (members : List (String × Json)) : Json :=
  .object (members.map fun m => (Text.utf8 m.1, m.2))

/-- The text that the value is, if it is a string of well-formed text. -/
def text? : Json → Option String
  | .string bytes => Text.ofUtf8? bytes
  | _ => none

/-- The integer that the value is, if it is written as one and fits sixty-four
bits. -/
def int64? : Json → Option Int64
  | .number n => n.int64?
  | _ => none

/-- Whether the value is `null`. -/
def isNull : Json → Bool
  | .null => true
  | _ => false

/-- The boolean that the value is. -/
def bool? : Json → Option Bool
  | .bool b => some b
  | _ => none

/-- The members with their names as texts; none if a name is no text. -/
def namedMembers? : List (List UInt8 × Json) → Option (List (String × Json))
  | [] => some []
  | (name, value) :: rest => do
    let name ← Text.ofUtf8? name
    let rest ← namedMembers? rest
    some ((name, value) :: rest)

/-- The values of the members named `name`, in order. -/
def valuesOf (name : String) (members : List (String × Json)) : List Json :=
  (members.filter fun m => m.1 == name).map (·.2)

/-- Whether none of the names is given to more than one member. -/
def unrepeated (names : List String) (members : List (String × Json)) : Bool :=
  names.all fun name => (valuesOf name members).length ≤ 1

mutual

/-- Whether the value can be held as data: it is nested less than `depth` levels
deep, every string is text, and every number is finite. -/
def buffers (depth : Nat) : Json → Bool
  | .null => true
  | .bool _ => true
  | .number n => n.finite
  | .string bytes => (Text.ofUtf8? bytes).isSome
  | .array items => 1 < depth && buffersAll (depth - 1) items
  | .object members => 1 < depth && buffersMembers (depth - 1) members

/-- Whether all items can be held as data. -/
def buffersAll (depth : Nat) : List Json → Bool
  | [] => true
  | item :: rest => item.buffers depth && buffersAll depth rest

/-- Whether all members can be held as data. -/
def buffersMembers (depth : Nat) : List (List UInt8 × Json) → Bool
  | [] => true
  | (name, value) :: rest =>
    (Text.ofUtf8? name).isSome && value.buffers depth && buffersMembers depth rest

end

/-- The levels of nesting up to which values are held as data. -/
def depthLimit : Nat := 128

/-- Where a reader stands after trying to hold a value as data: it has it, it
failed but stands at the end of the value, or it failed in the middle. -/
inductive Skim where
  | complete
  | failedAtEnd
  | lost
  deriving DecidableEq, Repr

/-- Whether half of a surrogate pair is among the bytes of a string. -/
def hasHalfPair : List UInt8 → Bool
  | a :: b :: rest => (a == 0xED && 0xA0 ≤ b) || hasHalfPair (b :: rest)
  | _ => false

/-- How far a reader gets with a string: bytes that are no text are noticed at
its end, half of a surrogate pair where it stands. -/
def skimString (bytes : List UInt8) : Skim :=
  if (Text.ofUtf8? bytes).isSome then .complete
  else if hasHalfPair bytes then .lost
  else .failedAtEnd

/-- How far a reader gets with a number: one that is not finite is noticed at
its end, unless the exponent alone is too large before its last digit. -/
def skimNumber (n : Number) : Skim :=
  if n.finite then .complete else if n.exponentRunsOver then .lost else .failedAtEnd

/-- Where a reader stands after a part and what follows it inside the same
brackets: a failure at the end of the last part is overcome by the closing
bracket. -/
def Skim.andThen (part : Skim) (last : Bool) (rest : Skim) : Skim :=
  match part with
  | .complete => rest
  | .failedAtEnd => if last then .failedAtEnd else .lost
  | .lost => .lost

mutual

/-- How far a reader gets with the value that stops at the first thing it cannot
hold. -/
def skim (depth : Nat) : Json → Skim
  | .null => .complete
  | .bool _ => .complete
  | .number n => skimNumber n
  | .string bytes => skimString bytes
  | .array items => if 1 < depth then skimAll (depth - 1) items else .lost
  | .object members => if 1 < depth then skimMembers (depth - 1) members else .lost

/-- How far the reader gets with the items of an array. -/
def skimAll (depth : Nat) : List Json → Skim
  | [] => .complete
  | item :: rest => (item.skim depth).andThen rest.isEmpty (skimAll depth rest)

/-- How far the reader gets with the members of an object. -/
def skimMembers (depth : Nat) : List (List UInt8 × Json) → Skim
  | [] => .complete
  | (name, value) :: rest =>
    if (Text.ofUtf8? name).isSome then
      (value.skim depth).andThen rest.isEmpty (skimMembers depth rest)
    else .lost

end

end Json

end BearerAuth
