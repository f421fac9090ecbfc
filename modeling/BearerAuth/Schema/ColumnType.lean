import BearerAuth.Json.Reader
import BearerAuth.Text.Uuid
import BearerAuth.Time.Rfc3339

/-!
# Column types

The types a column of the user table may have, and the texts that are values of
each.

- `ColumnType.accepts`: whether a text is a value of the type.
- `ColumnType.canonical`: the form in which a value is stored. Time stamps are
  converted to UTC and whole microseconds, all other values are stored as they
  are.
-/

namespace BearerAuth

/-- The type of a column. -/
inductive ColumnType where
  | text
  | integer
  | boolean
  | uuid
  | jsonb
  | timestamp
  deriving DecidableEq, Repr

namespace ColumnType

/-- The word for the type in a table description. -/
def keyword : ColumnType → String
  | text => "text"
  | integer => "int"
  | boolean => "bool"
  | uuid => "uuid"
  | jsonb => "jsonb"
  | timestamp => "timestamp"

/-- The type that a word of a table description names. -/
def ofKeyword? (word : String) : Option ColumnType :=
  [text, integer, boolean, uuid, jsonb, timestamp].find? fun t => t.keyword == word

/-- The name of the type in SQL. -/
def sqlType : ColumnType → String
  | text => "TEXT"
  | integer => "INTEGER"
  | boolean => "BOOLEAN"
  | uuid => "UUID"
  | jsonb => "JSONB"
  | timestamp => "TIMESTAMPTZ"

/-- Whether the text is a truth value, in letters of either case. -/
def isTruthValue (s : String) : Bool :=
  let lower := s.toList.map Char.toLower
  lower == "true".toList || lower == "false".toList

/-- Whether the text is a value of the type. -/
def accepts (t : ColumnType) (value : String) : Bool :=
  match t with
  | text => true
  | integer => (Text.Range.int32.read value).isOk
  | boolean => isTruthValue value
  | uuid => Text.Uuid.accepts value
  | jsonb => Json.isData (Text.utf8 value)
  | timestamp => (Time.Rfc3339.read? value).isSome

/-- The form in which the value is stored; none if the type has no such value.
Time stamps after the calendar are a fault. -/
def canonical (t : ColumnType) (value : String) : Time.Checked (Option String) :=
  match t with
  | timestamp => Time.Rfc3339.canonical value
  | t => .ok (if t.accepts value then some value else none)

end ColumnType

end BearerAuth
