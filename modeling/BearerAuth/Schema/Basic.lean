import BearerAuth.NameMap
import BearerAuth.Schema.ColumnType
import BearerAuth.Schema.Error

/-!
# Schemas

A table description says which columns the user table has. Checking it once
gives a `Schema`, with which everything else works: the stores, the tokens and
the headers of requests.

- `TableDescription`, `ColumnDescription`: a description before it is checked.
- `Schema.ofDescription`: the check. Its errors come in a fixed order: the table
  name; column by column the name, the type and the default; the key; column by
  column the claims.
- `Schema.claim?`: under which name a column goes into an access token, if at
  all.
- `Schema.claims`, `Schema.shown`: a record as claims, and without what is not
  shown.
-/

namespace BearerAuth

/-- The description of a column before it is checked. -/
structure ColumnDescription where
  type : String
  primaryKey : Bool := false
  unique : Bool := false
  required : Bool := false
  default : Option String := none
  hidden : Bool := false
  jwtClaim : Option String := none
  deriving DecidableEq, Repr

/-- The description of a table before it is checked. -/
structure TableDescription where
  name : String
  autoCreate : Bool := false
  columns : NameMap ColumnDescription
  deriving DecidableEq, Repr

/-- The column whose value is hashed when a user is created and compared at
login. -/
def passwordColumn : String := "password"

/-- The column that names a user when no column is flagged as the key, and the
claim for it. -/
def usernameColumn : String := "username"

/-- The column whose claim is reported as the role. -/
def roleColumn : String := "role"

/-- The claims that belong to the tokens; no column may produce them. -/
def reservedClaims : List String := ["iss", "exp", "refreshed_at"]

/-- A checked column. -/
structure Column where
  name : String
  type : ColumnType
  primaryKey : Bool
  unique : Bool
  required : Bool
  hidden : Bool
  default : Option String
  jwtClaim : Option String
  deriving DecidableEq, Repr

/-- Whether the column holds the password. -/
def Column.isPassword (c : Column) : Bool :=
  c.name == passwordColumn

/-- A checked table description: its columns in byte order of their names, one
of which names a user. -/
structure Schema where
  table : String
  autoCreate : Bool
  columns : List Column
  username : Column
  deriving DecidableEq, Repr

/-- Whether the character is an ASCII letter or an underscore. -/
def isNameStart (c : Char) : Bool :=
  c.isAlpha || c == '_'

/-- Whether the text is a plain identifier: ASCII letters, digits and
underscores, no digit first. -/
def isPlainName (name : String) : Bool :=
  match name.toList with
  | [] => false
  | c :: rest => isNameStart c && rest.all fun c => isNameStart c || c.isDigit

/-- Checks the description of one column by itself. -/
def Column.ofConfig (name : String) (config : ColumnDescription) : Except SchemaError Column :=
  if !isPlainName name then .error (.invalidIdentifier name)
  else
    match ColumnType.ofKeyword? config.type with
    | none => .error (.unsupportedType name config.type)
    | some type =>
      let column : Column :=
        { name, type, primaryKey := config.primaryKey, unique := config.unique
          required := config.required, hidden := config.hidden, default := config.default
          jwtClaim := config.jwtClaim }
      if config.default.any fun value => !column.isPassword && !type.accepts value then
        .error (.invalidDefault name)
      else .ok column

/-- Checks the descriptions of all columns, each by itself. -/
def Column.ofConfigs : List (String × ColumnDescription) → Except SchemaError (List Column)
  | [] => .ok []
  | (name, config) :: rest => do
    let column ← Column.ofConfig name config
    let columns ← Column.ofConfigs rest
    .ok (column :: columns)

namespace Schema

/-- The column that names a user: the one flagged as the key, else the one
called `username`. -/
def keyColumn (columns : List Column) : Except SchemaError Column :=
  match columns.filter (·.primaryKey) with
  | [key] => .ok key
  | _ :: _ :: _ => .error .multiplePrimaryKeys
  | [] =>
    match columns.find? fun c => c.name == usernameColumn with
    | some c => .ok c
    | none => .error .noUsernameColumn

/-- The name under which the column goes into an access token, if at all. The
password never does. A name given for it counts even for a hidden column;
columns that are not hidden go by their own name, hidden ones only if they are
the key or the role. -/
def claim? (s : Schema) (c : Column) : Option String :=
  if c.isPassword then none
  else
    match c.jwtClaim with
    | some claim => some claim
    | none =>
      if !c.hidden then some c.name
      else if c.name = s.username.name then some usernameColumn
      else if c.name = roleColumn then some roleColumn
      else none

/-- Checks the claims of the columns in order, given the claims taken so far. -/
def checkClaims (s : Schema) (taken : List String) : List Column → Except SchemaError Unit
  | [] => .ok ()
  | c :: rest =>
    match s.claim? c with
    | none => s.checkClaims taken rest
    | some claim =>
      if claim ∈ reservedClaims then .error (.reservedClaim c.name claim)
      else if claim ∈ taken then .error (.duplicateClaim claim)
      else s.checkClaims (claim :: taken) rest

/-- Checks a table description. -/
def ofDescription (table : TableDescription) : Except SchemaError Schema := do
  if !isPlainName table.name then .error (.invalidIdentifier table.name)
  else
    let columns ← Column.ofConfigs table.columns.entries
    let username ← keyColumn columns
    let schema : Schema :=
      { table := table.name, autoCreate := table.autoCreate, columns, username }
    schema.checkClaims [] columns
    .ok schema

/-- The column called `name`. -/
def column? (s : Schema) (name : String) : Option Column :=
  s.columns.find? fun c => c.name == name

/-- The record without hidden columns and without the password. -/
def shown (s : Schema) (record : Fields) : Fields :=
  s.columns.foldl (fun r c => if c.hidden || c.isPassword then r.erase c.name else r) record

/-- The claim that a column gives rise to, with the value of the record. -/
def claimPair? (s : Schema) (record : Fields) (c : Column) : Option (String × String) :=
  match s.claim? c, record.get? c.name with
  | some claim, some value => some (claim, value)
  | _, _ => none

/-- The claims that a record gives rise to, by claim name. -/
def claimPairs (s : Schema) (record : Fields) : List (String × String) :=
  s.columns.filterMap (s.claimPair? record)

/-- The record as claims of an access token. -/
def claims (s : Schema) (record : Fields) : Fields :=
  NameMap.ofList (s.claimPairs record)

end Schema

end BearerAuth
