import BearerAuth.Schema.Sql
import BearerAuth.Store.Record

/-!
# Users in a relational database

The same operations over a table of a database. Each sends at most one
statement; values are bound to it and never become part of its text.

- `Statement`, `Reply`: what is sent to the server and what it answers.
- `Dialogue`: an operation that may send statements, and `Dialogue.run` its
  result with a server.
- `Relational.create`, `Relational.authenticate`, `Relational.info`: the
  operations.
-/

namespace BearerAuth

open Time

/-- A statement with the values bound to its placeholders, in order. -/
structure Statement where
  text : String
  parameters : List String
  deriving DecidableEq, Repr

/-- A cell of a row: a time stamp is given in microseconds since the start of
2000. -/
inductive Cell where
  | null
  | text (value : String)
  | timestamp (micros : Int)
  deriving DecidableEq, Repr

/-- What a server answers to a statement. -/
inductive Reply where
  | rows (rows : List (List Cell))
  | failed (why : DatabaseError)
  deriving DecidableEq, Repr

/-- An operation that sends statements and goes on with the replies. -/
inductive Dialogue (α : Type) where
  | done (result : α)
  | send (statement : Statement) (next : Reply → Dialogue α)

namespace Dialogue

/-- The result of the operation with a server, and the statements sent to it. -/
def run {α : Type} (server : Statement → Reply) : Dialogue α → List Statement × α
  | .done result => ([], result)
  | .send statement next =>
    let (rest, result) := (next (server statement)).run server
    (statement :: rest, result)

/-- The operation with something done to its result. -/
def map {α β : Type} (f : α → β) : Dialogue α → Dialogue β
  | .done result => .done (f result)
  | .send statement next => .send statement fun reply => (next reply).map f

end Dialogue

namespace Relational

open Sql

/-- The columns of a record in the order of the schema, with their values. -/
def present (s : Schema) (record : Fields) : List (Column × String) :=
  s.columns.filterMap fun c => (record.get? c.name).map fun value => (c, value)

/-- The placeholders from number `n` on, each cast to the type of its column. -/
def placeholders (n : Nat) : List Column → List String
  | [] => []
  | c :: rest => ("$" ++ toString n ++ "::" ++ c.type.sqlType) :: placeholders (n + 1) rest

/-- The statement that stores a record. -/
def insertion (s : Schema) (record : Fields) : Statement :=
  let present := present s record
  let columns := present.map (·.1)
  { text :=
      "INSERT INTO " ++ identifier s.table ++ " (" ++
        commaList (columns.map fun c => identifier c.name) ++ ") VALUES (" ++
        commaList (placeholders 1 columns) ++ ")"
    parameters := present.map (·.2) }

/-- How a column is selected: time stamps as they are, all else as text. -/
def selected (c : Column) : String :=
  if c.type = .timestamp then identifier c.name else identifier c.name ++ "::TEXT"

/-- The statement that selects the row of a user. -/
def selection (s : Schema) (username : String) : Statement where
  text :=
    "SELECT " ++ commaList (s.columns.map selected) ++ " FROM " ++ identifier s.table ++
      " WHERE " ++ identifier s.username.name ++ " = $1::" ++ s.username.type.sqlType
  parameters := [username]

/-- The instant of a time stamp cell. -/
def instantOf (micros : Int) : Instant :=
  ⟨(Instant.ofSeconds 946684800).nanoseconds + micros * 1000⟩

/-- The value of a cell in the form in which its type is stored; none for null. -/
def readCell (c : Column) (cell : Cell) : Checked (Except StoreError (Option String)) :=
  match c.type, cell with
  | _, .null => .ok (.ok none)
  | .timestamp, .timestamp micros =>
    match Rfc3339.write? (instantOf micros) with
    | .error fault => .error fault
    | .ok none => .ok (.error (.invalidValue c.name c.type))
    | .ok (some text) => .ok (.ok (some text))
  | .timestamp, .text _ => .ok (.error (.database (.unexpectedCell c.name)))
  | _, .text value => .ok (.ok (some value))
  | _, .timestamp _ => .ok (.error (.database (.unexpectedCell c.name)))

/-- Adds the cells of a row, in the order of the columns, to a record. -/
def readRow : List Column → List Cell → Fields → Checked (Except StoreError Fields)
  | [], _, record => .ok (.ok record)
  | c :: columns, cells, record =>
    match cells with
    | [] => .ok (.error (.database (.unexpectedCell c.name)))
    | cell :: cells =>
      match readCell c cell with
      | .error fault => .error fault
      | .ok (.error e) => .ok (.error e)
      | .ok (.ok none) => readRow columns cells record
      | .ok (.ok (some value)) => readRow columns cells (record.insert c.name value)

/-- What the reply to an insertion means. -/
def insertionResult : Reply → Except StoreError Unit
  | .rows _ => .ok ()
  | .failed (.server code message) =>
    if code = DatabaseError.uniqueViolation then .error .userExists
    else .error (.database (.server code message))
  | .failed why => .error (.database why)

/-- Creates the table where it does not exist. -/
def createTable (s : Schema) : Dialogue (Except StoreError Unit) :=
  .send ⟨s.createTable, []⟩ fun
    | .rows _ => .done (.ok ())
    | .failed why => .done (.error (.database why))

/-- Creates the table where the schema asks for that. -/
def prepareTable (s : Schema) : Dialogue (Except StoreError Unit) :=
  if s.autoCreate then createTable s else .done (.ok ())

/-- Connects to the server, given how that turned out, and prepares the table. -/
def connect (s : Schema) (connection : Except DatabaseError Unit) :
    Dialogue (Except StoreError Unit) :=
  match connection with
  | .error why => .done (.error (.database why))
  | .ok () => prepareTable s

/-- Stores the user that the values supplied describe. -/
def create (s : Schema) (salt : Password.Salt) (supplied : Fields) :
    Checked (Dialogue (Except StoreError Unit)) :=
  match s.prepare salt supplied with
  | .error fault => .error fault
  | .ok (.error e) => .ok (.done (.error e))
  | .ok (.ok record) =>
    .ok (.send (insertion s record) fun reply => .done (insertionResult reply))

/-- The record that a reply to a selection holds, if the password is the one
given. -/
def selectionResult (s : Schema) (password : String) :
    Reply → Checked (Except StoreError Fields)
  | .failed why => .ok (.error (.database why))
  | .rows [] => .ok (.error .userNotFound)
  | .rows (row :: _) =>
    match readRow s.columns row .empty with
    | .error fault => .error fault
    | .ok (.error e) => .ok (.error e)
    | .ok (.ok record) => .ok (unlock record password)

/-- The record of a user without the password, if that is the one given. A name
that the type of its column does not have is nobody's, and nothing is sent. -/
def authenticate (s : Schema) (username password : String) :
    Dialogue (Checked (Except StoreError Fields)) :=
  if s.username.type.accepts username then
    .send (selection s username) fun reply => .done (selectionResult s password reply)
  else .done (.ok (.error .userNotFound))

/-- The part of the record that is shown. -/
def info (s : Schema) (username password : String) :
    Dialogue (Checked (Except StoreError Fields)) :=
  (authenticate s username password).map (·.map (·.map s.shown))

end Relational

end BearerAuth
