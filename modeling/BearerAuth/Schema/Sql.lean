import BearerAuth.Schema.Basic

/-!
# The SQL of a schema

The statement that creates the user table. Names are identifiers and are quoted
as they are; a default is a literal in which every quote is written twice.
-/

namespace BearerAuth

namespace Sql

/-- An identifier in double quotes. -/
def identifier (name : String) : String :=
  "\"" ++ name ++ "\""

/-- A character inside a literal: a quote is written twice. -/
def literalChar (c : Char) : List Char :=
  if c = '\'' then ['\'', '\''] else [c]

/-- A literal in single quotes. -/
def literal (value : String) : String :=
  "'" ++ String.ofList (value.toList.flatMap literalChar) ++ "'"

/-- The parts with a comma and a space between each two. -/
def commaList (parts : List String) : String :=
  String.intercalate ", " parts

end Sql

open Sql

/-- The definition of the column in the statement that creates the table. -/
def Column.definition (c : Column) : String :=
  identifier c.name ++ " " ++ c.type.sqlType ++
    (if c.required then " NOT NULL" else "") ++
    (if c.unique then " UNIQUE" else "") ++
    (match c.default with
      | some value => " DEFAULT " ++ literal value
      | none => "")

namespace Schema

/-- The definitions of all columns. -/
def definitions (s : Schema) : List String :=
  s.columns.map Column.definition

/-- The clause that names the flagged key, if there is one. -/
def keyClause (s : Schema) : Option String :=
  match s.columns.filter (·.primaryKey) with
  | [] => none
  | keys => some ("PRIMARY KEY (" ++ commaList (keys.map fun c => identifier c.name) ++ ")")

/-- The statement that creates the table where it does not exist. -/
def createTable (s : Schema) : String :=
  "CREATE TABLE IF NOT EXISTS " ++ identifier s.table ++ " (" ++
    commaList (s.definitions ++ s.keyClause.toList) ++ ")"

end Schema

end BearerAuth
