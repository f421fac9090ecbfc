import BearerAuth.Password.Hash
import BearerAuth.Schema.Basic
import BearerAuth.Store.Error

/-!
# Records

A record holds the stored values of one user by column. Both stores make it from
the values supplied for a new user in the same way, and check a password against
it in the same way.

- `Schema.prepare`: the record for the values supplied. Column by column in
  order a supplied value comes before the default, a required column without
  either is an error, the password is hashed, and any other value is brought
  into the form in which its type is stored.
- `unlock`: the record without its password, if that is the one given.
-/

namespace BearerAuth

open Time

/-- What is stored in a column, given the value supplied for it: nothing if
there is no value. -/
def Column.stored (c : Column) (salt : Password.Salt) (supplied : Option String) :
    Checked (Except StoreError (Option String)) :=
  match supplied.or c.default with
  | none => .ok (if c.required then .error (.missingField c.name) else .ok none)
  | some value =>
    if c.isPassword then .ok (.ok (some (Password.hash salt value)))
    else
      match c.type.canonical value with
      | .error fault => .error fault
      | .ok none => .ok (.error (.invalidValue c.name c.type))
      | .ok (some text) => .ok (.ok (some text))

namespace Schema

/-- Adds what is stored in the columns, in order, to a record. -/
def fill (salt : Password.Salt) (supplied : Fields) :
    List Column → Fields → Checked (Except StoreError Fields)
  | [], record => .ok (.ok record)
  | c :: rest, record =>
    match c.stored salt (supplied.get? c.name) with
    | .error fault => .error fault
    | .ok (.error e) => .ok (.error e)
    | .ok (.ok none) => fill salt supplied rest record
    | .ok (.ok (some value)) => fill salt supplied rest (record.insert c.name value)

/-- The record for the values supplied. It names a user: the column for that has
a value. -/
def prepare (s : Schema) (salt : Password.Salt) (supplied : Fields) :
    Checked (Except StoreError Fields) :=
  match fill salt supplied s.columns .empty with
  | .error fault => .error fault
  | .ok (.error e) => .ok (.error e)
  | .ok (.ok record) =>
    if record.contains s.username.name then .ok (.ok record)
    else .ok (.error (.missingField s.username.name))

/-- The name under which a prepared record is stored. -/
def nameOf (s : Schema) (record : Fields) : String :=
  (record.get? s.username.name).getD ""

end Schema

/-- The record without its password, if that is the one given. A record without
one matches none. -/
def unlock (record : Fields) (password : String) : Except StoreError Fields :=
  match record.get? passwordColumn with
  | none => .error .invalidPassword
  | some hash =>
    match Password.verify password hash with
    | .error why => .error (.passwordHash why)
    | .ok false => .error .invalidPassword
    | .ok true => .ok (record.erase passwordColumn)

end BearerAuth
