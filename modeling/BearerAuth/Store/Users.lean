import BearerAuth.Store.Record

/-!
# Users in memory

The records of all users, by the name under which each is stored. A name is
taken once and for all.

- `Users.create`: adds the user that the values supplied describe.
- `Users.authenticate`: the record of a user without the password, if that is
  the one given.
- `Users.info`: the part of that record that is shown.
-/

namespace BearerAuth

open Time

/-- The records of all users by name, oldest first. -/
structure Users where
  entries : List (String × Fields)
  deriving DecidableEq, Repr

namespace Users

/-- No users. -/
def empty : Users := ⟨[]⟩

/-- The number of users. -/
def size (u : Users) : Nat := u.entries.length

/-- The record of a user. -/
def get? (u : Users) (name : String) : Option Fields :=
  u.entries.lookup name

/-- The users with one more, whose name is not taken. -/
def add (u : Users) (name : String) (record : Fields) : Except StoreError Users :=
  match u.get? name with
  | some _ => .error .userExists
  | none => .ok ⟨u.entries ++ [(name, record)]⟩

/-- The users with the one that the values supplied describe. -/
def create (s : Schema) (u : Users) (salt : Password.Salt) (supplied : Fields) :
    Checked (Except StoreError Users) :=
  match s.prepare salt supplied with
  | .error fault => .error fault
  | .ok (.error e) => .ok (.error e)
  | .ok (.ok record) => .ok (u.add (s.nameOf record) record)

/-- The record of a user without the password, if that is the one given. -/
def authenticate (u : Users) (name password : String) : Except StoreError Fields :=
  match u.get? name with
  | none => .error .userNotFound
  | some record => unlock record password

/-- The part of the record that is shown. -/
def info (s : Schema) (u : Users) (name password : String) : Except StoreError Fields :=
  (u.authenticate name password).map s.shown

end Users

end BearerAuth
