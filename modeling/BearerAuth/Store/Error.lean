import BearerAuth.Password.Phc
import BearerAuth.Schema.ColumnType
import BearerAuth.Schema.Error

/-!
# Failures of a store

Why a user is not created or not found, each reason with its kind, its wording
and what caused it.
-/

namespace BearerAuth

/-- Why the database gave no answer. -/
inductive DatabaseError where
  | configuration (reason : String)
  | communication (reason : String)
  | server (code message : String)
  | unexpectedCell (column : String)
  deriving DecidableEq, Repr

namespace DatabaseError

/-- The wording of the error. -/
def message : DatabaseError → String
  | configuration reason => "error with configuration: " ++ reason
  | communication reason => "error communicating with database: " ++ reason
  | server _ message => "error returned from database: " ++ message
  | unexpectedCell column => "error occurred while decoding column " ++ column

/-- The wordings of what caused the error, nearest first. -/
def causes : DatabaseError → List String
  | configuration reason => [reason]
  | communication reason => [reason]
  | server _ message => [message]
  | unexpectedCell _ => []

/-- The error where no network leads to the database. -/
def unreachable : DatabaseError := communication "Network is unreachable (os error 101)"

/-- The code under which a server reports that a unique value is taken. -/
def uniqueViolation : String := "23505"

end DatabaseError

/-- Why a store fails. -/
inductive StoreError where
  | userExists
  | userNotFound
  | invalidPassword
  | missingField (column : String)
  | invalidValue (column : String) (expected : ColumnType)
  | passwordHash (why : Password.PhcError)
  | schema (why : SchemaError)
  | database (why : DatabaseError)
  deriving DecidableEq, Repr

/-- What caused the refusal of a table description, nearest first. -/
def SchemaError.causes : SchemaError → List String
  | .unreadable reason => [reason.message]
  | _ => []

namespace StoreError

/-- The short name of the kind of failure. -/
def kind : StoreError → String
  | userExists => "user_exists"
  | userNotFound => "user_not_found"
  | invalidPassword => "invalid_password"
  | missingField _ => "missing_field"
  | invalidValue _ _ => "invalid_value"
  | passwordHash _ => "password_hash"
  | schema _ => "schema"
  | database _ => "database"

/-- The wording of the error. -/
def message : StoreError → String
  | userExists => "user already exists"
  | userNotFound => "user not found"
  | invalidPassword => "invalid password for user"
  | missingField column => "missing required field: " ++ column
  | invalidValue column expected =>
    "value for column '" ++ column ++ "' is not a valid " ++ expected.keyword
  | passwordHash why => "password hash error: " ++ why.message
  | schema why => why.message
  | database why => "database error: " ++ why.message

/-- The wordings of what caused the error, nearest first. -/
def causes : StoreError → List String
  | schema why => why.causes
  | database why => why.message :: why.causes
  | _ => []

end StoreError

end BearerAuth
