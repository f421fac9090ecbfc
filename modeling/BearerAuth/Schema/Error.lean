/-!
# Table descriptions that are refused

The reasons why a table description cannot be read or is no schema, each with
its wording.
-/

namespace BearerAuth

/-- Why the file of a table description gives no text. -/
inductive FileError where
  | missing
  | notText
  deriving DecidableEq, Repr

/-- The wording of the error. -/
def FileError.message : FileError → String
  | .missing => "No such file or directory (os error 2)"
  | .notText => "stream did not contain valid UTF-8"

/-- Why a table description is refused. -/
inductive SchemaError where
  | unsupportedVersion (version : Nat)
  | unsupportedType (column type : String)
  | multiplePrimaryKeys
  | noUsernameColumn
  | invalidIdentifier (name : String)
  | reservedClaim (column claim : String)
  | duplicateClaim (claim : String)
  | invalidDefault (column : String)
  | unreadable (reason : FileError)
  | malformed
  deriving DecidableEq, Repr

/-- The wording of the error. -/
def SchemaError.message : SchemaError → String
  | .unsupportedVersion version => "unsupported store config version: " ++ toString version
  | .unsupportedType column type =>
    "unsupported column type '" ++ type ++ "' for column '" ++ column ++ "'"
  | .multiplePrimaryKeys => "more than one column is flagged primary_key"
  | .noUsernameColumn => "schema has no primary key and no 'username' column"
  | .invalidIdentifier name => "invalid identifier: " ++ name
  | .reservedClaim column claim =>
    "column '" ++ column ++ "' maps to reserved claim '" ++ claim ++ "'"
  | .duplicateClaim claim => "claim '" ++ claim ++ "' is produced by more than one column"
  | .invalidDefault column => "default value of column '" ++ column ++ "' does not match its type"
  | .unreadable reason => "read store config: " ++ reason.message
  | .malformed => "parse store config"

end BearerAuth
