/-!
# What the program can be asked to do

Each verb takes options, and each option a value.

- `Verb`: the verbs, with their names and their options.
- `Verb.ofName?`: a verb by name.
-/

namespace BearerAuth.CommandLine

/-- An option. It is given as `--name value` or as `--name=value`. -/
structure OptionSpec where
  name : String
  placeholder : String
  about : String := ""
  required : Bool := false
  repeatable : Bool := false
  default : Option String := none
  deriving DecidableEq, Repr

/-- What the program can be asked to do. -/
inductive Verb where
  | createUser
  | generateToken
  | verifyToken
  | refreshToken
  deriving DecidableEq, Repr

/-- The option for the values of a user. -/
def fieldOption : OptionSpec where
  name := "field"
  placeholder := "FIELDS"
  about := "Column value as name=value; repeat per column"
  repeatable := true

/-- The option for the name of a user. -/
def usernameOption : OptionSpec where
  name := "username"
  placeholder := "USERNAME"
  required := true

/-- The option for the password of a user. -/
def passwordOption : OptionSpec where
  name := "password"
  placeholder := "PASSWORD"
  required := true

/-- The option for the address from which a user comes. -/
def addressOption : OptionSpec where
  name := "ip"
  placeholder := "IP"
  about := "Address recorded in the refresh token"
  default := some "cli"

/-- The option for the token to verify. -/
def tokenOption : OptionSpec where
  name := "token"
  placeholder := "TOKEN"
  required := true

/-- The option for the access token to renew. -/
def accessOption : OptionSpec where
  name := "access"
  placeholder := "ACCESS"
  required := true

/-- The option for the refresh token. -/
def refreshOption : OptionSpec where
  name := "refresh"
  placeholder := "REFRESH"
  required := true

namespace Verb

/-- All verbs, in the order in which they are listed. -/
def all : List Verb := [.createUser, .generateToken, .verifyToken, .refreshToken]

/-- The word for the verb. -/
def name : Verb → String
  | createUser => "create-user"
  | generateToken => "generate-token"
  | verifyToken => "verify-token"
  | refreshToken => "refresh-token"

/-- What the verb does. -/
def about : Verb → String
  | createUser => "Create a user from schema column values"
  | generateToken => "Authenticate and print an access and a refresh token"
  | verifyToken => "Verify an access token and print its identity"
  | refreshToken => "Exchange an access token and a refresh token for a new access token"

/-- The options of the verb. -/
def options : Verb → List OptionSpec
  | createUser => [fieldOption]
  | generateToken => [usernameOption, passwordOption, addressOption]
  | verifyToken => [tokenOption]
  | refreshToken => [accessOption, refreshOption]

/-- The verb with a name. -/
def ofName? (word : String) : Option Verb := all.find? fun v => v.name = word

theorem ofName?_name (v : Verb) : ofName? v.name = some v := by
  cases v <;> decide

end Verb

end BearerAuth.CommandLine
