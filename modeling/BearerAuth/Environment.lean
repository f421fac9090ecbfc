import BearerAuth.Report
import BearerAuth.Text.Blank
import BearerAuth.Text.Integer
import BearerAuth.Token.Engine

/-!
# Settings from the environment

The variables that set up the service. Numbers and flags are read without the
blanks around them; one that is set but cannot be read is an error, and the
first such variable decides.

- `Configuration.ofVariables`: the settings that the variables give.
- `Configuration.settings`: what the token engine gets of them.
-/

namespace BearerAuth

open Time

/-- The value of a variable, if it is set. -/
abbrev Variables := String → Option String

/-- What is wrong with the value of a variable. -/
inductive VariableFault where
  | integer (why : Text.IntegerError)
  | flag
  deriving DecidableEq, Repr

/-- The wording of the fault. -/
def VariableFault.message : VariableFault → String
  | .integer why => why.message
  | .flag => "provided string was not \x60true\x60 or \x60false\x60"

/-- Why the variables give no settings. -/
inductive VariableError where
  | missing (name : String)
  | invalid (name raw : String) (why : VariableFault)
  deriving DecidableEq, Repr

/-- The error as a failure of the program. -/
def VariableError.failure : VariableError → Failure
  | .missing name => ⟨name ++ " must be set", []⟩
  | .invalid name raw why => ⟨name ++ " has an invalid value: " ++ raw, [why.message]⟩

/-- The settings of the service. -/
structure Configuration where
  databaseUrl : Option String
  storeConfig : String
  host : String
  port : Int
  accessSecret : String
  refreshSecret : String
  ttlMinutes : Int
  refreshTtlDays : Int
  refreshAbsoluteTtlDays : Int
  enforceAbsoluteExpiry : Bool
  deriving DecidableEq, Repr

namespace Configuration

/-- A variable that has to be set. -/
def required (lookup : Variables) (name : String) : Except VariableError String :=
  match lookup name with
  | none => .error (.missing name)
  | some value => .ok value

/-- A number of a range. -/
def integer (lookup : Variables) (name : String) (range : Text.Range) (otherwise : Int) :
    Except VariableError Int :=
  match lookup name with
  | none => .ok otherwise
  | some raw =>
    match range.read (Text.trim raw) with
    | .error why => .error (.invalid name raw (.integer why))
    | .ok n => .ok n

/-- A flag. -/
def flag (lookup : Variables) (name : String) (otherwise : Bool) : Except VariableError Bool :=
  match lookup name with
  | none => .ok otherwise
  | some raw =>
    let word := Text.trim raw
    if word = "true" then .ok true
    else if word = "false" then .ok false
    else .error (.invalid name raw .flag)

/-- The settings that the variables give. -/
def ofVariables (lookup : Variables) : Except VariableError Configuration := do
  let databaseUrl := (lookup "DATABASE_URL").filter fun url => !Text.blank url
  let accessSecret ← required lookup "JWT_SECRET"
  let refreshSecret ← required lookup "JWT_REFRESH_SECRET"
  let ttlMinutes ← integer lookup "TOKEN_EXPIRATION_TIME_MINUTES" .int64 15
  let refreshTtlDays ← integer lookup "REFRESH_TTL_DAYS" .int64 3
  let refreshAbsoluteTtlDays ← integer lookup "REFRESH_ABSOLUTE_TTL_DAYS" .int64 15
  let enforceAbsoluteExpiry ← flag lookup "ENFORCE_ABSOLUTE_EXPIRY" false
  let storeConfig := (lookup "STORE_CONFIG").getD "configs/store.yml"
  let host := (lookup "APP_HOST").getD "0.0.0.0"
  let port ← integer lookup "APP_PORT" .word16 8080
  .ok { databaseUrl, storeConfig, host, port, accessSecret, refreshSecret, ttlMinutes
        refreshTtlDays, refreshAbsoluteTtlDays, enforceAbsoluteExpiry }

/-- A span of `count` units of `seconds` each; a number of seconds beyond
sixty-four bits is replaced by the nearest one that is not. -/
def span (count seconds : Int) : Span :=
  .ofSeconds (Text.Range.int64.clamp (count * seconds))

/-- What the token engine gets; the schema is left to the store. -/
def settings (c : Configuration) : Settings where
  accessSecret := some c.accessSecret
  refreshSecret := some c.refreshSecret
  tokenLifetime := some (span c.ttlMinutes 60)
  refreshTtl := span c.refreshTtlDays secondsPerDay
  refreshAbsoluteTtl := span c.refreshAbsoluteTtlDays secondsPerDay
  ceiling := if c.enforceAbsoluteExpiry then .enforced else .unenforced
  schema := none

end Configuration

end BearerAuth
