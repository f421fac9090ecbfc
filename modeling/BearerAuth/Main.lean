import BearerAuth.CommandLine.Run
import Std.Time.DateTime.Timestamp

/-!
# The program

Users and tokens from the command line. The environment, the file `.env` and the
table description are read, one command is performed, and what it prints is
written. No way leads from here to a database.
-/

open BearerAuth CommandLine

namespace BearerAuth.CommandLine

/-- The variables that the program looks at. -/
def variableNames : List String :=
  ["DATABASE_URL", "JWT_SECRET", "JWT_REFRESH_SECRET", "TOKEN_EXPIRATION_TIME_MINUTES",
    "REFRESH_TTL_DAYS", "REFRESH_ABSOLUTE_TTL_DAYS", "ENFORCE_ABSOLUTE_EXPIRY", "STORE_CONFIG",
    "APP_HOST", "APP_PORT"]

/-- The variables that are set. -/
def currentVariables : IO EnvFile.Assignments :=
  variableNames.filterMapM fun name => do
    return (← IO.getEnv name).map fun value => (name, value)

/-- The content of a file, if it can be read. -/
def readFile? (path : String) : IO (Option (List UInt8)) := do
  try
    return some (← IO.FS.readBinFile path).toList
  catch _ => return none

/-- What lies outside of the program, as far as the program looks at it. -/
def currentWorld (set : EnvFile.Assignments) : IO World := do
  let dotenv ← readFile? ".env"
  let world : World :=
    { file := fun path => if path = ".env" then dotenv else none
      connect := fun _ => .error .unreachable }
  let known := environment world set
  match Configuration.ofVariables (fun name => known.lookup name) with
  | .error _ => return world
  | .ok config =>
    let content ← readFile? config.storeConfig
    return { world with
      file := fun path => if path = config.storeConfig then content else world.file path }

/-- The current instant. -/
def currentInstant : IO Time.Instant := do
  let t ← Std.Time.Timestamp.now
  return ⟨t.toNanosecondsSinceUnixEpoch.val⟩

/-- A salt of random bytes. -/
def freshSalt : IO Password.Salt := do
  let bytes ← IO.getRandomBytes 16
  return Vector.ofFn fun i => bytes.toList.getD i.val 0

end BearerAuth.CommandLine

/-- Performs the command that the arguments name. -/
def main (arguments : List String) : IO UInt32 := do
  let set ← currentVariables
  let world ← currentWorld set
  match run world set (← currentInstant) (← freshSalt) arguments with
  | .error _ =>
    (← IO.getStderr).putStrLn "date out of range"
    return 101
  | .ok outcome =>
    (← IO.getStdout).putStr outcome.output
    (← IO.getStderr).putStr outcome.report
    return outcome.code.toUInt32
