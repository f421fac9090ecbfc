import BearerAuth.Application
import BearerAuth.CommandLine.Arguments
import BearerAuth.EnvFile
import BearerAuth.Text.Utf8

/-!
# Running a command

- `Command.perform`: what a command prints about a running service.
- `run`: the outcome of the program for arguments and an environment.
-/

namespace BearerAuth.CommandLine

open Time

/-- How the program ends and what it has printed. -/
structure Outcome where
  code : UInt8
  output : String := ""
  report : String := ""
  deriving DecidableEq, Repr

/-- What a command prints, one line each. -/
def printed (lines : List String) : String :=
  String.join (lines.map (· ++ "\n"))

/-- The result, where a failure is the cause of one with the message. -/
def within {ε α : Type} (message : String) (failure : ε → Failure) (result : Except ε α) :
    Except Failure α :=
  result.mapError fun why => (failure why).within message

namespace Command

/-- The tokens for a user with a password, where `login` is what authentication
says. -/
def tokens (e : Engine) (now : Instant) (login : Except StoreError Fields)
    (username address : String) : Except Failure String := do
  let access ← within "generate access token" TokenError.failure (e.issueAccess now login)
  let refresh ←
    within "generate refresh token" TokenError.failure (e.issueRefresh now username address)
  .ok (printed ["access token: " ++ access, "refresh token: " ++ refresh])

/-- What the command prints. -/
def perform (a : Application) (now : Instant) (salt : Password.Salt) :
    Command → Checked (Except Failure String)
  | createUser fields =>
    match a.createUser salt (NameMap.ofList fields) with
    | .error fault => .error fault
    | .ok created =>
      .ok (within "create user" StoreError.failure (created.map fun () => printed ["user created"]))
  | generateToken username password address =>
    match a.authenticate username password with
    | .error fault => .error fault
    | .ok login => .ok (tokens a.engine now login username address)
  | verifyToken token =>
    .ok <| within "verify token" TokenError.failure <|
      (a.engine.verify now .access token).map fun who =>
        printed ["username: " ++ who.username, "role: " ++ who.role.getD ""]
  | refreshToken access refresh =>
    .ok <| within "refresh token" TokenError.failure <|
      (a.engine.renew now access refresh).map fun renewal =>
        printed ["username: " ++ renewal.username, "access token: " ++ renewal.accessToken]

end Command

/-- The variables that are set, with those of the file `.env` added that are
not. -/
def environment (world : World) (set : EnvFile.Assignments) : EnvFile.Assignments :=
  match (world.file ".env").bind Text.ofUtf8? with
  | none => set
  | some file => EnvFile.load set file

/-- The service for an environment. -/
def service (world : World) (set : EnvFile.Assignments) : Except Failure Application :=
  match Configuration.ofVariables (fun name => set.lookup name) with
  | .error why => .error why.failure
  | .ok config => Application.start world config

/-- How the program ends instead of performing a command. -/
def Detour.outcome : Detour → Outcome
  | .page p => { code := 0, output := p.render }
  | .version => { code := 0, output := versionLine }
  | .usage why =>
    { code := 2
      report := "error: " ++ why.message ++ "\n\nFor more information, try '--help'.\n" }

/-- The outcome of the program. The arguments are read first. -/
def run (world : World) (set : EnvFile.Assignments) (now : Instant) (salt : Password.Salt)
    (arguments : List String) : Checked Outcome :=
  match Command.read arguments with
  | .error detour => .ok detour.outcome
  | .ok command =>
    match service world (environment world set) with
    | .error why => .ok { code := 1, report := why.report }
    | .ok a =>
      match command.perform a now salt with
      | .error fault => .error fault
      | .ok (.error why) => .ok { code := 1, report := why.report }
      | .ok (.ok output) => .ok { code := 0, output }

end BearerAuth.CommandLine
