import BearerAuth.Store.Users
import BearerAuth.Token.Engine

/-!
# The service

Users in memory together with the engine that makes tokens for them.

- `Service.ofSettings`: the service of a schema, without users.
- `Service.createUser`, `Service.login`: a new user; the tokens of a user with a
  password.
-/

namespace BearerAuth

open Time

/-- The users and the engine for their tokens. -/
structure Service where
  engine : Engine
  users : Users

namespace Service

/-- The service of a schema, without users. -/
def ofSettings (schema : Schema) (settings : Settings) : Except SettingsError Service :=
  match Engine.ofSettings { settings with schema := some schema } with
  | .error why => .error why
  | .ok engine => .ok { engine, users := .empty }

/-- The schema of the users. -/
def schema (s : Service) : Schema := s.engine.schema

/-- The service with the user that the values supplied describe. -/
def createUser (s : Service) (salt : Password.Salt) (supplied : Fields) :
    Checked (Except StoreError Service) :=
  match s.users.create s.schema salt supplied with
  | .error fault => .error fault
  | .ok (.error why) => .ok (.error why)
  | .ok (.ok users) => .ok (.ok { s with users })

/-- An access token for a user with a password. -/
def generateToken (s : Service) (now : Instant) (username password : String) :
    Except TokenError String :=
  s.engine.issueAccess now (s.users.authenticate username password)

/-- An access token and a refresh token for a user with a password at an
address. -/
def login (s : Service) (now : Instant) (username password address : String) :
    Except TokenError (String × String) := do
  let access ← s.generateToken now username password
  let refresh ← s.engine.issueRefresh now username address
  .ok (access, refresh)

end Service

end BearerAuth
