import BearerAuth.Environment
import BearerAuth.Schema.Description
import BearerAuth.Service
import BearerAuth.Store.Relational

/-!
# Starting the service

The settings name a table description and maybe a database. Without a database
users are kept in memory.

- `Backend`: where the users are.
- `Application.start`: the service for settings, given the files and the
  databases that can be reached.
- `Application.createUser`, `Application.authenticate`: the operations of the
  store, wherever it is.
-/

namespace BearerAuth

open Time

/-- Where the users are: in memory, or in a database that a server answers for. -/
inductive Backend where
  | memory (users : Users)
  | relational (server : Statement → Reply)

/-- What lies outside of the program: the files, and the servers at the
addresses of databases. -/
structure World where
  file : String → Option (List UInt8)
  connect : String → Except DatabaseError (Statement → Reply)

/-- A running service. -/
structure Application where
  config : Configuration
  engine : Engine
  backend : Backend

/-- A failure of the store, as a failure of the program. -/
def StoreError.failure (e : StoreError) : Failure := ⟨e.message, e.causes⟩

/-- A failure of a token, as a failure of the program. -/
def TokenError.failure (e : TokenError) : Failure := ⟨e.message, e.causes⟩

/-- A refused table description, as a failure of the program. -/
def SchemaError.failure (e : SchemaError) : Failure := ⟨e.message, e.causes⟩

namespace Application

/-- Whether the text starts with the name of a scheme and a colon, as every
address does. -/
def hasScheme (url : String) : Bool :=
  match url.toList.map Char.toLower with
  | [] => false
  | c :: rest =>
    c.isAlpha &&
      (rest.dropWhile fun c => c.isAlphanum || c == '+' || c == '-' || c == '.').head? == some ':'

/-- The store for settings and a schema. -/
def store (world : World) (config : Configuration) (schema : Schema) : Except StoreError Backend :=
  match config.databaseUrl with
  | none => .ok (.memory .empty)
  | some url =>
    if !hasScheme (Text.trim url) then
      .error (.database (.configuration "relative URL without a base"))
    else
      match world.connect url with
      | .error why => .error (.database why)
      | .ok server =>
        match ((Relational.prepareTable schema).run server).2 with
        | .error why => .error why
        | .ok () => .ok (.relational server)

/-- The service for settings. -/
def start (world : World) (config : Configuration) : Except Failure Application :=
  match Schema.load (world.file config.storeConfig) with
  | .error why => .error (why.failure.within ("load store config " ++ config.storeConfig))
  | .ok schema =>
    match store world config schema with
    | .error why => .error why.failure
    | .ok backend =>
      match Engine.ofSettings { config.settings with schema := some schema } with
      | .error why => .error ⟨why.message, []⟩
      | .ok engine => .ok { config, engine, backend }

/-- Creates a user. -/
def createUser (a : Application) (salt : Password.Salt) (supplied : Fields) :
    Checked (Except StoreError Unit) :=
  match a.backend with
  | .memory users =>
    match users.create a.engine.schema salt supplied with
    | .error fault => .error fault
    | .ok (.error why) => .ok (.error why)
    | .ok (.ok _) => .ok (.ok ())
  | .relational server =>
    match Relational.create a.engine.schema salt supplied with
    | .error fault => .error fault
    | .ok dialogue => .ok (dialogue.run server).2

/-- The record of a user without the password, if that is the one given. -/
def authenticate (a : Application) (username password : String) :
    Checked (Except StoreError Fields) :=
  match a.backend with
  | .memory users => .ok (users.authenticate username password)
  | .relational server =>
    ((Relational.authenticate a.engine.schema username password).run server).2

end Application

end BearerAuth
