import BearerAuth.Http.Message
import BearerAuth.Schema.Basic
import BearerAuth.Text.Blank

/-!
# Values in headers

Which header carries which value. Values are UTF-8 texts, the blanks around them
do not count, and a value without anything else counts as absent.

- `columnHeader`: the header for a column of a new user.
- `Request.userFields`: the values for the columns of a new user.
- `Request.credentials`, `Request.accessToken`, `Request.refreshToken`: what
  other requests need.
-/

namespace BearerAuth.Http

/-- The header with the access token. -/
def accessTokenHeader : String := "x-access-token"

/-- The header with the refresh token. -/
def refreshTokenHeader : String := "x-refresh-token"

/-- The header with the username of a login. -/
def usernameHeader : String := "x-username"

/-- The header with the password of a login. -/
def passwordHeader : String := "x-password"

/-- The header in which an access token may be presented as a bearer token. -/
def authorizationHeader : String := "authorization"

/-- A character of a column name in a header name. -/
def headerChar (c : Char) : Char :=
  if c = '_' then '-' else c.toLower

/-- The header that carries the value of a column for a new user. -/
def columnHeader (column : String) : String :=
  "x-user-" ++ String.ofList (column.toList.map headerChar)

/-- Why a request is refused for its headers. -/
inductive HeaderError where
  | invalid (name : String)
  | missing (name : String)
  deriving DecidableEq, Repr

/-- The response to such a request. -/
def HeaderError.response : HeaderError → Response
  | .invalid name => .error 400 "invalid_header" (name ++ " header is not valid UTF-8")
  | .missing name => .error 400 "missing_header" ("missing " ++ name ++ " header")

/-- What follows the word for bearer tokens, if the value starts with it. -/
def bearer? (authorization : String) : Option String :=
  match authorization.toList with
  | 'B' :: 'e' :: 'a' :: 'r' :: 'e' :: 'r' :: ' ' :: rest => some (String.ofList rest)
  | 'b' :: 'e' :: 'a' :: 'r' :: 'e' :: 'r' :: ' ' :: rest => some (String.ofList rest)
  | _ => none

namespace Request

/-- The value of a header, if there is more to it than blanks. -/
def value (r : Request) (name : String) : Except HeaderError (Option String) :=
  match r.header? name with
  | none => .ok none
  | some bytes =>
    match Text.ofUtf8? bytes with
    | none => .error (.invalid name)
    | some s =>
      let s := Text.trim s
      .ok (if s = "" then none else some s)

/-- The value of a header that has to be there. -/
def required (r : Request) (name : String) : Except HeaderError String :=
  match r.value name with
  | .error e => .error e
  | .ok none => .error (.missing name)
  | .ok (some s) => .ok s

/-- Adds the values for the columns to those found so far. -/
def columnValues (r : Request) : List Column → Fields → Except HeaderError Fields
  | [], fields => .ok fields
  | c :: rest, fields =>
    match r.value (columnHeader c.name) with
    | .error e => .error e
    | .ok none => r.columnValues rest fields
    | .ok (some s) => r.columnValues rest (fields.insert c.name s)

/-- The values for the columns of a new user. -/
def userFields (r : Request) (s : Schema) : Except HeaderError Fields :=
  r.columnValues s.columns .empty

/-- The username and the password of a login. -/
def credentials (r : Request) : Except HeaderError (String × String) :=
  match r.required usernameHeader with
  | .error e => .error e
  | .ok username =>
    match r.required passwordHeader with
    | .error e => .error e
    | .ok password => .ok (username, password)

/-- The access token: from the header of its own, or else as a bearer token. -/
def accessToken (r : Request) : Except HeaderError String :=
  match r.value accessTokenHeader with
  | .error e => .error e
  | .ok (some token) => .ok token
  | .ok none =>
    match r.value authorizationHeader with
    | .error e => .error e
    | .ok authorization =>
      match (authorization.bind bearer?).map Text.trim with
      | some token => if token = "" then .error (.missing accessTokenHeader) else .ok token
      | none => .error (.missing accessTokenHeader)

/-- The refresh token. -/
def refreshToken (r : Request) : Except HeaderError String :=
  r.required refreshTokenHeader

end Request

end BearerAuth.Http
