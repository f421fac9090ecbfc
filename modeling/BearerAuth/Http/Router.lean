import BearerAuth.Http.Header
import BearerAuth.Service

/-!
# Answering requests

Four paths take requests by POST, and `/health` by GET. Requests that ask what
is allowed are always answered.

- `StoreError.status`, `TokenError.status`: the status for a failure.
- `Service.respond`: the response to a request and the service after it.
-/

namespace BearerAuth

open Time Http

/-- The status for a failure of the store. -/
def StoreError.status : StoreError → Nat
  | .userExists => 409
  | .missingField _ => 400
  | .invalidValue _ _ => 400
  | .userNotFound => 401
  | .invalidPassword => 401
  | .passwordHash _ => 500
  | .schema _ => 500
  | .database _ => 500

/-- The status for a failure of a token. -/
def TokenError.status : TokenError → Nat
  | .store why => why.status
  | .timeOutOfRange => 500
  | _ => 401

/-- The response to a failure of the store. -/
def StoreError.response (e : StoreError) : Response :=
  .error e.status e.kind e.message

/-- The response to a failure of a token. -/
def TokenError.response (e : TokenError) : Response :=
  .error e.status e.kind e.message

namespace Http

/-- What can be asked for by POST. -/
inductive Operation where
  | createUser
  | generateToken
  | verifyToken
  | refreshToken
  deriving DecidableEq, Repr

/-- The operation at a path. -/
def Operation.ofPath? (path : String) : Option Operation :=
  if path = "/createUser" then some .createUser
  else if path = "/generateToken" then some .generateToken
  else if path = "/verifyToken" then some .verifyToken
  else if path = "/refreshToken" then some .refreshToken
  else none

end Http

namespace Service

/-- Creates a user from the values in the headers. -/
def createUserResponse (s : Service) (salt : Password.Salt) (r : Request) :
    Checked (Response × Service) :=
  match r.userFields s.schema with
  | .error e => .ok (e.response, s)
  | .ok supplied =>
    match s.createUser salt supplied with
    | .error fault => .error fault
    | .ok (.error why) => .ok (why.response, s)
    | .ok (.ok s) => .ok (.object 201 [("message", "user created")], s)

/-- Makes the tokens of a user. -/
def generateTokenResponse (s : Service) (now : Instant) (r : Request) : Response :=
  match r.credentials with
  | .error e => e.response
  | .ok (username, password) =>
    match s.login now username password (r.peer.getD "unknown") with
    | .error why => why.response
    | .ok (access, refresh) =>
      .object 200 [("access_token", access), ("refresh_token", refresh)]

/-- The members of a response that say whom a token identifies. -/
def identityMembers (who : Identity) : List (String × Json) :=
  [("username", .ofText who.username),
    ("role", match who.role with
      | some role => .ofText role
      | none => .null)]

/-- Says whom an access token identifies. -/
def verifyTokenResponse (s : Service) (now : Instant) (r : Request) : Response :=
  match r.accessToken with
  | .error e => e.response
  | .ok token =>
    match s.engine.verify now .access token with
    | .error why => why.response
    | .ok who => ⟨200, some "application/json", .json (.ofMembers (identityMembers who))⟩

/-- Renews an access token. -/
def refreshTokenResponse (s : Service) (now : Instant) (r : Request) : Response :=
  match r.accessToken with
  | .error e => e.response
  | .ok access =>
    match r.refreshToken with
    | .error e => e.response
    | .ok refresh =>
      match s.engine.renew now access refresh with
      | .error why => why.response
      | .ok renewal =>
        .object 200 [("access_token", renewal.accessToken), ("username", renewal.username)]

/-- Says that the service is up; the body is left out where only the head is
asked for. -/
def healthResponse (method : String) : Response :=
  if method = "GET" then ⟨200, some "text/plain; charset=utf-8", .text "ok"⟩
  else if method = "HEAD" then ⟨200, some "text/plain; charset=utf-8", .empty⟩
  else .bare 405

/-- The response to a request for an operation, and the service after it. -/
def perform (s : Service) (now : Instant) (salt : Password.Salt) (r : Request) :
    Operation → Checked (Response × Service)
  | .createUser => s.createUserResponse salt r
  | .generateToken => .ok (s.generateTokenResponse now r, s)
  | .verifyToken => .ok (s.verifyTokenResponse now r, s)
  | .refreshToken => .ok (s.refreshTokenResponse now r, s)

/-- The response to a request, and the service after it. Only a user that is
created changes it. -/
def respond (s : Service) (now : Instant) (salt : Password.Salt) (r : Request) :
    Checked (Response × Service) :=
  if r.method = "OPTIONS" then .ok (.bare 200, s)
  else
    match Operation.ofPath? r.path with
    | some operation =>
      if r.method = "POST" then s.perform now salt r operation else .ok (.bare 405, s)
    | none => .ok (if r.path = "/health" then healthResponse r.method else .bare 404, s)

end Service

end BearerAuth
