import BearerAuth.Json.Writer

/-!
# Requests and responses

What of an HTTP request is looked at, and what is answered. Requests carry all
their values in headers; their bodies are not read.

- `Request.header?`: the value of a header, whose name may be written in either
  case.
- `Response`: a status and a body with its type.
-/

namespace BearerAuth.Http

/-- A request. The values of headers are bytes, and names may repeat; the peer
is the address that the request came from, if that is known. -/
structure Request where
  method : String
  path : String
  headers : List (String × List UInt8)
  peer : Option String
  deriving DecidableEq, Repr

/-- The path of a request's target: what comes before the query and the
fragment. -/
def pathOf (target : String) : String :=
  String.ofList (target.toList.takeWhile fun c => c != '?' && c != '#')

/-- The ASCII letters of a text in lower case. -/
def lowerCase (s : String) : String :=
  String.ofList (s.toList.map Char.toLower)

/-- The value of the first header with the name, which is given in lower case. -/
def Request.header? (r : Request) (name : String) : Option (List UInt8) :=
  (r.headers.find? fun h => lowerCase h.1 == name).map (·.2)

/-- The body of a response. -/
inductive Body where
  | empty
  | text (s : String)
  | json (j : Json)

/-- A response: the status, the type of the body, if there is one, and the body. -/
structure Response where
  status : Nat
  contentType : Option String
  body : Body

namespace Response

/-- A response without a body. -/
def bare (status : Nat) : Response := ⟨status, none, .empty⟩

/-- A response with a JSON object of texts as its body. -/
def object (status : Nat) (members : List (String × String)) : Response :=
  ⟨status, some "application/json", .json (.ofMembers (members.map fun m => (m.1, .ofText m.2)))⟩

/-- A response that reports an error, by its kind and its wording. -/
def error (status : Nat) (kind message : String) : Response :=
  object status [("error", kind), ("message", message)]

end Response

end BearerAuth.Http
