import BearerAuth.Bytes.Base64
import BearerAuth.Digest.Hmac
import BearerAuth.Json.Reader
import BearerAuth.Token.Jwk

/-!
# Token headers

The first segment of a token says how it is signed. Only codes under a shared
secret are of use here, but other algorithms are known by name, so that they can
be told from nonsense.

- `Algorithm`: how a token is signed.
- `Header.read?`: the algorithm that a header segment names.
-/

namespace BearerAuth

/-- How a token is signed: with an authentication code, or in a way that needs a
key pair. -/
inductive Algorithm where
  | hmac (hash : Digest.Hmac.Hash)
  | keyPair (name : String)
  deriving DecidableEq, Repr

/-- The names of the algorithms that need a key pair. -/
def Algorithm.keyPairNames : List String :=
  ["ES256", "ES384", "RS256", "RS384", "RS512", "PS256", "PS384", "PS512", "EdDSA"]

/-- The algorithm with the name. -/
def Algorithm.ofName? (name : String) : Option Algorithm :=
  if name = "HS256" then some (.hmac .sha256)
  else if name = "HS384" then some (.hmac .sha384)
  else if name = "HS512" then some (.hmac .sha512)
  else if name ∈ keyPairNames then some (.keyPair name)
  else none

namespace Header

open Jwk

/-- The members of a header in order. All but the algorithm may be left out. -/
def known : List String :=
  ["typ", "alg", "cty", "jku", "jwk", "kid", "x5u", "x5c", "x5t", "x5t#S256"]

/-- Whether the members other than the algorithm are well-formed. -/
def isWellFormed (named : List (String × Json)) : Bool :=
  mayHold named "typ" isText && mayHold named "cty" isText && mayHold named "jku" isText &&
    mayHold named "jwk" isKey && mayHold named "kid" isText && mayHold named "x5u" isText &&
    mayHold named "x5c" isTextList && mayHold named "x5t" isText && mayHold named "x5t#S256" isText

/-- The algorithm that the members name. -/
def algorithm? (named : List (String × Json)) : Option Algorithm :=
  match Json.valuesOf "alg" named with
  | [j] => if isWellFormed named then (choice? j).bind Algorithm.ofName? else none
  | _ => none

/-- The algorithm that a header names: an object, or an array of all values in
order. -/
def ofJson? : Json → Option Algorithm
  | .object members => (Json.namedMembers? members).bind algorithm?
  | .array items =>
    if items.length = known.length then algorithm? (known.zip items) else none
  | _ => none

/-- The algorithm that a header segment names. -/
def read? (segment : List Char) : Option Algorithm := do
  let bytes ← Bytes.Base64.urlSafe.decode? segment
  let j ← Json.read? bytes
  ofJson? j

/-- The header of the tokens that are made here. -/
def issued : Json :=
  .ofMembers [("typ", .ofText "JWT"), ("alg", .ofText "HS256")]

end Header

end BearerAuth
