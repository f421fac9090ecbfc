import BearerAuth.Json.Writer
import BearerAuth.Text.Split
import BearerAuth.Token.Claims
import BearerAuth.Token.Error
import BearerAuth.Token.Header

/-!
# Signed tokens

A token has three segments with dots between them: the header, the claims and
the authentication code of the two, each in Base64.

- `Signed.write`: the token of claims under a secret.
- `Signed.parts?`: the segments of a text.
- `Signed.payload`: the claims of a segment, and their expiry if it can be
  checked.
- `Signed.contents`: the claims of a token that is signed under a secret.
- `Signed.verify`: the claims of such a token, if it is not expired.
- `Signed.recover`: the claims of a token without regard to signature and
  expiry.
-/

namespace BearerAuth.Signed

open Bytes.Base64 (urlSafe)

/-- The segment for a value. -/
def segment (j : Json) : List Char :=
  urlSafe.encode j.write

/-- The authentication code of a message under a secret, as a segment. -/
def code (hash : Digest.Hmac.Hash) (secret : String) (message : List Char) : List Char :=
  urlSafe.encode (hash.mac (Text.utf8 secret) (Text.utf8 (String.ofList message)))

/-- The characters of the token of claims under a secret. -/
def writeList (secret : String) (claims : Json) : List Char :=
  let message := segment Header.issued ++ '.' :: segment claims
  message ++ '.' :: code .sha256 secret message

/-- The token of claims under a secret. -/
def write (secret : String) (claims : Json) : String :=
  String.ofList (writeList secret claims)

/-- The segments of a token, and the part of it that is signed. -/
structure Parts where
  header : List Char
  claims : List Char
  message : List Char
  signature : List Char
  deriving DecidableEq, Repr

/-- The segments of a text: the last two dots divide it. -/
def parts? (token : List Char) : Option Parts := do
  let (message, signature) ← Text.cutLast? '.' token
  let (header, claims) ← Text.cutLast? '.' message
  some { header, claims, message, signature }

/-- The claims of a segment, and their expiry if it can be checked. -/
def payload {α : Type} (read : Json → Option α) (claims : List Char) :
    Except TokenError (α × Option Int) :=
  match urlSafe.decode? claims with
  | none => .error .invalidToken
  | some bytes =>
    match Json.read? bytes with
    | none => .error .claimsInvalid
    | some j =>
      match read j, j.registeredExpiry? with
      | some c, some expiry => .ok (c, expiry)
      | _, _ => .error .claimsInvalid

/-- The claims of a token that is signed under the secret, and the second up to
which it is valid. Nothing else about a token is looked at before its signature
is known to be right. -/
def contents {α : Type} (read : Json → Option α) (secret : String) (token : String) :
    Except TokenError (α × Int) :=
  match parts? token.toList with
  | none => .error .invalidToken
  | some p =>
    match Header.read? p.header with
    | none => .error .invalidToken
    | some (.keyPair _) => .error .unexpectedSigningMethod
    | some (.hmac hash) =>
      if p.signature ≠ code hash secret p.message then .error .invalidToken
      else
        match payload read p.claims with
        | .error e => .error e
        | .ok (_, none) => .error .invalidToken
        | .ok (c, some expiry) => .ok (c, expiry)

/-- The claims of a token that is signed under the secret, and that is not
expired at the second given. -/
def verify {α : Type} (read : Json → Option α) (secret : String) (second : Int)
    (token : String) : Except TokenError α :=
  match contents read secret token with
  | .error e => .error e
  | .ok (c, expiry) => if expiry < second then .error .tokenExpired else .ok c

/-- The claims of a token, without regard to its signature and its expiry. -/
def recover {α : Type} (read : Json → Option α) (token : String) : Except TokenError α :=
  match parts? token.toList with
  | none => .error .invalidToken
  | some p =>
    match Header.read? p.header with
    | none => .error .invalidToken
    | some _ => (payload read p.claims).map (·.1)

end BearerAuth.Signed
