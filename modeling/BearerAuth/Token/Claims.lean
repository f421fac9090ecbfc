import BearerAuth.Json.Reader
import BearerAuth.Json.Writer
import BearerAuth.NameMap

/-!
# Claims

What tokens say, and how it is written as JSON. An access token names its issuer
and its expiry and carries one text for every claim of the user; a refresh token
names the user and the address it was given to, and has a second expiry that
renewals cannot move.

- `AccessClaims`, `RefreshClaims`: the claims of the two kinds of token.
- `AccessClaims.toJson`, `AccessClaims.ofJson?` and the same for refresh claims:
  the written form. All members of an access token but its own have to be texts;
  unknown members of a refresh token are skipped. No known member may repeat.
-/

namespace BearerAuth

/-- The claims of an access token. Times are seconds since the start of 1970,
the time of the last renewal nanoseconds. -/
structure AccessClaims where
  issuer : String
  expiry : Int64
  refreshedAt : Option Int64
  fields : Fields
  deriving DecidableEq

/-- The claims of a refresh token, with times in seconds since the start of
1970. -/
structure RefreshClaims where
  username : Option String
  address : String
  issuedAt : Int64
  expiry : Int64
  absoluteExpiry : Int64
  valid : Bool
  deriving DecidableEq

/-- What an optional member holds: nothing if it is absent or `null`. -/
def Json.optional? {α : Type} (read : Json → Option α) : List Json → Option (Option α)
  | [] => some none
  | j :: _ => if j.isNull then some none else (read j).map some

/-- What a member holds that has to be there. -/
def Json.required? {α : Type} (read : Json → Option α) : List Json → Option α
  | [] => none
  | j :: _ => read j

/-- What a member holds, or what counts without it. -/
def Json.orElse? {α : Type} (read : Json → Option α) (otherwise : α) : List Json → Option α
  | [] => some otherwise
  | j :: _ => read j

namespace AccessClaims

/-- The members that are not claims of the user. -/
def known : List String := ["iss", "exp", "refreshed_at"]

/-- The members that are written for claims: the known ones first, then those of
the user in order. -/
def members (c : AccessClaims) : List (String × Json) :=
  [("iss", .ofText c.issuer), ("exp", .ofInt64 c.expiry)] ++
    (match c.refreshedAt with
      | some n => [("refreshed_at", .ofInt64 n)]
      | none => []) ++
    c.fields.entries.map fun e => (e.1, .ofText e.2)

/-- The claims as JSON. -/
def toJson (c : AccessClaims) : Json :=
  .ofMembers c.members

/-- The members that are claims of the user, each a text. -/
def fieldPairs? : List (String × Json) → Option (List (String × String))
  | [] => some []
  | (name, value) :: rest =>
    if name ∈ known then fieldPairs? rest
    else do
      let text ← value.text?
      let rest ← fieldPairs? rest
      some ((name, text) :: rest)

/-- The claims that members with texts as names hold. Of claims of the user with
one name the last counts. -/
def ofNamed? (named : List (String × Json)) : Option AccessClaims :=
  if !Json.unrepeated known named then none
  else do
    let issuer ← Json.required? Json.text? (Json.valuesOf "iss" named)
    let expiry ← Json.required? Json.int64? (Json.valuesOf "exp" named)
    let refreshedAt ← Json.optional? Json.int64? (Json.valuesOf "refreshed_at" named)
    let pairs ← fieldPairs? named
    some { issuer, expiry, refreshedAt, fields := .ofList pairs }

/-- The claims that JSON holds. -/
def ofJson? : Json → Option AccessClaims
  | .object members => (Json.namedMembers? members).bind ofNamed?
  | _ => none

end AccessClaims

namespace RefreshClaims

/-- The members of the claims. -/
def known : List String := ["username", "addr", "iat", "exp", "aexp", "valid"]

/-- The members that are written for claims. -/
def members (c : RefreshClaims) : List (String × Json) :=
  (match c.username with
    | some name => [("username", .ofText name)]
    | none => []) ++
    [("addr", .ofText c.address), ("iat", .ofInt64 c.issuedAt), ("exp", .ofInt64 c.expiry),
      ("aexp", .ofInt64 c.absoluteExpiry), ("valid", .bool c.valid)]

/-- The claims as JSON. -/
def toJson (c : RefreshClaims) : Json :=
  .ofMembers c.members

/-- The claims that members with texts as names hold. -/
def ofNamed? (named : List (String × Json)) : Option RefreshClaims :=
  if !Json.unrepeated known named then none
  else do
    let username ← Json.optional? Json.text? (Json.valuesOf "username" named)
    let address ← Json.orElse? Json.text? "" (Json.valuesOf "addr" named)
    let issuedAt ← Json.required? Json.int64? (Json.valuesOf "iat" named)
    let expiry ← Json.required? Json.int64? (Json.valuesOf "exp" named)
    let absoluteExpiry ← Json.required? Json.int64? (Json.valuesOf "aexp" named)
    let valid ← Json.orElse? Json.bool? false (Json.valuesOf "valid" named)
    some { username, address, issuedAt, expiry, absoluteExpiry, valid }

/-- The claims that JSON holds: an object, or an array of the values in order,
where the last one may be left out. -/
def ofJson? : Json → Option RefreshClaims
  | .object members => (Json.namedMembers? members).bind ofNamed?
  | .array (name :: addr :: iat :: exp :: aexp :: rest) => do
    let username ← Json.optional? Json.text? [name]
    let address ← addr.text?
    let issuedAt ← iat.int64?
    let expiry ← exp.int64?
    let absoluteExpiry ← aexp.int64?
    let valid ← Json.orElse? Json.bool? false rest
    if 1 < rest.length then none
    else some { username, address, issuedAt, expiry, absoluteExpiry, valid }
  | _ => none

end RefreshClaims

/-! ## Registered claims -/

namespace Json

/-- Whether a reader that wants a text, and would skip anything else, stands at
the end of the value: it does not enter collections. -/
def skippedAsText : Json → Bool
  | .array _ => false
  | .object _ => false
  | .string bytes => skimString bytes != .lost
  | .number n => skimNumber n != .lost
  | _ => true

/-- Whether a reader that wants a number, and would skip anything else, stands
at the end of the value: it enters collections only to find them empty. -/
def skippedAsNumber : Json → Bool
  | .array items => items.isEmpty
  | .object members => members.isEmpty
  | .string bytes => skimString bytes != .lost
  | .number n => skimNumber n != .lost
  | _ => true

/-- Whether a reader that keeps the value as data, or skips it where it cannot,
stands at its end. -/
def skippedAsData (j : Json) : Bool :=
  j.skim (depthLimit - 1) != .lost

/-- The claims that every token may have, whatever its kind. -/
def registered : List String := ["exp", "nbf", "sub", "iss", "aud"]

/-- The expiry of claims as every token may have them, if there is one that can
be checked: an integer that is not negative. None if a registered claim repeats
or cannot be skipped. -/
def registeredExpiry? : Json → Option (Option Int)
  | .object members => do
    let named ← namedMembers? members
    if unrepeated registered named &&
        (valuesOf "nbf" named).all skippedAsNumber && (valuesOf "sub" named).all skippedAsText &&
        (valuesOf "iss" named).all skippedAsData && (valuesOf "aud" named).all skippedAsData then
      match valuesOf "exp" named with
      | .number n :: _ => some (n.integer?.filter (0 ≤ ·))
      | _ => some none
    else none
  | .array items => if items.length ≤ 5 then some none else none
  | _ => none

end Json

end BearerAuth
