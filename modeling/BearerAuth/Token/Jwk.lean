import BearerAuth.Json.Basic

/-!
# Keys in token headers

The header of a token may hold a public key as RFC 7517 writes it. Nothing is
done with the key, but a header with a malformed one is no header.

- `Jwk.isKey`: whether a value is a key.
-/

namespace BearerAuth.Jwk

open Json

/-- The name of a choice: a text, or the only member of an object, whose value
is `null`. -/
def choice? : Json → Option String
  | .string bytes => Text.ofUtf8? bytes
  | .object [(name, .null)] => Text.ofUtf8? name
  | _ => none

/-- Whether the value is a choice among the names. -/
def isChoice (names : List String) (j : Json) : Bool :=
  (choice? j).any (names.contains ·)

/-- Whether the value is a text. -/
def isText (j : Json) : Bool :=
  j.text?.isSome

/-- Whether the value is a list of texts. -/
def isTextList : Json → Bool
  | .array items => items.all isText
  | _ => false

/-- Whether the member may be left out, and else is given once, as `null` or as
`check` says. -/
def mayHold (named : List (String × Json)) (name : String) (check : Json → Bool) : Bool :=
  match valuesOf name named with
  | [] => true
  | [j] => j.isNull || check j
  | _ => false

/-- Whether the member is given once, as `check` says. -/
def holds (named : List (String × Json)) (name : String) (check : Json → Bool) : Bool :=
  match valuesOf name named with
  | [j] => check j
  | _ => false

/-- The curves of elliptic keys. -/
def curves : List String := ["P-256", "P-384", "P-521", "Ed25519"]

/-- Whether the members that keys of all types share are well-formed. -/
def isCommon (named : List (String × Json)) : Bool :=
  mayHold named "use" isText && mayHold named "key_ops" isTextList &&
    mayHold named "alg" (fun j => (choice? j).isSome) && mayHold named "kid" isText &&
    mayHold named "x5u" isText && mayHold named "x5c" isTextList && mayHold named "x5t" isText &&
    mayHold named "x5t#S256" isText

/-- Whether the members give a key of one of the types. -/
def isTyped (named : List (String × Json)) : Bool :=
  (holds named "kty" (isChoice ["EC"]) && holds named "crv" (isChoice curves) &&
      holds named "x" isText && holds named "y" isText) ||
    (holds named "kty" (isChoice ["RSA"]) && holds named "n" isText && holds named "e" isText) ||
    (holds named "kty" (isChoice ["oct"]) && holds named "k" isText) ||
    (holds named "kty" (isChoice ["OKP"]) && holds named "crv" (isChoice curves) &&
      holds named "x" isText)

/-- Whether the value is a key; it lies inside the header and one level deeper. -/
def isKey : Json → Bool
  | .object members =>
    match namedMembers? members with
    | none => false
    | some named =>
      named.all (fun m => m.2.buffers (depthLimit - 2)) && isCommon named && isTyped named
  | _ => false

end BearerAuth.Jwk
