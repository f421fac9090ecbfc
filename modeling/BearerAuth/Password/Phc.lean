import BearerAuth.Bytes.Base64
import BearerAuth.Text.Split
import BearerAuth.Text.Utf8

/-!
# Password hash strings

A password hash is stored as one line of fields, each after a dollar sign: the
algorithm, a version, parameters, the salt and the hash itself. All but the
first may be missing.

- `Phc`: the fields of such a line.
- `Phc.read`: the fields of a text, or the first reason why it is no such line.
- `Phc.write`: the line of the fields.
-/

namespace BearerAuth.Password

/-- What is wrong with the value of a parameter or with a salt. -/
inductive ValueError where
  | invalidChar (c : Char)
  | invalidFormat
  | malformed
  | tooLong
  | tooShort
  deriving DecidableEq, Repr

/-- The wording of the error. -/
def ValueError.message : ValueError → String
  | .invalidChar c => "contains invalid character: '" ++ String.singleton c ++ "'"
  | .invalidFormat => "value format is invalid"
  | .malformed => "value malformed"
  | .tooLong => "value to long"
  | .tooShort => "value to short"

/-- Why a text is no password hash. -/
inductive PhcError where
  | missingField
  | trailingCharacters
  | invalidName
  | invalidValue (why : ValueError)
  | tooManyParameters
  | invalidSalt (why : ValueError)
  | hashEncoding
  | hashLength
  | hashTooShort
  deriving DecidableEq, Repr

/-- The wording of the error. -/
def PhcError.message : PhcError → String
  | .missingField => "password hash string missing field"
  | .trailingCharacters => "password hash string contains trailing characters"
  | .invalidName => "invalid parameter name"
  | .invalidValue why => "invalid parameter value: " ++ why.message
  | .tooManyParameters => "maximum number of parameters reached"
  | .invalidSalt why => "salt invalid: " ++ why.message
  | .hashEncoding => "invalid Base64 encoding"
  | .hashLength => "invalid Base64 length"
  | .hashTooShort => "output size too short, expected at least 10 bytes"

/-- The fields of a password hash. -/
structure Phc where
  algorithm : List Char
  version : Option Nat
  params : List (List Char × List Char)
  salt : Option (List Char)
  hash : Option (List UInt8)
  deriving DecidableEq, Repr

namespace Phc

/-- The bytes that the text takes. -/
def size (cs : List Char) : Nat :=
  (Text.utf8 (String.ofList cs)).length

/-- Whether the character may stand in a name. -/
def isNameChar (c : Char) : Bool :=
  c.isLower || c.isDigit || c == '-'

/-- Whether the character may stand in the value of a parameter or in a salt. -/
def isValueChar (c : Char) : Bool :=
  c.isAlphanum || c == '/' || c == '+' || c == '.' || c == '-'

/-- Checks a name: at most thirty-two lower-case letters, digits and hyphens. -/
def checkName (cs : List Char) : Except PhcError Unit :=
  if cs.isEmpty || 32 < size cs || !cs.all isNameChar then .error .invalidName else .ok ()

/-- Checks the value of a parameter. -/
def checkValue (cs : List Char) : Except ValueError Unit :=
  if 64 < size cs then .error .tooLong
  else
    match cs.find? fun c => !isValueChar c with
    | some c => .error (.invalidChar c)
    | none => .ok ()

/-- The number of 32 bits that a value spells, without zeros in front. -/
def decimal (cs : List Char) : Except ValueError Nat :=
  if cs.isEmpty then .error .malformed
  else
    match cs.find? fun c => !c.isDigit with
    | some c => .error (.invalidChar c)
    | none =>
      if cs.head? == some '0' && 1 < cs.length then .error .invalidFormat
      else
        let n := cs.foldl (fun n c => 10 * n + (c.toNat - 48)) 0
        if n < 0x100000000 then .ok n else .error .invalidFormat

/-- The version that a field gives after its mark. -/
def readVersion (cs : List Char) : Except ValueError Nat := do
  checkValue cs
  decimal cs

/-- One parameter: a name and a value around an equals sign. -/
def readParam (cs : List Char) : Except PhcError (List Char × List Char) :=
  match Text.split '=' cs with
  | [] => .error .invalidName
  | name :: rest => do
    checkName name
    match rest with
    | [] => .error (.invalidValue .malformed)
    | value :: more =>
      (checkValue value).mapError .invalidValue
      if more.isEmpty then .ok (name, value) else .error (.invalidValue .malformed)

/-- The parameters of a field, with commas between them. -/
def readParams (cs : List Char) : Except PhcError (List (List Char × List Char)) :=
  if 127 < size cs then .error .tooManyParameters
  else (Text.split ',' cs).mapM readParam

/-- Checks a salt. -/
def checkSalt (cs : List Char) : Except PhcError Unit :=
  if size cs < 4 then .error (.invalidSalt .tooShort)
  else if 64 < size cs then .error (.invalidSalt .tooLong)
  else
    match cs.find? fun c => !isValueChar c with
    | some c => .error (.invalidSalt (.invalidChar c))
    | none => .ok ()

/-- The hash of a field: ten to sixty-four bytes. -/
def readHash (cs : List Char) : Except PhcError (List UInt8) :=
  if 64 < 3 * size cs / 4 then .error .hashLength
  else
    match Bytes.Base64.standard.decode? cs with
    | none => .error .hashEncoding
    | some bytes => if bytes.length < 10 then .error .hashTooShort else .ok bytes

/-- The version and the fields after it. -/
def takeVersion : List (List Char) → Except PhcError (Option Nat × List (List Char))
  | ('v' :: '=' :: value) :: rest =>
    -- a comma makes it a field of parameters, one of which is called v
    if value.contains ',' then .ok (none, ('v' :: '=' :: value) :: rest)
    else do
      let n ← (readVersion value).mapError .invalidValue
      .ok (some n, rest)
  | fields => .ok (none, fields)

/-- The parameters and the fields after them. -/
def takeParams : List (List Char) →
    Except PhcError (List (List Char × List Char) × List (List Char))
  | [] => .ok ([], [])
  | field :: rest =>
    if field.contains '=' then do
      let ps ← readParams field
      .ok (ps, rest)
    else .ok ([], field :: rest)

/-- The salt and the hash, which are the last fields. -/
def takeHash : List (List Char) → Except PhcError (Option (List Char) × Option (List UInt8))
  | [] => .ok (none, none)
  | salt :: rest => do
    checkSalt salt
    match rest with
    | [] => .ok (some salt, none)
    | field :: more =>
      let bytes ← readHash field
      if more.isEmpty then .ok (some salt, some bytes) else .error .trailingCharacters

/-- The fields of a password hash. -/
def readList (cs : List Char) : Except PhcError Phc :=
  match Text.split '$' cs with
  | [] :: algorithm :: fields => do
    checkName algorithm
    let (version, fields) ← takeVersion fields
    let (params, fields) ← takeParams fields
    let (salt, hash) ← takeHash fields
    .ok { algorithm, version, params, salt, hash }
  | _ => .error .missingField

/-- The fields of a password hash. -/
def read (s : String) : Except PhcError Phc :=
  readList s.toList

/-- The line of the fields. -/
def writeList (p : Phc) : List Char :=
  '$' :: p.algorithm ++
    (match p.version with
      | some n => "$v=".toList ++ Nat.toDigits 10 n
      | none => []) ++
    (if p.params.isEmpty then []
      else '$' :: Text.join ',' (p.params.map fun (name, value) => name ++ '=' :: value)) ++
    (match p.salt with
      | some salt => '$' :: salt
      | none => []) ++
    (match p.hash with
      | some bytes => '$' :: Bytes.Base64.standard.encode bytes
      | none => [])

/-- The line of the fields as a text. -/
def write (p : Phc) : String :=
  String.ofList p.writeList

end Phc

end BearerAuth.Password
