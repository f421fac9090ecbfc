import BearerAuth.Digest.Argon2
import BearerAuth.Password.Phc

/-!
# Hashing passwords

Passwords are stored as Argon2id hashes with 19 MiB of memory, two passes, one
lane and 32 bytes. Any Argon2 hash is understood when a password is compared
with one.

- `Password.hash`: the hash of a password under a salt.
- `Password.verify`: whether a password has the hash given. Only a text that is
  no password hash is an error; a hash that cannot be checked matches no
  password.
-/

namespace BearerAuth.Password

open Digest

/-- Sixteen random bytes. -/
abbrev Salt := Vector UInt8 16

/-- The cost of the hashes that are stored. -/
def defaultCost : Argon2.Cost := { memory := 19456, passes := 2, lanes := 1 }

/-- The size in bytes of the hashes that are stored. -/
def defaultSize : Nat := 32

/-- The fields of the hash of a password under a salt. -/
def hashFields (salt : Salt) (plain : String) : Phc where
  algorithm := "argon2id".toList
  version := some Argon2.Version.combining.code
  params :=
    [(['m'], Nat.toDigits 10 defaultCost.memory), (['t'], Nat.toDigits 10 defaultCost.passes),
      (['p'], Nat.toDigits 10 defaultCost.lanes)]
  salt := some (Bytes.Base64.standard.encode salt.toList)
  hash := some <|
    Argon2.digest .id .combining defaultCost defaultSize
      { password := Text.utf8 plain, salt := salt.toList, data := [] }

/-- The hash of a password under a salt, as it is stored. -/
def hash (salt : Salt) (plain : String) : String :=
  (hashFields salt plain).write

/-- The variant that the name of an algorithm stands for. -/
def variant? (name : List Char) : Option Argon2.Variant :=
  if name = "argon2d".toList then some .d
  else if name = "argon2i".toList then some .i
  else if name = "argon2id".toList then some .id
  else none

/-- The version that a number stands for; without one it is the later version. -/
def version? : Option Nat → Option Argon2.Version
  | none => some .combining
  | some n => if n = 16 then some .overwriting else if n = 19 then some .combining else none

/-- The bytes that a value holds in Base64, at most `limit` of them. -/
def bytesUpTo? (limit : Nat) (value : List Char) : Option (List UInt8) :=
  match Bytes.Base64.standard.decode? value with
  | some bytes => if bytes.length ≤ limit then some bytes else none
  | none => none

/-- The cost and the data that the parameters give, starting from those given.
Of parameters with one name the last counts; there are no others than these. -/
def readParams? (cost : Argon2.Cost) (data : List UInt8) :
    List (List Char × List Char) → Option (Argon2.Cost × List UInt8)
  | [] => some (cost, data)
  | (name, value) :: rest =>
    if name = ['m'] then do
      let n ← (Phc.decimal value).toOption
      readParams? { cost with memory := n } data rest
    else if name = ['t'] then do
      let n ← (Phc.decimal value).toOption
      readParams? { cost with passes := n } data rest
    else if name = ['p'] then do
      let n ← (Phc.decimal value).toOption
      readParams? { cost with lanes := n } data rest
    else if name = "keyid".toList then do
      let _ ← bytesUpTo? 8 value
      readParams? cost data rest
    else if name = "data".toList then do
      let bytes ← bytesUpTo? 32 value
      readParams? cost bytes rest
    else none

/-- The hash that the password would have to have for the fields, if they can be
checked at all. -/
def expected? (p : Phc) (size : Nat) (plain : String) : Option (List UInt8) := do
  let (cost, data) ← readParams? defaultCost [] p.params
  let variant ← variant? p.algorithm
  let version ← version? p.version
  let salt ← bytesUpTo? 64 (← p.salt)
  if ¬cost.Valid ∨ salt.length < 8 then none
  else some (Argon2.digest variant version cost size { password := Text.utf8 plain, salt, data })

/-- Whether the password has the hash. -/
def verify (plain hash : String) : Except PhcError Bool := do
  let p ← Phc.read hash
  match p.hash with
  | none => .ok false
  | some bytes => .ok (expected? p bytes.length plain == some bytes)

end BearerAuth.Password
