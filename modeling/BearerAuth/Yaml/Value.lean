import BearerAuth.Decimal.Shortest
import BearerAuth.Json.Reader
import BearerAuth.Yaml.Node

/-!
# The values of YAML nodes

A plain scalar is null, a boolean, an integer, a floating-point number or a
text, as the core schema of YAML 1.2 says; all other scalars are texts. Tags of
the core schema force a type, local tags stay with the value.

- `Value`: the value of a node.
- `plainValue?`: the value of a plain scalar.
- `Decode`: reading nodes, where aliases are followed only so many times.
- `Decode.value`: the value of a node.
- `Value.toJson?`: the value as JSON.
-/

namespace BearerAuth.Yaml

open Decimal

/-- A floating-point number, or what is written for infinity and for no number. -/
inductive Real where
  | finite (value : Double)
  | infinity (negative : Bool)
  | notANumber
  deriving DecidableEq, Repr

/-- The value of a node. -/
inductive Value where
  | null
  | bool (value : Bool)
  | integer (value : Int)
  | real (value : Real)
  | text (value : String)
  | sequence (items : List Value)
  | mapping (entries : List (Value × Value))
  | tagged (tag : String) (value : Value)
  deriving Repr, Inhabited

/-! ## Plain scalars -/

/-- Whether the text is written for null. -/
def isNullText (s : String) : Bool :=
  s == "~" || s == "null" || s == "Null" || s == "NULL"

/-- The boolean that is written so. -/
def boolText? (s : String) : Option Bool :=
  if s == "true" || s == "True" || s == "TRUE" then some true
  else if s == "false" || s == "False" || s == "FALSE" then some false
  else none

/-- The value of a digit in a base up to sixteen. -/
def digitIn? (base : Nat) (c : Char) : Option Nat :=
  match hexValue? c with
  | some v => if v < base then some v else none
  | none => none

/-- The number that digits spell in a base; there has to be one. -/
def natural? (base : Nat) (digits : List Char) : Option Nat :=
  if digits.isEmpty then none
  else digits.foldlM (fun acc c => (digitIn? base c).map (base * acc + ·)) 0

/-- The base that is announced at the start of a number, and the digits after
it. -/
def based? : List Char → Option (Nat × List Char)
  | '0' :: 'x' :: rest => some (16, rest)
  | '0' :: 'o' :: rest => some (8, rest)
  | '0' :: 'b' :: rest => some (2, rest)
  | _ => none

/-- Whether the text is more than one digit with a zero first, which is no
number. -/
def isZeroPadded (cs : List Char) : Bool :=
  let digits :=
    match cs with
    | '-' :: rest => rest
    | '+' :: rest => rest
    | _ => cs
  1 < digits.length && digits.head? == some '0' && digits.all Char.isDigit

/-- The integer that a plain scalar spells, in base sixteen, eight, two or ten. -/
def integer? (cs : List Char) : Option Int :=
  match cs with
  | '-' :: rest =>
    match based? rest with
    | some (base, digits) => (natural? base digits).map fun n => -(n : Int)
    | none => if isZeroPadded cs then none else (natural? 10 rest).map fun n => -(n : Int)
  | _ =>
    let rest :=
      match cs with
      | '+' :: rest => rest
      | _ => cs
    match based? rest with
    | some (base, digits) => (natural? base digits).map Int.ofNat
    | none => if isZeroPadded cs then none else (natural? 10 rest).map Int.ofNat

/-- The decimal that the characters spell, without a sign: digits with an
optional point and an optional exponent. -/
def decimal? (negative : Bool) (cs : List Char) : Option Double := do
  let whole := cs.takeWhile Char.isDigit
  let rest := cs.drop whole.length
  let (places, rest) :=
    match rest with
    | '.' :: rest =>
      let places := rest.takeWhile Char.isDigit
      (places, rest.drop places.length)
    | _ => ([], rest)
  if whole.isEmpty && places.isEmpty then none
  else
    let digits ← natural? 10 (whole ++ places)
    let exponent : Int ←
      match rest with
      | [] => some 0
      | e :: rest =>
        if e == 'e' || e == 'E' then
          match rest with
          | '-' :: rest => (natural? 10 rest).map fun n => -(n : Int)
          | '+' :: rest => (natural? 10 rest).map Int.ofNat
          | _ => (natural? 10 rest).map Int.ofNat
        else none
    Double.ofDecimal? negative digits (exponent - places.length)

/-- The floating-point number that a plain scalar spells. -/
def real? (s : String) : Option Real :=
  let infinite : List String := [".inf", ".Inf", ".INF"]
  if infinite.any fun w => s == w || s == "+" ++ w then some (.infinity false)
  else if infinite.any fun w => s == "-" ++ w then some (.infinity true)
  else if s == ".nan" || s == ".NaN" || s == ".NAN" then some .notANumber
  else
    let unsigned :=
      match s.toList with
      | '-' :: rest => decimal? true rest
      | '+' :: rest => decimal? false rest
      | cs => decimal? false cs
    unsigned.map .finite

/-- Whether the integer fits 64 bits, with or without a sign. -/
def fits64 (n : Int) : Bool :=
  -9223372036854775808 ≤ n && n ≤ 18446744073709551615

/-- Whether the integer fits 128 bits, with or without a sign. -/
def fits128 (n : Int) : Bool :=
  -0x80000000000000000000000000000000 ≤ n && n < 0x100000000000000000000000000000000

/-- The value of an integer; none if it has more than 64 but at most 128 bits. -/
def integerValue? (s : String) : Option (Option Value) :=
  match integer? s.toList with
  | none => some none
  | some n =>
    if fits64 n then some (some (.integer n))
    else if fits128 n then none
    else some none

/-- The value of a plain scalar without a tag; none for an integer that is too
large. -/
def plainValue? (s : String) : Option Value :=
  if s.isEmpty || isNullText s then some .null
  else
    match boolText? s with
    | some b => some (.bool b)
    | none => do
      match ← integerValue? s with
      | some v => some v
      | none =>
        if isZeroPadded s.toList then some (.text s)
        else
          match real? s with
          | some r => some (.real r)
          | none => some (.text s)

/-! ## Nodes -/

/-- The tags of the core schema. -/
def coreTag (name : String) : String := "tag:yaml.org,2002:" ++ name

/-- The name of a local tag, without its mark. -/
def localTag? (tag : Option String) : Option String :=
  match tag.map String.toList with
  | some ('!' :: c :: rest) => some (String.ofList (c :: rest))
  | _ => none

/-- The value of a scalar. Its tag counts unless `tagged` holds, where it has
been taken already. -/
def scalarValue? (tagged : Bool) (tag : Option String) (style : Style) (s : String) :
    Option Value :=
  match if tagged then none else tag with
  | some t =>
    if t == coreTag "bool" then (boolText? s).map .bool
    else if t == coreTag "int" then (integerValue? s).join
    else if t == coreTag "float" then (real? s).map .real
    else if t == coreTag "null" then if isNullText s then some .null else none
    else if t.toList.head? == some '!' && style == .plain then plainValue? s
    else some (.text s)
  | none => if style == .plain then plainValue? s else some (.text s)

/-- Reading nodes of a document; the number says how often aliases may still be
followed. -/
abbrev Decode := StateT Nat Option

namespace Decode

/-- How often the aliases of a document may be followed in all. -/
def aliasLimit (document : Node) : Nat := 100 * document.size

/-- The nesting of collections up to which a document is read. -/
def depthLimit : Nat := 128

/-- The node itself, or the one that the alias stands for. -/
def resolve (document : Node) : Node → Decode Node
  | .alias number => do
    match ← get with
    | 0 => failure
    | left + 1 =>
      set left
      StateT.lift (document.anchored? number)
  | node => pure node

/-- Whether two keys of a mapping are the same scalar. -/
def sameKey : Value → Value → Bool
  | .null, .null => true
  | .bool a, .bool b => a == b
  | .integer a, .integer b => a == b
  | .text a, .text b => a == b
  | .real (.finite a), .real (.finite b) => a == b || (a.significand == 0 && b.significand == 0)
  | .real a, .real b => a == b
  | _, _ => false

/-- Whether a key of the entries is the same scalar as another. -/
def hasRepeatedKey : List (Value × Value) → Bool
  | [] => false
  | (key, _) :: rest => rest.any (fun e => sameKey key e.1) || hasRepeatedKey rest

/-- The value under its local tag, if it has one. -/
def underTag (tag : Option String) (v : Value) : Value :=
  match localTag? tag with
  | some name => .tagged name v
  | none => v

/-- The value of a node, in collections nested at most `depth` deep. -/
def value (document : Node) : (depth : Nat) → Node → Decode Value
  | depth, node => do
    match ← resolve document node with
    | .alias _ => failure
    | .scalar _ tag style text =>
      let v ← StateT.lift (scalarValue? (localTag? tag).isSome tag style text)
      return underTag tag v
    | .sequence _ tag items =>
      match depth with
      | 0 => failure
      | depth + 1 => return underTag tag (.sequence (← items.mapM (value document depth)))
    | .mapping _ tag entries =>
      match depth with
      | 0 => failure
      | depth + 1 =>
        let entries ← entries.mapM fun (k, v) => do
          return (← value document depth k, ← value document depth v)
        if hasRepeatedKey entries then failure else return underTag tag (.mapping entries)

end Decode

/-! ## Values as JSON -/

/-- The number as JSON; there is none for infinity and for no number. -/
def Real.toJson : Real → Json
  | .finite d =>
    match Json.number? (Text.utf8 d.text) with
    | some (n, _) => .number n
    | none => .null
  | _ => .null

/-- The written form of the number as a text. -/
def Real.text : Real → String
  | .finite d => d.text
  | .infinity negative => if negative then "-.inf" else ".inf"
  | .notANumber => ".nan"

/-- The key of a JSON member for a key of a mapping: texts, booleans and finite
numbers have one. -/
def Value.memberName? : Value → Option String
  | .text s => some s
  | .bool b => some (if b then "true" else "false")
  | .integer n => some (toString n)
  | .real (.finite d) => some d.text
  | _ => none

/-- The name of a local tag as it is written. -/
def tagText (name : String) : String :=
  match name.toList with
  | '!' :: c :: rest => String.ofList ('!' :: c :: rest)
  | cs => String.ofList ('!' :: cs)

mutual

/-- The value as JSON, if its mappings have keys that can name members. -/
def Value.toJson? : Value → Option Json
  | .null => some .null
  | .bool b => some (.bool b)
  | .integer n => some (.ofInt n)
  | .real r => some r.toJson
  | .text s => some (.ofText s)
  | .sequence items => (itemsToJson? items).map .array
  | .mapping entries => (entriesToJson? entries).map Json.object
  | .tagged tag v => v.toJson?.map fun j => .ofMembers [(tagText tag, j)]

/-- The items as JSON. -/
def itemsToJson? : List Value → Option (List Json)
  | [] => some []
  | v :: rest => do
    let j ← v.toJson?
    let rest ← itemsToJson? rest
    some (j :: rest)

/-- The entries as JSON members. -/
def entriesToJson? : List (Value × Value) → Option (List (List UInt8 × Json))
  | [] => some []
  | (k, v) :: rest => do
    let name ← k.memberName?
    let j ← v.toJson?
    let rest ← entriesToJson? rest
    some ((Text.utf8 name, j) :: rest)

end

end BearerAuth.Yaml
