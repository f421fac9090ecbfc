import BearerAuth.Json.Writer
import BearerAuth.Schema.Basic
import BearerAuth.Yaml.Value

/-!
# Written table descriptions

A table description is a YAML document with the version 1 and a table; the table
has a name and columns, and each column at least a type. Members that are not
known are skipped, and none of the known ones may repeat; of columns with one
name the last counts.

- `Description.read`: the description that a text holds.
- `Schema.read`, `Schema.load`: the schema of a text or of the bytes of a file.
-/

namespace BearerAuth

namespace Description

open Yaml

/-- The entries of a mapping. A node left out counts as an empty one. -/
def entries (document node : Node) : Decode (List (Node × Node)) := do
  match ← Decode.resolve document node with
  | .mapping _ _ entries => return entries
  | .scalar _ _ .plain "" => return []
  | _ => failure

/-- The text of a scalar, whatever its type. -/
def text (document node : Node) : Decode String := do
  match ← Decode.resolve document node with
  | .scalar _ _ _ s => return s
  | _ => failure

/-- Whether a scalar is read by its type: a plain one is, a literal block only
under the tag. -/
def isTyped (tagName : String) (tag : Option String) (style : Style) : Bool :=
  style == .plain || (style == .literal && tag == some (coreTag tagName))

/-- A flag. -/
def flag (document node : Node) : Decode Bool := do
  match ← Decode.resolve document node with
  | .scalar _ tag style s =>
    if isTyped "bool" tag style then StateT.lift (boolText? s) else failure
  | _ => failure

/-- A number of 32 bits without sign. -/
def word32 (document node : Node) : Decode Nat := do
  match ← Decode.resolve document node with
  | .scalar _ tag style s =>
    if isTyped "int" tag style && s.toList.head? != some '-' then
      match integer? s.toList with
      | some n => if n < 0x100000000 then return n.toNat else failure
      | none => failure
    else failure
  | _ => failure

/-- What may be left out: null, a plain scalar without text, or nothing at all. -/
def optional {α : Type} (document : Node) (read : Node → Decode α) (node : Node) :
    Decode (Option α) := do
  let resolved ← Decode.resolve document node
  match resolved with
  | .scalar _ tag .plain s =>
    match tag with
    | some t =>
      if t == coreTag "null" then if isNullText s then return none else failure
      else return some (← read resolved)
    | none => if s.isEmpty || isNullText s then return none else return some (← read resolved)
  | _ => return some (← read resolved)

/-- The text of a default: scalars are spelled in one way, collections are
written as JSON. -/
def defaultText? : Value → Option (Option String)
  | .null => some none
  | .text s => some (some s)
  | .bool b => some (some (if b then "true" else "false"))
  | .integer n => some (some (toString n))
  | .real r => some (some r.text)
  | v => v.toJson?.map fun j => some j.render

/-- The nesting that is left for a default, which lies inside four mappings. -/
def defaultDepth : Nat := Decode.depthLimit - 4

/-- The default of a column. -/
def defaultValue (document node : Node) : Decode (Option String) := do
  match ← optional document (Decode.value document defaultDepth) node with
  | none => return none
  | some v => StateT.lift (defaultText? v)

/-- The members of a mapping by name, none of the known ones repeated. -/
def members (document : Node) (known : List String) (node : Node) :
    Decode (List (String × Node)) := do
  let named ← (← entries document node).mapM fun (k, v) => do return (← text document k, v)
  if known.all fun name => (named.filter fun m => m.1 == name).length ≤ 1 then return named
  else failure

/-- The member `name`, which has to be there. -/
def required {α : Type} (named : List (String × Node)) (name : String)
    (read : Node → Decode α) : Decode α :=
  match named.lookup name with
  | some node => read node
  | none => failure

/-- The member `name`, or what counts without it. -/
def orElse {α : Type} (named : List (String × Node)) (name : String) (otherwise : α)
    (read : Node → Decode α) : Decode α :=
  match named.lookup name with
  | some node => read node
  | none => pure otherwise

/-- The description of a column. -/
def column (document node : Node) : Decode ColumnDescription := do
  let known :=
    ["type", "primary_key", "unique", "required", "default", "hidden", "jwt_claim"]
  let named ← members document known node
  let type ← required named "type" (text document)
  let primaryKey ← orElse named "primary_key" false (flag document)
  let unique ← orElse named "unique" false (flag document)
  let required ← orElse named "required" false (flag document)
  let default ← orElse named "default" none (defaultValue document)
  let hidden ← orElse named "hidden" false (flag document)
  let jwtClaim ← orElse named "jwt_claim" none (optional document (text document))
  return { type, primaryKey, unique, required, default, hidden, jwtClaim }

/-- The descriptions of the columns by name. -/
def columns (document node : Node) : Decode (NameMap ColumnDescription) := do
  let pairs ← (← entries document node).mapM fun (k, v) => do
    return (← text document k, ← column document v)
  return NameMap.ofList pairs

/-- The description of a table. -/
def table (document node : Node) : Decode TableDescription := do
  let named ← members document ["name", "auto_create", "columns"] node
  let name ← required named "name" (text document)
  let autoCreate ← orElse named "auto_create" false (flag document)
  let columns ← required named "columns" (columns document)
  return { name, autoCreate, columns }

/-- The version and the table of a document. -/
def versioned (document : Node) : Decode (Nat × TableDescription) := do
  let named ← members document ["version", "table"] document
  let version ← required named "version" (word32 document)
  let table ← required named "table" (table document)
  return (version, table)

/-- The description that a text holds. -/
def read (s : String) : Except SchemaError TableDescription :=
  match Node.read? s with
  | none => .error .malformed
  | some document =>
    match (versioned document).run (Decode.aliasLimit document) with
    | none => .error .malformed
    | some ((version, table), _) =>
      if version = 1 then .ok table else .error (.unsupportedVersion version)

end Description

namespace Schema

/-- The schema of a written table description. -/
def read (s : String) : Except SchemaError Schema := do
  Schema.ofDescription (← Description.read s)

/-- The schema of a file, given its bytes if there is one. -/
def load (file : Option (List UInt8)) : Except SchemaError Schema :=
  match file with
  | none => .error (.unreadable .missing)
  | some bytes =>
    match Text.ofUtf8? bytes with
    | none => .error (.unreadable .notText)
    | some s => Schema.read s

end Schema

end BearerAuth
