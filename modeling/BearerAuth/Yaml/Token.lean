/-!
# YAML tokens

The units that a YAML document falls into: marks of documents and collections,
entries, keys and values, and the parts of a node.
-/

namespace BearerAuth.Yaml

/-- How a scalar is written. -/
inductive Style where
  | plain
  | quoted
  | literal
  | folded
  deriving DecidableEq, Repr

/-- A tag as it is written: a handle, empty for a verbatim tag, and what follows
it. -/
structure TagText where
  handle : String
  suffix : String
  deriving DecidableEq, Repr

/-- A unit of a YAML document. -/
inductive Token where
  | streamStart
  | streamEnd
  | versionDirective (major minor : Nat)
  | tagDirective (handle start : String)
  | documentStart
  | documentEnd
  | blockSequenceStart
  | blockMappingStart
  | blockEnd
  | flowSequenceStart
  | flowSequenceEnd
  | flowMappingStart
  | flowMappingEnd
  | blockEntry
  | flowEntry
  | key
  | value
  | alias (name : String)
  | anchor (name : String)
  | tag (text : TagText)
  | scalar (text : String) (style : Style)
  deriving DecidableEq, Repr, Inhabited

end BearerAuth.Yaml
