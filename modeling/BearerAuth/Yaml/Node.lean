import BearerAuth.Yaml.Stream

/-!
# The nodes of a YAML document

Tokens are put together to one tree of scalars, sequences and mappings. A file
holds exactly one document.

- `Node`: the tree. Anchored nodes carry a number, which aliases refer to.
- `Node.ofTokens?`: the tree of a token sequence.
- `Node.read?`: the tree of a text.
- `Node.anchored?`: the node that an alias stands for.

A number is given to each anchor: how many different names have been anchored
before it. A name that is anchored again therefore gets a number that a later
anchor may get too, and then an alias stands for the later node.
-/

namespace BearerAuth.Yaml

/-- The tree of a document. -/
inductive Node where
  | scalar (anchor : Option Nat) (tag : Option String) (style : Style) (text : String)
  | sequence (anchor : Option Nat) (tag : Option String) (items : List Node)
  | mapping (anchor : Option Nat) (tag : Option String) (entries : List (Node × Node))
  | alias (number : Nat)
  deriving Repr, Inhabited

namespace Node

/-- The empty plain scalar, which stands where a node is left out. -/
def missing : Node := .scalar none none .plain ""

mutual

/-- How many parts the tree has, each collection counting twice. -/
def size : Node → Nat
  | .scalar .. => 1
  | .sequence _ _ items => 2 + sizeItems items
  | .mapping _ _ entries => 2 + sizeEntries entries
  | .alias _ => 1

/-- The parts of the items of a sequence. -/
def sizeItems : List Node → Nat
  | [] => 0
  | item :: rest => item.size + sizeItems rest

/-- The parts of the entries of a mapping. -/
def sizeEntries : List (Node × Node) → Nat
  | [] => 0
  | (key, value) :: rest => key.size + value.size + sizeEntries rest

end

mutual

/-- The last node anchored with the number, in the order of the document. -/
def anchored? (number : Nat) : Node → Option Node
  | .scalar anchor tag style text =>
    if anchor = some number then some (.scalar anchor tag style text) else none
  | .sequence anchor tag items =>
    (anchoredItem? number items).or <|
      if anchor = some number then some (.sequence anchor tag items) else none
  | .mapping anchor tag entries =>
    (anchoredPair? number entries).or <|
      if anchor = some number then some (.mapping anchor tag entries) else none
  | .alias _ => none

/-- The last such node in the items of a sequence. -/
def anchoredItem? (number : Nat) : List Node → Option Node
  | [] => none
  | item :: rest => (anchoredItem? number rest).or (item.anchored? number)

/-- The last such node in the entries of a mapping. -/
def anchoredPair? (number : Nat) : List (Node × Node) → Option Node
  | [] => none
  | (key, value) :: rest =>
    (anchoredPair? number rest).or ((value.anchored? number).or (key.anchored? number))

end

end Node

/-! ## Tokens to nodes -/

/-- What is left of the tokens and the anchors so far, by name. -/
structure Composer where
  tokens : List Token
  anchors : List (String × Nat)

namespace Composer

/-- The next token; at the end there is only the end of the stream. -/
def next (c : Composer) : Token := c.tokens.headD .streamEnd

/-- Past the next token. -/
def skip (c : Composer) : Composer := { c with tokens := c.tokens.drop 1 }

/-- Gives the next number to an anchor. -/
def number (c : Composer) : Option String → Option Nat × Composer
  | none => (none, c)
  | some name =>
    let n := c.anchors.length
    let anchors :=
      if c.anchors.any (·.1 == name) then
        c.anchors.map fun a => if a.1 == name then (name, n) else a
      else c.anchors ++ [(name, n)]
    (some n, { c with anchors })

/-- The anchor and the tag in front of a node, in either order. -/
def properties (c : Composer) : Option String × Option TagText × Composer :=
  match c.tokens with
  | .anchor name :: .tag t :: rest => (some name, some t, { c with tokens := rest })
  | .tag t :: .anchor name :: rest => (some name, some t, { c with tokens := rest })
  | .anchor name :: rest => (some name, none, { c with tokens := rest })
  | .tag t :: rest => (none, some t, { c with tokens := rest })
  | _ => (none, none, c)

/-- The whole tag: handles stand for what the directives say. -/
def resolveTag? (handles : List (String × String)) : Option TagText → Option (Option String)
  | none => some none
  | some t =>
    if t.handle.isEmpty then some (some t.suffix)
    else (handles.lookup t.handle).map fun start => some (start ++ t.suffix)

/-- Whether an entry ends before its node because one of these comes next. -/
def entryEnds (t : Token) (indentless : Bool) : Bool :=
  match t with
  | .blockEntry | .blockEnd => true
  | .key | .value => indentless
  | _ => false

/-- Whether a key or a value of a block mapping is left out. -/
def pairEnds : Token → Bool
  | .key | .value | .blockEnd => true
  | _ => false

/-- Whether a key of a flow mapping is left out. -/
def flowKeyEnds (close : Token) (t : Token) : Bool :=
  t == .value || t == .flowEntry || t == close

/-- Whether a value of a flow mapping is left out. -/
def flowValueEnds (close : Token) (t : Token) : Bool :=
  t == .flowEntry || t == close

mutual

/-- The node at the start of the tokens. Block collections are only allowed
where `block` holds, and a block sequence without indentation of its own only
where `indentless` does. -/
def node? (handles : List (String × String)) (block indentless : Bool) :
    (fuel : Nat) → Composer → Option (Node × Composer)
  | 0, _ => none
  | fuel + 1, c =>
    match c.next with
    | .alias name => (c.anchors.lookup name).map fun n => (.alias n, c.skip)
    | _ => do
      let (anchor, tagText, c) := c.properties
      let tag ← resolveTag? handles tagText
      let bare := anchor.isNone && tagText.isNone
      match c.next with
      | .blockEntry =>
        let (number, c) := c.number anchor
        if indentless then
          let (items, c) ← blockItems? handles true fuel c
          some (.sequence number tag items, c)
        else if bare then none
        else some (.scalar number tag .plain "", c)
      | .scalar text style =>
        let (number, c) := c.number anchor
        let tag := if tag == some "!" then none else tag
        some (.scalar number tag style text, c.skip)
      | .flowSequenceStart =>
        let (number, c) := c.number anchor
        let (items, c) ← flowItems? handles true fuel c.skip
        some (.sequence number tag items, c)
      | .flowMappingStart =>
        let (number, c) := c.number anchor
        let (entries, c) ← flowEntries? handles true fuel c.skip
        some (.mapping number tag entries, c)
      | t =>
        let (number, c) := c.number anchor
        if block && t == .blockSequenceStart then
          let (items, c) ← blockItems? handles false fuel c.skip
          some (.sequence number tag items, c)
        else if block && t == .blockMappingStart then
          let (entries, c) ← blockEntries? handles fuel c.skip
          some (.mapping number tag entries, c)
        else if bare then none
        else some (.scalar number tag .plain "", c)

/-- The items of a block sequence. One without indentation of its own ends where
no item follows, any other with the end of its block. -/
def blockItems? (handles : List (String × String)) (indentless : Bool) :
    (fuel : Nat) → Composer → Option (List Node × Composer)
  | 0, _ => none
  | fuel + 1, c =>
    match c.next with
    | .blockEntry => do
      let c := c.skip
      let (item, c) ←
        if entryEnds c.next indentless then some (Node.missing, c)
        else node? handles true false fuel c
      let (items, c) ← blockItems? handles indentless fuel c
      some (item :: items, c)
    | .blockEnd => if indentless then some ([], c) else some ([], c.skip)
    | _ => if indentless then some ([], c) else none

/-- The entries of a block mapping up to the end of its block. -/
def blockEntries? (handles : List (String × String)) :
    (fuel : Nat) → Composer → Option (List (Node × Node) × Composer)
  | 0, _ => none
  | fuel + 1, c => do
    let (key, c) ←
      match c.next with
      | .key =>
        let c := c.skip
        if pairEnds c.next then some (some Node.missing, c)
        else (node? handles true true fuel c).map fun (n, c) => (some n, c)
      | .value => none
      | .blockEnd => some (none, c.skip)
      | _ => none
    match key with
    | none => some ([], c)
    | some key =>
      let (value, c) ←
        match c.next with
        | .value =>
          let c := c.skip
          if pairEnds c.next then some (Node.missing, c)
          else node? handles true true fuel c
        | _ => some (Node.missing, c)
      let (entries, c) ← blockEntries? handles fuel c
      some ((key, value) :: entries, c)

/-- The items of a flow sequence up to its closing bracket. A pair counts as a
mapping. -/
def flowItems? (handles : List (String × String)) (first : Bool) :
    (fuel : Nat) → Composer → Option (List Node × Composer)
  | 0, _ => none
  | fuel + 1, c =>
    if c.next == .flowSequenceEnd then some ([], c.skip)
    else do
      let c ← if first then some c else if c.next == .flowEntry then some c.skip else none
      match c.next with
      | .flowSequenceEnd => some ([], c.skip)
      | .key =>
        let c := c.skip
        let (key, c) ←
          if flowKeyEnds .flowSequenceEnd c.next then some (Node.missing, c.skip)
          else node? handles false false fuel c
        let (value, c) ← flowValue? handles .flowSequenceEnd fuel c
        let (items, c) ← flowItems? handles false fuel c
        some (.mapping none none [(key, value)] :: items, c)
      | _ =>
        let (item, c) ← node? handles false false fuel c
        let (items, c) ← flowItems? handles false fuel c
        some (item :: items, c)

/-- The value after a key in a flow collection, if there is one. -/
def flowValue? (handles : List (String × String)) (close : Token) :
    (fuel : Nat) → Composer → Option (Node × Composer)
  | 0, _ => none
  | fuel + 1, c =>
    if c.next == .value then
      let c := c.skip
      if flowValueEnds close c.next then some (Node.missing, c)
      else node? handles false false fuel c
    else some (Node.missing, c)

/-- The entries of a flow mapping up to its closing brace. A node alone is a key
without a value. -/
def flowEntries? (handles : List (String × String)) (first : Bool) :
    (fuel : Nat) → Composer → Option (List (Node × Node) × Composer)
  | 0, _ => none
  | fuel + 1, c =>
    if c.next == .flowMappingEnd then some ([], c.skip)
    else do
      let c ← if first then some c else if c.next == .flowEntry then some c.skip else none
      match c.next with
      | .flowMappingEnd => some ([], c.skip)
      | .key =>
        let c := c.skip
        let (key, c) ←
          if flowKeyEnds .flowMappingEnd c.next then some (Node.missing, c)
          else node? handles false false fuel c
        let (value, c) ← flowValue? handles .flowMappingEnd fuel c
        let (entries, c) ← flowEntries? handles false fuel c
        some ((key, value) :: entries, c)
      | _ =>
        let (key, c) ← node? handles false false fuel c
        let (entries, c) ← flowEntries? handles false fuel c
        some ((key, Node.missing) :: entries, c)

end

/-- The directives in front of a document: the handles they declare. There may
be one version, which has to be 1.1 or 1.2, and one declaration for each handle. -/
def directives? : List Token → (versioned : Bool) → (handles : List (String × String)) →
    Option (List (String × String) × List Token)
  | .versionDirective major minor :: rest, versioned, handles =>
    if versioned || major != 1 || (minor != 1 && minor != 2) then none
    else directives? rest true handles
  | .tagDirective handle start :: rest, versioned, handles =>
    if handles.any (·.1 == handle) then none
    else directives? rest versioned (handles ++ [(handle, start)])
  | tokens, _, handles => some (handles, tokens)

/-- The handles that need no declaration. -/
def commonHandles : List (String × String) :=
  [("!", "!"), ("!!", "tag:yaml.org,2002:")]

/-- Whether an explicit document has no content. -/
def contentEnds : Token → Bool
  | .versionDirective .. | .tagDirective .. | .documentStart | .documentEnd | .streamEnd => true
  | _ => false

/-- The document at the start of the tokens and what follows it. -/
def document? (tokens : List Token) : Option (Node × List Token) := do
  let fuel := 4 * tokens.length + 4
  let (handles, rest) ← directives? tokens false []
  let handles := handles ++ commonHandles
  let start : Composer := ⟨rest, []⟩
  let (node, c) ←
    match start.next with
    | .documentStart =>
      let c := start.skip
      if contentEnds c.next then some (Node.missing, c) else node? handles true false fuel c
    | .streamEnd => none
    | _ =>
      if rest.length < tokens.length then none
      else node? handles true false fuel start
  some (node, c.tokens)

end Composer

/-- The tree of the one document that the tokens hold. -/
def Node.ofTokens? (tokens : List Token) : Option Node := do
  let (node, rest) ← Composer.document? (tokens.drop 1)
  let rest := rest.dropWhile (· == .documentEnd)
  if rest == [.streamEnd] then some node else none

/-- The tree of the one document that a text holds. -/
def Node.read? (text : String) : Option Node :=
  (Token.scan? text.toList).bind Node.ofTokens?

end BearerAuth.Yaml
