import BearerAuth.Proofs.Schema.Valid
import BearerAuth.Proofs.Sql.Lists

/-!
# The table that a statement defines

The statement that creates the user table, read the way a server reads it:
between the parentheses there is a part for every column, with its constraints
in any order, and there may be a part that names the key.

- `Sql.TableDefinition`, `Sql.tableDefinition?`: what a statement defines.
- `Schema.tableDefinition`: what the statement of a schema is meant to define.
- `Schema.tableDefinition?_createTable`: that is what it defines, whatever the
  defaults of its columns hold.
- `Schema.statements?_createTable`: it is one statement, whatever stands behind it.
-/

namespace BearerAuth

namespace Sql

/-- A column as a statement defines it. -/
structure ColumnDefinition where
  name : String
  type : String
  notNull : Bool := false
  unique : Bool := false
  default : Option String := none
  deriving DecidableEq, Repr

/-- A table as a statement defines it, with its key if it has one. -/
structure TableDefinition where
  name : String
  columns : List ColumnDefinition
  key : Option String
  deriving DecidableEq, Repr

/-- The column with the constraints that follow its type. -/
def ColumnDefinition.constrained? (d : ColumnDefinition) : List Token → Option ColumnDefinition
  | [] => some d
  | .word "NOT" :: .word "NULL" :: rest => { d with notNull := true }.constrained? rest
  | .word "UNIQUE" :: rest => { d with unique := true }.constrained? rest
  | .word "DEFAULT" :: .literal value :: rest => { d with default := some value }.constrained? rest
  | _ => none

/-- The column that a part defines. -/
def columnDefinition? : List Token → Option ColumnDefinition
  | .name name :: .word type :: rest => ColumnDefinition.constrained? { name, type } rest
  | _ => none

/-- The column that a part names as the key. -/
def keyDefinition? : List Token → Option String
  | [.word "PRIMARY", .word "KEY", .mark '(', .name key, .mark ')'] => some key
  | _ => none

/-- The columns that the parts define, in order, and the key, of which there is
at most one. -/
def partsDefinition? : List (List Token) → Option (List ColumnDefinition × Option String)
  | [] => some ([], none)
  | part :: rest =>
    match partsDefinition? rest with
    | none => none
    | some (columns, key) =>
      match columnDefinition? part, keyDefinition? part, key with
      | some column, _, _ => some (column :: columns, key)
      | none, some name, none => some (columns, some name)
      | _, _, _ => none

/-- The table that the tokens of a statement define. -/
def tokensDefinition? : List Token → Option TableDefinition
  | .word "CREATE" :: .word "TABLE" :: .word "IF" :: .word "NOT" :: .word "EXISTS" ::
      .name name :: .mark '(' :: body =>
    if body.getLast? = some (.mark ')') then
      (partsDefinition? (body.dropLast.splitOn (.mark ','))).map fun (columns, key) =>
        { name, columns, key }
    else none
  | _ => none

/-- A definition begins with its words and the name, and its body is all up to the last
closing bracket. -/
theorem tokensDefinition?_create (name : String) (body : List Token) :
    tokensDefinition? (.word "CREATE" :: .word "TABLE" :: .word "IF" :: .word "NOT" ::
        .word "EXISTS" :: .name name :: .mark '(' :: body) =
      if body.getLast? = some (.mark ')') then
        (partsDefinition? (body.dropLast.splitOn (.mark ','))).map fun (columns, key) =>
          { name, columns, key }
      else none := rfl

/-- The table that a text defines, if it is a single statement. -/
def tableDefinition? (statement : String) : Option TableDefinition :=
  match statements? statement with
  | some [ts] => tokensDefinition? ts
  | _ => none

end Sql

open Sql

/-! ## The part of a column -/

/-- What the part of a column is meant to define. -/
def Column.columnDefinition (c : Column) : ColumnDefinition where
  name := c.name
  type := c.type.sqlType
  notNull := c.required
  unique := c.unique
  default := c.default

/-- The tokens of the part of a column. -/
def Column.tokens (c : Column) : List Token :=
  [.name c.name, .word c.type.sqlType] ++
    (if c.required then [.word "NOT", .word "NULL"] else []) ++
    (if c.unique then [.word "UNIQUE"] else []) ++
    (match c.default with
      | some value => [.word "DEFAULT", .literal value]
      | none => [])

/-- The text of the part of a column makes up the tokens of the part. -/
theorem Column.reads_definition {c : Column} (h : isPlainName c.name = true) :
    Reads c.definition.toList c.tokens := by
  have hname := reads_plainName h
  have hnotNull : Reads "NOT NULL".toList [.word "NOT", .word "NULL"] :=
    reads_words ["NOT", "NULL"] (by decide) (by decide) (by decide)
  have hunique : Reads "UNIQUE".toList [.word "UNIQUE"] := reads_word (by decide)
  have hdefault : Reads "DEFAULT".toList [.word "DEFAULT"] := reads_word (by decide)
  have htext : c.definition.toList =
      (identifier c.name).toList ++ ' ' :: c.type.sqlType.toList ++
        (if c.required then " NOT NULL" else "").toList ++
        (if c.unique then " UNIQUE" else "").toList ++
        (match c.default with
          | some value => " DEFAULT " ++ literal value
          | none => "").toList := by
    simp only [definition, String.toList_append, List.append_assoc]
    rfl
  rw [htext]
  refine (((hname.append_space (reads_sqlType c.type)).append_optional ?_).append_optional
    ?_).append_optional ?_
  · cases c.required with
    | false => exact .inl ⟨rfl, rfl⟩
    | true => exact .inr ⟨_, rfl, hnotNull⟩
  · cases c.unique with
    | false => exact .inl ⟨rfl, rfl⟩
    | true => exact .inr ⟨_, rfl, hunique⟩
  · cases c.default with
    | none => exact .inl ⟨rfl, rfl⟩
    | some value =>
      refine .inr ⟨_, ?_, hdefault.append_space (reads_literal value)⟩
      rw [String.toList_append]
      rfl

/-- The tokens for a column define it. -/
theorem Column.columnDefinition?_tokens (c : Column) :
    columnDefinition? c.tokens = some c.columnDefinition := by
  obtain ⟨name, type, primaryKey, unique, required, hidden, default, jwtClaim⟩ := c
  cases required <;> cases unique <;> cases default <;> rfl

theorem Column.mark_notMem_tokens (c : Column) (m : Char) : .mark m ∉ c.tokens := by
  obtain ⟨name, type, primaryKey, unique, required, hidden, default, jwtClaim⟩ := c
  cases required <;> cases unique <;> cases default <;> simp [Column.tokens]

/-! ## The statement -/

namespace Schema

variable {s : Schema}

/-- What the statement of a schema is meant to define. -/
def tableDefinition (s : Schema) : TableDefinition where
  name := s.table
  columns := s.columns.map Column.columnDefinition
  key := (s.columns.find? (·.primaryKey)).map (·.name)

/-- The key is the column that is flagged as such. -/
theorem key_tableDefinition_iff {table : TableDescription} (hs : ofDescription table = .ok s)
    {c : Column} (hc : c ∈ s.columns) :
    s.tableDefinition.key = some c.name ↔ c.primaryKey = true := by
  show (s.columns.find? (·.primaryKey)).map (·.name) = some c.name ↔ _
  constructor
  · intro h
    obtain ⟨key, hfind, hname⟩ := Option.map_eq_some_iff.1 h
    have heq := (valid_of_ofDescription hs).eq_of_name_eq (List.mem_of_find?_eq_some hfind) hc hname
    exact heq ▸ List.find?_some hfind
  · intro h
    -- no other column is flagged, so that this is the one that is found
    have hkey := (of_ofDescription hs).2.1
    obtain rfl := eq_of_keyColumn hkey hc h
    rw [← List.head?_filter, filter_primaryKey_of_keyColumn hkey, if_pos h]
    rfl

/-- The part that names the column as the key. -/
def keyPart (c : Column) : String × List Token :=
  ("PRIMARY KEY (" ++ identifier c.name ++ ")",
    [.word "PRIMARY", .word "KEY", .mark '(', .name c.name, .mark ')'])

/-- The parts of the statement with their tokens. -/
def parts (s : Schema) : List (String × List Token) :=
  s.columns.map (fun c => (c.definition, c.tokens)) ++
    ((s.columns.find? (·.primaryKey)).map keyPart).toList

theorem reads_keyPart {c : Column} (h : isPlainName c.name = true) :
    Reads (keyPart c).1.toList (keyPart c).2 := by
  have hname := (reads_plainName h).closed .nil
  have hkey : Reads "PRIMARY KEY".toList [.word "PRIMARY", .word "KEY"] :=
    reads_words ["PRIMARY", "KEY"] (by decide) (by decide) (by decide)
  have htext : (keyPart c).1.toList =
      "PRIMARY KEY".toList ++ ' ' :: '(' :: ((identifier c.name).toList ++ [')']) := by
    rw [keyPart, String.toList_append, String.toList_append, List.append_assoc]
    rfl
  rw [htext]
  exact hkey.append_space hname.opened

/-- The statement lists the parts: at most one column is flagged as the key. -/
theorem definitions_append_keyClause (h : keyColumn s.columns = .ok s.username) :
    s.definitions ++ s.keyClause.toList = s.parts.map (·.1) := by
  have hkeys := filter_primaryKey_of_keyColumn h
  have hfind : s.columns.find? (·.primaryKey) =
      (if s.username.primaryKey then [s.username] else []).head? := by
    rw [← List.head?_filter, hkeys]
  have hcolumns : (s.columns.map fun c => (c.definition, c.tokens)).map (·.1) = s.definitions := by
    rw [List.map_map]
    rfl
  rw [parts, List.map_append, hcolumns, hfind, keyClause, hkeys]
  cases s.username.primaryKey with
  | false => rfl
  | true => rfl

/-- Parts for columns, in front of others, define the columns in order. -/
theorem partsDefinition?_columns (columns : List Column) {rest : List (List Token)}
    {more : List ColumnDefinition} {key : Option String}
    (h : partsDefinition? rest = some (more, key)) :
    partsDefinition? (columns.map Column.tokens ++ rest) =
      some (columns.map Column.columnDefinition ++ more, key) := by
  induction columns with
  | nil => exact h
  | cons c columns ih =>
    rw [List.map_cons, List.cons_append, partsDefinition?, ih]
    dsimp only
    rw [Column.columnDefinition?_tokens]
    rfl

/-- The parts of a schema define its columns and its key. -/
theorem partsDefinition?_parts (s : Schema) :
    partsDefinition? (s.parts.map (·.2)) =
      some (s.tableDefinition.columns, s.tableDefinition.key) := by
  have hcolumns : (s.columns.map fun c => (c.definition, c.tokens)).map (·.2) =
      s.columns.map Column.tokens := by
    rw [List.map_map]
    rfl
  rw [parts, List.map_append, hcolumns, tableDefinition]
  cases s.columns.find? (·.primaryKey) with
  | none =>
    have hnone : partsDefinition? [] = some ([], none) := rfl
    simpa using partsDefinition?_columns s.columns hnone
  | some c =>
    have hkey : partsDefinition? [(keyPart c).2] = some ([], some c.name) := rfl
    simpa using partsDefinition?_columns s.columns hkey

theorem reads_parts (hplain : ∀ c ∈ s.columns, isPlainName c.name = true) :
    ∀ p ∈ s.parts, Reads p.1.toList p.2 := by
  intro p hp
  rcases List.mem_append.1 hp with hp | hp
  · obtain ⟨c, hc, rfl⟩ := List.mem_map.1 hp
    exact Column.reads_definition (hplain c hc)
  · obtain ⟨c, hc, rfl⟩ := Option.map_eq_some_iff.1 (Option.mem_toList.1 hp)
    exact reads_keyPart (hplain c (List.mem_of_find?_eq_some hc))

/-- The only marks in a part are the parentheses around the key. -/
theorem mark_notMem_parts {m : Char} (hopen : m ≠ '(') (hclose : m ≠ ')') :
    ∀ p ∈ s.parts, Token.mark m ∉ p.2 := by
  intro p hp
  rcases List.mem_append.1 hp with hp | hp
  · obtain ⟨c, -, rfl⟩ := List.mem_map.1 hp
    exact c.mark_notMem_tokens m
  · obtain ⟨c, -, rfl⟩ := Option.map_eq_some_iff.1 (Option.mem_toList.1 hp)
    simp [keyPart, hopen, hclose]

/-- A table of a checked schema has at least the column of the name. -/
theorem parts_ne_nil (hs : s.Valid) : s.parts ≠ [] := by
  intro hnil
  have hcolumns := (List.append_eq_nil_iff.1 hnil).1
  exact List.ne_nil_of_mem hs.username_mem (List.map_eq_nil_iff.1 hcolumns)

/-- The definition is its words, the quoted name of the table and the parts in brackets. -/
theorem toList_createTable (h : keyColumn s.columns = .ok s.username) :
    s.createTable.toList =
      "CREATE TABLE IF NOT EXISTS ".toList ++ ((identifier s.table).toList ++
        (" (".toList ++ ((commaList (s.parts.map (·.1))).toList ++ ")".toList))) := by
  have htext : s.createTable =
      "CREATE TABLE IF NOT EXISTS " ++ identifier s.table ++ " (" ++
        commaList (s.parts.map (·.1)) ++ ")" :=
    congrArg (fun listed => "CREATE TABLE IF NOT EXISTS " ++ identifier s.table ++ " (" ++
      commaList listed ++ ")") (definitions_append_keyClause h)
  rw [htext, String.toList_append, String.toList_append, String.toList_append,
    String.toList_append, List.append_assoc, List.append_assoc, List.append_assoc]

/-- The tokens of the statement. -/
def createTableTokens (s : Schema) : List Token :=
  .word "CREATE" :: .word "TABLE" :: .word "IF" :: .word "NOT" :: .word "EXISTS" ::
    .name s.table :: .mark '(' :: (listTokens s.parts ++ [.mark ')'])

theorem semicolon_notMem_createTableTokens (s : Schema) :
    Token.mark ';' ∉ s.createTableTokens := by
  have hparts : Token.mark ';' ∉ listTokens s.parts :=
    notMem_listTokens (by decide) (mark_notMem_parts (by decide) (by decide))
  simp [createTableTokens, hparts]

section

variable {table : TableDescription} (hs : ofDescription table = .ok s)
include hs

/-- The text of the definition reads as its tokens. -/
theorem reads_createTable : Reads s.createTable.toList s.createTableTokens := by
  obtain ⟨htable, hcolumns⟩ := isPlainName_of_ofDescription hs
  have hcreate : Reads "CREATE TABLE IF NOT EXISTS".toList
      [.word "CREATE", .word "TABLE", .word "IF", .word "NOT", .word "EXISTS"] :=
    reads_words ["CREATE", "TABLE", "IF", "NOT", "EXISTS"] (by decide) (by decide) (by decide)
  have hname := reads_plainName htable
  have hparts := reads_commaList (parts_ne_nil (valid_of_ofDescription hs)) (reads_parts hcolumns)
  have hstatement := hcreate.append_space (hname.append_space (hparts.closed .nil).opened)
  have hstart : "CREATE TABLE IF NOT EXISTS ".toList =
      "CREATE TABLE IF NOT EXISTS".toList ++ [' '] := by decide
  rw [toList_createTable (of_ofDescription hs).2.1, hstart]
  simp only [List.append_assoc, List.cons_append, List.nil_append]
  exact hstatement

theorem tokensDefinition?_createTableTokens :
    tokensDefinition? s.createTableTokens = some s.tableDefinition := by
  have hsplit := splitOn_listTokens (parts_ne_nil (valid_of_ofDescription hs))
    (mark_notMem_parts (by decide) (by decide))
  rw [createTableTokens, tokensDefinition?_create, if_pos List.getLast?_concat,
    List.dropLast_concat, hsplit, partsDefinition?_parts]
  rfl

/-- The statement that creates the table of a checked schema defines the table
that the schema describes. -/
theorem tableDefinition?_createTable : tableDefinition? s.createTable = some s.tableDefinition := by
  rw [tableDefinition?, (reads_createTable hs).statements?_eq (List.cons_ne_nil _ _)
    (semicolon_notMem_createTableTokens s)]
  exact tokensDefinition?_createTableTokens hs

end

/-- The statement that creates the table of a checked schema is one statement,
and what follows it after a semicolon is no part of it, whatever the defaults of
the columns hold. It defines the table that the schema describes: a column for
each one of the schema, in order, with its name, its type, its constraints and
its default, and with the flagged column as the key. -/
theorem statements?_createTable {table : TableDescription}
    (hs : ofDescription table = .ok s) :
    ∃ ts, statements? s.createTable = some [ts] ∧
      (∀ rest, statements? (s.createTable ++ ";" ++ rest) = (statements? rest).map (ts :: ·)) ∧
      tokensDefinition? ts = some s.tableDefinition ∧
      ∀ name, s.tableDefinition.key = some name ↔
        ∃ c ∈ s.columns, c.primaryKey = true ∧ c.name = name := by
  have hreads := reads_createTable hs
  have hne : s.createTableTokens ≠ [] := List.cons_ne_nil _ _
  have hmark := semicolon_notMem_createTableTokens s
  refine ⟨s.createTableTokens, hreads.statements?_eq hne hmark,
    hreads.statements?_append hne hmark, tokensDefinition?_createTableTokens hs,
    fun name => ⟨fun hkey => ?_, ?_⟩⟩
  · obtain ⟨c, hfind, hname⟩ := Option.map_eq_some_iff.1 hkey
    exact ⟨c, List.mem_of_find?_eq_some hfind, List.find?_some hfind, hname⟩
  · rintro ⟨c, hc, hkey, rfl⟩
    exact (key_tableDefinition_iff hs hc).2 hkey

/-- A default that ends every kind of quote, list, line and comment. -/
def looseNote : String :=
  "it's \"loose\", (a\\b');\n-- note */ DROP TABLE notes; /*"

/-- A table of notes, where whoever leaves no note leaves the loose one. -/
def notesTable : TableDescription where
  name := "notes"
  columns :=
    { entries :=
        [("note", { type := "text", unique := true, default := some looseNote }),
          ("owner", { type := "uuid", primaryKey := true, required := true })]
      sorted := by decide }

/-- The schema of the notes. -/
def notes : Schema where
  table := "notes"
  autoCreate := false
  columns :=
    [{ Column.plain "note" .text with unique := true, default := some looseNote },
      .key "owner" .uuid]
  username := .key "owner" .uuid

/-- The loose note stays a default. -/
theorem statements?_createTable_notes :
    ofDescription notesTable = .ok notes ∧
      ∃ ts, statements? notes.createTable = some [ts] ∧
        tokensDefinition? ts = some
          { name := "notes"
            columns :=
              [{ name := "note", type := "TEXT", unique := true, default := some looseNote },
                { name := "owner", type := "UUID", notNull := true }]
            key := some "owner" } := by
  have hs : ofDescription notesTable = .ok notes := rfl
  obtain ⟨ts, hstatements, -, hdefinition, -⟩ := statements?_createTable hs
  exact ⟨hs, ts, hstatements, hdefinition⟩

end Schema

end BearerAuth
