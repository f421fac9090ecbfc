import BearerAuth.Proofs.Store.Kept
import BearerAuth.Proofs.Store.Statements

/-!
# Insertions

A server that is sent an insertion finds a list of columns in it and a list of
placeholders, and gives every column the value that is bound to the placeholder in
the same place. What it stores then is the record, and nothing of the record is part
of the text.

- `Sql.Row`, `Sql.row?`: the row that a statement inserts with the values bound to it.
- `Relational.row?_insertion`: the insertion of a record inserts the values of the
  record, each of them in its own column.
- `Relational.contains_declared`: a prepared record has a value for every column that
  the table wants to have one.
- `Relational.create_inserts`: all that the creation of a user sends.
-/

namespace BearerAuth

namespace Sql

/-- A column that gets a value of a type. -/
structure Assignment where
  column : String
  type : String
  value : String
  deriving DecidableEq, Repr

/-- A row for a table. -/
structure Row where
  table : String
  cells : List Assignment
  deriving DecidableEq, Repr

/-- The columns with the values in the same places, of which there must be as
many. -/
def cells? (parameters : List String) : List (List Token) → List (List Token) →
    Option (List Assignment)
  | [], [] => some []
  | [.name column] :: columns, place :: places =>
    match placeholder? parameters place, cells? parameters columns places with
    | some (type, value), some rest => some ({ column, type, value } :: rest)
    | _, _ => none
  | _, _ => none

/-- The row for a table that the parts of a statement insert, which closing parentheses set
apart. -/
def partsRow? (parameters : List String) (table : String) : List (List Token) → Option Row
  | [columns, .word "VALUES" :: .mark '(' :: places, []] =>
    (cells? parameters (columns.splitOn (.mark ',')) (places.splitOn (.mark ','))).map
      fun cells => { table, cells }
  | _ => none

/-- The row that the tokens of a statement insert, with the values bound to it. -/
def row? (parameters : List String) : List Token → Option Row
  | .word "INSERT" :: .word "INTO" :: .name table :: .mark '(' :: rest =>
    partsRow? parameters table (rest.splitOn (.mark ')'))
  | _ => none

/-! ## Lists of names and placeholders -/

/-- The part of a list that is the name of a column. -/
def namePart (c : Column) : String × List Token :=
  (identifier c.name, [.name c.name])

/-- The placeholders from a number on. -/
def placeParts (number : Nat) : List Column → List (String × List Token)
  | [] => []
  | c :: rest => placePart number c :: placeParts (number + 1) rest

theorem map_fst_placeParts (number : Nat) (columns : List Column) :
    (placeParts number columns).map (·.1) = Relational.placeholders number columns := by
  induction columns generalizing number with
  | nil => rfl
  | cons c rest ih =>
    rw [placeParts, List.map_cons, ih]
    rfl

/-- Each part is the placeholder of a column. -/
theorem exists_of_mem_placeParts {number : Nat} {columns : List Column}
    {p : String × List Token} (h : p ∈ placeParts number columns) :
    ∃ n, ∃ c ∈ columns, p = placePart n c := by
  induction columns generalizing number with
  | nil => cases h
  | cons c rest ih =>
    rcases List.mem_cons.1 h with rfl | h
    · exact ⟨number, c, List.mem_cons_self, rfl⟩
    · obtain ⟨n, d, hd, hp⟩ := ih h
      exact ⟨n, d, List.mem_cons_of_mem c hd, hp⟩

/-! ## The values that are found -/

/-- What a column gets in a row. -/
def assignment (held : Column × String) : Assignment :=
  { column := held.1.name, type := held.1.type.sqlType, value := held.2 }

/-- Each column finds its own value behind the placeholder in its place. -/
theorem cells?_placeParts {parameters : List String} {values : List (Column × String)} {k : Nat}
    (h : parameters.drop k = values.map (·.2)) :
    cells? parameters (((values.map (·.1)).map namePart).map (·.2))
        ((placeParts (k + 1) (values.map (·.1))).map (·.2)) =
      some (values.map assignment) := by
  induction values generalizing k with
  | nil => rfl
  | cons held rest ih =>
    have hvalue : parameters[k]? = some held.2 := by
      rw [← List.head?_drop, h]
      rfl
    have hrest : parameters.drop (k + 1) = rest.map (·.2) := by
      rw [← List.tail_drop, h]
      rfl
    rw [List.map_cons, List.map_cons, List.map_cons, placeParts, List.map_cons, namePart, cells?,
      placeholder?_placePart hvalue, ih hrest]
    rfl

/-! ## The tokens of an insertion -/

/-- The tokens of a statement that inserts the values in the second list for the
columns in the first. -/
def insertionTokens (table : String) (names places : List Token) : List Token :=
  .word "INSERT" :: .word "INTO" :: .name table :: .mark '(' ::
    (names ++ .mark ')' :: .word "VALUES" :: .mark '(' :: (places ++ [.mark ')']))

/-- An insertion comes apart at its brackets and its second word, so that its row is the
names with the values of their placeholders. -/
theorem row?_insertionTokens {parameters : List String} (table : String)
    {names places : List Token} (hnames : Token.mark ')' ∉ names)
    (hplaces : Token.mark ')' ∉ places) :
    row? parameters (insertionTokens table names places) =
      (cells? parameters (names.splitOn (.mark ',')) (places.splitOn (.mark ','))).map
        fun cells => { table, cells } := by
  have hopen : Token.mark ')' ∉ Token.word "VALUES" :: Token.mark '(' :: places := by
    simp [hplaces]
  have hparts : row? parameters (insertionTokens table names places) =
      partsRow? parameters table ((names ++ Token.mark ')' :: Token.word "VALUES" ::
        Token.mark '(' :: (places ++ [Token.mark ')'])).splitOn (Token.mark ')')) := rfl
  have hsplit : (names ++ Token.mark ')' :: Token.word "VALUES" :: Token.mark '(' ::
      (places ++ [Token.mark ')'])).splitOn (Token.mark ')') =
        [names, Token.word "VALUES" :: Token.mark '(' :: places, []] := by
    rw [List.splitOn_append_cons_self_of_not_mem hnames, ← List.cons_append, ← List.cons_append,
      List.splitOn_append_cons_self_of_not_mem hopen]
    rfl
  rw [hparts, hsplit]
  rfl

/-- The tokens of a statement that inserts values for the columns, with one placeholder
for each. -/
def numberedTokens (table : String) (columns : List Column) : List Token :=
  insertionTokens table (listTokens (columns.map namePart)) (listTokens (placeParts 1 columns))

variable {columns : List Column}

theorem mark_notMem_nameParts (m : Char) : ∀ p ∈ columns.map namePart, Token.mark m ∉ p.2 := by
  intro p hp
  obtain ⟨c, -, rfl⟩ := List.mem_map.1 hp
  simp [namePart]

/-- A placeholder has no marks but a dollar sign and those of a cast. -/
theorem mark_notMem_placeParts {m : Char} (hdollar : m ≠ '$') (hcolon : m ≠ ':') {number : Nat} :
    ∀ p ∈ placeParts number columns, Token.mark m ∉ p.2 := by
  intro p hp
  obtain ⟨n, c, -, rfl⟩ := exists_of_mem_placeParts hp
  simp [placePart, hdollar, hcolon]

theorem placeParts_ne_nil (hne : columns ≠ []) (number : Nat) : placeParts number columns ≠ [] := by
  cases columns with
  | nil => exact absurd rfl hne
  | cons c rest => exact List.cons_ne_nil _ _

/-- The lists in an insertion have no marks but those of placeholders, and commas. -/
theorem mark_notMem_lists (columns : List Column) {m : Char} (hm : m ∉ ['$', ':', ',']) :
    Token.mark m ∉ listTokens (columns.map namePart) ∧
      Token.mark m ∉ listTokens (placeParts 1 columns) := by
  simp only [List.mem_cons, List.not_mem_nil, or_false, not_or] at hm
  have hcomma : Token.mark m ≠ .mark ',' := fun heq => hm.2.2 (Token.mark.inj heq)
  exact ⟨notMem_listTokens hcomma (mark_notMem_nameParts m),
    notMem_listTokens hcomma (mark_notMem_placeParts hm.1 hm.2.1)⟩

theorem semicolon_notMem_numberedTokens (table : String) :
    Token.mark ';' ∉ numberedTokens table columns := by
  obtain ⟨hnames, hplaces⟩ := mark_notMem_lists columns (m := ';') (by decide)
  simp [numberedTokens, insertionTokens, hnames, hplaces]

/-- The values that are bound to an insertion are those of the row, in order. -/
theorem row?_numberedTokens (table : String) {values : List (Column × String)}
    (hne : values ≠ []) :
    row? (values.map (·.2)) (numberedTokens table (values.map (·.1))) =
      some { table, cells := values.map assignment } := by
  have hcolumns : values.map (·.1) ≠ [] := List.map_eq_nil_iff.not.2 hne
  have hcells := cells?_placeParts (k := 0) (List.drop_zero (l := values.map (·.2)))
  obtain ⟨hnames, hplaces⟩ := mark_notMem_lists (values.map (·.1)) (m := ')') (by decide)
  rw [numberedTokens, row?_insertionTokens table hnames hplaces,
    splitOn_listTokens (List.map_eq_nil_iff.not.2 hcolumns) (mark_notMem_nameParts ','),
    splitOn_listTokens (placeParts_ne_nil hcolumns 1)
      (mark_notMem_placeParts (by decide) (by decide)), hcells]
  rfl

end Sql

open Sql

namespace Relational

variable {s : Schema}

/-! ## The insertion of a record -/

theorem mem_present_of_get? {record : Fields} {c : Column} {value : String} (hc : c ∈ s.columns)
    (h : record.get? c.name = some value) : (c, value) ∈ present s record := by
  refine List.mem_filterMap.2 ⟨c, hc, ?_⟩
  rw [h, Option.map_some]

/-- Which columns are listed is a matter of which values there are. -/
theorem columns_present (s : Schema) (record : Fields) :
    (present s record).map (·.1) = s.columns.filter fun c => record.contains c.name := by
  rw [present, List.map_filterMap, ← List.filterMap_eq_filter]
  congr 1
  funext c
  rw [Option.guard, NameMap.contains]
  cases record.get? c.name with
  | none => rfl
  | some value => rfl

/-- The text of an insertion does not depend on the values that are inserted. -/
theorem text_insertion_congr {record other : Fields}
    (h : ∀ c ∈ s.columns, other.contains c.name = record.contains c.name) :
    (insertion s other).text = (insertion s record).text := by
  have hcolumns : (present s other).map (·.1) = (present s record).map (·.1) := by
    rw [columns_present, columns_present]
    exact List.filter_congr h
  rw [(inserts_insertion s other).text, (inserts_insertion s record).text, hcolumns]

/-- The insertion is two words and what is in brackets after each of them. -/
theorem toList_insertion (s : Schema) (record : Fields) {columns : List Column}
    (h : (present s record).map (·.1) = columns) :
    (insertion s record).text.toList = "INSERT INTO".toList ++ ' ' ::
      ((identifier s.table).toList ++ ' ' :: '(' ::
        ((commaList ((columns.map namePart).map (·.1))).toList ++ ')' :: ' ' ::
          ("VALUES".toList ++ ' ' :: '(' ::
            ((commaList (placeholders 1 columns)).toList ++ [')'])))) := by
  have htext : (insertion s record).text =
      "INSERT INTO " ++ identifier s.table ++ " (" ++
        commaList (columns.map fun c => identifier c.name) ++ ") VALUES (" ++
        commaList (placeholders 1 columns) ++ ")" := by
    rw [← h]
    rfl
  simp [htext, namePart, Function.comp_def]

/-- The tokens of the insertion of a record. -/
theorem reads_insertion {table : TableDescription} (hs : Schema.ofDescription table = .ok s)
    {record : Fields} (hne : present s record ≠ []) :
    Reads (insertion s record).text.toList
      (numberedTokens s.table ((present s record).map (·.1))) := by
  obtain ⟨htable, hplain⟩ := Schema.isPlainName_of_ofDescription hs
  generalize hcolumns : (present s record).map (·.1) = columns
  have hsome : columns ≠ [] := hcolumns ▸ List.map_eq_nil_iff.not.2 hne
  have hinsert : Reads "INSERT INTO".toList [.word "INSERT", .word "INTO"] :=
    reads_words ["INSERT", "INTO"] (by decide) (by decide) (by decide)
  have hvalues : Reads "VALUES".toList [.word "VALUES"] := reads_word (by decide)
  have htablename := reads_plainName htable
  have hnames : Reads (commaList ((columns.map namePart).map (·.1))).toList
      (listTokens (columns.map namePart)) := by
    refine reads_commaList (List.map_eq_nil_iff.not.2 hsome) ?_
    intro p hp
    obtain ⟨c, hc, rfl⟩ := List.mem_map.1 hp
    rw [← hcolumns, columns_present] at hc
    exact reads_plainName (hplain c (List.mem_filter.1 hc).1)
  have hplaces : Reads (commaList (placeholders 1 columns)).toList
      (listTokens (placeParts 1 columns)) := by
    rw [← map_fst_placeParts]
    refine reads_commaList (placeParts_ne_nil hsome 1) ?_
    intro p hp
    obtain ⟨n, c, -, rfl⟩ := exists_of_mem_placeParts hp
    exact reads_placePart n c
  have hplaceList := (hplaces.closed .nil).opened
  have hnameList := (hnames.closed (hvalues.append_space hplaceList).after_space).opened
  rw [toList_insertion s record hcolumns]
  exact hinsert.append_space (htablename.append_space hnameList)

/-- The values are those of the record, one for each of its columns and in the order of
the schema. -/
structure Lists (s : Schema) (record : Fields) (values : List (Column × String)) : Prop where
  sublist : (values.map (·.1)).Sublist s.columns
  nodup : (values.map (·.1.name)).Nodup
  get?_iff : ∀ name value,
    record.get? name = some value ↔ ∃ c, (c, value) ∈ values ∧ c.name = name

section

variable {salt : Password.Salt} {supplied record : Fields}

/-- The values that are inserted for a prepared record are all that it has. -/
theorem lists_present (hs : s.Valid) (h : s.prepare salt supplied = .ok (.ok record)) :
    Lists s record (present s record) := by
  have hsublist : ((present s record).map (·.1)).Sublist s.columns := by
    rw [columns_present]
    exact List.filter_sublist
  have hnames := hs.names_nodup.sublist (hsublist.map (·.name))
  rw [List.map_map] at hnames
  refine ⟨hsublist, hnames, fun name value => ⟨fun hvalue => ?_, ?_⟩⟩
  · -- a prepared record has no values but those of columns
    have hcontains : record.contains name = true := by
      rw [NameMap.contains, hvalue, Option.isSome_some]
    obtain ⟨c, hc, rfl⟩ := List.mem_map.1 ((hs.kept_of_prepare h).columns name hcontains)
    exact ⟨c, mem_present_of_get? hc hvalue, rfl⟩
  · rintro ⟨c, hc, rfl⟩
    exact (mem_present hc).2

/-- At least the name of a prepared record is inserted. -/
theorem present_ne_nil (hs : s.Valid) (h : s.prepare salt supplied = .ok (.ok record)) :
    present s record ≠ [] := by
  have hnamed := (hs.kept_of_prepare h).named
  obtain ⟨c, hc, -⟩ := ((lists_present hs h).get?_iff _ _).1 hnamed
  exact List.ne_nil_of_mem hc

/-- A prepared record has a value for every column that must have one, and for the
key. -/
theorem contains_declared {table : TableDescription} (hs : Schema.ofDescription table = .ok s)
    (h : s.prepare salt supplied = .ok (.ok record)) {d : ColumnDefinition}
    (hd : d ∈ s.tableDefinition.columns)
    (hdeclared : d.notNull = true ∨ s.tableDefinition.key = some d.name) :
    record.contains d.name = true := by
  have hkept := (Schema.valid_of_ofDescription hs).kept_of_prepare h
  obtain ⟨c, hc, rfl⟩ := List.mem_map.1 hd
  rcases hdeclared with hrequired | hkey
  · exact hkept.required c hc hrequired
  · have hflagged := (Schema.key_tableDefinition_iff hs hc).1 hkey
    obtain rfl := Schema.eq_of_keyColumn (Schema.of_ofDescription hs).2.1 hc hflagged
    show (record.get? s.username.name).isSome = true
    rw [hkept.named, Option.isSome_some]

/-- A server finds the record in the insertion. -/
theorem row?_insertion {table : TableDescription} (hs : Schema.ofDescription table = .ok s)
    (hne : present s record ≠ []) :
    ∃ ts, statements? (insertion s record).text = some [ts] ∧
      row? (insertion s record).parameters ts =
        some { table := s.table, cells := (present s record).map assignment } :=
  ⟨_, (reads_insertion hs hne).statements?_eq (List.cons_ne_nil _ _)
    (semicolon_notMem_numberedTokens s.table), row?_numberedTokens s.table hne⟩

end

/-- The creation of a user sends nothing unless there is a record to be stored, and then
it sends one insertion. That has the columns of the record in its text, each once and in
the order of the schema, with as many numbered placeholders, each cast to the type of its
column; and the values bound to it are those of the columns, in the same order. A server
that reads the statement so stores the record. Among the columns are all that the table
wants to have a value. And nothing of the values is in the text: it is the same for all
records with these columns. -/
theorem create_inserts {table : TableDescription} (hs : Schema.ofDescription table = .ok s)
    (salt : Password.Salt) (supplied : Fields) (server : Statement → Reply) :
    ((∀ record, s.prepare salt supplied ≠ .ok (.ok record)) →
      (Operation.create salt supplied).sent s server = []) ∧
    (∀ record, s.prepare salt supplied = .ok (.ok record) →
      (Operation.create salt supplied).sent s server = [insertion s record] ∧
      Lists s record (present s record) ∧
      (insertion s record).Inserts s (present s record) ∧
      (∃ ts, statements? (insertion s record).text = some [ts] ∧
        row? (insertion s record).parameters ts =
          some { table := s.table, cells := (present s record).map assignment }) ∧
      ∃ definition, tableDefinition? s.createTable = some definition ∧
        ∀ d ∈ definition.columns, d.notNull = true ∨ definition.key = some d.name →
          ∃ held ∈ present s record, held.1.name = d.name) ∧
    ∀ record other : Fields,
      (∀ c ∈ s.columns, other.contains c.name = record.contains c.name) →
        (insertion s other).text = (insertion s record).text := by
  have hvalid := Schema.valid_of_ofDescription hs
  refine ⟨fun hnone => ?_, fun record hprepare => ?_, fun record other => text_insertion_congr⟩
  · refine List.eq_nil_iff_forall_not_mem.2 fun statement hmem => ?_
    obtain ⟨record, hprepare, -⟩ := mem_sent_create.1 hmem
    exact hnone record hprepare
  · have hsent : (Operation.create salt supplied).sent s server = [insertion s record] := by
      rw [Operation.sent, create, hprepare]
      rfl
    have hlists := lists_present hvalid hprepare
    -- a column that the table wants a value for has one in the record, which is inserted
    refine ⟨hsent, hlists, inserts_insertion s record,
      row?_insertion hs (present_ne_nil hvalid hprepare), s.tableDefinition,
      Schema.tableDefinition?_createTable hs, fun d hd hdeclared => ?_⟩
    obtain ⟨value, hvalue⟩ :=
      Option.isSome_iff_exists.1 (contains_declared hs hprepare hd hdeclared)
    obtain ⟨c, hc, hname⟩ := (hlists.get?_iff d.name value).1 hvalue
    exact ⟨(c, value), hc, hname⟩

/-- A name that is no name of anyone. -/
def looseName : String := "x'); DROP TABLE \"readers\"; --"

/-- A reader without an address who goes by the loose name. -/
def looseSupplied : Fields :=
  (NameMap.empty.insert "password" "amazing").insert "username" looseName

/-- The loose name is stored as it is. -/
theorem create_inserts_looseName :
    Schema.ofDescription Schema.readersTable = .ok Schema.readers ∧
      ∃ record, Schema.readers.prepare Schema.deskSalt looseSupplied = .ok (.ok record) ∧
        ∃ statement ts, (Operation.create Schema.deskSalt looseSupplied).sent Schema.readers
            (fun _ => .rows []) = [statement] ∧
          statements? statement.text = some [ts] ∧
          row? statement.parameters ts = some
            { table := "readers"
              cells :=
                [{ column := "password", type := "TEXT"
                   value := Password.hash Schema.deskSalt "amazing" },
                  { column := "username", type := "TEXT", value := looseName }] } := by
  have hs := Schema.ofDescription_readersTable
  have hprepare : Schema.readers.prepare Schema.deskSalt looseSupplied = .ok (.ok
      ((NameMap.empty.insert "password" (Password.hash Schema.deskSalt "amazing")).insert
        "username" looseName)) := rfl
  obtain ⟨-, hinserts, -⟩ := create_inserts hs Schema.deskSalt looseSupplied fun _ => .rows []
  obtain ⟨hsent, -, -, ⟨ts, htokens, hrow⟩, -⟩ := hinserts _ hprepare
  exact ⟨hs, _, hprepare, _, ts, hsent, htokens, hrow⟩

end Relational

end BearerAuth
