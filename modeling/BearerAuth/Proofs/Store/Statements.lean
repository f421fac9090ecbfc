import BearerAuth.Proofs.Sql.TableDefinition
import BearerAuth.Proofs.Store.Relational

/-!
# What is sent to a database

Every operation over a database sends at most one statement, and there are three kinds
of them. Rows are selected by a name that is bound to the statement, and its text says
what the columns are called and of which types they are. Rows are inserted with all
values bound, and for the column of the password that is a hash. The statement that
creates the table, however, has no values bound to it, and what it says of the columns
includes their defaults: a default password is sent as it is.

- `Relational.Operation`, `Relational.sent`: the operations, and all that they send.
- `Statement.Inserts`: a statement that inserts values which are bound to it.
- `Relational.of_mem_sent`: what one operation sends.
- `Relational.selection_congr`: what a selection depends on.
- `Schema.createTable_withPasswordDefault_iff`: the statement that creates the table
  tells apart all defaults of the password.
- `Relational.sent_statements`: all of that, for any number of operations.
-/

namespace BearerAuth

open Sql

/-- The statement inserts a row with the values, each of them bound to the placeholder
that has the place of its column. -/
structure Statement.Inserts (statement : Statement) (s : Schema) (values : List (Column × String)) :
    Prop where
  text : statement.text =
    "INSERT INTO " ++ identifier s.table ++ " (" ++
      commaList ((values.map (·.1)).map fun c => identifier c.name) ++ ") VALUES (" ++
      commaList ((values.map (·.1)).mapIdx fun i c =>
        "$" ++ toString (i + 1) ++ "::" ++ c.type.sqlType) ++ ")"
  parameters : statement.parameters = values.map (·.2)

namespace Relational

/-- What may be asked of the users in a database. -/
inductive Operation where
  | connect (connection : Except DatabaseError Unit)
  | createTable
  | create (salt : Password.Salt) (supplied : Fields)
  | authenticate (username password : String)
  | info (username password : String)

namespace Operation

/-- The statements that an operation sends to a server. -/
def sent (s : Schema) (server : Statement → Reply) : Operation → List Statement
  | .connect connection => ((Relational.connect s connection).run server).1
  | .createTable => ((Relational.createTable s).run server).1
  | .create salt supplied =>
    match Relational.create s salt supplied with
    | .error _ => []
    | .ok dialogue => (dialogue.run server).1
  | .authenticate username password => ((Relational.authenticate s username password).run server).1
  | .info username password => ((Relational.info s username password).run server).1

/-- Whether the operation sees to it that there is a table. -/
def MakesTable (s : Schema) : Operation → Prop
  | .connect connection => connection = .ok () ∧ s.autoCreate = true
  | .createTable => True
  | _ => False

/-- Whether the operation looks up a user of the name. -/
def LooksUp (username : String) : Operation → Prop
  | .authenticate name _ => name = username
  | .info name _ => name = username
  | _ => False

end Operation

/-- The statements that the operations send, in order. Each of them may meet another
server. -/
def sent (s : Schema) (operations : List (Operation × (Statement → Reply))) : List Statement :=
  operations.flatMap fun (operation, server) => operation.sent s server

variable {s : Schema}

/-! ## Insertions -/

/-- Placeholders are numbered from one on, and cast to the types of their columns. -/
theorem placeholders_eq_mapIdx (n : Nat) (columns : List Column) :
    placeholders (n + 1) columns =
      columns.mapIdx fun i c => "$" ++ toString (n + i + 1) ++ "::" ++ c.type.sqlType := by
  induction columns generalizing n with
  | nil => rfl
  | cons c rest ih =>
    rw [placeholders, ih, List.mapIdx_cons]
    congr 1
    refine List.mapIdx_eq_mapIdx_iff.2 fun i hi => ?_
    rw [Nat.add_right_comm n 1 i, Nat.add_assoc n i 1]

/-- The insertion of a record inserts the values that are present in it. -/
theorem inserts_insertion (s : Schema) (record : Fields) :
    (insertion s record).Inserts s (present s record) where
  text := by
    have hplaceholders := placeholders_eq_mapIdx 0 ((present s record).map (·.1))
    simp only [Nat.zero_add] at hplaceholders
    rw [← hplaceholders]
    rfl
  parameters := rfl

theorem mem_present {record : Fields} {c : Column} {value : String}
    (h : (c, value) ∈ present s record) : c ∈ s.columns ∧ record.get? c.name = some value := by
  obtain ⟨column, hc, hvalue⟩ := List.mem_filterMap.1 h
  obtain ⟨text, htext, heq⟩ := Option.map_eq_some_iff.1 hvalue
  cases heq
  exact ⟨hc, htext⟩

/-- What is bound for the column of the password is a hash. -/
theorem hash_of_mem_present (hs : s.Valid) {salt : Password.Salt} {supplied record : Fields}
    (h : s.prepare salt supplied = .ok (.ok record)) {c : Column} {value : String}
    (hbound : (c, value) ∈ present s record) (hpassword : c.isPassword = true) :
    ∃ plain, s.passwordGiven supplied = some plain ∧ value = Password.hash salt plain := by
  obtain ⟨-, hvalue⟩ := mem_present hbound
  have hhash := (hs.kept_of_prepare h).password
  rw [← beq_iff_eq.1 hpassword, hvalue] at hhash
  obtain ⟨plain, hplain, heq⟩ := Option.map_eq_some_iff.1 hhash.symm
  exact ⟨plain, hplain, heq.symm⟩

/-! ## Selections -/

/-- The text of a selection depends on the name of the table and on the names and types
of the columns. -/
theorem selection_congr {other : Schema} (htable : other.table = s.table)
    (hcolumns : other.columns.map (fun c => (c.name, c.type)) =
      s.columns.map fun c => (c.name, c.type))
    (hname : other.username.name = s.username.name)
    (htype : other.username.type = s.username.type) (username : String) :
    selection other username = selection s username := by
  have hselected (t : Schema) : t.columns.map selected =
      (t.columns.map fun c => (c.name, c.type)).map fun (name, type) =>
        if type = .timestamp then identifier name else identifier name ++ "::TEXT" := by
    rw [List.map_map]
    rfl
  rw [selection, selection, htable, hname, htype, hselected other, hselected s, hcolumns]

/-! ## One operation -/

theorem sent_createTable (server : Statement → Reply) :
    Operation.createTable.sent s server = [⟨s.createTable, []⟩] := by
  simp only [Operation.sent, createTable, Dialogue.run]
  cases server ⟨s.createTable, []⟩ with
  | rows rows => rfl
  | failed why => rfl

/-- A connection is made with the table where the schema asks for that. -/
theorem sent_connect (server : Statement → Reply) :
    (Operation.connect (.ok ())).sent s server =
      if s.autoCreate then [⟨s.createTable, []⟩] else [] := by
  by_cases hauto : s.autoCreate = true
  · rw [if_pos hauto, ← sent_createTable server]
    simp only [Operation.sent, connect, prepareTable, if_pos hauto]
  · rw [if_neg hauto]
    simp only [Operation.sent, connect, prepareTable, if_neg hauto, Dialogue.run]

/-- Only the insertion of the prepared record is sent for a creation. -/
theorem mem_sent_create {server : Statement → Reply} {salt : Password.Salt} {supplied : Fields}
    {statement : Statement} :
    statement ∈ (Operation.create salt supplied).sent s server ↔
      ∃ record, s.prepare salt supplied = .ok (.ok record) ∧ statement = insertion s record := by
  rcases hprepare : s.prepare salt supplied with fault | why | record
  · simp [Operation.sent, create, hprepare]
  · simp [Operation.sent, create, hprepare, Dialogue.run]
  · simp [Operation.sent, create, hprepare, Dialogue.run]

/-- A look-up sends what it is to look up, and nothing of the password. -/
theorem sent_lookup (server : Statement → Reply) (username password : String) :
    (Operation.authenticate username password).sent s server = lookups s username ∧
      (Operation.info username password).sent s server = lookups s username := by
  have hauthenticate : (Operation.authenticate username password).sent s server =
      lookups s username := by
    simp only [Operation.sent, authenticate, lookups]
    by_cases haccepts : s.username.type.accepts username = true
    · rw [if_pos haccepts, if_pos haccepts]
      rfl
    · rw [if_neg haccepts, if_neg haccepts]
      rfl
  refine ⟨hauthenticate, ?_⟩
  rw [Operation.sent, info, Dialogue.run_map]
  exact hauthenticate

theorem eq_of_mem_lookups {username : String} {statement : Statement}
    (h : statement ∈ lookups s username) : statement = selection s username := by
  unfold lookups at h
  split at h
  · exact List.mem_singleton.1 h
  · cases h

/-- What one operation sends. -/
theorem of_mem_sent {server : Statement → Reply} {operation : Operation} {statement : Statement}
    (h : statement ∈ operation.sent s server) :
    (operation.MakesTable s ∧ statement = ⟨s.createTable, []⟩) ∨
    (∃ username, operation.LooksUp username ∧ statement = selection s username) ∨
    ∃ salt supplied record, operation = .create salt supplied ∧
      s.prepare salt supplied = .ok (.ok record) ∧ statement = insertion s record := by
  cases operation with
  | connect connection =>
    cases connection with
    | error why => cases h
    | ok connected =>
      rw [sent_connect] at h
      by_cases hauto : s.autoCreate = true
      · rw [if_pos hauto] at h
        exact .inl ⟨⟨rfl, hauto⟩, List.mem_singleton.1 h⟩
      · rw [if_neg hauto] at h
        cases h
  | createTable =>
    rw [sent_createTable] at h
    exact .inl ⟨trivial, List.mem_singleton.1 h⟩
  | create salt supplied =>
    obtain ⟨record, hprepare, hstatement⟩ := mem_sent_create.1 h
    exact .inr (.inr ⟨salt, supplied, record, rfl, hprepare, hstatement⟩)
  | authenticate username password =>
    rw [(sent_lookup server username password).1] at h
    exact .inr (.inl ⟨username, rfl, eq_of_mem_lookups h⟩)
  | info username password =>
    rw [(sent_lookup server username password).2] at h
    exact .inr (.inl ⟨username, rfl, eq_of_mem_lookups h⟩)

end Relational

/-! ## The default of the password -/

/-- The column with another default, if it is the password. -/
def Column.withPasswordDefault (c : Column) (default : Option String) : Column :=
  if c.isPassword then { c with default } else c

namespace Schema

/-- The schema with another default for the password. -/
def withPasswordDefault (s : Schema) (default : Option String) : Schema :=
  { s with
    columns := s.columns.map (·.withPasswordDefault default)
    username := s.username.withPasswordDefault default }

/-- The statement that creates the table tells apart all defaults of the password. -/
theorem createTable_withPasswordDefault_iff {table other : TableDescription} {s : Schema}
    (hs : ofDescription table = .ok s) {default : Option String}
    (hother : ofDescription other = .ok (s.withPasswordDefault default)) :
    (s.withPasswordDefault default).createTable = s.createTable ↔
      s.withPasswordDefault default = s := by
  constructor
  · intro h
    -- equal statements define equal tables, and these have the defaults in them
    have hdefined := congrArg tableDefinition? h
    rw [tableDefinition?_createTable hs, tableDefinition?_createTable hother] at hdefined
    have hcolumns : (s.columns.map (·.withPasswordDefault default)).map Column.columnDefinition =
        s.columns.map Column.columnDefinition :=
      congrArg TableDefinition.columns (Option.some.inj hdefined)
    rw [List.map_map, List.map_inj_left] at hcolumns
    have hsame : ∀ c ∈ s.columns, c.withPasswordDefault default = c := by
      intro c hc
      have hdefault : (c.withPasswordDefault default).default = c.default :=
        congrArg ColumnDefinition.default (hcolumns c hc)
      unfold Column.withPasswordDefault at hdefault ⊢
      by_cases hpassword : c.isPassword = true
      · rw [if_pos hpassword] at hdefault ⊢
        rw [show default = c.default from hdefault]
      · rw [if_neg hpassword]
    rw [withPasswordDefault, hsame _ (valid_of_ofDescription hs).username_mem,
      List.map_congr_left hsame, List.map_id']
  · intro h
    rw [h]

end Schema

/-! ## All that is sent -/

namespace Relational

open Schema

variable {s : Schema}

/-- Whatever is asked of the users in a database, what is sent is the statement that
creates the table, the selection of a user by the name asked for, or the insertion of a
user, with a hash bound for the password. A selection depends on the name asked for and
on the names and types of the schema. The statement that creates the table is the same
for no two defaults of the password. -/
theorem sent_statements {table : TableDescription} (hs : ofDescription table = .ok s)
    (operations : List (Operation × (Statement → Reply))) :
    (∀ statement ∈ sent s operations,
      ((∃ o ∈ operations, o.1.MakesTable s) ∧ statement = ⟨s.createTable, []⟩) ∨
      (∃ username, (∃ o ∈ operations, o.1.LooksUp username) ∧ statement = selection s username) ∨
      ∃ salt supplied values, (∃ o ∈ operations, o.1 = .create salt supplied) ∧
        statement.Inserts s values ∧ ∀ c value, (c, value) ∈ values → c ∈ s.columns ∧
          (c.isPassword = true → ∃ plain, s.passwordGiven supplied = some plain ∧
            value = Password.hash salt plain)) ∧
    (∀ other : Schema, other.table = s.table →
      other.columns.map (fun c => (c.name, c.type)) = s.columns.map (fun c => (c.name, c.type)) →
      other.username.name = s.username.name → other.username.type = s.username.type →
      ∀ username, selection other username = selection s username) ∧
    ∀ description default, ofDescription description = .ok (s.withPasswordDefault default) →
      ((s.withPasswordDefault default).createTable = s.createTable ↔
        s.withPasswordDefault default = s) := by
  have hvalid := valid_of_ofDescription hs
  refine ⟨?_, ?_, ?_⟩
  · intro statement hstatement
    obtain ⟨o, ho, hsent⟩ := List.mem_flatMap.1 hstatement
    rcases of_mem_sent hsent with ⟨hmakes, htext⟩ | ⟨username, hlooks, hselection⟩ |
      ⟨salt, supplied, record, hcreate, hprepare, hinsertion⟩
    · exact .inl ⟨⟨o, ho, hmakes⟩, htext⟩
    · exact .inr (.inl ⟨username, ⟨o, ho, hlooks⟩, hselection⟩)
    · refine .inr (.inr ⟨salt, supplied, present s record, ⟨o, ho, hcreate⟩, ?_, ?_⟩)
      · rw [hinsertion]
        exact inserts_insertion s record
      · intro c value hbound
        exact ⟨(mem_present hbound).1, hash_of_mem_present hvalid hprepare hbound⟩
  · intro other htable hcolumns hname htype username
    exact selection_congr htable hcolumns hname htype username
  · intro description default hother
    exact createTable_withPasswordDefault_iff hs hother

/-- What is asked of the readers' database on the day of its opening. -/
def openingDay : List (Operation × (Statement → Reply)) :=
  [(.connect (.ok ()), fun _ => .rows []),
    (.create deskSalt (deskSupplied "grace"), fun _ => .rows []),
    (.authenticate "grace" "amazing", graceServer)]

/-- On the opening day nothing is bound to a statement but the name of Grace, and what
she signed up with, the password as a hash. -/
theorem sent_statements_openingDay :
    ofDescription readersTable = .ok readers ∧
      sent readers openingDay = [⟨readers.createTable, []⟩,
        insertion readers (deskRecord deskSalt "grace"), selection readers "grace"] ∧
      ∀ statement ∈ sent readers openingDay, statement.parameters = [] ∨
        (∃ username, statement.parameters = [username]) ∨
        ∃ values : List (Column × String), statement.parameters = values.map (·.2) ∧
          ∀ c value, (c, value) ∈ values → c.isPassword = true →
            value = Password.hash deskSalt "amazing" := by
  obtain ⟨hsent, -, -⟩ := sent_statements ofDescription_readersTable openingDay
  refine ⟨ofDescription_readersTable, rfl, ?_⟩
  intro statement hstatement
  rcases hsent statement hstatement with ⟨-, rfl⟩ | ⟨username, -, rfl⟩ |
    ⟨salt, supplied, values, ⟨o, ho, hcreate⟩, hinserts, hvalues⟩
  · exact .inl rfl
  · exact .inr (.inl ⟨username, rfl⟩)
  · refine .inr (.inr ⟨values, hinserts.parameters, ?_⟩)
    intro c value hbound hpassword
    obtain ⟨plain, hplain, rfl⟩ := (hvalues c value hbound).2 hpassword
    -- the only creation of that day is the one of Grace
    simp only [openingDay, List.mem_cons, List.not_mem_nil, or_false] at ho
    rcases ho with rfl | rfl | rfl
    · cases hcreate
    · cases hcreate
      cases hplain
      rfl
    · cases hcreate

/-! ## A default password -/

/-- The readers' table with a password for those who give none. -/
def welcomeTable : TableDescription where
  name := "readers"
  autoCreate := true
  columns :=
    { entries :=
        [("email", { type := "text", unique := true }),
          ("password", { type := "text", required := true, hidden := true
                         default := some "welcome" }),
          ("since", { type := "timestamp" }),
          ("username", { type := "text", required := true })]
      sorted := by decide }

/-- The password of readers who give none is sent as it is when the table is created,
and so the statement is another one than without it. -/
theorem welcome_sent :
    ofDescription readersTable = .ok readers ∧
      ofDescription welcomeTable = .ok (readers.withPasswordDefault (some "welcome")) ∧
      (readers.withPasswordDefault (some "welcome")).passwordGiven
        (NameMap.empty.insert "username" "grace") = some "welcome" ∧
      sent (readers.withPasswordDefault (some "welcome"))
          [(.connect (.ok ()), fun _ => .rows [])] =
        [⟨"CREATE TABLE IF NOT EXISTS \"readers\" (\"email\" TEXT UNIQUE, " ++
          "\"password\" TEXT NOT NULL DEFAULT 'welcome', \"since\" TIMESTAMPTZ, " ++
          "\"username\" TEXT NOT NULL)", []⟩] ∧
      (readers.withPasswordDefault (some "welcome")).createTable ≠ readers.createTable := by
  refine ⟨rfl, rfl, rfl, by decide +kernel, by decide +kernel⟩

end Relational

end BearerAuth
