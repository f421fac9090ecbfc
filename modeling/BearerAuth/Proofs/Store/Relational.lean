import BearerAuth.Proofs.Store.History
import BearerAuth.Proofs.Store.Selections

/-!
# The same answers from a database

A server that holds the rows of the users in memory leads to the answers that the
users in memory give. Of the server it is assumed that it answers what it reads in a
statement, `Relational.Serves`: for the columns that are picked, in the order in which
they are picked, it gives stored texts back as they are, nothing where nothing was
stored, and a time stamp as its instant in whole microseconds, in the rows that have the
value in the column that is asked for. Nothing is assumed about anything else that may
be sent to it. What a column takes for equal beyond equal texts is not modelled: the
server looks for the text of a name.

- `Relational.answer?`, `Relational.Serves`: how a server answers.
- `Relational.readRow_rowOf`: the row of a prepared record reads back as the record.
- `Relational.Mirrors`, `Relational.mirrors_of_serves`: the server has the rows of the
  users in memory.
- `Relational.authenticate_of_mirrors`, `Relational.info_of_mirrors`: it leads to
  the same answers, for every name and password.
- `Relational.same_answers`: the case of one user.
-/

namespace BearerAuth

/-- What is done to the result does not change what is sent. -/
theorem Dialogue.run_map {α β : Type} (f : α → β) (server : Statement → Reply) (d : Dialogue α) :
    (d.map f).run server = ((d.run server).1, f (d.run server).2) := by
  induction d with
  | done result => rfl
  | send statement next ih => rw [map, run, ih, run]

namespace Relational

open Sql Time

/-- The whole microseconds from the start of 2000 to an instant. -/
def microsOf (t : Instant) : Int :=
  (t.nanoseconds - (Instant.ofSeconds 946684800).nanoseconds) / 1000

/-- The cell in which a server gives what is stored in a column. A text that is
no stamp is not stored in a column of time stamps. -/
def cellOf (c : Column) : Option String → Cell
  | none => .null
  | some value =>
    if c.type = .timestamp then
      match Rfc3339.read? value with
      | some t => .timestamp (microsOf t)
      | none => .null
    else .text value

/-- The row in which a server gives a record, in the order of the columns. -/
def rowOf (columns : List Column) (record : Fields) : List Cell :=
  columns.map fun c => cellOf c (record.get? c.name)

/-- The answer to a query of a table that holds the records, if that is the table of the
schema, with columns of the schema that are picked in the form in which the cells are
known, and with a value that the type of its column accepts. -/
def rows? (s : Schema) (records : List Fields) (q : Query) : Option (List (List Cell)) :=
  match s.columns.find? (·.name = q.key), q.picks.mapM fun p => s.columns.find? (·.pick = p) with
  | some key, some columns =>
    if q.table = s.table ∧ q.type = key.type.sqlType ∧ key.type.accepts q.value = true then
      some ((records.filter fun record => record.get? key.name = some q.value).map (rowOf columns))
    else none
  | _, _ => none

/-- The answer to a statement, if it is a single one and a query with a known answer. -/
def answer? (s : Schema) (records : List Fields) (statement : Statement) :
    Option (List (List Cell)) :=
  match statements? statement.text with
  | some [ts] => (query? statement.parameters ts).bind (rows? s records)
  | _ => none

/-- The server has the records in the table of the schema and answers what it reads in
the statements. -/
def Serves (s : Schema) (records : List Fields) (server : Statement → Reply) : Prop :=
  ∀ statement rows, answer? s records statement = some rows → server statement = .rows rows

/-- The server has the rows of the users in memory, and finds each by its name. -/
def Mirrors (s : Schema) (users : Users) (server : Statement → Reply) : Prop :=
  ∀ name, s.username.type.accepts name = true →
    server (selection s name) = .rows ((users.get? name).toList.map (rowOf s.columns))

/-! ## Cells -/

/-- An instant of whole microseconds survives as a number of these. -/
theorem instantOf_microsOf {t : Instant} (h : t.cut = t) : instantOf (microsOf t) = t := by
  have hnanos : t.nanoseconds / 1000 * 1000 = t.nanoseconds := congrArg Instant.nanoseconds h
  have hstart : (Instant.ofSeconds 946684800).nanoseconds = 946684800000000 * 1000 := by decide
  rw [instantOf, microsOf, hstart]
  refine congrArg Instant.mk ?_
  omega

theorem readCell_null (c : Column) : readCell c .null = .ok (.ok none) := by
  simp [readCell]

theorem readCell_text {c : Column} (h : c.type ≠ .timestamp) (value : String) :
    readCell c (.text value) = .ok (.ok (some value)) := by
  cases htype : c.type with
  | timestamp => exact absurd htype h
  | text => simp [readCell, htype]
  | integer => simp [readCell, htype]
  | boolean => simp [readCell, htype]
  | uuid => simp [readCell, htype]
  | jsonb => simp [readCell, htype]

theorem readCell_timestamp {c : Column} (h : c.type = .timestamp) {t : Instant} {stamp : String}
    (hcut : t.cut = t) (hwrite : Rfc3339.write? t = .ok (some stamp)) :
    readCell c (.timestamp (microsOf t)) = .ok (.ok (some stamp)) := by
  simp only [readCell, h]
  rw [instantOf_microsOf hcut, hwrite]

/-- What is stored in a column reads back from its cell: a time stamp because
its stored form is of whole microseconds, all else because it is given as it
is. -/
theorem readCell_cellOf {c : Column} {stored : Option String}
    (h : c.type = .timestamp → ∀ value, stored = some value →
      ∃ given, ColumnType.timestamp.canonical given = .ok (some value)) :
    readCell c (cellOf c stored) = .ok (.ok stored) := by
  cases stored with
  | none => exact readCell_null c
  | some value =>
    by_cases htype : c.type = .timestamp
    · obtain ⟨given, hcanonical⟩ := h htype value rfl
      obtain ⟨t, hread, hcut, hwrite⟩ := Rfc3339.read?_of_canonical hcanonical
      rw [cellOf, if_pos htype, hread]
      exact readCell_timestamp htype hcut hwrite
    · rw [cellOf, if_neg htype]
      exact readCell_text htype value

/-! ## Rows -/

variable {s : Schema} {salt : Password.Salt} {supplied record : Fields}

/-- Reading the cells of a filled record fills the record again, column by
column. -/
theorem readRow_of_fill {columns : List Column} {start filled : Fields}
    (hfill : Schema.fill salt supplied columns start = .ok (.ok filled))
    (hnodup : (columns.map (·.name)).Nodup) (hfresh : ∀ c ∈ columns, start.get? c.name = none)
    (hcells : ∀ c ∈ columns,
      readCell c (cellOf c (filled.get? c.name)) = .ok (.ok (filled.get? c.name))) :
    readRow columns (columns.map fun c => cellOf c (filled.get? c.name)) start =
      .ok (.ok filled) := by
  induction columns generalizing start with
  | nil => exact hfill
  | cons c rest ih =>
    have hvalues := (Schema.get?_fill hfill hnodup hfresh).1 c List.mem_cons_self
    obtain ⟨value, hstored, hrest⟩ := Schema.of_fill_cons hfill
    obtain rfl : value = filled.get? c.name :=
      Except.ok.inj (Except.ok.inj (hstored.symm.trans hvalues))
    -- what was filled in is what is read, and the rest goes on from there
    obtain ⟨hname, hnodup⟩ := List.nodup_cons.1 hnodup
    have hkept : ∀ x ∈ rest, (Schema.keep start c.name (filled.get? c.name)).get? x.name =
        none := by
      intro x hx
      have hne : x.name ≠ c.name := fun heq => hname (List.mem_map.2 ⟨x, hx, heq⟩)
      rw [Schema.get?_keep_of_ne start hne]
      exact hfresh x (List.mem_cons_of_mem _ hx)
    have hread := ih hrest hnodup hkept fun x hx => hcells x (List.mem_cons_of_mem _ hx)
    rw [List.map_cons, readRow, hcells c List.mem_cons_self]
    cases hvalue : filled.get? c.name with
    | none =>
      rw [hvalue] at hread
      exact hread
    | some text =>
      rw [hvalue] at hread
      exact hread

/-- The row of a prepared record reads back as the record. -/
theorem readRow_rowOf (hs : s.Valid)
    (hpassword : ∀ c ∈ s.columns, c.isPassword = true → c.type = .text)
    (h : s.prepare salt supplied = .ok (.ok record)) :
    readRow s.columns (rowOf s.columns record) .empty = .ok (.ok record) := by
  have hprepared := hs.prepared_of_prepare h
  refine readRow_of_fill (Schema.of_prepare h).1 hs.names_nodup (fun _ _ => rfl) fun c hc => ?_
  refine readCell_cellOf fun htype value hvalue => ?_
  cases hhashed : c.isPassword with
  | true =>
    rw [hpassword c hc hhashed] at htype
    cases htype
  | false =>
    obtain ⟨given, hcanonical⟩ := hprepared.canonical_value hc hhashed hvalue
    exact ⟨given, htype ▸ hcanonical⟩

/-! ## Answers -/

/-- The answer to the selection of a user is the rows that have the name, with all
columns. -/
theorem answer?_selection {table : TableDescription} (hs : Schema.ofDescription table = .ok s)
    (records : List Fields) {username : String}
    (haccepts : s.username.type.accepts username = true) :
    answer? s records (selection s username) = some ((records.filter fun record =>
      record.get? s.username.name = some username).map (rowOf s.columns)) := by
  have hvalid := Schema.valid_of_ofDescription hs
  obtain ⟨ts, hstatements, hquery⟩ := query?_selection hs username
  have hkey : s.columns.find? (·.name = s.username.name) = some s.username :=
    hvalid.find?_eq_some hvalid.username_mem (decide_eq_true rfl) fun _ => of_decide_eq_true
  -- names are distinct, so that each column is found by what is picked of it
  have hpicked : (s.columns.map Column.pick).mapM (fun p => s.columns.find? (·.pick = p)) =
      some (s.columns.map id) := by
    refine mapM_eq_some_map fun c hc => ?_
    exact hvalid.find?_eq_some hc (decide_eq_true rfl) fun other hpick =>
      congrArg Pick.column (of_decide_eq_true hpick)
  rw [List.map_id] at hpicked
  rw [answer?, hstatements]
  dsimp only
  rw [hquery, Option.bind_some, rows?, hkey, hpicked]
  exact if_pos ⟨rfl, rfl, haccepts⟩

/-- Of records that are held under their names, a name finds the one that it is held
under. -/
theorem filter_named {entries : List (String × Fields)} {key : String}
    (hnodup : (entries.map (·.1)).Nodup) (hnamed : ∀ e ∈ entries, e.2.get? key = some e.1)
    (name : String) :
    ((entries.map (·.2)).filter fun record => record.get? key = some name) =
      (entries.lookup name).toList := by
  induction entries with
  | nil => rfl
  | cons e rest ih =>
    obtain ⟨hfresh, hnodup⟩ := List.nodup_cons.1 hnodup
    have hrest := ih hnodup fun x hx => hnamed x (List.mem_cons_of_mem e hx)
    have hname := hnamed e List.mem_cons_self
    rw [List.map_cons, NameMap.lookup_cons_eq]
    by_cases heq : name = e.1
    · have hnone : rest.lookup name = none := NameMap.lookup_eq_none.2 fun x hx hsame =>
        hfresh (List.mem_map.2 ⟨x, hx, hsame.trans heq⟩)
      rw [List.filter_cons_of_pos (by simp [hname, heq]), hrest, hnone, if_pos heq]
      rfl
    · rw [List.filter_cons_of_neg (by simp [hname, Ne.symm heq]), hrest, if_neg heq]

/-- A server that has the records of users, and answers what it reads, mirrors them. -/
theorem mirrors_of_serves {table : TableDescription} (hs : Schema.ofDescription table = .ok s)
    {users : Users} (hnodup : (users.entries.map (·.1)).Nodup)
    (hnamed : ∀ e ∈ users.entries, e.2.get? s.username.name = some e.1)
    {server : Statement → Reply} (hserver : Serves s (users.entries.map (·.2)) server) :
    Mirrors s users server := by
  intro name haccepts
  rw [hserver _ _ (answer?_selection hs _ haccepts), filter_named hnodup hnamed]
  rfl

/-- The statement of a look-up, which is sent only for a name that the key
column can hold. -/
def lookups (s : Schema) (username : String) : List Statement :=
  if s.username.type.accepts username then [selection s username] else []

section Mirrored

variable {users : Users} {server : Statement → Reply} (hs : s.Valid)
  (hpassword : ∀ c ∈ s.columns, c.isPassword = true → c.type = .text)
  (hkey : s.username.isPassword = false)
  (hheld : ∀ name record, users.get? name = some record →
    ∃ salt supplied, s.prepare salt supplied = .ok (.ok record) ∧ s.nameOf record = name)
  (hserver : Mirrors s users server)

include hs hkey hheld in
/-- Nobody is in memory under a name that the key column cannot hold. -/
theorem get?_eq_none_of_not_accepts {username : String}
    (h : s.username.type.accepts username = false) : users.get? username = none := by
  cases hrecord : users.get? username with
  | none => rfl
  | some record =>
    obtain ⟨salt, supplied, hprepare, rfl⟩ := hheld username record hrecord
    have hkept := hs.kept_of_prepare hprepare
    obtain ⟨haccepts, -⟩ := hkept.values s.username hs.username_mem hkey _ hkept.named
    rw [h] at haccepts
    cases haccepts

include hs hpassword hheld hserver in
theorem selectionResult_of_mirrors {username : String}
    (haccepts : s.username.type.accepts username = true) (password : String) :
    selectionResult s password (server (selection s username)) =
      .ok (users.authenticate username password) := by
  rw [hserver username haccepts, Users.authenticate]
  cases hrecord : users.get? username with
  | none => rfl
  | some record =>
    obtain ⟨salt, supplied, hprepare, -⟩ := hheld username record hrecord
    have hread := readRow_rowOf hs hpassword hprepare
    show selectionResult s password (.rows [rowOf s.columns record]) = .ok (unlock record password)
    rw [selectionResult, hread]

include hs hpassword hkey hheld hserver

/-- The database answers as the memory does, with one statement at most. -/
theorem authenticate_of_mirrors (username password : String) :
    (authenticate s username password).run server =
      (lookups s username, .ok (users.authenticate username password)) := by
  rw [authenticate, lookups]
  cases haccepts : s.username.type.accepts username with
  | false =>
    rw [Users.authenticate, get?_eq_none_of_not_accepts hs hkey hheld haccepts]
    rfl
  | true =>
    have hresult := selectionResult_of_mirrors hs hpassword hheld hserver haccepts password
    exact congrArg (Prod.mk [selection s username]) hresult

/-- The database shows what the memory shows, with one statement at most. -/
theorem info_of_mirrors (username password : String) :
    (info s username password).run server =
      (lookups s username, .ok (users.info s username password)) := by
  rw [info, Dialogue.run_map,
    authenticate_of_mirrors hs hpassword hkey hheld hserver username password]
  rfl

end Mirrored

/-- A database and the memory that hold the same one user give the same answers
to every name and password, and a name that the key column cannot hold is
nobody's without a statement. -/
theorem same_answers {table : TableDescription} (hs : Schema.ofDescription table = .ok s)
    (hpassword : ∀ c ∈ s.columns, c.isPassword = true → c.type = .text)
    (hkey : s.username.isPassword = false)
    (hprepare : s.prepare salt supplied = .ok (.ok record)) {users : Users}
    (hcreate : Users.empty.create s salt supplied = .ok (.ok users))
    {server : Statement → Reply} (hserver : Serves s [record] server)
    (username password : String) :
    ((authenticate s username password).run server).2 =
        .ok (users.authenticate username password) ∧
      ((info s username password).run server).2 = .ok (users.info s username password) ∧
      (s.username.type.accepts username = false →
        (authenticate s username password).run server = ([], .ok (.error .userNotFound)) ∧
        (info s username password).run server = ([], .ok (.error .userNotFound))) := by
  have hvalid := Schema.valid_of_ofDescription hs
  obtain ⟨created, hcreated, -, rfl⟩ := Users.create_eq_ok_iff.1 hcreate
  obtain rfl : created = record := Except.ok.inj (Except.ok.inj (hcreated.symm.trans hprepare))
  have hheld : ∀ name held, (Users.empty.concat (s.nameOf created) created).get? name = some held →
      ∃ salt supplied, s.prepare salt supplied = .ok (.ok held) ∧ s.nameOf held = name := by
    intro name held hname
    rw [Users.get?_concat] at hname
    change (if name = s.nameOf created then some created else none) = some held at hname
    split at hname
    · next heq =>
      obtain rfl := Option.some.inj hname
      exact ⟨salt, supplied, hprepare, heq.symm⟩
    · cases hname
  have hmirrors : Mirrors s (Users.empty.concat (s.nameOf created) created) server := by
    have hnamed := (hvalid.prepared_of_prepare hprepare).get?_nameOf
    refine mirrors_of_serves hs ?_ ?_ hserver
    · exact List.nodup_singleton (s.nameOf created)
    · exact List.forall_mem_singleton.2 hnamed
  have hauthenticate := authenticate_of_mirrors hvalid hpassword hkey hheld hmirrors
    username password
  have hinfo := info_of_mirrors hvalid hpassword hkey hheld hmirrors username password
  refine ⟨by rw [hauthenticate], by rw [hinfo], fun hnot => ?_⟩
  -- nobody in memory goes by a name that the column cannot hold
  have hnone := get?_eq_none_of_not_accepts hvalid hkey hheld hnot
  rw [hauthenticate, hinfo, lookups, hnot, Users.info, Users.authenticate, hnone]
  exact ⟨rfl, rfl⟩

/-- A server that has the record of Grace. -/
def graceServer (statement : Statement) : Reply :=
  .rows ((answer? .readers [Schema.deskRecord Schema.deskSalt "grace"] statement).getD [])

/-- The memory that has the record of Grace. -/
def graceUsers : Users :=
  Users.empty.concat "grace" (Schema.deskRecord Schema.deskSalt "grace")

/-- From the row of Grace, whose day comes as a number of microseconds, her
password gives the record that was prepared for her. -/
theorem same_answers_grace :
    Schema.ofDescription Schema.readersTable = .ok .readers ∧
      (∀ c ∈ Schema.readers.columns, c.isPassword = true → c.type = .text) ∧
      Schema.readers.username.isPassword = false ∧
      Users.empty.create .readers Schema.deskSalt (Schema.deskSupplied "grace") =
        .ok (.ok graceUsers) ∧
      Serves .readers [Schema.deskRecord Schema.deskSalt "grace"] graceServer ∧
      ((authenticate .readers "grace" "amazing").run graceServer).2 =
        .ok (.ok ((Schema.deskRecord Schema.deskSalt "grace").erase passwordColumn)) := by
  have hprepare := Schema.prepare_deskSupplied Schema.deskSalt "grace"
  have hvalid := Schema.valid_of_ofDescription Schema.ofDescription_readersTable
  have hcreate : Users.empty.create .readers Schema.deskSalt (Schema.deskSupplied "grace") =
      .ok (.ok graceUsers) := Users.create_eq_ok_iff.2 ⟨_, hprepare, rfl, rfl⟩
  have hserver : Serves .readers [Schema.deskRecord Schema.deskSalt "grace"] graceServer := by
    intro statement rows hanswer
    rw [graceServer, hanswer, Option.getD_some]
  have htext : ∀ c ∈ Schema.readers.columns, c.isPassword = true → c.type = .text := by decide
  obtain ⟨hanswer, -, -⟩ := same_answers Schema.ofDescription_readersTable htext rfl hprepare
    hcreate hserver "grace" "amazing"
  refine ⟨Schema.ofDescription_readersTable, htext, rfl, hcreate, hserver, ?_⟩
  -- in memory it is the password that was given at the desk
  have hunlock := unlock_prepared (hvalid.prepared_of_prepare hprepare)
    (show Schema.readers.passwordGiven (Schema.deskSupplied "grace") = some "amazing" from rfl)
  rw [hanswer]
  exact congrArg Except.ok hunlock

end Relational

end BearerAuth
