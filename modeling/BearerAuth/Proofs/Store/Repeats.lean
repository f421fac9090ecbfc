import BearerAuth.Proofs.Sql.TableDefinition
import BearerAuth.Proofs.Store.Kept
import BearerAuth.Proofs.Store.Samples
import BearerAuth.Store.Relational

/-!
# Repeated names in the database

In the database it is for the server to refuse a second user of one name, and it
only does so if the statement that created the table asks for that. The statement
asks for what the columns are flagged with; the column that names the users need
not be flagged at all.

- `Sql.TableDefinition.Distinct`, `Sql.TableDefinition.Repeats`: what the
  constraints of a table rule out.
- `Relational.Keeps`: a server that holds rows to the constraints of the table
  that the statement of a schema defines.
- `Relational.TakenOnce`: no name is given to a second user, with any such server.
- `Relational.taken_once_iff`: this is so exactly if the column that names the
  users is flagged.
-/

namespace BearerAuth

/-- Whether the table holds a value of the column only once. -/
def Sql.TableDefinition.Distinct (d : Sql.TableDefinition) (name : String) : Prop :=
  d.key = some name ∨ ∃ c ∈ d.columns, c.name = name ∧ c.unique = true

instance (d : Sql.TableDefinition) (name : String) : Decidable (d.Distinct name) :=
  inferInstanceAs (Decidable (_ ∨ _))

/-- Whether the record has a value again that the table holds only once. -/
def Sql.TableDefinition.Repeats (d : Sql.TableDefinition) (rows : List Fields) (record : Fields) :
    Prop :=
  ∃ name value, d.Distinct name ∧ record.get? name = some value ∧
    ∃ row ∈ rows, row.get? name = some value

namespace Schema

variable {table : TableDescription} {s : Schema}

/-- The table of a schema holds a value of a column only once if the column is
flagged, as the key or as unique. -/
theorem distinct_tableDefinition_iff (hs : ofDescription table = .ok s) {c : Column}
    (hc : c ∈ s.columns) :
    s.tableDefinition.Distinct c.name ↔ c.primaryKey = true ∨ c.unique = true := by
  refine or_congr (key_tableDefinition_iff hs hc) ⟨?_, fun h => ?_⟩
  · rintro ⟨d, hd, hname, hunique⟩
    obtain ⟨other, hother, rfl⟩ := List.mem_map.1 hd
    rw [← (valid_of_ofDescription hs).eq_of_name_eq hother hc hname]
    exact hunique
  · exact ⟨c.columnDefinition, List.mem_map_of_mem hc, rfl, h⟩

/-- What the table of a schema holds only once are values of columns. -/
theorem exists_of_distinct {name : String} (h : s.tableDefinition.Distinct name) :
    ∃ c ∈ s.columns, c.name = name := by
  rcases h with hkey | ⟨d, hd, hname, -⟩
  · obtain ⟨c, hfind, hname⟩ := Option.map_eq_some_iff.1 hkey
    exact ⟨c, List.mem_of_find?_eq_some hfind, hname⟩
  · obtain ⟨c, hc, rfl⟩ := List.mem_map.1 hd
    exact ⟨c, hc, hname⟩

end Schema

namespace Relational

open Sql Schema

variable {table : TableDescription} {s : Schema}

/-- A server that holds the rows and refuses every record that repeats a value
which the table may hold only once, as the statement of the schema defined it. -/
def Keeps (s : Schema) (rows : List Fields) (server : Statement → Reply) : Prop :=
  ∀ d, tableDefinition? s.createTable = some d → ∀ record, d.Repeats rows record →
    ∃ message, server (insertion s record) =
      .failed (.server DatabaseError.uniqueViolation message)

/-- With every server that keeps rows of users to the constraints of the table, a
creation of a user whose name is taken ends with that. -/
def TakenOnce (s : Schema) : Prop :=
  ∀ rows server, (∀ row ∈ rows, ∃ salt supplied, s.prepare salt supplied = .ok (.ok row)) →
    Keeps s rows server →
    ∀ salt supplied record, s.prepare salt supplied = .ok (.ok record) →
      (∃ row ∈ rows, s.nameOf row = s.nameOf record) →
      ∃ dialogue, create s salt supplied = .ok dialogue ∧
        (dialogue.run server).2 = .error .userExists

/-- A creation that gets as far as a record ends with what the server says to
it. -/
theorem create_of_prepare {salt : Password.Salt} {supplied record : Fields}
    (h : s.prepare salt supplied = .ok (.ok record)) (server : Statement → Reply) :
    ∃ dialogue, create s salt supplied = .ok dialogue ∧
      (dialogue.run server).2 = insertionResult (server (insertion s record)) := by
  rw [create, h]
  exact ⟨_, rfl, rfl⟩

theorem parameters_insertion (s : Schema) (record : Fields) :
    (insertion s record).parameters = s.columns.filterMap fun c => record.get? c.name := by
  show (present s record).map (·.2) = _
  rw [present, List.map_filterMap]
  congr 1
  funext c
  cases record.get? c.name with
  | none => rfl
  | some value => rfl

/-- The insertion of a record without gaps is the insertion of no other one. -/
theorem get?_eq_of_insertion_eq {record other : Fields} {value : Column → String}
    (hvalues : ∀ c ∈ s.columns, record.get? c.name = some (value c))
    (h : insertion s other = insertion s record) :
    ∀ c ∈ s.columns, other.get? c.name = record.get? c.name := by
  have hparameters := congrArg Statement.parameters h
  rw [parameters_insertion, parameters_insertion,
    List.filterMap_eq_map_iff_forall_eq_some.2 hvalues] at hparameters
  intro c hc
  rw [hvalues c hc]
  exact List.filterMap_eq_map_iff_forall_eq_some.1 hparameters c hc

theorem takenOnce_of_distinct (hs : ofDescription table = .ok s)
    (hdistinct : s.tableDefinition.Distinct s.username.name) : TakenOnce s := by
  rintro rows server hrows hkeeps salt supplied record hprepare ⟨row, hrow, hname⟩
  have hvalid := valid_of_ofDescription hs
  obtain ⟨oldSalt, oldSupplied, hold⟩ := hrows row hrow
  have hrepeats : s.tableDefinition.Repeats rows record :=
    ⟨s.username.name, s.nameOf record, hdistinct, (hvalid.kept_of_prepare hprepare).named, row,
      hrow, hname ▸ (hvalid.kept_of_prepare hold).named⟩
  obtain ⟨message, hrefused⟩ := hkeeps _ (tableDefinition?_createTable hs) record hrepeats
  obtain ⟨dialogue, hcreate, hresult⟩ := create_of_prepare hprepare server
  refine ⟨dialogue, hcreate, ?_⟩
  rw [hresult, hrefused]
  rfl

/-- A server that refuses all records but one. -/
def refusingOthers (s : Schema) (record : Fields) (statement : Statement) : Reply :=
  if statement = insertion s record then .rows []
  else .failed (.server DatabaseError.uniqueViolation "")

/-- If the name is not held to one row, two users of one name and otherwise
different values repeat nothing that is. -/
theorem not_takenOnce (hs : ofDescription table = .ok s)
    (hdistinct : ¬s.tableDefinition.Distinct s.username.name) : ¬TakenOnce s := by
  intro htaken
  have hvalid := valid_of_ofDescription hs
  obtain ⟨row, hold, hrow⟩ := hvalid.prepare_samples fun _ => false
  obtain ⟨record, hprepare, hrecord⟩ :=
    hvalid.prepare_samples fun name => name != s.username.name
  have hname : s.nameOf row = s.nameOf record := by
    rw [nameOf, nameOf, hrow _ hvalid.username_mem, hrecord _ hvalid.username_mem,
      bne_self_eq_false]
  have hkeeps : Keeps s [row] (refusingOthers s record) := by
    rintro d hd other ⟨name, value, hd', hvalue, held, hheld, hsame⟩
    obtain rfl := Option.some.inj ((tableDefinition?_createTable hs).symm.trans hd)
    obtain rfl := List.mem_singleton.1 hheld
    refine ⟨"", if_neg fun heq => ?_⟩
    obtain ⟨c, hc, rfl⟩ := exists_of_distinct hd'
    have hne : c.name ≠ s.username.name := fun hname => hdistinct (hname ▸ hd')
    -- the two users differ in every column but the one for the name
    rw [get?_eq_of_insertion_eq hrecord heq c hc, hrecord c hc, bne_iff_ne.2 hne] at hvalue
    rw [hrow c hc] at hsame
    cases c.sampled_injective (Option.some.inj (hsame.trans hvalue.symm))
  obtain ⟨dialogue, hcreate, hexists⟩ := htaken [row] _
    (fun held hheld => ⟨_, _, List.mem_singleton.1 hheld ▸ hold⟩) hkeeps _ _ record hprepare
    ⟨row, List.mem_singleton_self row, hname⟩
  obtain ⟨same, hsame, hresult⟩ := create_of_prepare hprepare (refusingOthers s record)
  obtain rfl := Except.ok.inj (hcreate.symm.trans hsame)
  rw [hresult, refusingOthers, if_pos rfl] at hexists
  cases hexists

/-- The statement of a checked schema defines a table that holds every name of a
user only once if the column for it is flagged, as the key or as unique; and only
then does every creation under a name that is taken end with that. -/
theorem taken_once_iff (hs : ofDescription table = .ok s) :
    ∃ d, tableDefinition? s.createTable = some d ∧
      (d.Distinct s.username.name ↔ s.username.primaryKey = true ∨ s.username.unique = true) ∧
      (TakenOnce s ↔ s.username.primaryKey = true ∨ s.username.unique = true) := by
  have hflagged := distinct_tableDefinition_iff hs (valid_of_ofDescription hs).username_mem
  refine ⟨s.tableDefinition, tableDefinition?_createTable hs, hflagged, ⟨fun h => ?_, fun h => ?_⟩⟩
  · rw [← hflagged]
    exact Decidable.byContradiction fun hnot => not_takenOnce hs hnot h
  · exact takenOnce_of_distinct hs (hflagged.2 h)

/-- No two members have one email. -/
theorem taken_once_iff_members :
    ofDescription membersTable = .ok members ∧ TakenOnce members := by
  obtain ⟨d, -, -, htaken⟩ := taken_once_iff ofDescription_membersTable
  exact ⟨ofDescription_membersTable, htaken.2 (.inl rfl)⟩

/-- The readers go by a column that is not flagged: the table that their
statement defines may hold one name twice. -/
theorem readers_taken_twice :
    ofDescription readersTable = .ok readers ∧
      (∃ d, tableDefinition? readers.createTable = some d ∧ ¬d.Distinct readers.username.name) ∧
      ¬TakenOnce readers := by
  have hs := ofDescription_readersTable
  have hnot : ¬readers.tableDefinition.Distinct readers.username.name := by
    rw [distinct_tableDefinition_iff hs (valid_of_ofDescription hs).username_mem]
    decide
  exact ⟨hs, ⟨_, tableDefinition?_createTable hs, hnot⟩, not_takenOnce hs hnot⟩

end Relational

end BearerAuth
