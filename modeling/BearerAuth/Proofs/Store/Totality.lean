import BearerAuth.Proofs.Schema.TimeStamp
import BearerAuth.Proofs.Store.Preparation
import BearerAuth.Store.Relational
import BearerAuth.Store.Users

/-!
# Creations that come to a result

Bringing a value into its stored form has a result for all texts and all types but one: a
time stamp may denote an instant after the last year of the calendar, and then there is no
result, neither a record nor a failure. A creation comes to a result in either store unless
it meets such a value before anything else is in its way. Where it goes through, the record
names the user.

- `Users.exists_create_iff`, `Relational.exists_create_iff`: a store comes to a result if
  the preparation of the record does.
- `Schema.creation_returns_iff`: the values for which there is a result.
- `Schema.late_reader_lost`: a text from a reader for which there is none.
-/

namespace BearerAuth

open Time

variable {s : Schema} {salt : Password.Salt} {supplied : Fields}

/-- In memory a creation returns if the preparation of the record does. -/
theorem Users.exists_create_iff (u : Users) :
    (∃ outcome, u.create s salt supplied = .ok outcome) ↔
      ∃ outcome, s.prepare salt supplied = .ok outcome := by
  unfold create
  rcases s.prepare salt supplied with fault | why | record
  · simp
  · simp
  · simp

theorem Relational.exists_create_iff :
    (∃ dialogue, create s salt supplied = .ok dialogue) ↔
      ∃ outcome, s.prepare salt supplied = .ok outcome := by
  unfold create
  rcases s.prepare salt supplied with fault | why | record
  · simp
  · simp
  · simp

namespace Schema

/-- The preparation of a record returns unless the first column that does not pass overflows
the calendar. -/
theorem Valid.exists_outcome_iff (hs : s.Valid) (salt : Password.Salt) (supplied : Fields) :
    (∃ outcome, s.prepare salt supplied = .ok outcome) ↔
      ¬First s.columns supplied (·.Overflows supplied) := by
  rw [← hs.prepare_eq_fault_iff salt]
  rcases s.prepare salt supplied with fault | outcome
  · simp
  · simp

/-- The stored form of a value is a fault only for time stamps after the last year. A
record is prepared or refused, in memory and in the database, unless the first column for
which anything is in the way has such a time stamp. A record that is prepared has a value in
the column that names the user, and that is the name under which it is kept. -/
theorem creation_returns_iff {table : TableDescription} (h : ofDescription table = .ok s)
    (salt : Password.Salt) (supplied : Fields) (u : Users) :
    (∀ (t : ColumnType) (value : String), (∃ stored, t.canonical value = .ok stored) ↔
        ¬(t = .timestamp ∧ ∃ v, Rfc3339.Denotes value v ∧ 9999 < v.date.year)) ∧
      ((∃ outcome, s.prepare salt supplied = .ok outcome) ↔
        ¬First s.columns supplied (·.Overflows supplied)) ∧
      ((∃ outcome, u.create s salt supplied = .ok outcome) ↔
        ¬First s.columns supplied (·.Overflows supplied)) ∧
      ((∃ dialogue, Relational.create s salt supplied = .ok dialogue) ↔
        ¬First s.columns supplied (·.Overflows supplied)) ∧
      ∀ record, s.prepare salt supplied = .ok (.ok record) →
        record.get? s.username.name = some (s.nameOf record) := by
  have hs := valid_of_ofDescription h
  have houtcome := hs.exists_outcome_iff salt supplied
  refine ⟨fun t value => ?_, houtcome, ?_, ?_, fun record hrecord => ?_⟩
  · rw [← ColumnType.canonical_eq_fault_iff]
    rcases t.canonical value with fault | stored
    · simp
    · simp
  · rw [u.exists_create_iff, houtcome]
  · rw [Relational.exists_create_iff, houtcome]
  · exact (hs.prepared_of_prepare hrecord).get?_nameOf

/-- What a reader gives who has been there since some time. -/
def supplySince (since : String) : Fields :=
  ((NameMap.empty.insert "password" "amazing").insert "since" since).insert "username" "grace"

/-- A reader who signs up for the last nanosecond of the calendar is told something, in memory
and by the database. -/
theorem creation_returns_iff_lastSecond :
    ofDescription readersTable = .ok readers ∧
      ∃ outcome, Users.empty.create readers deskSalt
        (supplySince "9999-12-31T23:59:59.999999999Z") = .ok outcome := by
  obtain ⟨-, -, hmemory, -⟩ := creation_returns_iff ofDescription_readersTable deskSalt
    (supplySince "9999-12-31T23:59:59.999999999Z") Users.empty
  refine ⟨ofDescription_readersTable, hmemory.2 ?_⟩
  rintro ⟨c, hc, hoverflows, -⟩
  obtain ⟨value, hvalue, hfault⟩ := since_of_overflows hc hoverflows
  cases hvalue
  revert hfault
  decide

/-- A reader who gives the last minute of the year 9999 as it is read west of Greenwich gets no
answer from either store, neither a record nor a failure. -/
theorem late_reader_lost :
    ofDescription readersTable = .ok readers ∧
      readers.prepare deskSalt (supplySince "9999-12-31T23:59:59-00:01") = .error .mk ∧
      Users.empty.create readers deskSalt (supplySince "9999-12-31T23:59:59-00:01") =
        .error .mk ∧
      ∀ dialogue, Relational.create readers deskSalt
        (supplySince "9999-12-31T23:59:59-00:01") ≠ .ok dialogue := by
  have hprepare : readers.prepare deskSalt (supplySince "9999-12-31T23:59:59-00:01") =
      .error .mk := rfl
  refine ⟨ofDescription_readersTable, hprepare, ?_, fun dialogue hdialogue => ?_⟩
  · rw [Users.create, hprepare]
  · rw [Relational.create, hprepare] at hdialogue
    cases hdialogue

end Schema

end BearerAuth
