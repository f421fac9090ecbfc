import BearerAuth.Proofs.Schema.Check
import BearerAuth.Proofs.Store.Preparation
import BearerAuth.Store.Relational
import BearerAuth.Store.Users

/-!
# Defaults that cannot be stored

The defaults of a checked schema are values of their types, and with one exception every value
has a stored form or is a fault. The exception is time stamps for years before the year 0 of
UTC, which a local time ahead of UTC can denote. A schema with such a default passes the check
and refuses every user for whom the default would be used.

- `Schema.accepts_default`: what the check of a schema has made sure of.
- `ColumnType.Predates`: the exception. `ColumnType.isSome_canonical_iff`: there is no other.
- `Schema.Valid.prepare_invalid_iff`: when a record is refused for the sake of a default.
- `Users.create_eq_invalid_iff`, `Relational.create_eq_invalid_iff`: a store says of a value
  that it is none if the preparation of the record does.
- `Schema.default_refused_iff`: when a user is refused for the sake of a default.
- `Schema.elders_refused`: a schema that refuses everybody who leaves it to the default.
-/

namespace BearerAuth

open Time

variable {s : Schema} {salt : Password.Salt} {supplied : Fields} {name : String}
  {expected : ColumnType}

/-! ## Values without a stored form -/

/-- The value is a time stamp for an instant before the year 0 of UTC. -/
def ColumnType.Predates (t : ColumnType) (value : String) : Prop :=
  t = .timestamp ∧ ∃ u, Rfc3339.Denotes value u ∧ u.date.year < 0

/-- Where there is a result, the values with a stored form are those of the type that do not
predate the calendar. -/
theorem ColumnType.isSome_canonical_iff {t : ColumnType} {value : String} {stored : Option String}
    (h : t.canonical value = .ok stored) :
    stored.isSome = true ↔ t.accepts value = true ∧ ¬t.Predates value := by
  have hnone : stored = none ↔ t.accepts value = false ∨ t.Predates value := by
    rw [Predates, ← canonical_eq_none_iff, h, Except.ok.injEq]
  rw [← Option.ne_none_iff_isSome, Ne, hnone, not_or, Bool.not_eq_false]

/-- A failure for a value names the column and says that its type has no such value. -/
theorem Column.Offends.of_invalid {c : Column}
    (h : c.Offends supplied (.invalidValue name expected)) :
    name = c.name ∧ expected = c.type ∧ c.isPassword = false ∧
      ∃ value, c.Uses supplied value ∧ c.type.canonical value = .ok none := by
  cases h with
  | invalid huses hpassword hnone => exact ⟨rfl, rfl, hpassword, _, huses, hnone⟩

namespace Schema

/-- The check of a schema has looked at every default but that of the password. -/
theorem accepts_default {table : TableDescription} (h : ofDescription table = .ok s) {c : Column}
    (hc : c ∈ s.columns) (hpassword : c.isPassword = false) {value : String}
    (hdefault : c.default = some value) : c.type.accepts value = true := by
  have hwell : table.WellFormed :=
    TableDescription.wellFormed_iff.2 ((enforces_ofDescription table).ok_iff.1 ⟨s, h⟩)
  obtain ⟨e, he, hkeeps⟩ : ∃ e ∈ table.columns.entries, c.Keeps e := by
    have hcolumns := (describes_of_ofDescription h).columns
    obtain ⟨i, rfl⟩ := List.get_of_mem hc
    have hi : i < table.columns.entries.length := hcolumns.length_eq ▸ i.isLt
    exact ⟨_, List.get_mem _ ⟨i, hi⟩, hcolumns.get i.isLt hi⟩
  have hname : e.1 ≠ passwordColumn := by
    rw [← hkeeps.name]
    simpa [Column.isPassword] using hpassword
  rw [hkeeps.default] at hdefault
  exact hwell.defaults e he hname c.type hkeeps.type value hdefault

/-! ## Refusals -/

/-- The default of a column ends a creation: nothing is in the way of the columns before it,
and the default is looked at and predates the calendar. -/
structure DefaultEnds (s : Schema) (supplied : Fields) (c : Column) (value : String) : Prop where
  checked : c.isPassword = false
  predates : c.type.Predates value
  before : ∀ earlier ∈ s.columns, earlier.name < c.name → earlier.Passes supplied

/-- Where a default is used, the record is refused for its value only if it predates the
calendar. -/
theorem Valid.prepare_invalid_iff (hs : s.Valid) (salt : Password.Salt) {c : Column}
    (hc : c ∈ s.columns) {value : String} (hdefault : c.default = some value)
    (hleft : supplied.get? c.name = none)
    (haccepts : c.isPassword = false → c.type.accepts value = true) :
    s.prepare salt supplied = .ok (.error (.invalidValue c.name expected)) ↔
      expected = c.type ∧ s.DefaultEnds supplied c value := by
  have hvalue : c.Uses supplied value := .default hleft hdefault
  rw [hs.prepare_eq_refused_iff]
  constructor
  · rintro (⟨other, hother, hoffends, hbefore⟩ | ⟨-, -, hmissing⟩)
    · obtain ⟨hname, rfl, hpassword, used, hused, hnone⟩ := hoffends.of_invalid
      obtain rfl := hs.eq_of_name_eq hc hother hname
      obtain rfl := hused.unique hvalue
      rcases ColumnType.canonical_eq_none_iff.1 hnone with hnot | hpredates
      · rw [haccepts hpassword] at hnot
        cases hnot
      · exact ⟨rfl, hpassword, hpredates, hbefore⟩
    · cases hmissing
  · rintro ⟨rfl, hends⟩
    have hnone := ColumnType.canonical_eq_none_iff.2 (.inr hends.predates)
    exact .inl ⟨c, hc, .invalid hvalue hends.checked hnone, hends.before⟩

end Schema

theorem Users.create_eq_invalid_iff (u : Users) :
    u.create s salt supplied = .ok (.error (.invalidValue name expected)) ↔
      s.prepare salt supplied = .ok (.error (.invalidValue name expected)) := by
  unfold create
  rcases s.prepare salt supplied with fault | why | record
  · simp
  · simp
  · -- with a record the name may be taken, and nothing else goes wrong
    simp only [add]
    split
    · simp
    · simp

namespace Relational

/-- The server says nothing of values. -/
theorem insertionResult_ne_invalid (reply : Reply) :
    insertionResult reply ≠ .error (.invalidValue name expected) := by
  intro h
  unfold insertionResult at h
  split at h
  · cases h
  · split at h
    · cases h
    · cases h
  · cases h

theorem create_eq_invalid_iff (server : Statement → Reply) :
    (∃ dialogue, create s salt supplied = .ok dialogue ∧
        (dialogue.run server).2 = .error (.invalidValue name expected)) ↔
      s.prepare salt supplied = .ok (.error (.invalidValue name expected)) := by
  unfold create
  rcases s.prepare salt supplied with fault | why | record
  · simp
  · simp [Dialogue.run]
  · simp [Dialogue.run, insertionResult_ne_invalid]

end Relational

namespace Schema

/-- Values are stored exactly if they are accepted and do not predate the calendar, and the
defaults of a checked schema are accepted. A user who leaves a column with a default out is
refused for the value of that column, in memory and by the database alike, exactly if the
default predates the calendar and nothing is in the way of the columns before. -/
theorem default_refused_iff {table : TableDescription} (h : ofDescription table = .ok s)
    (salt : Password.Salt) (supplied : Fields) (u : Users) (server : Statement → Reply) :
    (∀ (t : ColumnType) (value : String) (stored : Option String),
        t.canonical value = .ok stored →
          (stored.isSome = true ↔ t.accepts value = true ∧ ¬t.Predates value)) ∧
      ∀ c ∈ s.columns, ∀ value, c.default = some value → supplied.get? c.name = none →
        (c.isPassword = false → c.type.accepts value = true) ∧
        ((∃ expected, s.prepare salt supplied = .ok (.error (.invalidValue c.name expected))) ↔
          s.DefaultEnds supplied c value) ∧
        ((∃ expected, u.create s salt supplied = .ok (.error (.invalidValue c.name expected))) ↔
          s.DefaultEnds supplied c value) ∧
        ((∃ expected dialogue, Relational.create s salt supplied = .ok dialogue ∧
            (dialogue.run server).2 = .error (.invalidValue c.name expected)) ↔
          s.DefaultEnds supplied c value) := by
  refine ⟨fun t value stored => ColumnType.isSome_canonical_iff,
    fun c hc value hdefault hleft => ?_⟩
  have haccepts : c.isPassword = false → c.type.accepts value = true := fun hpassword =>
    accepts_default h hc hpassword hdefault
  have hprepare : (∃ expected, s.prepare salt supplied =
      .ok (.error (.invalidValue c.name expected))) ↔ s.DefaultEnds supplied c value := by
    have hs := valid_of_ofDescription h
    simp only [hs.prepare_invalid_iff salt hc hdefault hleft haccepts, exists_eq_left]
  refine ⟨haccepts, hprepare, ?_, ?_⟩
  · simp only [u.create_eq_invalid_iff]
    exact hprepare
  · simp only [Relational.create_eq_invalid_iff]
    exact hprepare

/-- The first minute of the calendar as it is read a minute east of Greenwich, where it comes
a minute early. -/
def dawn : String := "0000-01-01T00:00:00+00:01"

/-- The elders of a village, born at the dawn of time unless they know better. -/
def eldersTable : TableDescription where
  name := "elders"
  columns :=
    { entries :=
        [("born", { type := "timestamp", default := some dawn }),
          ("password", { type := "text", required := true }),
          ("username", { type := "text", required := true })]
      sorted := by decide }

/-- When an elder was born. -/
def birthColumn : Column :=
  { Column.plain "born" .timestamp with default := some dawn }

/-- The schema of the elders. -/
def elders : Schema where
  table := "elders"
  autoCreate := false
  columns := [birthColumn, .needed "password" .text, readerColumn]
  username := readerColumn

theorem ofDescription_eldersTable : ofDescription eldersTable = .ok elders := rfl

/-- What an elder gives who does not know better. -/
def elderSupplied : Fields :=
  (NameMap.empty.insert "password" "oak").insert "username" "methuselah"

/-- No database makes an elder of somebody who leaves the birth out. -/
theorem default_refused_iff_elders :
    ofDescription eldersTable = .ok elders ∧ birthColumn ∈ elders.columns ∧
      birthColumn.default = some dawn ∧ elderSupplied.get? birthColumn.name = none ∧
      ∃ expected dialogue, Relational.create elders deskSalt elderSupplied = .ok dialogue ∧
        (dialogue.run fun _ => .rows []).2 = .error (.invalidValue "born" expected) := by
  obtain ⟨-, hdefaults⟩ := default_refused_iff ofDescription_eldersTable deskSalt elderSupplied
    Users.empty fun _ => .rows []
  have hmem : birthColumn ∈ elders.columns := List.mem_cons_self
  obtain ⟨-, -, -, hdatabase⟩ := hdefaults birthColumn hmem dawn rfl rfl
  have hpredates : birthColumn.type.Predates dawn :=
    ⟨rfl, .ofSeconds (-62167219260), Rfc3339.read?_eq_some_iff.1 rfl, by decide⟩
  have hfirst : ∀ earlier ∈ elders.columns, ¬earlier.name < birthColumn.name := by decide
  exact ⟨ofDescription_eldersTable, hmem, rfl, rfl, hdatabase.2 ⟨rfl, hpredates,
    fun earlier hearlier hlt => absurd hlt (hfirst earlier hearlier)⟩⟩

/-- The dawn of time is accepted as a time stamp and has no stored form, so that an elder who
leaves the birth out is refused for it in memory. -/
theorem elders_refused :
    ofDescription eldersTable = .ok elders ∧ ColumnType.timestamp.accepts dawn = true ∧
      ColumnType.timestamp.canonical dawn = .ok none ∧
      Users.empty.create elders deskSalt elderSupplied =
        .ok (.error (.invalidValue "born" .timestamp)) :=
  ⟨ofDescription_eldersTable, rfl, rfl, rfl⟩

end Schema

end BearerAuth
