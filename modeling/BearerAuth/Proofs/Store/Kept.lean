import BearerAuth.Proofs.Schema.ColumnType
import BearerAuth.Proofs.Store.Record

/-!
# What holds of a record that is kept

A prepared record fits its schema: it has the columns of the schema and no
others, nothing required is missing, and every value is one that its type has,
in the form in which it is stored. The password is there as a hash only.

- `Schema.Kept`: all of this, for the record of a user.
- `Schema.Valid.kept_of_prepare`: it holds of every prepared record.
-/

namespace BearerAuth

variable {salt : Password.Salt}

namespace Column

/-- What may be stored in a column: nothing where nothing is required, the hash
of a password, or a value of the type of the column in its stored form. -/
theorem of_stored {c : Column} {supplied stored : Option String}
    (h : c.stored salt supplied = .ok (.ok stored)) :
    (supplied.or c.default = none ∧ c.required = false ∧ stored = none) ∨
    (∃ plain, supplied.or c.default = some plain ∧ c.isPassword = true ∧
      stored = some (Password.hash salt plain)) ∨
    ∃ given value, supplied.or c.default = some given ∧ c.isPassword = false ∧
      stored = some value ∧ c.type.canonical given = .ok (some value) := by
  unfold Column.stored at h
  cases hgiven : supplied.or c.default with
  | none =>
    rw [hgiven] at h
    cases hrequired : c.required with
    | true =>
      rw [hrequired] at h
      cases h
    | false =>
      rw [hrequired] at h
      exact .inl ⟨rfl, rfl, (Except.ok.inj (Except.ok.inj h)).symm⟩
  | some given =>
    rw [hgiven] at h
    dsimp only at h
    split at h
    · next hpassword =>
      exact .inr (.inl ⟨given, rfl, hpassword, (Except.ok.inj (Except.ok.inj h)).symm⟩)
    · next hpassword =>
      split at h
      · cases h
      · cases h
      · next value hcanonical =>
        exact .inr (.inr ⟨given, value, rfl, Bool.eq_false_iff.2 hpassword,
          (Except.ok.inj (Except.ok.inj h)).symm, hcanonical⟩)

end Column

namespace Schema

/-- The record of a user fits the schema, and its password is the hash of the one
given. -/
structure Kept (s : Schema) (salt : Password.Salt) (supplied : Fields) (name : String)
    (record : Fields) : Prop where
  named : record.get? s.username.name = some name
  columns : ∀ other, record.contains other = true → other ∈ s.columns.map (·.name)
  required : ∀ c ∈ s.columns, c.required = true → record.contains c.name = true
  values : ∀ c ∈ s.columns, c.isPassword = false → ∀ value, record.get? c.name = some value →
    c.type.accepts value = true ∧ c.type.canonical value = .ok (some value)
  password : record.get? passwordColumn =
    (s.passwordGiven supplied).map fun plain => Password.hash salt plain

namespace Prepared

variable {s : Schema} {supplied record : Fields} (h : s.Prepared salt supplied record)
include h

/-- The name of a prepared record is what it has in the column for the name. -/
theorem get?_nameOf : record.get? s.username.name = some (s.nameOf record) := by
  obtain ⟨name, hname⟩ := h.named
  rw [nameOf, hname, Option.getD_some]

/-- Nothing required is missing: a prepared record has a value in every required column, its
own, the default or the hash of either. -/
theorem contains_required {c : Column} (hc : c ∈ s.columns) (hrequired : c.required = true) :
    record.contains c.name = true := by
  rw [NameMap.contains]
  rcases Column.of_stored (h.stored c hc) with ⟨-, hnot, -⟩ | ⟨plain, -, -, hvalue⟩ |
    ⟨given, value, -, -, hvalue, -⟩
  · rw [hrequired] at hnot
    cases hnot
  · rw [hvalue, Option.isSome_some]
  · rw [hvalue, Option.isSome_some]

/-- A value that is not a password is in the form in which its type stores values. -/
theorem canonical_value {c : Column} (hc : c ∈ s.columns) (hpassword : c.isPassword = false)
    {value : String} (hvalue : record.get? c.name = some value) :
    ∃ given, c.type.canonical given = .ok (some value) := by
  rcases Column.of_stored (h.stored c hc) with ⟨-, -, hnone⟩ | ⟨plain, -, hhashed, -⟩ |
    ⟨given, stored, -, -, hstored, hcanonical⟩
  · rw [hvalue] at hnone
    cases hnone
  · rw [hpassword] at hhashed
    cases hhashed
  · rw [hvalue] at hstored
    obtain rfl := Option.some.inj hstored
    exact ⟨given, hcanonical⟩

/-- What a prepared record has as a password is the hash of the one given, and nothing if
none was given. -/
theorem get?_password_eq :
    record.get? passwordColumn =
      (s.passwordGiven supplied).map fun plain => Password.hash salt plain := by
  cases hgiven : s.passwordGiven supplied with
  | some plain => exact h.get?_password hgiven
  | none =>
    rw [Option.map_none]
    cases hcolumn : s.column? passwordColumn with
    | none =>
      refine h.others passwordColumn fun hmem => ?_
      obtain ⟨c, hc, hname⟩ := List.mem_map.1 hmem
      have hnot := List.find?_eq_none.1 hcolumn c hc
      exact hnot (beq_iff_eq.2 hname)
    | some c =>
      -- the column is there, but no password for it
      obtain ⟨hc, hname⟩ := of_column? hcolumn
      rw [passwordGiven, hcolumn, Option.bind_some, ← hname] at hgiven
      rcases Column.of_stored (h.stored c hc) with ⟨-, -, hnone⟩ | ⟨plain, hplain, -⟩ |
        ⟨given, value, hvalue, -⟩
      · rw [← hname]
        exact hnone
      · rw [hgiven] at hplain
        cases hplain
      · rw [hgiven] at hvalue
        cases hvalue

/-- A prepared record fits its schema. -/
theorem kept : s.Kept salt supplied (s.nameOf record) record where
  named := h.get?_nameOf
  columns other hother := by
    refine Decidable.byContradiction fun hnot => ?_
    rw [NameMap.contains, h.others other hnot] at hother
    cases hother
  required c hc hrequired := h.contains_required hc hrequired
  values c hc hpassword value hvalue := by
    obtain ⟨given, hcanonical⟩ := h.canonical_value hc hpassword hvalue
    exact ⟨ColumnType.accepts_of_canonical hcanonical,
      ColumnType.canonical_of_canonical hcanonical⟩
  password := h.get?_password_eq

end Prepared

/-- A prepared record fits its schema, whatever was supplied for it. -/
theorem Valid.kept_of_prepare {s : Schema} (hs : s.Valid) {supplied record : Fields}
    (h : s.prepare salt supplied = .ok (.ok record)) :
    s.Kept salt supplied (s.nameOf record) record :=
  (hs.prepared_of_prepare h).kept

/-! ## A table -/

/-- The readers of a library: they go by a column called `username` that is not
flagged as the key, and no two are to have one address. -/
def readersTable : TableDescription where
  name := "readers"
  autoCreate := true
  columns :=
    { entries :=
        [("email", { type := "text", unique := true }),
          ("password", { type := "text", required := true, hidden := true }),
          ("since", { type := "timestamp" }),
          ("username", { type := "text", required := true })]
      sorted := by decide }

/-- The column that names a reader. -/
def readerColumn : Column :=
  .needed "username" .text

/-- The schema of the readers. -/
def readers : Schema where
  table := "readers"
  autoCreate := true
  columns :=
    [{ Column.plain "email" .text with unique := true },
      { Column.needed "password" .text with hidden := true },
      .plain "since" .timestamp,
      readerColumn]
  username := readerColumn

theorem ofDescription_readersTable : ofDescription readersTable = .ok readers := rfl

/-- What a reader signs up with at the desk: all of them give the address of the
desk. -/
def deskSupplied (username : String) : Fields :=
  (((NameMap.empty.insert "email" "desk@example.org").insert "password" "amazing").insert
    "since" "2024-05-01T12:00:00.25+02:00").insert "username" username

/-- The record of a reader who signed up at the desk: the day is kept in UTC. -/
def deskRecord (salt : Password.Salt) (username : String) : Fields :=
  (((NameMap.empty.insert "email" "desk@example.org").insert "password"
    (Password.hash salt "amazing")).insert "since" "2024-05-01T10:00:00.25Z").insert
    "username" username

/-- What is supplied at the desk is prepared under every name and with every salt. -/
theorem prepare_deskSupplied (salt : Password.Salt) (username : String) :
    readers.prepare salt (deskSupplied username) = .ok (.ok (deskRecord salt username)) := rfl

theorem nameOf_deskRecord (salt : Password.Salt) (username : String) :
    readers.nameOf (deskRecord salt username) = username := rfl

/-- The salt under which passwords are hashed at the desk. -/
def deskSalt : Password.Salt := Vector.replicate 16 7

end Schema

end BearerAuth
