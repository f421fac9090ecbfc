import BearerAuth.Proofs.Store.Insertions
import BearerAuth.Proofs.Store.Preparation
import BearerAuth.Proofs.Store.Repeats
import BearerAuth.Proofs.Store.Users

/-!
# Values that fit their columns

What a record has in a column is a value of the type of the column, with one exception. A
password is stored as a hash, whatever the type of its column is, and a hash is a text and
a value of no other type. In memory that makes no difference. A database, however, casts
every value to the type of its column, and then it has no place for a hash in a column of
another type: if every user has a password, there is no user that it stores.

- `ColumnType.accepts_hash_iff`: the types of which a hash is a value.
- `Column.Misfit`, `Schema.Fills`: the columns that no hash fits, and those in which every
  user has a value.
- `Statement.Misfits`, `Relational.Casts`: an insertion with a value that cannot be cast,
  and a server that refuses all of these.
- `Relational.values_fit_iff`: the values that fit, and the schemas for which no user is
  stored in a database.
- `Relational.lockers_refused`: one of these schemas.
-/

namespace BearerAuth

namespace ColumnType

/-! ## Hashes -/

section

variable {value : String} {rest : List Char} (h : value.toList = '$' :: rest)
include h

theorem not_integer_of_dollar : integer.accepts value = false := by
  show (Text.Range.int32.readList value.toList).isOk = false
  rw [h]
  rfl

theorem not_boolean_of_dollar : boolean.accepts value = false := by
  show isTruthValue value = false
  rw [isTruthValue, h]
  rfl

/-- No digits of an identifier begin with the sign of a hash. -/
theorem not_uuid_of_dollar : uuid.accepts value = false := by
  have hdigit : Text.Uuid.isHexDigit '$' = false := by decide
  have hsimple : Text.Uuid.isSimple ('$' :: rest) = false := by
    rw [Text.Uuid.isSimple, List.all_cons, hdigit, Bool.false_and, Bool.and_false]
  have hhyphenated : Text.Uuid.isHyphenated ('$' :: rest) = false := by
    rw [Text.Uuid.isHyphenated, Text.Uuid.isGrouped, List.take_succ_cons, List.all_cons, hdigit,
      Bool.false_and, Bool.and_false, Bool.false_and, Bool.false_and]
    exact List.cons_ne_nil 4 [4, 4, 12]
  show Text.Uuid.accepts value = false
  rw [Text.Uuid.accepts, h, hsimple, hhyphenated]
  rfl

/-- No document begins with the sign of a hash. -/
theorem not_jsonb_of_dollar : jsonb.accepts value = false := by
  have hvalue : value = String.ofList ('$' :: rest) := by
    rw [← h, String.ofList_toList]
  have hbytes : Text.utf8 value = 0x24 :: Text.utf8 (String.ofList rest) := by
    rw [hvalue, Text.utf8_ofList_cons]
    rfl
  show Json.isData (Text.utf8 value) = false
  rw [hbytes, Json.isData, Json.read?, Json.value?]
  rfl

/-- No stamp begins with the sign of a hash. -/
theorem not_timestamp_of_dollar : timestamp.accepts value = false := by
  show (Time.Rfc3339.readList? value.toList).isSome = false
  rw [h]
  unfold Time.Rfc3339.readList?
  split
  · next heq =>
    cases heq
    rfl
  · rfl

/-- What begins with a dollar sign is a text only. -/
theorem accepts_dollar_iff (t : ColumnType) : t.accepts value = true ↔ t = .text := by
  cases t with
  | text => exact iff_of_true rfl rfl
  | integer => simp [not_integer_of_dollar h]
  | boolean => simp [not_boolean_of_dollar h]
  | uuid => simp [not_uuid_of_dollar h]
  | jsonb => simp [not_jsonb_of_dollar h]
  | timestamp => simp [not_timestamp_of_dollar h]

end

/-- The hash of a password is a text, and a value of no other type. -/
theorem accepts_hash_iff (t : ColumnType) (salt : Password.Salt) (plain : String) :
    t.accepts (Password.hash salt plain) = true ↔ t = .text :=
  accepts_dollar_iff String.toList_ofList t

theorem sqlType_injective {t u : ColumnType} (h : t.sqlType = u.sqlType) : t = u := by
  revert h
  cases t <;> cases u <;> decide

end ColumnType

/-- The column is for hashes, and its type has none. -/
def Column.Misfit (c : Column) : Prop :=
  c.isPassword = true ∧ c.type ≠ .text

instance (c : Column) : Decidable c.Misfit :=
  inferInstanceAs (Decidable (_ ∧ _))

namespace Schema

variable {s : Schema} {salt : Password.Salt} {supplied record : Fields} {c : Column}

/-- All values of a record are values of the types of their columns, but for hashes. -/
theorem Valid.accepts_iff (hs : s.Valid) (h : s.prepare salt supplied = .ok (.ok record))
    (hc : c ∈ s.columns) {value : String} (hvalue : record.get? c.name = some value) :
    c.type.accepts value = true ↔ ¬c.Misfit := by
  have hkept := hs.kept_of_prepare h
  by_cases hpassword : c.isPassword = true
  · have hhash := hkept.password
    rw [← beq_iff_eq.1 hpassword, hvalue] at hhash
    obtain ⟨plain, -, rfl⟩ := Option.map_eq_some_iff.1 hhash.symm
    rw [ColumnType.accepts_hash_iff, Column.Misfit, and_iff_right hpassword, not_not]
  · have haccepts := (hkept.values c hc (Bool.eq_false_iff.2 hpassword) value hvalue).1
    exact iff_of_true haccepts fun hmisfit => hpassword hmisfit.1

/-! ## Columns that are never left out -/

/-- Every user has a value in the column: it is required or has a default, or it names the
users. -/
def Fills (s : Schema) (c : Column) : Prop :=
  c.required = true ∨ c.default ≠ none ∨ c = s.username

instance (s : Schema) (c : Column) : Decidable (s.Fills c) :=
  inferInstanceAs (Decidable (_ ∨ _ ∨ _))

/-- A column that is always filled has a value in every prepared record. -/
theorem Valid.contains_of_fills (hs : s.Valid) (h : s.prepare salt supplied = .ok (.ok record))
    (hc : c ∈ s.columns) (hfills : s.Fills c) : record.contains c.name = true := by
  have hprepared := hs.prepared_of_prepare h
  rcases hfills with hrequired | hdefault | rfl
  · exact hprepared.contains_required hc hrequired
  · obtain ⟨default, hdefault⟩ := Option.ne_none_iff_exists'.1 hdefault
    refine (hprepared.contains_iff hc).2 ?_
    cases hsupplied : supplied.get? c.name with
    | none => exact ⟨default, .default hsupplied hdefault⟩
    | some value => exact ⟨value, .supplied hsupplied⟩
  · exact Option.isSome_iff_exists.2 hprepared.named

/-- Any other column can be left out. -/
theorem Valid.exists_without (hs : s.Valid) (hc : c ∈ s.columns) (hnot : ¬s.Fills c) :
    ∃ salt supplied record, s.prepare salt supplied = .ok (.ok record) ∧
      record.contains c.name = false := by
  rw [Fills, not_or, not_or, not_ne_iff] at hnot
  obtain ⟨hrequired, hdefault, hname⟩ := hnot
  -- a sample for every column but this one
  let supplied := (s.samples fun _ => false).erase c.name
  have hunused : ∀ value, ¬c.Uses supplied value := by
    intro value hvalue
    rw [Column.uses_iff, NameMap.get?_erase_self, Option.none_or, hdefault] at hvalue
    cases hvalue
  have hused : ∀ d ∈ s.columns, d ≠ c → ∀ value, d.Uses supplied value ↔
      value = d.type.sample false := by
    intro d hd hne value
    have hdname : d.name ≠ c.name := fun heq => hne (hs.eq_of_name_eq hd hc heq)
    rw [Column.uses_iff, NameMap.get?_erase_of_ne _ hdname, hs.get?_samples _ hd,
      Option.some_or, Option.some.injEq, eq_comm]
  have hpasses : ∀ d ∈ s.columns, d.Passes supplied := by
    intro d hd
    rw [Column.passes_iff]
    by_cases hdc : d = c
    · subst hdc
      exact ⟨fun h => absurd h hrequired, fun _ value hvalue => absurd hvalue (hunused value)⟩
    · refine ⟨fun _ => ⟨_, (hused d hd hdc _).2 rfl⟩, fun _ value hvalue => ?_⟩
      rw [(hused d hd hdc value).1 hvalue]
      exact ⟨_, d.type.canonical_sample false⟩
  have hnamed : ∃ value, s.username.Uses supplied value :=
    ⟨_, (hused _ hs.username_mem (Ne.symm hname) _).2 rfl⟩
  obtain ⟨record, hprepare⟩ := (hs.exists_prepare_iff (sampleSalt false)).2 ⟨hpasses, hnamed⟩
  refine ⟨_, _, record, hprepare, Bool.eq_false_iff.2 fun hcontains => ?_⟩
  obtain ⟨value, hvalue⟩ := ((hs.prepared_of_prepare hprepare).contains_iff hc).1 hcontains
  exact hunused value hvalue

end Schema

open Sql

/-! ## Casts -/

/-- The value is one of the type that it is cast to. -/
def Sql.Assignment.Fits (a : Assignment) : Prop :=
  ∀ t : ColumnType, t.sqlType = a.type → t.accepts a.value = true

/-- The statement inserts a value that is none of the type that it is cast to. -/
def Statement.Misfits (statement : Statement) : Prop :=
  ∃ ts row, statements? statement.text = some [ts] ∧ row? statement.parameters ts = some row ∧
    ∃ a ∈ row.cells, ¬a.Fits

/-- A value fits into the column of an insertion if the type of the column accepts it. -/
theorem Sql.fits_assignment_iff (c : Column) (value : String) :
    (assignment (c, value)).Fits ↔ c.type.accepts value = true := by
  refine ⟨fun h => h c.type rfl, fun h t ht => ?_⟩
  rw [ColumnType.sqlType_injective ht]
  exact h

namespace Relational

variable {table : TableDescription} {s : Schema}

/-- A server that casts every value, and so refuses insertions with a value that cannot be
cast. -/
def Casts (server : Statement → Reply) : Prop :=
  ∀ statement : Statement, statement.Misfits → ∃ why, server statement = .failed why

/-- No server that casts every value ever stores a user. -/
def StoresNone (s : Schema) : Prop :=
  ∀ server, Casts server → ∀ salt supplied dialogue, create s salt supplied = .ok dialogue →
    (dialogue.run server).2 ≠ .ok ()

/-- An insertion has a value that does not fit if there is a hash in a column that is not of
texts: all other values are ones that their types accept. -/
theorem misfits_insertion_iff (hs : Schema.ofDescription table = .ok s) {salt : Password.Salt}
    {supplied record : Fields} (h : s.prepare salt supplied = .ok (.ok record)) :
    (insertion s record).Misfits ↔
      ∃ c ∈ s.columns, c.Misfit ∧ record.contains c.name = true := by
  have hvalid := Schema.valid_of_ofDescription hs
  obtain ⟨ts, htokens, hrow⟩ := row?_insertion hs (present_ne_nil hvalid h)
  constructor
  · rintro ⟨us, row, hus, hus', a, ha, hnot⟩
    rw [htokens] at hus
    cases hus
    rw [hrow] at hus'
    cases hus'
    obtain ⟨⟨c, value⟩, hheld, rfl⟩ := List.mem_map.1 ha
    obtain ⟨hc, hvalue⟩ := mem_present hheld
    rw [fits_assignment_iff, hvalid.accepts_iff h hc hvalue, not_not] at hnot
    exact ⟨c, hc, hnot, Option.isSome_iff_exists.2 ⟨value, hvalue⟩⟩
  · rintro ⟨c, hc, hmisfit, hcontains⟩
    obtain ⟨value, hvalue⟩ := Option.isSome_iff_exists.1 hcontains
    refine ⟨ts, _, htokens, hrow, _, List.mem_map_of_mem (mem_present_of_get? hc hvalue), ?_⟩
    rw [fits_assignment_iff, hvalid.accepts_iff h hc hvalue, not_not]
    exact hmisfit

/-- A failed insertion is not taken for a user who was created. -/
theorem insertionResult_failed_ne (why : DatabaseError) :
    insertionResult (.failed why) ≠ .ok () := by
  intro h
  unfold insertionResult at h
  split at h
  · next heq => cases heq
  · split at h <;> cases h
  · cases h

/-- A column that no hash fits and in which every user has one leaves no user to be
stored. -/
theorem storesNone_of_misfit (hs : Schema.ofDescription table = .ok s) {c : Column}
    (hc : c ∈ s.columns) (hmisfit : c.Misfit) (hfills : s.Fills c) : StoresNone s := by
  intro server hcasts salt supplied dialogue hcreate hstored
  rcases hprepare : s.prepare salt supplied with fault | why | record
  · rw [create, hprepare] at hcreate
    cases hcreate
  · rw [create, hprepare] at hcreate
    cases hcreate
    cases hstored
  · have hcontains := (Schema.valid_of_ofDescription hs).contains_of_fills hprepare hc hfills
    obtain ⟨why, hrefused⟩ :=
      hcasts _ ((misfits_insertion_iff hs hprepare).2 ⟨c, hc, hmisfit, hcontains⟩)
    obtain ⟨same, hsame, hresult⟩ := create_of_prepare hprepare server
    obtain rfl := Except.ok.inj (hcreate.symm.trans hsame)
    rw [hresult, hrefused] at hstored
    exact insertionResult_failed_ne why hstored

/-- If no column is like that, there is a user whose values all fit. -/
theorem exists_fitting (hs : Schema.ofDescription table = .ok s)
    (hnone : ∀ c ∈ s.columns, c.Misfit → ¬s.Fills c) :
    ∃ salt supplied record, s.prepare salt supplied = .ok (.ok record) ∧
      ¬(insertion s record).Misfits := by
  have hvalid := Schema.valid_of_ofDescription hs
  by_cases hmisfit : ∃ c ∈ s.columns, c.Misfit
  · obtain ⟨c, hc, hmisfit⟩ := hmisfit
    obtain ⟨salt, supplied, record, hprepare, hwithout⟩ :=
      hvalid.exists_without hc (hnone c hc hmisfit)
    refine ⟨salt, supplied, record, hprepare, fun hmisfits => ?_⟩
    obtain ⟨d, hd, hdmisfit, hcontains⟩ := (misfits_insertion_iff hs hprepare).1 hmisfits
    -- there is one column for the password only
    have hname : d.name = c.name := by
      rw [beq_iff_eq.1 hdmisfit.1, beq_iff_eq.1 hmisfit.1]
    rw [hname, hwithout] at hcontains
    cases hcontains
  · obtain ⟨record, hprepare, -⟩ := hvalid.prepare_samples fun _ => false
    refine ⟨_, _, record, hprepare, fun hmisfits => ?_⟩
    obtain ⟨c, hc, hcmisfit, -⟩ := (misfits_insertion_iff hs hprepare).1 hmisfits
    exact hmisfit ⟨c, hc, hcmisfit⟩

/-- A database stores nobody of a schema if a column that is always filled holds hashes that
do not fit into it. -/
theorem storesNone_iff (hs : Schema.ofDescription table = .ok s) :
    StoresNone s ↔ ∃ c ∈ s.columns, c.Misfit ∧ s.Fills c := by
  constructor
  · intro hnone
    refine Decidable.byContradiction fun hnot => ?_
    obtain ⟨salt, supplied, record, hprepare, hfits⟩ :=
      exists_fitting hs fun c hc hmisfit hfills => hnot ⟨c, hc, hmisfit, hfills⟩
    have hcasts : Casts (refusingOthers s record) := by
      intro statement hmisfits
      refine ⟨_, if_neg ?_⟩
      rintro rfl
      exact hfits hmisfits
    obtain ⟨dialogue, hcreate, hresult⟩ := create_of_prepare hprepare (refusingOthers s record)
    rw [refusingOthers, if_pos rfl] at hresult
    exact hnone _ hcasts salt supplied dialogue hcreate hresult
  · rintro ⟨c, hc, hmisfit, hfills⟩
    exact storesNone_of_misfit hs hc hmisfit hfills

/-- A value of a record is one of the type of its column, unless it is a hash and the type
is not that of texts. Only then is there a value in the insertion of the record that cannot
be cast. Every schema has users in memory; but if there is a column that no hash fits and in
which every user has one, and only then, no server that casts its values stores any. -/
theorem values_fit_iff (hs : Schema.ofDescription table = .ok s) :
    (∀ salt supplied record, s.prepare salt supplied = .ok (.ok record) →
      (∀ c ∈ s.columns, ∀ value, record.get? c.name = some value →
        (c.type.accepts value = true ↔ ¬c.Misfit)) ∧
      ((insertion s record).Misfits ↔
        ∃ c ∈ s.columns, c.Misfit ∧ record.contains c.name = true)) ∧
    (∃ salt supplied users, Users.empty.create s salt supplied = .ok (.ok users)) ∧
    (StoresNone s ↔ ∃ c ∈ s.columns, c.Misfit ∧ s.Fills c) := by
  have hvalid := Schema.valid_of_ofDescription hs
  refine ⟨fun salt supplied record hprepare => ⟨?_, misfits_insertion_iff hs hprepare⟩, ?_,
    storesNone_iff hs⟩
  · intro c hc value hvalue
    exact hvalid.accepts_iff hprepare hc hvalue
  · obtain ⟨record, hprepare, -⟩ := hvalid.prepare_samples fun _ => false
    exact ⟨_, _, _, Users.create_eq_ok_iff.2 ⟨record, hprepare, rfl, rfl⟩⟩

/-- The readers have passwords that fit, and so they can be stored. -/
theorem values_fit_iff_readers :
    Schema.ofDescription Schema.readersTable = .ok Schema.readers ∧
      ¬StoresNone Schema.readers := by
  obtain ⟨-, -, hnone⟩ := values_fit_iff Schema.ofDescription_readersTable
  refine ⟨Schema.ofDescription_readersTable, ?_⟩
  rw [hnone]
  decide

/-! ## A table -/

/-- Lockers with numbers, and with what is taken for numbers to open them. -/
def lockersTable : TableDescription where
  name := "lockers"
  columns :=
    { entries :=
        [("password", { type := "int", required := true }),
          ("username", { type := "text", primaryKey := true, required := true })]
      sorted := by decide }

/-- The column for the number that opens a locker. -/
def numberColumn : Column :=
  .needed "password" .integer

/-- The schema of the lockers. -/
def lockers : Schema where
  table := "lockers"
  autoCreate := false
  columns := [numberColumn, .key "username" .text]
  username := .key "username" .text

/-- What is supplied for a locker. -/
def lockerSupplied : Fields :=
  (NameMap.empty.insert "password" "4711").insert "username" "ada"

/-- The description of the lockers passes the check, and in memory there is a locker that
opens with a number. What is kept for the number is not a number, and no locker is ever stored
by a server that casts its values. -/
theorem lockers_refused :
    Schema.ofDescription lockersTable = .ok lockers ∧
      (∃ record users, lockers.prepare Schema.deskSalt lockerSupplied = .ok (.ok record) ∧
        Users.empty.create lockers Schema.deskSalt lockerSupplied = .ok (.ok users) ∧
        ∃ value, record.get? numberColumn.name = some value ∧
          numberColumn.type.accepts value = false) ∧
      StoresNone lockers := by
  have hs : Schema.ofDescription lockersTable = .ok lockers := rfl
  have hmisfit : numberColumn.Misfit := ⟨rfl, by decide⟩
  have hprepare : lockers.prepare Schema.deskSalt lockerSupplied = .ok (.ok
      ((NameMap.empty.insert "password" (Password.hash Schema.deskSalt "4711")).insert
        "username" "ada")) := rfl
  refine ⟨hs, ⟨_, _, hprepare, Users.create_eq_ok_iff.2 ⟨_, hprepare, rfl, rfl⟩,
    Password.hash Schema.deskSalt "4711", rfl, ?_⟩,
    storesNone_of_misfit hs List.mem_cons_self hmisfit (.inl rfl)⟩
  rw [Bool.eq_false_iff, Ne, ColumnType.accepts_hash_iff]
  exact hmisfit.2

end Relational

end BearerAuth
