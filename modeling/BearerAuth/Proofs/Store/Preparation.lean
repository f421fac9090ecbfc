import BearerAuth.Proofs.Schema.TimeStamp
import BearerAuth.Proofs.Store.Kept

/-!
# What becomes of the values supplied

A record is made column by column, and each column has a value that is used for it or none:
the one supplied, or else the default. What is in the way of a record is said here of one
column by itself, in no order, and the first column for which something is in the way decides
what becomes of them all.

- `Column.Uses`: the value that is used for a column.
- `Column.Offends`, `Column.Overflows`: the failure of a column, and that its value is a time
  after the calendar.
- `Schema.First`: a column is the first one, in byte order of the names, for which anything
  is in the way.
- `Schema.Valid.prepare_eq_fault_iff`, `Schema.Valid.prepare_eq_refused_iff`,
  `Schema.Valid.exists_prepare_iff`: every way in which the preparation of a record ends.
- `Schema.Fulfils`: what a record has, by columns.
- `Schema.prepare_contract`: the preparation of a record when no time is after the calendar.
-/

namespace BearerAuth

open Time

variable {salt : Password.Salt} {supplied : Fields}

namespace Column

/-! ## One column -/

/-- The value that is used for a column: the one supplied, and the default only where none
is supplied. -/
inductive Uses (c : Column) (supplied : Fields) : String → Prop
  | supplied {value : String} (h : supplied.get? c.name = some value) : Uses c supplied value
  | default {value : String} (hnone : supplied.get? c.name = none)
      (h : c.default = some value) : Uses c supplied value

/-- What a store says against the values supplied, for the sake of one column: it is required
and has no value, or the type has no stored form of the value. The password is not looked
at. -/
inductive Offends (c : Column) (supplied : Fields) : StoreError → Prop
  | missing (hrequired : c.required = true) (hnone : ∀ value, ¬c.Uses supplied value) :
      Offends c supplied (.missingField c.name)
  | invalid {value : String} (huses : c.Uses supplied value) (hpassword : c.isPassword = false)
      (hnone : c.type.canonical value = .ok none) :
      Offends c supplied (.invalidValue c.name c.type)

/-- The stored form of the value would be a time after the calendar. -/
def Overflows (c : Column) (supplied : Fields) : Prop :=
  ∃ value, c.Uses supplied value ∧ c.isPassword = false ∧ c.type.canonical value = .error .mk

/-- Nothing is in the way of the column. -/
def Passes (c : Column) (supplied : Fields) : Prop :=
  (∀ why, ¬c.Offends supplied why) ∧ ¬c.Overflows supplied

variable {c : Column} {value : String}

/-- The value that is used is the one that was supplied, or else the default. -/
theorem uses_iff : c.Uses supplied value ↔ (supplied.get? c.name).or c.default = some value := by
  constructor
  · intro h
    cases h with
    | supplied h => rw [h, Option.some_or]
    | default hnone h => rw [hnone, Option.none_or, h]
  · intro h
    cases hsupplied : supplied.get? c.name with
    | some given =>
      rw [hsupplied, Option.some_or] at h
      exact .supplied (hsupplied.trans h)
    | none =>
      rw [hsupplied, Option.none_or] at h
      exact .default hsupplied h

/-- One value is used. -/
theorem Uses.unique {other : String} (h : c.Uses supplied value) (h' : c.Uses supplied other) :
    value = other :=
  Option.some.inj ((uses_iff.1 h).symm.trans (uses_iff.1 h'))

/-- Only time stamps can be after the calendar. -/
theorem overflows_iff :
    c.Overflows supplied ↔
      c.type = .timestamp ∧ c.isPassword = false ∧
        ∃ value t, c.Uses supplied value ∧ Rfc3339.Denotes value t ∧ 9999 < t.date.year := by
  simp only [Overflows, ColumnType.canonical_eq_fault_iff]
  constructor
  · rintro ⟨value, hvalue, hpassword, htype, t, ht, hlate⟩
    exact ⟨htype, hpassword, value, t, hvalue, ht, hlate⟩
  · rintro ⟨htype, hpassword, value, t, hvalue, ht, hlate⟩
    exact ⟨value, hvalue, hpassword, htype, t, ht, hlate⟩

/-- A value that is used is stored as a hash for a password, else in the stored form of its
type if it has one. -/
theorem stored_of_uses (h : c.Uses supplied value) :
    c.stored salt (supplied.get? c.name) =
      if c.isPassword then .ok (.ok (some (Password.hash salt value)))
      else
        match c.type.canonical value with
        | .error fault => .error fault
        | .ok none => .ok (.error (.invalidValue c.name c.type))
        | .ok (some text) => .ok (.ok (some text)) := by
  unfold stored
  generalize hused : (supplied.get? c.name).or c.default = used
  obtain rfl : some value = used := (uses_iff.1 h).symm.trans hused
  rfl

theorem stored_of_not_uses (h : ∀ value, ¬c.Uses supplied value) :
    c.stored salt (supplied.get? c.name) =
      .ok (if c.required then .error (.missingField c.name) else .ok none) := by
  have hnone : (supplied.get? c.name).or c.default = none := by
    rw [Option.eq_none_iff_forall_ne_some]
    intro value hvalue
    exact h value (uses_iff.2 hvalue)
  rw [stored, hnone]

/-- Storing does not return for a time stamp that overflows the calendar, and for nothing
else. -/
theorem stored_eq_fault_iff (salt : Password.Salt) :
    c.stored salt (supplied.get? c.name) = .error .mk ↔ c.Overflows supplied := by
  constructor
  · intro h
    by_cases hused : ∃ value, c.Uses supplied value
    · obtain ⟨value, hvalue⟩ := hused
      rw [stored_of_uses hvalue] at h
      split at h
      · cases h
      next hpassword =>
      split at h
      · next hcanonical => exact ⟨value, hvalue, Bool.eq_false_iff.2 hpassword, hcanonical⟩
      · cases h
      · cases h
    · rw [stored_of_not_uses (not_exists.1 hused)] at h
      cases h
  · rintro ⟨value, hvalue, hpassword, hcanonical⟩
    rw [stored_of_uses hvalue, if_neg (Bool.eq_false_iff.1 hpassword), hcanonical]

/-- Storing is refused for a value that is missing, or has no stored form. -/
theorem stored_eq_refused_iff (salt : Password.Salt) {why : StoreError} :
    c.stored salt (supplied.get? c.name) = .ok (.error why) ↔ c.Offends supplied why := by
  constructor
  · intro h
    by_cases hused : ∃ value, c.Uses supplied value
    · obtain ⟨value, hvalue⟩ := hused
      rw [stored_of_uses hvalue] at h
      split at h
      · cases h
      next hpassword =>
      split at h
      · cases h
      · next hcanonical =>
        cases h
        exact .invalid hvalue (Bool.eq_false_iff.2 hpassword) hcanonical
      · cases h
    · have hnone := not_exists.1 hused
      rw [stored_of_not_uses hnone] at h
      split at h
      · next hrequired =>
        cases h
        exact .missing hrequired hnone
      · cases h
  · intro h
    cases h with
    | missing hrequired hnone => rw [stored_of_not_uses hnone, if_pos hrequired]
    | invalid hvalue hpassword hcanonical =>
      rw [stored_of_uses hvalue, if_neg (Bool.eq_false_iff.1 hpassword), hcanonical]

/-- Something or nothing is stored if the column passes. -/
theorem exists_stored_iff (salt : Password.Salt) :
    (∃ value, c.stored salt (supplied.get? c.name) = .ok (.ok value)) ↔ c.Passes supplied := by
  rw [Passes, ← stored_eq_fault_iff salt]
  simp only [← stored_eq_refused_iff salt]
  rcases c.stored salt (supplied.get? c.name) with fault | why | value
  · simp
  · simp
  · simp

/-- Nothing is in the way of a column that has the value it requires, if the type has a
stored form of it. -/
theorem passes_iff :
    c.Passes supplied ↔
      (c.required = true → ∃ value, c.Uses supplied value) ∧
        (c.isPassword = false → ∀ value, c.Uses supplied value →
          ∃ text, c.type.canonical value = .ok (some text)) := by
  constructor
  · rintro ⟨hoffends, hoverflows⟩
    refine ⟨fun hrequired => ?_, fun hpassword value hvalue => ?_⟩
    · by_contra hnone
      exact hoffends _ (.missing hrequired (not_exists.1 hnone))
    · rcases hcanonical : c.type.canonical value with fault | _ | text
      · exact absurd ⟨value, hvalue, hpassword, hcanonical⟩ hoverflows
      · exact absurd (.invalid hvalue hpassword hcanonical) (hoffends _)
      · exact ⟨text, rfl⟩
  · rintro ⟨hrequired, hvalues⟩
    refine ⟨fun why hwhy => ?_, fun hoverflows => ?_⟩
    · cases hwhy with
      | missing hneeded hnone =>
        obtain ⟨value, hvalue⟩ := hrequired hneeded
        exact hnone value hvalue
      | invalid hvalue hpassword hcanonical =>
        obtain ⟨text, htext⟩ := hvalues hpassword _ hvalue
        rw [hcanonical] at htext
        cases htext
    · obtain ⟨value, hvalue, hpassword, hcanonical⟩ := hoverflows
      obtain ⟨text, htext⟩ := hvalues hpassword value hvalue
      rw [hcanonical] at htext
      cases htext

/-- Something is stored in a column exactly if a value is used for it. -/
theorem isSome_stored_iff {held : Option String}
    (h : c.stored salt (supplied.get? c.name) = .ok (.ok held)) :
    held.isSome = true ↔ ∃ value, c.Uses supplied value := by
  by_cases hused : ∃ value, c.Uses supplied value
  · obtain ⟨value, hvalue⟩ := hused
    refine iff_of_true ?_ ⟨value, hvalue⟩
    rw [stored_of_uses hvalue] at h
    split at h
    · cases h
      rfl
    · split at h
      · cases h
      · cases h
      · cases h
        rfl
  · refine iff_of_false ?_ hused
    rw [stored_of_not_uses (not_exists.1 hused)] at h
    split at h
    · cases h
    · cases h
      exact Bool.false_ne_true

end Column

namespace Schema

/-! ## All columns -/

variable {s : Schema} {c : Column} {rest : List Column} {P : Column → Prop}

/-- The columns have one of a kind, and before it, in byte order of the names, none for which
anything is in the way. -/
def First (columns : List Column) (supplied : Fields) (P : Column → Prop) : Prop :=
  ∃ c ∈ columns, P c ∧ ∀ earlier ∈ columns, earlier.name < c.name → earlier.Passes supplied

theorem not_first_nil : ¬First [] supplied P := by
  rintro ⟨c, hc, -⟩
  cases hc

/-- The first column that does not pass is the head, or the head passes and it is the first
one of the rest. -/
theorem first_cons_iff (h : (c :: rest).Pairwise (·.name < ·.name)) :
    First (c :: rest) supplied P ↔ P c ∨ c.Passes supplied ∧ First rest supplied P := by
  obtain ⟨hhead, -⟩ := List.pairwise_cons.1 h
  constructor
  · rintro ⟨d, hd, hP, hbefore⟩
    rcases List.mem_cons.1 hd with rfl | hd
    · exact .inl hP
    · exact .inr ⟨hbefore c List.mem_cons_self (hhead d hd), d, hd, hP,
        fun earlier hmem => hbefore earlier (List.mem_cons_of_mem _ hmem)⟩
  · rintro (hP | ⟨hpasses, d, hd, hP, hbefore⟩)
    · refine ⟨c, List.mem_cons_self, hP, fun earlier hmem hlt => ?_⟩
      rcases List.mem_cons.1 hmem with rfl | hmem
      · exact absurd hlt (String.lt_irrefl _)
      · exact absurd hlt (String.lt_asymm (hhead earlier hmem))
    · refine ⟨d, List.mem_cons_of_mem _ hd, hP, fun earlier hmem hlt => ?_⟩
      rcases List.mem_cons.1 hmem with rfl | hmem
      · exact hpasses
      · exact hbefore earlier hmem hlt

/-- Columns are filled in order, until one does not pass. -/
theorem fill_cons (c : Column) (rest : List Column) (record : Fields) :
    fill salt supplied (c :: rest) record =
      match c.stored salt (supplied.get? c.name) with
      | .error fault => .error fault
      | .ok (.error why) => .ok (.error why)
      | .ok (.ok value) => fill salt supplied rest (keep record c.name value) := by
  rw [fill]
  rcases c.stored salt (supplied.get? c.name) with fault | why | _ | text
  · rfl
  · rfl
  · rfl
  · rfl

/-- Filling ends early, with a fault or a failure, exactly if the first column for which
anything is in the way ends with the same. -/
theorem fill_eq_halt_iff (salt : Password.Salt) {columns : List Column}
    (h : columns.Pairwise (·.name < ·.name)) (record : Fields) (halt : Checked StoreError) :
    fill salt supplied columns record = halt.map .error ↔
      First columns supplied fun c =>
        c.stored salt (supplied.get? c.name) = halt.map .error := by
  induction columns generalizing record with
  | nil =>
    refine iff_of_false (fun heq => ?_) not_first_nil
    rcases halt with fault | why
    · cases heq
    · cases heq
  | cons c rest ih =>
    have hrest := (List.pairwise_cons.1 h).2
    rw [fill_cons, first_cons_iff h, ← Column.exists_stored_iff salt]
    rcases c.stored salt (supplied.get? c.name) with fault | why | value
    · cases halt <;> simp [Except.map]
    · cases halt <;> simp [Except.map]
    · -- a column that passes is not where it ends
      rw [← ih hrest (keep record c.name value)]
      cases halt <;> simp [Except.map]

/-- The first column for which anything is in the way ends the filling: with a fault if its
value is a time after the calendar. -/
theorem fill_eq_fault_iff (salt : Password.Salt) {columns : List Column}
    (h : columns.Pairwise (·.name < ·.name)) (record : Fields) :
    fill salt supplied columns record = .error .mk ↔
      First columns supplied (·.Overflows supplied) := by
  simp only [← Column.stored_eq_fault_iff salt]
  exact fill_eq_halt_iff salt h record (.error .mk)

/-- The first column for which anything is in the way ends the filling: with its failure if
it has one. -/
theorem fill_eq_refused_iff (salt : Password.Salt) {columns : List Column}
    (h : columns.Pairwise (·.name < ·.name)) (record : Fields) {why : StoreError} :
    fill salt supplied columns record = .ok (.error why) ↔
      First columns supplied (·.Offends supplied why) := by
  simp only [← Column.stored_eq_refused_iff salt]
  exact fill_eq_halt_iff salt h record (.ok why)

/-- Filling comes to its end if nothing is in the way of any column. -/
theorem exists_fill_iff (salt : Password.Salt) {columns : List Column} (record : Fields) :
    (∃ filled, fill salt supplied columns record = .ok (.ok filled)) ↔
      ∀ c ∈ columns, c.Passes supplied := by
  induction columns generalizing record with
  | nil => exact iff_of_true ⟨record, rfl⟩ fun c hc => absurd hc List.not_mem_nil
  | cons c rest ih =>
    rw [List.forall_mem_cons, fill_cons, ← Column.exists_stored_iff salt]
    rcases c.stored salt (supplied.get? c.name) with fault | why | value
    · simp
    · simp
    · simp [ih]

/-! ## Records -/

/-- What a record has for the values supplied: the columns for which a value is used and no
others, with the stored forms of these values, and the hash of the password. -/
structure Fulfils (s : Schema) (salt : Password.Salt) (supplied record : Fields) : Prop where
  columns : ∀ name, record.contains name = true ↔
    ∃ c ∈ s.columns, c.name = name ∧ ∃ value, c.Uses supplied value
  values : ∀ c ∈ s.columns, c.isPassword = false → ∀ value, c.Uses supplied value →
    ∃ text, c.type.canonical value = .ok (some text) ∧ record.get? c.name = some text
  password : ∀ c ∈ s.columns, c.isPassword = true → ∀ value, c.Uses supplied value →
    record.get? c.name = some (Password.hash salt value)

namespace Prepared

variable {record : Fields} (h : s.Prepared salt supplied record)
include h

theorem contains_iff {c : Column} (hc : c ∈ s.columns) :
    record.contains c.name = true ↔ ∃ value, c.Uses supplied value :=
  Column.isSome_stored_iff (h.stored c hc)

/-- A prepared record has for each column what its value is stored as, and nothing else. -/
theorem fulfils : s.Fulfils salt supplied record where
  columns name := by
    constructor
    · intro hname
      have hmem : name ∈ s.columns.map (·.name) := by
        refine Decidable.byContradiction fun hnot => ?_
        rw [NameMap.contains, h.others name hnot] at hname
        cases hname
      obtain ⟨c, hc, rfl⟩ := List.mem_map.1 hmem
      exact ⟨c, hc, rfl, (h.contains_iff hc).1 hname⟩
    · rintro ⟨c, hc, rfl, hused⟩
      exact (h.contains_iff hc).2 hused
  values c hc hpassword value hvalue := by
    have hstored := h.stored c hc
    rw [Column.stored_of_uses hvalue, if_neg (Bool.eq_false_iff.1 hpassword)] at hstored
    split at hstored
    · cases hstored
    · cases hstored
    · next text hcanonical =>
      exact ⟨text, hcanonical, (Except.ok.inj (Except.ok.inj hstored)).symm⟩
  password c hc hpassword value hvalue := by
    have hstored := h.stored c hc
    rw [Column.stored_of_uses hvalue, if_pos hpassword] at hstored
    exact (Except.ok.inj (Except.ok.inj hstored)).symm

end Prepared

/-! ## The end of a preparation -/

namespace Valid

variable (hs : s.Valid)
include hs

/-- A preparation has no result exactly if the first column for which anything is in the way
has a time after the calendar. -/
theorem prepare_eq_fault_iff (salt : Password.Salt) :
    s.prepare salt supplied = .error .mk ↔ First s.columns supplied (·.Overflows supplied) := by
  rw [← fill_eq_fault_iff salt hs.sorted .empty, prepare]
  rcases fill salt supplied s.columns .empty with fault | why | record
  · simp
  · simp
  · dsimp only
    split
    · simp
    · simp

/-- A filled record has a name if a value is used for it. -/
theorem contains_username_iff {record : Fields}
    (h : fill salt supplied s.columns .empty = .ok (.ok record)) :
    record.contains s.username.name = true ↔ ∃ value, s.username.Uses supplied value := by
  have hstored := (get?_fill h hs.names_nodup fun _ _ => NameMap.get?_empty _).1
  exact Column.isSome_stored_iff (hstored s.username hs.username_mem)

/-- A preparation is refused with the failure of the first column for which anything is in
the way, or because no value names the user. -/
theorem prepare_eq_refused_iff (salt : Password.Salt) {why : StoreError} :
    s.prepare salt supplied = .ok (.error why) ↔
      First s.columns supplied (·.Offends supplied why) ∨
        (∀ c ∈ s.columns, c.Passes supplied) ∧ (∀ value, ¬s.username.Uses supplied value) ∧
          why = .missingField s.username.name := by
  rw [← fill_eq_refused_iff salt hs.sorted .empty, ← exists_fill_iff salt .empty, ← not_exists,
    prepare]
  rcases hfill : fill salt supplied s.columns .empty with fault | other | record
  · simp
  · simp
  · have hnamed := hs.contains_username_iff hfill
    dsimp only
    split
    · next hcontains =>
      have hsome := hnamed.1 hcontains
      simp [hsome]
    · next hcontains =>
      have hnone := mt hnamed.2 hcontains
      simp [hnone, eq_comm]

/-- A record is prepared exactly if nothing is in the way of any column and a value names
the user. -/
theorem exists_prepare_iff (salt : Password.Salt) :
    (∃ record, s.prepare salt supplied = .ok (.ok record)) ↔
      (∀ c ∈ s.columns, c.Passes supplied) ∧ ∃ value, s.username.Uses supplied value := by
  rw [← exists_fill_iff salt .empty, prepare]
  rcases hfill : fill salt supplied s.columns .empty with fault | other | record
  · simp
  · simp
  · have hnamed := hs.contains_username_iff hfill
    dsimp only
    split
    · next hcontains =>
      have hsome := hnamed.1 hcontains
      simp [hsome]
    · next hcontains =>
      have hnone := mt hnamed.2 hcontains
      simp [hnone]

end Valid

/-- Only what is supplied for the columns of the schema counts. -/
theorem fill_congr {columns : List Column} {others : Fields}
    (h : ∀ c ∈ columns, others.get? c.name = supplied.get? c.name) (record : Fields) :
    fill salt others columns record = fill salt supplied columns record := by
  induction columns generalizing record with
  | nil => rfl
  | cons c rest ih =>
    rw [fill_cons, fill_cons, h c List.mem_cons_self]
    simp only [ih fun x hx => h x (List.mem_cons_of_mem _ hx)]

/-- Only what is supplied for the columns of the schema matters. -/
theorem prepare_congr {others : Fields}
    (h : ∀ c ∈ s.columns, others.get? c.name = supplied.get? c.name) :
    s.prepare salt others = s.prepare salt supplied := by
  rw [prepare, prepare, fill_congr h]

/-- As long as no time is after the calendar, a record is prepared exactly if there is a
value for every required column and for the name of the user, and every value but the
password has a stored form. The record has the stored forms of the values used, column by
column, and what is supplied for other names counts for nothing. Otherwise the failure is
that of the first column that has one, in byte order of the names; that nothing names the
user is reported only where no column has a failure. -/
theorem prepare_contract {table : TableDescription} (h : ofDescription table = .ok s)
    (salt : Password.Salt) {supplied : Fields}
    (hcalendar : ∀ c ∈ s.columns, ¬c.Overflows supplied) :
    ((∃ record, s.prepare salt supplied = .ok (.ok record)) ↔
        (∀ c ∈ s.columns, c.required = true ∨ c = s.username →
          ∃ value, c.Uses supplied value) ∧
        ∀ c ∈ s.columns, c.isPassword = false → ∀ value, c.Uses supplied value →
          ∃ text, c.type.canonical value = .ok (some text)) ∧
      (∀ record, s.prepare salt supplied = .ok (.ok record) →
        s.Fulfils salt supplied record) ∧
      (∀ why, s.prepare salt supplied = .ok (.error why) ↔
        (∃ c ∈ s.columns, c.Offends supplied why ∧ ∀ earlier ∈ s.columns,
          earlier.name < c.name → ∀ other, ¬earlier.Offends supplied other) ∨
        (∀ c ∈ s.columns, ∀ other, ¬c.Offends supplied other) ∧
          (∀ value, ¬s.username.Uses supplied value) ∧
          why = .missingField s.username.name) ∧
      (∃ outcome, s.prepare salt supplied = .ok outcome) ∧
      ∀ others : Fields, (∀ c ∈ s.columns, others.get? c.name = supplied.get? c.name) →
        s.prepare salt others = s.prepare salt supplied := by
  have hs := valid_of_ofDescription h
  refine ⟨?_, fun record hrecord => (hs.prepared_of_prepare hrecord).fulfils, fun why => ?_, ?_,
    fun others hothers => prepare_congr hothers⟩
  · rw [hs.exists_prepare_iff]
    simp only [Column.passes_iff]
    constructor
    · rintro ⟨hall, hname⟩
      refine ⟨fun c hc hneeded => ?_, fun c hc => (hall c hc).2⟩
      rcases hneeded with hrequired | rfl
      · exact (hall c hc).1 hrequired
      · exact hname
    · rintro ⟨hused, hvalues⟩
      exact ⟨fun c hc => ⟨fun hrequired => hused c hc (.inl hrequired), hvalues c hc⟩,
        hused s.username hs.username_mem (.inr rfl)⟩
  · -- with no time after the calendar, a column passes unless it offends
    rw [hs.prepare_eq_refused_iff, First]
    constructor
    · rintro (⟨c, hc, hwhy, hbefore⟩ | ⟨hall, hname, rfl⟩)
      · exact .inl ⟨c, hc, hwhy, fun earlier hmem hlt => (hbefore earlier hmem hlt).1⟩
      · exact .inr ⟨fun c hc => (hall c hc).1, hname, rfl⟩
    · rintro (⟨c, hc, hwhy, hbefore⟩ | ⟨hall, hname, rfl⟩)
      · exact .inl ⟨c, hc, hwhy, fun earlier hmem hlt =>
          ⟨hbefore earlier hmem hlt, hcalendar earlier hmem⟩⟩
      · exact .inr ⟨fun c hc => ⟨hall c hc, hcalendar c hc⟩, hname, rfl⟩
  · rcases hprepare : s.prepare salt supplied with fault | outcome
    · obtain ⟨c, hc, hoverflows, -⟩ := (hs.prepare_eq_fault_iff salt).1 hprepare
      exact absurd hoverflows (hcalendar c hc)
    · exact ⟨outcome, rfl⟩

/-- The readers have one column for times. -/
theorem since_of_overflows {c : Column} (hc : c ∈ readers.columns) (h : c.Overflows supplied) :
    ∃ value, supplied.get? "since" = some value ∧ Rfc3339.canonical value = .error .mk := by
  obtain ⟨htype, -, value, t, hvalue, ht, hlate⟩ := Column.overflows_iff.1 h
  rw [Column.uses_iff] at hvalue
  simp only [readers, List.mem_cons, List.not_mem_nil, or_false] at hc
  rcases hc with rfl | rfl | rfl | rfl
  · cases htype
  · cases htype
  · have hgiven : (supplied.get? "since").or none = some value := hvalue
    rw [Option.or_none] at hgiven
    exact ⟨value, hgiven, Rfc3339.canonical_eq_error_iff.2 ⟨t, ht, hlate⟩⟩
  · cases htype

/-- What a reader gives who has forgotten the password, and has never heard of time
stamps. -/
def hastySupplied : Fields :=
  ((NameMap.empty.insert "email" "desk@example.org").insert "nickname" "gh").insert "since" "soon"

/-- The hasty reader is told about the password, which comes before the time stamp and before
the missing name. -/
theorem prepare_contract_readers :
    ofDescription readersTable = .ok readers ∧
      (∀ c ∈ readers.columns, ¬c.Overflows hastySupplied) ∧
      readers.prepare deskSalt hastySupplied = .ok (.error (.missingField "password")) := by
  have hcalendar : ∀ c ∈ readers.columns, ¬c.Overflows hastySupplied := by
    intro c hc hoverflows
    obtain ⟨value, hvalue, hfault⟩ := since_of_overflows hc hoverflows
    cases hvalue
    revert hfault
    decide
  obtain ⟨-, -, hrefused, -⟩ := prepare_contract ofDescription_readersTable deskSalt hcalendar
  refine ⟨ofDescription_readersTable, hcalendar, (hrefused _).2 (.inl ?_)⟩
  refine ⟨_, List.mem_cons_of_mem _ List.mem_cons_self, .missing rfl fun value hvalue => ?_,
    fun earlier hmem hlt other hother => ?_⟩
  · cases Column.uses_iff.1 hvalue
  · simp only [readers, List.mem_cons, List.not_mem_nil, or_false] at hmem
    rcases hmem with rfl | rfl | rfl | rfl
    · cases hother with
      | missing hrequired => cases hrequired
      | invalid hvalue hpassword hnone => cases hnone
    · exact absurd hlt (by decide)
    · exact absurd hlt (by decide)
    · exact absurd hlt (by decide)

end Schema

end BearerAuth
