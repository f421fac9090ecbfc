import BearerAuth.Proofs.NameMap
import BearerAuth.Proofs.Schema.Valid
import BearerAuth.Store.Record

/-!
# What a prepared record holds

A record is filled column by column, and each column has a place of its own in
it.

- `Schema.get?_fill`: filling gives every column what is stored in it and leaves
  all other names alone.
- `Schema.Prepared`: the record for the values supplied, described column by
  column.
- `Schema.passwordGiven`: the password that a new user has, supplied or by
  default.
-/

namespace BearerAuth.Schema

variable {salt : Password.Salt} {supplied : Fields}

/-- The record with what is stored in one more column, if anything is. -/
def keep (record : Fields) (name : String) : Option String → Fields
  | none => record
  | some text => record.insert name text

theorem get?_keep_self {record : Fields} {name : String} (h : record.get? name = none)
    (value : Option String) : (keep record name value).get? name = value := by
  cases value with
  | none => exact h
  | some text => exact NameMap.get?_insert_self record name text

theorem get?_keep_of_ne (record : Fields) {name other : String} (h : other ≠ name)
    (value : Option String) : (keep record name value).get? other = record.get? other := by
  cases value with
  | none => rfl
  | some text => exact NameMap.get?_insert_of_ne record h text

/-- A record is filled column by column, with what can be stored in each. -/
theorem of_fill_cons {c : Column} {rest : List Column} {record filled : Fields}
    (h : fill salt supplied (c :: rest) record = .ok (.ok filled)) :
    ∃ value, c.stored salt (supplied.get? c.name) = .ok (.ok value) ∧
      fill salt supplied rest (keep record c.name value) = .ok (.ok filled) := by
  unfold fill at h
  split at h
  · cases h
  · cases h
  · next hstored => exact ⟨none, hstored, h⟩
  · next text hstored => exact ⟨some text, hstored, h⟩

/-- Filling gives every column what is stored in it and leaves all other names
alone. -/
theorem get?_fill {columns : List Column} {record filled : Fields}
    (h : fill salt supplied columns record = .ok (.ok filled))
    (hnodup : (columns.map (·.name)).Nodup)
    (hfresh : ∀ c ∈ columns, record.get? c.name = none) :
    (∀ c ∈ columns,
      c.stored salt (supplied.get? c.name) = .ok (.ok (filled.get? c.name))) ∧
    ∀ name, name ∉ columns.map (·.name) → filled.get? name = record.get? name := by
  induction columns generalizing record with
  | nil =>
    cases h
    exact ⟨fun _ hc => absurd hc List.not_mem_nil, fun _ _ => rfl⟩
  | cons c rest ih =>
    obtain ⟨hname, hnodup⟩ := List.nodup_cons.1 hnodup
    obtain ⟨value, hstored, h⟩ := of_fill_cons h
    have hkept : ∀ x ∈ rest, (keep record c.name value).get? x.name = none := by
      intro x hx
      have hne : x.name ≠ c.name := fun heq => hname (List.mem_map.2 ⟨x, hx, heq⟩)
      rw [get?_keep_of_ne record hne]
      exact hfresh x (List.mem_cons_of_mem _ hx)
    obtain ⟨hcolumns, hothers⟩ := ih h hnodup hkept
    refine ⟨fun x hx => ?_, fun name hnotmem => ?_⟩
    · rcases List.mem_cons.1 hx with rfl | hx
      · -- the later columns have other names and leave this one alone
        rw [hothers x.name hname, get?_keep_self (hfresh x List.mem_cons_self)]
        exact hstored
      · exact hcolumns x hx
    · rw [List.map_cons, List.mem_cons, not_or] at hnotmem
      rw [hothers name hnotmem.2, get?_keep_of_ne record hnotmem.1]

/-- The record for the values supplied, column by column. -/
structure Prepared (s : Schema) (salt : Password.Salt) (supplied record : Fields) : Prop where
  stored : ∀ c ∈ s.columns, c.stored salt (supplied.get? c.name) = .ok (.ok (record.get? c.name))
  others : ∀ name, name ∉ s.columns.map (·.name) → record.get? name = none
  named : ∃ name, record.get? s.username.name = some name

/-- A prepared record was filled and names a user. -/
theorem of_prepare {s : Schema} {record : Fields} (h : s.prepare salt supplied = .ok (.ok record)) :
    fill salt supplied s.columns .empty = .ok (.ok record) ∧
      record.contains s.username.name = true := by
  unfold prepare at h
  split at h
  · cases h
  · cases h
  · next filled hfill =>
    split at h
    · next hname =>
      cases h
      exact ⟨hfill, hname⟩
    · cases h

/-- A record that is prepared has in every column what is stored there for what was
supplied. -/
theorem Valid.prepared_of_prepare {s : Schema} (hs : s.Valid) {record : Fields}
    (h : s.prepare salt supplied = .ok (.ok record)) : s.Prepared salt supplied record := by
  obtain ⟨hfill, hname⟩ := of_prepare h
  obtain ⟨hstored, hothers⟩ := get?_fill hfill hs.names_nodup fun _ _ => NameMap.get?_empty _
  exact {
    stored := hstored
    others := fun name hname => (hothers name hname).trans (NameMap.get?_empty name)
    named := Option.isSome_iff_exists.1 hname }

/-! ## The password of a new user -/

/-- The password that a new user has, supplied or by default. -/
def passwordGiven (s : Schema) (supplied : Fields) : Option String :=
  (s.column? passwordColumn).bind fun c => (supplied.get? passwordColumn).or c.default

/-- A record keeps the hash of the password that was given. -/
theorem Prepared.get?_password {s : Schema} {record : Fields}
    (h : s.Prepared salt supplied record) {password : String}
    (hpassword : s.passwordGiven supplied = some password) :
    record.get? passwordColumn = some (Password.hash salt password) := by
  obtain ⟨c, hcolumn, hgiven⟩ := Option.bind_eq_some_iff.1 hpassword
  obtain ⟨hmem, hname⟩ := of_column? hcolumn
  have hstored := h.stored c hmem
  have hhash : c.isPassword = true := by simp [Column.isPassword, hname]
  rw [hname] at hstored
  unfold Column.stored at hstored
  rw [hgiven] at hstored
  dsimp only at hstored
  rw [if_pos hhash] at hstored
  exact (Except.ok.inj (Except.ok.inj hstored)).symm

end BearerAuth.Schema
