import BearerAuth.Proofs.Store.History
import BearerAuth.Proofs.Store.Samples

/-!
# Which column keeps the users in memory apart

Users in memory are told apart by the column that names them, and by no other:
the flags of a column do not count when a user is added.

- `Users.Distinct`: no value of a column is held by two users.
- `Users.Guarded`: a creation that would give a value of a column to a second
  user is refused.
- `Users.distinct_iff`: both hold of the column that names the users, in every
  run, and of no other column.
-/

namespace BearerAuth.Users

variable {s : Schema} {c : Column}

/-- No value of the column is held by two users. -/
def Distinct (u : Users) (c : Column) : Prop :=
  ∀ name other record record' value, u.get? name = some record → u.get? other = some record' →
    record.get? c.name = some value → record'.get? c.name = some value → name = other

/-- A creation that would give a value of the column to a second user is refused
and changes nothing. -/
def Guarded (s : Schema) (u : Users) (c : Column) : Prop :=
  ∀ salt supplied record name held value, s.prepare salt supplied = .ok (.ok record) →
    u.get? name = some held → held.get? c.name = some value →
    record.get? c.name = some value →
    u.answer s (.create salt supplied) = .refused .userExists ∧
      u.after s (.create salt supplied) = u

/-! ## The column that names the users -/

/-- A user is held under the name in the record. -/
theorem named_of_get?_run (hs : s.Valid) {calls : List Call} {name : String} {record : Fields}
    (h : (empty.run s calls).get? name = some record) :
    record.get? s.username.name = some name := by
  obtain ⟨salt, supplied, -, hprepare, rfl⟩ := of_get?_run h
  exact (hs.kept_of_prepare hprepare).named

/-- No two users have one name, whatever was called. -/
theorem distinct_username (hs : s.Valid) (calls : List Call) :
    (empty.run s calls).Distinct s.username := by
  intro name other record record' value hrecord hrecord' hvalue hvalue'
  rw [named_of_get?_run hs hrecord] at hvalue
  rw [named_of_get?_run hs hrecord'] at hvalue'
  exact Option.some.inj (hvalue.trans hvalue'.symm)

/-- Whoever is created under the name of a user is refused, whatever was called. -/
theorem guarded_username (hs : s.Valid) (calls : List Call) :
    (empty.run s calls).Guarded s s.username := by
  intro salt supplied record name held value hprepare hheld hvalue hrecord
  -- the name in the new record is the name under which the other user is held
  rw [named_of_get?_run hs hheld, ← hrecord, (hs.kept_of_prepare hprepare).named] at hvalue
  obtain rfl := Option.some.inj hvalue
  have hrefused : (empty.run s calls).answer s (.create salt supplied) = .refused .userExists := by
    rw [answer_of_prepare hprepare, hheld]
    rfl
  refine ⟨hrefused, after_of_answer_ne ?_⟩
  rw [hrefused]
  exact Answer.noConfusion

/-! ## All other columns -/

/-- Two users with different names may have one value in any other column. -/
theorem exists_twins (hs : s.Valid) (hc : c ∈ s.columns) (hne : c ≠ s.username) :
    ∃ salt supplied record salt' supplied' record' value,
      s.prepare salt supplied = .ok (.ok record) ∧
      s.prepare salt' supplied' = .ok (.ok record') ∧ s.nameOf record ≠ s.nameOf record' ∧
      record.get? c.name = some value ∧ record'.get? c.name = some value := by
  obtain ⟨record, hprepare, hvalues⟩ := hs.prepare_samples fun _ => false
  obtain ⟨record', hprepare', hvalues'⟩ := hs.prepare_samples fun name => name == s.username.name
  have hname : c.name ≠ s.username.name := fun heq =>
    hne (hs.eq_of_name_eq hc hs.username_mem heq)
  refine ⟨_, _, record, _, _, record', c.sampled false, hprepare, hprepare', fun heq => ?_,
    hvalues c hc, ?_⟩
  · have hfirst := hvalues s.username hs.username_mem
    have hsecond := hvalues' s.username hs.username_mem
    rw [(hs.kept_of_prepare hprepare).named, heq] at hfirst
    rw [(hs.kept_of_prepare hprepare').named, beq_self_eq_true] at hsecond
    cases s.username.sampled_injective (Option.some.inj (hfirst.symm.trans hsecond))
  · rw [hvalues' c hc, beq_eq_false_iff_ne.2 hname]

/-- What is held after one creation that gets as far as a record. -/
theorem get?_run_create {salt : Password.Salt} {supplied record : Fields}
    (h : s.prepare salt supplied = .ok (.ok record)) (name : String) :
    (empty.run s [.create salt supplied]).get? name =
      if s.nameOf record = name then some record else none := by
  rw [run_cons, get?_run, get?_after, preparedAs_of_prepare h]
  exact Option.or_none

section

variable {salt salt' : Password.Salt} {supplied supplied' record record' : Fields}
  (h : s.prepare salt supplied = .ok (.ok record))
  (h' : s.prepare salt' supplied' = .ok (.ok record')) (hne : s.nameOf record ≠ s.nameOf record')
include h h' hne

/-- A second creation succeeds if its record has another name. -/
theorem answer_second :
    (empty.run s [.create salt supplied]).answer s (.create salt' supplied') = .created := by
  rw [answer_of_prepare h', get?_run_create h, if_neg hne]
  rfl

variable {value : String} (hvalue : record.get? c.name = some value)
  (hvalue' : record'.get? c.name = some value)
include hvalue hvalue'

theorem not_guarded_create : ¬(empty.run s [.create salt supplied]).Guarded s c := by
  intro hguarded
  have hheld : (empty.run s [.create salt supplied]).get? (s.nameOf record) = some record := by
    rw [get?_run_create h, if_pos rfl]
  obtain ⟨hrefused, -⟩ := hguarded salt' supplied' record' _ record value h' hheld hvalue hvalue'
  rw [answer_second h h' hne] at hrefused
  cases hrefused

theorem not_distinct_pair :
    ¬(empty.run s [.create salt supplied, .create salt' supplied']).Distinct c := by
  intro hdistinct
  have hget : ∀ name, (empty.run s [.create salt supplied, .create salt' supplied']).get? name =
      (if s.nameOf record = name then some record else none).or
        (if s.nameOf record' = name then some record' else none) := by
    intro name
    rw [← List.singleton_append, run_concat, get?_after, get?_run_create h,
      preparedAs_of_prepare h']
  refine hne (hdistinct _ _ record record' value ?_ ?_ hvalue hvalue')
  · rw [hget, if_pos rfl, Option.some_or]
  · rw [hget, if_neg hne, if_pos rfl, Option.none_or]

end

/-- Of the columns of a checked schema, the one that names the users is the only
one in which no two users ever have one value, and the only one for which a
creation that would break this is refused. -/
theorem distinct_iff {table : TableDescription} (hs : Schema.ofDescription table = .ok s)
    (hc : c ∈ s.columns) :
    ((∀ calls, (empty.run s calls).Distinct c) ↔ c = s.username) ∧
      ((∀ calls, (empty.run s calls).Guarded s c) ↔ c = s.username) := by
  have hvalid := Schema.valid_of_ofDescription hs
  refine ⟨⟨fun h => Decidable.byContradiction fun hne => ?_, ?_⟩,
    ⟨fun h => Decidable.byContradiction fun hne => ?_, ?_⟩⟩
  · obtain ⟨salt, supplied, record, salt', supplied', record', value, hprepare, hprepare', hnames,
      hvalue, hvalue'⟩ := exists_twins hvalid hc hne
    exact not_distinct_pair hprepare hprepare' hnames hvalue hvalue' (h _)
  · rintro rfl
    exact distinct_username hvalid
  · obtain ⟨salt, supplied, record, salt', supplied', record', value, hprepare, hprepare', hnames,
      hvalue, hvalue'⟩ := exists_twins hvalid hc hne
    exact not_guarded_create hprepare hprepare' hnames hvalue hvalue' (h _)
  · rintro rfl
    exact guarded_username hvalid

/-- The names of the readers are kept apart. -/
theorem distinct_iff_readers :
    Schema.readerColumn ∈ Schema.readers.columns ∧
      (∀ calls, (empty.run .readers calls).Distinct Schema.readerColumn) ∧
      ∀ calls, (empty.run .readers calls).Guarded .readers Schema.readerColumn := by
  have hmem : Schema.readerColumn ∈ Schema.readers.columns := by decide
  obtain ⟨hdistinct, hguarded⟩ := distinct_iff Schema.ofDescription_readersTable hmem
  exact ⟨hmem, hdistinct.2 rfl, hguarded.2 rfl⟩

/-- No two readers are to have one address, but two who sign up at the desk do. -/
theorem readers_share_address :
    ∃ c ∈ Schema.readers.columns, c.unique = true ∧
      (empty.run .readers [.create Schema.deskSalt (Schema.deskSupplied "grace")]).answer .readers
        (.create Schema.deskSalt (Schema.deskSupplied "ada")) = .created ∧
      ¬(empty.run .readers
        [.create Schema.deskSalt (Schema.deskSupplied "grace"),
          .create Schema.deskSalt (Schema.deskSupplied "ada")]).Distinct c := by
  have hgrace := Schema.prepare_deskSupplied Schema.deskSalt "grace"
  have hada := Schema.prepare_deskSupplied Schema.deskSalt "ada"
  have hnames : Schema.readers.nameOf (Schema.deskRecord Schema.deskSalt "grace") ≠
      Schema.readers.nameOf (Schema.deskRecord Schema.deskSalt "ada") := by
    rw [Schema.nameOf_deskRecord, Schema.nameOf_deskRecord]
    decide
  have haddress (username : String) :
      (Schema.deskRecord Schema.deskSalt username).get? "email" = some "desk@example.org" := rfl
  exact ⟨_, List.mem_cons_self, rfl, answer_second hgrace hada hnames,
    not_distinct_pair hgrace hada hnames (haddress "grace") (haddress "ada")⟩

end BearerAuth.Users
