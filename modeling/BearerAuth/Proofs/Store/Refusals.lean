import BearerAuth.Proofs.Store.Preparation
import BearerAuth.Proofs.Store.Users

/-!
# What users in memory refuse

Of all the ways in which a store may fail, users in memory know a few. A creation is
refused for one of the columns, which the failure names, or because the name is taken. A
login is refused because there is no such user or the password is another one. That the
password kept for a user cannot be read is out of the question: it was written when the
user was created.

- `Schema.Faults`: the failures that are about a column of a schema.
- `Schema.Valid.faults_of_prepare`, `Users.error_of_create`: why nobody is created.
- `Users.MadeBy`: all records were prepared by the schema. Every creation keeps that.
- `Users.MadeBy.read_password`, `Users.MadeBy.authenticate_cases`: what follows for the
  passwords that are kept, and for every login.
-/

namespace BearerAuth

variable {salt : Password.Salt} {supplied : Fields} {why : StoreError}

/-- A line that can be read as the hash of a password can be compared with every
password. -/
theorem Password.exists_verify {line : String} {fields : Password.Phc}
    (h : Password.Phc.read line = .ok fields) (guess : String) :
    ∃ same, Password.verify guess line = .ok same := by
  simp only [Password.verify, h, bind, Except.bind]
  cases fields.hash with
  | none => exact ⟨_, rfl⟩
  | some bytes => exact ⟨_, rfl⟩

/-! ## Creations -/

/-- A column offends in one of two ways. -/
theorem Column.Offends.eq_or_eq {c : Column} (h : c.Offends supplied why) :
    why = .missingField c.name ∨ why = .invalidValue c.name c.type := by
  cases h with
  | missing => exact .inl rfl
  | invalid => exact .inr rfl

namespace Schema

variable {s : Schema}

/-- The failure is about a column of the schema, and names it. -/
def Faults (s : Schema) (why : StoreError) : Prop :=
  ∃ c ∈ s.columns, why = .missingField c.name ∨ why = .invalidValue c.name c.type

/-- A record is not prepared for the sake of a column, which may be the one that names
the user. -/
theorem Valid.faults_of_prepare (hs : s.Valid) (h : s.prepare salt supplied = .ok (.error why)) :
    s.Faults why := by
  rcases (hs.prepare_eq_refused_iff salt).1 h with ⟨c, hc, hoffends, -⟩ | ⟨-, -, rfl⟩
  · exact ⟨c, hc, hoffends.eq_or_eq⟩
  · exact ⟨s.username, hs.username_mem, .inl rfl⟩

end Schema

namespace Users

variable {s : Schema} {u next : Users}

/-- A creation fails for a fault of what was supplied, or because the user exists. -/
theorem error_of_create (hs : s.Valid) (h : u.create s salt supplied = .ok (.error why)) :
    s.Faults why ∨ why = .userExists := by
  unfold create at h
  rcases hprepare : s.prepare salt supplied with fault | other | record
  · rw [hprepare] at h
    cases h
  · rw [hprepare] at h
    cases h
    exact .inl (hs.faults_of_prepare hprepare)
  · rw [hprepare] at h
    replace h : u.add (s.nameOf record) record = .error why := Except.ok.inj h
    unfold add at h
    split at h
    · cases h
      exact .inr rfl
    · cases h

/-! ## Logins -/

/-- All records were prepared by the schema, for values that somebody supplied. -/
def MadeBy (u : Users) (s : Schema) : Prop :=
  ∀ name record, u.get? name = some record →
    ∃ salt supplied, s.prepare salt supplied = .ok (.ok record)

theorem madeBy_empty (s : Schema) : empty.MadeBy s := by
  intro name record h
  cases h

/-- A creation adds a record that it has prepared. -/
theorem MadeBy.create (hmade : u.MadeBy s) (h : u.create s salt supplied = .ok (.ok next)) :
    next.MadeBy s := by
  obtain ⟨prepared, hprepare, -, rfl⟩ := create_eq_ok_iff.1 h
  intro name record hrecord
  rw [get?_concat] at hrecord
  rcases Option.or_eq_some_iff.1 hrecord with hold | ⟨-, hnew⟩
  · exact hmade name record hold
  · split at hnew
    · cases hnew
      exact ⟨salt, supplied, hprepare⟩
    · cases hnew

/-- What is kept as a password can be read as the hash of one. -/
theorem MadeBy.read_password (hs : s.Valid) (hmade : u.MadeBy s) {name : String} {record : Fields}
    (hrecord : u.get? name = some record) {line : String}
    (hline : record.get? passwordColumn = some line) :
    ∃ salt plain, line = Password.hash salt plain ∧
      Password.Phc.read line = .ok (Password.hashFields salt plain) := by
  obtain ⟨salt, supplied, hprepare⟩ := hmade name record hrecord
  have hhash := (hs.kept_of_prepare hprepare).password
  rw [hline] at hhash
  obtain ⟨plain, -, rfl⟩ := Option.map_eq_some_iff.1 hhash.symm
  exact ⟨salt, plain, rfl, Password.read_hash salt plain⟩

/-- A login succeeds, or there is no such user, or the password is another one. -/
theorem MadeBy.authenticate_cases (hs : s.Valid) (hmade : u.MadeBy s) (name password : String) :
    (∃ record, u.authenticate name password = .ok record) ∨
      u.authenticate name password = .error .userNotFound ∨
      u.authenticate name password = .error .invalidPassword := by
  rw [authenticate]
  cases hrecord : u.get? name with
  | none => exact .inr (.inl rfl)
  | some record =>
    dsimp only
    rw [unlock]
    cases hline : record.get? passwordColumn with
    | none => exact .inr (.inr rfl)
    | some line =>
      obtain ⟨salt, plain, -, hread⟩ := hmade.read_password hs hrecord hline
      obtain ⟨same, hsame⟩ := Password.exists_verify hread password
      dsimp only
      rw [hsame]
      cases same with
      | false => exact .inr (.inr rfl)
      | true => exact .inl ⟨_, rfl⟩

end Users

end BearerAuth
