import BearerAuth.Proofs.Store.History

/-!
# The name that a user signed up with

Users in memory are kept under the stored form of their names, and looked up under
the text that is given at login. A user who signed up under another spelling of the
name is therefore not found under it. Only time stamps have more than one spelling.

- `ColumnType.Keeps`: the type stores the text as it is.
- `Schema.Prepared.canonical_supplied`: a user goes by the stored form of the name
  that was supplied.
- `Users.keeps_of_get?_run`: nobody is in memory under another spelling.
- `Users.login_as_supplied_iff`: the name that was supplied leads to the user exactly
  if it is its own stored form, and the stored form always does.
-/

namespace BearerAuth

/-- The type stores the text as it is. -/
def ColumnType.Keeps (t : ColumnType) (value : String) : Prop :=
  t.canonical value = .ok (some value)

instance (t : ColumnType) (value : String) : Decidable (t.Keeps value) :=
  inferInstanceAs (Decidable (_ = _))

/-- Of values other than time stamps there is one spelling only. -/
theorem ColumnType.keeps_of_canonical {t : ColumnType} (h : t ≠ .timestamp)
    {value stored : String} (hcanonical : t.canonical value = .ok (some stored)) :
    t.Keeps value := by
  obtain ⟨-, rfl⟩ := (canonical_eq_ok_iff h).1 hcanonical
  exact hcanonical

/-- A user goes by the stored form of the name that was supplied. -/
theorem Schema.Prepared.canonical_supplied {s : Schema} {salt : Password.Salt}
    {supplied record : Fields} (h : s.Prepared salt supplied record)
    (hmem : s.username ∈ s.columns) (hkey : s.username.isPassword = false) {username : String}
    (husername : supplied.get? s.username.name = some username) :
    s.username.type.canonical username = .ok (some (s.nameOf record)) := by
  have hstored := h.stored s.username hmem
  rw [husername, h.get?_nameOf] at hstored
  rcases Column.of_stored hstored with ⟨hnone, -⟩ | ⟨plain, -, hhashed, -⟩ |
    ⟨given, value, hgiven, -, hvalue, hcanonical⟩
  · cases hnone
  · rw [hkey] at hhashed
    cases hhashed
  · -- the supplied name comes before the default
    cases hgiven
    rw [Option.some.inj hvalue]
    exact hcanonical

namespace Users

variable {s : Schema}

/-- Nobody is in memory under a name that is not its own stored form. -/
theorem keeps_of_get?_run (hs : s.Valid) (hkey : s.username.isPassword = false)
    {calls : List Call} {name : String} {record : Fields}
    (h : (empty.run s calls).get? name = some record) : s.username.type.Keeps name := by
  obtain ⟨salt, supplied, -, hprepare, rfl⟩ := of_get?_run h
  have hkept := hs.kept_of_prepare hprepare
  exact (hkept.values s.username hs.username_mem hkey _ hkept.named).2

/-- A user who was created is found in every later state. -/
theorem get?_run_of_created {past : List Call} {salt : Password.Salt} {supplied record : Fields}
    (hprepare : s.prepare salt supplied = .ok (.ok record))
    (hcreated : (empty.run s past).answer s (.create salt supplied) = .created)
    (future : List Call) :
    (empty.run s (past ++ .create salt supplied :: future)).get? (s.nameOf record) =
      some record := by
  have hfree : (empty.run s past).get? (s.nameOf record) = none := by
    rw [answer_of_prepare hprepare] at hcreated
    split at hcreated
    · cases hcreated
    · next hnot => exact Option.not_isSome_iff_eq_none.1 hnot
  rw [get?_run_empty] at hfree ⊢
  rw [List.findSome?_append, hfree, Option.none_or, List.findSome?_cons,
    preparedAs_of_prepare hprepare, if_pos rfl]

theorem answer_authenticate_of_none {u : Users} {name : String} (h : u.get? name = none)
    (password : String) : u.answer s (.authenticate name password) = .refused .userNotFound := by
  rw [answer, authenticate, h]

/-- The password that was given for a user opens the record. -/
theorem answer_authenticate_of_prepared {u : Users} {name : String} {salt : Password.Salt}
    {supplied record : Fields} (hrecord : u.get? name = some record)
    (h : s.Prepared salt supplied record) {password : String}
    (hpassword : s.passwordGiven supplied = some password) :
    u.answer s (.authenticate name password) = .record (record.erase passwordColumn) := by
  have hunlock : u.authenticate name password = .ok (record.erase passwordColumn) := by
    rw [authenticate, hrecord]
    exact unlock_prepared h hpassword
  rw [answer, hunlock]

/-- A user who signed up with a name and a password is found under the stored form
of the name from then on. The name as it was supplied leads to the record exactly if
it is its own stored form, which all names are that are no time stamps, and to nobody
otherwise. -/
theorem login_as_supplied_iff {table : TableDescription} (hs : Schema.ofDescription table = .ok s)
    (hcolumn : (s.column? passwordColumn).isSome) (hkey : s.username.name ≠ passwordColumn)
    {salt : Password.Salt} {supplied : Fields} {username password : String}
    (husername : supplied.get? s.username.name = some username)
    (hpassword : supplied.get? passwordColumn = some password) {past : List Call}
    (hcreated : (empty.run s past).answer s (.create salt supplied) = .created)
    (future : List Call) :
    ∃ record, s.prepare salt supplied = .ok (.ok record) ∧
      (empty.run s (past ++ .create salt supplied :: future)).answer s
          (.authenticate (s.nameOf record) password) = .record (record.erase passwordColumn) ∧
      ((empty.run s (past ++ .create salt supplied :: future)).answer s
          (.authenticate username password) = .record (record.erase passwordColumn) ↔
        s.username.type.Keeps username) ∧
      (¬s.username.type.Keeps username →
        (empty.run s (past ++ .create salt supplied :: future)).answer s
          (.authenticate username password) = .refused .userNotFound) ∧
      (s.username.type ≠ .timestamp → s.username.type.Keeps username) := by
  have hvalid := Schema.valid_of_ofDescription hs
  have hnot : s.username.isPassword = false := by
    rw [Column.isPassword, beq_eq_false_iff_ne]
    exact hkey
  obtain ⟨_, _, record, hcall, hprepare, -, -⟩ := of_answer_eq_created hcreated
  cases hcall
  have hprepared := hvalid.prepared_of_prepare hprepare
  have hcanonical := hprepared.canonical_supplied hvalid.username_mem hnot husername
  have hgiven : s.passwordGiven supplied = some password := by
    obtain ⟨c, hfound⟩ := Option.isSome_iff_exists.1 hcolumn
    rw [Schema.passwordGiven, hfound, hpassword]
    rfl
  have hlogin := answer_authenticate_of_prepared (get?_run_of_created hprepare hcreated future)
    hprepared hgiven
  have hnobody : ¬s.username.type.Keeps username →
      (empty.run s (past ++ .create salt supplied :: future)).answer s
        (.authenticate username password) = .refused .userNotFound := by
    intro hspelling
    refine answer_authenticate_of_none ?_ password
    rw [Option.eq_none_iff_forall_ne_some]
    intro held hheld
    exact hspelling (keeps_of_get?_run hvalid hnot hheld)
  refine ⟨record, hprepare, hlogin, ⟨fun hfound => ?_, fun hkeeps => ?_⟩, hnobody, fun htype => ?_⟩
  · refine Decidable.byContradiction fun hspelling => ?_
    rw [hnobody hspelling] at hfound
    cases hfound
  · -- a text has one stored form only
    obtain rfl : username = s.nameOf record :=
      Option.some.inj (Except.ok.inj (hkeeps.symm.trans hcanonical))
    exact hlogin
  · exact ColumnType.keeps_of_canonical htype hcanonical

/-- Grace logs in as `grace`, also after somebody has tried to sign up in her name. -/
theorem login_as_supplied_iff_grace :
    Schema.ofDescription Schema.readersTable = .ok .readers ∧
      (Schema.readers.column? passwordColumn).isSome ∧
      Schema.readers.username.name ≠ passwordColumn ∧
      (Schema.deskSupplied "grace").get? "username" = some "grace" ∧
      (Schema.deskSupplied "grace").get? passwordColumn = some "amazing" ∧
      (empty.run .readers []).answer .readers
        (.create Schema.deskSalt (Schema.deskSupplied "grace")) = .created ∧
      (empty.run .readers graceCalls).answer .readers (.authenticate "grace" "amazing") =
        .record ((Schema.deskRecord Schema.deskSalt "grace").erase passwordColumn) := by
  have hprepared := Schema.prepare_deskSupplied Schema.deskSalt "grace"
  have hcreated : (empty.run .readers []).answer .readers
      (.create Schema.deskSalt (Schema.deskSupplied "grace")) = .created :=
    answer_of_prepare hprepared
  obtain ⟨record, hprepare, -, hlogin, -, hkeeps⟩ :=
    login_as_supplied_iff Schema.ofDescription_readersTable (by decide) (by decide)
      (show (Schema.deskSupplied "grace").get? "username" = some "grace" from rfl)
      (show (Schema.deskSupplied "grace").get? passwordColumn = some "amazing" from rfl)
      hcreated (graceCalls.drop 1)
  obtain rfl := Except.ok.inj (Except.ok.inj (hprepared.symm.trans hprepare))
  exact ⟨Schema.ofDescription_readersTable, by decide, by decide, rfl, rfl, hcreated,
    hlogin.2 (hkeeps (by decide))⟩

/-! ## Another spelling -/

/-- The watches of a ship: whoever has one goes by the time at which it begins. -/
def watchesTable : TableDescription where
  name := "watches"
  columns :=
    { entries :=
        [("begins", { type := "timestamp", primaryKey := true, required := true }),
          ("password", { type := "text", required := true })]
      sorted := by decide }

/-- The schema of the watches. -/
def watches : Schema where
  table := "watches"
  autoCreate := false
  columns := [.key "begins" .timestamp, .needed "password" .text]
  username := .key "begins" .timestamp

/-- What the second mate signs up with, two hours ahead of UTC. -/
def mateSupplied : Fields :=
  (NameMap.empty.insert "begins" "2024-05-01T12:00:00+02:00").insert "password" "steady"

/-- The record of the second mate. -/
def mateRecord : Fields :=
  (NameMap.empty.insert "begins" "2024-05-01T10:00:00Z").insert "password"
    (Password.hash Schema.deskSalt "steady")

theorem prepare_mateSupplied :
    watches.prepare Schema.deskSalt mateSupplied = .ok (.ok mateRecord) := rfl

/-- The second mate has signed up, and is not found under the time that was given for
it, but only under the same time in UTC. -/
theorem watch_not_found :
    Schema.ofDescription watchesTable = .ok watches ∧
      (watches.column? passwordColumn).isSome ∧ watches.username.name ≠ passwordColumn ∧
      mateSupplied.get? watches.username.name = some "2024-05-01T12:00:00+02:00" ∧
      mateSupplied.get? passwordColumn = some "steady" ∧
      empty.answer watches (.create Schema.deskSalt mateSupplied) = .created ∧
      (empty.run watches [.create Schema.deskSalt mateSupplied]).answer watches
        (.authenticate "2024-05-01T12:00:00+02:00" "steady") = .refused .userNotFound := by
  refine ⟨rfl, rfl, by decide, rfl, rfl, answer_of_prepare prepare_mateSupplied, ?_⟩
  refine answer_authenticate_of_none ?_ _
  rw [get?_run_empty, List.findSome?_cons, preparedAs_of_prepare prepare_mateSupplied]
  rfl

end Users

end BearerAuth
