import BearerAuth.Proofs.Schema.Public
import BearerAuth.Proofs.Service.Login

/-!
# What a service does not tell

Two services are set up alike, and in each of them a user signs up. The two users have
the same public values and may differ in everything else: in what is kept in hidden
columns, in their passwords and in the salts of these. Whatever is then asked for them,
each with the password of their own, is answered alike, so that nothing that is
answered tells the one from the other. Other calls may come in between, and need not be
the same for both.

- `Errand`, `Service.serve`: what may be asked for a user, and the result.
- `Service.results`: the results for a client who chooses each errand by the results of
  the earlier ones.
- `Service.Holds`: the service holds the user that values describe.
- `Service.serve_congr`: one errand. `Service.results_congr`: all errands of a client.
- `Service.secrets_untold`: the same from the creation of the two users on.
-/

namespace BearerAuth

open Time

/-- What may be asked for a user. The name and the password of the user are given
wherever they are needed. -/
inductive Errand where
  | token (now : Instant)
  | refreshToken (now : Instant) (username address : String)
  | verify (now : Instant) (kind : TokenKind) (token : String)
  | renew (now : Instant) (access refresh : String)
  | info

/-- The result of an errand. -/
inductive Errand.Result where
  | answer (answer : Answer)
  | shown (record : Except StoreError Fields)

namespace Service

/-- The result of an errand for a user with a password. -/
def serve (s : Service) (username password : String) : Errand → Errand.Result
  | .token now => .answer (s.answer (.generateToken now username password))
  | .refreshToken now name address => .answer (s.answer (.generateRefreshToken now name address))
  | .verify now kind token => .answer (s.answer (.verifyToken now kind token))
  | .renew now access refresh => .answer (s.answer (.refreshToken now access refresh))
  | .info => .shown (s.users.info s.schema username password)

/-- The results of the first errands of a client, who chooses each by the results of
those before it. Before each errand there are calls by others. -/
def results (s : Service) (username password : String) (client : List Errand.Result → Errand)
    (others : Nat → List Call) : Nat → List Errand.Result
  | 0 => []
  | n + 1 =>
    let past := s.results username password client others n
    past ++ [(s.run ((List.range (n + 1)).flatMap others)).serve username password (client past)]

/-- The service holds the user that the values supplied describe, under the name and
with the password. -/
def Holds (s : Service) (supplied : Fields) (username password : String) : Prop :=
  ∃ salt record, s.schema.prepare salt supplied = .ok (.ok record) ∧
    s.users.get? username = some record ∧ s.schema.passwordGiven supplied = some password

variable {s s' : Service} {supplied supplied' : Fields} {username password password' : String}

/-- Users come to stay. -/
theorem Holds.run (h : s.Holds supplied username password) (calls : List Call) :
    (s.run calls).Holds supplied username password := by
  obtain ⟨salt, record, hprepare, hrecord, hpassword⟩ := h
  refine ⟨salt, record, ?_, get?_run hrecord calls, ?_⟩
  · rw [run_schema]
    exact hprepare
  · rw [run_schema]
    exact hpassword

/-- A user who is held is authenticated with the password. -/
theorem Holds.authenticate (hvalid : s.schema.Valid) (h : s.Holds supplied username password) :
    ∃ salt record, s.schema.Prepared salt supplied record ∧
      s.users.authenticate username password = .ok (record.erase passwordColumn) := by
  obtain ⟨salt, record, hprepare, hrecord, hpassword⟩ := h
  have hprepared := hvalid.prepared_of_prepare hprepare
  refine ⟨salt, record, hprepared, ?_⟩
  rw [Users.authenticate, hrecord]
  exact unlock_prepared hprepared hpassword

/-- A user who is created is held under the stored name, and the engine stays. -/
theorem holds_of_createUser {salt : Password.Salt}
    (hcreate : s.createUser salt supplied = .ok (.ok s'))
    (hpassword : s.schema.passwordGiven supplied = some password) :
    s'.engine = s.engine ∧ ∃ record, s.schema.prepare salt supplied = .ok (.ok record) ∧
      s'.Holds supplied (s.schema.nameOf record) password := by
  obtain ⟨users, husers, rfl⟩ := createUser_eq_ok_iff.1 hcreate
  obtain ⟨record, hprepare, hfound⟩ := Users.get?_created husers
  exact ⟨rfl, record, hprepare, salt, record, hprepare, hfound, hpassword⟩

/-! ## Alike services -/

section

variable (hengine : s.engine = s'.engine) (hvalid : s.schema.Valid)
  (h : s.Holds supplied username password) (h' : s'.Holds supplied' username password')
  (hagree : s.schema.AgreeInPublic supplied supplied')
include hengine hvalid h h' hagree

/-- Users who agree in public are authenticated with records that make the same claims
and are shown alike. -/
theorem authenticate_congr :
    ∃ record record', s.users.authenticate username password = .ok record ∧
      s'.users.authenticate username password' = .ok record' ∧
      s.schema.claims record = s.schema.claims record' ∧
      s.schema.shown record = s.schema.shown record' := by
  have hschema : s.schema = s'.schema := congrArg Engine.schema hengine
  obtain ⟨salt, record, hprepared, hlogin⟩ := h.authenticate hvalid
  obtain ⟨salt', record', hprepared', hlogin'⟩ := h'.authenticate (hschema ▸ hvalid)
  rw [← hschema] at hprepared'
  have hpublic := (hprepared.agreeInPublic hprepared' hagree).erase_password
  refine ⟨_, _, hlogin, hlogin', Schema.claims_congr hpublic,
    hvalid.shown_congr hpublic ?_ ?_⟩
  · exact fun name hname => NameMap.get?_erase_of_none (hprepared.others name hname)
  · exact fun name hname => NameMap.get?_erase_of_none (hprepared'.others name hname)

/-- One errand has the same result for both. -/
theorem serve_congr (errand : Errand) :
    s.serve username password errand = s'.serve username password' errand := by
  have hschema : s.schema = s'.schema := congrArg Engine.schema hengine
  obtain ⟨record, record', hlogin, hlogin', hclaims, hshown⟩ :=
    authenticate_congr hengine hvalid h h' hagree
  cases errand with
  | token now =>
    have htoken : s.generateToken now username password =
        s'.generateToken now username password' := by
      -- of the record only the claims go into the token
      rw [generateToken, generateToken, hlogin, hlogin', ← hengine]
      show s.engine.accessFor now record = s.engine.accessFor now record'
      rw [Engine.accessFor, Engine.accessFor]
      exact congrArg (fun fields => Engine.expirySecond now s.engine.tokenLifetime >>= fun expiry =>
        .ok (s.engine.writeAccess { issuer, expiry, refreshedAt := none, fields })) hclaims
    rw [serve, serve, answer, answer, htoken]
  | refreshToken now name address => rw [serve, serve, answer, answer, hengine]
  | verify now kind token => rw [serve, serve, answer, answer, hengine]
  | renew now access refresh => rw [serve, serve, answer, answer, hengine]
  | info =>
    have hinfo : s.users.info s.schema username password =
        s'.users.info s'.schema username password' := by
      rw [Users.info, Users.info, hlogin, hlogin', ← hschema]
      exact congrArg Except.ok hshown
    rw [serve, serve, hinfo]

/-- All errands of a client have the same results for both, whatever others call in
between. -/
theorem results_congr (client : List Errand.Result → Errand) (others others' : Nat → List Call)
    (n : Nat) :
    s.results username password client others n =
      s'.results username password' client others' n := by
  induction n with
  | zero => rfl
  | succ n ih =>
    -- up to here the results are the same, so that the client asks for the same
    rw [results, results, ih]
    congr 2
    refine serve_congr ?_ ?_ (h.run _) (h'.run _) ?_ _
    · rw [run_engine, run_engine, hengine]
    · rw [run_schema]
      exact hvalid
    · rw [run_schema]
      exact hagree

end

/-! ## Two users of one kind of service -/

/-- Two users with the same public values are not told apart, from their creation on,
whatever else happens in their services before and after it. -/
theorem secrets_untold {table : TableDescription} {schema : Schema}
    (hschema : Schema.ofDescription table = .ok schema) {settings : Settings} {s : Service}
    (hs : ofSettings schema settings = .ok s) (hkey : schema.username.name ≠ passwordColumn)
    {past past' : List Call} {salt salt' : Password.Salt} {supplied supplied' : Fields}
    {next next' : Service} {password password' : String}
    (hcreate : (s.run past).createUser salt supplied = .ok (.ok next))
    (hcreate' : (s.run past').createUser salt' supplied' = .ok (.ok next'))
    (hpassword : schema.passwordGiven supplied = some password)
    (hpassword' : schema.passwordGiven supplied' = some password')
    (hagree : schema.AgreeInPublic supplied supplied') :
    ∃ username, next.Holds supplied username password ∧
      next'.Holds supplied' username password' ∧
      ∀ client others others' n, next.results username password client others n =
        next'.results username password' client others' n := by
  obtain ⟨-, rfl, -⟩ := of_ofSettings hs
  have hvalid : s.schema.Valid := Schema.valid_of_ofDescription hschema
  obtain ⟨hnext, record, hprepare, hheld⟩ := holds_of_createUser hcreate
    (by rw [run_schema]; exact hpassword)
  obtain ⟨hnext', record', hprepare', hheld'⟩ := holds_of_createUser hcreate'
    (by rw [run_schema]; exact hpassword')
  rw [run_schema] at hprepare hprepare' hheld hheld'
  rw [run_engine] at hnext hnext'
  -- the key is public, so that both are stored under one name
  have hpublic : s.schema.IsPublic s.schema.username :=
    ⟨beq_false_of_ne hkey, .inr (.inr (.inl rfl))⟩
  have hname : s.schema.nameOf record = s.schema.nameOf record' := by
    rw [Schema.nameOf, Schema.nameOf, (hvalid.prepared_of_prepare hprepare).agreeInPublic
      (hvalid.prepared_of_prepare hprepare') hagree _ hvalid.username_mem hpublic]
  rw [← hname] at hheld'
  have hsame : next.schema = s.schema := congrArg Engine.schema hnext
  rw [← hsame] at hvalid hagree
  exact ⟨s.schema.nameOf record, hheld, hheld',
    results_congr (hnext.trans hnext'.symm) hvalid hheld hheld' hagree⟩

/-! ## A ward -/

/-- The patients of a ward. What ails them is hidden. -/
def patientsTable : TableDescription where
  name := "patients"
  columns :=
    { entries :=
        [("ailment", { type := "text", hidden := true }),
          ("bed", { type := "text", primaryKey := true, required := true }),
          ("password", { type := "text", required := true, hidden := true }),
          ("role", { type := "text", default := some "patient", hidden := true })]
      sorted := by decide }

/-- The schema of the patients. -/
def patients : Schema where
  table := "patients"
  autoCreate := false
  columns :=
    [{ Column.plain "ailment" .text with hidden := true },
      .key "bed" .text,
      { Column.needed "password" .text with hidden := true },
      { Column.plain "role" .text with default := some "patient", hidden := true }]
  username := .key "bed" .text

theorem ofDescription_patientsTable : Schema.ofDescription patientsTable = .ok patients := rfl

/-- The service of the ward, without patients. -/
def wardService : Service where
  engine := { Engine.memberEngine with schema := patients }
  users := .empty

theorem ofSettings_wardService : ofSettings patients Engine.memberSettings = .ok wardService :=
  rfl

/-- Another salt than Ada's. -/
def otherSalt : Password.Salt := Vector.replicate 16 8

/-- What a patient in bed 7 signs up with. -/
def patientSupplied (ailment password : String) : Fields :=
  ((NameMap.empty.insert "ailment" ailment).insert "bed" "7").insert "password" password

/-- The record of the patient. -/
def patientRecord (salt : Password.Salt) (ailment password : String) : Fields :=
  (((NameMap.empty.insert "ailment" ailment).insert "bed" "7").insert "password"
    (Password.hash salt password)).insert "role" "patient"

theorem prepare_patientSupplied (salt : Password.Salt) (ailment password : String) :
    patients.prepare salt (patientSupplied ailment password) =
      .ok (.ok (patientRecord salt ailment password)) := rfl

/-- The ward with the patient. -/
def wardWith (salt : Password.Salt) (ailment password : String) : Service :=
  { wardService with
    users := Users.empty.concat "7" (patientRecord salt ailment password) }

theorem createUser_patientSupplied (salt : Password.Salt) (ailment password : String) :
    (wardService.run []).createUser salt (patientSupplied ailment password) =
      .ok (.ok (wardWith salt ailment password)) :=
  createUser_eq_ok_iff.2
    ⟨_, Users.create_eq_ok_iff.2 ⟨_, prepare_patientSupplied salt ailment password, rfl, rfl⟩, rfl⟩

/-- A client who asks for a token, has it verified, and looks at the record. -/
def visitor : List Errand.Result → Errand
  | [] => .token (.ofSeconds 60)
  | [.answer (.token token)] => .verify (.ofSeconds 90) .access token
  | _ => .info

/-- Whether the patient in bed 7 has a cold or a fracture is not to be learnt by a
visitor, and neither is which of two passwords and of two salts the patient has. -/
theorem secrets_untold_ward :
    Schema.ofDescription patientsTable = .ok patients ∧
      ofSettings patients Engine.memberSettings = .ok wardService ∧
      patients.username.name ≠ passwordColumn ∧
      patients.AgreeInPublic (patientSupplied "cold" "sneeze") (patientSupplied "fracture" "ouch") ∧
      (wardWith adaSalt "cold" "sneeze").results "7" "sneeze" visitor (fun _ => []) 3 =
        (wardWith otherSalt "fracture" "ouch").results "7" "ouch" visitor (fun _ => []) 3 := by
  have hagree : patients.AgreeInPublic (patientSupplied "cold" "sneeze")
      (patientSupplied "fracture" "ouch") := by
    unfold Schema.AgreeInPublic
    decide
  obtain ⟨username, ⟨salt, record, -, hfound, -⟩, -, hsame⟩ :=
    secrets_untold ofDescription_patientsTable ofSettings_wardService (by decide)
      (createUser_patientSupplied adaSalt "cold" "sneeze")
      (createUser_patientSupplied otherSalt "fracture" "ouch") rfl rfl hagree
  -- nobody else is in the ward
  obtain rfl : username = "7" := by
    by_contra hother
    have hnone := Users.get?_concat .empty "7" (patientRecord adaSalt "cold" "sneeze") username
    rw [if_neg hother] at hnone
    cases hfound.symm.trans hnone
  exact ⟨ofDescription_patientsTable, ofSettings_wardService, by decide, hagree,
    hsame visitor _ _ 3⟩

end Service

end BearerAuth
