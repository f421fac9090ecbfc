import BearerAuth.Proofs.Service.Run
import BearerAuth.Proofs.Token.Issuance

/-!
# From registration to verification

A user who was registered with a password gets tokens for it at any later time,
and the tokens identify the user, whatever the table is called, whatever its
columns are and however they are named in tokens.

- `Service.Registered`: a call of a run created the user with the record.
- `Service.Registered.authenticate`: the password opens the record in every
  later state.
- `Service.registered_token_verifies`: the tokens of a registered user verify
  until they expire.
-/

namespace BearerAuth.Service

open Time

/-- A service that starts has checked lifetimes, the schema that it was given and no users.
-/
theorem of_ofSettings {schema : Schema} {settings : Settings} {s : Service}
    (h : ofSettings schema settings = .ok s) :
    s.engine.Checked ∧ s.schema = schema ∧ s.users = .empty := by
  unfold ofSettings at h
  split at h
  · cases h
  · next engine hengine =>
    cases h
    obtain ⟨hchecked, hschema⟩ := Engine.of_ofSettings hengine
    exact ⟨hchecked, (Option.some.inj hschema).symm, rfl⟩

/-- A call of the run created the user with the record and gave the password for
it. -/
def Registered (s : Service) (calls : List Call) (username password : String) (record : Fields) :
    Prop :=
  ∃ past salt supplied future next,
    calls = past ++ .createUser salt supplied :: future ∧
    (s.run past).createUser salt supplied = .ok (.ok next) ∧
    s.schema.prepare salt supplied = .ok (.ok record) ∧
    record.get? s.schema.username.name = some username ∧
    s.schema.passwordGiven supplied = some password

namespace Registered

variable {s : Service} {calls : List Call} {username password : String} {record : Fields}

/-- The record stays as it was created. -/
theorem get?_run (h : s.Registered calls username password record) :
    (s.run calls).users.get? username = some record := by
  obtain ⟨past, salt, supplied, future, next, rfl, hcreate, hprepare, hname, -⟩ := h
  obtain ⟨users, husers, hnext⟩ := createUser_eq_ok_iff.1 hcreate
  rw [run_schema] at husers
  obtain ⟨created, hcreated, hfound⟩ := Users.get?_created husers
  obtain rfl : created = record := Except.ok.inj (Except.ok.inj (hcreated.symm.trans hprepare))
  have hnameOf : s.schema.nameOf created = username := by
    rw [Schema.nameOf, hname, Option.getD_some]
  -- the record is there right after its call, and users come to stay
  rw [run_append, run_cons, after_createUser hcreate]
  refine Service.get?_run ?_ future
  rw [hnext, ← hnameOf]
  exact hfound

/-- The password opens the record in every later state. -/
theorem authenticate (hvalid : s.schema.Valid) (h : s.Registered calls username password record) :
    (s.run calls).users.authenticate username password = .ok (record.erase passwordColumn) := by
  rw [Users.authenticate, h.get?_run]
  obtain ⟨past, salt, supplied, future, next, -, -, hprepare, -, hpassword⟩ := h
  exact unlock_prepared (hvalid.prepared_of_prepare hprepare) hpassword

/-- If the password is not the key of the table, the record stands for the user
it is stored for. -/
theorem usernameOf (hkey : s.schema.username.name ≠ passwordColumn)
    (h : s.Registered calls username password record) :
    s.schema.usernameOf (record.erase passwordColumn) = some username := by
  obtain ⟨past, salt, supplied, future, next, -, -, -, hname, -⟩ := h
  have hpassword : ¬s.schema.username.isPassword = true := by
    rw [Column.isPassword, beq_iff_eq]
    exact hkey
  rw [Schema.usernameOf_erase, Schema.usernameOf, Schema.usernameSource?, if_neg hpassword]
  exact hname

/-- The claims of the record identify that user, if the record holds a role. -/
theorem identity (hvalid : s.schema.Valid) (hkey : s.schema.username.name ≠ passwordColumn)
    (h : s.Registered calls username password record) (now : Instant) :
    (s.engine.issuedClaims now (record.erase passwordColumn)).identity s.schema =
      match s.schema.roleOf record with
      | none => .error .missingRole
      | some role => .ok { username, role := some role } := by
  have hidentity := hvalid.identity_of_fields
    (c := s.engine.issuedClaims now (record.erase passwordColumn)) rfl
  rw [h.usernameOf hkey, Schema.roleOf_erase] at hidentity
  exact hidentity

/-- A registered user who logs in gets a token for the claims of the record, without the
password. -/
theorem generateToken_eq (hchecked : s.engine.Checked) (hvalid : s.schema.Valid)
    (h : s.Registered calls username password record) {now : Instant}
    (hnow : 0 ≤ now.nanoseconds)
    (hexpiry : (now.later s.engine.tokenLifetime).nanoseconds < Instant.calendarEnd.nanoseconds) :
    (s.run calls).generateToken now username password =
      .ok (s.engine.writeAccess (s.engine.issuedClaims now (record.erase passwordColumn))) := by
  rw [generateToken, h.authenticate hvalid, run_engine]
  exact Engine.accessFor_eq hchecked hnow hexpiry _

end Registered

/-! ## A member -/

/-- The service of the members, without users. -/
def memberService : Service where
  engine := .memberEngine
  users := .empty

theorem ofSettings_memberSettings : ofSettings .members Engine.memberSettings = .ok memberService :=
  rfl

/-- What Ada signs up with. -/
def adaSupplied : Fields :=
  (NameMap.empty.insert "email" "ada@example.org").insert "password" "correct horse"

/-- The salt under which Ada's password is hashed. -/
def adaSalt : Password.Salt := Vector.replicate 16 7

/-- How Ada signs up. -/
def adaSignup : Call := .createUser adaSalt adaSupplied

/-- The record of Ada. -/
def adaRecord : Fields :=
  ((NameMap.empty.insert "email" "ada@example.org").insert "grade" "guest").insert "password"
    (Password.hash adaSalt "correct horse")

theorem prepare_adaSupplied :
    Schema.members.prepare adaSalt adaSupplied = .ok (.ok adaRecord) := rfl

/-- Ada is registered by her sign-up, whatever happens after it. -/
theorem registered_ada (future : List Call) :
    memberService.Registered (adaSignup :: future) "ada@example.org" "correct horse" adaRecord := by
  have hcreate : memberService.users.create .members adaSalt adaSupplied =
      .ok (.ok (memberService.users.concat "ada@example.org" adaRecord)) :=
    Users.create_eq_ok_iff.2 ⟨adaRecord, prepare_adaSupplied, rfl, rfl⟩
  exact ⟨[], adaSalt, adaSupplied, future, _, rfl, createUser_eq_ok_iff.2 ⟨_, hcreate, rfl⟩,
    prepare_adaSupplied, rfl, rfl⟩

/-! ## Registered users -/

/-- The tokens of a registered user verify until they expire. An access token
tells the role that the record holds, and is refused for the lack of one exactly
if the record holds none. -/
theorem registered_token_verifies {table : TableDescription} {schema : Schema}
    (hschema : Schema.ofDescription table = .ok schema) {settings : Settings} {s : Service}
    (hs : ofSettings schema settings = .ok s) (hkey : schema.username.name ≠ passwordColumn)
    {calls : List Call} {username password : String} {record : Fields}
    (h : s.Registered calls username password record) {now : Instant}
    (hnow : 0 ≤ now.nanoseconds) (address : String) :
    (s.run calls).users.get? username = some record ∧
    ((now.later s.engine.tokenLifetime).nanoseconds < Instant.calendarEnd.nanoseconds →
      ∃ token, (s.run calls).generateToken now username password = .ok token ∧
        ∀ t : Instant, t.nanoseconds ≤ now.nanoseconds + s.engine.tokenLifetime.nanoseconds →
          (∀ role, schema.roleOf record = some role →
            (s.run calls).engine.verify t .access token =
              .ok { username, role := some role }) ∧
          ((s.run calls).engine.verify t .access token = .error .missingRole ↔
            schema.roleOf record = none)) ∧
    ((now.later s.engine.refreshTtl).nanoseconds < Instant.calendarEnd.nanoseconds →
      (now.later s.engine.refreshAbsoluteTtl).nanoseconds < Instant.calendarEnd.nanoseconds →
      ∃ token, (s.run calls).engine.issueRefresh now username address = .ok token ∧
        ∀ t : Instant, t.nanoseconds ≤ now.nanoseconds + s.engine.refreshTtl.nanoseconds →
          (s.engine.ceiling = .enforced →
            t.nanoseconds ≤ now.nanoseconds + s.engine.refreshAbsoluteTtl.nanoseconds) →
          (s.run calls).engine.verify t .refresh token = .ok { username, role := none }) := by
  obtain ⟨hchecked, rfl, -⟩ := of_ofSettings hs
  have hvalid : s.schema.Valid := Schema.valid_of_ofDescription hschema
  refine ⟨h.get?_run, fun hexpiry => ?_, fun hexpiry habsolute => ?_⟩
  · refine ⟨s.engine.writeAccess (s.engine.issuedClaims now (record.erase passwordColumn)), ?_,
      fun t huntil => ?_⟩
    · exact h.generateToken_eq hchecked hvalid hnow hexpiry
    · -- until the expiry the answer is whom the claims identify, and these are the record's
      have hverify := Engine.verify_accessFor hchecked hnow hvalid hexpiry
        (record.erase passwordColumn) huntil
      have hidentity := h.identity hvalid hkey now
      rw [run_engine, hverify, ← schema, hidentity]
      cases hrole : s.schema.roleOf record with
      | none =>
        refine ⟨fun role hother => ?_, fun _ => rfl, fun _ => rfl⟩
        cases hother
      | some role =>
        refine ⟨fun other hother => ?_, fun hmissing => ?_, fun hnone => ?_⟩
        · obtain rfl := Option.some.inj hother
          rfl
        · cases hmissing
        · cases hnone
  · refine ⟨s.engine.writeRefresh (s.engine.issuedRefreshClaims now username address), ?_,
      fun t huntil hceiling => ?_⟩
    · rw [run_engine]
      exact Engine.issueRefresh_eq hchecked hnow hexpiry habsolute username address
    · rw [run_engine]
      exact Engine.verify_issueRefresh hchecked hnow hexpiry habsolute username address huntil
        hceiling

/-- Ada's token tells her grade as her role, up to the second in which it
expires, also after somebody has tried to sign up in her name. -/
theorem registered_token_verifies_ada :
    Schema.ofDescription Schema.membersTable = .ok .members ∧
      ofSettings .members Engine.memberSettings = .ok memberService ∧
      Schema.members.username.name ≠ passwordColumn ∧
      memberService.Registered [adaSignup, adaSignup] "ada@example.org" "correct horse" adaRecord ∧
      0 ≤ (Instant.ofSeconds 60).nanoseconds ∧
      ∃ token, (memberService.run [adaSignup, adaSignup]).generateToken (.ofSeconds 60)
          "ada@example.org" "correct horse" = .ok token ∧
        (memberService.run [adaSignup, adaSignup]).engine.verify (.ofSeconds 360) .access token =
          .ok { username := "ada@example.org", role := some "guest" } := by
  have hregistered := registered_ada [adaSignup]
  obtain ⟨-, haccess, -⟩ := registered_token_verifies Schema.ofDescription_membersTable
    ofSettings_memberSettings (by decide) hregistered
    (show 0 ≤ (Instant.ofSeconds 60).nanoseconds by decide) "10.0.0.1"
  obtain ⟨token, hissue, hverify⟩ := haccess (by decide)
  exact ⟨Schema.ofDescription_membersTable, ofSettings_memberSettings, by decide, hregistered,
    by decide, token, hissue, (hverify (.ofSeconds 360) (by decide)).1 "guest" rfl⟩

end BearerAuth.Service
