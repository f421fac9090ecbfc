import BearerAuth.Proofs.Service.Login
import BearerAuth.Proofs.Token.Renewal

/-!
# Where access tokens come from

Suppose that nobody can sign but the engine. Then the claims of the user in
every access token that is accepted or renewed are those of a record that an
earlier login opened with its password: no call makes up a claim, and a renewal
only copies them, however long the chain of renewals is. Refresh tokens may be
signed under the same secret, as they never read as access tokens.

- `Service.Unforgeable`: every signed token that is presented in a run was given
  away earlier in it.
- `Service.Vouched`: an earlier login opened the record.
- `Service.Carries`: a signed token has the claims of the record.
- `Service.Made`: where the tokens come from that a run gives away.
  `made_answer` is one call and `made_of_returned` a whole run.
- `Service.accepted_token_vouched`: whom an accepted or renewed token stands
  for.
-/

namespace BearerAuth.Service

open Time

/-- Every signed token that is presented with a call was given away by an
earlier one. -/
def Unforgeable (s : Service) (calls : List Call) : Prop :=
  ∀ past call future, calls = past ++ call :: future →
    ∀ token ∈ call.presented, Signed.Authentic s.engine.accessSecret token → token ∈ s.returned past

/-- An earlier login opened the record with its password. -/
def Vouched (s : Service) (past : List Call) (record : Fields) : Prop :=
  ∃ before now username password between,
    past = before ++ .generateToken now username password :: between ∧
    (s.run before).users.authenticate username password = .ok record

/-- A token is signed, and its claims of the user are those of the record. -/
def Carries (s : Service) (token : String) (record : Fields) : Prop :=
  Signed.Authentic s.engine.accessSecret token ∧
    ∃ c, Signed.recover AccessClaims.ofJson? token = .ok c ∧ c.fields = s.schema.claims record

/-- A token was signed here: as an access token with the claims of a record that
an earlier login opened, or as a refresh token. -/
def Made (s : Service) (past : List Call) (token : String) : Prop :=
  (∃ record c, s.Vouched past record ∧ token = s.engine.writeAccess c ∧
    c.fields = s.schema.claims record) ∨
  ∃ c, token = s.engine.writeRefresh c

variable {s : Service}

/-- A run without forged tokens has none in its beginning. -/
theorem Unforgeable.of_append {past future : List Call} (h : s.Unforgeable (past ++ future)) :
    s.Unforgeable past := by
  rintro before call between rfl
  exact h before call (between ++ future) (by rw [List.append_assoc, List.cons_append])

/-- A call keeps a run free of forged tokens if all signed tokens that it
presents were given away. -/
theorem Unforgeable.concat {calls : List Call} (h : s.Unforgeable calls) (call : Call)
    (hcall : ∀ token ∈ call.presented, Signed.Authentic s.engine.accessSecret token →
      token ∈ s.returned calls) : s.Unforgeable (calls ++ [call]) := by
  intro past other future hsplit
  rcases future.eq_nil_or_concat with rfl | ⟨between, last, rfl⟩
  · obtain ⟨rfl, hlast⟩ := List.append_inj' hsplit rfl
    obtain rfl := List.singleton_inj.1 hlast
    exact hcall
  · -- the call is not the new one
    rw [List.concat_eq_append, ← List.cons_append, ← List.append_assoc] at hsplit
    obtain ⟨hcalls, -⟩ := List.append_inj' hsplit rfl
    exact h past other between hcalls

/-- A login that vouches for a record does so for good. -/
theorem Vouched.append {past : List Call} {record : Fields} (h : s.Vouched past record)
    (future : List Call) : s.Vouched (past ++ future) record := by
  obtain ⟨before, now, username, password, between, rfl, hlogin⟩ := h
  exact ⟨before, now, username, password, between ++ future,
    by rw [List.append_assoc, List.cons_append], hlogin⟩

/-- A token that was made stays one that was made. -/
theorem Made.append {past : List Call} {token : String} (h : s.Made past token)
    (future : List Call) : s.Made (past ++ future) token := by
  rcases h with ⟨record, c, hvouched, htoken, hfields⟩ | h
  · exact .inl ⟨record, c, hvouched.append future, htoken, hfields⟩
  · exact .inr h

/-- The claims of a token that was made here and that reads as an access token
are those of a record that an earlier login opened. -/
theorem Made.vouched (hvalid : s.schema.Valid) {past : List Call} {token : String}
    (h : s.Made past token) {c : AccessClaims} (hc : s.engine.signedAccess token = .ok c) :
    ∃ record, s.Vouched past record ∧ c.fields = s.schema.claims record := by
  rcases h with ⟨record, d, hvouched, rfl, hfields⟩ | ⟨d, rfl⟩
  · -- what was signed is what is read
    obtain rfl := Engine.eq_of_signedAccess_writeAccess (hvalid.proper_of_fields hfields) hc
    exact ⟨record, hvouched, hfields⟩
  · -- this holds even if both secrets are the same
    exact absurd hc (Engine.signedAccess_writeRefresh_ne s.engine d c)

/-- A token that is written for the claims of a record carries the record. -/
theorem carries_writeAccess (hvalid : s.schema.Valid) {c : AccessClaims} {record : Fields}
    (hfields : c.fields = s.schema.claims record) : s.Carries (s.engine.writeAccess c) record :=
  have hproper := hvalid.proper_of_fields hfields
  ⟨Signed.authentic_write _ _, c, Engine.recover_writeAccess s.engine hproper, hfields⟩

/-! ## One call -/

/-- An access token that is read was given away earlier, and so stands for a
login. -/
theorem vouched_of_signedAccess (hvalid : s.schema.Valid) {past : List Call} {call : Call}
    (hforge : s.Unforgeable (past ++ [call])) (hmade : ∀ token ∈ s.returned past, s.Made past token)
    {token : String} (htoken : token ∈ call.presented) {c : AccessClaims}
    (hc : s.engine.signedAccess token = .ok c) :
    ∃ record, s.Vouched past record ∧ c.fields = s.schema.claims record := by
  have hauthentic := (Engine.of_signedAccess hc).2
  have hreturned := hforge past call [] rfl token htoken hauthentic
  exact (hmade token hreturned).vouched hvalid hc

/-- A call gives away tokens that were made here, if all earlier ones were. -/
theorem made_answer (hvalid : s.schema.Valid) {past : List Call} {call : Call}
    (hforge : s.Unforgeable (past ++ [call]))
    (hmade : ∀ token ∈ s.returned past, s.Made past token) :
    ∀ token ∈ ((s.run past).answer call).tokens, s.Made (past ++ [call]) token := by
  intro token htoken
  have hengine := s.run_engine past
  rcases of_mem_tokens_answer htoken with ⟨now, username, password, rfl, hissue⟩ |
    ⟨now, username, address, rfl, hissue⟩ | ⟨now, access, refresh, renewal, rfl, hrenew, rfl⟩
  · unfold generateToken Engine.issueAccess at hissue
    split at hissue
    · cases hissue
    next record hlogin =>
    rw [hengine] at hissue
    obtain ⟨c, rfl, hfields⟩ := Engine.of_accessFor hissue
    exact .inl ⟨record, c, ⟨past, now, username, password, [], rfl, hlogin⟩, rfl, hfields⟩
  · rw [hengine] at hissue
    exact .inr (Engine.of_issueRefresh hissue)
  · -- the claims are those of the old token, which was given away earlier
    rw [hengine] at hrenew
    obtain ⟨-, c, -, -, hc, -, hstamp, -⟩ := Engine.of_renew hrenew
    obtain ⟨d, hd, hfields⟩ := Engine.of_restamp hstamp
    obtain ⟨record, hvouched, hclaims⟩ :=
      vouched_of_signedAccess hvalid hforge hmade List.mem_cons_self hc
    exact .inl ⟨record, d, hvouched.append _, hd, hfields.trans hclaims⟩

/-! ## Whole runs -/

/-- All tokens that are given away were made here, if that holds of the calls so
far. -/
theorem made_of_returned_append (hvalid : s.schema.Valid) {past : List Call}
    (hmade : ∀ token ∈ s.returned past, s.Made past token) {future : List Call}
    (hforge : s.Unforgeable (past ++ future)) :
    ∀ token ∈ s.returned (past ++ future), s.Made (past ++ future) token := by
  induction future generalizing past with
  | nil =>
    rw [List.append_nil]
    exact hmade
  | cons call rest ih =>
    -- the next call joins the calls so far, whose tokens were all made here
    rw [← List.singleton_append, ← List.append_assoc] at hforge ⊢
    refine ih (fun token htoken => ?_) hforge
    rw [returned_concat, List.mem_append] at htoken
    rcases htoken with htoken | htoken
    · exact (hmade token htoken).append [call]
    · exact made_answer hvalid hforge.of_append hmade token htoken

/-- All tokens that a run gives away were made here. -/
theorem made_of_returned (hvalid : s.schema.Valid) {calls : List Call}
    (hforge : s.Unforgeable calls) : ∀ token ∈ s.returned calls, s.Made calls token :=
  have hnone : ∀ token ∈ s.returned [], s.Made [] token := fun _ h => absurd h List.not_mem_nil
  made_of_returned_append hvalid hnone hforge

/-- Claims that carry a record on identify the user and the role of the record. -/
theorem identity_of_fields_eq_ok (hvalid : s.schema.Valid) {c : AccessClaims} {record : Fields}
    (hfields : c.fields = s.schema.claims record) {who : Identity}
    (h : c.identity s.schema = .ok who) :
    s.schema.usernameOf record = some who.username ∧ s.schema.roleOf record = who.role := by
  rw [hvalid.identity_of_fields hfields] at h
  split at h
  · cases h
  next username husername =>
  split at h
  · cases h
  next role hrole =>
  cases h
  exact ⟨husername, hrole⟩

/-! ## A member's renewal -/

/-- The claims of the token that Ada gets in the second minute of 1970. -/
def adaClaims : AccessClaims :=
  Engine.memberEngine.issuedClaims (.ofSeconds 60) (adaRecord.erase passwordColumn)

/-- The token that Ada gets. -/
def adaAccess : String := Engine.memberEngine.writeAccess adaClaims

/-- The refresh token that Ada gets with it. -/
def adaRefresh : String :=
  Engine.memberEngine.writeRefresh
    (Engine.memberEngine.issuedRefreshClaims (.ofSeconds 60) "ada@example.org" "10.0.0.1")

/-- The token that Ada has after a renewal. -/
def adaRenewed : String :=
  Engine.memberEngine.writeAccess (Engine.memberEngine.restamped (.ofSeconds 600) adaClaims)

/-- Ada logs in. -/
def adaLogin : Call := .generateToken (.ofSeconds 60) "ada@example.org" "correct horse"

/-- Ada asks for a refresh token. -/
def adaRequest : Call := .generateRefreshToken (.ofSeconds 60) "ada@example.org" "10.0.0.1"

/-- Ada renews her token when it has expired. -/
def adaRenewal : Call := .refreshToken (.ofSeconds 600) adaAccess adaRefresh

/-- Ada presents the new token. -/
def adaVisit : Call := .verifyToken (.ofSeconds 700) .access adaRenewed

theorem checked_memberEngine : Engine.memberEngine.Checked :=
  (Engine.of_ofSettings Engine.ofSettings_memberSettings).1

theorem valid_memberService : memberService.schema.Valid :=
  Schema.valid_of_ofDescription Schema.ofDescription_membersTable

/-- Ada logs in a minute after the start. -/
theorem generateToken_ada :
    (memberService.run [adaSignup]).generateToken (.ofSeconds 60) "ada@example.org"
      "correct horse" = .ok adaAccess :=
  (registered_ada []).generateToken_eq checked_memberEngine valid_memberService (by decide)
    (by decide)

theorem issueRefresh_ada :
    Engine.memberEngine.issueRefresh (.ofSeconds 60) "ada@example.org" "10.0.0.1" =
      .ok adaRefresh :=
  Engine.issueRefresh_eq checked_memberEngine (by decide) (by decide) (by decide) _ _

/-- The refresh token of Ada is accepted nine minutes later. -/
theorem verify_adaRefresh :
    Engine.memberEngine.verify (.ofSeconds 600) .refresh adaRefresh =
      .ok { username := "ada@example.org", role := none } :=
  Engine.verify_issueRefresh checked_memberEngine (by decide) (by decide) (by decide) _ _
    (by decide) (by decide)

/-- There is time enough for a renewal. -/
theorem stampable_ada : Engine.memberEngine.Stampable (.ofSeconds 600) where
  expiry := by decide
  stamp := by decide

theorem proper_adaClaims : adaClaims.Proper := valid_memberService.proper_of_fields rfl

theorem signedAccess_adaAccess : Engine.memberEngine.signedAccess adaAccess = .ok adaClaims :=
  Engine.signedAccess_writeAccess _ proper_adaClaims (by decide)

theorem identity_adaClaims :
    adaClaims.identity .members = .ok { username := "ada@example.org", role := some "guest" } :=
  (registered_ada []).identity valid_memberService (by decide) _

/-- Her two tokens are renewed. -/
theorem renew_ada :
    Engine.memberEngine.renew (.ofSeconds 600) adaAccess adaRefresh =
      .ok { accessToken := adaRenewed, username := "ada@example.org" } :=
  Engine.renew_of_stampable stampable_ada verify_adaRefresh
    signedAccess_adaAccess identity_adaClaims

/-- The renewed token is accepted for the name and the role of Ada. -/
theorem verify_adaRenewed :
    Engine.memberEngine.verify (.ofSeconds 700) .access adaRenewed =
      .ok { username := "ada@example.org", role := some "guest" } := by
  have hverify : Engine.memberEngine.verify (.ofSeconds 700) .access adaRenewed =
      adaClaims.identity .members :=
    Engine.verify_restamped checked_memberEngine (by decide) stampable_ada proper_adaClaims
      (by decide)
  rw [hverify, identity_adaClaims]

/-- The login has returned the first token. -/
theorem adaAccess_mem_returned (future : List Call) :
    adaAccess ∈ memberService.returned ([adaSignup] ++ adaLogin :: future) := by
  refine mem_returned [adaSignup] future ?_
  rw [adaLogin, answer_generateToken.2 generateToken_ada]
  exact List.mem_singleton_self adaAccess

/-- The request has returned the refresh token. -/
theorem adaRefresh_mem_returned (future : List Call) :
    adaRefresh ∈ memberService.returned ([adaSignup, adaLogin] ++ adaRequest :: future) := by
  refine mem_returned [adaSignup, adaLogin] future ?_
  have hanswer :
      (memberService.run [adaSignup, adaLogin]).answer adaRequest = .token adaRefresh := by
    refine answer_generateRefreshToken.2 ?_
    rw [run_engine]
    exact issueRefresh_ada
  rw [hanswer]
  exact List.mem_singleton_self adaRefresh

/-- The renewal has returned the second token. -/
theorem adaRenewed_mem_returned (future : List Call) :
    adaRenewed ∈
      memberService.returned ([adaSignup, adaLogin, adaRequest] ++ adaRenewal :: future) := by
  refine mem_returned [adaSignup, adaLogin, adaRequest] future ?_
  have hanswer : (memberService.run [adaSignup, adaLogin, adaRequest]).answer adaRenewal =
      .renewal { accessToken := adaRenewed, username := "ada@example.org" } := by
    refine answer_refreshToken.2 ?_
    rw [run_engine]
    exact renew_ada
  rw [hanswer]
  exact List.mem_singleton_self adaRenewed

/-- Ada presents nothing but what she was given. -/
theorem unforgeable_ada :
    memberService.Unforgeable [adaSignup, adaLogin, adaRequest, adaRenewal, adaVisit] := by
  have hnone : memberService.Unforgeable [] := fun past call future h => by simp at h
  have hsignup := hnone.concat adaSignup fun _ h => absurd h List.not_mem_nil
  have hlogin := hsignup.concat adaLogin fun _ h => absurd h List.not_mem_nil
  have hrequest := hlogin.concat adaRequest fun _ h => absurd h List.not_mem_nil
  have hrenewal := hrequest.concat adaRenewal fun token htoken _ => by
    rcases List.mem_cons.1 htoken with rfl | htoken
    · exact adaAccess_mem_returned [adaRequest]
    · obtain rfl := List.mem_singleton.1 htoken
      exact adaRefresh_mem_returned []
  exact hrenewal.concat adaVisit fun token htoken _ => by
    obtain rfl := List.mem_singleton.1 htoken
    exact adaRenewed_mem_returned []

/-- The last visit is answered with the identity of Ada. -/
theorem answer_adaVisit :
    (memberService.run [adaSignup, adaLogin, adaRequest, adaRenewal]).answer adaVisit =
      .identity { username := "ada@example.org", role := some "guest" } := by
  refine answer_verifyToken.2 ?_
  rw [run_engine]
  exact verify_adaRenewed

/-! ## Accepted tokens -/

/-- In a run in which nothing is forged, every access token that is accepted and
every token that a renewal returns carries the claims of a record that an
earlier login opened with its password, and the user and the role that are
reported are those of the record. -/
theorem accepted_token_vouched {table : TableDescription} {s : Service}
    (hschema : Schema.ofDescription table = .ok s.schema) {calls : List Call}
    (hforge : s.Unforgeable calls) {past future : List Call} {call : Call}
    (hcalls : calls = past ++ call :: future) :
    (∀ now token who, call = .verifyToken now .access token →
      (s.run past).answer call = .identity who →
      ∃ record, s.Vouched past record ∧ s.Carries token record ∧
        s.schema.usernameOf record = some who.username ∧ s.schema.roleOf record = who.role) ∧
    (∀ now access refresh renewal, call = .refreshToken now access refresh →
      (s.run past).answer call = .renewal renewal →
      ∃ record, s.Vouched past record ∧ s.Carries renewal.accessToken record ∧
        s.schema.usernameOf record = some renewal.username) := by
  have hvalid : s.schema.Valid := Schema.valid_of_ofDescription hschema
  have hengine := s.run_engine past
  rw [hcalls, List.append_cons] at hforge
  have hpast : s.Unforgeable (past ++ [call]) := hforge.of_append
  have hmade := made_of_returned hvalid hpast.of_append
  refine ⟨?_, ?_⟩
  · rintro now token who rfl hanswer
    have hverify := answer_verifyToken.1 hanswer
    rw [hengine] at hverify
    obtain ⟨c, hc, hidentity⟩ := Engine.of_verify_access hverify
    obtain ⟨record, hvouched, hfields⟩ :=
      vouched_of_signedAccess hvalid hpast hmade (List.mem_singleton_self token) hc
    have htells := Engine.says_of_signedAccess hc
    exact ⟨record, hvouched, ⟨htells.authentic, c, htells.recovered, hfields⟩,
      identity_of_fields_eq_ok hvalid hfields hidentity⟩
  · rintro now access refresh renewal rfl hanswer
    have hrenew := answer_refreshToken.1 hanswer
    rw [hengine] at hrenew
    obtain ⟨-, c, whose, -, hc, hwhose, hstamp, husername⟩ := Engine.of_renew hrenew
    obtain ⟨record, hvouched, hfields⟩ :=
      vouched_of_signedAccess hvalid hpast hmade List.mem_cons_self hc
    -- the renewed token has the claims of the one presented
    obtain ⟨d, hd, hcopied⟩ := Engine.of_restamp hstamp
    refine ⟨record, hvouched, ?_, ?_⟩
    · rw [hd]
      exact carries_writeAccess hvalid (hcopied.trans hfields)
    · rw [husername]
      exact (identity_of_fields_eq_ok hvalid hfields hwhose).1

/-- The token with which Ada comes back after a renewal carries the claims of
the record that her login opened. -/
theorem accepted_token_vouched_ada :
    Schema.ofDescription Schema.membersTable = .ok memberService.schema ∧
      memberService.Unforgeable [adaSignup, adaLogin, adaRequest, adaRenewal, adaVisit] ∧
      (memberService.run [adaSignup, adaLogin, adaRequest, adaRenewal]).answer adaVisit =
        .identity { username := "ada@example.org", role := some "guest" } ∧
      ∃ record, memberService.Vouched [adaSignup, adaLogin, adaRequest, adaRenewal] record ∧
        memberService.Carries adaRenewed record ∧
        Schema.members.usernameOf record = some "ada@example.org" ∧
        Schema.members.roleOf record = some "guest" := by
  have hsplit : [adaSignup, adaLogin, adaRequest, adaRenewal, adaVisit] =
      [adaSignup, adaLogin, adaRequest, adaRenewal] ++ adaVisit :: [] := rfl
  have hvouched := (accepted_token_vouched Schema.ofDescription_membersTable unforgeable_ada
    hsplit).1 _ _ _ rfl answer_adaVisit
  exact ⟨Schema.ofDescription_membersTable, unforgeable_ada, answer_adaVisit, hvouched⟩

end BearerAuth.Service
