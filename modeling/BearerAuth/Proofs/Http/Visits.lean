import BearerAuth.Http.Router
import BearerAuth.Proofs.Service.Login
import BearerAuth.Proofs.Store.Refusals
import BearerAuth.Proofs.Token.Refusals

/-!
# What requests do to a service

Requests of any kind reach a service, in any order. A request creates one user and says
so, or it leaves the service as it is; and as long as the clock allows for tokens the
service never has to say that it failed itself.

- `Http.Operation.Fails`, `Http.Operation.Reports`: the failures of an operation, and the
  statuses with which it is answered when nothing changes.
- `Service.perform_cases`, `Service.respond_cases`: all that may come of one request.
- `Service.status_of_fails`: what an operation reports is the fault of the request.
- `Service.Visit`, `Service.visitedBy`, `Service.responses`: one request after the other.
- `Service.visits_outcome`: what holds after any number of requests, and of the next.
-/

namespace BearerAuth

open Time Http

/-! ## Statuses -/

/-- Faults of what is supplied are the fault of the request. -/
theorem Schema.Faults.status {s : Schema} {why : StoreError} (h : s.Faults why) :
    why.status = 400 := by
  obtain ⟨c, -, rfl | rfl⟩ := h
  · rfl
  · rfl

/-- A token that is refused is an authentication that failed. -/
theorem TokenError.AboutToken.status {why : TokenError} (h : why.AboutToken) :
    why.status = 401 := by
  cases why with
  | store cause => exact h.elim
  | timeOutOfRange => exact h.elim
  | _ => rfl

theorem StoreError.status_ne_created (why : StoreError) : why.status ≠ 201 := by
  cases why <;> simp [status]

theorem TokenError.status_ne_created (why : TokenError) : why.status ≠ 201 := by
  cases why with
  | store cause => exact cause.status_ne_created
  | _ => decide

theorem Http.HeaderError.status_response (e : HeaderError) : e.response.status = 400 := by
  cases e with
  | invalid name => rfl
  | missing name => rfl

/-! ## One request -/

/-- The failures that an operation may report, apart from those about headers. -/
def Http.Operation.Fails (s : Service) (now : Instant) : Operation → TokenError → Prop
  | .createUser, why => ∃ cause, why = .store cause ∧ (s.schema.Faults cause ∨ cause = .userExists)
  | .generateToken, why => ∃ username password address,
      s.login now username password address = .error why
  | .verifyToken, why => ∃ token, s.engine.verify now .access token = .error why
  | .refreshToken, why => ∃ access refresh, s.engine.renew now access refresh = .error why

/-- The statuses with which an operation is answered that changes nothing. -/
def Http.Operation.Reports (s : Service) (now : Instant) (o : Operation) (status : Nat) : Prop :=
  status = 200 ∨ status = 400 ∨ ∃ why, o.Fails s now why ∧ status = why.status

namespace Service

variable {s next : Service} {now : Instant} {salt : Password.Salt} {r : Request}
  {response : Response}

/-- A login reports whether a token was issued. -/
theorem reports_generateTokenResponse (s : Service) (now : Instant) (r : Request) :
    Operation.generateToken.Reports s now (s.generateTokenResponse now r).status := by
  unfold generateTokenResponse
  cases r.credentials with
  | error e => exact .inr (.inl e.status_response)
  | ok given =>
    obtain ⟨username, password⟩ := given
    dsimp only
    cases hlogin : s.login now username password (r.peer.getD "unknown") with
    | error why => exact .inr (.inr ⟨why, ⟨_, _, _, hlogin⟩, rfl⟩)
    | ok tokens => exact .inl rfl

/-- A verification reports whether the token was accepted. -/
theorem reports_verifyTokenResponse (s : Service) (now : Instant) (r : Request) :
    Operation.verifyToken.Reports s now (s.verifyTokenResponse now r).status := by
  unfold verifyTokenResponse
  cases r.accessToken with
  | error e => exact .inr (.inl e.status_response)
  | ok token =>
    dsimp only
    cases hverify : s.engine.verify now .access token with
    | error why => exact .inr (.inr ⟨why, ⟨_, hverify⟩, rfl⟩)
    | ok who => exact .inl rfl

/-- A renewal reports whether the pair was renewed. -/
theorem reports_refreshTokenResponse (s : Service) (now : Instant) (r : Request) :
    Operation.refreshToken.Reports s now (s.refreshTokenResponse now r).status := by
  unfold refreshTokenResponse
  cases r.accessToken with
  | error e => exact .inr (.inl e.status_response)
  | ok access =>
    dsimp only
    cases r.refreshToken with
    | error e => exact .inr (.inl e.status_response)
    | ok refresh =>
      dsimp only
      cases hrenew : s.engine.renew now access refresh with
      | error why => exact .inr (.inr ⟨why, ⟨_, _, hrenew⟩, rfl⟩)
      | ok renewal => exact .inl rfl

/-- A service that does not create a user has users who do not take it. -/
theorem create_of_createUser_error {supplied : Fields} {why : StoreError}
    (h : s.createUser salt supplied = .ok (.error why)) :
    s.users.create s.schema salt supplied = .ok (.error why) := by
  unfold createUser at h
  split at h
  · cases h
  · next hcreate =>
    cases h
    exact hcreate
  · cases h

/-- A request for a new user creates one and says so, or it changes nothing. -/
theorem createUserResponse_cases (hs : s.schema.Valid)
    (h : s.createUserResponse salt r = .ok (response, next)) :
    (response.status = 201 ∧ ∃ supplied, s.createUser salt supplied = .ok (.ok next)) ∨
    next = s ∧ Operation.createUser.Reports s now response.status := by
  unfold createUserResponse at h
  cases hfields : r.userFields s.schema with
  | error e =>
    rw [hfields] at h
    cases h
    exact .inr ⟨rfl, .inr (.inl e.status_response)⟩
  | ok supplied =>
    rw [hfields] at h
    dsimp only at h
    rcases hcreate : s.createUser salt supplied with fault | why | created
    · rw [hcreate] at h
      cases h
    · rw [hcreate] at h
      cases h
      refine .inr ⟨rfl, .inr (.inr ⟨.store why, ⟨why, rfl, ?_⟩, rfl⟩)⟩
      exact Users.error_of_create hs (create_of_createUser_error hcreate)
    · rw [hcreate] at h
      cases h
      exact .inl ⟨rfl, supplied, hcreate⟩

/-- What may come of a request for an operation. -/
theorem perform_cases (hs : s.schema.Valid) {o : Operation}
    (h : s.perform now salt r o = .ok (response, next)) :
    (o = .createUser ∧ response.status = 201 ∧
      ∃ supplied, s.createUser salt supplied = .ok (.ok next)) ∨
    next = s ∧ o.Reports s now response.status := by
  cases o with
  | createUser =>
    rcases createUserResponse_cases hs h with ⟨hstatus, hcreated⟩ | hunchanged
    · exact .inl ⟨rfl, hstatus, hcreated⟩
    · exact .inr hunchanged
  | generateToken =>
    cases h
    exact .inr ⟨rfl, reports_generateTokenResponse s now r⟩
  | verifyToken =>
    cases h
    exact .inr ⟨rfl, reports_verifyTokenResponse s now r⟩
  | refreshToken =>
    cases h
    exact .inr ⟨rfl, reports_refreshTokenResponse s now r⟩

/-- The health of a service is reported for one method only. -/
theorem status_healthResponse (method : String) :
    (healthResponse method).status = 200 ∨ (healthResponse method).status = 405 := by
  unfold healthResponse
  split
  · exact .inl rfl
  · split
    · exact .inl rfl
    · exact .inr rfl

/-- Users are created at one path only. -/
theorem eq_of_ofPath? {path : String} (h : Operation.ofPath? path = some .createUser) :
    path = "/createUser" := by
  unfold Operation.ofPath? at h
  split at h
  · next hpath => exact hpath
  · split at h
    · cases h
    · split at h
      · cases h
      · split at h <;> cases h

/-- A request is for an operation, or it is answered without a look at the service. -/
theorem respond_eq (s : Service) (now : Instant) (salt : Password.Salt) (r : Request) :
    (∃ o, Operation.ofPath? r.path = some o ∧ r.method = "POST" ∧
      s.respond now salt r = s.perform now salt r o) ∨
    ∃ response, response.status ∈ [200, 404, 405] ∧ s.respond now salt r = .ok (response, s) := by
  unfold respond
  by_cases hoptions : r.method = "OPTIONS"
  · rw [if_pos hoptions]
    exact .inr ⟨_, by decide, rfl⟩
  · rw [if_neg hoptions]
    cases hpath : Operation.ofPath? r.path with
    | none =>
      refine .inr ⟨_, ?_, rfl⟩
      by_cases hhealth : r.path = "/health"
      · rw [if_pos hhealth]
        rcases status_healthResponse r.method with hstatus | hstatus <;> simp [hstatus]
      · rw [if_neg hhealth]
        decide
    | some o =>
      dsimp only
      by_cases hpost : r.method = "POST"
      · rw [if_pos hpost]
        exact .inl ⟨o, rfl, hpost, rfl⟩
      · rw [if_neg hpost]
        exact .inr ⟨_, by decide, rfl⟩

/-- A response that does not speak of a new user. -/
def Reports (s : Service) (now : Instant) (response : Response) : Prop :=
  response.status ∈ [200, 404, 405] ∨ ∃ o : Operation, o.Reports s now response.status

/-- Only the creation of a user is answered as a creation. -/
theorem Reports.status_ne_created (h : s.Reports now response) : response.status ≠ 201 := by
  rcases h with hstatus | ⟨o, hstatus | hstatus | ⟨why, -, hstatus⟩⟩
  · intro hcreated
    rw [hcreated] at hstatus
    exact absurd hstatus (by decide)
  · simp [hstatus]
  · simp [hstatus]
  · rw [hstatus]
    exact why.status_ne_created

/-- What may come of a request: it creates a user and says so, or it changes nothing. -/
theorem respond_cases (hs : s.schema.Valid) (h : s.respond now salt r = .ok (response, next)) :
    (r.method = "POST" ∧ r.path = "/createUser" ∧ response.status = 201 ∧
      ∃ supplied, s.createUser salt supplied = .ok (.ok next)) ∨
    next = s ∧ s.Reports now response := by
  rcases s.respond_eq now salt r with ⟨o, hpath, hpost, hrespond⟩ | ⟨answer, hstatus, hrespond⟩
  · rw [hrespond] at h
    rcases perform_cases hs h with ⟨rfl, hcreated⟩ | ⟨hnext, hreports⟩
    · exact .inl ⟨hpost, eq_of_ofPath? hpath, hcreated⟩
    · exact .inr ⟨hnext, .inr ⟨o, hreports⟩⟩
  · rw [hrespond] at h
    cases h
    exact .inr ⟨rfl, .inl hstatus⟩

/-- Only a request for a new user may get no response. -/
theorem of_respond_eq_error {fault : CalendarOverflow} (h : s.respond now salt r = .error fault) :
    r.method = "POST" ∧ r.path = "/createUser" := by
  rcases s.respond_eq now salt r with ⟨o, hpath, hpost, hrespond⟩ | ⟨answer, -, hrespond⟩
  · rw [hrespond] at h
    cases o with
    | createUser => exact ⟨hpost, eq_of_ofPath? hpath⟩
    | generateToken => cases h
    | verifyToken => cases h
    | refreshToken => cases h
  · rw [hrespond] at h
    cases h

/-! ## Failures -/

/-- A login fails only because there is no such user or the password is another one. -/
theorem status_of_login (hs : s.schema.Valid) (hmade : s.users.MadeBy s.schema)
    (htimely : s.engine.Timely now) {username password address : String} {why : TokenError}
    (h : s.login now username password address = .error why) : why.status = 401 := by
  rcases bind_eq_error_iff.1 h with haccess | ⟨access, -, h⟩
  · rw [generateToken] at haccess
    rcases hmade.authenticate_cases hs username password with ⟨record, hlogin⟩ | hlogin | hlogin
    · rw [hlogin] at haccess
      obtain ⟨token, htoken⟩ := htimely.exists_accessFor record
      cases htoken.symm.trans haccess
    · rw [hlogin] at haccess
      cases haccess
      rfl
    · rw [hlogin] at haccess
      cases haccess
      rfl
  · rcases bind_eq_error_iff.1 h with hrefresh | ⟨refresh, -, h⟩
    · obtain ⟨token, htoken⟩ := htimely.exists_issueRefresh username address
      rw [htoken] at hrefresh
      cases hrefresh
    · cases h

/-- What an operation reports is the fault of the request, as long as there is time for
tokens. -/
theorem status_of_fails (hs : s.schema.Valid) (hmade : s.users.MadeBy s.schema)
    (htimely : s.engine.Timely now) {o : Operation} {why : TokenError} (h : o.Fails s now why) :
    why.status ∈ [400, 401, 409] := by
  cases o with
  | createUser =>
    obtain ⟨cause, rfl, hfaults | rfl⟩ := h
    · have hstatus : (TokenError.store cause).status = 400 := hfaults.status
      simp [hstatus]
    · decide
  | generateToken =>
    obtain ⟨username, password, address, hlogin⟩ := h
    simp [status_of_login hs hmade htimely hlogin]
  | verifyToken =>
    obtain ⟨token, hverify⟩ := h
    simp [(Engine.aboutToken_of_verify hverify).status]
  | refreshToken =>
    obtain ⟨access, refresh, hrenew⟩ := h
    simp [(Engine.aboutToken_of_renew htimely hrenew).status]

/-- No response says that the service has failed, as long as there is time for tokens. -/
theorem Reports.status_mem (hs : s.schema.Valid) (hmade : s.users.MadeBy s.schema)
    (htimely : s.engine.Timely now) (h : s.Reports now response) :
    response.status ∈ [200, 400, 401, 404, 405, 409] := by
  rcases h with hstatus | ⟨o, hstatus | hstatus | ⟨why, hfails, hstatus⟩⟩
  · simp only [List.mem_cons, List.not_mem_nil, or_false] at hstatus ⊢
    omega
  · simp [hstatus]
  · simp [hstatus]
  · have hwhy := status_of_fails hs hmade htimely hfails
    simp only [List.mem_cons, List.not_mem_nil, or_false] at hwhy ⊢
    omega

/-! ## One request after the other -/

/-- A request, and the clock and the salt that it meets. -/
structure Visit where
  now : Instant
  salt : Password.Salt
  request : Request

/-- What comes of a visit: the response and the service after it. -/
def receive (s : Service) (v : Visit) : Checked (Response × Service) :=
  s.respond v.now v.salt v.request

/-- The service after a visit. One that gets no response has no effect. -/
def visited (s : Service) (v : Visit) : Service :=
  match s.receive v with
  | .error _ => s
  | .ok (_, next) => next

/-- The service after all visits. -/
def visitedBy (s : Service) (visits : List Visit) : Service :=
  visits.foldl visited s

/-- The responses to the visits that get one, in order. -/
def responses (s : Service) : List Visit → List Response
  | [] => []
  | v :: rest =>
    match s.receive v with
    | .error _ => s.responses rest
    | .ok (response, next) => response :: next.responses rest

theorem visitedBy_cons (s : Service) (v : Visit) (rest : List Visit) :
    s.visitedBy (v :: rest) = (s.visited v).visitedBy rest := rfl

/-- Visits do nothing that calls of the service would not do. -/
theorem exists_run (hs : s.schema.Valid) (visits : List Visit) :
    ∃ calls, s.visitedBy visits = s.run calls := by
  induction visits generalizing s with
  | nil => exact ⟨[], rfl⟩
  | cons v rest ih =>
    have hone : ∃ calls, s.visited v = s.run calls := by
      unfold visited
      rcases hreceive : s.receive v with fault | ⟨response, next⟩
      · exact ⟨[], rfl⟩
      · rcases respond_cases hs hreceive with ⟨-, -, -, supplied, hcreate⟩ | ⟨hnext, -⟩
        · exact ⟨[.createUser v.salt supplied], (after_createUser hcreate).symm⟩
        · exact ⟨[], hnext⟩
    obtain ⟨calls, hvisited⟩ := hone
    obtain ⟨others, hrest⟩ := ih (s := s.run calls) (by rw [run_schema]; exact hs)
    refine ⟨calls ++ others, ?_⟩
    rw [visitedBy_cons, hvisited, hrest, run_append]

/-- Every record was prepared by the schema, whatever is called. -/
theorem madeBy_run (hmade : s.users.MadeBy s.schema) (calls : List Call) :
    (s.run calls).users.MadeBy s.schema := by
  induction calls generalizing s with
  | nil => exact hmade
  | cons call rest ih =>
    have hschema : (s.after call).schema = s.schema := congrArg Engine.schema (s.after_engine call)
    rw [run_cons, ← hschema]
    refine ih ?_
    rw [hschema]
    rcases s.after_cases call with hafter | ⟨salt, supplied, hafter⟩
    · rw [hafter]
      exact hmade
    · obtain ⟨users, hcreate, hnext⟩ := createUser_eq_ok_iff.1 hafter
      rw [hnext]
      exact hmade.create hcreate

/-- The users are as many more as responses said so. -/
theorem size_visitedBy (hs : s.schema.Valid) (visits : List Visit) :
    (s.visitedBy visits).users.size =
      s.users.size + (s.responses visits).countP (·.status = 201) := by
  induction visits generalizing s with
  | nil => rfl
  | cons v rest ih =>
    rw [visitedBy_cons]
    unfold visited responses
    rcases hreceive : s.receive v with fault | ⟨response, next⟩
    · exact ih hs
    · dsimp only
      rw [List.countP_cons]
      rcases respond_cases hs hreceive with ⟨-, -, hstatus, supplied, hcreate⟩ | ⟨rfl, hreports⟩
      · obtain ⟨users, husers, rfl⟩ := createUser_eq_ok_iff.1 hcreate
        obtain ⟨record, -, -, rfl⟩ := Users.create_eq_ok_iff.1 husers
        have hrest := ih (s := ⟨s.engine, s.users.concat (s.schema.nameOf record) record⟩) hs
        rw [hrest, if_pos (decide_eq_true hstatus), Users.size, Users.concat, List.length_append,
          List.length_singleton, Users.size]
        omega
      · have hnot : ¬decide (response.status = 201) = true := by
          rw [decide_eq_true_iff]
          exact hreports.status_ne_created
        rw [ih hs, if_neg hnot, Nat.add_zero]

/-! ## All requests -/

/-- What holds of a service that has been visited by anybody, and of its next visit. There
are as many users as responses that spoke of a new one. All passwords that are kept can
be read, so that a login succeeds, or there is no such user, or the password is another
one. Every next request gets a response, unless it is for a new user. That is no report of
a failure of the service, if it comes at a time that allows for tokens. A user is created
by the request for it alone, and then the response says so; every other response comes
without any effect. -/
theorem visits_outcome {table : TableDescription} {schema : Schema}
    (hschema : Schema.ofDescription table = .ok schema) {settings : Settings} {s : Service}
    (hs : ofSettings schema settings = .ok s) (past : List Visit) :
    (s.visitedBy past).users.size = (s.responses past).countP (·.status = 201) ∧
    (∀ name record line, (s.visitedBy past).users.get? name = some record →
      record.get? passwordColumn = some line → ∃ fields, Password.Phc.read line = .ok fields) ∧
    (∀ username password,
      (∃ record, (s.visitedBy past).users.authenticate username password = .ok record) ∨
      (s.visitedBy past).users.authenticate username password = .error .userNotFound ∨
      (s.visitedBy past).users.authenticate username password = .error .invalidPassword) ∧
    (∀ v fault, (s.visitedBy past).receive v = .error fault →
      v.request.method = "POST" ∧ v.request.path = "/createUser") ∧
    ∀ v response next, (s.visitedBy past).receive v = .ok (response, next) →
      (s.engine.Timely v.now → response.status ∈ [200, 201, 400, 401, 404, 405, 409]) ∧
      (response.status = 201 → v.request.method = "POST" ∧ v.request.path = "/createUser" ∧
        ∃ name record, (s.visitedBy past).users.get? name = none ∧
          next = { s.visitedBy past with users := (s.visitedBy past).users.concat name record }) ∧
      (response.status ≠ 201 → next = s.visitedBy past) := by
  obtain ⟨-, rfl, hempty⟩ := of_ofSettings hs
  have hvalid : s.schema.Valid := Schema.valid_of_ofDescription hschema
  have hsize := size_visitedBy hvalid past
  obtain ⟨calls, hrun⟩ := exists_run hvalid past
  have hmade : (s.run calls).users.MadeBy s.schema :=
    madeBy_run (hempty ▸ Users.madeBy_empty s.schema) calls
  rw [hempty] at hsize
  rw [hrun] at hsize ⊢
  refine ⟨hsize.trans (Nat.zero_add _), ?_, hmade.authenticate_cases hvalid,
    fun v fault hreceive => of_respond_eq_error hreceive, ?_⟩
  · intro name record line hrecord hline
    obtain ⟨salt, plain, -, hread⟩ := hmade.read_password hvalid hrecord hline
    exact ⟨_, hread⟩
  · intro v response next hreceive
    -- the schema and the lifetimes are those of the start, whatever has been visited
    have hsame : (s.run calls).schema = s.schema := run_schema s calls
    rw [← hsame] at hvalid hmade
    rcases respond_cases hvalid hreceive with ⟨hpost, hpath, hstatus, supplied, hcreate⟩ |
      ⟨rfl, hreports⟩
    · refine ⟨fun _ => by simp [hstatus], fun _ => ⟨hpost, hpath, ?_⟩, absurd hstatus⟩
      obtain ⟨users, husers, hnext⟩ := createUser_eq_ok_iff.1 hcreate
      obtain ⟨record, -, hfree, rfl⟩ := Users.create_eq_ok_iff.1 husers
      exact ⟨_, record, hfree, hnext⟩
    · refine ⟨?_, fun hcreated => absurd hcreated hreports.status_ne_created, fun _ => rfl⟩
      intro htimely
      rw [← run_engine s calls] at htimely
      have hstatus := hreports.status_mem hvalid hmade htimely
      simp only [List.mem_cons, List.not_mem_nil, or_false] at hstatus ⊢
      omega

/-! ## A member again -/

/-- How Ada asks to sign up. -/
def adaPost : Request where
  method := "POST"
  path := "/createUser"
  headers :=
    [("X-User-Email", Text.utf8 " ada@example.org"), ("x-user-password", Text.utf8 "correct horse")]
  peer := none

theorem userFields_adaPost : adaPost.userFields .members = .ok adaSupplied := by
  decide +kernel

/-- Ada asks to sign up in the first minute of 1970. -/
def adaFirstVisit : Visit := ⟨.ofSeconds 60, adaSalt, adaPost⟩

theorem receive_adaFirstVisit :
    memberService.receive adaFirstVisit =
      .ok (.object 201 [("message", "user created")],
        { memberService with users := Users.empty.concat "ada@example.org" adaRecord }) := by
  have hcreate : memberService.createUser adaSalt adaSupplied =
      .ok (.ok { memberService with users := Users.empty.concat "ada@example.org" adaRecord }) :=
    createUser_eq_ok_iff.2
      ⟨_, Users.create_eq_ok_iff.2 ⟨adaRecord, prepare_adaSupplied, rfl, rfl⟩, rfl⟩
  show memberService.createUserResponse adaSalt adaPost = _
  rw [createUserResponse, show memberService.schema = .members from rfl, userFields_adaPost]
  dsimp only
  rw [hcreate]

theorem timely_memberService : memberService.engine.Timely (.ofSeconds 60) where
  expiry := by decide
  refresh := by decide
  absolute := by decide
  stamp := by decide

/-- After Ada's visit there is one user, and no further request of that minute, whatever
it is, brings the service to fail. -/
theorem visits_outcome_ada :
    Schema.ofDescription Schema.membersTable = .ok .members ∧
      ofSettings .members Engine.memberSettings = .ok memberService ∧
      (memberService.visitedBy [adaFirstVisit]).users.size = 1 ∧
      ∀ salt request response next,
        (memberService.visitedBy [adaFirstVisit]).receive ⟨.ofSeconds 60, salt, request⟩ =
          .ok (response, next) →
        response.status ∈ [200, 201, 400, 401, 404, 405, 409] := by
  obtain ⟨hsize, -, -, -, hnext⟩ := visits_outcome Schema.ofDescription_membersTable
    ofSettings_memberSettings [adaFirstVisit]
  refine ⟨Schema.ofDescription_membersTable, ofSettings_memberSettings, ?_, ?_⟩
  · rw [hsize]
    simp only [responses, receive_adaFirstVisit]
    rfl
  · intro salt request response next hreceive
    exact (hnext _ response next hreceive).1 timely_memberService

end Service

end BearerAuth
