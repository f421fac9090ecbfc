import BearerAuth.Proofs.Store.Users
import BearerAuth.Service

/-!
# Runs of a service

A service is called again and again, each time with arguments and a clock of its
own. The clocks of two calls need not be in any order.

- `Call`, `Answer`: what a service is asked and what it answers.
- `Service.answer`, `Service.after`: one call. `Service.run`: a list of them.
- `Service.returned`: the tokens that a run gives away, in order.
- `Service.run_engine`: nothing changes the engine.
-/

namespace BearerAuth

open Time

/-- A call of a service. -/
inductive Call where
  | createUser (salt : Password.Salt) (supplied : Fields)
  | generateToken (now : Instant) (username password : String)
  | generateRefreshToken (now : Instant) (username address : String)
  | verifyToken (now : Instant) (kind : TokenKind) (token : String)
  | refreshToken (now : Instant) (access refresh : String)

/-- The answer to a call. -/
inductive Answer where
  | created
  | token (token : String)
  | identity (who : Identity)
  | renewal (renewal : Renewal)
  | refused (why : TokenError)
  | fault

/-- The tokens that are presented with a call. -/
def Call.presented : Call → List String
  | .verifyToken _ _ token => [token]
  | .refreshToken _ access refresh => [access, refresh]
  | _ => []

/-- The tokens that are given away with an answer. -/
def Answer.tokens : Answer → List String
  | .token text => [text]
  | .renewal r => [r.accessToken]
  | _ => []

namespace Service

/-- The answer to one call. -/
def answer (s : Service) : Call → Answer
  | .createUser salt supplied =>
    match s.createUser salt supplied with
    | .error _ => .fault
    | .ok (.error why) => .refused (.store why)
    | .ok (.ok _) => .created
  | .generateToken now username password =>
    match s.generateToken now username password with
    | .error why => .refused why
    | .ok text => .token text
  | .generateRefreshToken now username address =>
    match s.engine.issueRefresh now username address with
    | .error why => .refused why
    | .ok text => .token text
  | .verifyToken now kind token =>
    match s.engine.verify now kind token with
    | .error why => .refused why
    | .ok who => .identity who
  | .refreshToken now access refresh =>
    match s.engine.renew now access refresh with
    | .error why => .refused why
    | .ok r => .renewal r

/-- The service after one call. Only a user who is created changes it. -/
def after (s : Service) : Call → Service
  | .createUser salt supplied =>
    match s.createUser salt supplied with
    | .ok (.ok next) => next
    | _ => s
  | _ => s

/-- The service after the calls. -/
def run (s : Service) (calls : List Call) : Service :=
  calls.foldl after s

/-- The tokens that the calls give away, in order. -/
def returned (s : Service) : List Call → List String
  | [] => []
  | call :: rest => (s.answer call).tokens ++ (s.after call).returned rest

/-- The three calls that give tokens away. -/
theorem of_mem_tokens_answer {s : Service} {call : Call} {token : String}
    (h : token ∈ (s.answer call).tokens) :
    (∃ now username password, call = .generateToken now username password ∧
      s.generateToken now username password = .ok token) ∨
    (∃ now username address, call = .generateRefreshToken now username address ∧
      s.engine.issueRefresh now username address = .ok token) ∨
    ∃ now access refresh renewal, call = .refreshToken now access refresh ∧
      s.engine.renew now access refresh = .ok renewal ∧ token = renewal.accessToken := by
  cases call with
  | createUser salt supplied =>
    rw [answer] at h
    rcases hcreate : s.createUser salt supplied with fault | why | next <;>
      simp [hcreate, Answer.tokens] at h
  | generateToken now username password =>
    cases hissue : s.generateToken now username password with
    | error why => simp [answer, hissue, Answer.tokens] at h
    | ok text =>
      simp only [answer, hissue, Answer.tokens, List.mem_singleton] at h
      exact .inl ⟨now, username, password, rfl, h ▸ hissue⟩
  | generateRefreshToken now username address =>
    cases hissue : s.engine.issueRefresh now username address with
    | error why => simp [answer, hissue, Answer.tokens] at h
    | ok text =>
      simp only [answer, hissue, Answer.tokens, List.mem_singleton] at h
      exact .inr (.inl ⟨now, username, address, rfl, h ▸ hissue⟩)
  | verifyToken now kind presented =>
    cases hverify : s.engine.verify now kind presented with
    | error why => simp [answer, hverify, Answer.tokens] at h
    | ok who => simp [answer, hverify, Answer.tokens] at h
  | refreshToken now access refresh =>
    cases hrenew : s.engine.renew now access refresh with
    | error why => simp [answer, hrenew, Answer.tokens] at h
    | ok renewal =>
      simp only [answer, hrenew, Answer.tokens, List.mem_singleton] at h
      exact .inr (.inr ⟨now, access, refresh, renewal, rfl, hrenew, h⟩)

theorem answer_generateToken {s : Service} {now : Instant} {username password token : String} :
    s.answer (.generateToken now username password) = .token token ↔
      s.generateToken now username password = .ok token := by
  cases h : s.generateToken now username password <;> simp [answer, h]

theorem answer_generateRefreshToken {s : Service} {now : Instant}
    {username address token : String} :
    s.answer (.generateRefreshToken now username address) = .token token ↔
      s.engine.issueRefresh now username address = .ok token := by
  cases h : s.engine.issueRefresh now username address <;> simp [answer, h]

theorem answer_verifyToken {s : Service} {now : Instant} {kind : TokenKind} {token : String}
    {who : Identity} :
    s.answer (.verifyToken now kind token) = .identity who ↔
      s.engine.verify now kind token = .ok who := by
  cases h : s.engine.verify now kind token <;> simp [answer, h]

theorem answer_refreshToken {s : Service} {now : Instant} {access refresh : String}
    {renewal : Renewal} :
    s.answer (.refreshToken now access refresh) = .renewal renewal ↔
      s.engine.renew now access refresh = .ok renewal := by
  cases h : s.engine.renew now access refresh <;> simp [answer, h]

@[simp] theorem run_nil (s : Service) : s.run [] = s := rfl

@[simp] theorem run_cons (s : Service) (call : Call) (rest : List Call) :
    s.run (call :: rest) = (s.after call).run rest := rfl

theorem run_append (s : Service) (past future : List Call) :
    s.run (past ++ future) = (s.run past).run future :=
  List.foldl_append

/-- What is returned after a past adds to what the past has returned. -/
theorem returned_append (s : Service) (past future : List Call) :
    s.returned (past ++ future) = s.returned past ++ (s.run past).returned future := by
  induction past generalizing s with
  | nil => rfl
  | cons call rest ih =>
    show (s.answer call).tokens ++ (s.after call).returned (rest ++ future) = _
    rw [ih, ← List.append_assoc]
    rfl

/-- The last call of a run gives away what it answers. -/
theorem returned_concat (s : Service) (past : List Call) (call : Call) :
    s.returned (past ++ [call]) = s.returned past ++ ((s.run past).answer call).tokens := by
  rw [returned_append]
  show _ ++ (((s.run past).answer call).tokens ++ []) = _
  rw [List.append_nil]

/-- The tokens in an answer stay among those that were returned. -/
theorem mem_returned {s : Service} (past : List Call) {call : Call} (future : List Call)
    {token : String} (h : token ∈ ((s.run past).answer call).tokens) :
    token ∈ s.returned (past ++ call :: future) := by
  rw [returned_append]
  exact List.mem_append_right _ (List.mem_append_left _ h)

/-! ## Users -/

/-- A service that creates a user has it among its users, and nothing else of it changes. -/
theorem createUser_eq_ok_iff {s next : Service} {salt : Password.Salt} {supplied : Fields} :
    s.createUser salt supplied = .ok (.ok next) ↔
      ∃ users, s.users.create s.schema salt supplied = .ok (.ok users) ∧
        next = { s with users } := by
  unfold createUser
  constructor
  · intro h
    split at h
    · cases h
    · cases h
    · next users hcreate => exact ⟨users, hcreate, (Except.ok.inj (Except.ok.inj h)).symm⟩
  · rintro ⟨users, hcreate, rfl⟩
    rw [hcreate]

/-- A call creates a user, or it changes nothing. -/
theorem after_cases (s : Service) (call : Call) :
    s.after call = s ∨
      ∃ salt supplied, s.createUser salt supplied = .ok (.ok (s.after call)) := by
  cases call with
  | createUser salt supplied =>
    cases h : s.createUser salt supplied with
    | error fault => exact .inl (by rw [after, h])
    | ok result =>
      cases result with
      | error why => exact .inl (by rw [after, h])
      | ok next => exact .inr ⟨salt, supplied, by rw [after, h]⟩
  | generateToken now username password => exact .inl rfl
  | generateRefreshToken now username address => exact .inl rfl
  | verifyToken now kind token => exact .inl rfl
  | refreshToken now access refresh => exact .inl rfl

/-- A user that is created is there for all calls that follow. -/
theorem after_createUser {s next : Service} {salt : Password.Salt} {supplied : Fields}
    (h : s.createUser salt supplied = .ok (.ok next)) :
    s.after (.createUser salt supplied) = next := by
  rw [after, h]

/-- No call changes the engine. -/
theorem after_engine (s : Service) (call : Call) : (s.after call).engine = s.engine := by
  rcases s.after_cases call with h | ⟨salt, supplied, h⟩
  · rw [h]
  · obtain ⟨users, -, h⟩ := createUser_eq_ok_iff.1 h
    rw [h]

/-- Nothing changes the engine. -/
theorem run_engine (s : Service) (calls : List Call) : (s.run calls).engine = s.engine := by
  induction calls generalizing s with
  | nil => rfl
  | cons call rest ih => rw [run_cons, ih, after_engine]

/-- No call changes the schema. -/
theorem run_schema (s : Service) (calls : List Call) : (s.run calls).schema = s.schema :=
  congrArg Engine.schema (s.run_engine calls)

/-- Users come to stay. -/
theorem get?_run {s : Service} {name : String} {record : Fields}
    (h : s.users.get? name = some record) (calls : List Call) :
    (s.run calls).users.get? name = some record := by
  induction calls generalizing s with
  | nil => exact h
  | cons call rest ih =>
    rw [run_cons]
    refine ih ?_
    rcases s.after_cases call with hafter | ⟨salt, supplied, hafter⟩
    · rw [hafter]
      exact h
    · obtain ⟨users, hcreate, hnext⟩ := createUser_eq_ok_iff.1 hafter
      rw [hnext]
      exact Users.get?_of_create hcreate h

end Service

end BearerAuth
