import BearerAuth.Proofs.Token.Engine
import BearerAuth.Proofs.Token.Renewal

/-!
# Deadlines

What an engine answers about a token changes at most once. Either the token is
refused for its form at all times, or there are a second and an answer such that
the answer is given up to that second and the token is expired from then on.

- `Engine.Verdict`: a deadline and the answer up to it.
- `Engine.assess`: the verdict about a token, found without a clock.
  `Engine.verify_of_verdict` and `Engine.verify_of_assess_error` say that the
  clock is only compared with it.
- `RefreshClaims.deadline`: the earlier of two expiries, if the ceiling counts.
- `Engine.Settles`: the claims from which deadline and answer are taken.
- `Engine.verify_over_time`: all answers about one token, and what follows for
  an expired one.
-/

namespace BearerAuth

open Time

/-! ## Refresh tokens with two expiries -/

namespace RefreshClaims

/-- The last second at which a refresh token can be accepted. -/
def deadline (c : RefreshClaims) : CeilingPolicy → Int
  | .unenforced => c.expiry.toInt
  | .enforced => min c.expiry.toInt c.absoluteExpiry.toInt

/-- The deadline is over if one of the expiries that count is. -/
theorem deadline_lt_iff (c : RefreshClaims) (policy : CeilingPolicy) (second : Int) :
    c.deadline policy < second ↔
      c.expiry.toInt < second ∨ policy = .enforced ∧ c.absoluteExpiry.toInt < second := by
  cases policy with
  | unenforced => simp [deadline]
  | enforced =>
    rw [deadline]
    simp only [true_and]
    omega

/-- A ceiling that counts only brings the deadline forward. -/
theorem deadline_enforced_le (c : RefreshClaims) (policy : CeilingPolicy) :
    c.deadline .enforced ≤ c.deadline policy := by
  cases policy with
  | unenforced => exact Int.min_le_left _ _
  | enforced => exact Int.le_refl _

/-- The claims of a refresh token identify somebody, or they lack a name, or the
token was taken back. -/
theorem identity_cases (c : RefreshClaims) :
    (∃ who, c.identity = .ok who) ∨ c.identity = .error .missingUsername ∨
      c.identity = .error .invalidToken ∧ c.valid = false := by
  unfold identity
  cases c.valid with
  | false => exact .inr (.inr ⟨rfl, rfl⟩)
  | true =>
    cases c.username with
    | none => exact .inr (.inl rfl)
    | some username => exact .inl ⟨_, rfl⟩

end RefreshClaims

/-- The claims of an access token identify somebody, or they lack a name or a
role. -/
theorem AccessClaims.identity_cases (s : Schema) (c : AccessClaims) :
    (∃ who, c.identity s = .ok who) ∨ c.identity s = .error .missingUsername ∨
      c.identity s = .error .missingRole := by
  cases husername : c.fields.get? s.keyClaim with
  | none => exact .inr (.inl (identity_of_missing_username husername))
  | some username =>
    cases hrole : c.fields.get? s.roleClaim with
    | none => exact .inr (.inr (identity_of_missing_role husername hrole))
    | some role => exact .inl ⟨_, identity_of_fields husername hrole⟩

/-! ## The two checks of the expiry -/

/-- The check of the expiry that every token goes through lets claims pass up to
the second of their own expiry, and no longer. -/
def Signed.ChecksExpiry {α : Type} (read : Json → Option α) (expiry : α → Int64)
    (secret token : String) : Prop :=
  ∀ second,
    (∀ c, verify read secret second token = .ok c → second ≤ (expiry c).toInt) ∧
    (verify read secret second token = .error .tokenExpired →
      ∃ c, recover read token = .ok c ∧ (expiry c).toInt < second)

namespace Engine

/-- That check and the one of the claims never disagree, if there is one expiry
only. -/
theorem checksExpiry {α : Type} {read : Json → Option α} {expiry : α → Int64}
    (hexpiry : ∀ {j c x}, read j = some c → j.registeredExpiry? = some (some x) →
      x = (expiry c).toInt) (secret token : String) :
    Signed.ChecksExpiry read expiry secret token := by
  intro second
  rw [Signed.verify]
  cases h : Signed.contents read secret token with
  | error why =>
    constructor
    · intro c hc
      cases hc
    · -- a token without contents is never refused for its expiry
      intro hexpired
      cases hexpired
      rcases Signed.error_of_contents h with h | h | h <;> cases h
  | ok r =>
    obtain ⟨c, x⟩ := r
    obtain ⟨j, -, hc, hx⟩ := Signed.of_contents h
    obtain rfl := hexpiry hc hx
    dsimp only
    by_cases hlate : (expiry c).toInt < second
    · rw [if_pos hlate]
      constructor
      · intro d hd
        cases hd
      · intro _
        exact ⟨c, Signed.recover_of_contents h, hlate⟩
    · rw [if_neg hlate]
      constructor
      · intro d hd
        cases hd
        exact Int.not_lt.1 hlate
      · intro hexpired
        cases hexpired

/-! ## Verdicts -/

/-- The secret under which tokens of a kind are signed. -/
def secret (e : Engine) : TokenKind → String
  | .access => e.accessSecret
  | .refresh => e.refreshSecret

/-- What decides about a token at every time: the last second before it expires,
and the answer up to then. -/
structure Verdict where
  deadline : Int
  answer : Except TokenError Identity

/-- The answer at an instant. -/
def Verdict.answerAt (v : Verdict) (now : Instant) : Except TokenError Identity :=
  if now.seconds ≤ v.deadline then v.answer else .error .tokenExpired

/-- A verdict is an answer until its deadline, and an expiry after it. -/
theorem Verdict.answerAt_eq (v : Verdict) (now : Instant) :
    v.answerAt now = if v.deadline < now.seconds then .error .tokenExpired else v.answer := by
  unfold answerAt
  by_cases h : now.seconds ≤ v.deadline
  · rw [if_pos h, if_neg (Int.not_lt.2 h)]
  · rw [if_neg h, if_pos (Int.not_le.1 h)]

/-- The verdict about a token of a kind, or why it is refused for its form. -/
def assess (e : Engine) (kind : TokenKind) (token : String) : Except TokenError Verdict :=
  match kind with
  | .access =>
    (e.signedAccess token).map fun c =>
      { deadline := c.expiry.toInt, answer := c.identity e.schema }
  | .refresh =>
    (e.signedRefresh token).map fun c =>
      { deadline := c.deadline e.ceiling, answer := c.identity }

variable {e : Engine} {kind : TokenKind} {token : String}

theorem assess_access_eq_ok_iff {v : Verdict} :
    e.assess .access token = .ok v ↔
      ∃ c, e.signedAccess token = .ok c ∧
        { deadline := c.expiry.toInt, answer := c.identity e.schema } = v :=
  map_eq_ok_iff

theorem assess_refresh_eq_ok_iff {v : Verdict} :
    e.assess .refresh token = .ok v ↔
      ∃ c, e.signedRefresh token = .ok c ∧
        { deadline := c.deadline e.ceiling, answer := c.identity } = v :=
  map_eq_ok_iff

theorem assess_access_eq_error_iff {why : TokenError} :
    e.assess .access token = .error why ↔
      Signed.contents AccessClaims.ofJson? e.accessSecret token = .error why :=
  map_eq_error_iff.trans map_eq_error_iff

theorem assess_refresh_eq_error_iff {why : TokenError} :
    e.assess .refresh token = .error why ↔
      Signed.contents RefreshClaims.ofJson? e.refreshSecret token = .error why :=
  map_eq_error_iff.trans map_eq_error_iff

/-- A token without a verdict is refused for one reason at all times. -/
theorem verify_of_assess_error {why : TokenError} (h : e.assess kind token = .error why)
    (now : Instant) : e.verify now kind token = .error why := by
  cases kind with
  | access =>
    have hsigned : e.signedAccess token = .error why := map_eq_error_iff.1 h
    unfold verify
    rw [readAccess_eq, hsigned]
  | refresh =>
    have hsigned : e.signedRefresh token = .error why := map_eq_error_iff.1 h
    unfold verify
    rw [readRefresh_eq, hsigned]

/-- The answer about a token with a verdict depends on the clock in one
comparison. -/
theorem verify_of_verdict {v : Verdict} (h : e.assess kind token = .ok v) (now : Instant) :
    e.verify now kind token = v.answerAt now := by
  cases kind with
  | access =>
    obtain ⟨c, hsigned, rfl⟩ := assess_access_eq_ok_iff.1 h
    rw [verify_access hsigned, Verdict.answerAt_eq]
  | refresh =>
    obtain ⟨c, hsigned, rfl⟩ := assess_refresh_eq_ok_iff.1 h
    rw [verify_refresh hsigned, Verdict.answerAt_eq]
    simp only [RefreshClaims.deadline_lt_iff]

/-- A token without a verdict is refused for its form. -/
theorem error_of_assess {why : TokenError} (h : e.assess kind token = .error why) :
    why = .invalidToken ∨ why = .claimsInvalid ∨ why = .unexpectedSigningMethod := by
  cases kind with
  | access => exact Signed.error_of_contents (assess_access_eq_error_iff.1 h)
  | refresh => exact Signed.error_of_contents (assess_refresh_eq_error_iff.1 h)

/-- The claims from which the verdict about a token is taken, read without
regard to signature and expiry. -/
inductive Settles (e : Engine) (token : String) :
    TokenKind → Int → Except TokenError Identity → Prop
  | access {c : AccessClaims} (h : Signed.recover AccessClaims.ofJson? token = .ok c) :
      Settles e token .access c.expiry.toInt (c.identity e.schema)
  | refresh {c : RefreshClaims} (h : Signed.recover RefreshClaims.ofJson? token = .ok c) :
      Settles e token .refresh (c.deadline e.ceiling) c.identity

/-- A verdict is about a token that is signed under the secret of its kind, and
comes from its claims. -/
theorem settles_of_assess {v : Verdict} (h : e.assess kind token = .ok v) :
    Signed.Authentic (e.secret kind) token ∧ e.Settles token kind v.deadline v.answer := by
  cases kind with
  | access =>
    obtain ⟨c, hsigned, rfl⟩ := assess_access_eq_ok_iff.1 h
    obtain ⟨⟨c, x⟩, hcontents, rfl⟩ := map_eq_ok_iff.1 hsigned
    exact ⟨Signed.authentic_of_contents hcontents, .access (Signed.recover_of_contents hcontents)⟩
  | refresh =>
    obtain ⟨c, hsigned, rfl⟩ := assess_refresh_eq_ok_iff.1 h
    obtain ⟨⟨c, x⟩, hcontents, rfl⟩ := map_eq_ok_iff.1 hsigned
    exact ⟨Signed.authentic_of_contents hcontents, .refresh (Signed.recover_of_contents hcontents)⟩

/-- The answers that a verdict may hold. A refresh token is invalid in spite of
its signature only if it was taken back. -/
def Timeless (token : String) (kind : TokenKind) (answer : Except TokenError Identity) : Prop :=
  (∃ who, answer = .ok who) ∨ answer = .error .missingUsername ∨ answer = .error .missingRole ∨
    answer = .error .invalidToken ∧ kind = .refresh ∧
      ∃ c, Signed.recover RefreshClaims.ofJson? token = .ok c ∧ c.valid = false

/-- The answer before the deadline does not depend on the time. -/
theorem timeless_of_settles {deadline : Int} {answer : Except TokenError Identity}
    (h : e.Settles token kind deadline answer) : Timeless token kind answer := by
  cases h with
  | @access c hc =>
    rcases c.identity_cases e.schema with h | h | h
    · exact .inl h
    · exact .inr (.inl h)
    · exact .inr (.inr (.inl h))
  | @refresh c hc =>
    rcases c.identity_cases with h | h | ⟨h, hvalid⟩
    · exact .inl h
    · exact .inr (.inl h)
    · exact .inr (.inr (.inr ⟨h, rfl, c, hc, hvalid⟩))

/-- A token is accepted if its verdict is an identity and the deadline is not
over. -/
theorem verify_eq_ok_iff {now : Instant} {who : Identity} :
    e.verify now kind token = .ok who ↔
      ∃ v, e.assess kind token = .ok v ∧ now.seconds ≤ v.deadline ∧ v.answer = .ok who := by
  cases h : e.assess kind token with
  | error why =>
    rw [verify_of_assess_error h]
    simp
  | ok v =>
    rw [verify_of_verdict h, Verdict.answerAt]
    by_cases hdue : now.seconds ≤ v.deadline
    · rw [if_pos hdue]
      simp [hdue]
    · rw [if_neg hdue]
      simp [hdue]

/-- A token is expired if it has a verdict and the deadline is over. -/
theorem verify_eq_expired_iff {now : Instant} :
    e.verify now kind token = .error .tokenExpired ↔
      ∃ v, e.assess kind token = .ok v ∧ v.deadline < now.seconds := by
  cases h : e.assess kind token with
  | error why =>
    rw [verify_of_assess_error h]
    rcases error_of_assess h with rfl | rfl | rfl <;> simp
  | ok v =>
    rw [verify_of_verdict h, Verdict.answerAt]
    by_cases hdue : now.seconds ≤ v.deadline
    · -- no verdict is that the token has expired
      have hanswer : v.answer ≠ .error .tokenExpired := by
        rcases timeless_of_settles (settles_of_assess h).2 with
          ⟨who, hv⟩ | hv | hv | ⟨hv, -⟩ <;> simp [hv]
      rw [if_pos hdue]
      simp [hanswer, hdue]
    · rw [if_neg hdue]
      simpa using hdue

/-- A token that is accepted under the ceiling is accepted without it. -/
theorem verify_of_enforced {now : Instant} {who : Identity} (policy : CeilingPolicy)
    (h : ({ e with ceiling := .enforced }).verify now kind token = .ok who) :
    ({ e with ceiling := policy }).verify now kind token = .ok who := by
  obtain ⟨v, hassess, hdue, hanswer⟩ := verify_eq_ok_iff.1 h
  cases kind with
  | access => exact verify_eq_ok_iff.2 ⟨v, hassess, hdue, hanswer⟩
  | refresh =>
    obtain ⟨c, hsigned, rfl⟩ := assess_refresh_eq_ok_iff.1 hassess
    have hlater := Int.le_trans hdue (c.deadline_enforced_le policy)
    exact verify_eq_ok_iff.2
      ⟨_, assess_refresh_eq_ok_iff.2 ⟨c, hsigned, rfl⟩, hlater, hanswer⟩

/-! ## All answers about one token -/

/-- All answers about one token. It is refused for its form at all times, or
there is one deadline: up to it the answer is always the same, and afterwards
the token is expired and stays so. The deadline is the expiry that the claims
name, or the ceiling if that counts and is earlier; the expiry that every token
is checked for is the same. Where the ceiling counts fewer tokens are accepted,
for the same users. -/
theorem verify_over_time (e : Engine) (kind : TokenKind) (token : String) :
    ((∃ why, (why = .invalidToken ∨ why = .claimsInvalid ∨ why = .unexpectedSigningMethod) ∧
        ∀ now, e.verify now kind token = .error why) ∨
      ∃ deadline answer, Signed.Authentic (e.secret kind) token ∧
        e.Settles token kind deadline answer ∧ Timeless token kind answer ∧
        ∀ now, e.verify now kind token =
          if now.seconds ≤ deadline then answer else .error .tokenExpired) ∧
    (∀ s t : Instant, s.nanoseconds ≤ t.nanoseconds →
      e.verify s kind token = .error .tokenExpired →
      e.verify t kind token = .error .tokenExpired) ∧
    Signed.ChecksExpiry AccessClaims.ofJson? (·.expiry) e.accessSecret token ∧
    Signed.ChecksExpiry RefreshClaims.ofJson? (·.expiry) e.refreshSecret token ∧
    ∀ now who, ({ e with ceiling := .enforced }).verify now kind token = .ok who →
      ({ e with ceiling := .unenforced }).verify now kind token = .ok who := by
  refine ⟨?_, fun s t hst hexpired => ?_, ?_, ?_, fun now who h => verify_of_enforced _ h⟩
  · cases h : e.assess kind token with
    | error why => exact .inl ⟨why, error_of_assess h, verify_of_assess_error h⟩
    | ok v =>
      obtain ⟨hauthentic, hsettles⟩ := settles_of_assess h
      exact .inr ⟨v.deadline, v.answer, hauthentic, hsettles, timeless_of_settles hsettles,
        verify_of_verdict h⟩
  · -- the seconds of the clock grow with it
    obtain ⟨v, hassess, hlate⟩ := verify_eq_expired_iff.1 hexpired
    exact verify_eq_expired_iff.2
      ⟨v, hassess, Int.lt_of_lt_of_le hlate (Instant.seconds_mono hst)⟩
  · exact checksExpiry AccessClaims.eq_expiry_of_registeredExpiry? _ _
  · exact checksExpiry RefreshClaims.eq_expiry_of_registeredExpiry? _ _

/-- The refresh token of a member is accepted in the last second of its hour; in the
next it has expired, and so it has a day later. -/
theorem verify_over_time_hour :
    memberEngine.verify (.ofSeconds 3600) .refresh (memberEngine.writeRefresh (hourClaims "ada")) =
        .ok { username := "ada", role := none } ∧
      memberEngine.verify (.ofSeconds 3601) .refresh
          (memberEngine.writeRefresh (hourClaims "ada")) = .error .tokenExpired ∧
      memberEngine.verify (.ofSeconds 86400) .refresh
          (memberEngine.writeRefresh (hourClaims "ada")) = .error .tokenExpired := by
  have hassess := assess_refresh_eq_ok_iff.2 ⟨_, signedRefresh_hourClaims "ada", rfl⟩
  have hdue := verify_of_verdict hassess (.ofSeconds 3600)
  have hexpired := verify_of_verdict hassess (.ofSeconds 3601)
  rw [Verdict.answerAt, if_pos (by decide)] at hdue
  rw [Verdict.answerAt, if_neg (by decide)] at hexpired
  obtain ⟨-, hstays, -⟩ := verify_over_time memberEngine .refresh
    (memberEngine.writeRefresh (hourClaims "ada"))
  exact ⟨hdue, hexpired, hstays _ (.ofSeconds 86400) (by decide) hexpired⟩

end Engine

end BearerAuth
