import BearerAuth.Proofs.Service.Provenance

/-!
# The end of a session

A refresh token opens a window of time, and no renewal moves its end: renewals give
new access tokens but never a new refresh token. So however often access tokens are
renewed with it, and whichever they are, all of them end one lifetime after the
window at the latest. Expiries are whole seconds, which costs a second at either
place where an instant is rounded.

- `Engine.renew_of_window`: nothing is renewed after the window.
- `Engine.WithinSession`: what the window says about an access token that was
  renewed. `Engine.withinSession_of_renew` is one renewal.
- `Service.renewed`: the access tokens that a run gets with one refresh token.
  `Service.withinSession_of_mem_renewed` is a whole run.
- `Service.session_ends`: a session ends, in every run.
-/

namespace BearerAuth

open Time

namespace Engine

variable {e : Engine} {t₀ now : Instant} {username address refresh : String}

/-! ## One renewal -/

/-- Once the window is over nothing is renewed. -/
theorem renew_of_window (he : e.Checked) (ht₀ : 0 ≤ t₀.nanoseconds)
    (h : e.issueRefresh t₀ username address = .ok refresh)
    (hnow : t₀.nanoseconds + e.window.nanoseconds + nanosPerSecond ≤ now.nanoseconds)
    (access : String) : e.renew now access refresh = .error .refreshTokenExpired := by
  have hlate : (t₀.later e.window).seconds < now.seconds := Instant.seconds_lt_of_le hnow
  have hverify := verify_issued he ht₀ h now
  rw [if_neg (Int.not_le.2 hlate)] at hverify
  rw [renew_of_refresh_error hverify, if_pos rfl]

/-- What the window of a refresh token that was issued at `t₀` says about an access
token that was renewed with it at `now`. -/
structure WithinSession (e : Engine) (t₀ now : Instant) (token : String) : Prop where
  made : now.nanoseconds < t₀.nanoseconds + e.window.nanoseconds + nanosPerSecond
  expiry : ∃ c, Signed.Authentic e.accessSecret token ∧
    Signed.recover AccessClaims.ofJson? token = .ok c ∧
    c.expiry.toInt * nanosPerSecond <
      t₀.nanoseconds + e.window.nanoseconds + e.tokenLifetime.nanoseconds + nanosPerSecond
  ended : ∀ t : Instant, t₀.nanoseconds + e.window.nanoseconds + e.tokenLifetime.nanoseconds +
      2 * nanosPerSecond ≤ t.nanoseconds →
    ∃ why, e.verify t .access token = .error why

/-- A token that was signed for proper claims is not accepted after their expiry. -/
theorem verify_writeAccess_of_lt (e : Engine) {c : AccessClaims} (hc : c.Proper) {t : Instant}
    (h : c.expiry.toInt < t.seconds) :
    ∃ why, e.verify t .access (e.writeAccess c) = .error why := by
  cases hverify : e.verify t .access (e.writeAccess c) with
  | error why => exact ⟨why, rfl⟩
  | ok who =>
    obtain ⟨v, hassess, hdue, -⟩ := verify_eq_ok_iff.1 hverify
    obtain ⟨d, hsigned, rfl⟩ := assess_access_eq_ok_iff.1 hassess
    -- what is read from it is what was signed
    obtain rfl := eq_of_signedAccess_writeAccess hc hsigned
    exact absurd hdue (Int.not_le.2 h)

/-- Whichever access token is renewed with a refresh token, the new one is within the
session that the refresh token opened. -/
theorem withinSession_of_renew (he : e.Checked) (ht₀ : 0 ≤ t₀.nanoseconds)
    (h : e.issueRefresh t₀ username address = .ok refresh) {access : String} {renewal : Renewal}
    (hrenew : e.renew now access refresh = .ok renewal) :
    e.WithinSession t₀ now renewal.accessToken := by
  obtain ⟨who, c, whose, hverify, hsigned, -, hstamp, -⟩ := of_renew hrenew
  obtain ⟨htoken, hstamps⟩ := eq_of_restamp hstamp
  -- the refresh token was accepted, so that its window was open
  have hopen : now.seconds ≤ (t₀.later e.window).seconds := by
    rw [verify_issued he ht₀ h] at hverify
    split at hverify
    · next hopen => exact hopen
    · cases hverify
  have hmade : now.nanoseconds < t₀.nanoseconds + e.window.nanoseconds + nanosPerSecond :=
    Instant.lt_of_seconds_le hopen
  have hproper : (e.restamped now c).Proper := (of_signedAccess hsigned).1
  have hexpiry := hstamps.toInt_expiry c
  have hlapse : (now.later e.tokenLifetime).nanoseconds =
      now.nanoseconds + e.tokenLifetime.nanoseconds := rfl
  rw [htoken]
  constructor
  · exact hmade
  · have hround := (now.later e.tokenLifetime).seconds_mul_le
    refine ⟨_, Signed.authentic_write _ _, recover_writeAccess e hproper, ?_⟩
    rw [hexpiry]
    omega
  · intro t ht
    refine verify_writeAccess_of_lt e hproper ?_
    rw [hexpiry]
    exact Instant.seconds_lt_of_le (by omega)

end Engine

namespace Service

variable {s : Service} {t₀ : Instant} {username address refresh : String}

/-! ## Whole runs -/

/-- The access tokens that one call gets by a renewal with a refresh token, each with
the instant of its renewal. -/
def renewedBy (s : Service) (refresh : String) : Call → List (Instant × String)
  | .refreshToken now access presented =>
    if presented = refresh then
      (s.answer (.refreshToken now access presented)).tokens.map fun token => (now, token)
    else []
  | _ => []

/-- The access tokens that the calls get by renewals with a refresh token, each with
the instant of its renewal, in order. -/
def renewed (s : Service) (refresh : String) : List Call → List (Instant × String)
  | [] => []
  | call :: rest => s.renewedBy refresh call ++ (s.after call).renewed refresh rest

theorem of_mem_renewedBy {call : Call} {now : Instant} {token : String}
    (h : (now, token) ∈ s.renewedBy refresh call) :
    ∃ access renewal, s.engine.renew now access refresh = .ok renewal ∧
      token = renewal.accessToken := by
  cases call with
  | refreshToken instant access presented =>
    rw [renewedBy] at h
    by_cases hpresented : presented = refresh
    · rw [if_pos hpresented] at h
      obtain ⟨text, htext, hpair⟩ := List.mem_map.1 h
      cases hpair
      rcases of_mem_tokens_answer htext with ⟨_, _, _, hcall, -⟩ | ⟨_, _, _, hcall, -⟩ |
        ⟨_, _, _, renewal, hcall, hrenew, htoken⟩
      · cases hcall
      · cases hcall
      · cases hcall
        exact ⟨access, renewal, hpresented ▸ hrenew, htoken⟩
    · rw [if_neg hpresented] at h
      cases h
  | createUser _ _ => cases h
  | generateToken _ _ _ => cases h
  | generateRefreshToken _ _ _ => cases h
  | verifyToken _ _ _ => cases h

/-- All access tokens that a run gets with a refresh token are within the session
that the refresh token opened. -/
theorem withinSession_of_mem_renewed (he : s.engine.Checked) (ht₀ : 0 ≤ t₀.nanoseconds)
    (hissue : s.engine.issueRefresh t₀ username address = .ok refresh) {calls : List Call}
    {now : Instant} {token : String} (h : (now, token) ∈ s.renewed refresh calls) :
    s.engine.WithinSession t₀ now token := by
  induction calls generalizing s with
  | nil => cases h
  | cons call rest ih =>
    rcases List.mem_append.1 h with h | h
    · obtain ⟨access, renewal, hrenew, rfl⟩ := of_mem_renewedBy h
      exact Engine.withinSession_of_renew he ht₀ hissue hrenew
    · -- the engine is the same after every call
      have hengine := s.after_engine call
      rw [← hengine] at he hissue ⊢
      exact ih he hissue h

/-! ## A member's last renewal -/

/-- The token that Ada has after another renewal, in the last second of the window. -/
def adaLast : String :=
  Engine.memberEngine.writeAccess (Engine.memberEngine.restamped (.ofSeconds 259260)
    (Engine.memberEngine.restamped (.ofSeconds 600) adaClaims))

/-- Ada renews the token that she has from a renewal. -/
def adaLastRenewal : Call := .refreshToken (.ofSeconds 259260) adaRenewed adaRefresh

theorem renew_adaRenewed :
    Engine.memberEngine.renew (.ofSeconds 259260) adaRenewed adaRefresh =
      .ok { accessToken := adaLast, username := "ada@example.org" } := by
  have hverify := Engine.verify_issued checked_memberEngine (by decide) issueRefresh_ada
    (.ofSeconds 259260)
  rw [if_pos (by decide)] at hverify
  have hidentity : (Engine.memberEngine.restamped (.ofSeconds 600) adaClaims).identity .members =
      .ok { username := "ada@example.org", role := some "guest" } :=
    (AccessClaims.identity_congr rfl).trans identity_adaClaims
  exact Engine.renew_of_stampable ⟨by decide, by decide⟩ hverify
    (Engine.signedAccess_restamped checked_memberEngine (by decide) stampable_ada proper_adaClaims)
    hidentity

theorem adaLast_mem_renewed :
    (.ofSeconds 259260, adaLast) ∈
      memberService.renewed adaRefresh [adaRenewal, adaLastRenewal] := by
  have hanswer : memberService.answer adaLastRenewal =
      .renewal { accessToken := adaLast, username := "ada@example.org" } :=
    answer_refreshToken.2 renew_adaRenewed
  have hlast :
      (.ofSeconds 259260, adaLast) ∈ memberService.renewedBy adaRefresh adaLastRenewal := by
    unfold adaLastRenewal at hanswer ⊢
    rw [renewedBy, if_pos rfl, hanswer]
    exact List.mem_singleton_self _
  exact List.mem_append_right _ (List.mem_append_left _ hlast)

/-! ## The end -/

/-- A session ends. Every access token that a run gets by renewals with a refresh
token, whichever access tokens are renewed and in however long a chain, was made
before the window of the refresh token was over, expires one lifetime after it at
the latest, up to the rounding of seconds, and is refused from then on; and once the
window is over every renewal with the refresh token is refused for that reason. The
calls may come with clocks in any order. -/
theorem session_ends {schema : Schema} {settings : Settings} {s : Service}
    (hs : ofSettings schema settings = .ok s) {t₀ : Instant} (ht₀ : 0 ≤ t₀.nanoseconds)
    {past : List Call} {username address refresh : String}
    (hissue : (s.run past).answer (.generateRefreshToken t₀ username address) = .token refresh)
    (calls : List Call) :
    (∀ now token, (now, token) ∈ s.renewed refresh calls → s.engine.WithinSession t₀ now token) ∧
    ∀ now access,
      t₀.nanoseconds + s.engine.window.nanoseconds + nanosPerSecond ≤ now.nanoseconds →
      (s.run calls).answer (.refreshToken now access refresh) = .refused .refreshTokenExpired := by
  have hchecked := (of_ofSettings hs).1
  have hissued := answer_generateRefreshToken.1 hissue
  rw [run_engine] at hissued
  constructor
  · intro now token h
    exact withinSession_of_mem_renewed hchecked ht₀ hissued h
  · intro now access hnow
    have hrenew := Engine.renew_of_window hchecked ht₀ hissued hnow access
    rw [answer, run_engine, hrenew]

/-- Ada's last token, renewed in the last second of three days, is refused two seconds
after its five minutes, and by then nothing more is renewed. -/
theorem session_ends_ada :
    ofSettings .members Engine.memberSettings = .ok memberService ∧
      0 ≤ (Instant.ofSeconds 60).nanoseconds ∧
      (memberService.run []).answer adaRequest = .token adaRefresh ∧
      (.ofSeconds 259260, adaLast) ∈
        memberService.renewed adaRefresh [adaRenewal, adaLastRenewal] ∧
      (∃ why, Engine.memberEngine.verify (.ofSeconds 259562) .access adaLast = .error why) ∧
      (memberService.run [adaRenewal, adaLastRenewal]).answer
          (.refreshToken (.ofSeconds 259261) adaLast adaRefresh) =
        .refused .refreshTokenExpired := by
  have hissue : (memberService.run []).answer adaRequest = .token adaRefresh :=
    answer_generateRefreshToken.2 issueRefresh_ada
  obtain ⟨hwithin, hrefused⟩ := session_ends ofSettings_memberSettings
    (show 0 ≤ (Instant.ofSeconds 60).nanoseconds by decide) hissue [adaRenewal, adaLastRenewal]
  have hended := (hwithin _ _ adaLast_mem_renewed).ended (.ofSeconds 259562) (by decide)
  exact ⟨ofSettings_memberSettings, by decide, hissue, adaLast_mem_renewed, hended,
    hrefused (.ofSeconds 259261) adaLast (by decide)⟩

end Service

end BearerAuth
