import BearerAuth.Proofs.Time.Rfc3339
import BearerAuth.Proofs.Token.Issuance

/-!
# Lifetimes to the second

An expiry is a whole second, whereas the clock and the lifetimes go on to nanoseconds. What
is written is the last second that begins before the lifetime is over, so that a token is
never expired too early and at most a second late. A time that cannot be written is reported,
and there are two limits for that: the calendar ends with the year 9999, and the time of a
renewal in nanoseconds has sixty-four bits, which are full in the year 2262.

- `Instant.Leaves`: the end of a span lies after the calendar.
- `Instant.EndsIn`: the second that is written for the end of a span.
  `Instant.EndsIn.seconds_le` and `Instant.EndsIn.lt_seconds` say which instants are before
  that second is over and which are after.
- `Engine.expirySecond_eq_ite`: the only way for an expiry to fail.
- `Engine.LivesUntil`: a token up to an instant, and a second after it.
- `Engine.Renewable`: a pair of tokens that only the limits of time keep from being renewed.
- `Engine.expiries_exact`: which times the tokens of an engine have, and when they have none.
-/

namespace BearerAuth

open Time

namespace Time.Instant

variable {now : Instant} {span : Span} {second : Int}

/-! ## The end of a span -/

/-- The end of the span lies after the last year of the calendar. -/
def Leaves (now : Instant) (span : Span) : Prop :=
  9999 < (now.later span).date.year

instance (now : Instant) (span : Span) : Decidable (now.Leaves span) :=
  inferInstanceAs (Decidable (_ < _))

/-- The last second that begins by the end of the span. -/
structure EndsIn (now : Instant) (span : Span) (second : Int) : Prop where
  reached : second * nanosPerSecond ≤ now.nanoseconds + span.nanoseconds
  last : now.nanoseconds + span.nanoseconds - nanosPerSecond < second * nanosPerSecond

/-- A span does not lead out of the calendar if the instant at its end is in it. -/
theorem not_leaves_iff (hnow : 0 ≤ now.nanoseconds) (hspan : 0 < span.nanoseconds) :
    ¬now.Leaves span ↔ (now.later span).nanoseconds < calendarEnd.nanoseconds := by
  have hlater := later_nonneg hnow hspan
  have hcalendar := representable_iff hlater
  have hyears := representable_iff_year (t := now.later span)
  -- from 1970 on the first year of the calendar is in nobody's way
  have hstart : -9999 ≤ (now.later span).date.year := by
    refine Int.not_lt.1 fun hearly => ?_
    rw [year_lt_iff] at hearly
    have hbefore : Date.dayNumber ⟨-9999, 1, 1⟩ * secondsPerDay * nanosPerSecond < 0 := by decide
    omega
  rw [← hcalendar, hyears, Leaves]
  omega

theorem endsIn_seconds (now : Instant) (span : Span) :
    now.EndsIn span (now.later span).seconds := by
  have hseconds : (now.later span).seconds =
      (now.nanoseconds + span.nanoseconds) / 1000000000 := rfl
  constructor
  · rw [hseconds, nanosPerSecond]
    omega
  · rw [hseconds, nanosPerSecond]
    omega

namespace EndsIn

variable (h : now.EndsIn span second) {t : Instant}
include h

/-- Up to the end of the span the second is not over. -/
theorem seconds_le (ht : t.nanoseconds ≤ (now.later span).nanoseconds) : t.seconds ≤ second := by
  obtain ⟨-, hlast⟩ := h
  have hend : (now.later span).nanoseconds = now.nanoseconds + span.nanoseconds := rfl
  have hseconds : t.seconds = t.nanoseconds / 1000000000 := rfl
  rw [nanosPerSecond] at hlast
  omega

/-- A whole second after the end of the span it is over. -/
theorem lt_seconds (ht : (now.later span).nanoseconds + nanosPerSecond ≤ t.nanoseconds) :
    second < t.seconds := by
  obtain ⟨hreached, -⟩ := h
  have hend : (now.later span).nanoseconds = now.nanoseconds + span.nanoseconds := rfl
  have hseconds : t.seconds = t.nanoseconds / 1000000000 := rfl
  rw [nanosPerSecond] at hreached ht
  omega

end EndsIn

end Time.Instant

namespace Engine

variable {e : Engine} {now : Instant} {span : Span} {kind : TokenKind} {token : String}

/-! ## The end of a token -/

/-- A token is never expired up to the instant, and always from a second after it on. -/
structure LivesUntil (e : Engine) (kind : TokenKind) (token : String) (ending : Instant) :
    Prop where
  alive : ∀ t : Instant, t.nanoseconds ≤ ending.nanoseconds →
    e.verify t kind token ≠ .error .tokenExpired
  passed : ∀ t : Instant, ending.nanoseconds + nanosPerSecond ≤ t.nanoseconds →
    e.verify t kind token = .error .tokenExpired

/-- A token lives until the end of the span if its deadline is the second in which the span
ends. -/
theorem livesUntil_of_verdict {v : Verdict} (h : e.assess kind token = .ok v)
    (hend : now.EndsIn span v.deadline) : e.LivesUntil kind token (now.later span) where
  alive t ht hexpired := by
    obtain ⟨w, hw, hlate⟩ := verify_eq_expired_iff.1 hexpired
    obtain rfl := Except.ok.inj (h.symm.trans hw)
    exact Int.not_lt.2 (hend.seconds_le ht) hlate
  passed t ht := verify_eq_expired_iff.2 ⟨v, h, hend.lt_seconds ht⟩

theorem livesUntil_of_signedAccess {c : AccessClaims} (h : e.signedAccess token = .ok c)
    (hend : now.EndsIn span c.expiry.toInt) : e.LivesUntil .access token (now.later span) :=
  livesUntil_of_verdict (assess_access_eq_ok_iff.2 ⟨c, h, rfl⟩) hend

/-! ## Times that cannot be written -/

/-- An expiry fails only if it lies after the calendar, and otherwise nothing of it is lost
in sixty-four bits. -/
theorem expirySecond_eq_ite (hnow : 0 ≤ now.nanoseconds) (hspan : isLifetime span = true) :
    expirySecond now span =
      if now.Leaves span then .error .timeOutOfRange
      else .ok (.ofInt (now.later span).seconds) := by
  have hiff := Instant.not_leaves_iff hnow (isLifetime_iff.1 hspan).1
  rw [expirySecond_eq hnow hspan]
  by_cases hleaves : now.Leaves span
  · rw [if_pos hleaves, if_neg fun hend => hiff.2 hend hleaves]
  · rw [if_neg hleaves, if_pos (hiff.1 hleaves)]

/-- Sixty-four bits have the second in which a lifetime ends, as the calendar has it. -/
theorem endsIn_expiry (hnow : 0 ≤ now.nanoseconds) (hspan : isLifetime span = true)
    (h : ¬now.Leaves span) :
    now.EndsIn span (Int64.ofInt (now.later span).seconds).toInt := by
  have hend := (Instant.not_leaves_iff hnow (isLifetime_iff.1 hspan).1).1 h
  rw [toInt_expiry hnow hspan hend]
  exact Instant.endsIn_seconds now span

/-- A renewal can be dated if the calendar has the expiry and sixty-four bits have the
time. -/
theorem stampable_iff (he : e.Checked) (hnow : 0 ≤ now.nanoseconds) :
    e.Stampable now ↔
      ¬(now.Leaves e.tokenLifetime ∨ Text.Range.int64.holds now.nanoseconds = false) := by
  have hlife := (isLifetime_iff.1 he.tokenLifetime).1
  rw [not_or, Bool.not_eq_false, Instant.not_leaves_iff hnow hlife,
    ← Instant.representable_iff (Instant.later_nonneg hnow hlife)]
  exact ⟨fun h => ⟨h.expiry, h.stamp⟩, fun ⟨hexpiry, hstamp⟩ => ⟨hexpiry, hstamp⟩⟩

/-! ## Tokens that are issued -/

/-- The claims of a token that is signed now are read from it. -/
theorem signedAccess_of_not_leaves (he : e.Checked) (hnow : 0 ≤ now.nanoseconds)
    (h : ¬now.Leaves e.tokenLifetime) {c : AccessClaims} (hc : c.Proper)
    (hexpiry : c.expiry = .ofInt (now.later e.tokenLifetime).seconds) :
    e.signedAccess (e.writeAccess c) = .ok c :=
  signedAccess_of_expiry he hnow
    ((Instant.not_leaves_iff hnow (isLifetime_iff.1 he.tokenLifetime).1).1 h) hc hexpiry

section

variable (he : e.Checked) (hnow : 0 ≤ now.nanoseconds)
include he hnow

/-- An access token is refused if its lifetime leads out of the calendar, and for no other
reason. -/
theorem issueAccess_eq_ite (record : Fields) :
    e.issueAccess now (.ok record) =
      if now.Leaves e.tokenLifetime then .error .timeOutOfRange
      else .ok (e.writeAccess (e.issuedClaims now record)) := by
  rw [issueAccess, accessFor, expirySecond_eq_ite hnow he.tokenLifetime]
  by_cases h : now.Leaves e.tokenLifetime
  · rw [if_pos h, if_pos h]
    rfl
  · rw [if_neg h, if_neg h]
    rfl

/-- The ceiling is written in any case, whether or not it counts. -/
theorem issueRefresh_eq_ite (username address : String) :
    e.issueRefresh now username address =
      if now.Leaves e.refreshTtl ∨ now.Leaves e.refreshAbsoluteTtl then .error .timeOutOfRange
      else .ok (e.writeRefresh (e.issuedRefreshClaims now username address)) := by
  rw [issueRefresh, expirySecond_eq_ite hnow he.refreshTtl,
    expirySecond_eq_ite hnow he.refreshAbsoluteTtl]
  by_cases h : now.Leaves e.refreshTtl
  · have heither : now.Leaves e.refreshTtl ∨ now.Leaves e.refreshAbsoluteTtl := .inl h
    rw [if_pos h, if_pos heither]
    rfl
  · by_cases habsolute : now.Leaves e.refreshAbsoluteTtl
    · have heither : now.Leaves e.refreshTtl ∨ now.Leaves e.refreshAbsoluteTtl := .inr habsolute
      rw [if_neg h, if_pos habsolute, if_pos heither]
      rfl
    · rw [if_neg h, if_neg habsolute, if_neg (not_or.2 ⟨h, habsolute⟩)]
      rfl

/-- An access token that is issued expires where its lifetime ends, and lives until then. -/
theorem exists_issueAccess (hs : e.schema.Valid) (h : ¬now.Leaves e.tokenLifetime)
    (record : Fields) :
    ∃ token c, e.issueAccess now (.ok record) = .ok token ∧ e.Says token c ∧
      now.EndsIn e.tokenLifetime c.expiry.toInt ∧
      e.LivesUntil .access token (now.later e.tokenLifetime) := by
  have hissue := issueAccess_eq_ite he hnow record
  rw [if_neg h] at hissue
  have hproper : (e.issuedClaims now record).Proper := hs.proper_of_fields rfl
  have hsigned := signedAccess_of_not_leaves he hnow h hproper rfl
  have hend : now.EndsIn e.tokenLifetime (e.issuedClaims now record).expiry.toInt :=
    endsIn_expiry hnow he.tokenLifetime h
  exact ⟨_, _, hissue, says_of_signedAccess hsigned, hend, livesUntil_of_signedAccess hsigned hend⟩

/-- A refresh token that is issued is dated, expires where its two lifetimes end, and lives
until the end of the window. -/
theorem exists_issueRefresh_dated (h : ¬now.Leaves e.refreshTtl)
    (habsolute : ¬now.Leaves e.refreshAbsoluteTtl) (username address : String) :
    ∃ token c, e.issueRefresh now username address = .ok token ∧
      Signed.Authentic e.refreshSecret token ∧
      Signed.recover RefreshClaims.ofJson? token = .ok c ∧ c.issuedAt.toInt = now.seconds ∧
      now.EndsIn e.refreshTtl c.expiry.toInt ∧
      now.EndsIn e.refreshAbsoluteTtl c.absoluteExpiry.toInt ∧
      e.LivesUntil .refresh token (now.later e.window) := by
  have hissue := issueRefresh_eq_ite he hnow username address
  rw [if_neg (not_or.2 ⟨h, habsolute⟩)] at hissue
  obtain ⟨hpositive, -⟩ := isLifetime_iff.1 he.refreshTtl
  have hissued : (Int64.ofInt now.seconds).toInt = now.seconds := by
    -- the calendar has the expiry, which is later
    have hexpiry := (Instant.not_leaves_iff hnow hpositive).1 h
    refine Instant.toInt_ofInt_seconds ((Instant.representable_iff hnow).2 ?_)
    exact Int.lt_of_le_of_lt (Instant.le_later hpositive) hexpiry
  exact ⟨_, e.issuedRefreshClaims now username address, hissue, Signed.authentic_write _ _,
    Signed.recover_write _ (RefreshClaims.wellFormed_toJson _) (RefreshClaims.ofJson?_toJson _)
      (RefreshClaims.registeredExpiry?_toJson _),
    hissued, endsIn_expiry hnow he.refreshTtl h, endsIn_expiry hnow he.refreshAbsoluteTtl habsolute,
    livesUntil_of_verdict (assess_issueRefresh he hnow hissue) (Instant.endsIn_seconds _ _)⟩

end

/-! ## Tokens that are renewed -/

/-- A pair of tokens that only the limits of time keep from being renewed: the refresh token
is accepted, and the access token is signed, expired or not, and identifies somebody. -/
structure Renewable (e : Engine) (now : Instant) (access refresh : String) (c : AccessClaims) :
    Prop where
  refresh : ∃ who, e.verify now .refresh refresh = .ok who
  claims : e.Says access c
  identity : ∃ whose, c.identity e.schema = .ok whose

/-- What a token says is read from it, whether or not it has expired at some instant. -/
theorem Says.signedAccess {c : AccessClaims} (h : e.Says token c) (now : Instant) :
    e.signedAccess token = .ok c := by
  have hread : e.readAccess now token = .error .tokenExpired ∨
      ∃ c, e.readAccess now token = .ok c := by
    rw [h.read now]
    split
    · exact .inl rfl
    · exact .inr ⟨c, rfl⟩
  obtain ⟨d, hd⟩ := signedAccess_of_readAccess hread
  obtain rfl := Except.ok.inj ((says_of_signedAccess hd).recovered.symm.trans h.recovered)
  exact hd

namespace Renewable

variable {access refresh : String} {c : AccessClaims} (h : e.Renewable now access refresh c)
  (he : e.Checked) (hnow : 0 ≤ now.nanoseconds)
include h

/-- For an authentic pair only the new stamp can stand in the way of a renewal. -/
theorem renew_eq : ∃ username,
    e.renew now access refresh = (do
      let accessToken ← e.restamp now c
      .ok { accessToken, username }) := by
  obtain ⟨⟨who, hwho⟩, hclaims, whose, hwhose⟩ := h
  refine ⟨whose.username, ?_⟩
  rw [Engine.renew_eq hwho, hclaims.signedAccess now]
  show (c.identity e.schema >>= fun who => _) = _
  rw [hwhose]
  rfl

theorem renew_eq_error_iff :
    e.renew now access refresh = .error .timeOutOfRange ↔ ¬e.Stampable now := by
  obtain ⟨username, hrenew⟩ := h.renew_eq
  rw [hrenew]
  by_cases hstamp : e.Stampable now
  · rw [restamp_of_stampable hstamp]
    simp [hstamp, bind, Except.bind]
  · rw [restamp_of_not_stampable hstamp]
    simp [hstamp, bind, Except.bind]

include he hnow

/-- A renewed token is stamped with the time, expires where its lifetime ends, and lives
until then. -/
theorem exists_renew (hstamp : e.Stampable now) :
    ∃ renewal d, e.renew now access refresh = .ok renewal ∧ e.Says renewal.accessToken d ∧
      now.EndsIn e.tokenLifetime d.expiry.toInt ∧
      d.refreshedAt.map Int64.toInt = some now.nanoseconds ∧
      e.LivesUntil .access renewal.accessToken (now.later e.tokenLifetime) := by
  obtain ⟨username, hrenew⟩ := h.renew_eq
  rw [restamp_of_stampable hstamp] at hrenew
  have hproper := (of_signedAccess (h.claims.signedAccess now)).1
  have hsigned := signedAccess_restamped he hnow hstamp hproper
  have hend : now.EndsIn e.tokenLifetime (e.restamped now c).expiry.toInt :=
    endsIn_expiry hnow he.tokenLifetime
      (not_or.1 ((stampable_iff he hnow).1 hstamp)).1
  exact ⟨_, _, hrenew, says_of_signedAccess hsigned, hend, hstamp.toInt_refreshedAt c,
    livesUntil_of_signedAccess hsigned hend⟩

end Renewable

/-! ## All times that are written -/

/-- A token is refused for want of a time exactly if one of the lifetimes used for it ends
after the year 9999, and a renewal also if its own time does not fit sixty-four bits.
Otherwise there is a token, and every time in it is the one meant: an expiry is the last
second that begins within the lifetime. The token is not expired before its lifetime is over
and has expired a second later, where for a refresh token the ceiling counts if the engine
enforces it. -/
theorem expiries_exact {settings : Settings} (he : ofSettings settings = .ok e)
    {table : TableDescription} (hschema : Schema.ofDescription table = .ok e.schema)
    (hnow : 0 ≤ now.nanoseconds) :
    (∀ record,
      (e.issueAccess now (.ok record) = .error .timeOutOfRange ↔ now.Leaves e.tokenLifetime) ∧
      (¬now.Leaves e.tokenLifetime → ∃ token c, e.issueAccess now (.ok record) = .ok token ∧
        e.Says token c ∧ now.EndsIn e.tokenLifetime c.expiry.toInt ∧
        e.LivesUntil .access token (now.later e.tokenLifetime))) ∧
    (∀ username address,
      (e.issueRefresh now username address = .error .timeOutOfRange ↔
        now.Leaves e.refreshTtl ∨ now.Leaves e.refreshAbsoluteTtl) ∧
      (¬now.Leaves e.refreshTtl → ¬now.Leaves e.refreshAbsoluteTtl → ∃ token c,
        e.issueRefresh now username address = .ok token ∧
        Signed.Authentic e.refreshSecret token ∧
        Signed.recover RefreshClaims.ofJson? token = .ok c ∧ c.issuedAt.toInt = now.seconds ∧
        now.EndsIn e.refreshTtl c.expiry.toInt ∧
        now.EndsIn e.refreshAbsoluteTtl c.absoluteExpiry.toInt ∧
        e.LivesUntil .refresh token (now.later e.window))) ∧
    ∀ access refresh c, e.Renewable now access refresh c →
      (e.renew now access refresh = .error .timeOutOfRange ↔
        now.Leaves e.tokenLifetime ∨ Text.Range.int64.holds now.nanoseconds = false) ∧
      (¬now.Leaves e.tokenLifetime → Text.Range.int64.holds now.nanoseconds = true →
        ∃ renewal d, e.renew now access refresh = .ok renewal ∧
          e.Says renewal.accessToken d ∧ now.EndsIn e.tokenLifetime d.expiry.toInt ∧
          d.refreshedAt.map Int64.toInt = some now.nanoseconds ∧
          e.LivesUntil .access renewal.accessToken (now.later e.tokenLifetime)) := by
  have hchecked := (of_ofSettings he).1
  have hvalid : e.schema.Valid := Schema.valid_of_ofDescription hschema
  have hstampable := stampable_iff hchecked hnow
  refine ⟨fun record => ⟨?_, fun h => exists_issueAccess hchecked hnow hvalid h record⟩,
    fun username address => ⟨?_, fun h habsolute =>
      exists_issueRefresh_dated hchecked hnow h habsolute username address⟩,
    fun access refresh c hc => ⟨?_, fun h hholds => ?_⟩⟩
  · rw [issueAccess_eq_ite hchecked hnow, ite_eq_left_iff]
    simp
  · rw [issueRefresh_eq_ite hchecked hnow, ite_eq_left_iff]
    simp only [reduceCtorEq, imp_false, not_not]
  · rw [hc.renew_eq_error_iff, hstampable, not_not]
  · refine hc.exists_renew hchecked hnow (hstampable.2 ?_)
    rw [hholds]
    simpa using h

/-! ## Half a second -/

/-- The settings for an engine whose access tokens live for a second and a half. -/
def briefSettings : Settings :=
  { memberSettings with tokenLifetime := some ⟨1500000000⟩ }

/-- An engine whose access tokens live for a second and a half. -/
def briefEngine : Engine :=
  { memberEngine with tokenLifetime := ⟨1500000000⟩ }

/-- A brief token that is issued in the last nanosecond of a second has not expired when its
second and a half is over, and has expired a second later. In the last second of the
calendar there is none. -/
theorem expiries_exact_brief :
    ofSettings briefSettings = .ok briefEngine ∧
      Schema.ofDescription Schema.membersTable = .ok briefEngine.schema ∧
      (∃ token c, briefEngine.issueAccess ⟨999999999⟩ (.ok .empty) = .ok token ∧
        briefEngine.Says token c ∧ c.expiry.toInt = 2 ∧
        briefEngine.verify ⟨2499999999⟩ .access token ≠ .error .tokenExpired ∧
        briefEngine.verify ⟨3499999999⟩ .access token = .error .tokenExpired) ∧
      briefEngine.issueAccess ⟨253402300799000000000⟩ (.ok .empty) = .error .timeOutOfRange := by
  have he : ofSettings briefSettings = .ok briefEngine := rfl
  have hschema : Schema.ofDescription Schema.membersTable = .ok briefEngine.schema := rfl
  obtain ⟨hbrief, -⟩ :=
    expiries_exact he hschema (show 0 ≤ (⟨999999999⟩ : Instant).nanoseconds by decide)
  obtain ⟨hlast, -⟩ :=
    expiries_exact he hschema (show 0 ≤ (⟨253402300799000000000⟩ : Instant).nanoseconds by decide)
  obtain ⟨token, c, hissue, hsays, hend, hlives⟩ := (hbrief .empty).2 (by decide)
  refine ⟨he, hschema, ⟨token, c, hissue, hsays, ?_, hlives.alive _ (by decide),
    hlives.passed _ (by decide)⟩, (hlast .empty).1.2 (by decide)⟩
  obtain ⟨hreached, hlast⟩ := hend
  have hreached : c.expiry.toInt * 1000000000 ≤ 999999999 + 1500000000 := hreached
  have hlast : 999999999 + 1500000000 - 1000000000 < c.expiry.toInt * 1000000000 := hlast
  omega

end Engine

end BearerAuth
