import BearerAuth.Proofs.Except
import BearerAuth.Proofs.Schema.Valid
import BearerAuth.Proofs.Time.Instant
import BearerAuth.Proofs.Token.Signed
import BearerAuth.Token.Engine

/-!
# What an engine reads

Both kinds of token are read in two steps: what the token says under its secret,
whatever the time, and then the comparison of its expiry with the clock.

- `Engine.Checked`: what is known of the lifetimes of every engine.
- `Engine.signedAccess`, `Engine.signedRefresh`: the claims of a token that is
  signed, expired or not.
- `Engine.readAccess_eq`, `Engine.readRefresh_eq`: reading is that and one
  comparison. The expiry that every token is checked for and the one of its
  claims never disagree.
- `Engine.Says`: what a signed access token says, at whatever time it is read.
- `Engine.renewable_eq`: a renewal starts from the claims of a signed token,
  expired or not. The claims that are recovered without a check are never
  others.
- `Engine.verify_access`, `Engine.verify_refresh`: whom a signed token
  identifies.
- `Engine.signedAccess_writeAccess`, `Engine.signedRefresh_writeRefresh`: what
  was signed is read.
- `Engine.verify_of_expiry`: a token that is signed now identifies whom its
  claims identify.

The engine of the members stands at the end.
-/

namespace BearerAuth

open Time

/-! ## Identities -/

namespace AccessClaims

variable {s : Schema} {c : AccessClaims} {username role : String}

/-- Claims without a name are nobody's. -/
theorem identity_of_missing_username (h : c.fields.get? s.keyClaim = none) :
    c.identity s = .error .missingUsername := by
  rw [identity, h]

/-- Claims with a name need a role as well. -/
theorem identity_of_missing_role (h : c.fields.get? s.keyClaim = some username)
    (hrole : c.fields.get? s.roleClaim = none) : c.identity s = .error .missingRole := by
  rw [identity, h]
  dsimp only
  rw [hrole]

/-- Claims with a name and a role are those of somebody. -/
theorem identity_of_fields (h : c.fields.get? s.keyClaim = some username)
    (hrole : c.fields.get? s.roleClaim = some role) :
    c.identity s = .ok { username, role := some role } := by
  rw [identity, h]
  dsimp only
  rw [hrole]

/-- The claims of an access token identify nobody without a role. -/
theorem role_of_identity {who : Identity} (h : c.identity s = .ok who) :
    ∃ role, who.role = some role := by
  unfold identity at h
  split at h
  · cases h
  split at h
  · cases h
  next role hrole =>
  cases h
  exact ⟨role, rfl⟩

/-- Whom claims identify depends on the claims of the user alone. -/
theorem identity_congr {d : AccessClaims} (h : d.fields = c.fields) :
    d.identity s = c.identity s := by
  rw [identity, identity, h]

end AccessClaims

namespace Engine

/-! ## Engines -/

/-- The lifetimes of an engine are positive and not too long. -/
structure Checked (e : Engine) : Prop where
  tokenLifetime : isLifetime e.tokenLifetime = true
  refreshTtl : isLifetime e.refreshTtl = true
  refreshAbsoluteTtl : isLifetime e.refreshAbsoluteTtl = true

/-- A lifetime is positive, and at most the longest one. -/
theorem isLifetime_iff {s : Span} :
    isLifetime s = true ↔
      0 < s.nanoseconds ∧ s.nanoseconds ≤ longestLifetime.nanoseconds := by
  simp [isLifetime]

/-- Settings that make an engine give it their schema and lifetimes that were
checked. -/
theorem of_ofSettings {s : Settings} {e : Engine} (h : ofSettings s = .ok e) :
    e.Checked ∧ s.schema = some e.schema := by
  unfold ofSettings at h
  split at h
  · cases h
  split at h
  · cases h
  split at h
  · cases h
  next lifetime hlifetime =>
  split at h
  · cases h
  next hlong =>
  split at h
  · cases h
  next httl =>
  split at h
  · cases h
  next habsolute =>
  split at h
  · cases h
  next schema hschema =>
  cases h
  -- the lifetime was checked in two steps
  have hpositive : 0 < lifetime.nanoseconds := by
    have := (Option.filter_eq_some_iff.1 hlifetime).2
    simpa using this
  refine ⟨⟨isLifetime_iff.2 ⟨hpositive, Int.not_lt.1 hlong⟩, ?_, ?_⟩, hschema⟩
  · simpa using httl
  · simpa using habsolute

/-! ## Reading -/

/-- The claims of an access token that is signed, expired or not. -/
def signedAccess (e : Engine) (token : String) : Except TokenError AccessClaims :=
  (Signed.contents AccessClaims.ofJson? e.accessSecret token).map (·.1)

/-- The claims of a refresh token that is signed, expired or not. -/
def signedRefresh (e : Engine) (token : String) : Except TokenError RefreshClaims :=
  (Signed.contents RefreshClaims.ofJson? e.refreshSecret token).map (·.1)

/-- The claims of an access token count if it is signed and has not expired. -/
theorem readAccess_eq (e : Engine) (now : Instant) (token : String) :
    e.readAccess now token =
      match e.signedAccess token with
      | .error why => .error why
      | .ok c => if c.expiry.toInt < now.seconds then .error .tokenExpired else .ok c := by
  unfold readAccess signedAccess
  rw [Signed.verify]
  cases h : Signed.contents AccessClaims.ofJson? e.accessSecret token with
  | error why => rfl
  | ok r =>
    obtain ⟨c, x⟩ := r
    -- the two expiries are one, so that the second comparison repeats the first
    obtain ⟨j, -, hc, hx⟩ := Signed.of_contents h
    obtain rfl := AccessClaims.eq_expiry_of_registeredExpiry? hc hx
    by_cases hexpired : c.expiry.toInt < now.seconds
    · simp [hexpired, Except.map]
    · simp [hexpired, Except.map]

/-- The claims of a refresh token count if it is signed and neither expiry that is enforced
has passed. -/
theorem readRefresh_eq (e : Engine) (now : Instant) (token : String) :
    e.readRefresh now token =
      match e.signedRefresh token with
      | .error why => .error why
      | .ok c =>
        if c.expiry.toInt < now.seconds ∨
          e.ceiling = .enforced ∧ c.absoluteExpiry.toInt < now.seconds
        then .error .tokenExpired else .ok c := by
  unfold readRefresh signedRefresh
  rw [Signed.verify]
  cases h : Signed.contents RefreshClaims.ofJson? e.refreshSecret token with
  | error why => rfl
  | ok r =>
    obtain ⟨c, x⟩ := r
    obtain ⟨j, -, hc, hx⟩ := Signed.of_contents h
    obtain rfl := RefreshClaims.eq_expiry_of_registeredExpiry? hc hx
    by_cases hexpired : c.expiry.toInt < now.seconds
    · simp [hexpired, Except.map]
    · simp [hexpired, Except.map]

/-- An access token that is not signed is refused for its form, whatever the
time. -/
theorem error_of_signedAccess {e : Engine} {token : String} {why : TokenError}
    (h : e.signedAccess token = .error why) :
    why = .invalidToken ∨ why = .claimsInvalid ∨ why = .unexpectedSigningMethod :=
  Signed.error_of_contents (map_eq_error_iff.1 h)

/-- A renewal starts from the claims of a signed token, whatever the time. -/
theorem renewable_eq (e : Engine) (now : Instant) (token : String) :
    e.renewable now token = e.signedAccess token := by
  unfold renewable
  rw [readAccess_eq]
  cases h : e.signedAccess token with
  | error why =>
    rcases error_of_signedAccess h with rfl | rfl | rfl <;> rfl
  | ok c =>
    obtain ⟨⟨c, x⟩, hcontents, rfl⟩ := map_eq_ok_iff.1 h
    dsimp only
    by_cases hexpired : c.expiry.toInt < now.seconds
    · -- the claims are recovered without a check, from a token that has just passed it
      rw [if_pos hexpired]
      exact Signed.recover_of_contents hcontents
    · rw [if_neg hexpired]

/-- The claims of a signed access token are proper, and the token is signed as
its header says. -/
theorem of_signedAccess {e : Engine} {token : String} {c : AccessClaims}
    (h : e.signedAccess token = .ok c) :
    c.Proper ∧ Signed.Authentic e.accessSecret token := by
  obtain ⟨⟨c, x⟩, hcontents, rfl⟩ := map_eq_ok_iff.1 h
  obtain ⟨j, -, hc, -⟩ := Signed.of_contents hcontents
  exact ⟨AccessClaims.proper_of_ofJson? hc, Signed.authentic_of_contents hcontents⟩

/-- What a signed access token says, expired or not. The same is found without a
check, and reading the token fails at most for its expiry. -/
structure Says (e : Engine) (token : String) (c : AccessClaims) : Prop where
  authentic : Signed.Authentic e.accessSecret token
  recovered : Signed.recover AccessClaims.ofJson? token = .ok c
  read : ∀ now, e.readAccess now token =
    if c.expiry.toInt < now.seconds then .error .tokenExpired else .ok c

/-- Claims that are found in a signed token are what it says. -/
theorem says_of_signedAccess {e : Engine} {token : String} {c : AccessClaims}
    (h : e.signedAccess token = .ok c) : e.Says token c where
  authentic := (of_signedAccess h).2
  recovered := by
    obtain ⟨⟨c, x⟩, hcontents, rfl⟩ := map_eq_ok_iff.1 h
    exact Signed.recover_of_contents hcontents
  read now := by
    rw [readAccess_eq, h]

/-- A token that is refused for more than its expiry has no claims at any time. -/
theorem error_of_readAccess {e : Engine} {now : Instant} {token : String} {why : TokenError}
    (h : e.readAccess now token = .error why) (hwhy : why ≠ .tokenExpired) :
    e.signedAccess token = .error why := by
  rw [readAccess_eq] at h
  cases hsigned : e.signedAccess token with
  | error other =>
    rw [hsigned] at h
    exact h
  | ok c =>
    rw [hsigned] at h
    replace h : (if c.expiry.toInt < now.seconds then Except.error TokenError.tokenExpired
      else Except.ok c) = .error why := h
    split at h
    · cases h
      exact absurd rfl hwhy
    · cases h

/-- A token that is read, or refused for its expiry alone, is signed. -/
theorem signedAccess_of_readAccess {e : Engine} {now : Instant} {token : String}
    (h : e.readAccess now token = .error .tokenExpired ∨ ∃ c, e.readAccess now token = .ok c) :
    ∃ c, e.signedAccess token = .ok c := by
  cases hsigned : e.signedAccess token with
  | ok c => exact ⟨c, rfl⟩
  | error why =>
    have hread : e.readAccess now token = .error why := by
      rw [readAccess_eq, hsigned]
    rw [hread] at h
    rcases h with h | ⟨c, h⟩
    · -- a token that is not signed is never refused for its expiry
      cases h
      rcases error_of_signedAccess hsigned with h | h | h <;> cases h
    · cases h

/-- Whom a signed access token identifies depends on the clock in one comparison
only. -/
theorem verify_access {e : Engine} {token : String} {c : AccessClaims}
    (h : e.signedAccess token = .ok c) (now : Instant) :
    e.verify now .access token =
      if c.expiry.toInt < now.seconds then .error .tokenExpired else c.identity e.schema := by
  unfold verify
  rw [readAccess_eq, h]
  by_cases hexpired : c.expiry.toInt < now.seconds
  · simp [hexpired]
  · simp [hexpired]

/-- An access token that is accepted is signed, and identifies whom its claims
identify. -/
theorem of_verify_access {e : Engine} {now : Instant} {token : String} {who : Identity}
    (h : e.verify now .access token = .ok who) :
    ∃ c, e.signedAccess token = .ok c ∧ c.identity e.schema = .ok who := by
  cases hsigned : e.signedAccess token with
  | error why =>
    have hread : e.readAccess now token = .error why := by
      rw [readAccess_eq, hsigned]
    unfold verify at h
    rw [hread] at h
    cases h
  | ok c =>
    rw [verify_access hsigned] at h
    split at h
    · cases h
    · exact ⟨c, rfl, h⟩

/-- A signed refresh token is accepted for its name until it expires, under the ceiling that
is enforced. -/
theorem verify_refresh {e : Engine} {token : String} {c : RefreshClaims}
    (h : e.signedRefresh token = .ok c) (now : Instant) :
    e.verify now .refresh token =
      if c.expiry.toInt < now.seconds ∨
        e.ceiling = .enforced ∧ c.absoluteExpiry.toInt < now.seconds
      then .error .tokenExpired else c.identity := by
  unfold verify
  rw [readRefresh_eq, h]
  by_cases hexpired : c.expiry.toInt < now.seconds ∨
      e.ceiling = .enforced ∧ c.absoluteExpiry.toInt < now.seconds
  · simp [hexpired]
  · simp [hexpired]

/-! ## Reading what was written -/

/-- Proper claims are read from the access token that was signed for them. -/
theorem signedAccess_writeAccess (e : Engine) {c : AccessClaims} (hc : c.Proper)
    (hexpiry : 0 ≤ c.expiry.toInt) : e.signedAccess (e.writeAccess c) = .ok c := by
  have hregistered := AccessClaims.registeredExpiry?_toJson hc
  rw [if_pos hexpiry] at hregistered
  exact map_eq_ok_iff.2 ⟨_, Signed.contents_write c.wellFormed_toJson
    (AccessClaims.ofJson?_toJson hc) hregistered, rfl⟩

/-- The claims of a refresh token are read from what was signed for them. -/
theorem signedRefresh_writeRefresh (e : Engine) {c : RefreshClaims}
    (hexpiry : 0 ≤ c.expiry.toInt) : e.signedRefresh (e.writeRefresh c) = .ok c := by
  have hregistered := RefreshClaims.registeredExpiry?_toJson c
  rw [if_pos hexpiry] at hregistered
  exact map_eq_ok_iff.2 ⟨_, Signed.contents_write c.wellFormed_toJson
    (RefreshClaims.ofJson?_toJson c) hregistered, rfl⟩

/-- What is read from an access token that was signed for proper claims are
these claims. -/
theorem eq_of_signedAccess_writeAccess {e : Engine} {c d : AccessClaims} (hc : c.Proper)
    (h : e.signedAccess (e.writeAccess c) = .ok d) : d = c := by
  obtain ⟨r, hcontents, rfl⟩ := map_eq_ok_iff.1 h
  have hread := Signed.read_of_contents_write c.wellFormed_toJson hcontents
  rw [AccessClaims.ofJson?_toJson hc] at hread
  exact (Option.some.inj hread).symm

/-- Without a check proper claims are found whatever their expiry is. -/
theorem recover_writeAccess (e : Engine) {c : AccessClaims} (hc : c.Proper) :
    Signed.recover AccessClaims.ofJson? (e.writeAccess c) = .ok c :=
  Signed.recover_write _ c.wellFormed_toJson (AccessClaims.ofJson?_toJson hc)
    (AccessClaims.registeredExpiry?_toJson hc)

/-- A refresh token is no access token, even under one secret. -/
theorem signedAccess_writeRefresh_ne (e : Engine) (c : RefreshClaims) (d : AccessClaims) :
    e.signedAccess (e.writeRefresh c) ≠ .ok d := by
  intro h
  obtain ⟨r, hcontents, -⟩ := map_eq_ok_iff.1 h
  have hread := Signed.read_of_contents_write c.wellFormed_toJson hcontents
  rw [RefreshClaims.accessClaims_ofJson?_toJson] at hread
  cases hread

/-! ## Expiries -/

/-- For a lifetime from the start of time on, there is an expiry up to the end of the
calendar. -/
theorem expirySecond_eq {now : Instant} {span : Span} (hnow : 0 ≤ now.nanoseconds)
    (hspan : isLifetime span = true) :
    expirySecond now span =
      if (now.later span).nanoseconds < Instant.calendarEnd.nanoseconds
      then .ok (.ofInt (now.later span).seconds) else .error .timeOutOfRange := by
  unfold expirySecond
  rw [Instant.after?_eq hnow (isLifetime_iff.1 hspan).1]
  by_cases h : (now.later span).nanoseconds < Instant.calendarEnd.nanoseconds
  · rw [if_pos h, if_pos h]
  · rw [if_neg h, if_neg h]

theorem expirySecond_of_representable {now : Instant} {span : Span}
    (h : (now.later span).representable = true) :
    expirySecond now span = .ok (.ofInt (now.later span).seconds) := by
  have hafter : now.after? span = some (now.later span) := if_pos h
  rw [expirySecond, hafter]

theorem expirySecond_of_not_representable {now : Instant} {span : Span}
    (h : ¬(now.later span).representable = true) :
    expirySecond now span = .error .timeOutOfRange := by
  have hafter : now.after? span = none := if_neg h
  rw [expirySecond, hafter]

/-- An expiry is the second of an instant that the calendar has. -/
theorem of_expirySecond {now : Instant} {span : Span} {expiry : Int64}
    (h : expirySecond now span = .ok expiry) :
    (now.later span).representable = true ∧ expiry = .ofInt (now.later span).seconds := by
  by_cases hrep : (now.later span).representable = true
  · rw [expirySecond_of_representable hrep] at h
    cases h
    exact ⟨hrep, rfl⟩
  · rw [expirySecond_of_not_representable hrep] at h
    cases h

/-- The second of an expiry is that of the instant at which it falls. -/
theorem toInt_expiry {now : Instant} {span : Span} (hnow : 0 ≤ now.nanoseconds)
    (hspan : isLifetime span = true)
    (h : (now.later span).nanoseconds < Instant.calendarEnd.nanoseconds) :
    (Int64.ofInt (now.later span).seconds).toInt = (now.later span).seconds :=
  Instant.toInt_ofInt_seconds
    ((Instant.representable_iff (Instant.later_nonneg hnow (isLifetime_iff.1 hspan).1)).2 h)

/-- No expiry is before the start of time. -/
theorem toInt_expiry_nonneg {now : Instant} {span : Span} (hnow : 0 ≤ now.nanoseconds)
    (hspan : isLifetime span = true)
    (h : (now.later span).nanoseconds < Instant.calendarEnd.nanoseconds) :
    0 ≤ (Int64.ofInt (now.later span).seconds).toInt := by
  rw [toInt_expiry hnow hspan h]
  exact Instant.seconds_nonneg (Instant.later_nonneg hnow (isLifetime_iff.1 hspan).1)

section

variable {e : Engine} (he : e.Checked) {now : Instant} (hnow : 0 ≤ now.nanoseconds)
  (h : (now.later e.tokenLifetime).nanoseconds < Instant.calendarEnd.nanoseconds)
  {c : AccessClaims} (hc : c.Proper)
  (hexpiry : c.expiry = .ofInt (now.later e.tokenLifetime).seconds)
include he hnow h hc hexpiry

/-- The claims of a token that is signed now are read from it. -/
theorem signedAccess_of_expiry : e.signedAccess (e.writeAccess c) = .ok c := by
  refine signedAccess_writeAccess e hc ?_
  rw [hexpiry]
  exact toInt_expiry_nonneg hnow he.tokenLifetime h

/-- A token that is signed now identifies whom its claims identify, as long as
it lives. -/
theorem verify_of_expiry {t : Instant}
    (ht : t.nanoseconds ≤ (now.later e.tokenLifetime).nanoseconds) :
    e.verify t .access (e.writeAccess c) = c.identity e.schema := by
  have hsigned := signedAccess_of_expiry he hnow h hc hexpiry
  have hseconds := Instant.seconds_mono ht
  rw [verify_access hsigned, hexpiry, toInt_expiry hnow he.tokenLifetime h,
    if_neg (Int.not_lt.2 hseconds)]

end

/-! ## The engine of the members -/

/-- The settings for the tokens of the members. -/
def memberSettings : Settings where
  accessSecret := some "access-secret"
  refreshSecret := some "refresh-secret"
  tokenLifetime := some (.ofMinutes 5)
  schema := some .members

/-- The engine for the tokens of the members. -/
def memberEngine : Engine where
  accessSecret := "access-secret"
  refreshSecret := "refresh-secret"
  tokenLifetime := .ofMinutes 5
  refreshTtl := .ofDays 3
  refreshAbsoluteTtl := .ofDays 15
  ceiling := .unenforced
  schema := .members

theorem ofSettings_memberSettings : ofSettings memberSettings = .ok memberEngine := rfl

end Engine

end BearerAuth
