import BearerAuth.Proofs.Schema.Claims
import BearerAuth.Proofs.Token.Deadline

/-!
# What issued tokens say

- `Engine.verify_accessFor`: an access token for a record identifies the user
  and the role of the record until it expires.
- `Engine.window`: how long refresh tokens last.
- `Engine.assess_issueRefresh`: a refresh token identifies the user that it was
  issued to, up to the second in which its window ends.
- `Engine.verify_issueRefresh`: that is until it expires, and until its ceiling if
  that is enforced.
-/

namespace BearerAuth.Engine

open Time

variable {e : Engine} (he : e.Checked) {now : Instant} (hnow : 0 ≤ now.nanoseconds)

/-- The claims of an access token that is issued for a record. -/
def issuedClaims (e : Engine) (now : Instant) (record : Fields) : AccessClaims where
  issuer := issuer
  expiry := .ofInt (now.later e.tokenLifetime).seconds
  refreshedAt := none
  fields := e.schema.claims record

/-- The claims of a refresh token that is issued to a user. -/
def issuedRefreshClaims (e : Engine) (now : Instant) (username address : String) :
    RefreshClaims where
  username := some username
  address := address
  issuedAt := .ofInt now.seconds
  expiry := .ofInt (now.later e.refreshTtl).seconds
  absoluteExpiry := .ofInt (now.later e.refreshAbsoluteTtl).seconds
  valid := true

/-- How long refresh tokens last: up to their expiry, and up to their ceiling if
that counts. -/
def window (e : Engine) : Span :=
  match e.ceiling with
  | .unenforced => e.refreshTtl
  | .enforced => ⟨min e.refreshTtl.nanoseconds e.refreshAbsoluteTtl.nanoseconds⟩

/-- An access token is signed for the claims of its record. -/
theorem of_accessFor {record : Fields} {token : String} (h : e.accessFor now record = .ok token) :
    ∃ c : AccessClaims, token = e.writeAccess c ∧ c.fields = e.schema.claims record := by
  obtain ⟨expiry, -, h⟩ := bind_eq_ok_iff.1 h
  cases h
  exact ⟨_, rfl, rfl⟩

/-- A refresh token is signed for the claims of its issue, if the calendar has both
of its expiries. -/
theorem eq_of_issueRefresh {username address token : String}
    (h : e.issueRefresh now username address = .ok token) :
    token = e.writeRefresh (e.issuedRefreshClaims now username address) ∧
      (now.later e.refreshTtl).representable = true ∧
      (now.later e.refreshAbsoluteTtl).representable = true := by
  obtain ⟨expiry, hexpiry, h⟩ := bind_eq_ok_iff.1 h
  obtain ⟨absoluteExpiry, habsolute, h⟩ := bind_eq_ok_iff.1 h
  obtain ⟨hrep, rfl⟩ := of_expirySecond hexpiry
  obtain ⟨habsoluteRep, rfl⟩ := of_expirySecond habsolute
  cases h
  exact ⟨rfl, hrep, habsoluteRep⟩

theorem of_issueRefresh {username address token : String}
    (h : e.issueRefresh now username address = .ok token) :
    ∃ c : RefreshClaims, token = e.writeRefresh c :=
  ⟨_, (eq_of_issueRefresh h).1⟩

include he hnow

theorem accessFor_eq
    (h : (now.later e.tokenLifetime).nanoseconds < Instant.calendarEnd.nanoseconds)
    (record : Fields) :
    e.accessFor now record = .ok (e.writeAccess (e.issuedClaims now record)) := by
  have hexpiry := expirySecond_eq hnow he.tokenLifetime
  rw [if_pos h] at hexpiry
  rw [accessFor, hexpiry]
  rfl

theorem issueRefresh_eq (h : (now.later e.refreshTtl).nanoseconds < Instant.calendarEnd.nanoseconds)
    (habsolute :
      (now.later e.refreshAbsoluteTtl).nanoseconds < Instant.calendarEnd.nanoseconds)
    (username address : String) :
    e.issueRefresh now username address =
      .ok (e.writeRefresh (e.issuedRefreshClaims now username address)) := by
  have hexpiry := expirySecond_eq hnow he.refreshTtl
  have hceiling := expirySecond_eq hnow he.refreshAbsoluteTtl
  rw [if_pos h] at hexpiry
  rw [if_pos habsolute] at hceiling
  rw [issueRefresh, hexpiry, hceiling]
  rfl

/-- An access token for a record identifies the user and the role of the record
until it expires. -/
theorem verify_accessFor (hs : e.schema.Valid)
    (h : (now.later e.tokenLifetime).nanoseconds < Instant.calendarEnd.nanoseconds)
    (record : Fields) {t : Instant}
    (ht : t.nanoseconds ≤ (now.later e.tokenLifetime).nanoseconds) :
    e.verify t .access (e.writeAccess (e.issuedClaims now record)) =
      (e.issuedClaims now record).identity e.schema :=
  have hproper : (e.issuedClaims now record).Proper := hs.proper_of_fields rfl
  verify_of_expiry he hnow h hproper rfl ht

/-- A refresh token has its deadline in the second in which its window ends. -/
theorem assess_issueRefresh {username address token : String}
    (h : e.issueRefresh now username address = .ok token) :
    e.assess .refresh token =
      .ok
        { deadline := (now.later e.window).seconds
          answer := .ok { username, role := none } } := by
  obtain ⟨rfl, hrep, habsoluteRep⟩ := eq_of_issueRefresh h
  have hexpiry : (e.issuedRefreshClaims now username address).expiry.toInt =
      (now.later e.refreshTtl).seconds := Instant.toInt_ofInt_seconds hrep
  have habsolute : (e.issuedRefreshClaims now username address).absoluteExpiry.toInt =
      (now.later e.refreshAbsoluteTtl).seconds := Instant.toInt_ofInt_seconds habsoluteRep
  have hnonneg : 0 ≤ (e.issuedRefreshClaims now username address).expiry.toInt := by
    rw [hexpiry]
    exact Instant.seconds_nonneg (Instant.later_nonneg hnow (isLifetime_iff.1 he.refreshTtl).1)
  have hdeadline : (e.issuedRefreshClaims now username address).deadline e.ceiling =
      (now.later e.window).seconds := by
    unfold RefreshClaims.deadline window
    cases e.ceiling with
    | unenforced => exact hexpiry
    | enforced =>
      dsimp only
      rw [hexpiry, habsolute, Instant.seconds_later_min]
  rw [← hdeadline]
  exact assess_refresh_eq_ok_iff.2 ⟨_, signedRefresh_writeRefresh e hnonneg, rfl⟩

/-- A refresh token is accepted up to the second in which its window ends. -/
theorem verify_issued {username address token : String}
    (h : e.issueRefresh now username address = .ok token) (t : Instant) :
    e.verify t .refresh token =
      if t.seconds ≤ (now.later e.window).seconds then .ok { username, role := none }
      else .error .tokenExpired :=
  verify_of_verdict (assess_issueRefresh he hnow h) t

/-- A refresh token identifies the user that it was issued to until it expires. -/
theorem verify_issueRefresh
    (h : (now.later e.refreshTtl).nanoseconds < Instant.calendarEnd.nanoseconds)
    (habsolute :
      (now.later e.refreshAbsoluteTtl).nanoseconds < Instant.calendarEnd.nanoseconds)
    (username address : String) {t : Instant}
    (ht : t.nanoseconds ≤ (now.later e.refreshTtl).nanoseconds)
    (hceiling : e.ceiling = .enforced →
      t.nanoseconds ≤ (now.later e.refreshAbsoluteTtl).nanoseconds) :
    e.verify t .refresh (e.writeRefresh (e.issuedRefreshClaims now username address)) =
      .ok { username, role := none } := by
  have hissue := issueRefresh_eq he hnow h habsolute username address
  have hopen : t.nanoseconds ≤ (now.later e.window).nanoseconds := by
    unfold window
    cases hpolicy : e.ceiling with
    | unenforced => exact ht
    | enforced =>
      -- before the earlier of two ends is before both
      have hexpiry : t.nanoseconds ≤ now.nanoseconds + e.refreshTtl.nanoseconds := ht
      have habsoluteExpiry : t.nanoseconds ≤ now.nanoseconds + e.refreshAbsoluteTtl.nanoseconds :=
        hceiling hpolicy
      show t.nanoseconds ≤
        now.nanoseconds + min e.refreshTtl.nanoseconds e.refreshAbsoluteTtl.nanoseconds
      omega
  rw [verify_issued he hnow hissue, if_pos (Instant.seconds_mono hopen)]

end BearerAuth.Engine
