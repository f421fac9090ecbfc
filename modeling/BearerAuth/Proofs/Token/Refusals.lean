import BearerAuth.Proofs.Token.Deadline
import BearerAuth.Proofs.Token.Issuance

/-!
# Why there is no token

A token that is presented is refused for what is wrong with it, and never for anything
else. That a token is not made has to do with the clock alone: as long as the calendar
has all expiries, tokens are made for everybody who is entitled to them.

- `TokenError.AboutToken`: the failures that are about a token.
- `Engine.Timely`: the instants at which an engine can date all its tokens.
- `Engine.aboutToken_of_verify`, `Engine.aboutToken_of_renew`: why a token is not
  accepted and not renewed.
- `Engine.Timely.exists_accessFor`, `Engine.Timely.exists_issueRefresh`: new tokens.
-/

namespace BearerAuth

open Time

/-- The failure is about a token that was presented. -/
def TokenError.AboutToken : TokenError → Prop
  | .store _ => False
  | .timeOutOfRange => False
  | _ => True

namespace Engine

/-- The calendar has the expiries of all tokens that are made now, and sixty-four bits have
the time of a renewal. -/
structure Timely (e : Engine) (now : Instant) : Prop extends e.Stampable now where
  refresh : (now.later e.refreshTtl).representable = true
  absolute : (now.later e.refreshAbsoluteTtl).representable = true

variable {e : Engine} {now : Instant} {why : TokenError}

/-! ## Tokens that are made -/

namespace Timely

variable (h : e.Timely now)
include h

/-- Whoever has a record is issued an access token. -/
theorem exists_accessFor (record : Fields) : ∃ token, e.accessFor now record = .ok token := by
  rw [accessFor, expirySecond_of_representable h.expiry]
  exact ⟨_, rfl⟩

/-- A refresh token is issued to everybody. -/
theorem exists_issueRefresh (username address : String) :
    ∃ token, e.issueRefresh now username address = .ok token := by
  rw [issueRefresh, expirySecond_of_representable h.refresh,
    expirySecond_of_representable h.absolute]
  exact ⟨_, rfl⟩

end Timely

/-! ## Tokens that are presented -/

/-- Claims that are nobody's are wrong in the token that has them. -/
theorem aboutToken_of_identity {s : Schema} {c : AccessClaims} (h : c.identity s = .error why) :
    why.AboutToken := by
  rcases c.identity_cases s with ⟨who, hwho⟩ | hwhy | hwhy
  · rw [hwho] at h
    cases h
  · cases h.symm.trans hwhy
    trivial
  · cases h.symm.trans hwhy
    trivial

theorem aboutToken_of_form
    (h : why = .invalidToken ∨ why = .claimsInvalid ∨ why = .unexpectedSigningMethod) :
    why.AboutToken := by
  rcases h with rfl | rfl | rfl <;> trivial

/-- A token is not accepted for what is wrong with it. -/
theorem aboutToken_of_verify {kind : TokenKind} {token : String}
    (h : e.verify now kind token = .error why) : why.AboutToken := by
  cases hassess : e.assess kind token with
  | error other =>
    cases h.symm.trans (verify_of_assess_error hassess now)
    exact aboutToken_of_form (error_of_assess hassess)
  | ok v =>
    rw [verify_of_verdict hassess, Verdict.answerAt] at h
    by_cases hdue : now.seconds ≤ v.deadline
    · rw [if_pos hdue] at h
      rcases timeless_of_settles (settles_of_assess hassess).2 with
        ⟨who, hv⟩ | hv | hv | ⟨hv, -⟩ <;> cases h.symm.trans hv <;> trivial
    · rw [if_neg hdue] at h
      cases h
      trivial

/-- A token is not renewed for what is wrong with it, or with the refresh token. -/
theorem aboutToken_of_renew (htimely : e.Timely now) {access refresh : String}
    (h : e.renew now access refresh = .error why) : why.AboutToken := by
  cases hverify : e.verify now .refresh refresh with
  | error other =>
    rw [renew_of_refresh_error hverify] at h
    by_cases hexpired : other = .tokenExpired
    · rw [if_pos hexpired] at h
      cases h
      trivial
    · rw [if_neg hexpired] at h
      cases h
      exact aboutToken_of_verify hverify
  | ok who =>
    rw [renew_eq hverify] at h
    rcases bind_eq_error_iff.1 h with hsigned | ⟨c, -, h⟩
    · exact aboutToken_of_form (error_of_signedAccess hsigned)
    rcases bind_eq_error_iff.1 h with hidentity | ⟨whose, -, h⟩
    · exact aboutToken_of_identity hidentity
    -- nothing else is in the way, as there is time enough
    rcases bind_eq_error_iff.1 h with hstamp | ⟨token, -, h⟩
    · rw [restamp_of_stampable htimely.toStampable] at hstamp
      cases hstamp
    · cases h

end Engine

end BearerAuth
