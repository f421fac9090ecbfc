import BearerAuth.Proofs.Token.Issuance
import BearerAuth.Proofs.Token.Authenticity

/-!
# Access tokens and refresh tokens

The two kinds of token are told apart by what they say, and not by their secrets,
which may be the same. A refresh token names the second in which it was issued, as
an integer; in an access token every member but those of the engine is a text, and
the engine has none of that name. So no claims can be read as both.

- `RefreshClaims.ofJson?_eq_none_of_access`: claims of an access token are no
  claims of a refresh token.
- `AccessClaims.refreshClaims_ofJson?_toJson`: nor is what is written for them,
  whatever the claims of the user are called.
- `Engine.kinds_disjoint`: no token is accepted as both kinds, and no token that is
  issued or renewed as one kind is taken for the other, expired or not.
-/

namespace BearerAuth

open Time

/-! ## Claims of one kind -/

/-- A value is not a text and an integer. -/
theorem Json.int64?_eq_none_of_text? {j : Json} {s : String} (h : j.text? = some s) :
    j.int64? = none := by
  cases j with
  | string bytes => rfl
  | _ => cases h

namespace AccessClaims

/-- Every member that is not the engine's is a text. -/
theorem text_of_fieldPairs? {named : List (String × Json)} {pairs : List (String × String)}
    (h : fieldPairs? named = some pairs) :
    ∀ m ∈ named, m.1 ∉ known → ∃ s, m.2.text? = some s := by
  induction named generalizing pairs with
  | nil => exact fun _ hm => absurd hm List.not_mem_nil
  | cons m rest ih =>
    rw [fieldPairs?] at h
    intro x hx hnew
    split at h
    · next hknown =>
      rcases List.mem_cons.1 hx with rfl | hx
      · exact absurd hknown hnew
      · exact ih h x hx hnew
    · obtain ⟨text, htext, h⟩ := Option.bind_eq_some_iff.1 h
      obtain ⟨more, hmore, -⟩ := Option.bind_eq_some_iff.1 h
      rcases List.mem_cons.1 hx with rfl | hx
      · exact ⟨text, htext⟩
      · exact ih hmore x hx hnew

end AccessClaims

namespace RefreshClaims

/-- Claims without the second of their issue, or with a text for it, are none of a
refresh token. -/
theorem ofNamed?_eq_none {named : List (String × Json)}
    (h : ∀ j ∈ Json.valuesOf "iat" named, ∃ s, j.text? = some s) : ofNamed? named = none := by
  have hissued : Json.required? Json.int64? (Json.valuesOf "iat" named) = none := by
    cases hvalues : Json.valuesOf "iat" named with
    | nil => rfl
    | cons j rest =>
      rw [hvalues] at h
      obtain ⟨s, hs⟩ := h j List.mem_cons_self
      exact Json.int64?_eq_none_of_text? hs
  unfold ofNamed?
  split
  · rfl
  · -- the members before it do not matter
    rw [hissued]
    cases Json.optional? Json.text? (Json.valuesOf "username" named) with
    | none => rfl
    | some username =>
      cases Json.orElse? Json.text? "" (Json.valuesOf "addr" named) with
      | none => rfl
      | some address => rfl

/-- Claims of an access token are no claims of a refresh token. -/
theorem ofJson?_eq_none_of_access {j : Json} {c : AccessClaims}
    (h : AccessClaims.ofJson? j = some c) : ofJson? j = none := by
  -- an array holds no claims of an access token
  obtain ⟨members, named, rfl, hnamed, h⟩ := AccessClaims.of_ofJson? h
  obtain ⟨-, pairs, hpairs, -⟩ := AccessClaims.of_ofNamed? h
  rw [ofJson?_object, hnamed, Option.bind_some]
  refine ofNamed?_eq_none fun j hj => ?_
  obtain ⟨m, hm, rfl⟩ := List.mem_map.1 hj
  obtain ⟨hm, hname⟩ := List.mem_filter.1 hm
  have hissued : m.1 = "iat" := by simpa using hname
  exact AccessClaims.text_of_fieldPairs? hpairs m hm (by rw [hissued]; decide)

end RefreshClaims

/-- What is written for an access token holds no claims of a refresh token, whatever
the claims of the user are called. -/
theorem AccessClaims.refreshClaims_ofJson?_toJson (c : AccessClaims) :
    RefreshClaims.ofJson? c.toJson = none := by
  rw [toJson, Json.ofMembers, RefreshClaims.ofJson?_object, Json.namedMembers?_map,
    Option.bind_some]
  refine RefreshClaims.ofNamed?_eq_none fun j hj => ?_
  rw [valuesOf_field c (by decide), Option.mem_toList] at hj
  obtain ⟨s, -, rfl⟩ := Option.map_eq_some_iff.1 hj
  exact ⟨s, Json.text?_ofText s⟩

/-! ## Tokens of one kind -/

namespace Signed

variable {α : Type} {read : Json → Option α}

/-- A token that was written for other claims than a reader wants is refused for its
code or for its claims. -/
theorem contents_write_of_none (secret other : String) {j : Json} (hj : j.WellFormed)
    (hread : read j = none) :
    contents read secret (write other j) = .error .invalidToken ∨
      contents read secret (write other j) = .error .claimsInvalid := by
  have hpayload : payload read (segment j) = .error .claimsInvalid := by
    rw [payload_of_json? (json?_segment hj), hread]
  rw [contents_of_parts? (parts?_write other j) read?_issued]
  by_cases hcode : code .sha256 other (message j) ≠ code .sha256 secret (message j)
  · exact .inl (if_pos hcode)
  · rw [if_neg hcode, hpayload]
    exact .inr rfl

end Signed

namespace Engine

variable {e : Engine} {token : String}

/-- No token is signed as both kinds, even under one secret. -/
theorem signedRefresh_ne_of_signedAccess {c : AccessClaims} (h : e.signedAccess token = .ok c)
    (d : RefreshClaims) : e.signedRefresh token ≠ .ok d := by
  intro hsigned
  obtain ⟨⟨c, x⟩, haccess, rfl⟩ := map_eq_ok_iff.1 h
  obtain ⟨⟨d, y⟩, hrefresh, -⟩ := map_eq_ok_iff.1 hsigned
  -- both readers are given what the token says
  obtain ⟨j, hj, hc, -⟩ := Signed.of_contents haccess
  obtain ⟨k, hk, hd, -⟩ := Signed.of_contents hrefresh
  obtain rfl := Option.some.inj (hj.symm.trans hk)
  rw [RefreshClaims.ofJson?_eq_none_of_access hc] at hd
  cases hd

/-- The answers to a token of the other kind. -/
def IsMistaken (answer : Except TokenError Identity) : Prop :=
  answer = .error .invalidToken ∨ answer = .error .claimsInvalid

/-- A token that was signed for a user is not taken for a refresh token. -/
theorem verify_refresh_writeAccess (e : Engine) (c : AccessClaims) (now : Instant) :
    IsMistaken (e.verify now .refresh (e.writeAccess c)) := by
  have hcontents := Signed.contents_write_of_none e.refreshSecret e.accessSecret
    c.wellFormed_toJson c.refreshClaims_ofJson?_toJson
  rcases hcontents with h | h
  · exact .inl (verify_of_assess_error (assess_refresh_eq_error_iff.2 h) now)
  · exact .inr (verify_of_assess_error (assess_refresh_eq_error_iff.2 h) now)

/-- A refresh token is not taken for one that was signed for a user. -/
theorem verify_access_writeRefresh (e : Engine) (c : RefreshClaims) (now : Instant) :
    IsMistaken (e.verify now .access (e.writeRefresh c)) := by
  have hcontents := Signed.contents_write_of_none e.accessSecret e.refreshSecret
    c.wellFormed_toJson c.accessClaims_ofJson?_toJson
  rcases hcontents with h | h
  · exact .inl (verify_of_assess_error (assess_access_eq_error_iff.2 h) now)
  · exact .inr (verify_of_assess_error (assess_access_eq_error_iff.2 h) now)

/-- The two kinds of token never stand for each other, even under one secret. No
token is accepted as both, at whatever times; no document holds the claims of both;
and every token that is issued or renewed as one kind is refused as the other for
its code or its claims, and never because it has expired. The schema has no part in
it. -/
theorem kinds_disjoint (e : Engine) (t₁ t₂ : Instant) :
    (∀ token who whose, ¬(e.verify t₁ .access token = .ok who ∧
      e.verify t₂ .refresh token = .ok whose)) ∧
    (∀ document c d, ¬((Json.read? document).bind AccessClaims.ofJson? = some c ∧
      (Json.read? document).bind RefreshClaims.ofJson? = some d)) ∧
    (∀ now login token, e.issueAccess now login = .ok token →
      IsMistaken (e.verify t₂ .refresh token)) ∧
    (∀ now access refresh renewal, e.renew now access refresh = .ok renewal →
      IsMistaken (e.verify t₂ .refresh renewal.accessToken)) ∧
    (∀ now username address token, e.issueRefresh now username address = .ok token →
      IsMistaken (e.verify t₁ .access token)) := by
  refine ⟨?_, ?_, ?_, ?_, ?_⟩
  · rintro token who whose ⟨haccess, hrefresh⟩
    obtain ⟨v, hv, -, -⟩ := verify_eq_ok_iff.1 haccess
    obtain ⟨w, hw, -, -⟩ := verify_eq_ok_iff.1 hrefresh
    obtain ⟨c, hc, -⟩ := assess_access_eq_ok_iff.1 hv
    obtain ⟨d, hd, -⟩ := assess_refresh_eq_ok_iff.1 hw
    exact signedRefresh_ne_of_signedAccess hc d hd
  · rintro document c d ⟨haccess, hrefresh⟩
    obtain ⟨j, hj, hc⟩ := Option.bind_eq_some_iff.1 haccess
    rw [hj, Option.bind_some, RefreshClaims.ofJson?_eq_none_of_access hc] at hrefresh
    cases hrefresh
  · intro now login token hissue
    unfold issueAccess at hissue
    split at hissue
    · cases hissue
    obtain ⟨c, rfl, -⟩ := of_accessFor hissue
    exact verify_refresh_writeAccess e c t₂
  · intro now access refresh renewal hrenew
    obtain ⟨-, c, -, -, -, -, hstamp, -⟩ := of_renew hrenew
    obtain ⟨d, hd, -⟩ := of_restamp hstamp
    rw [hd]
    exact verify_refresh_writeAccess e d t₂
  · intro now username address token hissue
    obtain ⟨c, rfl⟩ := of_issueRefresh hissue
    exact verify_access_writeRefresh e c t₁

/-- An engine for the members with one secret for both kinds of token. -/
def sharedEngine : Engine :=
  { memberEngine with refreshSecret := memberEngine.accessSecret }

/-- Under one secret a member's refresh token is still no access token, not even when
it has expired. -/
theorem kinds_disjoint_shared :
    ∃ token, sharedEngine.issueRefresh (.ofSeconds 60) "ada" "10.0.0.1" = .ok token ∧
      sharedEngine.verify (.ofSeconds 60) .refresh token = .ok { username := "ada", role := none } ∧
      IsMistaken (sharedEngine.verify (.ofSeconds 259261) .access token) := by
  have hchecked : sharedEngine.Checked := ⟨rfl, rfl, rfl⟩
  have hnow : 0 ≤ (Instant.ofSeconds 60).nanoseconds := by decide
  have hissue := issueRefresh_eq hchecked hnow (by decide) (by decide) "ada" "10.0.0.1"
  have hverify := verify_issueRefresh hchecked hnow (by decide) (by decide) "ada" "10.0.0.1"
    (t := .ofSeconds 60) (by decide) (by decide)
  obtain ⟨-, -, -, -, hrefused⟩ := kinds_disjoint sharedEngine (.ofSeconds 259261) (.ofSeconds 60)
  exact ⟨_, hissue, hverify, hrefused _ _ _ _ hissue⟩

end Engine

end BearerAuth
