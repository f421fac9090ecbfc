import BearerAuth.Proofs.Bytes.Base64
import BearerAuth.Proofs.Token.Deadline
import BearerAuth.Proofs.Token.Renewal

/-!
# Authenticity

Nothing is said about a token that is not signed but that it is not a token, or
not one of a kind that is in use. A token that is signed cannot be changed at its
end: its code is compared as a text, so that no other spelling of the same bytes
is the same code, and every further dot moves the others out of place.

- `Signed.parts?_eq_some_iff`: a text is divided where its last two dots stand.
- `Signed.authentic_iff`: a signed token is a header, the claims and the code of
  both, with two dots and no other.
- `Signed.contents_of_replaced`, `Signed.contents_of_extended`: with another code,
  or with anything after its code, a signed token is none.
- `Engine.AboutSigned`: the answers that only signed tokens get.
- `Engine.verify_authentic`: all that an answer says about the form of a token.
-/

namespace BearerAuth

open Time

namespace Signed

open Bytes.Base64 (urlSafe)

variable {α : Type} {read : Json → Option α} {secret token : String}

/-! ## The place of the dots -/

/-- A text is divided where its last two dots stand. -/
theorem parts?_eq_some_iff {cs : List Char} {p : Parts} :
    parts? cs = some p ↔
      cs = p.message ++ '.' :: p.signature ∧ p.message = p.header ++ '.' :: p.claims ∧
        '.' ∉ p.signature ∧ '.' ∉ p.claims := by
  constructor
  · intro h
    obtain ⟨⟨message, signature⟩, houter, h⟩ := Option.bind_eq_some_iff.1 h
    obtain ⟨⟨header, claims⟩, hinner, h⟩ := Option.bind_eq_some_iff.1 h
    obtain rfl := Option.some.inj h
    obtain ⟨hcs, hsignature⟩ := Text.cutLast?_eq_some_iff.1 houter
    obtain ⟨hmessage, hclaims⟩ := Text.cutLast?_eq_some_iff.1 hinner
    exact ⟨hcs, hmessage, hsignature, hclaims⟩
  · rintro ⟨hcs, hmessage, hsignature, hclaims⟩
    have houter := Text.cutLast?_eq_some_iff.2 ⟨hcs, hsignature⟩
    have hinner := Text.cutLast?_eq_some_iff.2 ⟨hmessage, hclaims⟩
    rw [parts?, houter]
    show (Text.cutLast? '.' p.message).bind _ = _
    rw [hinner]
    rfl

/-- A header that is read has no dot, as it is written in Base64. -/
theorem dot_notMem_of_read? {segment : List Char} {algorithm : Algorithm}
    (h : Header.read? segment = some algorithm) : '.' ∉ segment := by
  obtain ⟨bytes, hbytes, -⟩ := Option.bind_eq_some_iff.1 h
  exact Bytes.Base64.Alphabet.dot_notMem_of_decode? hbytes

/-- Besides the two dots that divide a text only its header may have more. -/
theorem count_dot_of_parts? {cs : List Char} {p : Parts} (h : parts? cs = some p) :
    cs.count '.' = p.header.count '.' + 2 := by
  obtain ⟨hcs, hmessage, hsignature, hclaims⟩ := parts?_eq_some_iff.1 h
  rw [hcs, hmessage, List.count_append, List.count_append, List.count_cons_self,
    List.count_cons_self, List.count_eq_zero_of_not_mem hsignature,
    List.count_eq_zero_of_not_mem hclaims]

/-- A text that has not exactly two dots is no token. -/
theorem contents_of_count_dot (h : token.toList.count '.' ≠ 2) :
    contents read secret token = .error .invalidToken := by
  unfold contents
  cases hparts : parts? token.toList with
  | none => rfl
  | some p =>
    have hcount := count_dot_of_parts? hparts
    -- one dot more than two stands in the header, which then cannot be read
    have hheader : Header.read? p.header = none := by
      cases hread : Header.read? p.header with
      | none => rfl
      | some algorithm =>
        rw [List.count_eq_zero_of_not_mem (dot_notMem_of_read? hread)] at hcount
        exact absurd hcount h
    dsimp only
    rw [hheader]

/-! ## Signed tokens -/

/-- A signed token is a header that names a code, the claims and that code of both,
with two dots between them and no other. -/
theorem authentic_iff :
    Authentic secret token ↔
      ∃ header claims hash, token.toList =
          (header ++ '.' :: claims) ++ '.' :: code hash secret (header ++ '.' :: claims) ∧
        Header.read? header = some (.hmac hash) ∧ '.' ∉ header ∧ '.' ∉ claims := by
  constructor
  · rintro ⟨p, hash, hparts, hheader, hcode⟩
    obtain ⟨htoken, hmessage, -, hclaims⟩ := parts?_eq_some_iff.1 hparts
    rw [hcode, hmessage] at htoken
    exact ⟨p.header, p.claims, hash, htoken, hheader, dot_notMem_of_read? hheader, hclaims⟩
  · rintro ⟨header, claims, hash, htoken, hheader, -, hclaims⟩
    have hparts : parts? token.toList = some
        { header, claims, message := header ++ '.' :: claims
          signature := code hash secret (header ++ '.' :: claims) } :=
      parts?_eq_some_iff.2 ⟨htoken, rfl, dot_notMem_code hash secret _, hclaims⟩
    exact ⟨_, hash, hparts, hheader, rfl⟩

/-- A token that is not signed is refused before its claims are looked at, however
these would be read. -/
theorem contents_of_not_authentic (h : ¬Authentic secret token) :
    ∃ why, (why = .invalidToken ∨ why = .unexpectedSigningMethod) ∧
      ∀ (α : Type) (read : Json → Option α), contents read secret token = .error why := by
  unfold contents
  cases hparts : parts? token.toList with
  | none => exact ⟨_, .inl rfl, fun _ _ => rfl⟩
  | some p =>
    dsimp only
    cases hheader : Header.read? p.header with
    | none => exact ⟨_, .inl rfl, fun _ _ => rfl⟩
    | some algorithm =>
      cases algorithm with
      | keyPair name => exact ⟨_, .inr rfl, fun _ _ => rfl⟩
      | hmac hash =>
        dsimp only
        have hcode : p.signature ≠ code hash secret p.message := fun hcode =>
          h ⟨p, hash, hparts, hheader, hcode⟩
        exact ⟨_, .inl rfl, fun _ _ => if_pos hcode⟩

/-- With another code a signed token is none, even if the code stands for the same
bytes. -/
theorem contents_of_replaced (h : Authentic secret token) {message signature other : List Char}
    (htoken : token.toList = message ++ '.' :: signature) (hsignature : '.' ∉ signature)
    (hother : '.' ∉ other) (hne : other ≠ signature) :
    contents read secret (String.ofList (message ++ '.' :: other)) = .error .invalidToken := by
  obtain ⟨p, hash, hparts, hheader, hcode⟩ := h
  obtain ⟨hp, hmessage, hlast, hclaims⟩ := parts?_eq_some_iff.1 hparts
  -- the two divisions of the token are the same
  have hcut := Text.cutLast?_append message hsignature
  rw [← htoken, hp, Text.cutLast?_append p.message hlast] at hcut
  obtain ⟨rfl, rfl⟩ := Prod.mk.inj (Option.some.inj hcut)
  have hdivided : parts? (String.ofList (p.message ++ '.' :: other)).toList =
      some { p with signature := other } := by
    rw [String.toList_ofList]
    exact parts?_eq_some_iff.2 ⟨rfl, hmessage, hother, hclaims⟩
  have hdiffers : other ≠ code hash secret p.message := hcode ▸ hne
  rw [contents_of_parts? hdivided hheader]
  exact if_pos hdiffers

/-- With anything after its code a signed token is none. -/
theorem contents_of_extended (h : Authentic secret token) {suffix : String} (hne : suffix ≠ "") :
    contents read secret (token ++ suffix) = .error .invalidToken := by
  obtain ⟨header, claims, hash, htoken, hheader, hdot, hclaims⟩ := authentic_iff.1 h
  have hcode := dot_notMem_code hash secret (header ++ '.' :: claims)
  by_cases hsuffix : '.' ∈ suffix.toList
  · -- a dot more than the two of the token
    apply contents_of_count_dot
    have hpositive := List.count_pos_iff.2 hsuffix
    rw [String.toList_append, htoken]
    simp only [List.count_append, List.count_cons_self, List.count_eq_zero_of_not_mem hdot,
      List.count_eq_zero_of_not_mem hclaims, List.count_eq_zero_of_not_mem hcode]
    omega
  · -- the last segment is longer than the code
    have hlonger : code hash secret (header ++ '.' :: claims) ++ suffix.toList ≠
        code hash secret (header ++ '.' :: claims) := by
      intro hsame
      have hnil := List.append_right_eq_self.1 hsame
      exact hne (String.toList_inj.1 (hnil.trans String.toList_empty.symm))
    have hjoined : token ++ suffix = String.ofList ((header ++ '.' :: claims) ++ '.' ::
        (code hash secret (header ++ '.' :: claims) ++ suffix.toList)) := by
      rw [← String.toList_inj, String.toList_append, String.toList_ofList, htoken]
      simp
    rw [hjoined]
    refine contents_of_replaced h htoken hcode (fun hmem => ?_) hlonger
    exact (List.mem_append.1 hmem).elim hcode hsuffix

end Signed

namespace Engine

variable {e : Engine} {kind : TokenKind} {token : String}

/-- A text without contents under the secret of a kind has no verdict. -/
theorem assess_of_contents_error {why : TokenError}
    (h : ∀ (α : Type) (read : Json → Option α),
      Signed.contents read (e.secret kind) token = .error why) :
    e.assess kind token = .error why := by
  cases kind with
  | access => exact assess_access_eq_error_iff.2 (h _ _)
  | refresh => exact assess_refresh_eq_error_iff.2 (h _ _)

/-- A token that is not signed is refused at all times, and for no fault of its
claims. -/
theorem verify_of_not_authentic (h : ¬Signed.Authentic (e.secret kind) token) (now : Instant) :
    e.verify now kind token = .error .invalidToken ∨
      e.verify now kind token = .error .unexpectedSigningMethod := by
  obtain ⟨why, hwhy, hcontents⟩ := Signed.contents_of_not_authentic h
  have hverify := verify_of_assess_error (assess_of_contents_error hcontents) now
  rcases hwhy with rfl | rfl
  · exact .inl hverify
  · exact .inr hverify

/-- The answers that only signed tokens get. -/
def AboutSigned : Except TokenError Identity → Prop
  | .ok _ => True
  | .error why =>
    why = .tokenExpired ∨ why = .claimsInvalid ∨ why = .missingUsername ∨ why = .missingRole

/-- There are two answers besides. -/
theorem aboutSigned_or (e : Engine) (now : Instant) (kind : TokenKind) (token : String) :
    AboutSigned (e.verify now kind token) ∨ e.verify now kind token = .error .invalidToken ∨
      e.verify now kind token = .error .unexpectedSigningMethod := by
  cases h : e.assess kind token with
  | error why =>
    rw [verify_of_assess_error h]
    rcases error_of_assess h with rfl | rfl | rfl
    · exact .inr (.inl rfl)
    · exact .inl (.inr (.inl rfl))
    · exact .inr (.inr rfl)
  | ok v =>
    rw [verify_of_verdict h, Verdict.answerAt]
    split
    · rcases timeless_of_settles (settles_of_assess h).2 with ⟨who, hv⟩ | hv | hv | ⟨hv, -⟩
      · exact .inl (hv ▸ trivial)
      · exact .inl (hv ▸ .inr (.inr (.inl rfl)))
      · exact .inl (hv ▸ .inr (.inr (.inr rfl)))
      · exact .inr (.inl hv)
    · exact .inl (.inl rfl)

theorem authentic_of_aboutSigned {now : Instant} (h : AboutSigned (e.verify now kind token)) :
    Signed.Authentic (e.secret kind) token := by
  by_cases hauthentic : Signed.Authentic (e.secret kind) token
  · exact hauthentic
  · rcases verify_of_not_authentic hauthentic now with hverify | hverify
    · rw [hverify] at h
      rcases h with h | h | h | h <;> cases h
    · rw [hverify] at h
      rcases h with h | h | h | h <;> cases h

/-- All that an answer says about the form of a token. A token that is accepted,
expired, or refused for what its claims say, is a header, the claims and the code
of both under the secret of its kind; every other text is no token or none of a
kind in use. With another code, or with anything after it, such a token is
none. -/
theorem verify_authentic (e : Engine) (now : Instant) (kind : TokenKind) (token : String) :
    (AboutSigned (e.verify now kind token) →
      (∃ header claims hash, token.toList = (header ++ '.' :: claims) ++ '.' ::
          Signed.code hash (e.secret kind) (header ++ '.' :: claims) ∧
        Header.read? header = some (.hmac hash) ∧ '.' ∉ header ∧ '.' ∉ claims) ∧
      (∀ message signature other, token.toList = message ++ '.' :: signature →
        '.' ∉ signature → '.' ∉ other → other ≠ signature →
        ∀ t, e.verify t kind (String.ofList (message ++ '.' :: other)) = .error .invalidToken) ∧
      ∀ suffix, suffix ≠ "" → ∀ t, e.verify t kind (token ++ suffix) = .error .invalidToken) ∧
    (¬AboutSigned (e.verify now kind token) →
      e.verify now kind token = .error .invalidToken ∨
        e.verify now kind token = .error .unexpectedSigningMethod) := by
  constructor
  · intro h
    have hauthentic := authentic_of_aboutSigned h
    refine ⟨Signed.authentic_iff.1 hauthentic, ?_, ?_⟩
    · intro message signature other htoken hsignature hother hne
      exact verify_of_assess_error (assess_of_contents_error fun _ _ =>
        Signed.contents_of_replaced hauthentic htoken hsignature hother hne)
    · intro suffix hne
      exact verify_of_assess_error (assess_of_contents_error fun _ _ =>
        Signed.contents_of_extended hauthentic hne)
  · intro h
    exact (aboutSigned_or e now kind token).resolve_left h

/-- The refresh token of a member is accepted, and with a claim more after its code
it is none. -/
theorem verify_authentic_hour :
    memberEngine.verify (.ofSeconds 60) .refresh (memberEngine.writeRefresh (hourClaims "ada")) =
        .ok { username := "ada", role := none } ∧
      memberEngine.verify (.ofSeconds 60) .refresh
          (memberEngine.writeRefresh (hourClaims "ada") ++ ".e30") = .error .invalidToken := by
  have hverify := verify_hourClaims "ada"
  have habout : AboutSigned (memberEngine.verify (.ofSeconds 60) .refresh
      (memberEngine.writeRefresh (hourClaims "ada"))) := by
    rw [hverify]
    trivial
  obtain ⟨hsigned, -⟩ := verify_authentic memberEngine (.ofSeconds 60) .refresh
    (memberEngine.writeRefresh (hourClaims "ada"))
  obtain ⟨-, -, hextended⟩ := hsigned habout
  exact ⟨hverify, hextended ".e30" (by decide) _⟩

end Engine

end BearerAuth
