import BearerAuth.Proofs.Bytes.Base64
import BearerAuth.Proofs.Token.Claims
import BearerAuth.Token.Signed

/-!
# What a signed token says

`Signed.verify` looks at the clock in its last step only. `Signed.contents` is
everything before that step: the claims of a token that is signed under a
secret, and the second up to which it is valid.

- `Authentic`: the last segment of a token is the code of the others, in the way
  its header names. Only such a token has contents (`authentic_of_contents`),
  and its claims are those that are recovered without a check
  (`recover_of_contents`).
- `claims?`: what a token says, whoever reads it. Contents are read from it
  (`of_contents`).
- `contents_write`: the contents of a token that was written under the secret.
-/

namespace BearerAuth.Signed

open Bytes.Base64 (urlSafe)

variable {α : Type}

/-! ## Segments -/

theorem decode?_segment (j : Json) : urlSafe.decode? (segment j) = some j.write :=
  Bytes.Base64.Alphabet.decode?_encode Bytes.Base64.Alphabet.urlSafe_proper j.write

/-- No segment has the separator of segments. -/
theorem dot_notMem_segment (j : Json) : '.' ∉ segment j :=
  Bytes.Base64.Alphabet.dot_notMem_encode j.write

theorem dot_notMem_code (hash : Digest.Hmac.Hash) (secret : String) (message : List Char) :
    '.' ∉ code hash secret message :=
  Bytes.Base64.Alphabet.dot_notMem_encode _

/-- The message of a token that is made here: its header and its claims. -/
def message (claims : Json) : List Char :=
  segment Header.issued ++ '.' :: segment claims

/-- The segments of a token are found where they were put together. -/
theorem parts?_writeList (secret : String) (claims : Json) :
    parts? (writeList secret claims) =
      some { header := segment Header.issued, claims := segment claims
             message := message claims
             signature := code .sha256 secret (message claims) } := by
  have houter := Text.cutLast?_append (message claims)
    (dot_notMem_code .sha256 secret (message claims))
  have hinner := Text.cutLast?_append (segment Header.issued) (dot_notMem_segment claims)
  show (Text.cutLast? '.'
    (message claims ++ '.' :: code .sha256 secret (message claims))).bind _ = _
  rw [houter]
  show (Text.cutLast? '.' (segment Header.issued ++ '.' :: segment claims)).bind _ = _
  rw [hinner]
  rfl

/-- A written token comes apart into its three segments. -/
theorem parts?_write (secret : String) (claims : Json) :
    parts? (write secret claims).toList =
      some { header := segment Header.issued, claims := segment claims
             message := message claims
             signature := code .sha256 secret (message claims) } := by
  rw [write, String.toList_ofList]
  exact parts?_writeList secret claims

/-- The header of the tokens that are made here names the code they are signed
with. -/
theorem read?_issued : Header.read? (segment Header.issued) = some (.hmac .sha256) := by
  have hwellFormed : Header.issued.WellFormed :=
    Json.wellFormed_ofMembers (by
      intro m hm
      simp only [List.mem_cons, List.not_mem_nil, or_false] at hm
      rcases hm with rfl | rfl <;> exact Json.wellFormed_ofText _)
  have halgorithm : Header.algorithm? [("typ", .ofText "JWT"), ("alg", .ofText "HS256")] =
      some (.hmac .sha256) := by
    have hchoice : Jwk.choice? (.ofText "HS256") = some "HS256" := Text.ofUtf8?_utf8 "HS256"
    simp [Header.algorithm?, Header.isWellFormed, Json.valuesOf, Jwk.mayHold, Jwk.isText, hchoice,
      Algorithm.ofName?]
  rw [Header.read?, decode?_segment, Option.bind_eq_bind, Option.bind_some,
    Json.read?_write hwellFormed, Option.bind_eq_bind, Option.bind_some, Header.issued,
    Json.ofMembers, Header.ofJson?, Json.namedMembers?_map]
  exact halgorithm

/-- How a token says that it is signed. -/
def algorithm? (token : String) : Option Algorithm :=
  (parts? token.toList).bind fun p => Header.read? p.header

theorem algorithm?_write (secret : String) (claims : Json) :
    algorithm? (write secret claims) = some (.hmac .sha256) := by
  rw [algorithm?, parts?_write]
  exact read?_issued

/-- The value that a segment holds. -/
def json? (segment : List Char) : Option Json :=
  (urlSafe.decode? segment).bind Json.read?

theorem json?_segment {j : Json} (hj : j.WellFormed) : json? (segment j) = some j := by
  rw [json?, decode?_segment, Option.bind_some, Json.read?_write hj]

/-- A payload is what a reader and the check of the expiry find in the value of a
segment. -/
theorem payload_of_json? {read : Json → Option α} {claims : List Char} {j : Json}
    (h : json? claims = some j) :
    payload read claims =
      match read j, j.registeredExpiry? with
      | some c, some expiry => .ok (c, expiry)
      | _, _ => .error .claimsInvalid := by
  obtain ⟨bytes, hbytes, hj⟩ := Option.bind_eq_some_iff.1 h
  rw [payload, hbytes]
  dsimp only
  exact hj ▸ rfl

/-- A payload is read if it is a document with the claims and with an expiry that can be
read, or none. -/
theorem payload_eq_ok_iff {read : Json → Option α} {claims : List Char} {c : α}
    {expiry : Option Int} :
    payload read claims = .ok (c, expiry) ↔
      ∃ j, json? claims = some j ∧ read j = some c ∧ j.registeredExpiry? = some expiry := by
  constructor
  · intro h
    cases hj : json? claims with
    | none =>
      -- without a value there is no payload either
      unfold payload at h
      split at h
      · cases h
      next bytes hbytes =>
      rw [json?, hbytes, Option.bind_some] at hj
      rw [hj] at h
      cases h
    | some j =>
      rw [payload_of_json? hj] at h
      split at h
      · next hc hexpiry =>
        cases h
        exact ⟨j, rfl, hc, hexpiry⟩
      · cases h
  · rintro ⟨j, hj, hc, hexpiry⟩
    rw [payload_of_json? hj, hc, hexpiry]

/-- The payload of a segment that was written for claims. -/
theorem payload_segment {read : Json → Option α} {j : Json} {c : α} {expiry : Option Int}
    (hj : j.WellFormed) (hc : read j = some c) (hexpiry : j.registeredExpiry? = some expiry) :
    payload read (segment j) = .ok (c, expiry) :=
  payload_eq_ok_iff.2 ⟨j, json?_segment hj, hc, hexpiry⟩

/-! ## Everything but the clock -/

/-- The contents of a text that is divided and names a code. -/
theorem contents_of_parts? {read : Json → Option α} {secret token : String} {p : Parts}
    {hash : Digest.Hmac.Hash} (hparts : parts? token.toList = some p)
    (hheader : Header.read? p.header = some (.hmac hash)) :
    contents read secret token =
      if p.signature ≠ code hash secret p.message then .error .invalidToken
      else
        match payload read p.claims with
        | .error e => .error e
        | .ok (_, none) => .error .invalidToken
        | .ok (c, some expiry) => .ok (c, expiry) := by
  rw [contents, hparts]
  dsimp only
  generalize Header.read? p.header = found at hheader ⊢
  subst hheader
  rfl

/-- The last segment of a token is the code of the others under the secret, in
the way that the header names. -/
def Authentic (secret : String) (token : String) : Prop :=
  ∃ p hash, parts? token.toList = some p ∧ Header.read? p.header = some (.hmac hash) ∧
    p.signature = code hash secret p.message

/-- What a token with contents goes through, step by step. -/
theorem contents_eq_ok_iff {read : Json → Option α} {secret token : String} {c : α} {expiry : Int} :
    contents read secret token = .ok (c, expiry) ↔
      ∃ p hash, parts? token.toList = some p ∧ Header.read? p.header = some (.hmac hash) ∧
        p.signature = code hash secret p.message ∧
        payload read p.claims = .ok (c, some expiry) := by
  constructor
  · intro h
    unfold contents at h
    split at h
    · cases h
    next p hp =>
    split at h
    · cases h
    · cases h
    next hash hhash =>
    split at h
    · cases h
    next hcode =>
    split at h
    · cases h
    · cases h
    next hpayload =>
    cases h
    exact ⟨p, hash, hp, hhash, Decidable.not_not.1 hcode, hpayload⟩
  · rintro ⟨p, hash, hp, hhash, hcode, hpayload⟩
    rw [contents_of_parts? hp hhash, if_neg (not_not_intro hcode), hpayload]

/-- Contents are given for authentic tokens only. -/
theorem authentic_of_contents {read : Json → Option α} {secret token : String} {r : α × Int}
    (h : contents read secret token = .ok r) : Authentic secret token := by
  obtain ⟨p, hash, hp, hhash, hcode, -⟩ := contents_eq_ok_iff.1 h
  exact ⟨p, hash, hp, hhash, hcode⟩

/-- Without a check the same claims are found. -/
theorem recover_of_contents {read : Json → Option α} {secret token : String} {c : α} {expiry : Int}
    (h : contents read secret token = .ok (c, expiry)) : recover read token = .ok c := by
  obtain ⟨p, hash, hp, hhash, -, hpayload⟩ := contents_eq_ok_iff.1 h
  simp only [recover, hp, hhash, hpayload]
  rfl

/-- A segment without claims is refused for its form. -/
theorem error_of_payload {read : Json → Option α} {claims : List Char} {e : TokenError}
    (h : payload read claims = .error e) : e = .invalidToken ∨ e = .claimsInvalid := by
  unfold payload at h
  split at h
  · cases h
    exact .inl rfl
  split at h
  · cases h
    exact .inr rfl
  split at h
  · cases h
  · cases h
    exact .inr rfl

/-- A token without contents is refused for its form, whatever the time. -/
theorem error_of_contents {read : Json → Option α} {secret token : String} {e : TokenError}
    (h : contents read secret token = .error e) :
    e = .invalidToken ∨ e = .claimsInvalid ∨ e = .unexpectedSigningMethod := by
  unfold contents at h
  split at h
  · cases h
    exact .inl rfl
  split at h
  · cases h
    exact .inl rfl
  · cases h
    exact .inr (.inr rfl)
  split at h
  · cases h
    exact .inl rfl
  split at h
  · next hpayload =>
    cases h
    exact (error_of_payload hpayload).imp_right .inl
  · cases h
    exact .inl rfl
  · cases h

/-- The contents of what was written under the secret. -/
theorem contents_write {read : Json → Option α} {secret : String} {j : Json} {c : α} {expiry : Int}
    (hj : j.WellFormed) (hc : read j = some c)
    (hexpiry : j.registeredExpiry? = some (some expiry)) :
    contents read secret (write secret j) = .ok (c, expiry) :=
  contents_eq_ok_iff.2
    ⟨_, _, parts?_write secret j, read?_issued, rfl, payload_segment hj hc hexpiry⟩

/-- Without a check the claims of what was written are found whatever their
expiry is. -/
theorem recover_write {read : Json → Option α} (secret : String) {j : Json} {c : α}
    {expiry : Option Int} (hj : j.WellFormed) (hc : read j = some c)
    (hexpiry : j.registeredExpiry? = some expiry) : recover read (write secret j) = .ok c := by
  simp only [recover, parts?_write, read?_issued, payload_segment hj hc hexpiry]
  rfl

theorem authentic_write (secret : String) (j : Json) : Authentic secret (write secret j) :=
  ⟨_, _, parts?_write secret j, read?_issued, rfl⟩

/-- What a token says, whoever reads it. -/
def claims? (token : String) : Option Json :=
  (parts? token.toList).bind fun p => json? p.claims

/-- The claims of a written token are the document that was written. -/
theorem claims?_write (secret : String) {j : Json} (hj : j.WellFormed) :
    claims? (write secret j) = some j := by
  rw [claims?, parts?_write, Option.bind_some, json?_segment hj]

/-- Contents are read from what the token says, and so is the second up to which it
is valid. -/
theorem of_contents {read : Json → Option α} {secret token : String} {c : α} {expiry : Int}
    (h : contents read secret token = .ok (c, expiry)) :
    ∃ j, claims? token = some j ∧ read j = some c ∧ j.registeredExpiry? = some (some expiry) := by
  obtain ⟨p, hash, hp, -, -, hpayload⟩ := contents_eq_ok_iff.1 h
  obtain ⟨j, hj, hc, hexpiry⟩ := payload_eq_ok_iff.1 hpayload
  refine ⟨j, ?_, hc, hexpiry⟩
  rw [claims?, hp, Option.bind_some, hj]

/-- Contents are what the segment of the claims was written for. The secret has no
part in it. -/
theorem read_of_contents_write {read : Json → Option α} {secret other : String} {j : Json}
    {r : α × Int} (hj : j.WellFormed) (h : contents read secret (write other j) = .ok r) :
    read j = some r.1 := by
  obtain ⟨k, hk, hc, -⟩ := of_contents h
  obtain rfl := Option.some.inj ((claims?_write other hj).symm.trans hk)
  exact hc

end BearerAuth.Signed
