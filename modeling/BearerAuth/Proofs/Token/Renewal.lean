import BearerAuth.Proofs.Token.Engine

/-!
# What a renewal does

A renewal looks at the refresh token first and at the access token second. From
the access token it takes the claims, from the clock two stamps, and from the
refresh token nothing at all.

- `Engine.Stampable`: the instants at which an engine can date a renewed token.
- `Engine.Renews`: what a renewed token says, compared with the claims it was
  made from.
- `Engine.renew_eq`, `Engine.of_renew`: what a renewal goes through once the
  refresh token is accepted.
- `Engine.renew_outcome`: the answer to every pair of texts. The expiry of the
  access token has no part in it, and nothing is renewed that is not signed.
- `Engine.renew_principal`: the renewed token is for the user of the access
  token. That the refresh token is for the same user is not claimed, and not so
  (`Engine.renew_across_members`).
-/

namespace BearerAuth.Engine

open Time

/-! ## Stamps -/

/-- The calendar has the expiry of a token that is made now, and sixty-four bits
have the time of a renewal. -/
structure Stampable (e : Engine) (now : Instant) : Prop where
  expiry : (now.later e.tokenLifetime).representable = true
  stamp : Text.Range.int64.holds now.nanoseconds = true

/-- The claims with the stamps of a renewal. -/
def restamped (e : Engine) (now : Instant) (c : AccessClaims) : AccessClaims :=
  { c with
    issuer
    expiry := .ofInt (now.later e.tokenLifetime).seconds
    refreshedAt := some (.ofInt now.nanoseconds) }

/-- What a renewed token says, compared with the claims that it was made from. -/
structure Renews (e : Engine) (now : Instant) (c : AccessClaims) (token : String) : Prop where
  algorithm : Signed.algorithm? token = some (.hmac .sha256)
  claims : ∃ d, e.Says token d ∧ d.issuer = "tokenward" ∧
    d.expiry.toInt = (now.later e.tokenLifetime).seconds ∧
    d.refreshedAt.map Int64.toInt = some now.nanoseconds ∧ d.fields = c.fields

section

variable {e : Engine} {now : Instant}

/-- Claims are stamped anew as long as their expiry and the stamp have room. -/
theorem restamp_of_stampable (h : e.Stampable now) (c : AccessClaims) :
    e.restamp now c = .ok (e.writeAccess (e.restamped now c)) := by
  rw [restamp, expirySecond_of_representable h.expiry]
  exact if_pos h.stamp

/-- Without room for the expiry or the stamp there is no token. -/
theorem restamp_of_not_stampable (h : ¬e.Stampable now) (c : AccessClaims) :
    e.restamp now c = .error .timeOutOfRange := by
  rw [restamp]
  by_cases hrep : (now.later e.tokenLifetime).representable = true
  · -- the calendar has the expiry, so it is the time of the renewal that does not fit
    rw [expirySecond_of_representable hrep]
    exact if_neg fun hholds => h ⟨hrep, hholds⟩
  · rw [expirySecond_of_not_representable hrep]
    rfl

/-- A renewal signs the claims with its stamps, if there are such. -/
theorem eq_of_restamp {c : AccessClaims} {token : String} (h : e.restamp now c = .ok token) :
    token = e.writeAccess (e.restamped now c) ∧ e.Stampable now := by
  by_cases hstamp : e.Stampable now
  · rw [restamp_of_stampable hstamp] at h
    exact ⟨(Except.ok.inj h).symm, hstamp⟩
  · rw [restamp_of_not_stampable hstamp] at h
    cases h

/-- A renewal signs the claims of the user as they are. -/
theorem of_restamp {c : AccessClaims} {token : String} (h : e.restamp now c = .ok token) :
    ∃ d : AccessClaims, token = e.writeAccess d ∧ d.fields = c.fields :=
  ⟨e.restamped now c, (eq_of_restamp h).1, rfl⟩

/-- The expiry is the second in which the lifetime ends: sixty-four bits have it, as the
calendar does. -/
theorem Stampable.toInt_expiry (h : e.Stampable now) (c : AccessClaims) :
    (e.restamped now c).expiry.toInt = (now.later e.tokenLifetime).seconds :=
  Instant.toInt_ofInt_seconds h.expiry

/-- The stamp is the time of the renewal, in nanoseconds. -/
theorem Stampable.toInt_refreshedAt (h : e.Stampable now) (c : AccessClaims) :
    (e.restamped now c).refreshedAt.map Int64.toInt = some now.nanoseconds := by
  obtain ⟨hlow, hhigh⟩ := Text.Range.holds_iff.1 h.stamp
  exact congrArg some (Int64.toInt_ofInt_of_le hlow (Int.lt_add_one_of_le hhigh))

variable (he : e.Checked) (hnow : 0 ≤ now.nanoseconds)
include he hnow

/-- A renewed token is read as what was signed. -/
theorem signedAccess_restamped (h : e.Stampable now) {c : AccessClaims} (hc : c.Proper) :
    e.signedAccess (e.writeAccess (e.restamped now c)) = .ok (e.restamped now c) :=
  signedAccess_of_expiry he hnow (Instant.lt_calendarEnd h.expiry) hc rfl

/-- A token with claims that are stamped anew renews them. -/
theorem renews_restamped (h : e.Stampable now) {c : AccessClaims} (hc : c.Proper) :
    e.Renews now c (e.writeAccess (e.restamped now c)) where
  algorithm := Signed.algorithm?_write _ _
  claims :=
    ⟨e.restamped now c, says_of_signedAccess (signedAccess_restamped he hnow h hc), rfl,
      h.toInt_expiry c, h.toInt_refreshedAt c, rfl⟩

/-- A renewed token identifies whom the old claims identify, as long as it
lives. -/
theorem verify_restamped (h : e.Stampable now) {c : AccessClaims} (hc : c.Proper) {t : Instant}
    (ht : t.nanoseconds ≤ (now.later e.tokenLifetime).nanoseconds) :
    e.verify t .access (e.writeAccess (e.restamped now c)) = c.identity e.schema := by
  have hverify := verify_of_expiry he hnow (Instant.lt_calendarEnd h.expiry)
    (c := e.restamped now c) hc rfl ht
  rw [hverify]
  exact AccessClaims.identity_congr rfl

end

/-! ## Renewals -/

/-- Once the refresh token is accepted, a renewal depends on the access token
alone. -/
theorem renew_eq {e : Engine} {now : Instant} {refresh : String} {who : Identity}
    (h : e.verify now .refresh refresh = .ok who) (access : String) :
    e.renew now access refresh = (do
      let c ← e.signedAccess access
      let who ← c.identity e.schema
      let accessToken ← e.restamp now c
      .ok { accessToken, username := who.username }) := by
  rw [renew, h, ← renewable_eq e now access]

/-- Without a valid refresh token nothing is renewed, whatever the access token is. -/
theorem renew_of_refresh_error {e : Engine} {now : Instant} {refresh : String} {why : TokenError}
    (h : e.verify now .refresh refresh = .error why) (access : String) :
    e.renew now access refresh =
      .error (if why = .tokenExpired then .refreshTokenExpired else why) := by
  rw [renew, h]
  cases why <;> rfl

/-- A renewal that nothing is in the way of. -/
theorem renew_of_stampable {e : Engine} {now : Instant} (hstamp : e.Stampable now)
    {access refresh : String} {who whose : Identity} {c : AccessClaims}
    (h : e.verify now .refresh refresh = .ok who) (hc : e.signedAccess access = .ok c)
    (hwhose : c.identity e.schema = .ok whose) :
    e.renew now access refresh =
      .ok { accessToken := e.writeAccess (e.restamped now c), username := whose.username } := by
  rw [renew_eq h, hc]
  show (c.identity e.schema >>= fun who => _) = _
  rw [hwhose]
  show (e.restamp now c >>= fun accessToken => _) = _
  rw [restamp_of_stampable hstamp]
  rfl

/-- What a renewal goes through, step by step. -/
theorem of_renew {e : Engine} {now : Instant} {access refresh : String} {renewal : Renewal}
    (h : e.renew now access refresh = .ok renewal) :
    ∃ who c whose, e.verify now .refresh refresh = .ok who ∧ e.signedAccess access = .ok c ∧
      c.identity e.schema = .ok whose ∧ e.restamp now c = .ok renewal.accessToken ∧
      renewal.username = whose.username := by
  cases hverify : e.verify now .refresh refresh with
  | error why =>
    rw [renew_of_refresh_error hverify] at h
    cases h
  | ok who =>
    rw [renew_eq hverify] at h
    obtain ⟨c, hc, h⟩ := bind_eq_ok_iff.1 h
    obtain ⟨whose, hwhose, h⟩ := bind_eq_ok_iff.1 h
    obtain ⟨token, htoken, h⟩ := bind_eq_ok_iff.1 h
    cases h
    exact ⟨who, c, whose, rfl, hc, hwhose, htoken, rfl⟩

/-! ## Two members -/

/-- The claims of an access token that expired as soon as 1970 began. -/
def lapsedClaims (username : String) : AccessClaims where
  issuer := issuer
  expiry := 0
  refreshedAt := none
  fields := (NameMap.empty.insert "username" username).insert "role" "guest"

/-- The claims of a refresh token that is good for the first hour of 1970. -/
def hourClaims (username : String) : RefreshClaims where
  username := some username
  address := "10.0.0.1"
  issuedAt := 0
  expiry := 3600
  absoluteExpiry := 3600
  valid := true

theorem proper_lapsedClaims (username : String) : (lapsedClaims username).Proper := by
  intro name hname
  simp only [AccessClaims.known, List.mem_cons, List.not_mem_nil, or_false] at hname
  rcases hname with rfl | rfl | rfl <;> simp [lapsedClaims, NameMap.get?_insert]

/-- The access token is signed, though it has expired. -/
theorem signedAccess_lapsedClaims (username : String) :
    memberEngine.signedAccess (memberEngine.writeAccess (lapsedClaims username)) =
      .ok (lapsedClaims username) :=
  signedAccess_writeAccess memberEngine (proper_lapsedClaims username)
    (show 0 ≤ (0 : Int64).toInt by decide)

theorem signedRefresh_hourClaims (username : String) :
    memberEngine.signedRefresh (memberEngine.writeRefresh (hourClaims username)) =
      .ok (hourClaims username) :=
  signedRefresh_writeRefresh memberEngine (show 0 ≤ (3600 : Int64).toInt by decide)

/-- The refresh token is accepted at the end of the first minute. -/
theorem verify_hourClaims (username : String) :
    memberEngine.verify (.ofSeconds 60) .refresh (memberEngine.writeRefresh (hourClaims username)) =
      .ok { username, role := none } := by
  have hvalid :
      ¬((3600 : Int64).toInt < (Instant.ofSeconds 60).seconds ∨
        memberEngine.ceiling = .enforced ∧
          (3600 : Int64).toInt < (Instant.ofSeconds 60).seconds) := by
    decide
  rw [verify_refresh (signedRefresh_hourClaims username)]
  exact if_neg hvalid

/-- At that time the access token is not accepted any more. -/
theorem readAccess_lapsedClaims (username : String) :
    memberEngine.readAccess (.ofSeconds 60) (memberEngine.writeAccess (lapsedClaims username)) =
      .error .tokenExpired := by
  rw [readAccess_eq, signedAccess_lapsedClaims]
  exact if_pos (show (0 : Int64).toInt < (Instant.ofSeconds 60).seconds by decide)

theorem stampable_memberEngine : memberEngine.Stampable (.ofSeconds 60) where
  expiry := by decide
  stamp := by decide

/-- The expired token of a member is renewed with the refresh token of anybody. -/
theorem renew_lapsedClaims (username other : String) :
    memberEngine.renew (.ofSeconds 60) (memberEngine.writeAccess (lapsedClaims username))
        (memberEngine.writeRefresh (hourClaims other)) =
      .ok { accessToken := memberEngine.writeAccess
              (memberEngine.restamped (.ofSeconds 60) (lapsedClaims username))
            username } := by
  have hidentity : (lapsedClaims username).identity memberEngine.schema =
      .ok { username, role := some "guest" } := AccessClaims.identity_of_fields rfl rfl
  exact renew_of_stampable stampable_memberEngine (verify_hourClaims other)
    (signedAccess_lapsedClaims username) hidentity

/-! ## The answer to every pair of texts -/

/-- The answer to every pair of texts. The first fault of the refresh token is
reported, then the first of the access token other than its expiry, then what
its claims lack, then what the calendar lacks; without any of these there is a
renewed token. -/
theorem renew_outcome {settings : Settings} {e : Engine} (he : ofSettings settings = .ok e)
    {now : Instant} (hnow : 0 ≤ now.nanoseconds) (access refresh : String) :
    (e.verify now .refresh refresh = .error .tokenExpired →
      e.renew now access refresh = .error .refreshTokenExpired) ∧
    (∀ why, e.verify now .refresh refresh = .error why → why ≠ .tokenExpired →
      e.renew now access refresh = .error why) ∧
    (∀ who why, e.verify now .refresh refresh = .ok who →
      e.readAccess now access = .error why → why ≠ .tokenExpired →
      e.renew now access refresh = .error why) ∧
    (∀ who, e.verify now .refresh refresh = .ok who →
      (e.readAccess now access = .error .tokenExpired ∨ ∃ c, e.readAccess now access = .ok c) →
      ∃ c, e.Says access c ∧
        (c.fields.get? e.schema.keyClaim = none →
          e.renew now access refresh = .error .missingUsername) ∧
        (∀ username, c.fields.get? e.schema.keyClaim = some username →
          c.fields.get? e.schema.roleClaim = none →
          e.renew now access refresh = .error .missingRole) ∧
        (∀ username role, c.fields.get? e.schema.keyClaim = some username →
          c.fields.get? e.schema.roleClaim = some role →
          (¬e.Stampable now → e.renew now access refresh = .error .timeOutOfRange) ∧
          (e.Stampable now → ∃ token,
            e.renew now access refresh = .ok { accessToken := token, username } ∧
            e.Renews now c token ∧
            e.verify now .access token = .ok { username, role := some role }))) ∧
    (∀ renewal, e.renew now access refresh = .ok renewal →
      Signed.Authentic e.accessSecret access) := by
  have hchecked := (of_ofSettings he).1
  refine ⟨fun h => ?_, fun why h hwhy => ?_, fun who why h hread hwhy => ?_,
    fun who h hread => ?_, fun renewal h => ?_⟩
  · rw [renew_of_refresh_error h, if_pos rfl]
  · rw [renew_of_refresh_error h, if_neg hwhy]
  · rw [renew_eq h, error_of_readAccess hread hwhy]
    rfl
  · -- the access token is signed, expired or not, and the clock counts for the stamps only
    obtain ⟨c, hsigned⟩ := signedAccess_of_readAccess hread
    have hrenew := renew_eq h access
    rw [hsigned] at hrenew
    replace hrenew : e.renew now access refresh = (do
      let who ← c.identity e.schema
      let accessToken ← e.restamp now c
      .ok { accessToken, username := who.username }) := hrenew
    refine ⟨c, says_of_signedAccess hsigned, fun hkey => ?_, fun username hkey hrole => ?_,
      fun username role hkey hrole => ⟨fun hstamp => ?_, fun hstamp => ?_⟩⟩
    · rw [hrenew, AccessClaims.identity_of_missing_username hkey]
      rfl
    · rw [hrenew, AccessClaims.identity_of_missing_role hkey hrole]
      rfl
    · rw [hrenew, AccessClaims.identity_of_fields hkey hrole,
        restamp_of_not_stampable hstamp]
      rfl
    · have hproper := (of_signedAccess hsigned).1
      have hrenews := renews_restamped hchecked hnow hstamp hproper
      refine ⟨e.writeAccess (e.restamped now c), ?_, hrenews, ?_⟩
      · exact renew_of_stampable hstamp h hsigned (AccessClaims.identity_of_fields hkey hrole)
      · have hlater := Instant.le_later (t := now) (isLifetime_iff.1 hchecked.tokenLifetime).1
        rw [verify_restamped hchecked hnow hstamp hproper hlater,
          AccessClaims.identity_of_fields hkey hrole]
  · -- also where the claims were recovered without a check
    obtain ⟨who, c, token, -, hsigned, -⟩ := of_renew h
    exact (of_signedAccess hsigned).2

/-- The expired token of a member is renewed. -/
theorem renew_outcome_lapsed :
    ofSettings memberSettings = .ok memberEngine ∧ 0 ≤ (Instant.ofSeconds 60).nanoseconds ∧
      ∃ token,
        memberEngine.renew (.ofSeconds 60) (memberEngine.writeAccess (lapsedClaims "ada"))
            (memberEngine.writeRefresh (hourClaims "ada")) =
          .ok { accessToken := token, username := "ada" } ∧
        memberEngine.verify (.ofSeconds 60) .access token =
          .ok { username := "ada", role := some "guest" } := by
  refine ⟨ofSettings_memberSettings, by decide, ?_⟩
  obtain ⟨c, htells, -, -, hrenew⟩ := (renew_outcome ofSettings_memberSettings (by decide)
    (memberEngine.writeAccess (lapsedClaims "ada"))
    (memberEngine.writeRefresh (hourClaims "ada"))).2.2.2.1 _ (verify_hourClaims "ada")
    (.inl (readAccess_lapsedClaims "ada"))
  have hrecovered := (says_of_signedAccess (signedAccess_lapsedClaims "ada")).recovered
  obtain rfl := Except.ok.inj (htells.recovered.symm.trans hrecovered)
  obtain ⟨token, hrenewed, -, hverify⟩ := (hrenew "ada" "guest" rfl rfl).2 stampable_memberEngine
  exact ⟨token, hrenewed, hverify⟩

/-! ## Whose token is renewed -/

/-- A renewal stays with the user of the access token: that is the user it
reports and the user of the new token. The refresh token has to be somebody's
and does not matter otherwise: any other that is accepted gives the same answer. -/
theorem renew_principal {e : Engine} {now : Instant} {access refresh : String} {renewal : Renewal}
    (h : e.renew now access refresh = .ok renewal) :
    (∃ who, e.verify now .refresh refresh = .ok who) ∧
    (∃ c d role, e.Says access c ∧
      c.identity e.schema = .ok { username := renewal.username, role := some role } ∧
      Signed.Authentic e.accessSecret renewal.accessToken ∧
      Signed.recover AccessClaims.ofJson? renewal.accessToken = .ok d ∧
      d.identity e.schema = .ok { username := renewal.username, role := some role }) ∧
    ∀ other who, e.verify now .refresh other = .ok who →
      e.renew now access other = .ok renewal := by
  obtain ⟨who, c, whose, hwho, hsigned, hwhose, hstamped, husername⟩ := of_renew h
  obtain ⟨role, hrole⟩ := AccessClaims.role_of_identity hwhose
  obtain ⟨d, htoken, hfields⟩ := of_restamp hstamped
  -- the claims of the user are copied, and with them whom they identify
  have hidentity :
      c.identity e.schema = .ok { username := renewal.username, role := some role } := by
    rw [hwhose, husername, ← hrole]
  have hproper : d.Proper := by
    unfold AccessClaims.Proper
    rw [hfields]
    exact (of_signedAccess hsigned).1
  refine ⟨⟨who, hwho⟩, ⟨c, d, role, says_of_signedAccess hsigned, hidentity, ?_, ?_, ?_⟩,
    fun other whom hother => ?_⟩
  · rw [htoken]
    exact Signed.authentic_write _ _
  · rw [htoken]
    exact recover_writeAccess e hproper
  · rw [AccessClaims.identity_congr hfields]
    exact hidentity
  · -- of the refresh token nothing but its acceptance is left in `renew_eq`
    rw [renew_eq hother, ← renew_eq hwho]
    exact h

/-- With the refresh token of another member a member's token is renewed for the
member. -/
theorem renew_principal_lapsed :
    ∃ renewal,
      memberEngine.renew (.ofSeconds 60) (memberEngine.writeAccess (lapsedClaims "ada"))
          (memberEngine.writeRefresh (hourClaims "bob")) = .ok renewal ∧
      ∃ d role, Signed.recover AccessClaims.ofJson? renewal.accessToken = .ok d ∧
        d.identity memberEngine.schema = .ok { username := "ada", role := some role } := by
  have hrenew := renew_lapsedClaims "ada" "bob"
  obtain ⟨-, ⟨c, d, role, -, -, -, hrecovered, hidentity⟩, -⟩ := renew_principal hrenew
  exact ⟨_, hrenew, d, role, hrecovered, hidentity⟩

/-- The refresh token of one member renews the expired token of another. -/
theorem renew_across_members :
    ¬∀ (settings : Settings) (e : Engine), ofSettings settings = .ok e →
      ∀ (now : Instant) (access refresh : String) (renewal : Renewal) (who : Identity),
        e.renew now access refresh = .ok renewal → e.verify now .refresh refresh = .ok who →
          who.username = renewal.username := by
  intro h
  have hsame := h memberSettings memberEngine ofSettings_memberSettings _ _ _ _ _
    (renew_lapsedClaims "ada" "bob") (verify_hourClaims "bob")
  exact absurd hsame (by decide)

end BearerAuth.Engine
