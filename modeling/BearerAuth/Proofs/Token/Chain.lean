import BearerAuth.Proofs.Token.Issuance
import BearerAuth.Proofs.Token.Renewal

/-!
# Chains of renewals

An access token is renewed, the new token is renewed in turn, and so on, each time with
a refresh token of its own, whether or not the last access token has expired by then. A
renewal replaces all that an earlier one has put into the claims, so that the claims at
the end of a chain are those of its first token with the stamps of the last renewal.

- `Engine.SignedFor`: what a signed access token says, whoever reads it.
- `Engine.renewals`: the tokens of a chain. `Engine.eq_of_renew` is one renewal and
  `Engine.eq_of_renewals` a whole chain.
- `Engine.exists_renewals`: a chain goes on as long as its refresh tokens are accepted.
- `Engine.ChainSays`: the claims along a chain.
- `Engine.renewal_chain`: the user's claims never change, the expiry never comes
  earlier, and no two tokens of a chain are the same.
-/

namespace BearerAuth.Engine

open Time

variable {e : Engine} {now : Instant} {access refresh : String} {c d : AccessClaims}

/-! ## What a token says -/

/-- A token is signed for access and says the claims, whoever reads it. -/
structure SignedFor (e : Engine) (token : String) (c : AccessClaims) : Prop where
  authentic : Signed.Authentic e.accessSecret token
  recovered : Signed.recover AccessClaims.ofJson? token = .ok c

/-- A token says one thing. -/
theorem SignedFor.unique {token : String} (hc : e.SignedFor token c) (hd : e.SignedFor token d) :
    c = d :=
  Except.ok.inj (hc.recovered.symm.trans hd.recovered)

/-- A written token is signed for its claims. -/
theorem signedFor_writeAccess (hc : c.Proper) : e.SignedFor (e.writeAccess c) c where
  authentic := Signed.authentic_write _ _
  recovered := recover_writeAccess e hc

theorem SignedFor.eq_of_signedAccess {token : String} (h : e.SignedFor token c)
    (hd : e.signedAccess token = .ok d) : d = c :=
  Except.ok.inj ((says_of_signedAccess hd).recovered.symm.trans h.recovered)

/-! ## One renewal -/

/-- A renewal replaces the stamps of an earlier one. -/
theorem restamped_restamped (e : Engine) (now later : Instant) (c : AccessClaims) :
    e.restamped later (e.restamped now c) = e.restamped later c := rfl

/-- A renewal signs the claims that the old token says, with stamps of its own. -/
theorem eq_of_renew (haccess : e.SignedFor access c) {renewal : Renewal}
    (h : e.renew now access refresh = .ok renewal) :
    renewal.accessToken = e.writeAccess (e.restamped now c) ∧ e.Stampable now := by
  obtain ⟨who, d, whose, -, hsigned, -, hstamp, -⟩ := of_renew h
  obtain rfl := haccess.eq_of_signedAccess hsigned
  exact eq_of_restamp hstamp

/-! ## Whole chains -/

/-- The tokens of successive renewals, each of the token before it, at the instants and
with the refresh tokens given. -/
def renewals (e : Engine) (access : String) :
    List (Instant × String) → Except TokenError (List String)
  | [] => .ok []
  | (now, refresh) :: rest => do
    let renewal ← e.renew now access refresh
    let later ← e.renewals renewal.accessToken rest
    .ok (renewal.accessToken :: later)

/-- The claims along a chain that begins with some claims. -/
def chainClaims (e : Engine) (c : AccessClaims) (steps : List (Instant × String)) :
    List AccessClaims :=
  c :: steps.map fun step => e.restamped step.1 c

/-- However long a chain is, each of its tokens is signed for the first claims with the
stamps of its own renewal. -/
theorem eq_of_renewals {steps : List (Instant × String)} {tokens : List String} (hc : c.Proper)
    (haccess : e.SignedFor access c) (h : e.renewals access steps = .ok tokens) :
    tokens = (steps.map fun step => e.restamped step.1 c).map e.writeAccess ∧
      ∀ step ∈ steps, e.Stampable step.1 := by
  induction steps generalizing access c tokens with
  | nil =>
    cases h
    exact ⟨rfl, fun _ hstep => absurd hstep List.not_mem_nil⟩
  | cons step rest ih =>
    obtain ⟨now, refresh⟩ := step
    obtain ⟨renewal, hrenew, h⟩ := bind_eq_ok_iff.1 h
    obtain ⟨later, hlater, h⟩ := bind_eq_ok_iff.1 h
    cases h
    obtain ⟨htoken, hstamp⟩ := eq_of_renew haccess hrenew
    -- the rest is a chain that begins with the claims of this renewal
    have hproper : (e.restamped now c).Proper := hc
    have hsigned : e.SignedFor renewal.accessToken (e.restamped now c) := by
      rw [htoken]
      exact signedFor_writeAccess hproper
    obtain ⟨hrest, hstamps⟩ := ih hproper hsigned hlater
    refine ⟨?_, fun step hstep => ?_⟩
    · simp only [htoken, hrest, restamped_restamped, List.map_cons]
    · rcases List.mem_cons.1 hstep with rfl | hstep
      · exact hstamp
      · exact hstamps step hstep

/-- A chain whose first claims identify somebody goes on as long as its refresh tokens
are accepted. -/
theorem exists_renewals (he : e.Checked) {whose : Identity} {steps : List (Instant × String)}
    (hc : e.signedAccess access = .ok c) (hwhose : c.identity e.schema = .ok whose)
    (hnow : ∀ step ∈ steps, 0 ≤ step.1.nanoseconds)
    (hstamps : ∀ step ∈ steps, e.Stampable step.1)
    (hrefresh : ∀ step ∈ steps, ∃ who, e.verify step.1 .refresh step.2 = .ok who) :
    ∃ tokens, e.renewals access steps = .ok tokens := by
  induction steps generalizing access c with
  | nil => exact ⟨[], rfl⟩
  | cons step rest ih =>
    obtain ⟨now, refresh⟩ := step
    have hnow₀ : 0 ≤ now.nanoseconds := hnow _ List.mem_cons_self
    have hstamp : e.Stampable now := hstamps _ List.mem_cons_self
    obtain ⟨who, hwho⟩ := hrefresh _ List.mem_cons_self
    have hrenew := renew_of_stampable hstamp hwho hc hwhose
    have hnext := signedAccess_restamped he hnow₀ hstamp (of_signedAccess hc).1
    obtain ⟨later, hlater⟩ := ih hnext ((AccessClaims.identity_congr rfl).trans hwhose)
      (fun step hstep => hnow step (List.mem_cons_of_mem _ hstep))
      (fun step hstep => hstamps step (List.mem_cons_of_mem _ hstep))
      (fun step hstep => hrefresh step (List.mem_cons_of_mem _ hstep))
    refine ⟨e.writeAccess (e.restamped now c) :: later, bind_eq_ok_iff.2 ⟨_, hrenew, ?_⟩⟩
    exact bind_eq_ok_iff.2 ⟨later, hlater, rfl⟩

/-- A token that identifies nobody begins no chain. -/
theorem renewals_cons_of_identity_error {step : Instant × String}
    {rest : List (Instant × String)} {why : TokenError} (hc : e.signedAccess access = .ok c)
    (hwhy : c.identity e.schema = .error why) (tokens : List String) :
    e.renewals access (step :: rest) ≠ .ok tokens := by
  intro h
  obtain ⟨renewal, hrenew, -⟩ := bind_eq_ok_iff.1 h
  obtain ⟨who, d, whose, -, hsigned, hwhose, -⟩ := of_renew hrenew
  cases hc.symm.trans hsigned
  cases hwhy.symm.trans hwhose

/-! ## The claims along a chain -/

/-- What the tokens of a chain say, from the first to the last: the user's claims stay,
the expiry never comes earlier, and after the first token each has the time of its
renewal. No two of the tokens are the same. -/
structure ChainSays (e : Engine) (fields : Fields) (times : List Instant) (tokens : List String)
    (claims : List AccessClaims) : Prop where
  signed : List.Forall₂ e.SignedFor tokens claims
  fields : ∀ c ∈ claims, c.fields = fields
  expiries : claims.Pairwise fun c d => c.expiry.toInt ≤ d.expiry.toInt
  stamps : claims.map (fun c => c.refreshedAt.map Int64.toInt) =
    none :: times.map fun t => some t.nanoseconds
  increasing : (claims.filterMap (·.refreshedAt)).Pairwise fun s t => s.toInt < t.toInt
  distinct : tokens.Nodup

section

variable {t₀ : Instant} {record : Fields} {steps : List (Instant × String)}
  (hstart : ∀ step ∈ steps, t₀.nanoseconds ≤ step.1.nanoseconds)
  (horder : steps.Pairwise fun s t => s.1.nanoseconds < t.1.nanoseconds)
  (hfirst : (t₀.later e.tokenLifetime).representable = true)
  (hstamps : ∀ step ∈ steps, e.Stampable step.1)

include hstart horder hfirst hstamps in
/-- No token of a chain expires before an earlier one. -/
theorem pairwise_expiry_chainClaims :
    (e.chainClaims (e.issuedClaims t₀ record) steps).Pairwise fun c d =>
      c.expiry.toInt ≤ d.expiry.toInt := by
  have hissued : (e.issuedClaims t₀ record).expiry.toInt = (t₀.later e.tokenLifetime).seconds :=
    Instant.toInt_ofInt_seconds hfirst
  refine List.pairwise_cons.2 ⟨fun d hd => ?_, List.pairwise_map.2 ?_⟩
  · obtain ⟨step, hstep, rfl⟩ := List.mem_map.1 hd
    rw [hissued, (hstamps step hstep).toInt_expiry _]
    exact Instant.seconds_mono (Int.add_le_add_right (hstart step hstep) _)
  · refine horder.imp_of_mem fun {s t} hs ht hlt => ?_
    rw [(hstamps s hs).toInt_expiry _, (hstamps t ht).toInt_expiry _]
    exact Instant.seconds_mono (Int.add_le_add_right (Int.le_of_lt hlt) _)

include hstamps in
/-- The first token of a chain has no stamp, and each other one that of its step. -/
theorem stamps_chainClaims :
    (e.chainClaims (e.issuedClaims t₀ record) steps).map
        (fun c => c.refreshedAt.map Int64.toInt) =
      none :: (steps.map (·.1)).map fun t => some t.nanoseconds := by
  rw [chainClaims, List.map_cons, List.map_map, List.map_map]
  refine congrArg (none :: ·) (List.map_congr_left fun step hstep => ?_)
  exact (hstamps step hstep).toInt_refreshedAt (e.issuedClaims t₀ record)

/-- The stamps of the renewals in a chain, without the first token, which has none. -/
theorem filterMap_refreshedAt_chainClaims :
    (e.chainClaims (e.issuedClaims t₀ record) steps).filterMap (·.refreshedAt) =
      steps.map fun step => .ofInt step.1.nanoseconds := by
  rw [chainClaims, List.filterMap_cons_none rfl, List.filterMap_map]
  -- every renewal has a stamp
  exact congrFun (List.filterMap_eq_map (f := fun step : Instant × String =>
    Int64.ofInt step.1.nanoseconds)) steps

include horder hstamps in
/-- The stamps of a chain go up. -/
theorem pairwise_refreshedAt_chainClaims :
    ((e.chainClaims (e.issuedClaims t₀ record) steps).filterMap
      (·.refreshedAt)).Pairwise fun s t => s.toInt < t.toInt := by
  rw [filterMap_refreshedAt_chainClaims]
  refine List.pairwise_map.2 (horder.imp_of_mem fun {s t} hs ht hlt => ?_)
  have hsame : ∀ step ∈ steps, (Int64.ofInt step.1.nanoseconds).toInt = step.1.nanoseconds :=
    fun step hstep => Option.some.inj
      ((hstamps step hstep).toInt_refreshedAt (e.issuedClaims t₀ record))
  rw [hsame s hs, hsame t ht]
  exact hlt

include horder hstamps in
/-- The stamps tell the claims of a chain apart, and the missing one tells the first. -/
theorem nodup_chainClaims : (e.chainClaims (e.issuedClaims t₀ record) steps).Nodup := by
  refine List.Nodup.of_map (fun c => c.refreshedAt.map Int64.toInt) ?_
  rw [stamps_chainClaims hstamps, List.map_map]
  refine List.nodup_cons.2 ⟨fun hnone => ?_, List.pairwise_map.2 (horder.imp fun hlt heq => ?_)⟩
  · obtain ⟨step, -, hstep⟩ := List.mem_map.1 hnone
    cases hstep
  · exact Int.ne_of_lt hlt (Option.some.inj heq)

end

/-- Every token that is written for claims of a list says them, and claims that differ
are written differently. -/
theorem nodup_map_writeAccess {claims : List AccessClaims} (hproper : ∀ c ∈ claims, c.Proper)
    (h : claims.Nodup) : (claims.map e.writeAccess).Nodup := by
  refine h.map_on fun c hc d hd heq => ?_
  have hsigned := signedFor_writeAccess (e := e) (hproper c hc)
  rw [heq] at hsigned
  exact hsigned.unique (signedFor_writeAccess (hproper d hd))

/-- The claims of the user are the same along a chain. -/
theorem fields_of_mem_chainClaims {steps : List (Instant × String)}
    (h : d ∈ e.chainClaims c steps) : d.fields = c.fields := by
  rcases List.mem_cons.1 h with rfl | h
  · rfl
  · obtain ⟨step, -, rfl⟩ := List.mem_map.1 h
    rfl

/-- The tokens of a chain say the claims of the chain, one after the other. -/
theorem chainSays_chainClaims (hs : e.schema.Valid) {t₀ : Instant} {record : Fields}
    {steps : List (Instant × String)}
    (hstart : ∀ step ∈ steps, t₀.nanoseconds ≤ step.1.nanoseconds)
    (horder : steps.Pairwise fun s t => s.1.nanoseconds < t.1.nanoseconds)
    (hfirst : (t₀.later e.tokenLifetime).representable = true)
    (hstamps : ∀ step ∈ steps, e.Stampable step.1) :
    e.ChainSays (e.schema.claims record) (steps.map (·.1))
      ((e.chainClaims (e.issuedClaims t₀ record) steps).map e.writeAccess)
      (e.chainClaims (e.issuedClaims t₀ record) steps) := by
  have hproper : ∀ c ∈ e.chainClaims (e.issuedClaims t₀ record) steps, c.Proper :=
    fun c hc => hs.proper_of_fields (fields_of_mem_chainClaims hc)
  exact {
    signed := List.forall₂_map_left_iff.2
      (List.forall₂_same.2 fun c hc => signedFor_writeAccess (hproper c hc))
    fields := fun c hc => fields_of_mem_chainClaims hc
    expiries := pairwise_expiry_chainClaims hstart horder hfirst hstamps
    stamps := stamps_chainClaims hstamps
    increasing := pairwise_refreshedAt_chainClaims horder hstamps
    distinct := nodup_map_writeAccess hproper (nodup_chainClaims horder hstamps) }

/-! ## Chains from a login on -/

/-- An access token that is issued is signed for the claims of the record that the login
has found. -/
theorem of_issueAccess {login : Except StoreError Fields} {token : String}
    (h : e.issueAccess now login = .ok token) :
    ∃ record, login = .ok record ∧ token = e.writeAccess (e.issuedClaims now record) ∧
      (now.later e.tokenLifetime).representable = true := by
  unfold issueAccess at h
  split at h
  · cases h
  next record =>
  obtain ⟨expiry, hexpiry, h⟩ := bind_eq_ok_iff.1 h
  obtain ⟨hrep, rfl⟩ := of_expirySecond hexpiry
  cases h
  exact ⟨record, rfl, rfl, hrep⟩

/-- A chain of renewals that begins with an access token from a login: the claims of the
user are those of the login's record throughout, the expiry never comes earlier, only
the first token has no time of a renewal, these times increase, and no two tokens are
the same, however close the renewals are and whether or not a token had expired when it
was renewed. As long as the refresh tokens are accepted there is such a chain, unless
the first token identifies nobody. -/
theorem renewal_chain {settings : Settings} (he : ofSettings settings = .ok e)
    {table : TableDescription} (hschema : Schema.ofDescription table = .ok e.schema)
    {t₀ : Instant} {login : Except StoreError Fields} {first : String}
    (hissue : e.issueAccess t₀ login = .ok first) {steps : List (Instant × String)}
    (hstart : ∀ step ∈ steps, t₀.nanoseconds ≤ step.1.nanoseconds)
    (horder : steps.Pairwise fun s t => s.1.nanoseconds < t.1.nanoseconds) :
    ∃ record, login = .ok record ∧
      (∀ tokens, e.renewals first steps = .ok tokens →
        ∃ claims, e.ChainSays (e.schema.claims record) (steps.map (·.1)) (first :: tokens) claims) ∧
      (0 ≤ t₀.nanoseconds → (∀ step ∈ steps, e.Stampable step.1) →
        (∀ step ∈ steps, ∃ who, e.verify step.1 .refresh step.2 = .ok who) →
        ((∃ tokens, e.renewals first steps = .ok tokens) ↔
          steps = [] ∨ ∃ who, e.verify t₀ .access first = .ok who)) := by
  have hchecked := (of_ofSettings he).1
  have hvalid : e.schema.Valid := Schema.valid_of_ofDescription hschema
  obtain ⟨record, hlogin, rfl, hrep⟩ := of_issueAccess hissue
  have hproper : (e.issuedClaims t₀ record).Proper := hvalid.proper_of_fields rfl
  refine ⟨record, hlogin, fun tokens htokens => ?_, fun ht₀ hstamps hrefresh => ?_⟩
  · obtain ⟨rfl, hstamps⟩ := eq_of_renewals hproper (signedFor_writeAccess hproper) htokens
    exact ⟨_, chainSays_chainClaims hvalid hstart horder hrep hstamps⟩
  · have hlife := (isLifetime_iff.1 hchecked.tokenLifetime).1
    have hend := Instant.lt_calendarEnd hrep
    have hsigned := signedAccess_of_expiry hchecked ht₀ hend hproper rfl
    have hverify := verify_accessFor hchecked ht₀ hvalid hend record (Instant.le_later hlife)
    -- the first token is accepted for whom its claims identify, and these never change
    rw [hverify]
    constructor
    · rintro ⟨tokens, htokens⟩
      cases steps with
      | nil => exact .inl rfl
      | cons step rest =>
        refine .inr ?_
        cases hidentity : (e.issuedClaims t₀ record).identity e.schema with
        | ok who => exact ⟨who, rfl⟩
        | error why =>
          exact absurd htokens (renewals_cons_of_identity_error hsigned hidentity tokens)
    · rintro (rfl | ⟨who, hwho⟩)
      · exact ⟨[], rfl⟩
      · have hnow : ∀ step ∈ steps, 0 ≤ step.1.nanoseconds :=
          fun step hstep => Int.le_trans ht₀ (hstart step hstep)
        exact exists_renewals hchecked hsigned hwho hnow hstamps hrefresh

/-! ## Three renewals -/

/-- What Ada's login finds. -/
def adaFound : Fields :=
  (NameMap.empty.insert "email" "ada@example.org").insert "grade" "guest"

/-- The token that Ada gets after a minute. -/
def minuteToken : String :=
  memberEngine.writeAccess (memberEngine.issuedClaims (.ofSeconds 60) adaFound)

/-- Ada renews her token at once, again a nanosecond later, and when it has expired. -/
def promptSteps : List (Instant × String) :=
  [(.ofSeconds 60, memberEngine.writeRefresh (hourClaims "ada")),
    (⟨60000000001⟩, memberEngine.writeRefresh (hourClaims "ada")),
    (.ofSeconds 1800, memberEngine.writeRefresh (hourClaims "ada"))]

theorem verify_promptSteps :
    ∀ step ∈ promptSteps, ∃ who, memberEngine.verify step.1 .refresh step.2 = .ok who := by
  have hhour : ∀ now : Instant, now.seconds ≤ 3600 →
      memberEngine.verify now .refresh (memberEngine.writeRefresh (hourClaims "ada")) =
        .ok { username := "ada", role := none } := by
    intro now hnow
    have hvalid : ¬((3600 : Int64).toInt < now.seconds ∨
        memberEngine.ceiling = .enforced ∧ (3600 : Int64).toInt < now.seconds) := by
      rintro (hlate | ⟨hceiling, -⟩)
      · exact Int.not_lt.2 hnow hlate
      · cases hceiling
    rw [verify_refresh (signedRefresh_hourClaims "ada")]
    exact if_neg hvalid
  intro step hstep
  simp only [promptSteps, List.mem_cons, List.not_mem_nil, or_false] at hstep
  rcases hstep with rfl | rfl | rfl
  · exact ⟨_, hhour _ (by decide)⟩
  · exact ⟨_, hhour _ (by decide)⟩
  · exact ⟨_, hhour _ (by decide)⟩

/-- Ada's three renewals, two of them in the second of her login, give three new
tokens, and all four are different. -/
theorem renewal_chain_prompt :
    ofSettings memberSettings = .ok memberEngine ∧
      Schema.ofDescription Schema.membersTable = .ok memberEngine.schema ∧
      memberEngine.issueAccess (.ofSeconds 60) (.ok adaFound) = .ok minuteToken ∧
      (∀ step ∈ promptSteps, (Instant.ofSeconds 60).nanoseconds ≤ step.1.nanoseconds) ∧
      (promptSteps.Pairwise fun s t => s.1.nanoseconds < t.1.nanoseconds) ∧
      ∃ tokens, memberEngine.renewals minuteToken promptSteps = .ok tokens ∧
        (minuteToken :: tokens).Nodup := by
  have hchecked := (of_ofSettings ofSettings_memberSettings).1
  have hissue : memberEngine.issueAccess (.ofSeconds 60) (.ok adaFound) = .ok minuteToken :=
    accessFor_eq hchecked (by decide) (by decide) adaFound
  have hstart : ∀ step ∈ promptSteps,
      (Instant.ofSeconds 60).nanoseconds ≤ step.1.nanoseconds := by
    simp [promptSteps, Instant.ofSeconds, nanosPerSecond]
  have horder : promptSteps.Pairwise fun s t => s.1.nanoseconds < t.1.nanoseconds := by
    simp [promptSteps, Instant.ofSeconds, nanosPerSecond]
  have hstamps : ∀ step ∈ promptSteps, memberEngine.Stampable step.1 := by
    intro step hstep
    simp only [promptSteps, List.mem_cons, List.not_mem_nil, or_false] at hstep
    rcases hstep with rfl | rfl | rfl <;> exact ⟨by decide, by decide⟩
  obtain ⟨record, -, hsays, hexists⟩ := renewal_chain ofSettings_memberSettings
    Schema.ofDescription_membersTable hissue hstart horder
  have hverify : memberEngine.verify (.ofSeconds 60) .access minuteToken =
      .ok { username := "ada@example.org", role := some "guest" } :=
    verify_accessFor hchecked (by decide)
      (Schema.valid_of_ofDescription Schema.ofDescription_membersTable) (by decide) adaFound
      (by decide)
  obtain ⟨tokens, htokens⟩ :=
    (hexists (by decide) hstamps verify_promptSteps).2 (.inr ⟨_, hverify⟩)
  obtain ⟨claims, hclaims⟩ := hsays tokens htokens
  exact ⟨ofSettings_memberSettings, Schema.ofDescription_membersTable, hissue, hstart, horder,
    tokens, htokens, hclaims.distinct⟩

end BearerAuth.Engine
