import BearerAuth.Proofs.Schema.Public
import BearerAuth.Proofs.Token.Chain

/-!
# From a record to a token

The columns of a record go into a token under the names that the schema gives them. The
check of the schema has seen to it that no two columns have one name, so that nothing
is lost in the map of the claims, and that no name belongs to the token, so that nothing
is lost when the claims are written next to the issuer and the expiry.

- `Schema.Conveys`: what the claims of a record say about it, column by column.
- `AccessClaims.nodup_names_members`: no member is written twice for proper claims.
- `Engine.Holds`: a token has no repeated member, and the claims are read from it.
- `Schema.claims_faithful`: the claims of every record convey it, and the tokens that
  are issued for it hold them.
-/

namespace BearerAuth

/-! ## Claims of a record -/

namespace Schema

/-- What the claims of a record say about it. Their entries are one for each column that
has a name in tokens and a value, each comes from one column, and none is under a name
of the token. The password changes nothing; any other value is told if the column is
not hidden, a name is given for it, or it is the key or the role. -/
structure Conveys (s : Schema) (record fields : Fields) : Prop where
  entries : fields.entries.Perm (s.claimPairs record)
  found : ∀ c ∈ s.columns, ∀ claim, s.claim? c = some claim →
    fields.get? claim = record.get? c.name
  source : ∀ e ∈ fields.entries,
    ∃! c, c ∈ s.columns ∧ s.claim? c = some e.1 ∧ record.get? c.name = some e.2
  unreserved : ∀ e ∈ fields.entries, e.1 ∉ reservedClaims
  password : s.claims (record.erase passwordColumn) = fields ∧
    ∀ value, s.claims (record.insert passwordColumn value) = fields
  told : ∀ c ∈ s.columns, c.isPassword = false → ∀ value, record.get? c.name = some value →
    ((∃ claim, s.claim? c = some claim ∧ (claim, value) ∈ fields.entries) ↔
      c.hidden = false ∨ c.jwtClaim.isSome ∨ c = s.username ∨ c.name = roleColumn)

variable {s : Schema}

/-- The password is in no public column. -/
theorem agreeInPublic_erase_password (record : Fields) :
    s.AgreeInPublic (record.erase passwordColumn) record :=
  fun _ _ hpublic => get?_erase_password record hpublic.1

theorem agreeInPublic_insert_password (record : Fields) (value : String) :
    s.AgreeInPublic (record.insert passwordColumn value) record := by
  intro c _ hpublic
  have hname : c.name ≠ passwordColumn := by simpa [Column.isPassword] using hpublic.1
  exact NameMap.get?_insert_of_ne record hname value

namespace Valid

variable (hs : s.Valid)
include hs

/-- No two columns make a pair of one name, so that every pair stays in the map. -/
theorem perm_entries_claims (record : Fields) :
    (s.claims record).entries.Perm (s.claimPairs record) :=
  NameMap.perm_entries_ofList
    (hs.claims_nodup.sublist (names_claimPair?_sublist s record s.columns))

/-- The columns have different claims. -/
theorem eq_of_claim?_eq {c other : Column} (hc : c ∈ s.columns) (hother : other ∈ s.columns)
    {claim : String} (h : s.claim? c = some claim) (h' : s.claim? other = some claim) :
    other = c := by
  have hsupplier := hs.supplier?_of_claim? hc h
  rw [hs.supplier?_of_claim? hother h'] at hsupplier
  exact Option.some.inj hsupplier

theorem get?_claims_of_claim? (record : Fields) {c : Column} (hc : c ∈ s.columns)
    {claim : String} (h : s.claim? c = some claim) :
    (s.claims record).get? claim = record.get? c.name := by
  rw [hs.get?_claims, hs.supplier?_of_claim? hc h, Option.bind_some]

theorem conveys_claims (record : Fields) : s.Conveys record (s.claims record) where
  entries := hs.perm_entries_claims record
  found c hc claim h := hs.get?_claims_of_claim? record hc h
  source e he := by
    rw [NameMap.mem_entries_iff, hs.get?_claims] at he
    obtain ⟨c, hsupplier, hvalue⟩ := Option.bind_eq_some_iff.1 he
    have hc : c ∈ s.columns := List.mem_of_find?_eq_some hsupplier
    have hclaim := claim?_of_supplier? hsupplier
    refine ⟨c, ⟨hc, hclaim, hvalue⟩, fun other hother => ?_⟩
    exact hs.eq_of_claim?_eq hc hother.1 hclaim hother.2.1
  unreserved e he hreserved := by
    rw [NameMap.mem_entries_iff, hs.get?_claims_of_reserved record hreserved] at he
    cases he
  password := by
    refine ⟨claims_congr (agreeInPublic_erase_password record), fun value => ?_⟩
    exact claims_congr (agreeInPublic_insert_password record value)
  told c hc hpassword value hvalue := by
    have hkey : c.name = s.username.name ↔ c = s.username := by
      constructor
      · exact fun h => hs.eq_of_name_eq hc hs.username_mem h
      · rintro rfl
        rfl
    have hpublic : s.IsPublic c ↔
        c.hidden = false ∨ c.jwtClaim.isSome ∨ c = s.username ∨ c.name = roleColumn := by
      rw [IsPublic, hkey, and_iff_right hpassword]
    rw [← hpublic, ← isSome_claim?_iff, Option.isSome_iff_exists]
    refine exists_congr fun claim => and_iff_left_of_imp fun hclaim => ?_
    rw [NameMap.mem_entries_iff, hs.get?_claims_of_claim? record hc hclaim, hvalue]

end Valid

end Schema

/-! ## Members of a token -/

theorem Json.length_valuesOf (name : String) (members : List (String × Json)) :
    (valuesOf name members).length = (members.map (·.1)).count name := by
  rw [valuesOf, List.length_map, List.count, List.countP_map, List.countP_eq_length_filter]
  rfl

/-- No member is written twice for proper claims. -/
theorem AccessClaims.nodup_names_members {c : AccessClaims} (hc : c.Proper) :
    (c.members.map (·.1)).Nodup := by
  refine List.nodup_iff_count_le_one.2 fun name => ?_
  rw [← Json.length_valuesOf]
  exact length_valuesOf_members hc name

/-- The object that is written for members has them under the codes of their names. -/
theorem Json.nodup_names_ofMembers {members : List (String × Json)}
    (h : (members.map (·.1)).Nodup) :
    ((members.map fun m => (Text.utf8 m.1, m.2)).map (·.1)).Nodup := by
  have hnames : (members.map fun m => (Text.utf8 m.1, m.2)).map (·.1) =
      (members.map (·.1)).map Text.utf8 := by
    rw [List.map_map, List.map_map]
    rfl
  rw [hnames]
  exact h.map fun _ _ => Text.utf8_injective

namespace Engine

open Time

/-- A token that is issued at an instant says an object without repeated members, and
the fields are read from it, with and without a check, as long as it lives. -/
structure Holds (e : Engine) (now : Instant) (token : String) (fields : Fields) : Prop where
  unrepeated : ∃ members, Signed.claims? token = some (.object members) ∧
    (members.map (·.1)).Nodup
  recovered : ∃ c, e.SignedFor token c ∧ c.fields = fields
  read : ∀ t c, e.readAccess t token = .ok c → c.fields = fields
  alive : 0 ≤ now.nanoseconds → ∀ t : Instant,
    t.nanoseconds ≤ (now.later e.tokenLifetime).nanoseconds → ∃ c, e.readAccess t token = .ok c

variable {e : Engine} {now : Instant}

/-- What is read from a token is what it is signed for. -/
theorem SignedFor.eq_of_readAccess {t : Instant} {token : String} {c d : AccessClaims}
    (h : e.SignedFor token c) (hread : e.readAccess t token = .ok d) : d = c := by
  obtain ⟨signed, hsigned⟩ := signedAccess_of_readAccess (.inr ⟨d, hread⟩)
  have hsays := (says_of_signedAccess hsigned).read t
  rw [hread] at hsays
  split at hsays
  · cases hsays
  · cases hsays
    exact h.eq_of_signedAccess hsigned

/-- A token that is issued is read as long as it lives. -/
theorem readAccess_issued (he : e.Checked) (hnow : 0 ≤ now.nanoseconds)
    (hrep : (now.later e.tokenLifetime).representable = true) {record : Fields}
    (hproper : (e.issuedClaims now record).Proper) {t : Instant}
    (ht : t.nanoseconds ≤ (now.later e.tokenLifetime).nanoseconds) :
    e.readAccess t (e.writeAccess (e.issuedClaims now record)) =
      .ok (e.issuedClaims now record) := by
  have hend := Instant.lt_calendarEnd hrep
  have hexpiry : (e.issuedClaims now record).expiry.toInt =
      (now.later e.tokenLifetime).seconds := Instant.toInt_ofInt_seconds hrep
  rw [(says_of_signedAccess (signedAccess_of_expiry he hnow hend hproper rfl)).read t, hexpiry,
    if_neg (Int.not_lt.2 (Instant.seconds_mono ht))]

/-- A token that is issued holds the claims of its record. -/
theorem holds_of_issueAccess (he : e.Checked) (hs : e.schema.Valid) {record : Fields}
    {token : String} (h : e.issueAccess now (.ok record) = .ok token) :
    e.Holds now token (e.schema.claims record) := by
  obtain ⟨found, hfound, rfl, hrep⟩ := of_issueAccess h
  cases hfound
  have hproper : (e.issuedClaims now record).Proper := hs.proper_of_fields rfl
  have hsigned : e.SignedFor _ (e.issuedClaims now record) := signedFor_writeAccess hproper
  have hclaims : Signed.claims? (e.writeAccess (e.issuedClaims now record)) =
      some (e.issuedClaims now record).toJson :=
    Signed.claims?_write _ (AccessClaims.wellFormed_toJson _)
  exact {
    unrepeated :=
      ⟨_, hclaims, Json.nodup_names_ofMembers (AccessClaims.nodup_names_members hproper)⟩
    recovered := ⟨_, hsigned, rfl⟩
    read := fun t c hread => by
      rw [hsigned.eq_of_readAccess hread]
      rfl
    alive := fun hnow t ht => ⟨_, readAccess_issued he hnow hrep hproper ht⟩ }

end Engine

/-- The claims of a record say what it holds in the columns that go into tokens, each
once and under its own name, and nothing else, and that is what is read from every token
that is issued for the record. -/
theorem Schema.claims_faithful {table : TableDescription} {s : Schema}
    (hs : Schema.ofDescription table = .ok s) (record : Fields) :
    s.Conveys record (s.claims record) ∧
      ∀ settings e, Engine.ofSettings settings = .ok e → e.schema = s →
        ∀ now token, e.issueAccess now (.ok record) = .ok token →
          e.Holds now token (s.claims record) := by
  have hvalid := valid_of_ofDescription hs
  refine ⟨hvalid.conveys_claims record, fun settings e he hschema now token htoken => ?_⟩
  subst hschema
  exact Engine.holds_of_issueAccess (Engine.of_ofSettings he).1 hvalid htoken

/-- What is stored about Ada. -/
def adaStored : Fields :=
  (NameMap.empty.insert "email" "ada@example.org").insert "grade" "guest"
    |>.insert "password" "$argon2id$v=19$m=19456,t=2,p=1$YWRhLWFuZC1zYWx0$aGFzaA"

/-- Of what is stored about Ada her token tells two values, under names that her columns
do not have. -/
theorem Schema.claims_faithful_ada :
    Schema.ofDescription membersTable = .ok members ∧
      Engine.ofSettings Engine.memberSettings = .ok Engine.memberEngine ∧
      ∃ token, Engine.memberEngine.issueAccess (.ofSeconds 60) (.ok adaStored) = .ok token ∧
        ∃ c, Engine.memberEngine.readAccess (.ofSeconds 120) token = .ok c ∧
          c.fields.entries = [("role", "guest"), ("username", "ada@example.org")] := by
  obtain ⟨-, htokens⟩ := claims_faithful ofDescription_membersTable adaStored
  have hchecked := (Engine.of_ofSettings Engine.ofSettings_memberSettings).1
  have hend : ((Time.Instant.ofSeconds 60).later Engine.memberEngine.tokenLifetime).nanoseconds <
      Time.Instant.calendarEnd.nanoseconds := by decide
  have hissue := Engine.accessFor_eq hchecked (by decide) hend adaStored
  have hholds := htokens _ _ Engine.ofSettings_memberSettings rfl _ _ hissue
  obtain ⟨c, hread⟩ := hholds.alive (by decide) (.ofSeconds 120) (by decide)
  refine ⟨ofDescription_membersTable, Engine.ofSettings_memberSettings, _, hissue, c, hread, ?_⟩
  rw [hholds.read _ c hread]
  rfl

end BearerAuth
