import BearerAuth.Proofs.Json.RoundTrip
import BearerAuth.Proofs.NameMap
import BearerAuth.Token.Claims

/-!
# Claims and their written form

- `AccessClaims.Proper`: no claim of the user has the name of a known member.
  Claims that were read are proper (`AccessClaims.proper_of_ofJson?`), and
  proper claims read back from what is written for them
  (`AccessClaims.ofJson?_toJson`).
- `RefreshClaims.ofJson?_toJson`: so do the claims of a refresh token, without a
  condition.
- `RefreshClaims.accessClaims_ofJson?_toJson`: what is written for a refresh
  token holds no claims of an access token.
- `registeredExpiry?_toJson`: what is written is checked for the expiry of the
  claims, if that is not negative; `eq_expiry_of_registeredExpiry?` says of
  whatever is read that there is no other.
-/

namespace BearerAuth

namespace Json

@[simp] theorem text?_ofText (s : String) : (ofText s).text? = some s :=
  Text.ofUtf8?_utf8 s

@[simp] theorem int64?_ofInt64 (n : Int64) : (ofInt64 n).int64? = some n :=
  Number.int64?_ofInt n

theorem wellFormed_ofText (s : String) : (ofText s).WellFormed := trivial

theorem wellFormed_ofInt64 (n : Int64) : (ofInt64 n).WellFormed :=
  Number.wellFormed_ofInt n.toInt

/-! ## Members by name -/

/-- Names that were written are texts. -/
theorem namedMembers?_map (members : List (String × Json)) :
    namedMembers? (members.map fun m => (Text.utf8 m.1, m.2)) = some members := by
  induction members with
  | nil => rfl
  | cons m rest ih =>
    rw [List.map_cons, namedMembers?, Text.ofUtf8?_utf8, ih]
    rfl

/-- An object may be written if the values of its members may. -/
theorem wellFormed_ofMembers {members : List (String × Json)} (h : ∀ m ∈ members, m.2.WellFormed) :
    (ofMembers members).WellFormed := by
  refine wellFormedMembers_iff.2 fun m hm => ?_
  obtain ⟨member, hmember, rfl⟩ := List.mem_map.1 hm
  exact h member hmember

/-- The values of a name in a row of members come in the order of the members. -/
theorem valuesOf_append (name : String) (ms ns : List (String × Json)) :
    valuesOf name (ms ++ ns) = valuesOf name ms ++ valuesOf name ns := by
  simp [valuesOf]

/-- The members for the fields of a map: a name is given to one of them at most. -/
theorem valuesOf_fields (name : String) (m : Fields) :
    valuesOf name (m.entries.map fun e => (e.1, ofText e.2)) =
      ((m.get? name).map ofText).toList := by
  obtain ⟨entries, sorted⟩ := m
  show valuesOf name (entries.map fun e => (e.1, ofText e.2)) =
    ((entries.lookup name).map ofText).toList
  induction entries with
  | nil => rfl
  | cons e rest ih =>
    obtain ⟨hhead, hrest⟩ := List.pairwise_cons.1 sorted
    have ih := ih hrest
    rw [NameMap.lookup_cons_eq]
    unfold valuesOf at ih ⊢
    by_cases h : name = e.1
    · -- all later names are greater
      have hnone : rest.lookup name = none :=
        NameMap.lookup_eq_none.2 fun x hx heq =>
          String.ne_of_lt (hhead x hx) (h ▸ heq).symm
      rw [hnone] at ih
      rw [List.map_cons, List.filter_cons, if_pos (by simpa using h.symm), List.map_cons, ih,
        if_pos h]
      rfl
    · rw [List.map_cons, List.filter_cons, if_neg (by simpa using Ne.symm h), ih, if_neg h]

/-- A reader that passes over a text is not lost in it. -/
theorem skimString_utf8_ne_lost (s : String) : (skimString (Text.utf8 s) != .lost) = true := by
  rw [skimString, Text.ofUtf8?_utf8]
  rfl

theorem skippedAsText_ofText (s : String) : (ofText s).skippedAsText = true :=
  skimString_utf8_ne_lost s

theorem skippedAsNumber_ofText (s : String) : (ofText s).skippedAsNumber = true :=
  skimString_utf8_ne_lost s

theorem skippedAsData_ofText (s : String) : (ofText s).skippedAsData = true :=
  skimString_utf8_ne_lost s

end Json

namespace AccessClaims

/-- No claim of the user has the name of a known member. -/
def Proper (c : AccessClaims) : Prop :=
  ∀ name ∈ known, c.fields.get? name = none

/-- Claims may be written. -/
theorem wellFormed_toJson (c : AccessClaims) : c.toJson.WellFormed := by
  refine Json.wellFormed_ofMembers fun m hm => ?_
  rcases List.mem_append.1 hm with hm | hm
  · rcases List.mem_append.1 hm with hm | hm
    · simp only [List.mem_cons, List.not_mem_nil, or_false] at hm
      rcases hm with rfl | rfl
      · exact Json.wellFormed_ofText c.issuer
      · exact Json.wellFormed_ofInt64 c.expiry
    · cases hstamp : c.refreshedAt with
      | none => simp [hstamp] at hm
      | some n =>
        rw [hstamp] at hm
        obtain rfl := List.mem_singleton.1 hm
        exact Json.wellFormed_ofInt64 n
  · obtain ⟨e, -, rfl⟩ := List.mem_map.1 hm
    exact Json.wellFormed_ofText e.2

/-! ## Reading what was written -/

section

variable {c : AccessClaims} (hc : c.Proper)
include hc

theorem valuesOf_issuer : Json.valuesOf "iss" c.members = [.ofText c.issuer] := by
  have hfresh : c.fields.get? "iss" = none := hc _ (by decide)
  rw [members, Json.valuesOf_append, Json.valuesOf_append, Json.valuesOf_fields, hfresh]
  cases c.refreshedAt <;> simp [Json.valuesOf]

theorem valuesOf_expiry : Json.valuesOf "exp" c.members = [.ofInt64 c.expiry] := by
  have hfresh : c.fields.get? "exp" = none := hc _ (by decide)
  rw [members, Json.valuesOf_append, Json.valuesOf_append, Json.valuesOf_fields, hfresh]
  cases c.refreshedAt <;> simp [Json.valuesOf]

/-- The time of the last renewal is there once, if there was one. -/
theorem valuesOf_refreshedAt :
    Json.valuesOf "refreshed_at" c.members = (c.refreshedAt.map Json.ofInt64).toList := by
  have hfresh : c.fields.get? "refreshed_at" = none := hc _ (by decide)
  rw [members, Json.valuesOf_append, Json.valuesOf_append, Json.valuesOf_fields, hfresh]
  cases c.refreshedAt <;> simp [Json.valuesOf]

end

/-- What stands under a name that is not known are texts of the user, one at
most. -/
theorem valuesOf_field (c : AccessClaims) {name : String} (h : name ∉ known) :
    Json.valuesOf name c.members = ((c.fields.get? name).map Json.ofText).toList := by
  simp only [known, List.mem_cons, List.not_mem_nil, or_false, not_or] at h
  obtain ⟨hissuer, hexpiry, hstamp⟩ := h
  rw [members, Json.valuesOf_append, Json.valuesOf_append, Json.valuesOf_fields]
  cases c.refreshedAt <;> simp [Json.valuesOf, Ne.symm hissuer, Ne.symm hexpiry, Ne.symm hstamp]

/-- Every name is given to one member at most. -/
theorem length_valuesOf_members {c : AccessClaims} (hc : c.Proper) (name : String) :
    (Json.valuesOf name c.members).length ≤ 1 := by
  by_cases h : name ∈ known
  · simp only [known, List.mem_cons, List.not_mem_nil, or_false] at h
    rcases h with rfl | rfl | rfl
    · rw [valuesOf_issuer hc]
      exact Nat.le_refl _
    · rw [valuesOf_expiry hc]
      exact Nat.le_refl _
    · rw [valuesOf_refreshedAt hc]
      cases c.refreshedAt <;> simp
  · -- the claims of the user come from a map
    rw [valuesOf_field c h]
    cases c.fields.get? name <;> simp

/-- No name is repeated among the members. -/
theorem unrepeated_members {c : AccessClaims} (hc : c.Proper) (names : List String) :
    Json.unrepeated names c.members = true :=
  List.all_eq_true.2 fun name _ => decide_eq_true (length_valuesOf_members hc name)

/-- Members with known names are not fields. -/
theorem fieldPairs?_append_of_known {head rest : List (String × Json)}
    (h : ∀ m ∈ head, m.1 ∈ known) : fieldPairs? (head ++ rest) = fieldPairs? rest := by
  induction head with
  | nil => rfl
  | cons m head ih =>
    rw [List.cons_append, fieldPairs?, if_pos (h m List.mem_cons_self)]
    exact ih fun x hx => h x (List.mem_cons_of_mem _ hx)

/-- Texts with other names are fields, in order. -/
theorem fieldPairs?_texts {pairs : List (String × String)} (h : ∀ e ∈ pairs, e.1 ∉ known) :
    fieldPairs? (pairs.map fun e => (e.1, .ofText e.2)) = some pairs := by
  induction pairs with
  | nil => rfl
  | cons e rest ih =>
    have hrest := ih fun x hx => h x (List.mem_cons_of_mem _ hx)
    rw [List.map_cons, fieldPairs?, if_neg (h e List.mem_cons_self), Json.text?_ofText, hrest]
    rfl

theorem Proper.notMem_known {c : AccessClaims} (hc : c.Proper) :
    ∀ e ∈ c.fields.entries, e.1 ∉ known := fun e he hknown =>
  NameMap.lookup_eq_none.1 (hc _ hknown) e he rfl

/-- The fields among the members are those of the claims. -/
theorem fieldPairs?_members {c : AccessClaims} (hc : c.Proper) :
    fieldPairs? c.members = some c.fields.entries := by
  rw [members, fieldPairs?_append_of_known, fieldPairs?_texts hc.notMem_known]
  intro m hm
  rcases List.mem_append.1 hm with hm | hm
  · simp only [List.mem_cons, List.not_mem_nil, or_false] at hm
    rcases hm with rfl | rfl <;> simp [known]
  · cases hstamp : c.refreshedAt with
    | none => simp [hstamp] at hm
    | some n =>
      rw [hstamp] at hm
      obtain rfl := List.mem_singleton.1 hm
      simp [known]

theorem ofJson?_object (members : List (List UInt8 × Json)) :
    ofJson? (.object members) = (Json.namedMembers? members).bind ofNamed? := rfl

/-- Proper claims read back. -/
theorem ofJson?_toJson {c : AccessClaims} (hc : c.Proper) : ofJson? c.toJson = some c := by
  have hissuer : Json.required? Json.text? (Json.valuesOf "iss" c.members) = some c.issuer := by
    rw [valuesOf_issuer hc]
    exact Json.text?_ofText _
  have hexpiry : Json.required? Json.int64? (Json.valuesOf "exp" c.members) = some c.expiry := by
    rw [valuesOf_expiry hc]
    exact Json.int64?_ofInt64 _
  have hstamp : Json.optional? Json.int64? (Json.valuesOf "refreshed_at" c.members) =
      some c.refreshedAt := by
    rw [valuesOf_refreshedAt hc]
    cases c.refreshedAt with
    | none => rfl
    | some n => exact congrArg (Option.map some) (Json.int64?_ofInt64 n)
  rw [toJson, Json.ofMembers, ofJson?_object, Json.namedMembers?_map, Option.bind_some, ofNamed?,
    unrepeated_members hc, hissuer, hexpiry, hstamp, fieldPairs?_members hc]
  show some { c with fields := NameMap.ofList c.fields.entries } = _
  rw [NameMap.ofList_entries]

/-! ## What was read -/

/-- No field has a known name. -/
theorem notMem_known_of_fieldPairs? {named : List (String × Json)} {pairs : List (String × String)}
    (h : fieldPairs? named = some pairs) : ∀ e ∈ pairs, e.1 ∉ known := by
  induction named generalizing pairs with
  | nil =>
    obtain rfl := Option.some.inj h
    exact fun _ he => absurd he List.not_mem_nil
  | cons m rest ih =>
    rw [fieldPairs?] at h
    split at h
    · exact ih h
    · next hnew =>
      obtain ⟨text, -, h⟩ := Option.bind_eq_some_iff.1 h
      obtain ⟨more, hmore, h⟩ := Option.bind_eq_some_iff.1 h
      obtain rfl := Option.some.inj h
      intro e he
      rcases List.mem_cons.1 he with rfl | he
      · exact hnew
      · exact ih hmore e he

/-- What reading goes through, step by step. -/
theorem of_ofNamed? {named : List (String × Json)} {c : AccessClaims}
    (h : ofNamed? named = some c) :
    Json.required? Json.int64? (Json.valuesOf "exp" named) = some c.expiry ∧
      ∃ pairs, fieldPairs? named = some pairs ∧ c.fields = .ofList pairs := by
  unfold ofNamed? at h
  split at h
  · cases h
  · obtain ⟨issuer, -, h⟩ := Option.bind_eq_some_iff.1 h
    obtain ⟨expiry, hexpiry, h⟩ := Option.bind_eq_some_iff.1 h
    obtain ⟨stamp, -, h⟩ := Option.bind_eq_some_iff.1 h
    obtain ⟨pairs, hpairs, h⟩ := Option.bind_eq_some_iff.1 h
    obtain rfl := Option.some.inj h
    exact ⟨hexpiry, pairs, hpairs, rfl⟩

/-- Claims are read from an object whose names are texts. -/
theorem of_ofJson? {j : Json} {c : AccessClaims} (h : ofJson? j = some c) :
    ∃ members named, j = .object members ∧ Json.namedMembers? members = some named ∧
      ofNamed? named = some c := by
  cases j with
  | object members =>
    obtain ⟨named, hnamed, h⟩ := Option.bind_eq_some_iff.1 h
    exact ⟨members, named, rfl, hnamed, h⟩
  | _ => cases h

/-- Claims that were read are proper. -/
theorem proper_of_ofJson? {j : Json} {c : AccessClaims} (h : ofJson? j = some c) : c.Proper := by
  obtain ⟨members, named, -, -, h⟩ := of_ofJson? h
  obtain ⟨-, pairs, hpairs, hfields⟩ := of_ofNamed? h
  intro name hname
  refine NameMap.lookup_eq_none.2 fun e he heq => ?_
  -- an entry of the map was a member with its name, and known names were passed over
  rw [hfields] at he
  exact notMem_known_of_fieldPairs? hpairs e (NameMap.mem_entries_ofList he) (heq ▸ hname)

end AccessClaims

/-! ## The expiry of every token -/

namespace Json

/-- An integer of sixty-four bits is the integer that its number is written as. -/
theorem toInt_of_int64? {n : Number} {i : Int64} (h : n.int64? = some i) :
    n.integer? = some i.toInt := by
  unfold Number.int64? at h
  split at h
  · next m hm =>
    split at h
    · next hholds =>
      obtain rfl := Option.some.inj h
      obtain ⟨hlow, hhigh⟩ := Text.Range.holds_iff.1 hholds
      rw [hm, Int64.toInt_ofInt_of_le hlow (Int.lt_add_one_of_le hhigh)]
    · cases h
  · cases h

/-- What a reader of the expiry finds is what every token is checked for, if it
is not negative. -/
theorem of_registeredExpiry? {members : List (List UInt8 × Json)} {named : List (String × Json)}
    {i : Int64} {found : Option Int} (hnamed : namedMembers? members = some named)
    (hexpiry : required? int64? (valuesOf "exp" named) = some i)
    (h : (object members).registeredExpiry? = some found) :
    found = if 0 ≤ i.toInt then some i.toInt else none := by
  unfold registeredExpiry? at h
  obtain ⟨named', hnamed', h⟩ := Option.bind_eq_some_iff.1 h
  obtain rfl := Option.some.inj (hnamed.symm.trans hnamed')
  split at h
  · cases hvalues : valuesOf "exp" named with
    | nil =>
      rw [hvalues] at hexpiry
      cases hexpiry
    | cons j rest =>
      rw [hvalues] at hexpiry h
      cases j with
      | number n =>
        obtain rfl := Option.some.inj h
        rw [toInt_of_int64? hexpiry, Option.filter_some]
        by_cases hsign : 0 ≤ i.toInt
        · rw [if_pos hsign, if_pos (decide_eq_true hsign)]
        · rw [if_neg hsign, if_neg (by simpa using hsign)]
      | _ => cases hexpiry
  · cases h

/-- Members whose registered names are not repeated and hold texts where no
number is wanted are checked for an expiry. -/
theorem isSome_registeredExpiry? {named : List (String × Json)}
    (hunrepeated : unrepeated registered named = true)
    (hnumber : ∀ j ∈ valuesOf "nbf" named, j.skippedAsNumber = true)
    (htext : ∀ j ∈ valuesOf "sub" named, j.skippedAsText = true)
    (hissuer : ∀ j ∈ valuesOf "iss" named, j.skippedAsData = true)
    (haudience : ∀ j ∈ valuesOf "aud" named, j.skippedAsData = true) :
    ∃ found, (ofMembers named).registeredExpiry? = some found := by
  show ∃ found, (namedMembers? _).bind _ = some found
  rw [namedMembers?_map, Option.bind_some, hunrepeated, List.all_eq_true.2 hnumber,
    List.all_eq_true.2 htext, List.all_eq_true.2 hissuer, List.all_eq_true.2 haudience]
  simp only [Bool.and_self, if_true]
  split
  · exact ⟨_, rfl⟩
  · exact ⟨_, rfl⟩

end Json

namespace AccessClaims

/-- The expiry for which a token is checked is that of its claims. -/
theorem eq_expiry_of_registeredExpiry? {j : Json} {c : AccessClaims} {x : Int}
    (h : ofJson? j = some c) (hx : j.registeredExpiry? = some (some x)) : x = c.expiry.toInt := by
  obtain ⟨members, named, rfl, hnamed, h⟩ := of_ofJson? h
  have hfound := Json.of_registeredExpiry? hnamed (of_ofNamed? h).1 hx
  split at hfound
  · exact Option.some.inj hfound
  · cases hfound

/-- What is written for claims is checked for their expiry, unless that is
negative. -/
theorem registeredExpiry?_toJson {c : AccessClaims} (hc : c.Proper) :
    c.toJson.registeredExpiry? =
      some (if 0 ≤ c.expiry.toInt then some c.expiry.toInt else none) := by
  -- all registered names but the expiry have texts, the issuer's or the user's
  have htexts : ∀ name ∉ known, ∀ j ∈ Json.valuesOf name c.members, ∃ s, j = .ofText s := by
    intro name hname j hj
    rw [valuesOf_field c hname, Option.mem_toList] at hj
    obtain ⟨s, -, rfl⟩ := Option.map_eq_some_iff.1 hj
    exact ⟨s, rfl⟩
  obtain ⟨found, hfound⟩ : ∃ found, (Json.ofMembers c.members).registeredExpiry? = some found := by
    refine Json.isSome_registeredExpiry? (unrepeated_members hc _) ?_ ?_ ?_ ?_
    · intro j hj
      obtain ⟨s, rfl⟩ := htexts _ (by decide) j hj
      exact Json.skippedAsNumber_ofText s
    · intro j hj
      obtain ⟨s, rfl⟩ := htexts _ (by decide) j hj
      exact Json.skippedAsText_ofText s
    · intro j hj
      rw [valuesOf_issuer hc] at hj
      obtain rfl := List.mem_singleton.1 hj
      exact Json.skippedAsData_ofText c.issuer
    · intro j hj
      obtain ⟨s, rfl⟩ := htexts _ (by decide) j hj
      exact Json.skippedAsData_ofText s
  have hexpiry : Json.required? Json.int64? (Json.valuesOf "exp" c.members) = some c.expiry := by
    rw [valuesOf_expiry hc]
    exact Json.int64?_ofInt64 _
  rw [toJson, hfound, Json.of_registeredExpiry? (Json.namedMembers?_map _) hexpiry hfound]

end AccessClaims

/-! ## Refresh tokens -/

namespace RefreshClaims

theorem wellFormed_toJson (c : RefreshClaims) : c.toJson.WellFormed := by
  refine Json.wellFormed_ofMembers fun m hm => ?_
  rcases List.mem_append.1 hm with hm | hm
  · cases hname : c.username with
    | none => simp [hname] at hm
    | some name =>
      rw [hname] at hm
      obtain rfl := List.mem_singleton.1 hm
      exact Json.wellFormed_ofText name
  · simp only [List.mem_cons, List.not_mem_nil, or_false] at hm
    rcases hm with rfl | rfl | rfl | rfl | rfl
    · exact Json.wellFormed_ofText c.address
    · exact Json.wellFormed_ofInt64 c.issuedAt
    · exact Json.wellFormed_ofInt64 c.expiry
    · exact Json.wellFormed_ofInt64 c.absoluteExpiry
    · trivial

theorem ofJson?_object (members : List (List UInt8 × Json)) :
    ofJson? (.object members) = (Json.namedMembers? members).bind ofNamed? := rfl

/-- Each member is written once. -/
theorem ofNamed?_members (c : RefreshClaims) : ofNamed? c.members = some c := by
  obtain ⟨username, address, issuedAt, expiry, absoluteExpiry, valid⟩ := c
  cases username with
  | none =>
    simp [ofNamed?, members, Json.unrepeated, Json.valuesOf, known, Json.optional?, Json.orElse?,
      Json.required?, Json.bool?]
  | some name =>
    have hnull : (Json.ofText name).isNull = false := rfl
    simp [ofNamed?, members, Json.unrepeated, Json.valuesOf, known, Json.optional?, Json.orElse?,
      Json.required?, Json.bool?, hnull]

/-- The claims of a refresh token read back. -/
theorem ofJson?_toJson (c : RefreshClaims) : ofJson? c.toJson = some c := by
  rw [toJson, Json.ofMembers, ofJson?_object, Json.namedMembers?_map]
  exact ofNamed?_members c

/-- The expiry is the one that the members have. -/
theorem expiry_of_ofNamed? {named : List (String × Json)} {c : RefreshClaims}
    (h : ofNamed? named = some c) :
    Json.required? Json.int64? (Json.valuesOf "exp" named) = some c.expiry := by
  unfold ofNamed? at h
  split at h
  · cases h
  · obtain ⟨username, -, h⟩ := Option.bind_eq_some_iff.1 h
    obtain ⟨address, -, h⟩ := Option.bind_eq_some_iff.1 h
    obtain ⟨issuedAt, -, h⟩ := Option.bind_eq_some_iff.1 h
    obtain ⟨expiry, hexpiry, h⟩ := Option.bind_eq_some_iff.1 h
    obtain ⟨absoluteExpiry, -, h⟩ := Option.bind_eq_some_iff.1 h
    obtain ⟨valid, -, h⟩ := Option.bind_eq_some_iff.1 h
    obtain rfl := Option.some.inj h
    exact hexpiry

/-- The expiry for which a token is checked is that of its claims. An array is
checked for none. -/
theorem eq_expiry_of_registeredExpiry? {j : Json} {c : RefreshClaims} {x : Int}
    (h : ofJson? j = some c) (hx : j.registeredExpiry? = some (some x)) : x = c.expiry.toInt := by
  cases j with
  | object members =>
    obtain ⟨named, hnamed, h⟩ := Option.bind_eq_some_iff.1 h
    have hfound := Json.of_registeredExpiry? hnamed (expiry_of_ofNamed? h) hx
    split at hfound
    · exact Option.some.inj hfound
    · cases hfound
  | array items =>
    -- an array may hold claims, but no expiry that every token is checked for
    rw [Json.registeredExpiry?] at hx
    split at hx <;> cases hx
  | _ => cases h

/-- What is written for claims is checked for their expiry, unless that is
negative. -/
theorem registeredExpiry?_toJson (c : RefreshClaims) :
    c.toJson.registeredExpiry? =
      some (if 0 ≤ c.expiry.toInt then some c.expiry.toInt else none) := by
  obtain ⟨found, hfound⟩ : ∃ found, (Json.ofMembers c.members).registeredExpiry? = some found := by
    apply Json.isSome_registeredExpiry?
    all_goals
      obtain ⟨username, address, issuedAt, expiry, absoluteExpiry, valid⟩ := c
      cases username <;> simp [members, Json.unrepeated, Json.valuesOf, Json.registered]
  have hexpiry := expiry_of_ofNamed? (ofNamed?_members c)
  rw [toJson, hfound, Json.of_registeredExpiry? (Json.namedMembers?_map _) hexpiry hfound]

/-- A refresh token names no issuer, so no access token has its claims. -/
theorem accessClaims_ofJson?_toJson (c : RefreshClaims) : AccessClaims.ofJson? c.toJson = none := by
  have hissuer : Json.valuesOf "iss" c.members = [] := by
    unfold members
    cases c.username <;> simp [Json.valuesOf]
  rw [toJson, Json.ofMembers, AccessClaims.ofJson?_object, Json.namedMembers?_map]
  show AccessClaims.ofNamed? c.members = none
  unfold AccessClaims.ofNamed?
  rw [hissuer]
  split <;> rfl

end RefreshClaims

end BearerAuth
