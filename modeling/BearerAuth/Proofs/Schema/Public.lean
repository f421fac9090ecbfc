import BearerAuth.Proofs.Schema.Claims
import BearerAuth.Proofs.Store.Record

/-!
# Public columns

Of some columns the values are told to others: in tokens, or when a record is shown.
The password is never told, and neither is a hidden column that no claim is named for,
unless it is the key or the role. This module says that records which agree in the
public columns are told alike.

- `Schema.IsPublic`: whether the values of a column are told.
- `Schema.AgreeInPublic`: two records, or values supplied for two users, that differ
  in other columns only.
- `Schema.Prepared.agreeInPublic`: users for whom the same public values were
  supplied have records with the same public values, whatever the salts are.
- `Schema.claims_congr`, `Schema.Valid.shown_congr`: such records make the same claims
  and are shown alike.
-/

namespace BearerAuth

/-- What is stored in a column that is no password does not depend on the salt. -/
theorem Column.stored_congr {c : Column} (h : c.isPassword = false) (salt other : Password.Salt)
    (supplied : Option String) : c.stored salt supplied = c.stored other supplied := by
  unfold Column.stored
  cases supplied.or c.default with
  | none => rfl
  | some value =>
    dsimp only
    rw [if_neg (by simp [h]), if_neg (by simp [h])]

namespace Schema

/-- Whether the values of the column are told to others. -/
def IsPublic (s : Schema) (c : Column) : Prop :=
  c.isPassword = false ∧
    (c.hidden = false ∨ c.jwtClaim.isSome ∨ c.name = s.username.name ∨ c.name = roleColumn)

instance (s : Schema) (c : Column) : Decidable (s.IsPublic c) :=
  inferInstanceAs (Decidable (_ ∧ _))

/-- The fields have the same values in all public columns. -/
def AgreeInPublic (s : Schema) (fields other : Fields) : Prop :=
  ∀ c ∈ s.columns, s.IsPublic c → fields.get? c.name = other.get? c.name

variable {s : Schema}

/-- The columns that go into tokens are the public ones. -/
theorem isSome_claim?_iff (c : Column) : (s.claim? c).isSome ↔ s.IsPublic c := by
  unfold claim? IsPublic
  cases c.isPassword with
  | true => simp
  | false =>
    cases c.jwtClaim with
    | some claim => simp
    | none =>
      cases c.hidden with
      | false => simp
      | true =>
        -- a hidden column without a claim has a name in tokens only as the key or the role
        show (if c.name = s.username.name then some usernameColumn
          else if c.name = roleColumn then some roleColumn else none).isSome = true ↔ _
        by_cases hkey : c.name = s.username.name
        · simp [hkey]
        · rw [if_neg hkey]
          by_cases hrole : c.name = roleColumn
          · simp [hrole]
          · simp [hkey, hrole]

/-- Records that agree in the public columns make the same claims. -/
theorem claims_congr {record other : Fields} (h : s.AgreeInPublic record other) :
    s.claims record = s.claims other := by
  have hpairs : s.claimPairs record = s.claimPairs other := by
    refine List.filterMap_congr fun c hc => ?_
    rw [claimPair?, claimPair?]
    cases hclaim : s.claim? c with
    | none => rfl
    | some claim =>
      have hpublic : s.IsPublic c := (isSome_claim?_iff c).1 (by rw [hclaim, Option.isSome_some])
      rw [h c hc hpublic]
  rw [claims, claims, hpairs]

/-! ## What is shown -/

/-- The names of the columns that are not shown. -/
def hiddenNames (s : Schema) : List String :=
  (s.columns.filter fun c => c.hidden || c.isPassword).map (·.name)

theorem get?_shown_eq (record : Fields) (name : String) :
    (s.shown record).get? name = if name ∈ s.hiddenNames then none else record.get? name := by
  have hshown : s.shown record = s.hiddenNames.foldl NameMap.erase record := by
    rw [shown, hiddenNames, List.foldl_map, List.foldl_filter]
  rw [hshown, NameMap.get?_foldl_erase]

namespace Valid

variable (hs : s.Valid)
include hs

theorem mem_hiddenNames_iff {c : Column} (hc : c ∈ s.columns) :
    c.name ∈ s.hiddenNames ↔ (c.hidden || c.isPassword) = true := by
  constructor
  · intro h
    obtain ⟨x, hx, hname⟩ := List.mem_map.1 h
    obtain ⟨hmem, hsecret⟩ := List.mem_filter.1 hx
    rw [← hs.eq_of_name_eq hmem hc hname]
    exact hsecret
  · intro h
    exact List.mem_map.2 ⟨c, List.mem_filter.2 ⟨hc, h⟩, rfl⟩

/-- Records that agree in the public columns are shown alike, if neither has more than
the columns. -/
theorem shown_congr {record other : Fields} (h : s.AgreeInPublic record other)
    (hrecord : ∀ name, name ∉ s.columns.map (·.name) → record.get? name = none)
    (hother : ∀ name, name ∉ s.columns.map (·.name) → other.get? name = none) :
    s.shown record = s.shown other := by
  refine NameMap.ext_get? fun name => ?_
  rw [get?_shown_eq, get?_shown_eq]
  by_cases hhidden : name ∈ s.hiddenNames
  · rw [if_pos hhidden, if_pos hhidden]
  · rw [if_neg hhidden, if_neg hhidden]
    by_cases hname : name ∈ s.columns.map (·.name)
    · obtain ⟨c, hc, rfl⟩ := List.mem_map.1 hname
      rw [hs.mem_hiddenNames_iff hc, Bool.not_eq_true, Bool.or_eq_false_iff] at hhidden
      exact h c hc ⟨hhidden.2, .inl hhidden.1⟩
    · rw [hrecord name hname, hother name hname]

end Valid

/-! ## Records -/

/-- Users for whom the same public values were supplied have records with the same
public values. -/
theorem Prepared.agreeInPublic {salt salt' : Password.Salt}
    {supplied supplied' record record' : Fields} (h : s.Prepared salt supplied record)
    (h' : s.Prepared salt' supplied' record')
    (hsupplied : s.AgreeInPublic supplied supplied') : s.AgreeInPublic record record' := by
  intro c hc hpublic
  have hstored := h.stored c hc
  rw [hsupplied c hc hpublic, Column.stored_congr hpublic.1 salt salt', h'.stored c hc] at hstored
  exact (Except.ok.inj (Except.ok.inj hstored)).symm

/-- The password is not public. -/
theorem AgreeInPublic.erase_password {record other : Fields} (h : s.AgreeInPublic record other) :
    s.AgreeInPublic (record.erase passwordColumn) (other.erase passwordColumn) := by
  intro c hc hpublic
  rw [get?_erase_password record hpublic.1, get?_erase_password other hpublic.1]
  exact h c hc hpublic

end Schema

end BearerAuth
