import BearerAuth.Proofs.Token.Engine

/-!
# Whom a record makes claims for

The claims of a record are written under the names that the schema gives them
and read under the names that the engine looks for. This module says that the
two agree, whatever the names are.

- `Schema.supplier?`: the column that a claim comes from.
- `Schema.Valid.get?_claims`: a claim holds what the record holds in that
  column, and nothing else.
- `Schema.usernameOf`, `Schema.roleOf`: the user and the role that a record
  stands for.
- `Schema.Valid.identity_of_fields`: the claims of a record identify the user
  and the role of the record.
-/

namespace BearerAuth.Schema

/-- The column that a claim comes from. -/
def supplier? (s : Schema) (claim : String) : Option Column :=
  s.columns.find? fun c => s.claim? c = some claim

theorem claim?_of_isPassword {s : Schema} {c : Column} (h : c.isPassword = true) :
    s.claim? c = none := by
  rw [claim?, if_pos h]

theorem claim?_of_supplier? {s : Schema} {claim : String} {c : Column}
    (h : s.supplier? claim = some c) : s.claim? c = some claim := by
  simpa using List.find?_some h

/-- No password is conveyed. -/
theorem isPassword_of_claim? {s : Schema} {c : Column} {claim : String}
    (h : s.claim? c = some claim) : c.isPassword = false := by
  cases hpassword : c.isPassword with
  | false => rfl
  | true =>
    rw [claim?_of_isPassword hpassword] at h
    cases h

/-! ## Claims as a map -/

/-- A column adds the pair of its claim and its value where it has both. -/
theorem filterMap_claimPair?_cons (s : Schema) (record : Fields) (c : Column)
    (rest : List Column) :
    (c :: rest).filterMap (s.claimPair? record) =
      match s.claim? c, record.get? c.name with
      | some claim, some value => (claim, value) :: rest.filterMap (s.claimPair? record)
      | _, _ => rest.filterMap (s.claimPair? record) := by
  rw [List.filterMap_cons, claimPair?]
  cases s.claim? c with
  | none => rfl
  | some claim => cases record.get? c.name <;> rfl

/-- Only columns with a value make a pair. -/
theorem names_claimPair?_sublist (s : Schema) (record : Fields) (columns : List Column) :
    ((columns.filterMap (s.claimPair? record)).map (·.1)).Sublist (columns.filterMap s.claim?) := by
  induction columns with
  | nil => exact .slnil
  | cons c rest ih =>
    rw [filterMap_claimPair?_cons]
    cases hclaim : s.claim? c with
    | none =>
      rw [List.filterMap_cons_none hclaim]
      exact ih
    | some claim =>
      rw [List.filterMap_cons_some hclaim]
      cases record.get? c.name with
      | none => exact ih.cons _
      | some value => exact ih.cons_cons _

/-- A claim is found with the value of the column that it comes from, if no
other column has it. -/
theorem lookup_claimPair? {s : Schema} (record : Fields) {columns : List Column}
    (h : (columns.filterMap s.claim?).Nodup) (claim : String) :
    (columns.filterMap (s.claimPair? record)).lookup claim =
      (columns.find? fun c => s.claim? c = some claim).bind fun c => record.get? c.name := by
  induction columns with
  | nil => rfl
  | cons c rest ih =>
    rw [filterMap_claimPair?_cons]
    cases hclaim : s.claim? c with
    | none =>
      rw [List.filterMap_cons_none hclaim] at h
      rw [List.find?_cons_of_neg (by simp [hclaim])]
      exact ih h
    | some other =>
      rw [List.filterMap_cons_some hclaim] at h
      obtain ⟨hfresh, hnodup⟩ := List.nodup_cons.1 h
      by_cases hname : other = claim
      · subst hname
        rw [List.find?_cons_of_pos (by simp [hclaim]), Option.bind_some]
        cases hvalue : record.get? c.name with
        | some value =>
          show List.lookup other ((other, value) :: _) = _
          rw [NameMap.lookup_cons_eq, if_pos rfl]
        | none =>
          -- no later column has the claim, so that it stays without a value
          show (rest.filterMap (s.claimPair? record)).lookup other = none
          refine NameMap.lookup_eq_none.2 fun e he heq => hfresh ?_
          exact (names_claimPair?_sublist s record rest).subset (List.mem_map.2 ⟨e, he, heq⟩)
      · rw [List.find?_cons_of_neg (by simp [hclaim, hname]), ← ih hnodup]
        cases record.get? c.name with
        | none => rfl
        | some value =>
          show List.lookup claim ((other, value) :: _) = _
          rw [NameMap.lookup_cons_eq, if_neg (Ne.symm hname)]

/-- No two columns have one claim, so that the first with a claim is the only
one. -/
theorem find?_claim? {s : Schema} {columns : List Column} (h : (columns.filterMap s.claim?).Nodup)
    {c : Column} (hc : c ∈ columns) {claim : String} (hclaim : s.claim? c = some claim) :
    (columns.find? fun c => s.claim? c = some claim) = some c := by
  induction columns with
  | nil => cases hc
  | cons x rest ih =>
    rcases List.mem_cons.1 hc with rfl | hc
    · exact List.find?_cons_of_pos (decide_eq_true hclaim)
    · have hx : s.claim? x ≠ some claim := by
        intro hx
        rw [List.filterMap_cons_some hx] at h
        exact (List.nodup_cons.1 h).1 (List.mem_filterMap.2 ⟨c, hc, hclaim⟩)
      have hrest : (rest.filterMap s.claim?).Nodup :=
        h.sublist ((List.sublist_cons_self x rest).filterMap s.claim?)
      rw [List.find?_cons_of_neg (by simpa using hx)]
      exact ih hrest hc

namespace Valid

variable {s : Schema} (hs : s.Valid)
include hs

/-- A claim of a record holds what the record holds in the column that the claim
comes from. -/
theorem get?_claims (record : Fields) (claim : String) :
    (s.claims record).get? claim =
      (s.supplier? claim).bind fun c => record.get? c.name := by
  have hnodup := hs.claims_nodup.sublist (names_claimPair?_sublist s record s.columns)
  exact (NameMap.get?_ofList hnodup claim).trans (lookup_claimPair? record hs.claims_nodup claim)

/-- A claim is supplied by the column that conveys it, and by no other. -/
theorem supplier?_of_claim? {c : Column} (hc : c ∈ s.columns) {claim : String}
    (h : s.claim? c = some claim) : s.supplier? claim = some c :=
  find?_claim? hs.claims_nodup hc h

/-- No claim of a record belongs to the tokens. -/
theorem get?_claims_of_reserved (record : Fields) {claim : String} (h : claim ∈ reservedClaims) :
    (s.claims record).get? claim = none := by
  have hnone : s.supplier? claim = none := by
    cases hsupplier : s.supplier? claim with
    | none => rfl
    | some c =>
      have hmem : claim ∈ s.columns.filterMap s.claim? :=
        List.mem_filterMap.2 ⟨c, List.mem_of_find?_eq_some hsupplier, claim?_of_supplier? hsupplier⟩
      exact absurd h (hs.unreserved claim hmem)
  rw [hs.get?_claims, hnone, Option.bind_none]

end Valid

/-! ## The user and the role of a record -/

/-- The column that names the user in a token. A password does not go into a
token: if it is the key of the table, another column may go under the claim for
the user. -/
def usernameSource? (s : Schema) : Option Column :=
  if s.username.isPassword then s.supplier? usernameColumn else some s.username

/-- The column that gives the role in a token: the one called `role`, or without
it the one with the claim `role`. -/
def roleSource? (s : Schema) : Option Column :=
  (s.column? roleColumn).or (s.supplier? defaultRoleClaim)

/-- The name of the user that a record stands for. -/
def usernameOf (s : Schema) (record : Fields) : Option String :=
  s.usernameSource?.bind fun c => record.get? c.name

/-- The role of the user that a record stands for. -/
def roleOf (s : Schema) (record : Fields) : Option String :=
  s.roleSource?.bind fun c => record.get? c.name

/-- The key of a table goes into tokens under some name, unless it is the
password. -/
theorem exists_claim?_username {s : Schema} (h : s.username.isPassword = false) :
    ∃ claim, s.claim? s.username = some claim := by
  unfold claim?
  rw [if_neg (by simp [h])]
  cases s.username.jwtClaim with
  | some claim => exact ⟨claim, rfl⟩
  | none =>
    dsimp only
    by_cases hhidden : (!s.username.hidden) = true
    · exact ⟨_, if_pos hhidden⟩
    · rw [if_neg hhidden]
      exact ⟨_, if_pos rfl⟩

/-- The column called `role` goes into tokens under some name. -/
theorem exists_claim?_role {s : Schema} {c : Column} (h : c.name = roleColumn) :
    ∃ claim, s.claim? c = some claim := by
  have hpassword : ¬c.isPassword = true := by
    rw [Column.isPassword, h]
    decide
  unfold claim?
  rw [if_neg hpassword]
  cases c.jwtClaim with
  | some claim => exact ⟨claim, rfl⟩
  | none =>
    dsimp only
    by_cases hhidden : (!c.hidden) = true
    · exact ⟨_, if_pos hhidden⟩
    · rw [if_neg hhidden]
      by_cases hkey : c.name = s.username.name
      · exact ⟨_, if_pos hkey⟩
      · rw [if_neg hkey]
        exact ⟨_, if_pos h⟩

/-- The password names no user. -/
theorem isPassword_of_usernameSource? {s : Schema} {c : Column} (h : s.usernameSource? = some c) :
    c.isPassword = false := by
  unfold usernameSource? at h
  split at h
  · exact isPassword_of_claim? (claim?_of_supplier? h)
  · next hpassword =>
    cases h
    exact Bool.eq_false_iff.2 hpassword

/-- The password gives no role. -/
theorem isPassword_of_roleSource? {s : Schema} {c : Column} (h : s.roleSource? = some c) :
    c.isPassword = false := by
  rcases Option.or_eq_some_iff.1 h with h | ⟨-, h⟩
  · obtain ⟨claim, hclaim⟩ := exists_claim?_role (s := s) (of_column? h).2
    exact isPassword_of_claim? hclaim
  · exact isPassword_of_claim? (claim?_of_supplier? h)

theorem get?_erase_password (record : Fields) {c : Column} (h : c.isPassword = false) :
    (record.erase passwordColumn).get? c.name = record.get? c.name :=
  NameMap.get?_erase_of_ne record (by simpa [Column.isPassword] using h)

/-- Without its password a record stands for the same user. -/
theorem usernameOf_erase (s : Schema) (record : Fields) :
    s.usernameOf (record.erase passwordColumn) = s.usernameOf record :=
  Option.bind_congr fun _ hc => get?_erase_password record (isPassword_of_usernameSource? hc)

/-- Without its password a record gives the same role. -/
theorem roleOf_erase (s : Schema) (record : Fields) :
    s.roleOf (record.erase passwordColumn) = s.roleOf record :=
  Option.bind_congr fun _ hc => get?_erase_password record (isPassword_of_roleSource? hc)

namespace Valid

variable {s : Schema} (hs : s.Valid)
include hs

/-- The claim for the name is the name of the record. -/
theorem get?_keyClaim (record : Fields) :
    (s.claims record).get? s.keyClaim = s.usernameOf record := by
  rw [hs.get?_claims, usernameOf, usernameSource?]
  cases hpassword : s.username.isPassword with
  -- without a claim of the key, the reader falls back to the claim `username`
  | true => rw [keyClaim, claim?_of_isPassword hpassword, if_pos rfl, Option.getD_none]
  | false =>
    obtain ⟨claim, hclaim⟩ := exists_claim?_username hpassword
    rw [keyClaim, hclaim, Option.getD_some, hs.supplier?_of_claim? hs.username_mem hclaim]
    rfl

/-- The claim for the role is the role of the record. -/
theorem get?_roleClaim (record : Fields) :
    (s.claims record).get? s.roleClaim = s.roleOf record := by
  rw [hs.get?_claims, roleOf, roleSource?, roleClaim]
  cases hcolumn : s.column? roleColumn with
  | none => rfl
  | some c =>
    obtain ⟨hmem, hname⟩ := of_column? hcolumn
    obtain ⟨claim, hclaim⟩ := exists_claim?_role (s := s) hname
    rw [Option.bind_some, hclaim, Option.getD_some, hs.supplier?_of_claim? hmem hclaim]
    rfl

/-- Claims with the fields of a record are proper. -/
theorem proper_of_fields {c : AccessClaims} {record : Fields} (h : c.fields = s.claims record) :
    c.Proper := fun name hname => by
  rw [h]
  exact hs.get?_claims_of_reserved record hname

/-- The claims of a record identify the user and the role of the record. -/
theorem identity_of_fields {c : AccessClaims} {record : Fields} (h : c.fields = s.claims record) :
    c.identity s =
      match s.usernameOf record with
      | none => .error .missingUsername
      | some username =>
        match s.roleOf record with
        | none => .error .missingRole
        | some role => .ok { username, role := some role } := by
  have hkey := hs.get?_keyClaim record
  have hrole := hs.get?_roleClaim record
  rw [← h] at hkey hrole
  cases husername : s.usernameOf record with
  | none => exact AccessClaims.identity_of_missing_username (hkey.trans husername)
  | some username =>
    rw [husername] at hkey
    cases hroleOf : s.roleOf record with
    | none => exact AccessClaims.identity_of_missing_role hkey (hrole.trans hroleOf)
    | some role => exact AccessClaims.identity_of_fields hkey (hrole.trans hroleOf)

end Valid

end BearerAuth.Schema
