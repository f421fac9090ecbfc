import BearerAuth.Proofs.Except
import BearerAuth.Schema.Basic
import Mathlib.Data.List.Nodup

/-!
# Checked schemas

What the check of a table description establishes, said once for everything that
works with a schema.

- `Schema.Valid`: the columns have distinct names and are in order, one of them
  is the key, and their claims are distinct and none belongs to the tokens.
- `Schema.valid_of_ofDescription`: every schema that was checked is valid.
- `Schema.filter_primaryKey_of_keyColumn`, `Schema.isPlainName_of_ofDescription`:
  at most one column is flagged as the key, and all names are plain.
-/

namespace BearerAuth

/-- A column keeps its name. -/
theorem Column.name_of_ofConfig {name : String} {config : ColumnDescription} {c : Column}
    (h : Column.ofConfig name config = .ok c) : c.name = name := by
  unfold Column.ofConfig at h
  split at h
  · cases h
  split at h
  · cases h
  dsimp only at h
  split at h
  · cases h
  · cases h
    rfl

/-- The columns of a table are called as its entries, in the same order. -/
theorem Column.names_of_ofConfigs {entries : List (String × ColumnDescription)}
    {columns : List Column} (h : Column.ofConfigs entries = .ok columns) :
    columns.map (·.name) = entries.map (·.1) := by
  induction entries generalizing columns with
  | nil =>
    cases h
    rfl
  | cons e rest ih =>
    obtain ⟨name, config⟩ := e
    obtain ⟨column, hcolumn, h⟩ := bind_eq_ok_iff.1 h
    obtain ⟨others, hrest, h⟩ := bind_eq_ok_iff.1 h
    cases h
    rw [List.map_cons, List.map_cons, Column.name_of_ofConfig hcolumn, ih hrest]

/-- A column that is accepted has a plain name. -/
theorem Column.isPlainName_of_ofConfig {name : String} {config : ColumnDescription} {c : Column}
    (h : Column.ofConfig name config = .ok c) : isPlainName c.name = true := by
  rw [Column.name_of_ofConfig h]
  unfold Column.ofConfig at h
  split at h
  · cases h
  · next hplain => simpa using hplain

/-- All columns that are accepted have plain names. -/
theorem Column.isPlainName_of_ofConfigs {entries : List (String × ColumnDescription)}
    {columns : List Column} (h : Column.ofConfigs entries = .ok columns) :
    ∀ c ∈ columns, isPlainName c.name = true := by
  induction entries generalizing columns with
  | nil =>
    cases h
    exact fun _ hc => absurd hc List.not_mem_nil
  | cons e rest ih =>
    obtain ⟨name, config⟩ := e
    obtain ⟨column, hcolumn, h⟩ := bind_eq_ok_iff.1 h
    obtain ⟨others, hrest, h⟩ := bind_eq_ok_iff.1 h
    cases h
    intro c hc
    rcases List.mem_cons.1 hc with rfl | hc
    · exact Column.isPlainName_of_ofConfig hcolumn
    · exact ih hrest c hc

namespace Schema

/-- A checked schema. -/
structure Valid (s : Schema) : Prop where
  sorted : s.columns.Pairwise (·.name < ·.name)
  username_mem : s.username ∈ s.columns
  claims_nodup : (s.columns.filterMap s.claim?).Nodup
  unreserved : ∀ claim ∈ s.columns.filterMap s.claim?, claim ∉ reservedClaims

/-- The column for the name is one of the columns. -/
theorem mem_of_keyColumn {columns : List Column} {c : Column} (h : keyColumn columns = .ok c) :
    c ∈ columns := by
  unfold keyColumn at h
  split at h
  · next hkeys =>
    cases h
    exact (List.mem_filter.1 (hkeys ▸ List.mem_singleton_self c)).1
  · cases h
  · split at h
    · next hfind =>
      cases h
      exact List.mem_of_find?_eq_some hfind
    · cases h

/-- At most one column is flagged as the key, and then it names the users. -/
theorem filter_primaryKey_of_keyColumn {columns : List Column} {c : Column}
    (h : keyColumn columns = .ok c) :
    columns.filter (·.primaryKey) = if c.primaryKey then [c] else [] := by
  unfold keyColumn at h
  split at h
  · next key hkeys =>
    cases h
    have hflagged := (List.mem_filter.1 (hkeys ▸ List.mem_singleton_self c)).2
    rw [hkeys, if_pos hflagged]
  · cases h
  · next hkeys =>
    split at h
    · next found hfind =>
      cases h
      have hnot := List.filter_eq_nil_iff.1 hkeys c (List.mem_of_find?_eq_some hfind)
      rw [hkeys, if_neg hnot]
    · cases h

/-- A column that is flagged as the key is the one for the name. -/
theorem eq_of_keyColumn {columns : List Column} {key c : Column} (h : keyColumn columns = .ok key)
    (hc : c ∈ columns) (hflagged : c.primaryKey = true) : c = key := by
  have hmem := List.mem_filter.2 ⟨hc, hflagged⟩
  rw [filter_primaryKey_of_keyColumn h] at hmem
  split at hmem
  · exact List.mem_singleton.1 hmem
  · cases hmem

/-- The check of the claims passes over claims that are distinct, new and not
reserved. -/
theorem of_checkClaims {s : Schema} {taken : List String} {columns : List Column}
    (h : s.checkClaims taken columns = .ok ()) :
    (columns.filterMap s.claim?).Nodup ∧
      ∀ claim ∈ columns.filterMap s.claim?, claim ∉ reservedClaims ∧ claim ∉ taken := by
  induction columns generalizing taken with
  | nil => exact ⟨List.nodup_nil, fun _ hclaim => absurd hclaim List.not_mem_nil⟩
  | cons c rest ih =>
    unfold checkClaims at h
    cases hclaim : s.claim? c with
    | none =>
      rw [hclaim] at h
      rw [List.filterMap_cons_none hclaim]
      exact ih h
    | some claim =>
      rw [hclaim] at h
      dsimp only at h
      split at h
      · cases h
      next hreserved =>
      split at h
      · cases h
      next htaken =>
      -- the later claims were compared with this one, as it was taken by then
      obtain ⟨hnodup, hrest⟩ := ih h
      rw [List.filterMap_cons_some hclaim]
      refine ⟨List.nodup_cons.2 ⟨fun hmem => ?_, hnodup⟩, fun other hother => ?_⟩
      · exact (hrest claim hmem).2 List.mem_cons_self
      · rcases List.mem_cons.1 hother with rfl | hother
        · exact ⟨hreserved, htaken⟩
        · exact ⟨(hrest other hother).1, fun hmem =>
            (hrest other hother).2 (List.mem_cons_of_mem _ hmem)⟩

/-- What the check of a description goes through. -/
theorem of_ofDescription {table : TableDescription} {s : Schema}
    (h : ofDescription table = .ok s) :
    Column.ofConfigs table.columns.entries = .ok s.columns ∧ keyColumn s.columns = .ok s.username ∧
      s.checkClaims [] s.columns = .ok () := by
  unfold ofDescription at h
  split at h
  · cases h
  obtain ⟨columns, hcolumns, h⟩ := bind_eq_ok_iff.1 h
  obtain ⟨username, hkey, h⟩ := bind_eq_ok_iff.1 h
  obtain ⟨_, hclaims, h⟩ := bind_eq_ok_iff.1 h
  cases h
  exact ⟨hcolumns, hkey, hclaims⟩

/-- The names of a checked schema are plain. -/
theorem isPlainName_of_ofDescription {table : TableDescription} {s : Schema}
    (h : ofDescription table = .ok s) :
    isPlainName s.table = true ∧ ∀ c ∈ s.columns, isPlainName c.name = true := by
  refine ⟨?_, Column.isPlainName_of_ofConfigs (of_ofDescription h).1⟩
  unfold ofDescription at h
  split at h
  · cases h
  next hplain =>
  obtain ⟨columns, -, h⟩ := bind_eq_ok_iff.1 h
  obtain ⟨username, -, h⟩ := bind_eq_ok_iff.1 h
  obtain ⟨_, -, h⟩ := bind_eq_ok_iff.1 h
  cases h
  simpa using hplain

/-- Every schema that was checked is valid. -/
theorem valid_of_ofDescription {table : TableDescription} {s : Schema}
    (h : ofDescription table = .ok s) : s.Valid := by
  obtain ⟨hcolumns, hkey, hclaims⟩ := of_ofDescription h
  obtain ⟨hnodup, hunreserved⟩ := of_checkClaims hclaims
  have hsorted : (s.columns.map (·.name)).Pairwise (· < ·) := by
    rw [Column.names_of_ofConfigs hcolumns]
    exact List.pairwise_map.2 table.columns.sorted
  exact {
    sorted := List.pairwise_map.1 hsorted
    username_mem := mem_of_keyColumn hkey
    claims_nodup := hnodup
    unreserved := fun claim hclaim => (hunreserved claim hclaim).1 }

theorem of_column? {s : Schema} {name : String} {c : Column} (h : s.column? name = some c) :
    c ∈ s.columns ∧ c.name = name :=
  ⟨List.mem_of_find?_eq_some h, by simpa using List.find?_some h⟩

theorem Valid.names_nodup {s : Schema} (hs : s.Valid) : (s.columns.map (·.name)).Nodup :=
  List.pairwise_map.2 (hs.sorted.imp String.ne_of_lt)

/-- A column is known by its name. -/
theorem Valid.eq_of_name_eq {s : Schema} (hs : s.Valid) {c other : Column} (hc : c ∈ s.columns)
    (hother : other ∈ s.columns) (h : c.name = other.name) : c = other :=
  List.inj_on_of_nodup_map hs.names_nodup hc hother h

/-- A search that only the columns of one name meet finds the column. -/
theorem Valid.find?_eq_some {s : Schema} (hs : s.Valid) {c : Column} (hc : c ∈ s.columns)
    {p : Column → Bool} (hp : p c = true) (h : ∀ other, p other = true → other.name = c.name) :
    s.columns.find? p = some c := by
  obtain ⟨found, hfound⟩ := Option.isSome_iff_exists.1 (List.find?_isSome.2 ⟨c, hc, hp⟩)
  rw [hfound, hs.eq_of_name_eq (List.mem_of_find?_eq_some hfound) hc
    (h found (List.find?_some hfound))]

end Schema

/-! ## A table -/

/-- A column of which nothing but the type is said. -/
def Column.plain (name : String) (type : ColumnType) : Column where
  name
  type
  primaryKey := false
  unique := false
  required := false
  hidden := false
  default := none
  jwtClaim := none

/-- A column that is required. -/
def Column.needed (name : String) (type : ColumnType) : Column :=
  { Column.plain name type with required := true }

/-- A column that is flagged as the key. -/
def Column.key (name : String) (type : ColumnType) : Column :=
  { Column.needed name type with primaryKey := true }

namespace Schema

/-- The members of a club: their key is hidden, and their role is called a
grade. -/
def membersTable : TableDescription where
  name := "members"
  columns :=
    { entries :=
        [("email", { type := "text", primaryKey := true, required := true, hidden := true }),
          ("grade", { type := "text", default := some "guest", jwtClaim := some "role" }),
          ("password", { type := "text", required := true })]
      sorted := by decide }

/-- The key of the members. -/
def emailColumn : Column :=
  { Column.key "email" .text with hidden := true }

/-- The schema of the members. -/
def members : Schema where
  table := "members"
  autoCreate := false
  columns :=
    [emailColumn,
      { Column.plain "grade" .text with default := some "guest", jwtClaim := some "role" },
      .needed "password" .text]
  username := emailColumn

theorem ofDescription_membersTable : ofDescription membersTable = .ok members := rfl

end Schema

end BearerAuth
