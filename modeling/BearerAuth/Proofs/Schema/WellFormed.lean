import BearerAuth.Proofs.NameMap
import BearerAuth.Schema.Basic

/-!
# What is asked of a table description

Two accounts of one thing. `TableDescription.WellFormed` says which descriptions are
fit to be a schema, in no order. `TableDescription.rules` lists what is asked of a
description in a fixed order, each rule with the error for breaking it; which rules
there are for the claims depends on the key.

- `IsIdentifier`: letters, digits and underscores, no digit first.
- `TableDescription.keyName`: the name of the column that names the users.
- `TableDescription.claim?`: the name under which a column goes into tokens.
- `FirstBroken`: the error of the first rule that does not hold. No rules have two
  (`FirstBroken.unique`).
- `TableDescription.wellFormed_iff`: a description is well-formed if and only if it
  breaks no rule.
-/

namespace BearerAuth

/-! ## Identifiers -/

/-- An ASCII letter or an underscore. -/
def IsIdentifierStart (c : Char) : Prop :=
  ('A' ≤ c ∧ c ≤ 'Z') ∨ ('a' ≤ c ∧ c ≤ 'z') ∨ c = '_'

/-- ASCII letters, digits and underscores, at least one of them and no digit first. -/
def IsIdentifier (name : String) : Prop :=
  ∃ first rest, name.toList = first :: rest ∧ IsIdentifierStart first ∧
    ∀ c ∈ rest, IsIdentifierStart c ∨ ('0' ≤ c ∧ c ≤ '9')

/-- A name may start with a letter or an underscore, and with nothing else. -/
theorem isNameStart_iff {c : Char} : isNameStart c = true ↔ IsIdentifierStart c := by
  have hranges : isNameStart c = (decide ('A' ≤ c ∧ c ≤ 'Z') ||
      (decide ('a' ≤ c) && decide (c ≤ 'z')) || c == '_') := rfl
  simp only [hranges, IsIdentifierStart, Bool.or_eq_true, Bool.and_eq_true, decide_eq_true_eq,
    beq_iff_eq, or_assoc]

theorem isDigit_iff {c : Char} : c.isDigit = true ↔ '0' ≤ c ∧ c ≤ '9' := by
  have hrange : c.isDigit = (decide ('0' ≤ c) && decide (c ≤ '9')) := rfl
  simp only [hrange, Bool.and_eq_true, decide_eq_true_eq]

/-- The names that pass are the identifiers. -/
theorem isPlainName_iff {name : String} : isPlainName name = true ↔ IsIdentifier name := by
  unfold isPlainName IsIdentifier
  cases name.toList with
  | nil => simp
  | cons first rest => simp [isNameStart_iff, isDigit_iff]

/-! ## Rules in order -/

/-- Something that is asked, and the error if it is not so. -/
structure Rule where
  holds : Prop
  error : SchemaError

/-- The first of the rules that does not hold has the error. -/
def FirstBroken (rules : List Rule) (why : SchemaError) : Prop :=
  ∃ before rule after, rules = before ++ rule :: after ∧ (∀ r ∈ before, r.holds) ∧
    ¬rule.holds ∧ rule.error = why

namespace FirstBroken

variable {rules more : List Rule} {why : SchemaError}

/-- A broken rule is one of the rules. -/
theorem not_forall (h : FirstBroken rules why) : ¬∀ r ∈ rules, r.holds := by
  obtain ⟨before, rule, after, rfl, -, hbroken, -⟩ := h
  intro hall
  exact hbroken (hall rule (List.mem_append_right _ List.mem_cons_self))

theorem head {rule : Rule} (h : ¬rule.holds) : FirstBroken (rule :: rules) rule.error :=
  ⟨[], rule, rules, rfl, fun _ hr => absurd hr List.not_mem_nil, h, rfl⟩

/-- Rules that come later do not matter. -/
theorem append (h : FirstBroken rules why) : FirstBroken (rules ++ more) why := by
  obtain ⟨before, rule, after, rfl, hrest⟩ := h
  exact ⟨before, rule, after ++ more, by rw [List.append_assoc, List.cons_append], hrest⟩

/-- Rules that come earlier have to hold. -/
theorem prepend (hrules : ∀ r ∈ rules, r.holds) (h : FirstBroken more why) :
    FirstBroken (rules ++ more) why := by
  obtain ⟨before, rule, after, rfl, hbefore, hbroken⟩ := h
  refine ⟨rules ++ before, rule, after, (List.append_assoc ..).symm, fun r hr => ?_, hbroken⟩
  rcases List.mem_append.1 hr with hr | hr
  · exact hrules r hr
  · exact hbefore r hr

/-- There is one first rule that is broken. -/
theorem unique {other : SchemaError} (h : FirstBroken rules why) (h' : FirstBroken rules other) :
    why = other := by
  obtain ⟨before, rule, after, rfl, hbefore, hbroken, rfl⟩ := h
  obtain ⟨before', rule', after', hsplit, hbefore', hbroken', rfl⟩ := h'
  -- of the two places where the list is cut, neither is before the other
  rcases List.append_eq_append_iff.1 hsplit with ⟨more, rfl, hmore⟩ | ⟨more, rfl, hmore⟩
  · cases more with
    | nil => rw [(List.cons.inj hmore).1]
    | cons r rest =>
      rw [(List.cons.inj hmore).1] at hbroken
      exact absurd (hbefore' r (List.mem_append_right _ List.mem_cons_self)) hbroken
  · cases more with
    | nil => rw [(List.cons.inj hmore).1]
    | cons r rest =>
      rw [(List.cons.inj hmore).1] at hbroken'
      exact absurd (hbefore r (List.mem_append_right _ List.mem_cons_self)) hbroken'

end FirstBroken

/-! ## Table descriptions -/

/-- The name under which a described column goes into tokens, if `key` names the users.
The password goes under none. A name that is given for it counts first, and then its
own name, unless the column is hidden; a hidden one has a name only as the key or as
the role. -/
def ColumnDescription.claim? (config : ColumnDescription) (key name : String) : Option String :=
  if name = passwordColumn then none
  else
    config.jwtClaim.or <|
      if config.hidden = false then some name
      else if name = key then some usernameColumn
      else if name = roleColumn then some roleColumn
      else none

/-- The default of a column is a value of its type. The password has no type. -/
def ColumnDescription.DefaultFits (name : String) (config : ColumnDescription) : Prop :=
  name ≠ passwordColumn → ∀ type : ColumnType, type.keyword = config.type →
    ∀ value, config.default = some value → type.accepts value = true

namespace TableDescription

/-- The names of the columns that are flagged as the key. -/
def keys (t : TableDescription) : List String :=
  (t.columns.entries.filter (·.2.primaryKey)).map (·.1)

/-- The name of the column that names the users: the one flagged as the key, else
`username`. -/
def keyName (t : TableDescription) : String :=
  t.keys.head?.getD usernameColumn

/-- The name under which a column of the table goes into tokens. -/
def claim? (t : TableDescription) (e : String × ColumnDescription) : Option String :=
  e.2.claim? t.keyName e.1

/-- A description that is fit to be a schema. -/
structure WellFormed (t : TableDescription) : Prop where
  name : IsIdentifier t.name
  columnNames : ∀ e ∈ t.columns.entries, IsIdentifier e.1
  types : ∀ e ∈ t.columns.entries, ∃ type : ColumnType, type.keyword = e.2.type
  defaults : ∀ e ∈ t.columns.entries, e.2.DefaultFits e.1
  oneKey : t.keys.length ≤ 1
  hasKey : t.keys = [] → ∃ e ∈ t.columns.entries, e.1 = usernameColumn
  distinct : ∀ e ∈ t.columns.entries, ∀ e' ∈ t.columns.entries, ∀ claim,
    t.claim? e = some claim → t.claim? e' = some claim → e = e'
  unreserved : ∀ e ∈ t.columns.entries, ∀ claim, t.claim? e = some claim → claim ∉ reservedClaims

/-! ## The rules of a table -/

/-- What is asked of a column by itself. -/
def columnRules (e : String × ColumnDescription) : List Rule :=
  [{ holds := IsIdentifier e.1, error := .invalidIdentifier e.1 },
    { holds := ∃ type : ColumnType, type.keyword = e.2.type
      error := .unsupportedType e.1 e.2.type },
    { holds := e.2.DefaultFits e.1, error := .invalidDefault e.1 }]

/-- What is asked of the flags for the key. -/
def keyRules (t : TableDescription) : List Rule :=
  [{ holds := t.keys.length ≤ 1, error := .multiplePrimaryKeys },
    { holds := t.keys = [] → ∃ e ∈ t.columns.entries, e.1 = usernameColumn
      error := .noUsernameColumn }]

/-- What is asked of the name under which a column goes into tokens: it does not belong
to the tokens, and no column before this one has it. -/
def claimRules (t : TableDescription) (e : String × ColumnDescription) : List Rule :=
  match t.claim? e with
  | none => []
  | some claim =>
    [{ holds := claim ∉ reservedClaims, error := .reservedClaim e.1 claim },
      { holds := ∀ earlier ∈ t.columns.entries, earlier.1 < e.1 → t.claim? earlier ≠ some claim
        error := .duplicateClaim claim }]

/-- What is asked of a table: of its name; column by column, in the order of their
names, of the column by itself; of the key; and column by column of the claims. -/
def rules (t : TableDescription) : List Rule :=
  [{ holds := IsIdentifier t.name, error := .invalidIdentifier t.name }] ++
    t.columns.entries.flatMap columnRules ++ t.keyRules ++ t.columns.entries.flatMap t.claimRules

variable {t : TableDescription}

/-- A column of a table is known by its name. -/
theorem eq_of_name_eq {e e' : String × ColumnDescription} (he : e ∈ t.columns.entries)
    (he' : e' ∈ t.columns.entries) (h : e.1 = e'.1) : e = e' :=
  List.inj_on_of_nodup_map t.columns.names_nodup he he' h

/-- The rules of a column are about its name, the keyword of its type and its default. -/
theorem holds_columnRules_iff {e : String × ColumnDescription} :
    (∀ r ∈ columnRules e, r.holds) ↔
      IsIdentifier e.1 ∧ (∃ type : ColumnType, type.keyword = e.2.type) ∧
        e.2.DefaultFits e.1 := by
  simp [columnRules]

/-- The rules of the key are that there is one at most, or else a column of the name for it.
-/
theorem holds_keyRules_iff :
    (∀ r ∈ t.keyRules, r.holds) ↔
      t.keys.length ≤ 1 ∧ (t.keys = [] → ∃ e ∈ t.columns.entries, e.1 = usernameColumn) := by
  simp only [keyRules, List.forall_mem_cons, List.not_mem_nil, false_implies, implies_true,
    and_true]

/-- The rules of a claim are that it is not reserved and that no earlier column has it. -/
theorem holds_claimRules_iff {e : String × ColumnDescription} :
    (∀ r ∈ t.claimRules e, r.holds) ↔
      ∀ claim, t.claim? e = some claim → claim ∉ reservedClaims ∧
        ∀ earlier ∈ t.columns.entries, earlier.1 < e.1 → t.claim? earlier ≠ some claim := by
  unfold claimRules
  cases t.claim? e with
  | none => simp
  | some claim => simp

/-- A description is well-formed if and only if it breaks no rule. -/
theorem wellFormed_iff : t.WellFormed ↔ ∀ r ∈ t.rules, r.holds := by
  have hrules : (∀ r ∈ t.rules, r.holds) ↔
      IsIdentifier t.name ∧
        (∀ e ∈ t.columns.entries, ∀ r ∈ columnRules e, r.holds) ∧
        (∀ r ∈ t.keyRules, r.holds) ∧
        ∀ e ∈ t.columns.entries, ∀ r ∈ t.claimRules e, r.holds := by
    simp only [rules, List.forall_mem_append, List.forall_mem_flatMap, List.forall_mem_singleton,
      and_assoc]
  rw [hrules]
  simp only [holds_columnRules_iff, holds_keyRules_iff, holds_claimRules_iff]
  constructor
  · intro h
    refine ⟨h.name, fun e he => ⟨h.columnNames e he, h.types e he, h.defaults e he⟩,
      ⟨h.oneKey, h.hasKey⟩, fun e he claim hclaim => ⟨h.unreserved e he claim hclaim, ?_⟩⟩
    intro earlier hearlier hlt hsame
    -- the same claim is that of the same column
    rw [h.distinct earlier hearlier e he claim hsame hclaim] at hlt
    exact String.lt_irrefl _ hlt
  · rintro ⟨hname, hcolumns, hkey, hclaims⟩
    exact {
      name := hname
      columnNames := fun e he => (hcolumns e he).1
      types := fun e he => (hcolumns e he).2.1
      defaults := fun e he => (hcolumns e he).2.2
      oneKey := hkey.1
      hasKey := hkey.2
      distinct := fun e he e' he' claim hclaim hclaim' => by
        -- of two columns one comes first
        by_cases hlt : e.1 < e'.1
        · exact absurd hclaim ((hclaims e' he' claim hclaim').2 e he hlt)
        · by_cases hsame : e.1 = e'.1
          · exact eq_of_name_eq he he' hsame
          · have hgt := NameMap.lt_of_not_lt_of_ne hlt hsame
            exact absurd hclaim' ((hclaims e he claim hclaim).2 e' he' hgt)
      unreserved := fun e he claim hclaim => (hclaims e he claim hclaim).1 }

end TableDescription

end BearerAuth
