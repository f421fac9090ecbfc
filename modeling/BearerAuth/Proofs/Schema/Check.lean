import BearerAuth.Proofs.Schema.Valid
import BearerAuth.Proofs.Schema.WellFormed

/-!
# What the check of a table description finds

The check accepts the well-formed descriptions and no others, and of a description that
is refused it reports the first rule that is broken. Each function of the check goes
through a piece of the list of rules.

- `Enforces`: a computation succeeds if all rules of a list hold, and fails with the
  error of the first one that does not. `Enforces.bind` puts two such computations
  together.
- `Column.Keeps`: what a column keeps of its description.
- `Column.enforces_ofConfigs`, `Schema.enforces_keyColumn`,
  `Schema.enforces_checkClaims`: the three parts of the check.
- `Schema.Describes`: what a schema keeps of the description of its table.
- `Schema.ofDescription_outcome`: what becomes of every description.
-/

namespace BearerAuth

/-! ## Computations that go through rules -/

section

variable {α β : Type}

/-- The computation succeeds if all rules hold, and fails with the error of the first
one that does not. -/
def Enforces (x : Except SchemaError α) (rules : List Rule) : Prop :=
  match x with
  | .ok _ => ∀ r ∈ rules, r.holds
  | .error why => FirstBroken rules why

variable {x : Except SchemaError α} {rules more : List Rule}

namespace Enforces

theorem ok (a : α) : Enforces (.ok a : Except SchemaError α) [] :=
  fun _ hr => absurd hr List.not_mem_nil

/-- Success means that no rule is broken. -/
theorem ok_iff (h : Enforces x rules) : (∃ a, x = .ok a) ↔ ∀ r ∈ rules, r.holds := by
  cases x with
  | ok a => exact ⟨fun _ => h, fun _ => ⟨a, rfl⟩⟩
  | error why =>
    constructor
    · rintro ⟨a, ha⟩
      cases ha
    · intro hall
      exact absurd hall (FirstBroken.not_forall h)

/-- Failure is for the first rule that is broken. -/
theorem error_iff (h : Enforces x rules) {why : SchemaError} :
    x = .error why ↔ FirstBroken rules why := by
  cases x with
  | ok a =>
    constructor
    · intro heq
      cases heq
    · intro hbroken
      exact absurd h hbroken.not_forall
  | error other =>
    constructor
    · intro heq
      cases heq
      exact h
    · intro hbroken
      rw [FirstBroken.unique h hbroken]

/-- A step that follows a successful one goes through the rules that follow. -/
theorem bind {f : α → Except SchemaError β} (h : Enforces x rules)
    (hf : ∀ a, x = .ok a → Enforces (f a) more) : Enforces (x >>= f) (rules ++ more) := by
  cases x with
  | error why => exact FirstBroken.append h
  | ok a =>
    have hrest := hf a rfl
    show Enforces (f a) (rules ++ more)
    cases hfa : f a with
    | ok b =>
      rw [hfa] at hrest
      intro r hr
      rcases List.mem_append.1 hr with hr | hr
      · exact h r hr
      · exact hrest r hr
    | error why =>
      rw [hfa] at hrest
      exact FirstBroken.prepend h hrest

/-- A step that cannot fail goes through no rules. -/
theorem map (h : Enforces x rules) (f : α → β) : Enforces (x >>= fun a => .ok (f a)) rules := by
  cases x with
  | ok a => exact h
  | error why => exact h

/-- A rule that holds may be put in front. -/
theorem cons {rule : Rule} (hholds : rule.holds) (hx : Enforces x rules) :
    Enforces x (rule :: rules) := by
  have hrule : ∀ r ∈ [rule], r.holds := by
    intro r hr
    rw [List.mem_singleton.1 hr]
    exact hholds
  cases x with
  | ok a => exact List.forall_mem_append.2 ⟨hrule, hx⟩
  | error why => exact FirstBroken.prepend hrule hx

/-- A test for one rule stands before what goes through the others. -/
theorem ite {p q : Prop} [Decidable p] {why : SchemaError} (hp : ¬p ↔ q)
    (hx : q → Enforces x rules) :
    Enforces (if p then .error why else x) ({ holds := q, error := why } :: rules) := by
  by_cases hbroken : p
  · rw [if_pos hbroken]
    have hq : ¬q := fun hholds => hp.2 hholds hbroken
    exact FirstBroken.head hq
  · rw [if_neg hbroken]
    have hholds := hp.1 hbroken
    exact (hx hholds).cons hholds

end Enforces

end

/-! ## Columns by themselves -/

/-- A word names one type. -/
theorem ColumnType.ofKeyword?_eq_some_iff {word : String} {t : ColumnType} :
    ofKeyword? word = some t ↔ t.keyword = word := by
  constructor
  · intro h
    simpa using List.find?_some h
  · rintro rfl
    cases t <;> rfl

/-- A word is refused if it is the keyword of no type. -/
theorem ColumnType.ofKeyword?_eq_none_iff {word : String} :
    ofKeyword? word = none ↔ ¬∃ t : ColumnType, t.keyword = word := by
  constructor
  · rintro h ⟨t, ht⟩
    rw [ofKeyword?_eq_some_iff.2 ht] at h
    cases h
  · intro h
    cases hword : ofKeyword? word with
    | none => rfl
    | some t => exact absurd ⟨t, ofKeyword?_eq_some_iff.1 hword⟩ h

theorem not_not_isPlainName_iff {name : String} :
    ¬(!isPlainName name) = true ↔ IsIdentifier name := by
  rw [← isPlainName_iff, Bool.not_eq_true', Bool.not_eq_false]

namespace Column

/-- A column keeps its name and all that is described of it. -/
structure Keeps (c : Column) (e : String × ColumnDescription) : Prop where
  name : c.name = e.1
  type : c.type.keyword = e.2.type
  primaryKey : c.primaryKey = e.2.primaryKey
  unique : c.unique = e.2.unique
  required : c.required = e.2.required
  hidden : c.hidden = e.2.hidden
  default : c.default = e.2.default
  jwtClaim : c.jwtClaim = e.2.jwtClaim

/-- A column that is accepted keeps what is configured for it. -/
theorem keeps_of_ofConfig {e : String × ColumnDescription} {c : Column}
    (h : ofConfig e.1 e.2 = .ok c) : c.Keeps e := by
  unfold ofConfig at h
  split at h
  · cases h
  split at h
  · cases h
  next type htype =>
  dsimp only at h
  split at h
  · cases h
  · cases h
    exact ⟨rfl, ColumnType.ofKeyword?_eq_some_iff.1 htype, rfl, rfl, rfl, rfl, rfl, rfl⟩

/-- Columns that are accepted keep what is configured for them, in order. -/
theorem keeps_of_ofConfigs {entries : List (String × ColumnDescription)} {columns : List Column}
    (h : ofConfigs entries = .ok columns) : List.Forall₂ Keeps columns entries := by
  induction entries generalizing columns with
  | nil =>
    cases h
    exact .nil
  | cons e rest ih =>
    obtain ⟨c, hc, h⟩ := bind_eq_ok_iff.1 h
    obtain ⟨others, hothers, h⟩ := bind_eq_ok_iff.1 h
    cases h
    exact .cons (keeps_of_ofConfig hc) (ih hothers)

/-- The default of a column is looked at with the type that its word names. -/
theorem defaultFits_iff {name : String} {config : ColumnDescription} {type : ColumnType}
    (htype : type.keyword = config.type) :
    config.DefaultFits name ↔
      ¬(config.default.any fun value => !(name == passwordColumn) && !type.accepts value) = true
      := by
  have hany : (config.default.any fun value => !(name == passwordColumn) && !type.accepts value)
      = true ↔ ∃ value, config.default = some value ∧ name ≠ passwordColumn ∧
        ¬type.accepts value = true := by
    simp [Option.any_eq_true]
  rw [hany]
  constructor
  · rintro h ⟨value, hdefault, hname, hnot⟩
    exact hnot (h hname type htype value hdefault)
  · intro h hname other hother value hdefault
    by_contra hnot
    -- no other type has the word
    have hsame : some other = some type := by
      rw [← ColumnType.ofKeyword?_eq_some_iff.2 hother, ← ColumnType.ofKeyword?_eq_some_iff.2 htype]
    rw [Option.some.inj hsame] at hnot
    exact h ⟨value, hdefault, hname, hnot⟩

/-- The check of one column looks at its name, its type and its default. -/
theorem enforces_ofConfig (e : String × ColumnDescription) :
    Enforces (ofConfig e.1 e.2) (TableDescription.columnRules e) := by
  unfold ofConfig TableDescription.columnRules
  refine Enforces.ite not_not_isPlainName_iff fun _ => ?_
  cases htype : ColumnType.ofKeyword? e.2.type with
  | none => exact FirstBroken.head (ColumnType.ofKeyword?_eq_none_iff.1 htype)
  | some type =>
    have hkeyword := ColumnType.ofKeyword?_eq_some_iff.1 htype
    exact Enforces.cons ⟨type, hkeyword⟩
      (Enforces.ite (defaultFits_iff hkeyword).symm fun _ => Enforces.ok _)

/-- The check of all columns goes through them in order. -/
theorem enforces_ofConfigs (entries : List (String × ColumnDescription)) :
    Enforces (ofConfigs entries) (entries.flatMap TableDescription.columnRules) := by
  induction entries with
  | nil => exact Enforces.ok []
  | cons e rest ih =>
    rw [List.flatMap_cons]
    exact (enforces_ofConfig e).bind fun c _ => ih.map (c :: ·)

end Column

/-! ## The columns together -/

section

variable {columns : List Column} {entries : List (String × ColumnDescription)}

/-- Columns that keep their descriptions are flagged as these are. -/
theorem Column.keys_of_keeps (h : List.Forall₂ Column.Keeps columns entries) :
    (columns.filter (·.primaryKey)).map (·.name) =
      (entries.filter (·.2.primaryKey)).map (·.1) := by
  induction h with
  | nil => rfl
  | @cons c e columns entries hkeeps _ ih =>
    rw [List.filter_cons, List.filter_cons, hkeeps.primaryKey]
    cases e.2.primaryKey with
    | false => exact ih
    | true =>
      rw [if_pos rfl, if_pos rfl, List.map_cons, List.map_cons, hkeeps.name, ih]

/-- Columns keep the names of their entries. -/
theorem Column.names_of_keeps (h : List.Forall₂ Column.Keeps columns entries) :
    columns.map (·.name) = entries.map (·.1) := by
  rw [← List.forall₂_eq_eq_eq, List.forall₂_map_left_iff, List.forall₂_map_right_iff]
  exact h.imp fun _ _ hkeeps => hkeeps.name

end

namespace Schema

variable {t : TableDescription} {s : Schema} {columns : List Column}

/-- The check of the key finds it or reports what is wrong with the flags. -/
theorem enforces_keyColumn (h : List.Forall₂ Column.Keeps columns t.columns.entries) :
    Enforces (keyColumn columns) t.keyRules := by
  have hkeys : t.keys = (columns.filter (·.primaryKey)).map (·.name) :=
    (Column.keys_of_keeps h).symm
  unfold keyColumn TableDescription.keyRules
  rw [hkeys]
  generalize columns.filter (·.primaryKey) = flagged
  match flagged with
  | [key] =>
    refine Enforces.cons (Nat.le_refl 1) (Enforces.cons (fun hnone => ?_) (Enforces.ok key))
    cases hnone
  | _ :: _ :: _ => exact FirstBroken.head (fun hone => absurd hone (by simp))
  | [] =>
    -- without a flag a column has to be called `username`, in the table and so in the schema
    refine Enforces.cons (Nat.zero_le 1) ?_
    have hfound : (∃ e ∈ t.columns.entries, e.1 = usernameColumn) ↔
        ∃ c ∈ columns, c.name = usernameColumn := by
      rw [← List.mem_map, ← List.mem_map, Column.names_of_keeps h]
    dsimp only
    cases hfind : columns.find? fun c => c.name == usernameColumn with
    | some c =>
      have hname : c.name = usernameColumn := by simpa using List.find?_some hfind
      have hcolumn := hfound.2 ⟨c, List.mem_of_find?_eq_some hfind, hname⟩
      exact Enforces.cons (fun _ => hcolumn) (Enforces.ok c)
    | none =>
      refine FirstBroken.head fun hkey => ?_
      obtain ⟨c, hc, hname⟩ := hfound.1 (hkey rfl)
      have hnot := List.find?_eq_none.1 hfind c hc
      exact hnot (beq_iff_eq.2 hname)

/-- The key is called as the description has it. -/
theorem name_of_keyColumn (h : List.Forall₂ Column.Keeps columns t.columns.entries) {c : Column}
    (hkey : keyColumn columns = .ok c) : c.name = t.keyName := by
  have hkeys : t.keys = (columns.filter (·.primaryKey)).map (·.name) :=
    (Column.keys_of_keeps h).symm
  unfold TableDescription.keyName
  rw [hkeys]
  unfold keyColumn at hkey
  split at hkey
  · next key hflagged =>
    cases hkey
    rw [hflagged]
    rfl
  · cases hkey
  · next hflagged =>
    rw [hflagged]
    split at hkey
    · next found hfind =>
      cases hkey
      simpa using List.find?_some hfind
    · cases hkey

/-- A column goes into tokens under the name that its description gives it. -/
theorem claim?_eq {c : Column} {e : String × ColumnDescription} (hkeeps : c.Keeps e)
    (hkey : s.username.name = t.keyName) : s.claim? c = t.claim? e := by
  unfold claim? TableDescription.claim? ColumnDescription.claim?
  rw [hkeeps.jwtClaim, hkeeps.hidden, hkeeps.name, hkey, Column.isPassword, hkeeps.name]
  by_cases hpassword : e.1 = passwordColumn
  · rw [if_pos (beq_iff_eq.2 hpassword), if_pos hpassword]
  · rw [if_neg (by simpa using hpassword), if_neg hpassword]
    cases e.2.jwtClaim with
    | some claim => rfl
    | none =>
      cases e.2.hidden with
      | false => rfl
      | true => rfl

/-- The columns before one are those whose names come first. -/
theorem mem_before_iff {before after : List (String × ColumnDescription)}
    {e earlier : String × ColumnDescription} (hentries : t.columns.entries = before ++ e :: after) :
    earlier ∈ before ↔ earlier ∈ t.columns.entries ∧ earlier.1 < e.1 := by
  have hsorted := t.columns.sorted
  rw [hentries, List.pairwise_append] at hsorted
  obtain ⟨-, hafter, hbefore⟩ := hsorted
  constructor
  · intro hmem
    rw [hentries]
    exact ⟨List.mem_append_left _ hmem, hbefore earlier hmem e List.mem_cons_self⟩
  · rintro ⟨hmem, hlt⟩
    rw [hentries] at hmem
    rcases List.mem_append.1 hmem with hmem | hmem
    · exact hmem
    rcases List.mem_cons.1 hmem with rfl | hmem
    · exact absurd hlt (String.lt_irrefl _)
    · exact absurd hlt (String.lt_asymm ((List.pairwise_cons.1 hafter).1 earlier hmem))

/-- The check of the claims looks at those of some columns, given the columns before
them and what these have taken. -/
theorem enforces_checkClaims {before after : List (String × ColumnDescription)}
    {taken : List String} (hentries : t.columns.entries = before ++ after)
    (hclaims : List.Forall₂ (fun c e => c.name = e.1 ∧ s.claim? c = t.claim? e) columns after)
    (htaken : ∀ claim, claim ∈ taken ↔ ∃ e ∈ before, t.claim? e = some claim) :
    Enforces (s.checkClaims taken columns) (after.flatMap t.claimRules) := by
  induction hclaims generalizing before taken with
  | nil => exact Enforces.ok ()
  | @cons c e columns after hc _ ih =>
    obtain ⟨hname, hclaim⟩ := hc
    have hstep : t.columns.entries = (before ++ [e]) ++ after := by
      rw [hentries, List.append_assoc, List.singleton_append]
    have htakenStep : ∀ claim, (∃ e' ∈ before ++ [e], t.claim? e' = some claim) ↔
        claim ∈ taken ∨ t.claim? e = some claim := by
      intro claim
      simp only [List.mem_append, List.mem_singleton, or_and_right, exists_or, exists_eq_left,
        htaken]
    rw [List.flatMap_cons]
    unfold checkClaims TableDescription.claimRules
    rw [hclaim, hname]
    cases he : t.claim? e with
    | none =>
      refine ih hstep fun claim => ?_
      rw [htakenStep, he]
      simp
    | some claim =>
      -- what is taken are the claims of the columns before this one
      have hnew : claim ∉ taken ↔
          ∀ earlier ∈ t.columns.entries, earlier.1 < e.1 → t.claim? earlier ≠ some claim := by
        rw [htaken]
        constructor
        · intro hnot earlier hmem hlt hsame
          exact hnot ⟨earlier, (mem_before_iff hentries).2 ⟨hmem, hlt⟩, hsame⟩
        · rintro hnot ⟨earlier, hmem, hsame⟩
          obtain ⟨hmem, hlt⟩ := (mem_before_iff hentries).1 hmem
          exact hnot earlier hmem hlt hsame
      refine Enforces.ite Iff.rfl fun _ => Enforces.ite hnew fun _ => ih hstep fun other => ?_
      rw [htakenStep, he, List.mem_cons, Option.some.injEq, or_comm, eq_comm]

/-! ## What becomes of a description -/

/-- A schema keeps the description of its table. -/
structure Describes (t : TableDescription) (s : Schema) : Prop where
  table : s.table = t.name
  autoCreate : s.autoCreate = t.autoCreate
  columns : List.Forall₂ Column.Keeps s.columns t.columns.entries
  sorted : s.columns.Pairwise (·.name < ·.name)
  key_mem : s.username ∈ s.columns
  key : s.username.name = t.keyName
  claims : List.Forall₂ (fun c e => s.claim? c = t.claim? e) s.columns t.columns.entries

/-- Columns convey the claims that are described for them. -/
theorem claims_of_keeps {entries : List (String × ColumnDescription)}
    (h : List.Forall₂ Column.Keeps columns entries) (hkey : s.username.name = t.keyName) :
    List.Forall₂ (fun c e => c.name = e.1 ∧ s.claim? c = t.claim? e) columns entries :=
  h.imp fun _ _ hkeeps => ⟨hkeeps.name, claim?_eq hkeeps hkey⟩

/-- The whole check goes through the rules of the table in order. -/
theorem enforces_ofDescription (t : TableDescription) : Enforces (ofDescription t) t.rules := by
  unfold ofDescription TableDescription.rules
  simp only [List.append_assoc, List.singleton_append]
  refine Enforces.ite not_not_isPlainName_iff fun _ => ?_
  refine (Column.enforces_ofConfigs _).bind fun columns hcolumns => ?_
  have hkeeps := Column.keeps_of_ofConfigs hcolumns
  refine (enforces_keyColumn hkeeps).bind fun username husername => ?_
  have hkey := name_of_keyColumn hkeeps husername
  refine Enforces.map ?_ _
  refine enforces_checkClaims (List.nil_append _).symm (claims_of_keeps hkeeps hkey) fun claim => ?_
  simp

theorem table_of_ofDescription (h : ofDescription t = .ok s) :
    s.table = t.name ∧ s.autoCreate = t.autoCreate := by
  unfold ofDescription at h
  split at h
  · cases h
  obtain ⟨columns, -, h⟩ := bind_eq_ok_iff.1 h
  obtain ⟨username, -, h⟩ := bind_eq_ok_iff.1 h
  obtain ⟨_, -, h⟩ := bind_eq_ok_iff.1 h
  cases h
  exact ⟨rfl, rfl⟩

/-- A table that is accepted is described by its schema. -/
theorem describes_of_ofDescription (h : ofDescription t = .ok s) : Describes t s := by
  obtain ⟨hcolumns, hkey, -⟩ := of_ofDescription h
  have hkeeps := Column.keeps_of_ofConfigs hcolumns
  have hname := name_of_keyColumn hkeeps hkey
  have hvalid := valid_of_ofDescription h
  exact {
    table := (table_of_ofDescription h).1
    autoCreate := (table_of_ofDescription h).2
    columns := hkeeps
    sorted := hvalid.sorted
    key_mem := hvalid.username_mem
    key := hname
    claims := (claims_of_keeps hkeeps hname).imp fun _ _ hclaim => hclaim.2 }

/-- A description makes a schema if and only if it is well-formed, the schema keeps what
it describes, and of any other description the first broken rule is reported. -/
theorem ofDescription_outcome (t : TableDescription) :
    ((∃ s, ofDescription t = .ok s) ↔ t.WellFormed) ∧
      (∀ s, ofDescription t = .ok s → Describes t s) ∧
      ∀ why, ofDescription t = .error why ↔ FirstBroken t.rules why := by
  have hcheck := enforces_ofDescription t
  refine ⟨?_, fun s h => describes_of_ofDescription h, fun why => hcheck.error_iff⟩
  rw [TableDescription.wellFormed_iff]
  exact hcheck.ok_iff

/-- The members with a column for their names, whose claim the hidden key has, too. -/
def namedMembersTable : TableDescription :=
  { membersTable with columns := membersTable.columns.insert "username" { type := "text" } }

/-- The table of the members is well-formed. With names it is not: all rules hold up to
the one that the claim of the names is not taken. -/
theorem ofDescription_outcome_members :
    membersTable.WellFormed ∧ Describes membersTable members ∧ ¬namedMembersTable.WellFormed ∧
      FirstBroken namedMembersTable.rules (.duplicateClaim "username") := by
  obtain ⟨haccepted, hdescribes, -⟩ := ofDescription_outcome membersTable
  obtain ⟨-, -, hrefused⟩ := ofDescription_outcome namedMembersTable
  have hbroken := (hrefused (.duplicateClaim "username")).1 rfl
  refine ⟨haccepted.1 ⟨members, ofDescription_membersTable⟩,
    hdescribes members ofDescription_membersTable, fun hwell => ?_, hbroken⟩
  exact hbroken.not_forall (TableDescription.wellFormed_iff.1 hwell)

end Schema

end BearerAuth
