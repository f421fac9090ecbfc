import BearerAuth.Http.Header
import BearerAuth.Proofs.NameMap
import BearerAuth.Proofs.Schema.Valid
import BearerAuth.Proofs.Schema.WellFormed
import BearerAuth.Proofs.Text.Blank

/-!
# New users in headers

Every column of a schema has a header for its value. The names of headers are the same in
either case, and those of columns are not: two columns whose names differ in case only have
one header between them. So a record arrives as it was sent if it has the same in any two
such columns, and all records arrive only if there are no such columns. The check of a table
does not look for them.

- `Http.columnHeader_eq_iff`: which columns have the same header.
- `Http.Sendable`, `Http.Request.Sends`: records that headers can carry, and requests that
  carry one.
- `Http.Request.userFields_eq_ok_iff`: what arrives, column by column.
- `Http.record_arrives_iff`: when it is what was sent.
- `Http.mailboxes_confused`: a schema with two such columns.
-/

namespace BearerAuth.Http

/-! ## Names of headers -/

/-- What may stand in the name of a header besides letters and digits. -/
def headerMarks : List Char := "!#$%&'*+-.^_\x60|~".toList

/-- A text that may be the name of a header. -/
def LegalName (name : String) : Prop :=
  name ≠ "" ∧ ∀ c ∈ name.toList, c.isAlphanum = true ∨ c ∈ headerMarks

/-- A plain name has letters, digits and underscores only. -/
theorem isNameChar_of_mem {name : String} (h : isPlainName name = true) {c : Char}
    (hc : c ∈ name.toList) : (isNameStart c || c.isDigit) = true := by
  unfold isPlainName at h
  split at h
  · cases h
  · next first rest hname =>
    rw [Bool.and_eq_true, List.all_eq_true] at h
    rw [hname] at hc
    rcases List.mem_cons.1 hc with rfl | hc
    · rw [h.1, Bool.true_or]
    · exact h.2 c hc

/-- The characters of a plain name are ASCII. -/
theorem toNat_lt_of_isNameChar {c : Char} (hc : (isNameStart c || c.isDigit) = true) :
    c.toNat < 128 := by
  have hle : ∀ d : Char, c ≤ d → c.toNat ≤ d.toNat := fun d hd => UInt32.le_iff_toNat_le.1 hd
  rw [Bool.or_eq_true, isNameStart_iff, isDigit_iff] at hc
  rcases hc with (⟨-, hc⟩ | ⟨-, hc⟩ | rfl) | ⟨-, hc⟩
  · exact Nat.lt_of_le_of_lt (hle _ hc) (by decide)
  · exact Nat.lt_of_le_of_lt (hle _ hc) (by decide)
  · decide
  · exact Nat.lt_of_le_of_lt (hle _ hc) (by decide)

/-- What holds of all characters of plain names is seen by going through them. -/
theorem of_isNameChar {p : Char → Prop}
    (hall : ∀ n < 128, (isNameStart (Char.ofNat n) || (Char.ofNat n).isDigit) = true →
      p (Char.ofNat n))
    {c : Char} (hc : (isNameStart c || c.isDigit) = true) : p c := by
  have hsame := hall c.toNat (toNat_lt_of_isNameChar hc)
  rw [Char.ofNat_toNat] at hsame
  exact hsame hc

theorem toList_columnHeader (name : String) :
    (columnHeader name).toList = "x-user-".toList ++ name.toList.map headerChar := by
  rw [columnHeader, String.toList_append]
  exact congrArg _ String.toList_ofList

/-- The character in lower case of which a character of a header was made. -/
def unhyphened (c : Char) : Char :=
  if c = '-' then '_' else c

section

variable {name other : String} (hname : isPlainName name = true) (hother : isPlainName other = true)

include hname

/-- With its underscores back, what follows the prefix is the name in lower case. -/
theorem map_unhyphened_headerChar :
    (name.toList.map headerChar).map unhyphened = name.toList.map Char.toLower := by
  rw [List.map_map]
  refine List.map_congr_left fun c hc => ?_
  exact of_isNameChar (p := fun c => unhyphened (headerChar c) = c.toLower) (by decide)
    (isNameChar_of_mem hname hc)

/-- Names that differ in case only have one header. -/
theorem map_headerChar_toLower :
    (name.toList.map Char.toLower).map headerChar = name.toList.map headerChar := by
  rw [List.map_map]
  refine List.map_congr_left fun c hc => ?_
  exact of_isNameChar (p := fun c => headerChar c.toLower = headerChar c) (by decide)
    (isNameChar_of_mem hname hc)

/-- The header of a column may be sent. -/
theorem legalName_columnHeader : LegalName (columnHeader name) := by
  have hall : "x-user-".toList.all
      (fun c => decide (c.isAlphanum = true ∨ c ∈ headerMarks)) = true := by decide
  have hstart := fun c hc => of_decide_eq_true (List.all_eq_true.1 hall c hc)
  refine ⟨fun hempty => ?_, fun c hc => ?_⟩
  · have hchars := toList_columnHeader name
    rw [hempty] at hchars
    cases hchars
  · rw [toList_columnHeader] at hc
    rcases List.mem_append.1 hc with hc | hc
    · exact hstart c hc
    · obtain ⟨d, hd, rfl⟩ := List.mem_map.1 hc
      exact of_isNameChar
        (p := fun d => (headerChar d).isAlphanum = true ∨ headerChar d ∈ headerMarks) (by decide)
        (isNameChar_of_mem hname hd)

/-- The header of a column is written in lower case. -/
theorem lowerCase_columnHeader : lowerCase (columnHeader name) = columnHeader name := by
  have hfixed : (name.toList.map headerChar).map Char.toLower = name.toList.map headerChar := by
    rw [List.map_map]
    refine List.map_congr_left fun c hc => ?_
    exact of_isNameChar (p := fun c => (headerChar c).toLower = headerChar c) (by decide)
      (isNameChar_of_mem hname hc)
  rw [lowerCase, toList_columnHeader, List.map_append, hfixed, String.ofList_append]
  rfl

include hother

/-- Two columns have the same header if their names differ in case only, and not
otherwise. -/
theorem columnHeader_eq_iff : columnHeader name = columnHeader other ↔
    lowerCase name = lowerCase other := by
  rw [columnHeader, columnHeader, String.append_right_inj, String.ofList_inj, lowerCase, lowerCase,
    String.ofList_inj]
  constructor
  · intro h
    rw [← map_unhyphened_headerChar hname, ← map_unhyphened_headerChar hother, h]
  · intro h
    rw [← map_headerChar_toLower hname, ← map_headerChar_toLower hother, h]

end

/-! ## What is sent -/

/-- A text that may be the value of a header: no control characters but tabs. -/
def LegalValue (value : String) : Prop :=
  ∀ b ∈ Text.utf8 value, b = 9 ∨ (32 ≤ b ∧ b ≠ 127)

instance (value : String) : Decidable (LegalValue value) :=
  List.decidableBAll _ _

/-- A record that headers can carry: of columns of the schema, and of texts that may be values
of headers, have no blanks to be cut and are not empty. -/
structure Sendable (s : Schema) (record : Fields) : Prop where
  columns : ∀ e ∈ record.entries, ∃ c ∈ s.columns, c.name = e.1
  legal : ∀ e ∈ record.entries, LegalValue e.2
  unpadded : ∀ e ∈ record.entries, Text.Unpadded e.2.toList
  nonempty : ∀ e ∈ record.entries, e.2 ≠ ""

/-- A record that can be sent has values in columns of the schema only. -/
theorem Sendable.column_of_get? {s : Schema} {record : Fields} (h : Sendable s record)
    {name value : String} (hvalue : record.get? name = some value) :
    ∃ c ∈ s.columns, c.name = name :=
  h.columns (name, value) (NameMap.mem_entries_iff.2 hvalue)

namespace Request

/-- The headers of the request by their names in lower case, in order. -/
def headersInLowerCase (r : Request) : List (String × List UInt8) :=
  r.headers.map fun h => (lowerCase h.1, h.2)

/-- The headers for columns of the schema. -/
def headersForColumns (r : Request) (s : Schema) : List (String × List UInt8) :=
  r.headersInLowerCase.filter fun h => h.1 ∈ s.columns.map fun c => columnHeader c.name

/-- The request is for a new user and has, of headers for columns, those with the values of the
record, in any order. -/
structure Sends (r : Request) (s : Schema) (record : Fields) : Prop where
  method : r.method = "POST"
  path : r.path = "/createUser"
  headers : (r.headersForColumns s).Perm
    (record.entries.map fun e => (columnHeader e.1, Text.utf8 e.2))

variable {r : Request} {s : Schema} {record : Fields} {c : Column} {name : String}

theorem mem_of_header? {bytes : List UInt8} (h : r.header? name = some bytes) :
    (name, bytes) ∈ r.headersInLowerCase := by
  obtain ⟨found, hfound, rfl⟩ := Option.map_eq_some_iff.1 h
  have hname : lowerCase found.1 = name := by simpa using List.find?_some hfound
  exact List.mem_map.2 ⟨found, List.mem_of_find?_eq_some hfound, by rw [hname]⟩

theorem header?_eq_none_iff :
    r.header? name = none ↔ ∀ h ∈ r.headersInLowerCase, h.1 ≠ name := by
  rw [header?, Option.map_eq_none_iff, List.find?_eq_none, headersInLowerCase, List.forall_mem_map]
  simp

/-- What the header of a column says: the value of a column of the record that has the same
header, or nothing, if there is none. -/
theorem Sends.value_cases (h : r.Sends s record) (hrecord : Sendable s record)
    (hc : c ∈ s.columns) :
    (∃ name value, record.get? name = some value ∧ columnHeader name = columnHeader c.name ∧
      r.value (columnHeader c.name) = .ok (some value)) ∨
    (∀ name value, record.get? name = some value → columnHeader name ≠ columnHeader c.name) ∧
      r.value (columnHeader c.name) = .ok none := by
  have hheader : columnHeader c.name ∈ s.columns.map fun c => columnHeader c.name :=
    List.mem_map_of_mem hc
  cases hfound : r.header? (columnHeader c.name) with
  | some bytes =>
    have hsent : (columnHeader c.name, bytes) ∈ r.headersForColumns s :=
      List.mem_filter.2 ⟨mem_of_header? hfound, by simpa using hheader⟩
    obtain ⟨e, he, heq⟩ := List.mem_map.1 (h.headers.subset hsent)
    obtain ⟨hname, rfl⟩ := Prod.mk.inj heq
    refine .inl ⟨e.1, e.2, NameMap.mem_entries_iff.1 he, hname, ?_⟩
    rw [value, hfound]
    dsimp only
    rw [Text.ofUtf8?_utf8]
    dsimp only
    rw [Text.trim_of_unpadded (hrecord.unpadded e he), if_neg (hrecord.nonempty e he)]
  | none =>
    refine .inr ⟨fun name value hvalue heq => ?_, by rw [Request.value, hfound]⟩
    have hentry : (name, value) ∈ record.entries := NameMap.mem_entries_iff.2 hvalue
    have hsent : (columnHeader name, Text.utf8 value) ∈ r.headersForColumns s :=
      h.headers.symm.subset (List.mem_map.2 ⟨_, hentry, rfl⟩)
    exact header?_eq_none_iff.1 hfound _ (List.mem_filter.1 hsent).1 heq

/-- A request that sends a record has a legible value for every column, or none. -/
theorem Sends.exists_value (h : r.Sends s record) (hrecord : Sendable s record)
    (hc : c ∈ s.columns) : ∃ found, r.value (columnHeader c.name) = .ok found := by
  rcases h.value_cases hrecord hc with ⟨_, value, -, -, hvalue⟩ | ⟨-, hvalue⟩
  · exact ⟨some value, hvalue⟩
  · exact ⟨none, hvalue⟩

/-! ## What arrives -/

/-- The values for columns, on top of others, are what the headers of the columns say. -/
theorem exists_columnValues {columns : List Column} (hnames : (columns.map (·.name)).Nodup)
    (hvalues : ∀ c ∈ columns, ∃ found, r.value (columnHeader c.name) = .ok found)
    {fields : Fields} (hfresh : ∀ c ∈ columns, fields.get? c.name = none) :
    ∃ arrived, r.columnValues columns fields = .ok arrived ∧
      (∀ c ∈ columns, r.value (columnHeader c.name) = .ok (arrived.get? c.name)) ∧
      ∀ name, (∀ c ∈ columns, c.name ≠ name) → arrived.get? name = fields.get? name := by
  induction columns generalizing fields with
  | nil => exact ⟨fields, rfl, fun _ hc => absurd hc List.not_mem_nil, fun _ _ => rfl⟩
  | cons c rest ih =>
    obtain ⟨hnew, hnames⟩ := List.nodup_cons.1 hnames
    have hothers : ∀ d ∈ rest, d.name ≠ c.name := fun d hd heq =>
      hnew (List.mem_map.2 ⟨d, hd, heq⟩)
    have hrest := fun d hd => hvalues d (List.mem_cons_of_mem c hd)
    obtain ⟨found, hfound⟩ := hvalues c List.mem_cons_self
    rw [columnValues, hfound]
    cases found with
    | none =>
      obtain ⟨arrived, hok, hcolumns, hother⟩ :=
        ih hnames hrest fun d hd => hfresh d (List.mem_cons_of_mem _ hd)
      -- the other columns have other names and leave this one alone
      have hnone : arrived.get? c.name = none := by
        rw [hother c.name hothers, hfresh c List.mem_cons_self]
      refine ⟨arrived, hok, List.forall_mem_cons.2 ⟨by rw [hfound, hnone], hcolumns⟩, ?_⟩
      exact fun name hname => hother name (List.forall_mem_cons.1 hname).2
    | some value =>
      have hinserted : ∀ d ∈ rest, (fields.insert c.name value).get? d.name = none := by
        intro d hd
        rw [NameMap.get?_insert_of_ne _ (hothers d hd), hfresh d (List.mem_cons_of_mem _ hd)]
      obtain ⟨arrived, hok, hcolumns, hother⟩ := ih hnames hrest hinserted
      have hsome : arrived.get? c.name = some value := by
        rw [hother c.name hothers, NameMap.get?_insert_self]
      refine ⟨arrived, hok, List.forall_mem_cons.2 ⟨by rw [hfound, hsome], hcolumns⟩, ?_⟩
      intro name hname
      obtain ⟨hne, hname⟩ := List.forall_mem_cons.1 hname
      rw [hother name hname, NameMap.get?_insert_of_ne _ hne.symm]

/-- What arrives is what the headers of the columns say, and nothing else. -/
theorem userFields_eq_ok_iff (hs : s.Valid)
    (hvalues : ∀ c ∈ s.columns, ∃ found, r.value (columnHeader c.name) = .ok found) :
    r.userFields s = .ok record ↔
      (∀ c ∈ s.columns, r.value (columnHeader c.name) = .ok (record.get? c.name)) ∧
        ∀ name, (∀ c ∈ s.columns, c.name ≠ name) → record.get? name = none := by
  have hfresh : ∀ c ∈ s.columns, (NameMap.empty : Fields).get? c.name = none := fun _ _ => rfl
  obtain ⟨arrived, hok, hcolumns, hothers⟩ := exists_columnValues hs.names_nodup hvalues hfresh
  rw [userFields, hok]
  constructor
  · intro h
    cases h
    exact ⟨hcolumns, hothers⟩
  · rintro ⟨hrecord, hnone⟩
    congr 1
    refine NameMap.ext_get? fun name => ?_
    by_cases hname : ∀ c ∈ s.columns, c.name ≠ name
    · rw [hnone name hname, hothers name hname]
      rfl
    · push Not at hname
      obtain ⟨c, hc, rfl⟩ := hname
      exact Except.ok.inj ((hcolumns c hc).symm.trans (hrecord c hc))

end Request

section

variable {table : TableDescription} {s : Schema} {record : Fields} {r : Request}

/-- Two columns of a checked schema share a header if their names differ in case only. -/
theorem columnHeader_eq_iff_of_mem (hs : Schema.ofDescription table = .ok s) {c d : Column}
    (hc : c ∈ s.columns) (hd : d ∈ s.columns) :
    columnHeader c.name = columnHeader d.name ↔ lowerCase c.name = lowerCase d.name := by
  have hplain := (Schema.isPlainName_of_ofDescription hs).2
  exact columnHeader_eq_iff (hplain c hc) (hplain d hd)

/-- A record arrives as it was sent if it has the same in columns whose names differ in case
only, and otherwise it does not. -/
theorem Request.Sends.userFields_eq_iff (hs : Schema.ofDescription table = .ok s)
    (h : r.Sends s record) (hrecord : Sendable s record) :
    r.userFields s = .ok record ↔
      ∀ c ∈ s.columns, ∀ d ∈ s.columns, lowerCase c.name = lowerCase d.name →
        record.get? c.name = record.get? d.name := by
  rw [Request.userFields_eq_ok_iff (Schema.valid_of_ofDescription hs) fun c hc =>
    h.exists_value hrecord hc]
  constructor
  · rintro ⟨hvalues, -⟩ c hc d hd hsame
    have hheader := (columnHeader_eq_iff_of_mem hs hc hd).2 hsame
    have hvalue := hvalues c hc
    rw [hheader, hvalues d hd] at hvalue
    exact (Except.ok.inj hvalue).symm
  · intro hsame
    refine ⟨fun c hc => ?_, fun name hname => ?_⟩
    · rcases h.value_cases hrecord hc with ⟨name, value, hvalue, hheader, hfound⟩ | ⟨hnone, hfound⟩
      · -- the value is that of another column at most, and this has it, too
        obtain ⟨d, hd, rfl⟩ := hrecord.column_of_get? hvalue
        rw [hfound, hsame c hc d hd ((columnHeader_eq_iff_of_mem hs hd hc).1 hheader).symm, hvalue]
      · cases hvalue : record.get? c.name with
        | none => exact hfound
        | some value => exact absurd rfl (hnone c.name value hvalue)
    · cases hvalue : record.get? name with
      | none => rfl
      | some value =>
        obtain ⟨c, hc, heq⟩ := hrecord.column_of_get? hvalue
        exact absurd heq (hname c hc)

/-- Whatever is sent, something arrives, and every value of it was sent for a column whose name
differs in case at most. -/
theorem Request.Sends.exists_userFields (hs : Schema.ofDescription table = .ok s)
    (h : r.Sends s record) (hrecord : Sendable s record) :
    ∃ arrived, r.userFields s = .ok arrived ∧
      ∀ c ∈ s.columns, ∀ value, arrived.get? c.name = some value →
        ∃ d ∈ s.columns, lowerCase d.name = lowerCase c.name ∧
          record.get? d.name = some value := by
  have hvalid := Schema.valid_of_ofDescription hs
  have hfresh : ∀ c ∈ s.columns, (NameMap.empty : Fields).get? c.name = none := fun _ _ => rfl
  obtain ⟨arrived, hok, hvalues, -⟩ := Request.exists_columnValues hvalid.names_nodup
    (fun c hc => h.exists_value hrecord hc) hfresh
  refine ⟨arrived, hok, fun c hc value hvalue => ?_⟩
  have hsays := hvalues c hc
  rw [hvalue] at hsays
  rcases h.value_cases hrecord hc with ⟨name, sent, hsent, hheader, hfound⟩ | ⟨-, hfound⟩
  · obtain ⟨d, hd, rfl⟩ := hrecord.column_of_get? hsent
    rw [hfound] at hsays
    cases hsays
    exact ⟨d, hd, (columnHeader_eq_iff_of_mem hs hd hc).1 hheader, hsent⟩
  · rw [hfound] at hsays
    cases hsays

/-- The value of one column, in the header of the column. -/
def singlePost (c : Column) (value : String) : Request where
  method := "POST"
  path := "/createUser"
  headers := [(columnHeader c.name, Text.utf8 value)]
  peer := none

/-- A request with one header sends the record with one value. -/
theorem sends_singlePost (hs : Schema.ofDescription table = .ok s) {c : Column}
    (hc : c ∈ s.columns) (value : String) :
    (singlePost c value).Sends s (NameMap.empty.insert c.name value) where
  method := rfl
  path := rfl
  headers := by
    have hplain := (Schema.isPlainName_of_ofDescription hs).2 c hc
    have hsent : (singlePost c value).headersForColumns s =
        [(columnHeader c.name, Text.utf8 value)] := by
      rw [Request.headersForColumns, Request.headersInLowerCase, singlePost, List.map_singleton,
        lowerCase_columnHeader hplain, List.filter_cons_of_pos]
      · rfl
      · simpa using ⟨c, hc, rfl⟩
    rw [hsent]
    exact List.Perm.refl _

theorem sendable_single {c : Column} (hc : c ∈ s.columns) :
    Sendable s (NameMap.empty.insert c.name "x") := by
  have hentry : ∀ e ∈ (NameMap.empty.insert c.name "x" : Fields).entries, e = (c.name, "x") :=
    fun e he => List.mem_singleton.1 he
  refine ⟨fun e he => ⟨c, hc, ?_⟩, fun e he => ?_, fun e he => ?_, fun e he => ?_⟩
  · rw [hentry e he]
  · rw [hentry e he]
    show LegalValue "x"
    decide
  · rw [hentry e he]
    show Text.Unpadded "x".toList
    decide
  · rw [hentry e he]
    show "x" ≠ ""
    decide

/-- The names of the columns are distinct even in lower case. -/
def DistinctInLowerCase (s : Schema) : Prop :=
  (s.columns.map fun c => lowerCase c.name).Nodup

/-- Every column of a checked schema has a header with a name that it may have. Two columns have
the same one if and only if their names differ in case at most. When a record is sent, something
arrives, with every value in a column whose name is that of its own but for the case; and that is
the record if it has the same in any two columns that differ in case only. So all records arrive
as they were sent if and only if there are no such columns. -/
theorem record_arrives_iff (hs : Schema.ofDescription table = .ok s) :
    (∀ c ∈ s.columns, LegalName (columnHeader c.name)) ∧
    (∀ c ∈ s.columns, ∀ d ∈ s.columns,
      columnHeader c.name = columnHeader d.name ↔ lowerCase c.name = lowerCase d.name) ∧
    (∀ record r, Sendable s record → Request.Sends r s record →
      (∃ arrived, r.userFields s = .ok arrived ∧
        ∀ c ∈ s.columns, ∀ value, arrived.get? c.name = some value →
          ∃ d ∈ s.columns, lowerCase d.name = lowerCase c.name ∧
            record.get? d.name = some value) ∧
      (r.userFields s = .ok record ↔
        ∀ c ∈ s.columns, ∀ d ∈ s.columns, lowerCase c.name = lowerCase d.name →
          record.get? c.name = record.get? d.name)) ∧
    ((∀ record r, Sendable s record → Request.Sends r s record →
      r.userFields s = .ok record) ↔ DistinctInLowerCase s) := by
  have hvalid := Schema.valid_of_ofDescription hs
  refine ⟨fun c hc => legalName_columnHeader ((Schema.isPlainName_of_ofDescription hs).2 c hc),
    fun c hc d hd => columnHeader_eq_iff_of_mem hs hc hd,
    fun record r hrecord h => ⟨h.exists_userFields hs hrecord, h.userFields_eq_iff hs hrecord⟩, ?_⟩
  constructor
  · intro harrive
    refine (List.nodup_map_iff_inj_on (List.Nodup.of_map _ hvalid.names_nodup)).2 ?_
    intro c hc d hd hsame
    -- a record of the one column alone has to arrive
    have hrecord := sendable_single hc
    have hsends := sends_singlePost hs hc "x"
    have hequal := (hsends.userFields_eq_iff hs hrecord).1 (harrive _ _ hrecord hsends)
    have hboth := hequal c hc d hd hsame
    rw [NameMap.get?_insert_self] at hboth
    refine hvalid.eq_of_name_eq hc hd ?_
    by_contra hne
    rw [NameMap.get?_insert_of_ne _ (Ne.symm hne)] at hboth
    cases hboth
  · intro hdistinct record r hrecord h
    refine (h.userFields_eq_iff hs hrecord).2 fun c hc d hd hsame => ?_
    rw [List.inj_on_of_nodup_map hdistinct hc hd hsame]

end

/-! ## A member -/

/-- What is sent for a member. -/
def cardSent : Fields :=
  (NameMap.empty.insert "password" "correct horse").insert "email" "ada@example.org"

/-- How it is sent, among other headers. -/
def cardPost : Request where
  method := "POST"
  path := "/createUser"
  headers :=
    [("Host", Text.utf8 "example.org"), ("X-User-Password", Text.utf8 "correct horse"),
      ("x-user-email", Text.utf8 "ada@example.org")]
  peer := none

/-- No columns of the members differ in case only, and what is sent for one arrives. -/
theorem record_arrives_iff_members :
    Schema.ofDescription Schema.membersTable = .ok .members ∧ DistinctInLowerCase .members ∧
      Sendable .members cardSent ∧ cardPost.Sends .members cardSent ∧
      cardPost.userFields .members = .ok cardSent := by
  have hs := Schema.ofDescription_membersTable
  have hdistinct : DistinctInLowerCase .members := by
    rw [DistinctInLowerCase]
    decide +kernel
  have hrecord : Sendable .members cardSent := by
    constructor <;> decide +kernel
  have hsends : cardPost.Sends .members cardSent := ⟨rfl, rfl, by decide +kernel⟩
  obtain ⟨-, -, -, harrive⟩ := record_arrives_iff hs
  exact ⟨hs, hdistinct, hrecord, hsends, harrive.2 hdistinct cardSent cardPost hrecord hsends⟩

/-! ## A table -/

/-- People with two addresses, whose columns differ in case only. -/
def mailboxesTable : TableDescription where
  name := "users"
  columns :=
    { entries :=
        [("Email", { type := "text" }), ("email", { type := "text" }),
          ("password", { type := "text", required := true }),
          ("username", { type := "text", primaryKey := true, required := true })]
      sorted := by decide }

/-- The schema of the people. -/
def mailboxes : Schema where
  table := "users"
  autoCreate := false
  columns :=
    [.plain "Email" .text, .plain "email" .text, .needed "password" .text, .key "username" .text]
  username := .key "username" .text

/-- What is sent for somebody with the second address only. -/
def ownerSent : Fields :=
  ((NameMap.empty.insert "email" "ada@example.org").insert "password" "correct horse").insert
    "username" "ada"

/-- How it is sent. -/
def ownerPost : Request where
  method := "POST"
  path := "/createUser"
  headers :=
    [("x-user-username", Text.utf8 "ada"), ("x-user-password", Text.utf8 "correct horse"),
      ("x-user-email", Text.utf8 "ada@example.org")]
  peer := none

/-- The two addresses have one header, and so the first one arrives, too, which was not
sent. -/
theorem mailboxes_confused :
    Schema.ofDescription mailboxesTable = .ok mailboxes ∧
      columnHeader "Email" = columnHeader "email" ∧
      Sendable mailboxes ownerSent ∧ ownerPost.Sends mailboxes ownerSent ∧
      ownerSent.get? "Email" = none ∧
      ownerPost.userFields mailboxes = .ok (ownerSent.insert "Email" "ada@example.org") ∧
      ownerPost.userFields mailboxes ≠ .ok ownerSent := by
  have hrecord : Sendable mailboxes ownerSent := by
    constructor <;> decide +kernel
  have hsends : ownerPost.Sends mailboxes ownerSent := ⟨rfl, rfl, by decide +kernel⟩
  exact ⟨rfl, by decide, hrecord, hsends, by decide +kernel, by decide +kernel, by decide +kernel⟩

end BearerAuth.Http
