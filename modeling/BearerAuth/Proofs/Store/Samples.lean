import BearerAuth.Proofs.Password.Hash
import BearerAuth.Proofs.Store.Record

/-!
# Users made to measure

Every schema has users, and two of them may agree in the columns that one picks
and differ in all others. What a schema does not rule out can therefore be shown
of every schema, and not of one example only.

- `ColumnType.sample`: two values of every type.
- `Schema.samples`: values supplied for all columns, the second ones where they
  are picked.
- `Schema.Valid.prepare_samples`: the record that is prepared from them.
-/

namespace BearerAuth

namespace ColumnType

/-- Two values of every type, in the form in which they are stored. -/
def sample : ColumnType → Bool → String
  | text, false => "ada"
  | text, true => "grace"
  | integer, false => "0"
  | integer, true => "1"
  | boolean, false => "false"
  | boolean, true => "true"
  | uuid, false => "00000000000000000000000000000000"
  | uuid, true => "11111111111111111111111111111111"
  | jsonb, false => "0"
  | jsonb, true => "1"
  | timestamp, false => "2000-01-01T00:00:00Z"
  | timestamp, true => "2001-01-01T00:00:00Z"

/-- A sample is stored as it is. -/
theorem canonical_sample (t : ColumnType) (second : Bool) :
    t.canonical (t.sample second) = .ok (some (t.sample second)) := by
  cases t <;> cases second <;> rfl

/-- The two samples of a type differ. -/
theorem sample_injective (t : ColumnType) {a b : Bool} (h : t.sample a = t.sample b) : a = b := by
  revert h
  cases t <;> cases a <;> cases b <;> decide

end ColumnType

/-- Two salts. -/
def sampleSalt (second : Bool) : Password.Salt :=
  Vector.replicate 16 (if second then 1 else 0)

theorem sampleSalt_injective {a b : Bool} (h : sampleSalt a = sampleSalt b) : a = b := by
  revert h
  cases a <;> cases b <;> decide

/-- What is stored in the column for the sample. -/
def Column.sampled (c : Column) (second : Bool) : String :=
  if c.isPassword then Password.hash (sampleSalt second) (c.type.sample second)
  else c.type.sample second

/-- What is stored for the two samples differs as well: the hashes of the passwords do as
their salts do. -/
theorem Column.sampled_injective (c : Column) {a b : Bool} (h : c.sampled a = c.sampled b) :
    a = b := by
  unfold sampled at h
  split at h
  · exact sampleSalt_injective (Password.salt_eq_of_hash_eq h)
  · exact c.type.sample_injective h

namespace Schema

variable {s : Schema} (pick : String → Bool)

/-- Values for all columns, the second ones where they are picked. -/
def samples (s : Schema) (pick : String → Bool) : Fields :=
  NameMap.ofList (s.columns.map fun c => (c.name, c.type.sample (pick c.name)))

/-- The salt that goes with the values, the second one if the second password is
picked. -/
def samplesSalt (pick : String → Bool) : Password.Salt :=
  sampleSalt (pick passwordColumn)

/-- No column is supplied with the sample of another. -/
theorem Valid.get?_samples (hs : s.Valid) {c : Column} (hc : c ∈ s.columns) :
    (s.samples pick).get? c.name = some (c.type.sample (pick c.name)) := by
  have hlookup := NameMap.lookup_map_of_mem Column.name (fun c => c.type.sample (pick c.name))
    hs.names_nodup hc
  rw [samples, NameMap.get?_ofList]
  · exact hlookup
  · rw [List.map_map]
    exact hs.names_nodup

/-- The sample of a column can be stored in it. -/
theorem stored_sample (c : Column) :
    c.stored (samplesSalt pick) (some (c.type.sample (pick c.name))) =
      .ok (.ok (some (c.sampled (pick c.name)))) := by
  unfold Column.stored Column.sampled
  dsimp only [Option.some_or]
  split
  · next hpassword =>
    rw [samplesSalt, beq_iff_eq.1 hpassword]
  · rw [ColumnType.canonical_sample]

/-- Filling comes to an end if something can be stored in every column. -/
theorem exists_fill {salt : Password.Salt} {supplied : Fields} {columns : List Column}
    (h : ∀ c ∈ columns, ∃ value, c.stored salt (supplied.get? c.name) = .ok (.ok (some value)))
    (record : Fields) : ∃ filled, fill salt supplied columns record = .ok (.ok filled) := by
  induction columns generalizing record with
  | nil => exact ⟨record, rfl⟩
  | cons c rest ih =>
    obtain ⟨value, hvalue⟩ := h c List.mem_cons_self
    obtain ⟨filled, hfilled⟩ :=
      ih (fun x hx => h x (List.mem_cons_of_mem _ hx)) (record.insert c.name value)
    exact ⟨filled, by rw [fill, hvalue]; exact hfilled⟩

/-- Every schema has the user that is asked for. -/
theorem Valid.prepare_samples (hs : s.Valid) :
    ∃ record, s.prepare (samplesSalt pick) (s.samples pick) = .ok (.ok record) ∧
      ∀ c ∈ s.columns, record.get? c.name = some (c.sampled (pick c.name)) := by
  have hstored : ∀ c ∈ s.columns,
      c.stored (samplesSalt pick) ((s.samples pick).get? c.name) =
        .ok (.ok (some (c.sampled (pick c.name)))) := by
    intro c hc
    rw [hs.get?_samples pick hc]
    exact stored_sample pick c
  obtain ⟨record, hfill⟩ := exists_fill (fun c hc => ⟨_, hstored c hc⟩) .empty
  have hvalues : ∀ c ∈ s.columns, record.get? c.name = some (c.sampled (pick c.name)) := by
    intro c hc
    have hheld := (get?_fill hfill hs.names_nodup fun _ _ => NameMap.get?_empty _).1 c hc
    rw [hstored c hc] at hheld
    exact (Except.ok.inj (Except.ok.inj hheld)).symm
  refine ⟨record, ?_, hvalues⟩
  have hnamed : record.contains s.username.name = true := by
    rw [NameMap.contains, hvalues s.username hs.username_mem, Option.isSome_some]
  rw [prepare, hfill]
  dsimp only
  rw [if_pos hnamed]

end Schema

end BearerAuth
