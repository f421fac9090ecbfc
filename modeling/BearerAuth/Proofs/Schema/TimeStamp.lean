import BearerAuth.Proofs.Schema.ColumnType

/-!
# One text for one time

A time can be written in many ways: with every offset, with digits for nanoseconds, as the
sixtieth second of a minute. The form in which time stamps are stored is one of them, in UTC
and whole microseconds, and is the same for two stamps exactly if their instants are the
same but for what lies below a microsecond.

- `ColumnType.accepts_timestamp_iff`: the time stamps are the texts that denote an instant.
- `ColumnType.canonical_eq_fault_iff`, `ColumnType.canonical_eq_none_iff`: which values are
  times after the calendar, and which have no stored form.
- `ColumnType.canonical_timestamp_eq_iff`: when two stamps are stored alike, and what is
  stored for them.
-/

namespace BearerAuth.ColumnType

open Time

theorem accepts_timestamp_iff {s : String} :
    timestamp.accepts s = true ↔ ∃ t, Rfc3339.Denotes s t := by
  show (Rfc3339.read? s).isSome = true ↔ _
  rw [Option.isSome_iff_exists]
  exact exists_congr fun t => Rfc3339.read?_eq_some_iff

/-- Only a time stamp for an instant after the last year has a stored form that is a fault. -/
theorem canonical_eq_fault_iff {t : ColumnType} {value : String} :
    t.canonical value = .error .mk ↔
      t = timestamp ∧ ∃ u, Rfc3339.Denotes value u ∧ 9999 < u.date.year := by
  by_cases htype : t = timestamp
  · subst htype
    rw [and_iff_right rfl]
    exact Rfc3339.canonical_eq_error_iff
  · rw [canonical_of_ne htype]
    constructor
    · intro h
      cases h
    · rintro ⟨h, -⟩
      exact absurd h htype

/-- A value without a stored form is none of the type, or a time stamp before the year 0. -/
theorem canonical_eq_none_iff {t : ColumnType} {value : String} :
    t.canonical value = .ok none ↔
      t.accepts value = false ∨
        t = timestamp ∧ ∃ u, Rfc3339.Denotes value u ∧ u.date.year < 0 := by
  by_cases htype : t = timestamp
  · subst htype
    rw [← Bool.not_eq_true, accepts_timestamp_iff, and_iff_right rfl]
    show Rfc3339.canonical value = .ok none ↔ _
    rw [Rfc3339.canonical_eq_none_iff]
    constructor
    · intro hall
      by_cases h : ∃ u, Rfc3339.Denotes value u
      · obtain ⟨u, hu⟩ := h
        exact .inr ⟨u, hu, hall u hu⟩
      · exact .inl h
    · rintro (hnot | ⟨u, hu, hearly⟩) v hv
      · exact absurd ⟨v, hv⟩ hnot
      · rw [hv.unique hu]
        exact hearly
  · rw [canonical_of_ne htype, ← Bool.not_eq_true]
    by_cases haccepts : t.accepts value = true
    · simp [haccepts, htype]
    · simp [haccepts]

/-- Every time stamp denotes one instant. Two of them whose instants lie in the years 0 to
9999 of UTC have stored forms, and these are the same text exactly if the instants, rounded
down to whole microseconds, are the same. What is stored is a stamp in UTC for the instant
so rounded, and is its own stored form. -/
theorem canonical_timestamp_eq_iff {s s' : String} (h : timestamp.accepts s = true)
    (h' : timestamp.accepts s' = true) :
    ∃ t t', (∀ u, Rfc3339.Denotes s u ↔ u = t) ∧ (∀ u, Rfc3339.Denotes s' u ↔ u = t') ∧
      (t.FourDigitYear → t'.FourDigitYear →
        ∃ stored stored', timestamp.canonical s = .ok (some stored) ∧
          timestamp.canonical s' = .ok (some stored') ∧ (stored = stored' ↔ t.cut = t'.cut) ∧
          timestamp.accepts stored = true ∧
          (∃ stamp : Rfc3339.Stamp, stored = stamp.text ∧ stamp.offset = .zulu true ∧
            stamp.instant = t.cut) ∧
          timestamp.canonical stored = .ok (some stored)) := by
  obtain ⟨t, ht⟩ := accepts_timestamp_iff.1 h
  obtain ⟨t', ht'⟩ := accepts_timestamp_iff.1 h'
  refine ⟨t, t', fun u => ht.iff_eq, fun u => ht'.iff_eq, fun hyear hyear' => ?_⟩
  obtain ⟨stored, hstored⟩ := Rfc3339.exists_write?_iff.2 hyear
  obtain ⟨stored', hstored'⟩ := Rfc3339.exists_write?_iff.2 hyear'
  have hcanonical : timestamp.canonical s = .ok (some stored) :=
    (Rfc3339.canonical_of_denotes ht).trans hstored
  have hcanonical' : timestamp.canonical s' = .ok (some stored') :=
    (Rfc3339.canonical_of_denotes ht').trans hstored'
  obtain ⟨stamp, htext, hoffset, hinstant⟩ := Rfc3339.stamp_of_write? hstored
  refine ⟨stored, stored', hcanonical, hcanonical', ⟨fun heq => ?_, fun heq => ?_⟩,
    accepts_of_canonical hcanonical, ⟨stamp, htext, hoffset, hinstant⟩,
    canonical_of_canonical hcanonical⟩
  · -- one text denotes one instant
    have hread := Rfc3339.read?_of_write? hstored
    rw [heq, Rfc3339.read?_of_write? hstored'] at hread
    exact (Option.some.inj hread).symm
  · -- what is written depends on the whole microseconds only
    have hwrite : Rfc3339.write? t = Rfc3339.write? t' := by
      rw [← Rfc3339.write?_cut, heq, Rfc3339.write?_cut]
    rw [hstored, hstored'] at hwrite
    exact Option.some.inj (Except.ok.inj hwrite)

/-- A sixtieth second at the end of 1969, as New York would have it, and a time in the
last microsecond before 1970, as Berlin has it, are stored alike. -/
theorem canonical_timestamp_eq_iff_newYear :
    timestamp.accepts "1969-12-31T18:59:60-05:00" = true ∧
      timestamp.accepts "1970-01-01T00:59:59.9999994+01:00" = true ∧
      ∃ stored, timestamp.canonical "1969-12-31T18:59:60-05:00" = .ok (some stored) ∧
        timestamp.canonical "1970-01-01T00:59:59.9999994+01:00" = .ok (some stored) ∧
        ∃ stamp : Rfc3339.Stamp, stored = stamp.text ∧ stamp.offset = .zulu true ∧
          stamp.instant = ⟨-1000⟩ := by
  obtain ⟨t, t', ht, ht', hstored⟩ := canonical_timestamp_eq_iff
    (show timestamp.accepts "1969-12-31T18:59:60-05:00" = true from rfl)
    (show timestamp.accepts "1970-01-01T00:59:59.9999994+01:00" = true from rfl)
  obtain rfl := (ht ⟨-1⟩).1 (Rfc3339.read?_eq_some_iff.1 rfl)
  obtain rfl := (ht' ⟨-600⟩).1 (Rfc3339.read?_eq_some_iff.1 rfl)
  obtain ⟨stored, stored', hcanonical, hcanonical', heq, -, hstamp, -⟩ :=
    hstored (by decide) (by decide)
  obtain rfl := heq.2 rfl
  exact ⟨rfl, rfl, stored, hcanonical, hcanonical', hstamp⟩

end BearerAuth.ColumnType
