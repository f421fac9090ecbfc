import BearerAuth.Proofs.Time.Stamp

/-!
# Stamps in their stored form

What is written for an instant is a stamp in UTC that denotes the instant, cut to whole
microseconds, and the stamp of the instant so cut is the same one. A stamp in the form in
which it is stored therefore stays as it is.

- `Instant.cut`: the instant rounded down to whole microseconds.
- `Instant.year_lt_iff`, `Instant.representable_iff_year`: years and the instants in them.
- `Rfc3339.write?_eq`, `Rfc3339.stamp_of_write?`: for which instants something is written,
  and what it is.
- `Rfc3339.write?_cut`: the nanoseconds below a microsecond do not count.
- `Rfc3339.read?_of_canonical`, `Rfc3339.canonical_of_canonical`: a stamp in its
  stored form is a stamp, of whole microseconds, and is its own stored form.
- `Rfc3339.canonical_eq_error_iff`, `Rfc3339.canonical_eq_none_iff`: which texts have no
  stored form.
-/

namespace BearerAuth.Time

namespace Instant

/-- The instant rounded down to whole microseconds. -/
def cut (t : Instant) : Instant :=
  ⟨t.nanoseconds / 1000 * 1000⟩

/-- Cutting to microseconds does not change the second. -/
theorem seconds_cut (t : Instant) : t.cut.seconds = t.seconds := by
  simp only [seconds, cut, nanosPerSecond]
  omega

/-- Cutting to microseconds does not change these. -/
theorem micros_cut (t : Instant) : t.cut.subsecond / 1000 = t.subsecond / 1000 := by
  simp only [subsecond, cut, nanosPerSecond]
  omega

theorem date_cut (t : Instant) : t.cut.date = t.date := by
  rw [date, seconds_cut, date]

theorem secondOfDay_cut (t : Instant) : t.cut.secondOfDay = t.secondOfDay := by
  rw [secondOfDay, seconds_cut, secondOfDay]

/-- Cutting to microseconds does not lead out of the calendar, or into it. -/
theorem representable_cut (t : Instant) : t.cut.representable = t.representable := by
  have hstart : calendarStart.nanoseconds = -377705116800000000 * 1000 := by decide
  have hend : calendarEnd.nanoseconds = 253402300800000000 * 1000 := by decide
  rw [Bool.eq_iff_iff]
  simp only [representable, cut, hstart, hend, Bool.and_eq_true, decide_eq_true_eq]
  omega

/-- An instant that was cut has nothing left to cut. -/
theorem cut_cut (t : Instant) : t.cut.cut = t.cut := by
  simp only [cut]
  congr 1
  omega

theorem secondOfDay_bounds (t : Instant) : 0 ≤ t.secondOfDay ∧ t.secondOfDay < 86400 := by
  simp only [secondOfDay, secondsPerDay]
  omega

theorem subsecond_bounds (t : Instant) : 0 ≤ t.subsecond ∧ t.subsecond < 1000000000 := by
  simp only [subsecond, nanosPerSecond]
  omega

/-- The instants before a year have dates in earlier years, and no others have. -/
theorem year_lt_iff {t : Instant} {year : Int} :
    t.date.year < year ↔
      t.nanoseconds < (Date.dayNumber ⟨year, 1, 1⟩ * secondsPerDay) * nanosPerSecond := by
  rw [date, Date.year_lt_iff]
  simp only [seconds, nanosPerSecond, secondsPerDay]
  omega

/-- The year of the instant in UTC is one that four digits can spell. -/
def FourDigitYear (t : Instant) : Prop :=
  0 ≤ t.date.year ∧ t.date.year ≤ 9999

instance (t : Instant) : Decidable t.FourDigitYear :=
  inferInstanceAs (Decidable (_ ∧ _))

/-- The calendar has the instants of the years -9999 to 9999. -/
theorem representable_iff_year {t : Instant} :
    t.representable = true ↔ -9999 ≤ t.date.year ∧ t.date.year ≤ 9999 := by
  have hstart : calendarStart.nanoseconds =
      (Date.dayNumber ⟨-9999, 1, 1⟩ * secondsPerDay) * nanosPerSecond := by decide
  have hend : calendarEnd.nanoseconds =
      (Date.dayNumber ⟨10000, 1, 1⟩ * secondsPerDay) * nanosPerSecond := by decide
  have hlow : t.date.year < -9999 ↔ _ := year_lt_iff
  have hhigh : t.date.year < 10000 ↔ _ := year_lt_iff
  rw [← hstart] at hlow
  rw [← hend] at hhigh
  simp only [representable, Bool.and_eq_true, decide_eq_true_eq]
  omega

end Instant

namespace Rfc3339

/-! ## Stamps in UTC -/

/-- Digits are their leading part and zeros. -/
theorem exists_zeros (cs : List Char) :
    ∃ count, cs = dropTrailingZeros cs ++ List.replicate count '0' := by
  refine ⟨(cs.reverse.takeWhile (· == '0')).length, ?_⟩
  have hzeros : cs.reverse.takeWhile (· == '0') =
      List.replicate (cs.reverse.takeWhile (· == '0')).length '0' := by
    refine List.eq_replicate_of_mem fun c hc => ?_
    simpa using List.mem_takeWhile_imp hc
  have hsplit := List.takeWhile_append_dropWhile (p := (· == '0')) (l := cs.reverse)
  have hcs := congrArg List.reverse hsplit
  rw [List.reverse_append, List.reverse_reverse, hzeros, List.reverse_replicate] at hcs
  exact hcs.symm

/-- Without trailing zeros there are no other characters. -/
theorem dropTrailingZeros_subset (cs : List Char) : dropTrailingZeros cs ⊆ cs := by
  intro c hc
  have hmem := List.dropWhile_subset _ (List.mem_reverse.1 hc)
  exact List.mem_reverse.1 hmem

/-- The fraction for whole microseconds has digits for them, whether or not zeros at their
end are left out. -/
theorem exists_fractionChars {micros : Nat} (h : micros < 10 ^ 6) :
    ∃ ds, fraction micros = fractionChars ds ∧ nanosOf ds = micros * 1000 := by
  unfold fraction
  by_cases hzero : micros = 0
  · rw [if_pos hzero, hzero]
    exact ⟨[], rfl, rfl⟩
  · obtain ⟨count, hdigits⟩ := exists_zeros (digits 6 micros)
    obtain ⟨ds, hds⟩ := exists_digitChars fun c hc =>
      isSome_digit?_of_mem_digits (dropTrailingZeros_subset (digits 6 micros) (a := c) hc)
    rw [hds] at hdigits
    have hlength : ds.length + count = 6 := by
      have hsix := congrArg List.length hdigits
      rw [length_digits, List.length_append, length_digitChars, List.length_replicate] at hsix
      exact hsix.symm
    have hspelled : spelled ds * 10 ^ count = micros := by
      have hnumber := number?_digits_of_lt h
      rw [hdigits, number?_append_zeros, number?_digitChars] at hnumber
      exact Option.some.inj hnumber
    have hne : ds ≠ [] := by
      -- nothing but zeros would spell zero
      rintro rfl
      exact hzero (hspelled.symm.trans (Nat.zero_mul _))
    have hnanos : spelled ds * 10 ^ 9 = micros * 1000 * 10 ^ ds.length := by
      have hnine : 10 ^ 9 = 10 ^ count * 1000 * 10 ^ ds.length := by
        rw [show 1000 = 10 ^ 3 from rfl, ← Nat.pow_add, ← Nat.pow_add]
        congr 1
        omega
      rw [hnine, ← hspelled, ← Nat.mul_assoc, ← Nat.mul_assoc]
    rw [if_neg hzero, hds]
    refine ⟨ds, ?_, ?_⟩
    · cases ds with
      | nil => exact absurd rfl hne
      | cons d ds => rfl
    · rw [nanosOf, hnanos, Nat.mul_div_cancel _ (Nat.pow_pos (by decide))]

/-- What is written for an instant is a stamp in UTC, of the instant cut to
microseconds. -/
theorem exists_stamp {t : Instant} (hlow : 0 ≤ t.date.year) (hhigh : t.date.year < 10000) :
    ∃ stamp : Stamp, writeList t = stamp.chars ∧ stamp.offset = .zulu true ∧
      stamp.instant = t.cut := by
  obtain ⟨hmidnight, hnoon⟩ := t.secondOfDay_bounds
  obtain ⟨hsub, hnanos⟩ := t.subsecond_bounds
  have hmicros : (t.subsecond / 1000).toNat < 10 ^ 6 := by omega
  obtain ⟨ds, hfraction, hds⟩ := exists_fractionChars hmicros
  obtain ⟨second, hsecond⟩ : ∃ n, n = t.secondOfDay.toNat := ⟨_, rfl⟩
  have hsixty : (⟨second % 60, by omega⟩ : Fin 61) ≠ 60 := by
    rw [Ne, Fin.ext_iff]
    show ¬second % 60 = 60
    omega
  refine ⟨{
    date := t.date
    separator := 'T'
    hour := ⟨second / 3600, by omega⟩
    minute := ⟨second / 60 % 60, by omega⟩
    second := ⟨second % 60, by omega⟩
    fraction := ds
    offset := .zulu true
    year := ⟨hlow, hhigh⟩
    valid := Date.valid_ofDayNumber _
    ascii := by decide
    leap := fun h => absurd h hsixty }, ?_, rfl, ?_⟩
  · rw [writeList, hfraction, ← hsecond]
    rfl
  · -- the days, the seconds and the microseconds make up the instant again
    have hdays : t.date.dayNumber = t.seconds / secondsPerDay := Date.dayNumber_ofDayNumber _
    have hseconds : t.seconds = t.seconds / secondsPerDay * secondsPerDay + t.secondOfDay :=
      (Int.ediv_mul_add_emod _ _).symm
    have hnanoseconds : t.nanoseconds = t.seconds * nanosPerSecond + t.subsecond :=
      (Int.ediv_mul_add_emod _ _).symm
    simp only [Stamp.instant, if_neg hsixty, hds, instant, hdays, Instant.cut, Offset.seconds,
      Instant.mk.injEq]
    simp only [nanosPerSecond] at hnanoseconds ⊢
    omega

/-! ## What is written -/

/-- Instants of the years 0 to 9999 have a stamp, those of earlier years have none, and what
lies outside the calendar is a fault. -/
theorem write?_eq (t : Instant) :
    write? t =
      if t.date.year < -9999 ∨ 9999 < t.date.year then .error .mk
      else if t.date.year < 0 then .ok none
      else .ok (some (String.ofList (writeList t))) := by
  have hcalendar : (!t.representable) = true ↔ t.date.year < -9999 ∨ 9999 < t.date.year := by
    rw [Bool.not_eq_true', ← Bool.not_eq_true, Instant.representable_iff_year]
    omega
  simp only [write?, hcalendar]

/-- Writing does not return for years of more than four digits. -/
theorem write?_eq_error_iff {t : Instant} :
    write? t = .error .mk ↔ t.date.year < -9999 ∨ 9999 < t.date.year := by
  rw [write?_eq]
  split
  · next h => exact iff_of_true rfl h
  · next h =>
    refine iff_of_false (fun heq => ?_) h
    split at heq
    · cases heq
    · cases heq

/-- Years before the year zero are not written. -/
theorem write?_eq_none_iff {t : Instant} :
    write? t = .ok none ↔ -9999 ≤ t.date.year ∧ t.date.year < 0 := by
  rw [write?_eq]
  split
  · exact iff_of_false (fun heq => by cases heq) (by omega)
  · split
    · exact iff_of_true rfl (by omega)
    · exact iff_of_false (fun heq => by cases heq) (by omega)

/-- The years from 0 to 9999 are written. -/
theorem exists_write?_iff {t : Instant} :
    (∃ text, write? t = .ok (some text)) ↔ t.FourDigitYear := by
  rw [write?_eq, Instant.FourDigitYear]
  split
  · exact iff_of_false (fun ⟨_, heq⟩ => by cases heq) (by omega)
  · split
    · exact iff_of_false (fun ⟨_, heq⟩ => by cases heq) (by omega)
    · exact iff_of_true ⟨_, rfl⟩ (by omega)

/-- What is written for an instant is a stamp in UTC, of the instant cut to
microseconds. -/
theorem stamp_of_write? {t : Instant} {text : String} (h : write? t = .ok (some text)) :
    ∃ stamp : Stamp, text = stamp.text ∧ stamp.offset = .zulu true ∧ stamp.instant = t.cut := by
  obtain ⟨hlow, hhigh⟩ := exists_write?_iff.1 ⟨text, h⟩
  obtain ⟨stamp, hchars, hoffset, hinstant⟩ := exists_stamp hlow (Int.lt_add_one_of_le hhigh)
  refine ⟨stamp, ?_, hoffset, hinstant⟩
  rw [write?_eq, if_neg (by omega), if_neg (by omega)] at h
  rw [Stamp.text, ← hchars]
  exact (Option.some.inj (Except.ok.inj h)).symm

/-- The stamp of an instant denotes the instant cut to microseconds. -/
theorem read?_of_write? {t : Instant} {stamp : String} (h : write? t = .ok (some stamp)) :
    read? stamp = some t.cut := by
  obtain ⟨parts, htext, -, hinstant⟩ := stamp_of_write? h
  exact read?_eq_some_iff.2 ⟨parts, htext, hinstant.symm⟩

/-- The nanoseconds below a microsecond do not count. -/
theorem write?_cut (t : Instant) : write? t.cut = write? t := by
  have hlist : writeList t.cut = writeList t := by
    simp only [writeList, t.date_cut, t.secondOfDay_cut, t.micros_cut]
  rw [write?, write?, t.representable_cut, t.date_cut, hlist]

/-- A stamp in its stored form is a stamp of whole microseconds. -/
theorem read?_of_canonical {s stamp : String} (h : canonical s = .ok (some stamp)) :
    ∃ t, read? stamp = some t ∧ t.cut = t ∧ write? t = .ok (some stamp) := by
  unfold canonical at h
  split at h
  · cases h
  · next t _ =>
    refine ⟨t.cut, read?_of_write? h, t.cut_cut, ?_⟩
    rw [write?_cut]
    exact h

/-- A stamp in its stored form stays as it is. -/
theorem canonical_of_canonical {s stamp : String} (h : canonical s = .ok (some stamp)) :
    canonical stamp = .ok (some stamp) := by
  obtain ⟨t, hread, -, hwrite⟩ := read?_of_canonical h
  rw [canonical, hread]
  exact hwrite

/-! ## Stored forms of what is denoted -/

/-- No offset leads out of the calendar before its start. -/
theorem Denotes.le_year {s : String} {t : Instant} (h : Denotes s t) : -9999 ≤ t.date.year := by
  obtain ⟨stamp, -, rfl⟩ := h
  refine Int.not_lt.1 fun hearly => ?_
  rw [Instant.year_lt_iff] at hearly
  have hstart : Date.dayNumber ⟨-9999, 1, 1⟩ = -4371587 := by decide
  have hfirst : Date.dayNumber ⟨0, 1, 1⟩ = -719528 := by decide
  have hdate := Date.dayNumber_newYear_le stamp.valid stamp.year.1
  have hoffset := stamp.offset.seconds_bounds
  unfold Stamp.instant at hearly
  split at hearly
  · simp only [instant, nanosPerSecond, secondsPerDay] at hearly
    omega
  · simp only [instant, nanosPerSecond, secondsPerDay] at hearly
    omega

/-- The stored form of a text is the instant that it denotes, as it is written. -/
theorem canonical_of_denotes {s : String} {t : Instant} (h : Denotes s t) :
    canonical s = write? t := by
  rw [canonical, read?_eq_some_iff.2 h]

/-- A text that denotes no instant has no stored form. -/
theorem canonical_of_not_denotes {s : String} (h : ∀ t, ¬Denotes s t) : canonical s = .ok none := by
  have hread : read? s = none := by
    rw [Option.eq_none_iff_forall_ne_some]
    intro t ht
    exact h t (read?_eq_some_iff.1 ht)
  rw [canonical, hread]

/-- The stored form of a stamp is a fault if the stamp denotes an instant after the last
year, and then only. -/
theorem canonical_eq_error_iff {s : String} :
    canonical s = .error .mk ↔ ∃ t, Denotes s t ∧ 9999 < t.date.year := by
  by_cases h : ∃ t, Denotes s t
  · obtain ⟨t, ht⟩ := h
    have hyear := ht.le_year
    simp only [canonical_of_denotes ht, write?_eq_error_iff, ht.iff_eq, exists_eq_left]
    omega
  · rw [canonical_of_not_denotes (not_exists.1 h)]
    constructor
    · intro heq
      cases heq
    · rintro ⟨t, ht, -⟩
      exact absurd ⟨t, ht⟩ h

/-- There is no stored form of texts that are no stamps, and of stamps for years before the
year 0. -/
theorem canonical_eq_none_iff {s : String} :
    canonical s = .ok none ↔ ∀ t, Denotes s t → t.date.year < 0 := by
  by_cases h : ∃ t, Denotes s t
  · obtain ⟨t, ht⟩ := h
    have hyear := ht.le_year
    simp only [canonical_of_denotes ht, write?_eq_none_iff, ht.iff_eq, forall_eq]
    exact and_iff_right hyear
  · rw [canonical_of_not_denotes (not_exists.1 h)]
    exact iff_of_true rfl fun t ht => absurd ⟨t, ht⟩ h

end Rfc3339

end BearerAuth.Time
