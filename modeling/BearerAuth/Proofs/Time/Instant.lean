import BearerAuth.Time.Instant

/-!
# Instants in order

The whole seconds of an instant grow with it, and those of any instant that the
calendar has are far from the ends of sixty-four bits.

- `Instant.later`: the instant after a span, whether or not the calendar has it.
- `Instant.after?_eq`: from 1970 on, moving forward fails at the end of the
  calendar only.
- `Instant.seconds_mono`, `Instant.seconds_lt_of_le`: what rounding down to whole
  seconds keeps of the order.
-/

namespace BearerAuth.Time.Instant

/-- The instant `span` after `t`, whether or not the calendar has it. -/
def later (t : Instant) (span : Span) : Instant :=
  ⟨t.nanoseconds + span.nanoseconds⟩

/-- From 1970 on only the end of the calendar is in the way. -/
theorem representable_iff {t : Instant} (h : 0 ≤ t.nanoseconds) :
    t.representable = true ↔ t.nanoseconds < calendarEnd.nanoseconds := by
  have hstart : calendarStart.nanoseconds ≤ 0 := by decide
  unfold representable
  rw [decide_eq_true (Int.le_trans hstart h), Bool.true_and, decide_eq_true_iff]

theorem lt_calendarEnd {t : Instant} (h : t.representable = true) :
    t.nanoseconds < calendarEnd.nanoseconds :=
  of_decide_eq_true (Bool.and_eq_true_iff.1 h).2

theorem later_nonneg {t : Instant} {span : Span} (ht : 0 ≤ t.nanoseconds)
    (hspan : 0 < span.nanoseconds) : 0 ≤ (t.later span).nanoseconds :=
  Int.add_nonneg ht (Int.le_of_lt hspan)

theorem le_later {t : Instant} {span : Span} (hspan : 0 < span.nanoseconds) :
    t.nanoseconds ≤ (t.later span).nanoseconds :=
  Int.le_add_of_nonneg_right (Int.le_of_lt hspan)

/-- From the start of time on, what bounds a later instant is the end of the calendar alone.
-/
theorem after?_eq {t : Instant} {span : Span} (ht : 0 ≤ t.nanoseconds)
    (hspan : 0 < span.nanoseconds) :
    t.after? span =
      if (t.later span).nanoseconds < calendarEnd.nanoseconds then some (t.later span)
      else none := by
  have hrep := representable_iff (later_nonneg ht hspan)
  show (if (t.later span).representable then some (t.later span) else none) = _
  simp only [hrep]

theorem seconds_mono {s t : Instant} (h : s.nanoseconds ≤ t.nanoseconds) : s.seconds ≤ t.seconds :=
  Int.ediv_le_ediv (by decide) h

theorem seconds_nonneg {t : Instant} (h : 0 ≤ t.nanoseconds) : 0 ≤ t.seconds :=
  Int.ediv_nonneg h (by decide)

/-- An instant is less than a second after its whole seconds. -/
theorem seconds_mul_le (t : Instant) : t.seconds * nanosPerSecond ≤ t.nanoseconds :=
  Int.ediv_mul_le _ (by decide)

/-- A whole second between two instants is seen in their seconds. -/
theorem seconds_lt_of_le {s t : Instant} (h : s.nanoseconds + nanosPerSecond ≤ t.nanoseconds) :
    s.seconds < t.seconds := by
  have hs : s.seconds = s.nanoseconds / 1000000000 := rfl
  have ht : t.seconds = t.nanoseconds / 1000000000 := rfl
  have hsecond : nanosPerSecond = 1000000000 := rfl
  omega

/-- Without a later second an instant is less than a second later. -/
theorem lt_of_seconds_le {s t : Instant} (h : s.seconds ≤ t.seconds) :
    s.nanoseconds < t.nanoseconds + nanosPerSecond :=
  Int.not_le.1 fun hle => Int.not_lt.2 h (seconds_lt_of_le hle)

/-- The earlier of two instants has the lesser seconds. -/
theorem seconds_later_min (t : Instant) (a b : Span) :
    (t.later ⟨min a.nanoseconds b.nanoseconds⟩).seconds =
      min (t.later a).seconds (t.later b).seconds := by
  rcases Int.le_total a.nanoseconds b.nanoseconds with h | h
  · have hseconds : (t.later a).seconds ≤ (t.later b).seconds :=
      seconds_mono (Int.add_le_add_left h _)
    rw [Int.min_eq_left h, Int.min_eq_left hseconds]
  · have hseconds : (t.later b).seconds ≤ (t.later a).seconds :=
      seconds_mono (Int.add_le_add_left h _)
    rw [Int.min_eq_right h, Int.min_eq_right hseconds]

/-- The seconds of an instant of the calendar fit sixty-four bits. -/
theorem toInt_ofInt_seconds {t : Instant} (h : t.representable = true) :
    (Int64.ofInt t.seconds).toInt = t.seconds := by
  unfold representable at h
  obtain ⟨hlow, hhigh⟩ := Bool.and_eq_true_iff.1 h
  have hlow : -377705116800 * 1000000000 ≤ t.nanoseconds := of_decide_eq_true hlow
  have hhigh : t.nanoseconds < 253402300800 * 1000000000 := of_decide_eq_true hhigh
  have hseconds : t.seconds = t.nanoseconds / 1000000000 := rfl
  exact Int64.toInt_ofInt_of_le (by omega) (by omega)

end BearerAuth.Time.Instant
