import BearerAuth.Proofs.Time.Rfc3339
import BearerAuth.Schema.ColumnType

/-!
# Stored values

The form in which a value is stored is a value of its type again, and is its own
stored form. This is immediate for all types but time stamps, whose stored form
is another text.
-/

namespace BearerAuth.ColumnType

open Time

theorem canonical_of_ne {t : ColumnType} (h : t ≠ .timestamp) (value : String) :
    t.canonical value = .ok (if t.accepts value then some value else none) := by
  cases t with
  | timestamp => exact absurd rfl h
  | text => rfl
  | integer => rfl
  | boolean => rfl
  | uuid => rfl
  | jsonb => rfl

/-- Values other than time stamps are stored as they are. -/
theorem canonical_eq_ok_iff {t : ColumnType} (h : t ≠ .timestamp) {value stored : String} :
    t.canonical value = .ok (some stored) ↔ t.accepts value = true ∧ stored = value := by
  rw [canonical_of_ne h]
  by_cases haccepts : t.accepts value = true
  · rw [if_pos haccepts]
    constructor
    · intro heq
      exact ⟨haccepts, (Option.some.inj (Except.ok.inj heq)).symm⟩
    · rintro ⟨-, rfl⟩
      rfl
  · rw [if_neg haccepts]
    constructor
    · intro heq
      cases heq
    · rintro ⟨hother, -⟩
      exact absurd hother haccepts

/-- A stored value is its own stored form. -/
theorem canonical_of_canonical {t : ColumnType} {value stored : String}
    (h : t.canonical value = .ok (some stored)) : t.canonical stored = .ok (some stored) := by
  by_cases htype : t = .timestamp
  · subst htype
    exact Rfc3339.canonical_of_canonical h
  · obtain ⟨haccepts, rfl⟩ := (canonical_eq_ok_iff htype).1 h
    exact h

/-- A stored value is a value of its type. -/
theorem accepts_of_canonical {t : ColumnType} {value stored : String}
    (h : t.canonical value = .ok (some stored)) : t.accepts stored = true := by
  by_cases htype : t = .timestamp
  · subst htype
    obtain ⟨instant, hread, -⟩ := Rfc3339.read?_of_canonical h
    show (Rfc3339.read? stored).isSome = true
    rw [hread, Option.isSome_some]
  · obtain ⟨haccepts, rfl⟩ := (canonical_eq_ok_iff htype).1 h
    exact haccepts

end BearerAuth.ColumnType
