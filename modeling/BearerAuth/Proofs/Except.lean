/-!
# Computations that may fail

A step that follows another is taken only if that one gave a result: what is
known of a result tells of the results on the way to it. Of several checks the
first that fails is reported.

- `bind_eq_ok_iff`, `bind_eq_error_iff`: what a step after another gives.
- `FirstFault`: the first thing of a list that is wrong, and why.
- `bind_eq_error_iff_firstFault`, `ite_eq_error_iff_firstFault`: steps and
  checks that report it.
-/

namespace BearerAuth

variable {ε α β : Type}

theorem map_eq_ok_iff {x : Except ε α} {f : α → β} {b : β} :
    x.map f = .ok b ↔ ∃ a, x = .ok a ∧ f a = b := by
  cases x <;> simp [Except.map]

theorem map_eq_error_iff {x : Except ε α} {f : α → β} {e : ε} :
    x.map f = .error e ↔ x = .error e := by
  cases x <;> simp [Except.map]

/-- Two steps succeed if the second one does with what the first one gives. -/
theorem bind_eq_ok_iff {x : Except ε α} {f : α → Except ε β} {b : β} :
    (x >>= f) = .ok b ↔ ∃ a, x = .ok a ∧ f a = .ok b := by
  cases x <;> simp [bind, Except.bind]

/-- Two steps fail in the first one or, after it, in the second. -/
theorem bind_eq_error_iff {x : Except ε α} {f : α → Except ε β} {e : ε} :
    (x >>= f) = .error e ↔ x = .error e ∨ ∃ a, x = .ok a ∧ f a = .error e := by
  cases x <;> simp [bind, Except.bind]

/-! ## The first fault -/

section

variable {γ : Type} {faulty : α → ε → Prop} {a : α} {l : List α} {why : ε}

/-- Of the list, the first with anything wrong has this wrong. -/
def FirstFault (faulty : α → ε → Prop) (l : List α) (why : ε) : Prop :=
  ∃ before a after, l = before ++ a :: after ∧ (∀ b ∈ before, ∀ other, ¬faulty b other) ∧
    faulty a why

theorem not_firstFault_nil : ¬FirstFault faulty [] why := by
  rintro ⟨before, a, after, hsplit, -⟩
  exact List.append_ne_nil_of_right_ne_nil _ (List.cons_ne_nil _ _) hsplit.symm

/-- The first fault is in the head, or the head is clean and it is the first one of the
rest. -/
theorem firstFault_cons_iff : FirstFault faulty (a :: l) why ↔
    faulty a why ∨ (∀ other, ¬faulty a other) ∧ FirstFault faulty l why := by
  constructor
  · rintro ⟨before, b, after, hsplit, hbefore, hfault⟩
    cases before with
    | nil =>
      obtain ⟨rfl, -⟩ := List.cons.inj hsplit
      exact .inl hfault
    | cons c before =>
      obtain ⟨rfl, hrest⟩ := List.cons.inj hsplit
      obtain ⟨hhead, htail⟩ := List.forall_mem_cons.1 hbefore
      exact .inr ⟨hhead, before, b, after, hrest, htail, hfault⟩
  · rintro (hfault | ⟨hhead, before, b, after, rfl, hbefore, hfault⟩)
    · exact ⟨[], a, l, rfl, fun _ hb => absurd hb List.not_mem_nil, hfault⟩
    · exact ⟨a :: before, b, after, rfl, List.forall_mem_cons.2 ⟨hhead, hbefore⟩, hfault⟩

/-- Something is wrong first if anything is wrong at all. -/
theorem exists_firstFault_iff :
    (∃ why, FirstFault faulty l why) ↔ ∃ a ∈ l, ∃ why, faulty a why := by
  constructor
  · rintro ⟨why, before, a, after, rfl, -, hfault⟩
    exact ⟨a, List.mem_append_right _ List.mem_cons_self, why, hfault⟩
  · rintro ⟨a, ha, why, hfault⟩
    induction l with
    | nil => cases ha
    | cons b rest ih =>
      by_cases hb : ∃ other, faulty b other
      · obtain ⟨other, hother⟩ := hb
        exact ⟨other, firstFault_cons_iff.2 (.inl hother)⟩
      · rcases List.mem_cons.1 ha with rfl | ha
        · exact absurd ⟨why, hfault⟩ hb
        · obtain ⟨other, hrest⟩ := ih ha
          exact ⟨other, firstFault_cons_iff.2 (.inr ⟨not_exists.1 hb, hrest⟩)⟩

/-- The error of one step after another is the first one. -/
theorem bind_eq_error_iff_firstFault {x : Except ε β} {f : β → Except ε γ}
    (hx : ∀ e, x = .error e ↔ faulty a e)
    (hf : ∀ b, f b = .error why ↔ FirstFault faulty l why) :
    (x >>= f) = .error why ↔ FirstFault faulty (a :: l) why := by
  rw [firstFault_cons_iff]
  cases x with
  | error e =>
    have hfault : faulty a e := (hx e).1 rfl
    have hstop : (Except.error e : Except ε γ) = .error why ↔ faulty a why := by
      rw [← hx why, Except.error.injEq, Except.error.injEq]
    refine hstop.trans ⟨.inl, ?_⟩
    rintro (h | ⟨hnone, -⟩)
    · exact h
    · exact absurd hfault (hnone e)
  | ok b =>
    have hnone : ∀ e, ¬faulty a e := fun e he => by cases (hx e).2 he
    refine (hf b).trans ⟨fun h => .inr ⟨hnone, h⟩, ?_⟩
    rintro (h | ⟨-, h⟩)
    · exact absurd h (hnone why)
    · exact h

/-- A check before everything else is reported before everything else. -/
theorem ite_eq_error_iff_firstFault {p : Prop} [Decidable p] {e : ε} {x : Except ε β}
    (hp : ∀ other, faulty a other ↔ p ∧ e = other)
    (hx : x = .error why ↔ FirstFault faulty l why) :
    (if p then .error e else x) = .error why ↔ FirstFault faulty (a :: l) why := by
  rw [firstFault_cons_iff]
  simp only [hp]
  by_cases h : p
  · simp [h]
  · simp [h, hx]

end

end BearerAuth
