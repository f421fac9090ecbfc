import BearerAuth.Text.Blank
import Mathlib.Data.List.DropRight

/-!
# What trimming leaves

Trimming cuts blanks from both ends of a text, as many as there are and nothing else.

- `Unpadded`: a text that has no blanks to cut.
- `trimList_eq_iff`: what trimming leaves, told apart from how it is done.
- `trimList_append`, `trimList_eq_nil_iff`: blanks at the ends do not count, and a text is
  cut away altogether only if it has nothing but blanks.
-/

namespace BearerAuth.Text

/-- Neither the first nor the last character is blank. -/
def Unpadded (cs : List Char) : Prop :=
  (∀ c ∈ cs.head?, isBlank c = false) ∧ ∀ c ∈ cs.getLast?, isBlank c = false

instance (cs : List Char) : Decidable (Unpadded cs) :=
  decidable_of_iff ((cs.head?.all fun c => !isBlank c) = true ∧
    (cs.getLast?.all fun c => !isBlank c) = true) (by simp [Unpadded, Option.all_eq_true])

/-- Blanks are dropped up to the first character that is none. -/
theorem dropWhile_append_of_blank {before rest : List Char}
    (hbefore : ∀ c ∈ before, isBlank c = true) (hrest : ∀ c ∈ rest.head?, isBlank c = false) :
    (before ++ rest).dropWhile isBlank = rest := by
  rw [List.dropWhile_append_of_pos hbefore]
  cases rest with
  | nil => rfl
  | cons c rest => rw [List.dropWhile_cons_of_neg (by simp [hrest c rfl])]

/-- Blanks at the ends do not count. -/
theorem trimList_append {before core after : List Char}
    (hbefore : ∀ c ∈ before, isBlank c = true) (hafter : ∀ c ∈ after, isBlank c = true)
    (hcore : Unpadded core) : trimList (before ++ core ++ after) = core := by
  have hreversed : ∀ c ∈ after.reverse, isBlank c = true :=
    fun c hc => hafter c (List.mem_reverse.1 hc)
  cases hempty : core with
  | nil =>
    have hall : ∀ c ∈ before ++ after, isBlank c = true := by
      intro c hc
      exact (List.mem_append.1 hc).elim (hbefore c) (hafter c)
    rw [List.append_nil, trimList, List.dropWhile_eq_nil_iff.2 hall]
    rfl
  | cons first rest =>
    rw [← hempty]
    have hhead : ∀ c ∈ (core ++ after).head?, isBlank c = false := by
      rw [hempty]
      rw [hempty] at hcore
      exact hcore.1
    have hlast : ∀ c ∈ core.reverse.head?, isBlank c = false := by
      rw [List.head?_reverse]
      exact hcore.2
    rw [trimList, List.append_assoc, dropWhile_append_of_blank hbefore hhead, List.reverse_append,
      dropWhile_append_of_blank hreversed hlast, List.reverse_reverse]

/-- Blanks before what has none at its ends are trimmed away. -/
theorem trimList_append_left {before core : List Char} (hbefore : ∀ c ∈ before, isBlank c = true)
    (hcore : Unpadded core) : trimList (before ++ core) = core := by
  rw [← List.append_nil (before ++ core)]
  exact trimList_append hbefore (fun _ hc => absurd hc List.not_mem_nil) hcore

/-- Blanks after what has none at its ends are trimmed away. -/
theorem trimList_append_right {core after : List Char} (hafter : ∀ c ∈ after, isBlank c = true)
    (hcore : Unpadded core) : trimList (core ++ after) = core := by
  rw [← List.nil_append core]
  exact trimList_append (fun _ hc => absurd hc List.not_mem_nil) hafter hcore

theorem trimList_of_unpadded {cs : List Char} (h : Unpadded cs) : trimList cs = cs :=
  trimList_append_left (fun _ hc => absurd hc List.not_mem_nil) h

/-- Trimming cuts blanks from the ends, and all that are there. -/
theorem exists_trimList (cs : List Char) :
    Unpadded (trimList cs) ∧ ∃ before after, cs = before ++ trimList cs ++ after ∧
      (∀ c ∈ before, isBlank c = true) ∧ ∀ c ∈ after, isBlank c = true := by
  have hsplit : cs = cs.takeWhile isBlank ++ cs.dropWhile isBlank :=
    List.takeWhile_append_dropWhile.symm
  have htrim : trimList cs = (cs.dropWhile isBlank).rdropWhile isBlank := rfl
  have hjoin : trimList cs ++ (cs.dropWhile isBlank).rtakeWhile isBlank = cs.dropWhile isBlank := by
    rw [htrim, List.rdropWhile_append_rtakeWhile]
  refine ⟨⟨fun c hc => ?_, fun c hc => ?_⟩, cs.takeWhile isBlank,
    (cs.dropWhile isBlank).rtakeWhile isBlank, ?_, fun c hc => List.mem_takeWhile_imp hc,
    fun c hc => List.mem_rtakeWhile_imp hc⟩
  · -- what comes first after the cut at the end came first before it
    have hfirst : (cs.dropWhile isBlank).head? = some c := by
      rw [← hjoin, List.head?_append, hc]
      rfl
    have hnot := List.head?_dropWhile_not isBlank cs
    rw [hfirst] at hnot
    exact hnot
  · have hne : trimList cs ≠ [] := by
      rintro hempty
      rw [hempty] at hc
      cases hc
    have hlast : (trimList cs).getLast hne = c := by
      rw [List.getLast?_eq_some_getLast hne] at hc
      exact Option.some.inj hc
    have hnot := List.rdropWhile_last_not isBlank (cs.dropWhile isBlank) hne
    rw [← hlast, Bool.eq_false_iff]
    exact hnot
  · rw [List.append_assoc, hjoin]
    exact hsplit

/-- What trimming leaves: the part of a text that has no blanks at its ends and nothing but
blanks around it. -/
theorem trimList_eq_iff {cs core : List Char} :
    trimList cs = core ↔ Unpadded core ∧ ∃ before after, cs = before ++ core ++ after ∧
      (∀ c ∈ before, isBlank c = true) ∧ ∀ c ∈ after, isBlank c = true := by
  constructor
  · rintro rfl
    exact exists_trimList cs
  · rintro ⟨hcore, before, after, rfl, hbefore, hafter⟩
    exact trimList_append hbefore hafter hcore

/-- Nothing is left of blanks alone, and of nothing else. -/
theorem trimList_eq_nil_iff {cs : List Char} : trimList cs = [] ↔ ∀ c ∈ cs, isBlank c = true := by
  constructor
  · intro h c hc
    obtain ⟨-, before, after, hcs, hbefore, hafter⟩ := trimList_eq_iff.1 h
    rw [hcs, List.append_nil] at hc
    exact (List.mem_append.1 hc).elim (hbefore c) (hafter c)
  · intro h
    have hnil : Unpadded [] := by decide
    rw [← List.append_nil cs]
    exact trimList_append_left h hnil

/-! ## Texts -/

theorem trim_eq_empty_iff {s : String} : trim s = "" ↔ blank s = true := by
  rw [trim, blank, List.all_eq_true, ← trimList_eq_nil_iff, String.ofList_eq_empty_iff]

theorem trim_of_unpadded {s : String} (h : Unpadded s.toList) : trim s = s := by
  rw [trim, trimList_of_unpadded h, String.ofList_toList]

end BearerAuth.Text
