/-!
# Splitting at a character

- `Text.split`: the pieces between the occurrences of a character; there is one
  more of them than occurrences. `join` puts them together again (`join_split`),
  and pieces that were put together come apart again (`split_join`).
- `Text.cut?`: what lies before and after the first occurrence.
- `Text.cutLast?`: what lies before and after the last occurrence. Both find the
  place where two texts were put together, and no other (`cut?_eq_some_iff`,
  `cutLast?_eq_some_iff`).
-/

namespace BearerAuth.Text

/-- The pieces between the occurrences of `sep`. -/
def split (sep : Char) : List Char → List (List Char)
  | [] => [[]]
  | c :: rest =>
    if c = sep then [] :: split sep rest
    else
      match split sep rest with
      | [] => [[c]]
      | piece :: pieces => (c :: piece) :: pieces

/-- The pieces with `sep` between each two. -/
def join (sep : Char) : List (List Char) → List Char
  | [] => []
  | [piece] => piece
  | piece :: pieces => piece ++ sep :: join sep pieces

/-- What lies before and after the first `sep`. -/
def cut? (sep : Char) : List Char → Option (List Char × List Char)
  | [] => none
  | c :: rest =>
    if c = sep then some ([], rest)
    else (cut? sep rest).map fun (before, after) => (c :: before, after)

/-- What lies before and after the last `sep`. -/
def cutLast? (sep : Char) (cs : List Char) : Option (List Char × List Char) :=
  (cut? sep cs.reverse).map fun (after, before) => (before.reverse, after.reverse)

/-- The first separator is the one after which the text was cut. -/
theorem cut?_append {sep : Char} {before : List Char} (h : sep ∉ before) (after : List Char) :
    cut? sep (before ++ sep :: after) = some (before, after) := by
  induction before with
  | nil => simp [cut?]
  | cons c before ih =>
    obtain ⟨hc, hbefore⟩ := not_or.1 (mt List.mem_cons.2 h)
    rw [List.cons_append, cut?, if_neg (Ne.symm hc), ih hbefore]
    rfl

/-- A text is cut where its first separator stands. -/
theorem cut?_eq_some_iff {sep : Char} {cs before after : List Char} :
    cut? sep cs = some (before, after) ↔ cs = before ++ sep :: after ∧ sep ∉ before := by
  constructor
  · intro h
    induction cs generalizing before with
    | nil => cases h
    | cons c rest ih =>
      unfold cut? at h
      split at h
      · next hsep =>
        cases h
        exact ⟨by rw [hsep, List.nil_append], List.not_mem_nil⟩
      · next hsep =>
        obtain ⟨⟨more, _⟩, hcut, hpair⟩ := Option.map_eq_some_iff.1 h
        cases hpair
        obtain ⟨hrest, hmore⟩ := ih hcut
        refine ⟨by rw [hrest, List.cons_append], fun hmem => ?_⟩
        rcases List.mem_cons.1 hmem with heq | hmem
        · exact hsep heq.symm
        · exact hmore hmem
  · rintro ⟨rfl, h⟩
    exact cut?_append h after

/-- The last separator is the one before which the text was cut. -/
theorem cutLast?_append {sep : Char} (before : List Char) {after : List Char} (h : sep ∉ after) :
    cutLast? sep (before ++ sep :: after) = some (before, after) := by
  have hcut := cut?_append (mt List.mem_reverse.1 h) before.reverse
  rw [cutLast?, List.reverse_append, List.reverse_cons, List.append_assoc, List.singleton_append,
    hcut]
  simp

/-- A text is cut where its last separator stands. -/
theorem cutLast?_eq_some_iff {sep : Char} {cs before after : List Char} :
    cutLast? sep cs = some (before, after) ↔ cs = before ++ sep :: after ∧ sep ∉ after := by
  constructor
  · intro h
    obtain ⟨⟨last, first⟩, hcut, hpair⟩ := Option.map_eq_some_iff.1 h
    cases hpair
    obtain ⟨hreverse, hlast⟩ := cut?_eq_some_iff.1 hcut
    refine ⟨?_, mt List.mem_reverse.1 hlast⟩
    rw [← List.reverse_reverse cs, hreverse]
    simp
  · rintro ⟨rfl, h⟩
    exact cutLast?_append before h

theorem split_ne_nil (sep : Char) (cs : List Char) : split sep cs ≠ [] := by
  induction cs with
  | nil => simp [split]
  | cons c rest ih =>
    unfold split
    split
    · simp
    · split <;> simp

/-- What comes apart goes together again. -/
theorem join_split (sep : Char) (cs : List Char) : join sep (split sep cs) = cs := by
  induction cs with
  | nil => rfl
  | cons c rest ih =>
    unfold split
    split
    · next h =>
      subst h
      cases hs : split c rest with
      | nil => exact absurd hs (split_ne_nil c rest)
      | cons piece pieces => simpa [join, hs] using ih
    · cases hs : split sep rest with
      | nil => exact absurd hs (split_ne_nil sep rest)
      | cons piece pieces =>
        rw [hs] at ih
        cases pieces with
        | nil => simpa [join] using ih
        | cons p ps => simpa [join] using ih

theorem split_of_notMem {sep : Char} {piece : List Char} (h : sep ∉ piece) :
    split sep piece = [piece] := by
  induction piece with
  | nil => rfl
  | cons c rest ih =>
    obtain ⟨hc, hrest⟩ := not_or.1 (mt List.mem_cons.2 h)
    rw [split, if_neg (Ne.symm hc), ih hrest]

/-- The first piece ends before the first separator. -/
theorem split_append {sep : Char} {piece : List Char} (h : sep ∉ piece) (rest : List Char) :
    split sep (piece ++ sep :: rest) = piece :: split sep rest := by
  induction piece with
  | nil => rw [List.nil_append, split, if_pos rfl]
  | cons c more ih =>
    obtain ⟨hc, hmore⟩ := not_or.1 (mt List.mem_cons.2 h)
    rw [List.cons_append, split, if_neg (Ne.symm hc), ih hmore]

/-- Pieces without the separator come apart as they were put together. -/
theorem split_join {sep : Char} {pieces : List (List Char)} (hne : pieces ≠ [])
    (h : ∀ piece ∈ pieces, sep ∉ piece) : split sep (join sep pieces) = pieces := by
  induction pieces with
  | nil => exact absurd rfl hne
  | cons piece rest ih =>
    have hpiece := h piece List.mem_cons_self
    cases rest with
    | nil => exact split_of_notMem hpiece
    | cons next more =>
      have hrest := ih (List.cons_ne_nil _ _) fun x hx => h x (List.mem_cons_of_mem _ hx)
      show split sep (piece ++ sep :: join sep (next :: more)) = _
      rw [split_append hpiece, hrest]

/-- A character that is in no piece and is not the separator is not in the whole. -/
theorem notMem_join {c sep : Char} {pieces : List (List Char)} (hc : c ≠ sep)
    (h : ∀ piece ∈ pieces, c ∉ piece) : c ∉ join sep pieces := by
  induction pieces with
  | nil => exact List.not_mem_nil
  | cons piece rest ih =>
    have hpiece := h piece List.mem_cons_self
    cases rest with
    | nil => exact hpiece
    | cons next more =>
      have hrest := ih fun x hx => h x (List.mem_cons_of_mem _ hx)
      show c ∉ piece ++ sep :: join sep (next :: more)
      rw [List.mem_append, List.mem_cons]
      rintro (hmem | hmem | hmem)
      · exact hpiece hmem
      · exact hc hmem
      · exact hrest hmem

end BearerAuth.Text
