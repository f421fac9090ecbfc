import BearerAuth.NameMap
import Mathlib.Data.List.Nodup

/-!
# Looking up names

What each operation of a map does to `get?`, and the two ways in which `ofList`
is used: with the entries of a map, which it puts back together, and with pairs
whose names are distinct, where it finds what a look-up in the pairs finds. Maps
that are looked up alike are the same.
-/

namespace BearerAuth.NameMap

variable {α : Type}

@[simp] theorem get?_empty (name : String) : (empty : NameMap α).get? name = none := rfl

/-- Looking up goes entry by entry. -/
theorem lookup_cons_eq (e : String × α) (rest : List (String × α)) (name : String) :
    (e :: rest).lookup name = if name = e.1 then some e.2 else rest.lookup name := by
  rw [List.lookup_cons]
  by_cases h : name = e.1
  · rw [if_pos h, beq_iff_eq.2 h]
  · rw [if_neg h, beq_eq_false_iff_ne.2 h]

/-- A name is not found if no entry has it, and the other way round. -/
theorem lookup_eq_none {entries : List (String × α)} {name : String} :
    entries.lookup name = none ↔ ∀ e ∈ entries, e.1 ≠ name := by
  rw [List.lookup_eq_none_iff]
  constructor
  · intro h e he heq
    simpa [heq] using h e he
  · intro h e he
    exact bne_iff_ne.2 (h e he).symm

/-- An entry that is inserted takes the place of one with its name, and of no other. -/
theorem lookup_insertEntry (name : String) (value : α) (entries : List (String × α))
    (other : String) :
    (insertEntry name value entries).lookup other =
      if other = name then some value else entries.lookup other := by
  induction entries with
  | nil => exact lookup_cons_eq _ _ _
  | cons e rest ih =>
    -- the new entry goes in front of the first one, takes its place or goes on
    obtain ⟨n, v⟩ := e
    unfold insertEntry
    split
    · exact lookup_cons_eq _ _ _
    split
    · next heq =>
      subst heq
      simp only [lookup_cons_eq]
      by_cases h : other = name
      · rw [if_pos h, if_pos h]
      · rw [if_neg h, if_neg h, if_neg h]
    · next hne =>
      rw [lookup_cons_eq, lookup_cons_eq, ih]
      by_cases hn : other = n
      · rw [if_pos hn, if_neg fun h => hne (h.symm.trans hn), if_pos hn]
      · rw [if_neg hn, if_neg hn]

/-- What is inserted is found under its name, and all else is as it was. -/
theorem get?_insert (m : NameMap α) (name : String) (value : α) (other : String) :
    (m.insert name value).get? other = if other = name then some value else m.get? other :=
  lookup_insertEntry name value m.entries other

@[simp] theorem get?_insert_self (m : NameMap α) (name : String) (value : α) :
    (m.insert name value).get? name = some value := by
  rw [get?_insert, if_pos rfl]

theorem get?_insert_of_ne (m : NameMap α) {name other : String} (h : other ≠ name) (value : α) :
    (m.insert name value).get? other = m.get? other := by
  rw [get?_insert, if_neg h]

/-- Without the entries of a name, all others are still found. -/
theorem lookup_filter_ne (name : String) (entries : List (String × α)) {other : String}
    (h : other ≠ name) :
    (entries.filter fun e => e.1 != name).lookup other = entries.lookup other := by
  induction entries with
  | nil => rfl
  | cons e rest ih =>
    rw [List.filter_cons, lookup_cons_eq]
    by_cases hn : e.1 = name
    · rw [if_neg (by simpa using hn), ih, if_neg (hn ▸ h)]
    · rw [if_pos (by simpa using hn), lookup_cons_eq, ih]

theorem get?_erase_of_ne (m : NameMap α) {name other : String} (h : other ≠ name) :
    (m.erase name).get? other = m.get? other :=
  lookup_filter_ne name m.entries h

@[simp] theorem get?_erase_self (m : NameMap α) (name : String) :
    (m.erase name).get? name = none := by
  refine lookup_eq_none.2 fun e he => ?_
  simpa using (List.mem_filter.1 he).2

/-- What was not found is not found after an erasure. -/
theorem get?_erase_of_none {m : NameMap α} {name other : String} (h : m.get? other = none) :
    (m.erase name).get? other = none := by
  by_cases hname : other = name
  · rw [hname, get?_erase_self]
  · rw [get?_erase_of_ne m hname, h]

/-- Of a map from which names were erased, one after the other, the others are left. -/
theorem get?_foldl_erase (names : List String) (m : NameMap α) (name : String) :
    (names.foldl NameMap.erase m).get? name = if name ∈ names then none else m.get? name := by
  induction names generalizing m with
  | nil => rfl
  | cons first rest ih =>
    rw [List.foldl_cons, ih]
    by_cases hrest : name ∈ rest
    · rw [if_pos hrest, if_pos (List.mem_cons_of_mem _ hrest)]
    · rw [if_neg hrest]
      by_cases hfirst : name = first
      · subst hfirst
        rw [if_pos List.mem_cons_self, get?_erase_self]
      · rw [if_neg (by simp [hfirst, hrest]), get?_erase_of_ne m hfirst]

/-! ## Maps from lists -/

/-- What comes after all names goes to the end. -/
theorem insertEntry_of_lt {name : String} {value : α} {entries : List (String × α)}
    (h : ∀ e ∈ entries, e.1 < name) :
    insertEntry name value entries = entries ++ [(name, value)] := by
  induction entries with
  | nil => rfl
  | cons e rest ih =>
    obtain ⟨n, v⟩ := e
    have hn : n < name := h _ List.mem_cons_self
    have hrest := ih fun e he => h e (List.mem_cons_of_mem _ he)
    rw [insertEntry, if_neg (String.lt_asymm hn), if_neg (String.ne_of_lt hn).symm, hrest,
      List.cons_append]

/-- Entries that come in order are inserted at the end. -/
theorem entries_foldl_insert (pairs : List (String × α)) (m : NameMap α)
    (h : (m.entries ++ pairs).Pairwise (·.1 < ·.1)) :
    (pairs.foldl (fun m p => m.insert p.1 p.2) m).entries = m.entries ++ pairs := by
  induction pairs generalizing m with
  | nil => exact (List.append_nil _).symm
  | cons p rest ih =>
    have hlast : ∀ e ∈ m.entries, e.1 < p.1 := fun e he =>
      (List.pairwise_append.1 h).2.2 e he p List.mem_cons_self
    have hentries : (m.insert p.1 p.2).entries = m.entries ++ [p] := insertEntry_of_lt hlast
    rw [List.foldl_cons, ih, hentries, List.append_assoc, List.singleton_append]
    rw [hentries, List.append_assoc, List.singleton_append]
    exact h

/-- The entries of a map make the map. -/
@[simp] theorem ofList_entries (m : NameMap α) : ofList m.entries = m := by
  have h : (ofList m.entries).entries = m.entries :=
    entries_foldl_insert m.entries empty m.sorted
  -- the order of the entries is a proof, so maps with the same entries are the same
  cases m
  cases hm : ofList _
  rw [hm] at h
  subst h
  rfl

/-- Entries with distinct names are all found, before those that were there. -/
theorem get?_foldl_insert (pairs : List (String × α)) (hnd : (pairs.map (·.1)).Nodup)
    (m : NameMap α) (name : String) :
    (pairs.foldl (fun m p => m.insert p.1 p.2) m).get? name =
      (pairs.lookup name).or (m.get? name) := by
  induction pairs generalizing m with
  | nil => rfl
  | cons p rest ih =>
    obtain ⟨hfresh, hnd⟩ := List.nodup_cons.1 hnd
    rw [List.foldl_cons, ih hnd, get?_insert, lookup_cons_eq]
    by_cases h : name = p.1
    · -- no later pair has the name, so that the value of the first one stays
      have hnone : rest.lookup name = none :=
        lookup_eq_none.2 fun e he heq => hfresh (List.mem_map.2 ⟨e, he, heq.trans h⟩)
      rw [hnone, if_pos h, if_pos h]
      rfl
    · rw [if_neg h, if_neg h]

/-- Pairs with distinct names are found in the map that they make. -/
theorem get?_ofList {pairs : List (String × α)} (hnd : (pairs.map (·.1)).Nodup) (name : String) :
    (ofList pairs).get? name = pairs.lookup name := by
  rw [ofList, get?_foldl_insert pairs hnd, get?_empty, Option.or_none]

/-- Of pairs with distinct names, each is found under its own. -/
theorem lookup_map_of_mem {β : Type} {items : List β} (name : β → String) (value : β → α)
    (hnd : (items.map name).Nodup) {b : β} (hb : b ∈ items) :
    (items.map fun x => (name x, value x)).lookup (name b) = some (value b) := by
  induction items with
  | nil => exact absurd hb List.not_mem_nil
  | cons x rest ih =>
    obtain ⟨hfresh, hnd⟩ := List.nodup_cons.1 hnd
    rw [List.map_cons, lookup_cons_eq]
    rcases List.mem_cons.1 hb with rfl | hb
    · exact if_pos rfl
    · have hne : name b ≠ name x := fun heq => hfresh (List.mem_map.2 ⟨b, hb, heq⟩)
      rw [if_neg hne]
      exact ih hnd hb

/-- No entries are there but those that were and those that are inserted. -/
theorem mem_entries_foldl_insert {pairs : List (String × α)} {m : NameMap α} {e : String × α}
    (h : e ∈ (pairs.foldl (fun m p => m.insert p.1 p.2) m).entries) :
    e ∈ pairs ∨ e ∈ m.entries := by
  induction pairs generalizing m with
  | nil => exact .inr h
  | cons p rest ih =>
    rcases ih h with h | h
    · exact .inl (List.mem_cons_of_mem _ h)
    · rcases mem_insertEntry h with rfl | h
      · exact .inl List.mem_cons_self
      · exact .inr h

/-- A map made of pairs has no other entries. -/
theorem mem_entries_ofList {pairs : List (String × α)} {e : String × α}
    (h : e ∈ (ofList pairs).entries) : e ∈ pairs := by
  rcases mem_entries_foldl_insert h with h | h
  · exact h
  · cases h

/-! ## Equal maps -/

theorem names_nodup (m : NameMap α) : (m.entries.map (·.1)).Nodup :=
  List.pairwise_map.2 (m.sorted.imp String.ne_of_lt)

/-- The entries of a map are what is found in it. -/
theorem mem_entries_iff {m : NameMap α} {e : String × α} :
    e ∈ m.entries ↔ m.get? e.1 = some e.2 := by
  constructor
  · intro he
    have hlookup := lookup_map_of_mem (·.1) (·.2) m.names_nodup he
    rw [List.map_id'] at hlookup
    exact hlookup
  · intro hfound
    obtain ⟨before, after, hentries, -⟩ := List.lookup_eq_some_iff.1 hfound
    rw [hentries]
    exact List.mem_append_right _ List.mem_cons_self

/-- Pairs with distinct names are the entries of the map that they make. -/
theorem perm_entries_ofList {pairs : List (String × α)} (hnd : (pairs.map (·.1)).Nodup) :
    (ofList pairs).entries.Perm pairs := by
  refine (List.perm_ext_iff_of_nodup (List.Nodup.of_map _ (names_nodup _))
    (List.Nodup.of_map _ hnd)).2 fun e => ⟨mem_entries_ofList, fun he => ?_⟩
  have hlookup := lookup_map_of_mem (·.1) (·.2) hnd he
  rw [List.map_id'] at hlookup
  rw [mem_entries_iff, get?_ofList hnd]
  exact hlookup

/-- Maps in which the same is found under every name are the same. -/
theorem ext_get? {m other : NameMap α} (h : ∀ name, m.get? name = other.get? name) :
    m = other := by
  have hperm : m.entries.Perm other.entries := by
    refine (List.perm_ext_iff_of_nodup (List.Nodup.of_map _ m.names_nodup)
      (List.Nodup.of_map _ other.names_nodup)).2 fun e => ?_
    rw [mem_entries_iff, mem_entries_iff, h]
  -- the order of the names leaves one way to list them
  have hentries : m.entries = other.entries :=
    hperm.eq_of_pairwise (fun a b _ _ hab hba => absurd hba (String.lt_asymm hab)) m.sorted
      other.sorted
  cases m
  cases other
  cases hentries
  rfl

end BearerAuth.NameMap
