/-!
# Maps from names

`NameMap α` is a finite map from names to values, kept in byte order of the
names: the columns of a table, a user record, the members of a token. The order
is part of the type, so two maps with the same entries are equal.

- `NameMap.get?`, `NameMap.insert`, `NameMap.erase`: look up, set and remove a
  name.
- `NameMap.ofList`: the map of a list of pairs; of two pairs with one name the
  later counts.
- `Fields`: the maps to texts.
-/

namespace BearerAuth

/-- A finite map from names to values, in byte order of the names. -/
structure NameMap (α : Type) where
  entries : List (String × α)
  sorted : entries.Pairwise (·.1 < ·.1) := by simp
  deriving DecidableEq, Repr

/-- A finite map from names to texts. -/
abbrev Fields := NameMap String

namespace NameMap

variable {α : Type}

/-- The map without entries. -/
def empty : NameMap α := { entries := [] }

instance : Inhabited (NameMap α) := ⟨empty⟩

/-- The value under `name`. -/
def get? (m : NameMap α) (name : String) : Option α :=
  m.entries.lookup name

/-- Whether there is a value under `name`. -/
def contains (m : NameMap α) (name : String) : Bool :=
  (m.get? name).isSome

/-- Sets `name` in an ordered list of entries. -/
def insertEntry (name : String) (value : α) : List (String × α) → List (String × α)
  | [] => [(name, value)]
  | (n, v) :: rest =>
    if name < n then (name, value) :: (n, v) :: rest
    else if name = n then (name, value) :: rest
    else (n, v) :: insertEntry name value rest

theorem mem_insertEntry {name : String} {value : α} {entries : List (String × α)}
    {e : String × α} (h : e ∈ insertEntry name value entries) :
    e = (name, value) ∨ e ∈ entries := by
  induction entries with
  | nil => simpa [insertEntry] using h
  | cons head rest ih =>
    obtain ⟨n, v⟩ := head
    unfold insertEntry at h
    split at h
    · simpa using h
    · split at h
      · rcases List.mem_cons.1 h with h | h
        · exact .inl h
        · exact .inr (List.mem_cons_of_mem _ h)
      · rcases List.mem_cons.1 h with h | h
        · exact .inr (h ▸ List.mem_cons_self)
        · exact (ih h).imp_right (List.mem_cons_of_mem _)

/-- Of two different names that are not in order, the second comes first. -/
theorem lt_of_not_lt_of_ne {a b : String} (h : ¬a < b) (hne : a ≠ b) : b < a := by
  refine Decidable.byContradiction fun hba => hne ?_
  exact String.le_antisymm (String.not_lt.1 hba) (String.not_lt.1 h)

theorem sorted_insertEntry (name : String) (value : α) {entries : List (String × α)}
    (h : entries.Pairwise (·.1 < ·.1)) :
    (insertEntry name value entries).Pairwise (·.1 < ·.1) := by
  induction entries with
  | nil => simp [insertEntry]
  | cons head rest ih =>
    obtain ⟨n, v⟩ := head
    obtain ⟨hhead, hrest⟩ := List.pairwise_cons.1 h
    unfold insertEntry
    split
    · next hlt =>
      refine List.pairwise_cons.2 ⟨fun e he => ?_, h⟩
      rcases List.mem_cons.1 he with rfl | he
      · exact hlt
      · exact String.lt_trans hlt (hhead e he)
    · next hlt =>
      split
      · next heq =>
        subst heq
        exact List.pairwise_cons.2 ⟨hhead, hrest⟩
      · next hne =>
        refine List.pairwise_cons.2 ⟨fun e he => ?_, ih hrest⟩
        rcases mem_insertEntry he with rfl | he
        · exact lt_of_not_lt_of_ne hlt hne
        · exact hhead e he

/-- The map with `name` set to `value`. -/
def insert (m : NameMap α) (name : String) (value : α) : NameMap α where
  entries := insertEntry name value m.entries
  sorted := sorted_insertEntry name value m.sorted

/-- The map without `name`. -/
def erase (m : NameMap α) (name : String) : NameMap α where
  entries := m.entries.filter fun e => e.1 != name
  sorted := m.sorted.filter _

/-- The map of the pairs; of several pairs with one name the last counts. -/
def ofList (pairs : List (String × α)) : NameMap α :=
  pairs.foldl (fun m p => m.insert p.1 p.2) empty

end NameMap

end BearerAuth
