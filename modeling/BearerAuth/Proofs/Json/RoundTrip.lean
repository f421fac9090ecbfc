import BearerAuth.Proofs.Json.Numbers
import BearerAuth.Proofs.Json.Strings

/-!
# JSON documents read back

- `WellFormed`: a value whose numbers the grammar has. Strings and member names
  may be any bytes, members may repeat, and nothing is asked of the depth.
- `read?_write`: the compact written form of such a value is a document that
  holds it.

The reader takes fuel for each step down and on. The induction follows the value
and carries the bound that `read?` starts from: twice the length of what is
still to be read.
-/

namespace BearerAuth.Json

mutual

/-- Whether the numbers of the value are ones that the grammar has. -/
def WellFormed : Json → Prop
  | .number n => n.WellFormed
  | .array items => WellFormedItems items
  | .object members => WellFormedMembers members
  | _ => True

/-- Whether all items are well-formed. -/
def WellFormedItems : List Json → Prop
  | [] => True
  | item :: rest => item.WellFormed ∧ WellFormedItems rest

/-- Whether the values of all members are well-formed. -/
def WellFormedMembers : List (List UInt8 × Json) → Prop
  | [] => True
  | (_, value) :: rest => value.WellFormed ∧ WellFormedMembers rest

end

/-- Members may be written if all their values may. -/
theorem wellFormedMembers_iff {members : List (List UInt8 × Json)} :
    WellFormedMembers members ↔ ∀ m ∈ members, m.2.WellFormed := by
  induction members with
  | nil => simp [WellFormedMembers]
  | cons m rest ih => simp [WellFormedMembers, ih]

/-! ## Steps of the reader -/

theorem skipSpace_cons {b : UInt8} (h : isSpace b = false) (rest : List UInt8) :
    skipSpace (b :: rest) = b :: rest :=
  List.dropWhile_cons_of_neg (by simp [h])

/-- A string reads back, whatever follows it. -/
theorem value?_string (fuel : Nat) (bytes rest : List UInt8) :
    value? (fuel + 1) (writeString bytes ++ rest) = some (.string bytes, rest) := by
  rw [writeString_append]
  show (string? _ (bytes.flatMap escape ++ 0x22 :: rest)).bind _ = _
  rw [string?_writeString]
  rfl

/-- A byte with which a number may begin is no blank and begins nothing else. -/
theorem of_startsNumber {b : UInt8} (hb : isDigit b = true ∨ b = 0x2d) :
    isSpace b = false ∧ b ≠ 0x6e ∧ b ≠ 0x74 ∧ b ≠ 0x66 ∧ b ≠ 0x22 ∧ b ≠ 0x5b ∧ b ≠ 0x7b ∧
      b ≠ 0x5d := by
  rcases hb with hb | rfl
  · have hne : ∀ c, isDigit c = false → b ≠ c := fun _ => ne_of_isDigit hb
    refine ⟨?_, hne _ rfl, hne _ rfl, hne _ rfl, hne _ rfl, hne _ rfl, hne _ rfl, hne _ rfl⟩
    simp only [isSpace, Bool.or_eq_false_iff, beq_eq_false_iff_ne]
    exact ⟨⟨⟨hne _ rfl, hne _ rfl⟩, hne _ rfl⟩, hne _ rfl⟩
  · decide

/-- A number reads back before what cannot go on with it. It is known by its first byte, a
sign or a digit, which begins no other value. -/
theorem value?_number (fuel : Nat) {n : Number} (hn : n.WellFormed) {rest : List UInt8}
    (hrest : Stops rest) :
    value? (fuel + 1) (writeNumber n ++ rest) = some (.number n, rest) := by
  have hread := number?_writeNumber hn hrest
  obtain ⟨b, tail, hcons, hb⟩ := writeNumber_eq_cons hn
  obtain ⟨hspace, hn, ht, hf, hquote, hbracket, hbrace, -⟩ := of_startsNumber hb
  rw [hcons, List.cons_append] at hread ⊢
  rw [value?, skipSpace_cons hspace]
  split
  · next h => cases h
  · next h => exact absurd (List.cons.inj h).1 hn
  · next h => exact absurd (List.cons.inj h).1 ht
  · next h => exact absurd (List.cons.inj h).1 hf
  · next h => exact absurd (List.cons.inj h).1 hquote
  · next h => exact absurd (List.cons.inj h).1 hbracket
  · next h => exact absurd (List.cons.inj h).1 hbrace
  · rw [hread]
    rfl

/-- A written value begins with a byte that is neither a blank nor the end of an
array. -/
theorem write_eq_cons {j : Json} (hj : j.WellFormed) :
    ∃ b tail, j.write = b :: tail ∧ isSpace b = false ∧ b ≠ 0x5d := by
  cases j with
  | null => exact ⟨_, _, rfl, rfl, by decide⟩
  | bool value => cases value <;> exact ⟨_, _, rfl, rfl, by decide⟩
  | number n =>
    obtain ⟨b, tail, hcons, hb⟩ := writeNumber_eq_cons hj
    obtain ⟨hspace, -, -, -, -, -, -, hend⟩ := of_startsNumber hb
    exact ⟨b, tail, hcons, hspace, hend⟩
  | string bytes => exact ⟨_, _, rfl, rfl, by decide⟩
  | array items => exact ⟨_, _, rfl, rfl, by decide⟩
  | object members => exact ⟨_, _, rfl, rfl, by decide⟩

theorem value?_bracket (fuel : Nat) (more : List UInt8) :
    value? (fuel + 1) (0x5b :: more) =
      match skipSpace more with
      | 0x5d :: rest => some (.array [], rest)
      | rest => (items? fuel rest).bind fun p => some (.array p.1, p.2) := rfl

/-- An array that is not empty is read item by item. -/
theorem value?_array {fuel : Nat} {b : UInt8} {tail rest : List UInt8} {items : List Json}
    (hspace : isSpace b = false) (hb : b ≠ 0x5d)
    (h : items? fuel (b :: tail) = some (items, rest)) :
    value? (fuel + 1) (0x5b :: b :: tail) = some (.array items, rest) := by
  rw [value?_bracket, skipSpace_cons hspace]
  split
  · next heq => exact absurd (List.cons.inj heq).1 hb
  · rw [h]
    rfl

/-- An object that is not empty is read member by member. -/
theorem value?_object {fuel : Nat} {tail rest : List UInt8} {members : List (List UInt8 × Json)}
    (h : members? fuel (0x22 :: tail) = some (members, rest)) :
    value? (fuel + 1) (0x7b :: 0x22 :: tail) = some (.object members, rest) := by
  show (members? fuel (0x22 :: tail)).bind _ = _
  rw [h]
  rfl

/-- The last item is the one before the closing bracket. -/
theorem items?_last {fuel : Nat} {bytes rest : List UInt8} {item : Json}
    (h : value? fuel bytes = some (item, 0x5d :: rest)) :
    items? (fuel + 1) bytes = some ([item], rest) := by
  rw [items?, h]
  rfl

/-- After a comma there are more items. -/
theorem items?_cons {fuel : Nat} {bytes more rest : List UInt8} {item : Json} {items : List Json}
    (h : value? fuel bytes = some (item, 0x2c :: more))
    (hmore : items? fuel more = some (items, rest)) :
    items? (fuel + 1) bytes = some (item :: items, rest) := by
  rw [items?, h]
  show (items? fuel more).bind _ = _
  rw [hmore]
  rfl

/-- A member is read name first, then what stands after the colon. -/
theorem members?_writeString {fuel : Nat} (name more : List UInt8) :
    members? (fuel + 1) (writeString name ++ 0x3a :: more) =
      (value? fuel more).bind fun p =>
        match skipSpace p.2 with
        | 0x7d :: rest => some ([(name, p.1)], rest)
        | 0x2c :: rest => (members? fuel rest).bind fun q => some ((name, p.1) :: q.1, q.2)
        | _ => none := by
  rw [writeString_append]
  show (string? _ (name.flatMap escape ++ 0x22 :: 0x3a :: more)).bind _ = _
  rw [string?_writeString]
  rfl

theorem stops_comma (rest : List UInt8) : Stops (0x2c :: rest) :=
  stops_cons (by decide)

/-- Items begin with a byte that is neither a space nor the closing bracket. -/
theorem writeItems_eq_cons {items : List Json} (hne : items ≠ []) (hitems : WellFormedItems items) :
    ∃ b tail, writeItems items = b :: tail ∧ isSpace b = false ∧ b ≠ 0x5d := by
  match items, hne, hitems with
  | [item], _, hitems => exact write_eq_cons hitems.1
  | item :: next :: items, _, hitems =>
    obtain ⟨b, tail, hcons, hb⟩ := write_eq_cons hitems.1
    refine ⟨b, tail ++ 0x2c :: writeItems (next :: items), ?_, hb⟩
    rw [writeItems, hcons, List.cons_append]
    · exact List.cons_ne_nil _ _

/-! ## The whole document -/

mutual

/-- A written value reads back, if what follows cannot continue it. -/
theorem value?_write : ∀ (j : Json), j.WellFormed → ∀ (fuel : Nat) (rest : List UInt8),
    2 * j.write.length ≤ fuel → Stops rest → value? fuel (j.write ++ rest) = some (j, rest)
  | .null, _, fuel + 1, _, _, _ => rfl
  | .bool true, _, fuel + 1, _, _, _ => rfl
  | .bool false, _, fuel + 1, _, _, _ => rfl
  | .number _, hj, fuel + 1, _, _, hrest => value?_number fuel hj hrest
  | .string bytes, _, fuel + 1, rest, _, _ => value?_string fuel bytes rest
  | .array [], _, fuel + 1, rest, _, _ => rfl
  | .array (item :: items), hj, fuel + 1, rest, hfuel, _ => by
    -- the two brackets pay for the step into the items
    have hne : item :: items ≠ [] := List.cons_ne_nil _ _
    have hwrite : (array (item :: items)).write ++ rest =
        0x5b :: (writeItems (item :: items) ++ 0x5d :: rest) := by
      simp [write]
    have hitems := items?_write (item :: items) hne hj fuel rest (by
      simp [write] at hfuel
      omega)
    obtain ⟨b, tail, hcons, hspace, hb⟩ := writeItems_eq_cons hne hj
    rw [hcons, List.cons_append] at hitems
    rw [hwrite, hcons, List.cons_append]
    exact value?_array hspace hb hitems
  | .object [], _, fuel + 1, rest, _, _ => rfl
  | .object (m :: members), hj, fuel + 1, rest, hfuel, _ => by
    have hwrite : (object (m :: members)).write ++ rest =
        0x7b :: (writeMembers (m :: members) ++ 0x7d :: rest) := by
      simp [write]
    have hmembers := members?_write (m :: members) (List.cons_ne_nil _ _) hj fuel rest (by
        simp [write] at hfuel
        omega)
    obtain ⟨tail, hcons⟩ : ∃ tail, writeMembers (m :: members) = 0x22 :: tail := by
      cases members <;> exact ⟨_, rfl⟩
    rw [hcons, List.cons_append] at hmembers
    rw [hwrite, hcons, List.cons_append]
    exact value?_object hmembers
  | j, hj, 0, _, hfuel, _ => by
    -- nothing is written without a byte, so that there is fuel for the first step
    obtain ⟨b, tail, hcons, -⟩ := write_eq_cons hj
    rw [hcons] at hfuel
    simp at hfuel

/-- Written items read back up to the end of their array. -/
theorem items?_write : ∀ (items : List Json), items ≠ [] → WellFormedItems items →
    ∀ (fuel : Nat) (rest : List UInt8), 2 * (writeItems items).length + 1 ≤ fuel →
      items? fuel (writeItems items ++ 0x5d :: rest) = some (items, rest)
  | [], hne, _, _, _, _ => absurd rfl hne
  | [item], _, hitems, fuel + 1, rest, hfuel => by
    have hitem := value?_write item hitems.1 fuel (0x5d :: rest)
      (Nat.le_of_succ_le_succ hfuel) (stops_cons (by decide))
    exact items?_last hitem
  | item :: next :: items, _, hitems, fuel + 1, rest, hfuel => by
    have hlength : (writeItems (item :: next :: items)).length =
        item.write.length + (writeItems (next :: items)).length + 1 := by
      simp [writeItems]
      omega
    have hitem := value?_write item hitems.1 fuel
      (0x2c :: (writeItems (next :: items) ++ 0x5d :: rest)) (by omega) (stops_comma _)
    have hmore := items?_write (next :: items) (List.cons_ne_nil _ _) hitems.2 fuel rest (by omega)
    show items? (fuel + 1) (item.write ++ 0x2c :: writeItems (next :: items) ++ 0x5d :: rest) = _
    rw [List.append_assoc, List.cons_append]
    exact items?_cons hitem hmore

/-- Written members read back up to the end of their object. -/
theorem members?_write : ∀ (members : List (List UInt8 × Json)), members ≠ [] →
    WellFormedMembers members → ∀ (fuel : Nat) (rest : List UInt8),
      2 * (writeMembers members).length + 1 ≤ fuel →
        members? fuel (writeMembers members ++ 0x7d :: rest) = some (members, rest)
  | [], hne, _, _, _, _ => absurd rfl hne
  | [(name, value)], _, hmembers, fuel + 1, rest, hfuel => by
    have hlength : (writeMembers [(name, value)]).length =
        (writeString name).length + value.write.length + 1 := by
      simp [writeMembers]
      omega
    have hvalue := value?_write value hmembers.1 fuel (0x7d :: rest) (by omega)
      (stops_cons (by decide))
    show members? (fuel + 1) (writeString name ++ 0x3a :: value.write ++ 0x7d :: rest) = _
    rw [List.append_assoc, List.cons_append, members?_writeString, hvalue]
    rfl
  | (name, value) :: next :: members, _, hmembers, fuel + 1, rest, hfuel => by
    have hlength : (writeMembers ((name, value) :: next :: members)).length =
        (writeString name).length + value.write.length + (writeMembers (next :: members)).length +
          2 := by
      simp [writeMembers]
      omega
    have hvalue := value?_write value hmembers.1 fuel
      (0x2c :: (writeMembers (next :: members) ++ 0x7d :: rest)) (by omega) (stops_comma _)
    have hmore := members?_write (next :: members) (List.cons_ne_nil _ _) hmembers.2 fuel rest
      (by omega)
    show members? (fuel + 1) (writeString name ++ 0x3a :: value.write ++
      0x2c :: writeMembers (next :: members) ++ 0x7d :: rest) = _
    rw [List.append_assoc, List.append_assoc, List.cons_append, List.cons_append,
      members?_writeString, hvalue]
    show (members? fuel (writeMembers (next :: members) ++ 0x7d :: rest)).bind _ = _
    rw [hmore]
    rfl

end

/-- A written document holds the value it was written for. -/
theorem read?_write {j : Json} (hj : j.WellFormed) : read? j.write = some j := by
  have hread := value?_write j hj (2 * j.write.length + 2) [] (by omega) stops_nil
  rw [List.append_nil] at hread
  rw [read?, hread]
  rfl

end BearerAuth.Json
