import BearerAuth.Bytes.Base64

/-!
# Base64 reads back what it writes

- `Alphabet.Proper`: the sixty-four symbols of an alphabet are told apart by its
  reader. The two alphabets in use are proper (`urlSafe_proper`,
  `standard_proper`).
- `Alphabet.decode?_encode`: a proper alphabet reads every written form back.
- `Alphabet.mem_encode`: a written form consists of symbols, so a property of
  the symbols is one of all written forms; `dot_notMem_encode` is the one that
  keeps the segments of a token apart.
- `Alphabet.isSome_value?_of_decode?`: only symbols are read.
-/

namespace BearerAuth.Bytes.Base64

/-- A number that a byte holds is that byte. -/
theorem ofNat_eq_of_eq_toNat {n : Nat} {x : UInt8} (h : n = x.toNat) : UInt8.ofNat n = x := by
  rw [h, UInt8.ofNat_toNat]

namespace Alphabet

variable {a : Alphabet}

/-- The reader of the alphabet knows each of its symbols. -/
def Proper (a : Alphabet) : Prop :=
  ∀ n < 64, a.value? (a.symbol n) = some n

theorem urlSafe_proper : urlSafe.Proper := by
  unfold Proper
  decide

theorem standard_proper : standard.Proper := by
  unfold Proper
  decide

/-- Reading inverts writing, group by group. -/
theorem decode?_encode (ha : a.Proper) (bytes : List UInt8) :
    a.decode? (a.encode bytes) = some bytes := by
  fun_induction a.encode bytes with
  | case1 => rfl
  | case2 x =>
    -- of the second symbol four bits are left over, which have to be zero
    have hx := x.toNat_lt
    have hlow : x.toNat % 4 * 16 % 16 = 0 := by omega
    have h₁ : UInt8.ofNat (x.toNat / 4 * 4 + x.toNat % 4 * 16 / 16) = x :=
      ofNat_eq_of_eq_toNat (by omega)
    simp only [decode?, ha _ (show x.toNat / 4 < 64 by omega),
      ha _ (show x.toNat % 4 * 16 < 64 by omega), Option.bind_eq_bind, Option.bind_some, hlow,
      if_true, h₁]
  | case3 x y =>
    -- of the third symbol two bits are left over
    have hx := x.toNat_lt
    have hy := y.toNat_lt
    have hlow : y.toNat % 16 * 4 % 4 = 0 := by omega
    have h₁ : UInt8.ofNat (x.toNat / 4 * 4 + (x.toNat % 4 * 16 + y.toNat / 16) / 16) = x :=
      ofNat_eq_of_eq_toNat (by omega)
    have h₂ : UInt8.ofNat
        ((x.toNat % 4 * 16 + y.toNat / 16) % 16 * 16 + y.toNat % 16 * 4 / 4) = y :=
      ofNat_eq_of_eq_toNat (by omega)
    simp only [decode?, ha _ (show x.toNat / 4 < 64 by omega),
      ha _ (show x.toNat % 4 * 16 + y.toNat / 16 < 64 by omega),
      ha _ (show y.toNat % 16 * 4 < 64 by omega), Option.bind_eq_bind, Option.bind_some, hlow,
      if_true, h₁, h₂]
  | case4 x y z rest ih =>
    have hx := x.toNat_lt
    have hy := y.toNat_lt
    have hz := z.toNat_lt
    have h₁ : UInt8.ofNat (x.toNat / 4 * 4 + (x.toNat % 4 * 16 + y.toNat / 16) / 16) = x :=
      ofNat_eq_of_eq_toNat (by omega)
    have h₂ : UInt8.ofNat ((x.toNat % 4 * 16 + y.toNat / 16) % 16 * 16 +
        (y.toNat % 16 * 4 + z.toNat / 64) / 4) = y :=
      ofNat_eq_of_eq_toNat (by omega)
    have h₃ : UInt8.ofNat ((y.toNat % 16 * 4 + z.toNat / 64) % 4 * 64 + z.toNat % 64) = z :=
      ofNat_eq_of_eq_toNat (by omega)
    simp only [decode?, ha _ (show x.toNat / 4 < 64 by omega),
      ha _ (show x.toNat % 4 * 16 + y.toNat / 16 < 64 by omega),
      ha _ (show y.toNat % 16 * 4 + z.toNat / 64 < 64 by omega),
      ha _ (show z.toNat % 64 < 64 by omega), Option.bind_eq_bind, Option.bind_some, ih, h₁, h₂,
      h₃]

/-- Six bits of every eight take a symbol. -/
theorem length_encode (bytes : List UInt8) :
    (a.encode bytes).length = (4 * bytes.length + 2) / 3 := by
  fun_induction a.encode bytes with
  | case1 => rfl
  | case2 x => simp
  | case3 x y => simp
  | case4 x y z rest ih =>
    simp only [List.length_cons, ih]
    omega

/-- All characters of a written form are symbols. -/
theorem mem_encode {bytes : List UInt8} {c : Char} (h : c ∈ a.encode bytes) :
    ∃ n < 64, c = a.symbol n := by
  -- one case for each number of bytes that a group may have
  fun_induction a.encode bytes with
  | case1 => simp at h
  | case2 x =>
    have hx := x.toNat_lt
    simp only [List.mem_cons, List.not_mem_nil, or_false] at h
    rcases h with rfl | rfl
    · exact ⟨_, by omega, rfl⟩
    · exact ⟨_, by omega, rfl⟩
  | case3 x y =>
    have hx := x.toNat_lt
    have hy := y.toNat_lt
    simp only [List.mem_cons, List.not_mem_nil, or_false] at h
    rcases h with rfl | rfl | rfl
    · exact ⟨_, by omega, rfl⟩
    · exact ⟨_, by omega, rfl⟩
    · exact ⟨_, by omega, rfl⟩
  | case4 x y z rest ih =>
    have hx := x.toNat_lt
    have hy := y.toNat_lt
    have hz := z.toNat_lt
    simp only [List.mem_cons] at h
    rcases h with rfl | rfl | rfl | rfl | h
    · exact ⟨_, by omega, rfl⟩
    · exact ⟨_, by omega, rfl⟩
    · exact ⟨_, by omega, rfl⟩
    · exact ⟨_, by omega, rfl⟩
    · exact ih h

/-- The segments of a token have no dots of their own. -/
theorem dot_notMem_encode (bytes : List UInt8) : '.' ∉ urlSafe.encode bytes := by
  have hsymbols : ∀ n < 64, '.' ≠ urlSafe.symbol n := by decide
  intro h
  obtain ⟨n, hn, hc⟩ := mem_encode h
  exact hsymbols n hn hc

/-- A text that is read consists of symbols. -/
theorem isSome_value?_of_decode? {cs : List Char} {bytes : List UInt8}
    (h : a.decode? cs = some bytes) : ∀ c ∈ cs, (a.value? c).isSome = true := by
  fun_induction a.decode? cs generalizing bytes with
  | case1 => simp
  | case2 => cases h
  | case3 c₁ c₂ =>
    obtain ⟨v₁, h₁, h⟩ := Option.bind_eq_some_iff.1 h
    obtain ⟨v₂, h₂, -⟩ := Option.bind_eq_some_iff.1 h
    simp [h₁, h₂]
  | case4 c₁ c₂ c₃ =>
    obtain ⟨v₁, h₁, h⟩ := Option.bind_eq_some_iff.1 h
    obtain ⟨v₂, h₂, h⟩ := Option.bind_eq_some_iff.1 h
    obtain ⟨v₃, h₃, -⟩ := Option.bind_eq_some_iff.1 h
    simp [h₁, h₂, h₃]
  | case5 c₁ c₂ c₃ c₄ rest ih =>
    obtain ⟨v₁, h₁, h⟩ := Option.bind_eq_some_iff.1 h
    obtain ⟨v₂, h₂, h⟩ := Option.bind_eq_some_iff.1 h
    obtain ⟨v₃, h₃, h⟩ := Option.bind_eq_some_iff.1 h
    obtain ⟨v₄, h₄, h⟩ := Option.bind_eq_some_iff.1 h
    obtain ⟨tail, htail, -⟩ := Option.bind_eq_some_iff.1 h
    simpa [h₁, h₂, h₃, h₄] using ih htail

/-- No segment that is read has a dot of its own. -/
theorem dot_notMem_of_decode? {cs : List Char} {bytes : List UInt8}
    (h : urlSafe.decode? cs = some bytes) : '.' ∉ cs := by
  intro hdot
  have hsymbol := isSome_value?_of_decode? h '.' hdot
  exact absurd hsymbol (by decide)

end Alphabet

end BearerAuth.Bytes.Base64
