import BearerAuth.Json.Reader
import BearerAuth.Json.Writer

/-!
# Strings in JSON

A string is written byte by byte: `escape` gives each byte its form, and `unit?`
reads one form at a time. Reading inverts writing for all bytes, also for those
that are no text (`string?_flatMap_escape`).

The one look-ahead is after an escape with four hexadecimal digits, where the
reader expects the other half of a surrogate pair. `Orderly` says what it may
find there.
-/

namespace BearerAuth.Json

/-- The forms that a byte may have inside a string: a backslash with a letter, a
backslash with four digits, or itself. -/
inductive Form (b : UInt8) : List UInt8 → Prop where
  | letter (e : UInt8) (hne : e ≠ 0x75) (h : shortEscape? e = some b) : Form b [0x5c, e]
  | digits (hlow : b < 0x20) :
    Form b [0x5c, 0x75, 0x30, 0x30, hexDigit (b.toNat / 16), hexDigit (b.toNat % 16)]
  | plain (hquote : b ≠ 0x22) (hback : b ≠ 0x5c) (hlow : ¬b < 0x20) : Form b [b]

/-- What is written for a byte is one of its forms. -/
theorem form_escape (b : UInt8) : Form b (escape b) := by
  unfold escape
  split
  · next h => exact h ▸ Form.letter 0x22 (by decide) rfl
  next hquote =>
  split
  · next h => exact h ▸ Form.letter 0x5c (by decide) rfl
  next hback =>
  split
  · next h => exact h ▸ Form.letter 0x62 (by decide) rfl
  split
  · next h => exact h ▸ Form.letter 0x66 (by decide) rfl
  split
  · next h => exact h ▸ Form.letter 0x6e (by decide) rfl
  split
  · next h => exact h ▸ Form.letter 0x72 (by decide) rfl
  split
  · next h => exact h ▸ Form.letter 0x74 (by decide) rfl
  split
  · next h => exact .digits h
  · next h => exact .plain hquote hback h

/-- After an escape the reader finds no further escape with digits that are
none. -/
def Orderly (rest : List UInt8) : Prop :=
  ∀ e f g h more, rest = 0x5c :: 0x75 :: e :: f :: g :: h :: more → (hex4? e f g h).isSome

theorem hexValue?_hexDigit {n : Nat} (h : n < 16) : hexValue? (hexDigit n) = some n := by
  have hall : ∀ n < 16, hexValue? (hexDigit n) = some n := by decide
  exact hall n h

theorem hexValue?_zero : hexValue? 0x30 = some 0 := rfl

/-- Two digits after two zeros spell a byte. -/
theorem hex4?_hexDigit {n : Nat} (h : n < 256) :
    hex4? 0x30 0x30 (hexDigit (n / 16)) (hexDigit (n % 16)) = some n := by
  have hhigh := hexValue?_hexDigit (show n / 16 < 16 by omega)
  have hlow := hexValue?_hexDigit (show n % 16 < 16 by omega)
  simp only [hex4?, hexValue?_zero, hhigh, hlow, Option.bind_eq_bind, Option.bind_some,
    Option.some.injEq]
  omega

/-- An escape with digits below the surrogates stands for its code point alone. -/
theorem unit?_hex {a b c d : UInt8} {n : Nat} {rest : List UInt8} (hn : hex4? a b c d = some n)
    (hlow : n < 0xD800) (hrest : Orderly rest) :
    unit? (0x5c :: 0x75 :: a :: b :: c :: d :: rest) = some (codePointBytes n, rest) := by
  unfold unit?
  simp only [hn, Option.bind_eq_bind, Option.bind_some]
  split
  · -- the digits of a further escape are read, but below the surrogates they are not joined
    next e f g h more =>
    obtain ⟨low, hlow'⟩ := Option.isSome_iff_exists.1 (hrest e f g h more rfl)
    rw [hlow', Option.bind_some, if_neg (by omega)]
  · rfl

/-- An escape with a letter stands for what the letter does. -/
theorem unit?_letter {e b : UInt8} {rest : List UInt8} (hne : e ≠ 0x75)
    (he : shortEscape? e = some b) : unit? (0x5c :: e :: rest) = some ([b], rest) := by
  rw [unit?, he]
  · rfl
  · rintro _ _ _ _ _ heq
    exact absurd heq hne

/-- A byte that is neither a backslash nor below the blank stands for itself. -/
theorem unit?_plain {b : UInt8} {rest : List UInt8} (hback : b ≠ 0x5c) (hlow : ¬b < 0x20) :
    unit? (b :: rest) = some ([b], rest) := by
  rw [unit?, if_neg (not_or.2 ⟨hlow, hback⟩)]
  · rintro _ _ _ _ _ heq -
    exact hback heq
  · rintro _ _ heq -
    exact hback heq

/-- The reader takes one written byte at a time. -/
theorem unit?_escape (b : UInt8) {rest : List UInt8} (hrest : Orderly rest) :
    unit? (escape b ++ rest) = some ([b], rest) := by
  have hform := form_escape b
  generalize escape b = bytes at hform
  cases hform with
  | letter e hne he => exact unit?_letter hne he
  | digits hlow =>
    have hsmall : b.toNat < 32 := hlow
    have hbytes : codePointBytes b.toNat = [b] := by
      rw [codePointBytes, if_pos (by omega), UInt8.ofNat_toNat]
    rw [← hbytes]
    exact unit?_hex (hex4?_hexDigit b.toNat_lt) (by omega) hrest
  | plain _ hback hlow => exact unit?_plain hback hlow

/-- What follows a byte inside a string is orderly. -/
theorem orderly_flatMap_escape (bytes tail : List UInt8) :
    Orderly (bytes.flatMap escape ++ 0x22 :: tail) := by
  intro e f g h more heq
  cases bytes with
  | nil => exact absurd (List.cons.inj heq).1 (by decide)
  | cons b bytes =>
    have hform := form_escape b
    rw [List.flatMap_cons, List.append_assoc] at heq
    generalize escape b = form at hform heq
    cases hform with
    | letter _ hne _ => exact absurd (List.cons.inj (List.cons.inj heq).2).1 hne
    | digits _ =>
      simp only [List.cons_append, List.cons.injEq] at heq
      obtain ⟨-, -, rfl, rfl, rfl, rfl, -⟩ := heq
      rw [hex4?_hexDigit b.toNat_lt]
      rfl
    | plain _ hback _ => exact absurd (List.cons.inj heq).1 hback

/-- The form of a byte does not begin like the end of a string. -/
theorem escape_eq_cons (b : UInt8) : ∃ c tail, escape b = c :: tail ∧ c ≠ 0x22 := by
  have hform := form_escape b
  generalize escape b = bytes at hform
  cases hform with
  | letter e _ _ => exact ⟨_, _, rfl, by decide⟩
  | digits _ => exact ⟨_, _, rfl, by decide⟩
  | plain hquote _ _ => exact ⟨_, _, rfl, hquote⟩

theorem string?_cons_of_ne {fuel : Nat} {c : UInt8} (hc : c ≠ 0x22) (rest : List UInt8) :
    string? (fuel + 1) (c :: rest) = (unit? (c :: rest)).bind fun p =>
      (string? fuel p.2).bind fun q => some (p.1 ++ q.1, q.2) := by
  rw [string?]
  · rfl
  · rintro _ heq
    exact hc (List.cons.inj heq).1

theorem length_le_length_flatMap_escape (bytes : List UInt8) :
    bytes.length ≤ (bytes.flatMap escape).length := by
  induction bytes with
  | nil => exact Nat.le_refl _
  | cons b bytes ih =>
    obtain ⟨c, tail, hb, -⟩ := escape_eq_cons b
    simp only [List.flatMap_cons, hb, List.length_append, List.length_cons]
    omega

/-- The inside of a written string reads back, whatever follows its closing
quote. -/
theorem string?_flatMap_escape (bytes rest : List UInt8) {fuel : Nat} (h : bytes.length < fuel) :
    string? fuel (bytes.flatMap escape ++ 0x22 :: rest) = some (bytes, rest) := by
  induction bytes generalizing fuel with
  | nil =>
    obtain ⟨fuel, rfl⟩ : ∃ k, fuel = k + 1 := ⟨fuel - 1, by simp at h; omega⟩
    rfl
  | cons b bytes ih =>
    -- one step of the reader takes the whole form of a byte
    obtain ⟨fuel, rfl⟩ : ∃ k, fuel = k + 1 := ⟨fuel - 1, by simp at h; omega⟩
    obtain ⟨c, tail, hb, hc⟩ := escape_eq_cons b
    have hunit := unit?_escape b (orderly_flatMap_escape bytes rest)
    rw [hb, List.cons_append] at hunit
    rw [List.flatMap_cons, List.append_assoc, hb, List.cons_append, string?_cons_of_ne hc, hunit,
      Option.bind_some, ih (by simpa using h)]
    rfl

/-! ## Strings with their quotes -/

theorem writeString_append (bytes rest : List UInt8) :
    writeString bytes ++ rest = 0x22 :: (bytes.flatMap escape ++ 0x22 :: rest) := by
  unfold writeString
  rw [List.cons_append, List.cons_append, List.append_assoc]
  rfl

/-- The inside of a written string reads back with the fuel for its bytes. -/
theorem string?_writeString (bytes rest : List UInt8) :
    string? ((bytes.flatMap escape ++ 0x22 :: rest).length + 1)
      (bytes.flatMap escape ++ 0x22 :: rest) = some (bytes, rest) := by
  refine string?_flatMap_escape bytes rest ?_
  have hlength := length_le_length_flatMap_escape bytes
  rw [List.length_append]
  omega

end BearerAuth.Json
