import BearerAuth.Json.Reader
import BearerAuth.Json.Writer

/-!
# Numbers in JSON

- `Number.WellFormed`: what the grammar asks of a number as it is written.
- `number?_writeNumber`: a well-formed number reads back, if what follows cannot
  continue it.
- `Number.wellFormed_ofInt`, `Number.integer?_ofInt`, `Number.int64?_ofInt`:
  integers are written as well-formed numbers and are found again in them.
-/

namespace BearerAuth.Json

/-- Nothing of a number stands at the start. -/
def Stops (rest : List UInt8) : Prop :=
  ∀ b tail, rest = b :: tail → isDigit b = false ∧ b ≠ 0x2e ∧ b ≠ 0x65 ∧ b ≠ 0x45

theorem stops_nil : Stops [] := by
  intro b tail h
  cases h

/-- A number ends before a byte that can neither be a digit of it nor begin a part of it. -/
theorem stops_cons {b : UInt8} {tail : List UInt8}
    (h : isDigit b = false ∧ b ≠ 0x2e ∧ b ≠ 0x65 ∧ b ≠ 0x45) : Stops (b :: tail) := by
  rintro _ _ ⟨⟩
  exact h

/-- A digit is told from what is none. -/
theorem ne_of_isDigit {b c : UInt8} (hb : isDigit b = true) (hc : isDigit c = false) : b ≠ c := by
  rintro rfl
  rw [hb] at hc
  cases hc

/-- What the grammar asks of a number: digits, no zero in front of others, and
at least one digit in an exponent. -/
structure Number.WellFormed (n : Number) : Prop where
  whole_ne : n.whole ≠ []
  whole : ∀ b ∈ n.whole, isDigit b = true
  zero : n.whole.head? = some 0x30 → n.whole.length = 1
  fraction : ∀ b ∈ n.fraction, isDigit b = true
  exponent_ne : ∀ e, n.exponent = some e → e.digits ≠ []
  exponent : ∀ e, n.exponent = some e → ∀ b ∈ e.digits, isDigit b = true

/-- A run of digits is read to its end. -/
theorem digits?_append {ds rest : List UInt8} (hne : ds ≠ []) (hd : ∀ b ∈ ds, isDigit b = true)
    (hrest : ∀ b tail, rest = b :: tail → isDigit b = false) :
    digits? (ds ++ rest) = some (ds, rest) := by
  have htake : rest.takeWhile isDigit = [] := by
    cases rest with
    | nil => rfl
    | cons b tail => rw [List.takeWhile_cons_of_neg (by simp [hrest b tail rfl])]
  have hdrop : rest.dropWhile isDigit = rest := by
    cases rest with
    | nil => rfl
    | cons b tail => rw [List.dropWhile_cons_of_neg (by simp [hrest b tail rfl])]
  unfold digits?
  rw [List.takeWhile_append_of_pos hd, List.dropWhile_append_of_pos hd, htake, hdrop,
    List.append_nil]
  simp [hne]

/-- Where a number ends there is no digit. -/
theorem stops_notDigit {rest : List UInt8} (h : Stops rest) :
    ∀ b tail, rest = b :: tail → isDigit b = false :=
  fun b tail hb => (h b tail hb).1

/-- The written form of an exponent, if there is one. -/
def writeExponent : Option Exponent → List UInt8
  | none => []
  | some e => 0x65 :: (if e.negative then [0x2d] else []) ++ e.digits

/-- The written form of a fraction, if it has digits. -/
def writeFraction (ds : List UInt8) : List UInt8 :=
  if ds = [] then [] else 0x2e :: ds

/-- A number is written part by part, and parts that it has not are not written. -/
theorem writeNumber_eq (n : Number) :
    writeNumber n = (if n.negative then [0x2d] else []) ++
      (n.whole ++ (writeFraction n.fraction ++ writeExponent n.exponent)) := by
  cases hexponent : n.exponent <;>
    simp [writeNumber, writeExponent, writeFraction, hexponent]

/-- A sign in front of digits is told from the digits. -/
theorem signedExponent?_append (negative : Bool) {ds rest : List UInt8} (hrest : Stops rest)
    (hne : ds ≠ []) (hd : ∀ b ∈ ds, isDigit b = true) :
    signedExponent? ((if negative then [0x2d] else []) ++ (ds ++ rest)) =
      some (⟨negative, ds⟩, rest) := by
  have hread := digits?_append hne hd (stops_notDigit hrest)
  cases negative with
  | true =>
    show (digits? (ds ++ rest)).map _ = _
    rw [hread]
    rfl
  | false =>
    obtain ⟨d, ds, rfl⟩ := List.exists_cons_of_ne_nil hne
    have hdigit := hd d List.mem_cons_self
    show signedExponent? (d :: (ds ++ rest)) = _
    rw [signedExponent?]
    · show (digits? (d :: ds ++ rest)).map _ = _
      rw [hread]
      rfl
    · intro _ heq
      exact ne_of_isDigit hdigit rfl (List.cons.inj heq).1
    · intro _ heq
      exact ne_of_isDigit hdigit rfl (List.cons.inj heq).1

/-- A written exponent reads back, and the absent one does. -/
theorem exponent?_append {e : Option Exponent} {rest : List UInt8} (hrest : Stops rest)
    (hne : ∀ x, e = some x → x.digits ≠ [])
    (hd : ∀ x, e = some x → ∀ b ∈ x.digits, isDigit b = true) :
    exponent? (writeExponent e ++ rest) = some (e, rest) := by
  cases e with
  | none =>
    cases rest with
    | nil => rfl
    | cons b tail =>
      obtain ⟨-, -, hlower, hupper⟩ := hrest b tail rfl
      show exponent? (b :: tail) = some (none, b :: tail)
      rw [exponent?, if_neg (not_or.2 ⟨hlower, hupper⟩)]
  | some x =>
    obtain ⟨negative, ds⟩ := x
    have hsigned := signedExponent?_append negative hrest (hne _ rfl) (hd _ rfl)
    show exponent? (0x65 :: ((if negative then [0x2d] else []) ++ ds) ++ rest) = _
    rw [List.cons_append, List.append_assoc, exponent?, if_pos (.inl rfl), hsigned]
    rfl

/-- An exponent or what follows a number is no digit and no point. -/
theorem writeExponent_append_head (e : Option Exponent) {rest : List UInt8} (hrest : Stops rest) :
    ∀ b tail, writeExponent e ++ rest = b :: tail → isDigit b = false ∧ b ≠ 0x2e := by
  intro b tail heq
  cases e with
  | none => exact ⟨(hrest b tail heq).1, (hrest b tail heq).2.1⟩
  | some x =>
    obtain ⟨rfl, -⟩ := List.cons.inj heq
    exact ⟨rfl, by decide⟩

/-- A written fraction reads back, and the absent one does. -/
theorem fraction?_append {ds rest : List UInt8} (hd : ∀ b ∈ ds, isDigit b = true)
    (hrest : ∀ b tail, rest = b :: tail → isDigit b = false ∧ b ≠ 0x2e) :
    fraction? (writeFraction ds ++ rest) = some (ds, rest) := by
  unfold writeFraction
  split
  · next h =>
    subst h
    show fraction? rest = _
    rw [fraction?]
    rintro tail rfl
    exact (hrest _ _ rfl).2 rfl
  · next h =>
    show digits? (ds ++ rest) = _
    exact digits?_append h hd fun b tail hb => (hrest b tail hb).1

/-- What follows the sign reads back: a leading zero stands alone, so that no digit is taken
for the next part. -/
theorem unsigned?_append {n : Number} (hn : n.WellFormed) {rest : List UInt8} (hrest : Stops rest) :
    unsigned? n.negative
        (n.whole ++ (writeFraction n.fraction ++ (writeExponent n.exponent ++ rest))) =
      some (n, rest) := by
  have hexponent := exponent?_append hrest hn.exponent_ne hn.exponent
  have hfraction := fraction?_append hn.fraction (writeExponent_append_head n.exponent hrest)
  -- the digits of the whole part end at a point, at an exponent or at the end of the number
  have hwhole :
      digits? (n.whole ++ (writeFraction n.fraction ++ (writeExponent n.exponent ++ rest))) =
        some (n.whole, writeFraction n.fraction ++ (writeExponent n.exponent ++ rest)) := by
    refine digits?_append hn.whole_ne hn.whole fun b tail heq => ?_
    unfold writeFraction at heq
    split at heq
    · exact (writeExponent_append_head n.exponent hrest b tail heq).1
    · obtain ⟨rfl, -⟩ := List.cons.inj heq
      rfl
  have hzero : ¬(n.whole.head? = some 0x30 ∧ 1 < n.whole.length) := by
    rintro ⟨hhead, hlength⟩
    rw [hn.zero hhead] at hlength
    exact absurd hlength (by decide)
  simp only [unsigned?, hwhole, hfraction, hexponent, Option.bind_eq_bind, Option.bind_some,
    if_neg hzero]

/-- A well-formed number reads back. -/
theorem number?_writeNumber {n : Number} (hn : n.WellFormed) {rest : List UInt8}
    (hrest : Stops rest) : number? (writeNumber n ++ rest) = some (n, rest) := by
  have hread := unsigned?_append hn hrest
  rw [writeNumber_eq, List.append_assoc, List.append_assoc, List.append_assoc]
  cases hneg : n.negative with
  | true =>
    rw [hneg] at hread
    exact hread
  | false =>
    rw [hneg] at hread
    obtain ⟨d, ds, hwhole⟩ := List.exists_cons_of_ne_nil hn.whole_ne
    have hdigit := hn.whole d (hwhole ▸ List.mem_cons_self)
    rw [hwhole] at hread ⊢
    show number? (d :: (ds ++ _)) = _
    rw [number?]
    · exact hread
    · intro _ heq
      exact ne_of_isDigit hdigit rfl (List.cons.inj heq).1

/-- A written number begins with a sign or a digit. -/
theorem writeNumber_eq_cons {n : Number} (hn : n.WellFormed) :
    ∃ b tail, writeNumber n = b :: tail ∧ (isDigit b = true ∨ b = 0x2d) := by
  rw [writeNumber_eq]
  cases n.negative with
  | true => exact ⟨_, _, rfl, .inr rfl⟩
  | false =>
    obtain ⟨d, ds, hwhole⟩ := List.exists_cons_of_ne_nil hn.whole_ne
    rw [hwhole]
    exact ⟨_, _, rfl, .inl (hn.whole d (hwhole ▸ List.mem_cons_self))⟩

/-! ## Integers -/

theorem isDigit_ofNat {d : Nat} (h : d < 10) : isDigit (UInt8.ofNat (48 + d)) = true := by
  have hall : ∀ d < 10, isDigit (UInt8.ofNat (48 + d)) = true := by decide
  exact hall d h

theorem toNat_digit {d : Nat} (h : d < 10) : (UInt8.ofNat (48 + d)).toNat - 48 = d := by
  rw [UInt8.toNat_ofNat']
  omega

/-- The digits of a number spell it. -/
theorem ofDigits_toDigits (n : Nat) : ofDigits (toDigits n) = n := by
  fun_induction toDigits n with
  | case1 n h =>
    show 10 * 0 + ((UInt8.ofNat (48 + n)).toNat - 48) = n
    rw [toNat_digit h]
    omega
  | case2 n h ih =>
    unfold ofDigits at ih ⊢
    rw [List.foldl_append, ih]
    show 10 * (n / 10) + ((UInt8.ofNat (48 + n % 10)).toNat - 48) = n
    rw [toNat_digit (by omega)]
    omega

/-- Nothing but digits is written for a natural number. -/
theorem isDigit_of_mem_toDigits {n : Nat} {b : UInt8} (h : b ∈ toDigits n) : isDigit b = true := by
  fun_induction toDigits n with
  | case1 n hn =>
    obtain rfl := List.mem_singleton.1 h
    exact isDigit_ofNat hn
  | case2 n hn ih =>
    rcases List.mem_append.1 h with h | h
    · exact ih h
    · obtain rfl := List.mem_singleton.1 h
      exact isDigit_ofNat (Nat.mod_lt _ (by decide))

theorem toDigits_ne_nil (n : Nat) : toDigits n ≠ [] := by
  unfold toDigits
  split <;> simp

/-- Only zero begins with a zero. -/
theorem head?_toDigits {n : Nat} (h : (toDigits n).head? = some 0x30) : n = 0 := by
  fun_induction toDigits n with
  | case1 n hn =>
    have hzero : ∀ d < 10, UInt8.ofNat (48 + d) = 0x30 → d = 0 := by decide
    exact hzero n hn (Option.some.inj h)
  | case2 n hn ih =>
    obtain ⟨d, ds, hd⟩ := List.exists_cons_of_ne_nil (toDigits_ne_nil (n / 10))
    rw [hd] at h ih
    have := ih h
    omega

namespace Number

/-- An integer is a number that may be written: no zero leads unless it is all there is. -/
theorem wellFormed_ofInt (i : Int) : (ofInt i).WellFormed where
  whole_ne := toDigits_ne_nil _
  whole _ := isDigit_of_mem_toDigits
  zero h := by
    have hzero : i.natAbs = 0 := head?_toDigits h
    show (toDigits i.natAbs).length = 1
    rw [hzero, toDigits, if_pos (by decide)]
    rfl
  fraction _ h := absurd h List.not_mem_nil
  exponent_ne _ h := nomatch h
  exponent _ h := nomatch h

/-- The number for an integer is that integer. -/
@[simp] theorem integer?_ofInt (i : Int) : (ofInt i).integer? = some i := by
  have hplain : ¬((ofInt i).fraction ≠ [] ∨ (ofInt i).exponent ≠ none) := by
    simp [ofInt]
  have hsize : ofDigits (ofInt i).whole = i.natAbs := ofDigits_toDigits _
  rw [integer?, if_neg hplain]
  simp only [hsize]
  by_cases hneg : i < 0
  · have hsign : (ofInt i).negative = true := decide_eq_true hneg
    rw [hsign, if_pos rfl, if_neg (by omega)]
    congr 1
    omega
  · have hsign : (ofInt i).negative = false := decide_eq_false hneg
    rw [hsign, if_neg (by decide)]
    congr 1
    omega

/-- The number for an integer of sixty-four bits is that integer. -/
@[simp] theorem int64?_ofInt (i : Int64) : (ofInt i.toInt).int64? = some i := by
  have hlow := i.le_toInt
  have hhigh := i.toInt_lt
  have hholds : Text.Range.int64.holds i.toInt = true := by
    refine Text.Range.holds_iff.2 ⟨hlow, ?_⟩
    show i.toInt ≤ 9223372036854775807
    omega
  simp [int64?, hholds]

end Number

end BearerAuth.Json
