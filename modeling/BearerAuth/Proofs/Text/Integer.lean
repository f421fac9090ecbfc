import BearerAuth.Proofs.Time.Stamp
import BearerAuth.Text.Integer

/-!
# What a number is read as

A number by its parts, apart from the reader: a sign, if any, and at least one digit. The
reader goes from left to right and stops at what leads out of the range or is no digit,
whichever comes first.

- `Sign`: what may stand before the digits.
- `Range.Begins`, `Range.Spells`: characters that begin with a number; those that are one.
- `Range.Reads`: what is said of characters, a number of the range or why there is none.
- `Range.read_eq_iff`: the reader says that and nothing else. Nothing else can be said
  (`Range.Reads.unique`).
-/

namespace BearerAuth.Text

open Time.Rfc3339 (spelled digitChars spelled_append digit?_digit eq_digit_of_digit?
  isSome_digit?_of_mem_digitChars)

/-! ## Signs -/

/-- What stands before the digits. -/
inductive Sign where
  | bare
  | plus
  | minus
  deriving DecidableEq

namespace Sign

/-- The characters of the sign. -/
def chars : Sign → List Char
  | bare => []
  | plus => ['+']
  | minus => ['-']

/-- What a digit counts. -/
def factor : Sign → Int
  | bare => 1
  | plus => 1
  | minus => -1

/-- A minus sign is allowed only where there are negative numbers. -/
def Allowed (r : Range) (sign : Sign) : Prop :=
  sign = minus → r.low < 0

/-- The sign that comes first. -/
def first : List Char → Sign
  | '+' :: _ => plus
  | '-' :: _ => minus
  | _ => bare

/-- What comes after the sign. -/
def rest (cs : List Char) : List Char :=
  cs.drop (first cs).chars.length

section

variable {cs : List Char} (hplus : ∀ more, cs = '+' :: more → False)
  (hminus : ∀ more, cs = '-' :: more → False)

include hplus hminus

theorem first_of_bare : first cs = bare := by
  unfold first
  split
  · next more => exact (hplus more rfl).elim
  · next more => exact (hminus more rfl).elim
  · rfl

theorem rest_of_bare : rest cs = cs := by
  rw [rest, first_of_bare hplus hminus]
  rfl

end

/-- A text is its sign and what follows it. -/
theorem chars_append_rest (cs : List Char) : (first cs).chars ++ rest cs = cs := by
  unfold rest first
  split <;> rfl

/-- No digit is taken for a sign. -/
theorem first_append (sign : Sign) {ds : List (Fin 10)} (hds : ds ≠ []) (more : List Char) :
    first (sign.chars ++ digitChars ds ++ more) = sign := by
  cases sign with
  | plus => rfl
  | minus => rfl
  | bare =>
    obtain ⟨d, ds, rfl⟩ := List.exists_cons_of_ne_nil hds
    have hdigit := digit?_digit d
    show first (Time.Rfc3339.digit d :: (digitChars ds ++ more)) = bare
    generalize Time.Rfc3339.digit d = c at hdigit
    unfold first
    split
    · next heq =>
      obtain ⟨rfl, -⟩ := List.cons.inj heq
      cases hdigit
    · next heq =>
      obtain ⟨rfl, -⟩ := List.cons.inj heq
      cases hdigit
    · rfl

/-- Digits after a sign are what follows it: no digit is taken for a sign. -/
theorem rest_append (sign : Sign) {ds : List (Fin 10)} (hds : ds ≠ []) (more : List Char) :
    rest (sign.chars ++ digitChars ds ++ more) = digitChars ds ++ more := by
  rw [rest, first_append sign hds, List.append_assoc, List.drop_left]

end Sign

namespace Range

variable {r : Range} {cs rest : List Char} {n m : Int}

/-! ## Numbers -/

/-- The characters are those of a number, in the grammar of the range, and the rest. -/
def Begins (r : Range) (cs : List Char) (n : Int) (rest : List Char) : Prop :=
  ∃ sign ds, Sign.Allowed r sign ∧ ds ≠ [] ∧ cs = sign.chars ++ digitChars ds ++ rest ∧
    n = sign.factor * spelled ds

/-- The characters are those of a number. -/
def Spells (r : Range) (cs : List Char) (n : Int) : Prop :=
  r.Begins cs n []

/-- What is said of characters: the number of the range that they are, or why they are none.
They may begin with a number beyond the range, and it does not matter what follows. Otherwise
there is something that is no digit, or no digit at all. -/
def Reads (r : Range) (cs : List Char) : Except IntegerError Int → Prop
  | .ok n => r.Spells cs n ∧ r.holds n = true
  | .error .empty => cs = []
  | .error .invalidDigit => cs ≠ [] ∧ (∀ n, ¬r.Spells cs n) ∧
      ∀ n rest, r.Begins cs n rest → r.holds n = true
  | .error .tooLarge => ∃ n rest, r.Begins cs n rest ∧ r.high < n
  | .error .tooSmall => ∃ n rest, r.Begins cs n rest ∧ n < r.low

/-- A text begins with a number if digits follow its sign, which has to be allowed. -/
theorem begins_iff : r.Begins cs n rest ↔
    (Sign.first cs).Allowed r ∧ ∃ ds, ds ≠ [] ∧ Sign.rest cs = digitChars ds ++ rest ∧
      n = (Sign.first cs).factor * spelled ds := by
  constructor
  · rintro ⟨sign, ds, hallowed, hds, rfl, rfl⟩
    rw [Sign.first_append sign hds, Sign.rest_append sign hds]
    exact ⟨hallowed, ds, hds, rfl, rfl⟩
  · rintro ⟨hallowed, ds, hds, hrest, rfl⟩
    refine ⟨Sign.first cs, ds, hallowed, hds, ?_, rfl⟩
    rw [List.append_assoc, ← hrest, Sign.chars_append_rest]

/-- Nothing begins with a number but what has a digit. -/
theorem Begins.ne_nil (h : r.Begins cs n rest) : cs ≠ [] := by
  rintro rfl
  obtain ⟨-, ds, hds, hrest, -⟩ := begins_iff.1 h
  obtain ⟨d, ds, rfl⟩ := List.exists_cons_of_ne_nil hds
  cases hrest

/-- All numbers with which characters begin are on the same side of zero. -/
theorem Begins.same_side {more : List Char} (hn : r.Begins cs n rest) (hm : r.Begins cs m more) :
    (0 ≤ n ∧ 0 ≤ m) ∨ (n ≤ 0 ∧ m ≤ 0) := by
  obtain ⟨-, ds, -, -, rfl⟩ := begins_iff.1 hn
  obtain ⟨-, es, -, -, rfl⟩ := begins_iff.1 hm
  cases Sign.first cs <;> simp only [Sign.factor] <;> omega

/-- Digits that begin others spell no more. -/
theorem spelled_le_of_eq_append {ds es : List (Fin 10)} {more : List Char}
    (h : digitChars ds = digitChars es ++ more) : spelled es ≤ spelled ds := by
  have hdigits : ∀ c ∈ more, (digit? c).isSome = true := fun c hc =>
    isSome_digit?_of_mem_digitChars (h ▸ List.mem_append_right _ hc)
  obtain ⟨tail, htail⟩ := Time.Rfc3339.exists_digitChars hdigits
  have hvalue := congrArg Time.Rfc3339.number? h
  have hjoin : digitChars es ++ more = digitChars (es ++ tail) := by
    rw [htail, digitChars, digitChars, digitChars, List.map_append]
  rw [hjoin, Time.Rfc3339.number?_digitChars, Time.Rfc3339.number?_digitChars,
    spelled_append] at hvalue
  rw [Option.some.inj hvalue]
  exact Nat.le_trans (Nat.le_mul_of_pos_left _ (Nat.pow_pos (by decide))) (Nat.le_add_right _ _)

/-- A number is farther from zero than what its first characters spell. -/
theorem Spells.between (h : r.Spells cs n) (hm : r.Begins cs m rest) :
    (0 ≤ m ∧ m ≤ n) ∨ (n ≤ m ∧ m ≤ 0) := by
  obtain ⟨-, ds, -, hds, rfl⟩ := begins_iff.1 h
  obtain ⟨-, es, -, hes, rfl⟩ := begins_iff.1 hm
  rw [List.append_nil] at hds
  have hle := spelled_le_of_eq_append (hds.symm.trans hes)
  cases Sign.first cs <;> simp only [Sign.factor] <;> omega

/-! ## Digits -/

/-- What digits make of the number before them. -/
def extended (sign acc : Int) (ds : List (Fin 10)) : Int :=
  acc * 10 ^ ds.length + sign * spelled ds

@[simp] theorem extended_nil (sign acc : Int) : extended sign acc [] = acc := by
  simp [extended, spelled]

/-- One digit more extends the number that came before it. -/
theorem extended_cons (sign acc : Int) (d : Fin 10) (ds : List (Fin 10)) :
    extended sign acc (d :: ds) = extended sign (acc * 10 + sign * (d : Nat)) ds := by
  have hspelled : spelled (d :: ds) = 10 ^ ds.length * d + spelled ds := by
    have happend := spelled_append [d] ds
    have hsingle : spelled [d] = d := by simp [spelled]
    rwa [hsingle] at happend
  rw [extended, extended, hspelled, List.length_cons, pow_succ]
  push_cast
  ring

/-- What is said of the characters after digits, or after the sign. -/
def ReadsDigits (r : Range) (sign acc : Int) (cs : List Char) : Except IntegerError Int → Prop
  | .ok n => ∃ ds, cs = digitChars ds ∧ n = extended sign acc ds ∧ r.holds n = true
  | .error .empty => False
  | .error .invalidDigit => (∀ ds, cs ≠ digitChars ds) ∧
      ∀ ds rest, cs = digitChars ds ++ rest → r.holds (extended sign acc ds) = true
  | .error .tooLarge => ∃ ds rest, cs = digitChars ds ++ rest ∧ r.high < extended sign acc ds
  | .error .tooSmall => ∃ ds rest, cs = digitChars ds ++ rest ∧ extended sign acc ds < r.low

/-- Digits begin with a digit of theirs, if they are there at all. -/
theorem of_cons_eq_digitChars_append {c : Char} {ds : List (Fin 10)}
    (h : c :: cs = digitChars ds ++ rest) :
    ds = [] ∨ ∃ d es, ds = d :: es ∧ c = Time.Rfc3339.digit d ∧ cs = digitChars es ++ rest := by
  cases ds with
  | nil => exact .inl rfl
  | cons d es =>
    obtain ⟨hc, hcs⟩ := List.cons.inj h
    exact .inr ⟨d, es, rfl, hc, hcs⟩

/-- Digits are told apart by their characters. -/
theorem digit_injective {d e : Fin 10}
    (h : Time.Rfc3339.digit d = Time.Rfc3339.digit e) : d = e := by
  have hvalue := digit?_digit e
  rw [← h, digit?_digit] at hvalue
  exact Fin.ext (by have := Option.some.inj hvalue; omega)

/-- What is said of the rest of the characters is said of all of them, with a digit more. -/
theorem ReadsDigits.cons {sign acc : Int} {d : Fin 10} {result : Except IntegerError Int}
    (hacc : r.holds acc = true)
    (h : r.ReadsDigits sign (acc * 10 + sign * (d : Nat)) cs result) :
    r.ReadsDigits sign acc (Time.Rfc3339.digit d :: cs) result := by
  match result with
  | .ok n =>
    obtain ⟨ds, rfl, rfl, hn⟩ := h
    exact ⟨d :: ds, rfl, (extended_cons sign acc d ds).symm, hn⟩
  | .error .empty => exact h
  | .error .invalidDigit =>
    obtain ⟨hnone, hholds⟩ := h
    refine ⟨fun ds heq => ?_, fun ds rest heq => ?_⟩
    · rw [← List.append_nil (digitChars ds)] at heq
      rcases of_cons_eq_digitChars_append heq with rfl | ⟨e, es, rfl, -, hcs⟩
      · cases heq
      · rw [List.append_nil] at hcs
        exact hnone es hcs
    · rcases of_cons_eq_digitChars_append heq with rfl | ⟨e, es, rfl, hdigit, hcs⟩
      · rwa [extended_nil]
      · rw [extended_cons, ← digit_injective hdigit]
        exact hholds es rest hcs
  | .error .tooLarge =>
    obtain ⟨ds, rest, rfl, hn⟩ := h
    exact ⟨d :: ds, rest, rfl, by rwa [extended_cons]⟩
  | .error .tooSmall =>
    obtain ⟨ds, rest, rfl, hn⟩ := h
    exact ⟨d :: ds, rest, rfl, by rwa [extended_cons]⟩

/-- By induction on the characters; the number read so far stays in the range. -/
theorem readsDigits_readDigits (sign : Int) {acc : Int} (hacc : r.holds acc = true)
    (cs : List Char) : r.ReadsDigits sign acc cs (r.readDigits sign acc cs) := by
  induction cs generalizing acc with
  | nil => exact ⟨[], rfl, (extended_nil sign acc).symm, hacc⟩
  | cons c cs ih =>
    rw [readDigits]
    cases hdigit : digit? c with
    | none =>
      -- no digits begin with this character, so that only the empty ones stand here
      have hnone : ∀ d : Fin 10, c ≠ Time.Rfc3339.digit d := by
        rintro d rfl
        rw [digit?_digit] at hdigit
        cases hdigit
      refine ⟨fun ds heq => ?_, fun ds rest heq => ?_⟩
      · rw [← List.append_nil (digitChars ds)] at heq
        rcases of_cons_eq_digitChars_append heq with rfl | ⟨d, -, -, hc, -⟩
        · cases heq
        · exact hnone d hc
      · rcases of_cons_eq_digitChars_append heq with rfl | ⟨d, -, -, hc, -⟩
        · rwa [extended_nil]
        · exact absurd hc (hnone d)
    | some value =>
      obtain ⟨hten, rfl⟩ := eq_digit_of_digit? hdigit
      obtain ⟨d, rfl⟩ : ∃ d : Fin 10, (d : Nat) = value := ⟨⟨value, hten⟩, rfl⟩
      have hone : extended sign acc [d] = acc * 10 + sign * (d : Nat) := by
        rw [extended_cons, extended_nil]
      dsimp only
      split
      · next hlarge => exact ⟨[d], cs, rfl, by rwa [hone]⟩
      · split
        · next hsmall => exact ⟨[d], cs, rfl, by rwa [hone]⟩
        · next hlarge hsmall =>
          exact (ih (holds_iff.2 ⟨Int.not_lt.1 hsmall, Int.not_lt.1 hlarge⟩)).cons hacc

/-! ## The reader -/

/-- Without digits after the sign, or with a sign that is not allowed, there is no number. -/
theorem readList_of_unreadable (hne : cs ≠ [])
    (h : Sign.rest cs = [] ∨ ¬(Sign.first cs).Allowed r) :
    r.readList cs = .error .invalidDigit := by
  unfold readList
  split
  · exact absurd rfl hne
  · rfl
  · rfl
  · next digits hdigits =>
    rcases h with hrest | hsign
    · exact absurd hrest hdigits
    · exact absurd (fun hminus => by cases hminus) hsign
  · next digits hdigits =>
    rcases h with hrest | hsign
    · exact absurd hrest hdigits
    · exact if_neg fun hlow => hsign fun _ => hlow
  · next hplus hminus =>
    rw [Sign.rest_of_bare hplus hminus, Sign.first_of_bare hplus hminus] at h
    rcases h with hrest | hsign
    · exact absurd hrest hne
    · exact absurd (fun hminus => by cases hminus) hsign

/-- With an allowed sign and something after it, what is read is the digits. -/
theorem readList_of_readable (hrest : Sign.rest cs ≠ []) (hallowed : (Sign.first cs).Allowed r) :
    r.readList cs = r.readDigits (Sign.first cs).factor 0 (Sign.rest cs) := by
  unfold readList
  split
  · exact absurd rfl hrest
  · exact absurd rfl hrest
  · exact absurd rfl hrest
  · rfl
  · exact if_pos (hallowed rfl)
  · next hplus hminus =>
    rw [Sign.rest_of_bare hplus hminus, Sign.first_of_bare hplus hminus]
    rfl

/-- What is said of the digits after the sign is said of the whole number. -/
theorem ReadsDigits.reads {result : Except IntegerError Int} (hzero : r.holds 0 = true)
    (hrest : Sign.rest cs ≠ []) (hallowed : (Sign.first cs).Allowed r)
    (h : r.ReadsDigits (Sign.first cs).factor 0 (Sign.rest cs) result) : r.Reads cs result := by
  have hzeros : ∀ ds, extended (Sign.first cs).factor 0 ds = (Sign.first cs).factor * spelled ds :=
    fun ds => by rw [extended, Int.zero_mul, Int.zero_add]
  -- what leads out of the range is no number without digits
  have hbegins : ∀ ds rest, Sign.rest cs = digitChars ds ++ rest →
      r.holds (extended (Sign.first cs).factor 0 ds) = false →
      r.Begins cs (extended (Sign.first cs).factor 0 ds) rest := by
    intro ds rest hds hout
    refine begins_iff.2 ⟨hallowed, ds, ?_, hds, hzeros ds⟩
    rintro rfl
    rw [extended_nil, hzero] at hout
    cases hout
  match result with
  | .ok n =>
    obtain ⟨ds, hds, rfl, hn⟩ := h
    refine ⟨begins_iff.2 ⟨hallowed, ds, ?_, by rw [hds, List.append_nil], hzeros ds⟩, hn⟩
    rintro rfl
    exact hrest hds
  | .error .empty => exact h.elim
  | .error .invalidDigit =>
    obtain ⟨hnone, hholds⟩ := h
    refine ⟨?_, fun n hn => ?_, fun n rest hn => ?_⟩
    · rintro rfl
      exact hrest rfl
    · obtain ⟨-, ds, -, hds, -⟩ := begins_iff.1 hn
      exact hnone ds (by rw [hds, List.append_nil])
    · obtain ⟨-, ds, -, hds, rfl⟩ := begins_iff.1 hn
      rw [← hzeros]
      exact hholds ds rest hds
  | .error .tooLarge =>
    obtain ⟨ds, rest, hds, hn⟩ := h
    exact ⟨_, rest, hbegins ds rest hds (by simp [holds, hn]), hn⟩
  | .error .tooSmall =>
    obtain ⟨ds, rest, hds, hn⟩ := h
    exact ⟨_, rest, hbegins ds rest hds (by simp [holds, hn]), hn⟩

/-- What is returned for a text is right for it. -/
theorem reads_readList (hzero : r.holds 0 = true) (cs : List Char) :
    r.Reads cs (r.readList cs) := by
  by_cases hempty : cs = []
  · rw [hempty]
    rfl
  by_cases hreadable : Sign.rest cs ≠ [] ∧ (Sign.first cs).Allowed r
  · obtain ⟨hrest, hallowed⟩ := hreadable
    rw [readList_of_readable hrest hallowed]
    exact (readsDigits_readDigits _ hzero _).reads hzero hrest hallowed
  · have hnone : ∀ n rest, ¬r.Begins cs n rest := by
      intro n rest hn
      obtain ⟨hallowed, ds, hds, hrest, -⟩ := begins_iff.1 hn
      refine hreadable ⟨fun hnil => ?_, hallowed⟩
      obtain ⟨d, es, rfl⟩ := List.exists_cons_of_ne_nil hds
      rw [hnil] at hrest
      cases hrest
    rw [readList_of_unreadable hempty (by rwa [not_and_or, ne_eq, not_not] at hreadable)]
    exact ⟨hempty, fun n => hnone n [], fun n rest hn => absurd hn (hnone n rest)⟩

/-- Of a number of the range nothing can be said but that. -/
theorem Spells.eq_ok_of_reads {result : Except IntegerError Int} (hzero : r.holds 0 = true)
    (h : r.Spells cs n) (hn : r.holds n = true) (hresult : r.Reads cs result) :
    result = .ok n := by
  have hall : ∀ m rest, r.Begins cs m rest → r.low ≤ m ∧ m ≤ r.high := by
    intro m rest hm
    have hbetween := h.between hm
    rw [holds_iff] at hzero hn
    omega
  match result with
  | .ok m =>
    have hle := h.between hresult.1
    have hge := hresult.1.between h
    exact congrArg Except.ok (by omega)
  | .error .empty => exact absurd hresult h.ne_nil
  | .error .invalidDigit => exact absurd h (hresult.2.1 n)
  | .error .tooLarge =>
    obtain ⟨m, rest, hm, hlarge⟩ := hresult
    exact absurd (hall m rest hm).2 (Int.not_le.2 hlarge)
  | .error .tooSmall =>
    obtain ⟨m, rest, hm, hsmall⟩ := hresult
    exact absurd (hall m rest hm).1 (Int.not_le.2 hsmall)

/-- Only one failure is right for a text. -/
theorem Reads.error_unique {why other : IntegerError} (hzero : r.holds 0 = true)
    (h : r.Reads cs (.error why)) (hother : r.Reads cs (.error other)) : why = other := by
  have hne : ∀ n rest, r.Begins cs n rest → cs ≠ [] := fun _ _ hn => hn.ne_nil
  have hside : ∀ n rest m more, r.Begins cs n rest → r.Begins cs m more →
      ¬(r.high < n ∧ m < r.low) := by
    intro n rest m more hn hm
    have hsame := hn.same_side hm
    rw [holds_iff] at hzero
    omega
  cases why <;> cases other <;> simp only [Reads] at h hother <;> grind [holds_iff]

/-- One thing only can be said of characters. -/
theorem Reads.unique (hzero : r.holds 0 = true) {result other : Except IntegerError Int}
    (h : r.Reads cs result) (hother : r.Reads cs other) : result = other := by
  cases result with
  | ok n => exact (h.1.eq_ok_of_reads hzero h.2 hother).symm
  | error why =>
    cases other with
    | ok m => exact hother.1.eq_ok_of_reads hzero hother.2 h
    | error why' => rw [h.error_unique hzero hother]

/-- The reader says of a text what is to be said of it. -/
theorem read_eq_iff (hzero : r.holds 0 = true) {s : String} {result : Except IntegerError Int} :
    r.read s = result ↔ r.Reads s.toList result := by
  constructor
  · rintro rfl
    exact reads_readList hzero s.toList
  · intro h
    exact (reads_readList hzero s.toList).unique hzero h

end Range

end BearerAuth.Text
