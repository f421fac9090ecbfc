import BearerAuth.Proofs.Time.Calendar
import BearerAuth.Time.Rfc3339
import Mathlib.Data.List.TakeWhile
import Mathlib.Data.Nat.Digits.Lemmas

/-!
# What a stamp says

A stamp by its parts, apart from the reader: the local date and time of day, the digits of
a fraction of a second and the offset from UTC. The reader accepts the texts of stamps and
no others, and finds the instant that the parts name.

- `Stamp`: the parts. A sixtieth second is there only where UTC ends a month.
- `Stamp.text`, `Stamp.instant`: how a stamp is written, and the instant that it names. A
  sixtieth second names the last nanosecond before it, and digits after the ninth do not
  count.
- `Denotes`: a text is that of a stamp for an instant.
- `read?_eq_some_iff`: what is read is what is denoted. No text denotes two instants
  (`Denotes.unique`).
-/

namespace BearerAuth.Time.Rfc3339

/-! ## Stamps -/

/-- The offset of a place from UTC: none, or hours and minutes ahead of it or behind it. -/
inductive Offset where
  | zulu (upper : Bool)
  | ahead (hours : Fin 24) (minutes : Fin 60)
  | behind (hours : Fin 24) (minutes : Fin 60)

namespace Offset

/-- The seconds by which clocks are ahead of UTC. -/
def seconds : Offset → Int
  | zulu _ => 0
  | ahead hours minutes => 3600 * hours + 60 * minutes
  | behind hours minutes => -(3600 * hours + 60 * minutes)

/-- No place is a whole day ahead of UTC or behind it. -/
theorem seconds_bounds (offset : Offset) : -86400 < offset.seconds ∧ offset.seconds < 86400 := by
  cases offset with
  | zulu upper =>
    show (-86400 : Int) < 0 ∧ (0 : Int) < 86400
    decide
  | ahead hours minutes =>
    simp only [seconds]
    omega
  | behind hours minutes =>
    simp only [seconds]
    omega

/-- The characters for the offset. -/
def chars : Offset → List Char
  | zulu upper => [if upper then 'Z' else 'z']
  | ahead hours minutes => '+' :: digits 2 hours ++ ':' :: digits 2 minutes
  | behind hours minutes => '-' :: digits 2 hours ++ ':' :: digits 2 minutes

end Offset

/-- The number that decimal digits spell. -/
def spelled (ds : List (Fin 10)) : Nat :=
  Nat.ofDigits 10 (ds.map (·.val)).reverse

/-- The characters for digits. -/
def digitChars (ds : List (Fin 10)) : List Char :=
  ds.map fun d : Fin 10 => digit d

/-- The nanoseconds that the digits after the point spell, rounded down. -/
def nanosOf (fraction : List (Fin 10)) : Nat :=
  spelled fraction * 10 ^ 9 / 10 ^ fraction.length

/-- The characters for digits after the point. Without digits there is no point. -/
def fractionChars : List (Fin 10) → List Char
  | [] => []
  | d :: ds => '.' :: digitChars (d :: ds)

/-- The parts of a stamp. The date exists, and a sixtieth second is the last one of a
month in UTC. -/
structure Stamp where
  date : Date
  separator : Char
  hour : Fin 24
  minute : Fin 60
  second : Fin 61
  fraction : List (Fin 10)
  offset : Offset
  year : 0 ≤ date.year ∧ date.year < 10000
  valid : date.Valid
  ascii : separator.toNat < 128
  leap : second = 60 → endsMonth
    (instant date (3600 * hour + 60 * minute + 59) (nanosPerSecond - 1) offset.seconds) = true

namespace Stamp

/-- The instant that the parts name. -/
def instant (stamp : Stamp) : Instant :=
  let seconds : Int := 3600 * stamp.hour + 60 * stamp.minute
  if stamp.second = 60 then
    Rfc3339.instant stamp.date (seconds + 59) (nanosPerSecond - 1) stamp.offset.seconds
  else
    Rfc3339.instant stamp.date (seconds + stamp.second) (nanosOf stamp.fraction)
      stamp.offset.seconds

/-- The characters of the stamp. -/
def chars (stamp : Stamp) : List Char :=
  digits 4 stamp.date.year.toNat ++ '-' :: digits 2 stamp.date.month ++
    '-' :: digits 2 stamp.date.day ++ stamp.separator :: digits 2 stamp.hour ++
    ':' :: digits 2 stamp.minute ++ ':' :: digits 2 stamp.second ++
    fractionChars stamp.fraction ++ stamp.offset.chars

/-- The text of the stamp. -/
def text (stamp : Stamp) : String :=
  String.ofList stamp.chars

end Stamp

/-- The text is that of a stamp for the instant. -/
def Denotes (s : String) (t : Instant) : Prop :=
  ∃ stamp : Stamp, s = stamp.text ∧ t = stamp.instant

/-! ## Digits -/

/-- The last digit of a number is read as what is left of it by ten. -/
theorem digit?_digit (n : Nat) : Text.Range.digit? (digit n) = some (n % 10) := by
  have hall : ∀ d < 10, Text.Range.digit? (Char.ofNat (48 + d)) = some d := by decide
  exact hall (n % 10) (Nat.mod_lt n (by decide))

/-- A digit is known by its value. -/
theorem eq_digit_of_digit? {c : Char} {d : Nat} (h : Text.Range.digit? c = some d) :
    d < 10 ∧ c = digit d := by
  unfold Text.Range.digit? at h
  split at h
  · next hrange =>
    obtain rfl := Option.some.inj h
    have hvalue : 48 + (c.toNat - 48) % 10 = c.toNat := by omega
    refine ⟨by omega, ?_⟩
    rw [digit, hvalue, Char.ofNat_toNat]
  · cases h

/-- One more digit at the end is worth one, and all before it ten times as much. -/
theorem number?_append (cs : List Char) (c : Char) :
    number? (cs ++ [c]) =
      (number? cs).bind fun acc => (Text.Range.digit? c).map (10 * acc + ·) := by
  rw [number?, List.foldlM_append]
  simp [number?]

/-- The last digits of a number spell the rest of it. -/
theorem number?_digits (count n : Nat) : number? (digits count n) = some (n % 10 ^ count) := by
  induction count generalizing n with
  | zero => rw [Nat.pow_zero, Nat.mod_one]; rfl
  | succ count ih =>
    rw [digits, number?_append, ih, Option.bind_some, digit?_digit, Option.map_some,
      Nat.pow_succ, Nat.mul_comm (10 ^ count), Nat.mod_mul, Nat.add_comm]

/-- A number that has room in the digits is read back from them. -/
theorem number?_digits_of_lt {count n : Nat} (h : n < 10 ^ count) :
    number? (digits count n) = some n := by
  rw [number?_digits, Nat.mod_eq_of_lt h]

theorem length_digits (count n : Nat) : (digits count n).length = count := by
  induction count generalizing n with
  | zero => rfl
  | succ count ih => rw [digits, List.length_append, ih, List.length_singleton]

/-- Nothing but digits is written for a number. -/
theorem isSome_digit?_of_mem_digits {count n : Nat} {c : Char} (h : c ∈ digits count n) :
    (Text.Range.digit? c).isSome = true := by
  induction count generalizing n with
  | zero => cases h
  | succ count ih =>
    rcases List.mem_append.1 h with h | h
    · exact ih h
    · rw [List.mem_singleton.1 h, digit?_digit, Option.isSome_some]

/-- Only its digits spell a number. -/
theorem eq_digits_of_number? {cs : List Char} {n : Nat} (h : number? cs = some n) :
    cs = digits cs.length n ∧ n < 10 ^ cs.length := by
  induction cs using List.reverseRecOn generalizing n with
  | nil =>
    obtain rfl : 0 = n := Option.some.inj h
    exact ⟨rfl, by decide⟩
  | append_singleton cs c ih =>
    rw [number?_append] at h
    obtain ⟨leading, hleading, hlast⟩ := Option.bind_eq_some_iff.1 h
    obtain ⟨d, hd, rfl⟩ := Option.map_eq_some_iff.1 hlast
    obtain ⟨hcs, hbound⟩ := ih hleading
    obtain ⟨hten, rfl⟩ := eq_digit_of_digit? hd
    have hdiv : (10 * leading + d) / 10 = leading := by omega
    have hdigit : digit (10 * leading + d) = digit d := by
      rw [digit, digit, Nat.mul_add_mod]
    refine ⟨?_, ?_⟩
    · rw [List.length_append, List.length_singleton, digits, hdiv, hdigit, ← hcs]
    · rw [List.length_append, List.length_singleton, Nat.pow_succ]
      omega

/-- Zeros at the end of digits multiply the number. -/
theorem number?_append_zeros (cs : List Char) (count : Nat) :
    number? (cs ++ List.replicate count '0') = (number? cs).map (· * 10 ^ count) := by
  induction count with
  | zero => simp
  | succ count ih =>
    rw [List.replicate_succ', ← List.append_assoc, number?_append, ih]
    cases number? cs with
    | none => rfl
    | some n =>
      show some (10 * (n * 10 ^ count) + 0) = some (n * 10 ^ (count + 1))
      rw [Nat.add_zero, Nat.pow_succ, Nat.mul_comm 10, Nat.mul_assoc]

/-- Digits that follow others move these to the left. -/
theorem spelled_append (xs ys : List (Fin 10)) :
    spelled (xs ++ ys) = 10 ^ ys.length * spelled xs + spelled ys := by
  simp only [spelled, List.map_append, List.reverse_append, Nat.ofDigits_append,
    List.length_reverse, List.length_map, Nat.add_comm]

/-- Digits spell less than the next power of ten. -/
theorem spelled_lt (ds : List (Fin 10)) : spelled ds < 10 ^ ds.length := by
  have h := Nat.ofDigits_lt_base_pow_length (b := 10) (l := (ds.map (·.val)).reverse) (by decide)
    (by simp)
  simpa [spelled] using h

@[simp] theorem length_digitChars (ds : List (Fin 10)) : (digitChars ds).length = ds.length :=
  List.length_map _

/-- The number that is read from digits is the one that they spell. -/
theorem number?_digitChars (ds : List (Fin 10)) : number? (digitChars ds) = some (spelled ds) := by
  induction ds using List.reverseRecOn with
  | nil => rfl
  | append_singleton ds d ih =>
    have hsnoc : digitChars (ds ++ [d]) = digitChars ds ++ [digit d] := by
      rw [digitChars, List.map_append]
      rfl
    rw [hsnoc, number?_append, ih, Option.bind_some, digit?_digit, Option.map_some,
      Nat.mod_eq_of_lt d.isLt, spelled_append]
    simp [spelled]

theorem isSome_digit?_of_mem_digitChars {ds : List (Fin 10)} {c : Char} (h : c ∈ digitChars ds) :
    (Text.Range.digit? c).isSome = true := by
  obtain ⟨d, -, rfl⟩ := List.mem_map.1 h
  rw [digit?_digit, Option.isSome_some]

/-- Characters that are digits are the characters of digits. -/
theorem exists_digitChars {cs : List Char} (h : ∀ c ∈ cs, (Text.Range.digit? c).isSome = true) :
    ∃ ds, cs = digitChars ds := by
  induction cs with
  | nil => exact ⟨[], rfl⟩
  | cons c cs ih =>
    obtain ⟨d, hd⟩ := Option.isSome_iff_exists.1 (h c List.mem_cons_self)
    obtain ⟨hten, rfl⟩ := eq_digit_of_digit? hd
    obtain ⟨ds, rfl⟩ := ih fun c hc => h c (List.mem_cons_of_mem _ hc)
    exact ⟨⟨d, hten⟩ :: ds, rfl⟩

/-! ## Fractions of a second -/

/-- The first nine digits, or zeros in their place, spell the nanoseconds. -/
theorem nanoseconds?_digitChars (ds : List (Fin 10)) :
    nanoseconds? (digitChars ds) = some (nanosOf ds) := by
  obtain ⟨padded, hpadded⟩ : ∃ padded, padded = ds ++ List.replicate 9 (0 : Fin 10) := ⟨_, rfl⟩
  have hchars : (digitChars ds ++ List.replicate 9 '0').take 9 = digitChars (padded.take 9) := by
    rw [hpadded, digitChars, digitChars, List.map_take, List.map_append, List.map_replicate]
    rfl
  have hlength : (padded.drop 9).length = ds.length := by
    simp [hpadded]
  have hspelled : spelled padded = spelled ds * 10 ^ 9 := by
    have hzeros : spelled (List.replicate 9 0) = 0 := by decide
    rw [hpadded, spelled_append, hzeros, List.length_replicate, Nat.add_zero, Nat.mul_comm]
  -- what is cut off spells less than one unit of what is left
  have hcut := spelled_append (padded.take 9) (padded.drop 9)
  have hrest := spelled_lt (padded.drop 9)
  rw [List.take_append_drop, hspelled, hlength] at hcut
  rw [hlength] at hrest
  rw [nanoseconds?, hchars, number?_digitChars, nanosOf, hcut,
    Nat.mul_add_div (Nat.pow_pos (by decide)), Nat.div_eq_of_lt hrest, Nat.add_zero]

/-- What can neither be the point of a fraction nor continue its digits. -/
def EndsFraction (rest : List Char) : Prop :=
  ∀ c ∈ rest.head?, c ≠ '.' ∧ Text.Range.digit? c = none

/-- The digits of a fraction are found up to what ends it. -/
theorem takeWhile_digitChars (ds : List (Fin 10)) {rest : List Char} (h : EndsFraction rest) :
    (digitChars ds ++ rest).takeWhile (fun c => (Text.Range.digit? c).isSome) =
      digitChars ds := by
  rw [List.takeWhile_append_of_pos fun c hc => isSome_digit?_of_mem_digitChars hc]
  cases rest with
  | nil => rw [List.takeWhile_nil, List.append_nil]
  | cons c rest =>
    have hc := (h c rfl).2
    rw [List.takeWhile_cons_of_neg (by simp [hc]), List.append_nil]

/-- A fraction is read as its nanoseconds, without what follows it. -/
theorem fraction?_fractionChars (ds : List (Fin 10)) {rest : List Char} (h : EndsFraction rest) :
    fraction? (fractionChars ds ++ rest) = some (nanosOf ds, rest) := by
  cases ds with
  | nil =>
    show fraction? rest = some (0, rest)
    unfold fraction?
    split
    · next after => exact absurd rfl (h '.' rfl).1
    · rfl
  | cons d ds =>
    have hsome : ¬(digitChars (d :: ds)).isEmpty = true := by simp [digitChars]
    rw [fractionChars, List.cons_append, fraction?, takeWhile_digitChars _ h, if_neg hsome,
      nanoseconds?_digitChars, List.drop_left]
    rfl

/-- What is read as a fraction is the digits of one after a point, or nothing at all. -/
theorem of_fraction? {cs rest : List Char} {nanos : Nat} (h : fraction? cs = some (nanos, rest)) :
    ∃ ds, cs = fractionChars ds ++ rest ∧ nanos = nanosOf ds := by
  unfold fraction? at h
  split at h
  · next after =>
    dsimp only at h
    split at h
    · cases h
    next hsome =>
    obtain ⟨n, hn, heq⟩ := Option.map_eq_some_iff.1 h
    obtain ⟨rfl, rfl⟩ := Prod.mk.inj heq
    -- the digits are those at the start
    obtain ⟨ds, hds⟩ := exists_digitChars fun c hc =>
      List.mem_takeWhile_imp (p := fun c => (Text.Range.digit? c).isSome) (l := after) hc
    have hprefix := List.prefix_iff_eq_take.1
      (List.takeWhile_prefix (fun c => (Text.Range.digit? c).isSome) (l := after))
    have hsplit := List.take_append_drop (digitChars ds).length after
    rw [hds] at hprefix hsome hn
    rw [← hprefix] at hsplit
    rw [nanoseconds?_digitChars] at hn
    refine ⟨ds, ?_, (Option.some.inj hn).symm⟩
    cases ds with
    | nil => exact absurd rfl hsome
    | cons d ds => rw [hds, fractionChars, List.cons_append, hsplit]
  · obtain ⟨rfl, rfl⟩ := Prod.mk.inj (Option.some.inj h)
    exact ⟨[], rfl, rfl⟩

/-! ## Offsets -/

theorem number?_pair {n : Nat} (h : n < 100) : number? [digit (n / 10), digit n] = some n :=
  @number?_digits_of_lt 2 n h

/-- The characters of an offset are read as its seconds. -/
theorem offset?_chars (offset : Offset) : offset? offset.chars = some offset.seconds := by
  cases offset with
  | zulu upper => cases upper <;> rfl
  | ahead hours minutes =>
    have hhours := number?_pair (n := hours) (by omega)
    have hminutes := number?_pair (n := minutes) (by omega)
    show offset? ['+', digit (hours / 10), digit hours, ':', digit (minutes / 10),
      digit minutes] = _
    simp only [offset?, hhours, hminutes, Option.bind_eq_bind, Option.bind_some]
    rw [if_neg (by omega), if_pos trivial]
    rfl
  | behind hours minutes =>
    have hhours := number?_pair (n := hours) (by omega)
    have hminutes := number?_pair (n := minutes) (by omega)
    show offset? ['-', digit (hours / 10), digit hours, ':', digit (minutes / 10),
      digit minutes] = _
    simp only [offset?, hhours, hminutes, Option.bind_eq_bind, Option.bind_some]
    rw [if_neg (by omega), if_neg (by decide), if_pos trivial]
    rfl

/-- Nothing else is read as an offset: it is the letter for UTC, or a sign with two pairs of
digits that bound hours and minutes. -/
theorem of_offset? {cs : List Char} {seconds : Int} (h : offset? cs = some seconds) :
    ∃ offset : Offset, cs = offset.chars ∧ seconds = offset.seconds := by
  unfold offset? at h
  split at h
  · exact ⟨.zulu true, rfl, (Option.some.inj h).symm⟩
  · exact ⟨.zulu false, rfl, (Option.some.inj h).symm⟩
  · next sign h₁ h₂ m₁ m₂ =>
    simp only [Option.bind_eq_bind, Option.bind_eq_some_iff] at h
    obtain ⟨hours, hhours, minutes, hminutes, h⟩ := h
    -- two characters that are read as a number are its two digits
    obtain ⟨hchars, -⟩ := eq_digits_of_number? hhours
    obtain ⟨hchars', -⟩ := eq_digits_of_number? hminutes
    split at h
    · cases h
    next hbounds =>
    have hspelt : [sign, h₁, h₂, ':', m₁, m₂] =
        sign :: digits 2 hours ++ ':' :: digits 2 minutes := by
      show sign :: ([h₁, h₂] ++ ':' :: [m₁, m₂]) = _
      rw [hchars, hchars']
      rfl
    rw [hspelt]
    split at h
    · next hsign =>
      subst hsign
      exact ⟨.ahead ⟨hours, by omega⟩ ⟨minutes, by omega⟩, rfl, (Option.some.inj h).symm⟩
    · split at h
      · next hsign =>
        subst hsign
        exact ⟨.behind ⟨hours, by omega⟩ ⟨minutes, by omega⟩, rfl, (Option.some.inj h).symm⟩
      · cases h
  · cases h

/-- An offset begins with a letter or a sign, so that no fraction goes on into it. -/
theorem endsFraction_chars (offset : Offset) : EndsFraction offset.chars := by
  intro c hc
  cases offset with
  | zulu upper =>
    cases upper with
    | true =>
      obtain rfl : 'Z' = c := Option.some.inj hc
      decide
    | false =>
      obtain rfl : 'z' = c := Option.some.inj hc
      decide
  | ahead hours minutes =>
    obtain rfl : '+' = c := Option.some.inj hc
    decide
  | behind hours minutes =>
    obtain rfl : '-' = c := Option.some.inj hc
    decide

/-! ## Dates and times of day -/

/-- The parts of a stamp make an instant if the date exists, the time of day does, and a
sixtieth second is the last one of a month in UTC. It is the instant of these parts. -/
theorem assemble?_eq_some_iff {date : Date} {hour minute second nanos : Nat} {offset : Int}
    {t : Instant} :
    assemble? date hour minute second nanos offset = some t ↔
      date.Valid ∧ hour < 24 ∧ minute < 60 ∧ second < 61 ∧
        (second = 60 → endsMonth
          (instant date (3600 * hour + 60 * minute + 59) (nanosPerSecond - 1) offset) = true) ∧
        t = if second = 60 then
            instant date (3600 * hour + 60 * minute + 59) (nanosPerSecond - 1) offset
          else instant date (3600 * hour + 60 * minute + second) nanos offset := by
  unfold assemble?
  by_cases hfit : ¬date.Valid ∨ 23 < hour ∨ 59 < minute ∨ 60 < second
  · rw [if_pos hfit]
    constructor
    · intro h
      cases h
    · rintro ⟨hvalid, hhour, hminute, hsecond, -⟩
      rcases hfit with hnot | hlate
      · exact absurd hvalid hnot
      · omega
  · rw [if_neg hfit]
    have hvalid : date.Valid := Decidable.byContradiction fun hnot => hfit (.inl hnot)
    have hbounds : hour < 24 ∧ minute < 60 ∧ second < 61 := by omega
    -- only a sixtieth second asks for more than to be within the bounds
    by_cases hleap : second = 60
    · rw [if_pos hleap, if_pos hleap]
      dsimp only
      constructor
      · intro h
        split at h
        · next hends => exact ⟨hvalid, hbounds.1, hbounds.2.1, hbounds.2.2, fun _ => hends,
            (Option.some.inj h).symm⟩
        · cases h
      · rintro ⟨-, -, -, -, hends, rfl⟩
        rw [if_pos (hends hleap)]
    · rw [if_neg hleap, if_neg hleap]
      constructor
      · intro h
        exact ⟨hvalid, hbounds.1, hbounds.2.1, hbounds.2.2, fun hsixty => absurd hsixty hleap,
          (Option.some.inj h).symm⟩
      · rintro ⟨-, -, -, -, -, rfl⟩
        rfl

/-- Digits of a date and a time of day are read as these. -/
theorem readList?_digits {year month day hour minute second : Nat} {separator : Char}
    (hyear : year < 10 ^ 4) (hmonth : month < 10 ^ 2) (hday : day < 10 ^ 2)
    (hseparator : separator.toNat < 128) (hhour : hour < 10 ^ 2) (hminute : minute < 10 ^ 2)
    (hsecond : second < 10 ^ 2) (rest : List Char) :
    readList? (digits 4 year ++ '-' :: digits 2 month ++ '-' :: digits 2 day ++
        separator :: digits 2 hour ++ ':' :: digits 2 minute ++ ':' :: digits 2 second ++ rest) =
      (fraction? rest).bind fun (nanos, rest) => (offset? rest).bind fun offset =>
        assemble? ⟨year, month, day⟩ hour minute second nanos offset := by
  show ((number? (digits 4 year)).bind fun year => (number? (digits 2 month)).bind fun month =>
    (number? (digits 2 day)).bind fun day => (number? (digits 2 hour)).bind fun hour =>
    (number? (digits 2 minute)).bind fun minute => (number? (digits 2 second)).bind fun second =>
    (fraction? rest).bind fun (nanos, rest) => (offset? rest).bind fun offset =>
      if 128 ≤ separator.toNat then none
      else assemble? ⟨year, month, day⟩ hour minute second nanos offset) = _
  rw [number?_digits_of_lt hyear, number?_digits_of_lt hmonth, number?_digits_of_lt hday,
    number?_digits_of_lt hhour, number?_digits_of_lt hminute, number?_digits_of_lt hsecond]
  simp only [Option.bind_some, if_neg (Nat.not_le.2 hseparator)]

/-- What is read are digits of a date and a time of day, a fraction and an offset. -/
theorem of_readList? {cs : List Char} {t : Instant} (h : readList? cs = some t) :
    ∃ stamp : Stamp, cs = stamp.chars ∧ t = stamp.instant := by
  unfold readList? at h
  split at h
  · next y₁ y₂ y₃ y₄ o₁ o₂ d₁ d₂ separator h₁ h₂ m₁ m₂ s₁ s₂ rest =>
    simp only [Option.bind_eq_bind, Option.bind_eq_some_iff] at h
    obtain ⟨year, hyear, month, hmonth, day, hday, hour, hhour, minute, hminute, second, hsecond,
      ⟨nanos, tail⟩, hfraction, offset, hoffset, h⟩ := h
    split at h
    · cases h
    next hascii =>
    obtain ⟨hvalid, hhours, hminutes, hseconds, hleap, rfl⟩ := assemble?_eq_some_iff.1 h
    obtain ⟨fraction, rfl, rfl⟩ := of_fraction? hfraction
    obtain ⟨zone, rfl, rfl⟩ := of_offset? hoffset
    -- each number is spelt by the characters that it was read from
    have hyearBound : year < 10000 := by simpa using (eq_digits_of_number? hyear).2
    have hyearDigits := (eq_digits_of_number? hyear).1
    have hmonthDigits := (eq_digits_of_number? hmonth).1
    have hdayDigits := (eq_digits_of_number? hday).1
    have hhourDigits := (eq_digits_of_number? hhour).1
    have hminuteDigits := (eq_digits_of_number? hminute).1
    have hsecondDigits := (eq_digits_of_number? hsecond).1
    have hsixty : (⟨second, hseconds⟩ : Fin 61) = 60 ↔ second = 60 := Fin.ext_iff
    refine ⟨{
      date := ⟨year, month, day⟩
      separator := separator
      hour := ⟨hour, hhours⟩
      minute := ⟨minute, hminutes⟩
      second := ⟨second, hseconds⟩
      fraction := fraction
      offset := zone
      year := ⟨Int.natCast_nonneg year, Int.ofNat_lt.2 hyearBound⟩
      valid := hvalid
      ascii := Nat.not_le.1 hascii
      leap := fun h => hleap (hsixty.1 h) }, ?_, ?_⟩
    · show [y₁, y₂, y₃, y₄] ++ '-' :: [o₁, o₂] ++ '-' :: [d₁, d₂] ++ separator :: [h₁, h₂] ++
        ':' :: [m₁, m₂] ++ ':' :: [s₁, s₂] ++ fractionChars fraction ++ zone.chars = _
      rw [hyearDigits, hmonthDigits, hdayDigits, hhourDigits, hminuteDigits, hsecondDigits]
      rfl
    · simp only [Stamp.instant, hsixty]
  · cases h

namespace Stamp

/-- The characters of a stamp are read as the instant that it names. -/
theorem readList?_chars (stamp : Stamp) : readList? stamp.chars = some stamp.instant := by
  obtain ⟨hlow, hhigh⟩ := stamp.year
  obtain ⟨hmonth, hday⟩ := stamp.valid.le
  have hdate : (⟨(stamp.date.year.toNat : Int), stamp.date.month, stamp.date.day⟩ : Date) =
      stamp.date := by
    rw [Int.toNat_of_nonneg hlow]
  have hsixty : stamp.second = 60 ↔ (stamp.second : Nat) = 60 := Fin.ext_iff
  rw [chars, List.append_assoc _ (fractionChars _), readList?_digits (by omega) (by omega)
    (by omega) stamp.ascii (by omega) (by omega) (by omega),
    fraction?_fractionChars _ (endsFraction_chars _), Option.bind_some]
  dsimp only
  rw [offset?_chars, Option.bind_some, hdate, assemble?_eq_some_iff]
  refine ⟨stamp.valid, stamp.hour.isLt, stamp.minute.isLt, stamp.second.isLt,
    fun h => stamp.leap (hsixty.2 h), ?_⟩
  simp only [instant, hsixty]

end Stamp

/-- What is read is what is denoted. -/
theorem read?_eq_some_iff {s : String} {t : Instant} : read? s = some t ↔ Denotes s t := by
  constructor
  · intro h
    obtain ⟨stamp, hchars, rfl⟩ := of_readList? h
    refine ⟨stamp, ?_, rfl⟩
    rw [Stamp.text, ← hchars, String.ofList_toList]
  · rintro ⟨stamp, rfl, rfl⟩
    rw [read?, Stamp.text, String.toList_ofList]
    exact stamp.readList?_chars

/-- No text denotes two instants. -/
theorem Denotes.unique {s : String} {t t' : Instant} (h : Denotes s t) (h' : Denotes s t') :
    t = t' :=
  Option.some.inj ((read?_eq_some_iff.2 h).symm.trans (read?_eq_some_iff.2 h'))

/-- A text that denotes an instant denotes no other. -/
theorem Denotes.iff_eq {s : String} {t u : Instant} (h : Denotes s t) :
    Denotes s u ↔ u = t := by
  constructor
  · intro hu
    exact hu.unique h
  · rintro rfl
    exact h

end BearerAuth.Time.Rfc3339
