import BearerAuth.Proofs.Bytes.Base64
import BearerAuth.Password.Phc

/-!
# Password hash lines read back

A line is written field by field with separators that no field contains, so that
it comes apart where it was put together.

- `Phc.decimal_toDigits`: a number of 32 bits reads back.
- `Phc.Full`: a line with all fields, each of which passes its check.
- `Phc.read_write`: such a line reads back.
-/

namespace BearerAuth.Password.Phc

open Bytes.Base64 (standard)

/-! ## Characters -/

/-- A name has none of the separators that could end it. -/
theorem ne_of_isNameChar {c : Char} (h : isNameChar c = true) : c ≠ '$' ∧ c ≠ '=' := by
  refine ⟨?_, ?_⟩ <;>
  · rintro rfl
    exact absurd h (by decide)

/-- A value has none of the separators of a line. -/
theorem ne_of_isValueChar {c : Char} (h : isValueChar c = true) :
    c ≠ '$' ∧ c ≠ ',' ∧ c ≠ '=' := by
  refine ⟨?_, ?_, ?_⟩ <;>
  · rintro rfl
    exact absurd h (by decide)

theorem isValueChar_of_isDigit {c : Char} (h : c.isDigit = true) : isValueChar c = true := by
  simp [isValueChar, Char.isAlphanum, h]

/-- A character at most an ASCII one is ASCII. -/
theorem toNat_lt_of_le {c : Char} (high : Char) (h : c.val ≤ high.val)
    (hhigh : high.toNat < 128) : c.toNat < 128 :=
  Nat.lt_of_le_of_lt (UInt32.le_iff_toNat_le.1 h) hhigh

/-- The characters of names and values are ASCII. -/
theorem toNat_lt_of_isValueChar {c : Char} (h : isValueChar c = true) : c.toNat < 128 := by
  simp only [isValueChar, Bool.or_eq_true, beq_iff_eq] at h
  rcases h with (((h | rfl) | rfl) | rfl) | rfl
  · rcases Bool.or_eq_true_iff.1 h with h | h
    · rcases Bool.or_eq_true_iff.1 h with h | h
      · have hrange : 'A'.val ≤ c.val ∧ c.val ≤ 'Z'.val := of_decide_eq_true h
        exact toNat_lt_of_le 'Z' hrange.2 (by decide)
      · exact toNat_lt_of_le 'z' (of_decide_eq_true (Bool.and_eq_true_iff.1 h).2) (by decide)
    · exact toNat_lt_of_le '9' (of_decide_eq_true (Bool.and_eq_true_iff.1 h).2) (by decide)
  all_goals decide

/-- All symbols of the standard alphabet may stand in a value, so that encoded bytes are a
value. -/
theorem isValueChar_of_mem_encode {bytes : List UInt8} {c : Char} (h : c ∈ standard.encode bytes) :
    isValueChar c = true := by
  have hsymbols : ∀ n < 64, isValueChar (standard.symbol n) = true := by decide
  obtain ⟨n, hn, rfl⟩ := Bytes.Base64.Alphabet.mem_encode h
  exact hsymbols n hn

/-- A text of values takes a byte for each character. -/
theorem size_eq_length {cs : List Char} (h : ∀ c ∈ cs, isValueChar c = true) :
    size cs = cs.length :=
  Text.length_utf8_ofList fun c hc => toNat_lt_of_isValueChar (h c hc)

theorem isDigit_of_mem_toDigits {n : Nat} {c : Char} (h : c ∈ Nat.toDigits 10 n) :
    c.isDigit = true :=
  Nat.isDigit_of_mem_toDigits (by decide) (by decide) h

/-! ## Checks -/

/-- A name that passes is not empty and has characters of names only. -/
theorem of_checkName {cs : List Char} (h : checkName cs = .ok ()) :
    cs ≠ [] ∧ ∀ c ∈ cs, isNameChar c = true := by
  unfold checkName at h
  split at h
  · cases h
  · next hpass =>
    simp only [Bool.or_eq_true, not_or, Bool.not_eq_true, Bool.not_eq_false', List.all_eq_true,
      List.isEmpty_eq_false_iff] at hpass
    exact ⟨hpass.1.1, hpass.2⟩

/-- The search for a character that is not one of values fails if there is none. -/
theorem find?_not_isValueChar {cs : List Char} :
    (cs.find? fun c => !isValueChar c) = none ↔ ∀ c ∈ cs, isValueChar c = true := by
  rw [List.find?_eq_none]
  simp

/-- The values that pass are the texts of at most 64 characters of values. The limit is on
bytes, but those characters take one byte each. -/
theorem checkValue_eq_ok_iff {cs : List Char} :
    checkValue cs = .ok () ↔ cs.length ≤ 64 ∧ ∀ c ∈ cs, isValueChar c = true := by
  unfold checkValue
  constructor
  · intro h
    split at h
    · cases h
    next hsize =>
    split at h
    · cases h
    next hfind =>
    have hall := find?_not_isValueChar.1 hfind
    rw [size_eq_length hall] at hsize
    exact ⟨Nat.not_lt.1 hsize, hall⟩
  · rintro ⟨hlength, hall⟩
    rw [size_eq_length hall, if_neg (Nat.not_lt.2 hlength), find?_not_isValueChar.2 hall]

/-- The salts that pass are the texts of 4 to 64 characters of values. -/
theorem checkSalt_eq_ok_iff {cs : List Char} :
    checkSalt cs = .ok () ↔
      4 ≤ cs.length ∧ cs.length ≤ 64 ∧ ∀ c ∈ cs, isValueChar c = true := by
  unfold checkSalt
  constructor
  · intro h
    split at h
    · cases h
    next hshort =>
    split at h
    · cases h
    next hlong =>
    split at h
    · cases h
    next hfind =>
    have hall := find?_not_isValueChar.1 hfind
    rw [size_eq_length hall] at hshort hlong
    exact ⟨Nat.not_lt.1 hshort, Nat.not_lt.1 hlong, hall⟩
  · rintro ⟨hshort, hlong, hall⟩
    rw [size_eq_length hall, if_neg (Nat.not_lt.2 hshort), if_neg (Nat.not_lt.2 hlong),
      find?_not_isValueChar.2 hall]

/-! ## Numbers -/

/-- Only zero begins with a zero. -/
theorem head?_toDigits {n : Nat} (h : (Nat.toDigits 10 n).head? = some '0') : n = 0 := by
  induction n using Nat.strongRecOn with
  | ind n ih =>
    by_cases hn : n < 10
    · rw [Nat.toDigits_of_lt_base hn] at h
      have hzero : ∀ d < 10, Nat.digitChar d = '0' → d = 0 := by decide
      exact hzero n hn (Option.some.inj h)
    · rw [Nat.toDigits_of_base_le (by decide) (Nat.not_lt.1 hn)] at h
      obtain ⟨d, ds, hd⟩ := List.exists_cons_of_ne_nil (Nat.toDigits_ne_nil (n := n / 10) (b := 10))
      have hlow := ih (n / 10) (by omega) (by rw [hd] at h ⊢; exact h)
      omega

/-- A number of 32 bits reads back. -/
theorem decimal_toDigits {n : Nat} (h : n < 0x100000000) : decimal (Nat.toDigits 10 n) = .ok n := by
  have hfind : (Nat.toDigits 10 n).find? (fun c => !c.isDigit) = none := by
    rw [List.find?_eq_none]
    intro c hc
    rw [isDigit_of_mem_toDigits hc]
    decide
  have hzero : ¬((Nat.toDigits 10 n).head? == some '0' &&
      1 < (Nat.toDigits 10 n).length) = true := by
    rw [Bool.and_eq_true, beq_iff_eq, decide_eq_true_iff]
    rintro ⟨hhead, hlength⟩
    obtain rfl := head?_toDigits hhead
    exact absurd hlength (by decide)
  have hvalue : (Nat.toDigits 10 n).foldl (fun n c => 10 * n + (c.toNat - 48)) 0 = n :=
    Nat.ofDigitChars_ten_toDigits
  unfold decimal
  rw [if_neg (by simp [Nat.toDigits_ne_nil]), hfind]
  dsimp only
  rw [if_neg hzero, hvalue, if_pos h]

/-- A version of 32 bits is short enough for a value, and reads back. -/
theorem readVersion_toDigits {n : Nat} (h : n < 0x100000000) :
    readVersion (Nat.toDigits 10 n) = .ok n := by
  have hlength : (Nat.toDigits 10 n).length ≤ 10 :=
    (Nat.length_toDigits_le_iff (by decide) (by decide)).2 (Nat.lt_trans h (by decide))
  have hcheck : checkValue (Nat.toDigits 10 n) = .ok () :=
    checkValue_eq_ok_iff.2
      ⟨by omega, fun c hc => isValueChar_of_isDigit (isDigit_of_mem_toDigits hc)⟩
  rw [readVersion, hcheck]
  exact decimal_toDigits h

/-! ## Fields -/

/-- The field of a version. -/
def versionField (n : Nat) : List Char :=
  'v' :: '=' :: Nat.toDigits 10 n

/-- One parameter of a line. -/
def paramField (q : List Char × List Char) : List Char :=
  q.1 ++ '=' :: q.2

/-- The field of all parameters. -/
def paramsField (params : List (List Char × List Char)) : List Char :=
  Text.join ',' (params.map paramField)

/-- A parameter whose name and value pass their checks. -/
def IsParam (q : List Char × List Char) : Prop :=
  checkName q.1 = .ok () ∧ checkValue q.2 = .ok ()

/-- The field of a version is taken for one, and nothing of what follows it. -/
theorem takeVersion_versionField {n : Nat} (h : n < 0x100000000) (rest : List (List Char)) :
    takeVersion (versionField n :: rest) = .ok (some n, rest) := by
  have hcomma : ',' ∉ Nat.toDigits 10 n := fun hmem =>
    absurd (isDigit_of_mem_toDigits hmem) (by decide)
  rw [versionField, takeVersion, if_neg (by simpa using hcomma), readVersion_toDigits h]
  rfl

theorem dollar_notMem_versionField (n : Nat) : '$' ∉ versionField n := by
  intro hmem
  rcases List.mem_cons.1 hmem with hmem | hmem
  · exact absurd hmem (by decide)
  rcases List.mem_cons.1 hmem with hmem | hmem
  · exact absurd hmem (by decide)
  · exact absurd (isDigit_of_mem_toDigits hmem) (by decide)

/-- A parameter has no separator but the one between its name and its value. -/
theorem notMem_paramField {q : List Char × List Char} (h : IsParam q) {sep : Char}
    (hname : isNameChar sep = false) (hvalue : isValueChar sep = false) (hne : sep ≠ '=') :
    sep ∉ paramField q := by
  intro hmem
  rcases List.mem_append.1 hmem with hmem | hmem
  · exact absurd ((of_checkName h.1).2 sep hmem) (by simp [hname])
  · rcases List.mem_cons.1 hmem with hmem | hmem
    · exact hne hmem
    · exact absurd ((checkValue_eq_ok_iff.1 h.2).2 sep hmem) (by simp [hvalue])

/-- A parameter comes apart at the one equals sign that it has. -/
theorem readParam_paramField {q : List Char × List Char} (h : IsParam q) :
    readParam (paramField q) = .ok q := by
  obtain ⟨name, value⟩ := q
  have hname : '=' ∉ name := fun hmem => (ne_of_isNameChar ((of_checkName h.1).2 _ hmem)).2 rfl
  have hvalue : '=' ∉ value := fun hmem =>
    (ne_of_isValueChar ((checkValue_eq_ok_iff.1 h.2).2 _ hmem)).2.2 rfl
  have hcheckName : checkName name = .ok () := h.1
  have hcheckValue : checkValue value = .ok () := h.2
  rw [readParam, paramField, Text.split_append hname, Text.split_of_notMem hvalue]
  dsimp only
  rw [hcheckName, hcheckValue]
  rfl

/-- Parameters that are written one by one are read one by one. -/
theorem mapM_readParam {params : List (List Char × List Char)} (h : ∀ q ∈ params, IsParam q) :
    (params.map paramField).mapM readParam = .ok params := by
  induction params with
  | nil => rfl
  | cons q rest ih =>
    have hrest := ih fun x hx => h x (List.mem_cons_of_mem _ hx)
    rw [List.map_cons, List.mapM_cons, readParam_paramField (h q List.mem_cons_self), hrest]
    rfl

/-- The field of the parameters comes apart at the commas, and is known for what it is by
the equals sign in it, which no salt has. -/
theorem takeParams_paramsField {params : List (List Char × List Char)} (hne : params ≠ [])
    (h : ∀ q ∈ params, IsParam q) (hsize : size (paramsField params) ≤ 127)
    (rest : List (List Char)) :
    takeParams (paramsField params :: rest) = .ok (params, rest) := by
  have hsplit : Text.split ',' (paramsField params) = params.map paramField := by
    refine Text.split_join (by simpa using hne) fun piece hpiece => ?_
    obtain ⟨q, hq, rfl⟩ := List.mem_map.1 hpiece
    exact notMem_paramField (h q hq) (by decide) (by decide) (by decide)
  have hequals : (paramsField params).contains '=' = true := by
    obtain ⟨q, more, rfl⟩ := List.exists_cons_of_ne_nil hne
    have hq : '=' ∈ paramField q := by simp [paramField]
    rw [List.contains_iff_mem]
    cases more with
    | nil => exact hq
    | cons next more => exact List.mem_append_left _ hq
  rw [takeParams, if_pos hequals, readParams, if_neg (Nat.not_lt.2 hsize), hsplit,
    mapM_readParam h]
  rfl

/-- No parameter has the separator of the fields. -/
theorem dollar_notMem_paramsField {params : List (List Char × List Char)}
    (h : ∀ q ∈ params, IsParam q) : '$' ∉ paramsField params := by
  refine Text.notMem_join (by decide) fun piece hpiece => ?_
  obtain ⟨q, hq, rfl⟩ := List.mem_map.1 hpiece
  exact notMem_paramField (h q hq) (by decide) (by decide) (by decide)

/-- The last two fields are the salt and the bytes of the hash, as long as these are from 10
to 64. -/
theorem takeHash_encode {salt : List Char} {bytes : List UInt8} (hsalt : checkSalt salt = .ok ())
    (hshort : 10 ≤ bytes.length) (hlong : bytes.length ≤ 64) :
    takeHash [salt, standard.encode bytes] = .ok (some salt, some bytes) := by
  have hsize : size (standard.encode bytes) = (4 * bytes.length + 2) / 3 := by
    rw [size_eq_length fun c hc => isValueChar_of_mem_encode hc,
      Bytes.Base64.Alphabet.length_encode]
  have hdecode : standard.decode? (standard.encode bytes) = some bytes :=
    Bytes.Base64.Alphabet.decode?_encode Bytes.Base64.Alphabet.standard_proper bytes
  have hread : readHash (standard.encode bytes) = .ok bytes := by
    rw [readHash, hsize, if_neg (by omega), hdecode]
    dsimp only
    rw [if_neg (Nat.not_lt.2 hshort)]
  rw [takeHash, hsalt]
  show (readHash (standard.encode bytes) >>= _) = _
  rw [hread]
  rfl

/-! ## Lines -/

/-- A line with all fields, each of which passes its check. -/
structure Full (p : Phc) : Prop where
  algorithm : checkName p.algorithm = .ok ()
  version : ∃ n, p.version = some n ∧ n < 0x100000000
  params_ne : p.params ≠ []
  params : ∀ q ∈ p.params, IsParam q
  params_size : size (paramsField p.params) ≤ 127
  salt : ∃ salt, p.salt = some salt ∧ checkSalt salt = .ok ()
  hash : ∃ bytes, p.hash = some bytes ∧ 10 ≤ bytes.length ∧ bytes.length ≤ 64

/-- A line with all fields comes apart into these at the separator, and each field reads
back. -/
theorem readList_writeList {p : Phc} (h : p.Full) : readList p.writeList = .ok p := by
  obtain ⟨algorithm, version, params, salt, hash⟩ := p
  obtain ⟨n, rfl, hn⟩ := h.version
  obtain ⟨salt, rfl, hsalt⟩ := h.salt
  obtain ⟨bytes, rfl, hshort, hlong⟩ := h.hash
  have halgorithm : checkName algorithm = .ok () := h.algorithm
  have hne : params ≠ [] := h.params_ne
  have hwrite : writeList ⟨algorithm, some n, params, some salt, some bytes⟩ =
      Text.join '$' [[], algorithm, versionField n, paramsField params, salt,
        standard.encode bytes] := by
    have hparam : paramField = fun q => q.1 ++ '=' :: q.2 := rfl
    simp [writeList, hne, Text.join, versionField, paramsField, hparam]
  -- no field has the separator, so that the line comes apart where it was put together
  have hpieces : ∀ piece ∈ [[], algorithm, versionField n, paramsField params, salt,
      standard.encode bytes], '$' ∉ piece := by
    simp only [List.forall_mem_cons]
    refine ⟨List.not_mem_nil, fun hmem => ?_, dollar_notMem_versionField n,
      dollar_notMem_paramsField h.params, fun hmem => ?_, fun hmem => ?_,
      fun _ hmem => absurd hmem List.not_mem_nil⟩
    · exact (ne_of_isNameChar ((of_checkName halgorithm).2 _ hmem)).1 rfl
    · exact (ne_of_isValueChar ((checkSalt_eq_ok_iff.1 hsalt).2.2 _ hmem)).1 rfl
    · exact (ne_of_isValueChar (isValueChar_of_mem_encode hmem)).1 rfl
  rw [readList, hwrite, Text.split_join (List.cons_ne_nil _ _) hpieces]
  dsimp only
  rw [halgorithm]
  show (takeVersion _ >>= _) = _
  rw [takeVersion_versionField hn]
  show (takeParams _ >>= _) = _
  rw [takeParams_paramsField hne h.params h.params_size]
  show (takeHash _ >>= _) = _
  rw [takeHash_encode hsalt hshort hlong]
  rfl

/-- A line with all fields reads back. -/
theorem read_write {p : Phc} (h : p.Full) : read p.write = .ok p := by
  rw [read, write, String.toList_ofList]
  exact readList_writeList h

end BearerAuth.Password.Phc
