/-!
# Text as UTF-8 bytes

Signatures, digests and JSON work on bytes, everything else on text.

- `Text.utf8`: the bytes of a text.
- `Text.ofUtf8?`: the text of a byte sequence, if it is one.

The two are inverse to each other (`ofUtf8?_utf8`, `utf8_eq_of_ofUtf8?`), so a
text and its bytes carry the same information.
-/

namespace BearerAuth.Text

/-- The UTF-8 encoding of `s`. -/
def utf8 (s : String) : List UInt8 :=
  s.toUTF8.data.toList

/-- The text that `bytes` encode; none when they are not well-formed UTF-8. -/
def ofUtf8? (bytes : List UInt8) : Option String :=
  String.fromUTF8? ⟨bytes.toArray⟩

@[simp] theorem ofUtf8?_utf8 (s : String) : ofUtf8? (utf8 s) = some s := by
  have h : (⟨(utf8 s).toArray⟩ : ByteArray) = s.toByteArray := by
    simp [utf8]
  unfold ofUtf8?
  rw [h, String.fromUTF8?.eq_1, dif_pos s.isValidUTF8]
  rfl

/-- What reads as a text is the bytes of it. -/
theorem utf8_eq_of_ofUtf8? {bytes : List UInt8} {s : String} (h : ofUtf8? bytes = some s) :
    utf8 s = bytes := by
  unfold ofUtf8? at h
  rw [String.fromUTF8?.eq_1] at h
  split at h
  · obtain rfl := Option.some.inj h
    simp [utf8, String.fromUTF8]
  · simp at h

/-- A text is determined by its bytes. -/
theorem utf8_injective {s t : String} (h : utf8 s = utf8 t) : s = t := by
  have := congrArg ofUtf8? h
  simpa using this

/-- The bytes of a text are those of its characters, one after the other. -/
theorem utf8_ofList_cons (c : Char) (cs : List Char) :
    utf8 (String.ofList (c :: cs)) = String.utf8EncodeChar c ++ utf8 (String.ofList cs) := by
  show (String.ofList (c :: cs)).toByteArray.data.toList = _
  rw [String.toByteArray_ofList, List.utf8Encode_cons, List.utf8Encode_singleton,
    ← String.toByteArray_ofList]
  simp [utf8]

/-- An ASCII text takes a byte for each character. -/
theorem length_utf8_ofList {cs : List Char} (h : ∀ c ∈ cs, c.toNat < 128) :
    (utf8 (String.ofList cs)).length = cs.length := by
  induction cs with
  | nil => rfl
  | cons c cs ih =>
    have hc : c.utf8Size = 1 := by
      have hlow := h c List.mem_cons_self
      refine Char.utf8Size_eq_one_iff.2 (UInt32.le_iff_toNat_le.2 ?_)
      exact Nat.le_of_lt_succ hlow
    rw [utf8_ofList_cons, List.length_append, String.length_utf8EncodeChar, hc,
      ih fun x hx => h x (List.mem_cons_of_mem _ hx), List.length_cons, Nat.add_comm]

end BearerAuth.Text
