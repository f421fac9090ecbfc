import BearerAuth.Proofs.Sql.Tokens

/-!
# Lists of columns and of placeholders

The statements over the user table list names, parts of a definition and numbered
placeholders, with commas between them. Each list reads back as its parts, since the
parts have no commas of their own, and a placeholder as the type that it is cast to
and the value that is bound under its number.

- `Sql.listTokens`, `Sql.reads_commaList`, `Sql.splitOn_listTokens`: lists of parts.
- `Sql.reads_plainName`, `Sql.reads_sqlType`: the name and the type of a column.
- `Sql.placeholder?`, `Sql.placeholder?_placePart`: placeholders and what is bound.
-/

namespace BearerAuth.Sql

variable {parts : List (String × List Token)}

/-- The tokens of the list of the parts. -/
def listTokens (parts : List (String × List Token)) : List Token :=
  [.mark ','].intercalate (parts.map (·.2))

theorem listTokens_cons_cons (p q : String × List Token) (rest : List (String × List Token)) :
    listTokens (p :: q :: rest) = p.2 ++ .mark ',' :: listTokens (q :: rest) := by
  simp [listTokens, List.intercalate_cons_cons]

/-- The parts of a list make up their own tokens, with a comma between each two. -/
theorem reads_commaList (hne : parts ≠ []) (h : ∀ p ∈ parts, Reads p.1.toList p.2) :
    Reads (commaList (parts.map (·.1))).toList (listTokens parts) := by
  induction parts with
  | nil => exact absurd rfl hne
  | cons p rest ih =>
    have hp := h p List.mem_cons_self
    cases rest with
    | nil => simpa [commaList, listTokens] using hp
    | cons q rest =>
      have hmore := ih (List.cons_ne_nil q rest) fun x hx => h x (List.mem_cons_of_mem _ hx)
      have htext : (commaList ((p :: q :: rest).map (·.1))).toList =
          p.1.toList ++ ',' :: ' ' :: (commaList ((q :: rest).map (·.1))).toList := by
        simp [commaList]
      rw [htext, listTokens_cons_cons]
      exact hp.append_comma hmore

/-- A token that is no comma and in no part is not in the list either. -/
theorem notMem_listTokens {t : Token} (ht : t ≠ .mark ',') (h : ∀ p ∈ parts, t ∉ p.2) :
    t ∉ listTokens parts := by
  induction parts with
  | nil => exact List.not_mem_nil
  | cons p rest ih =>
    have hp := h p List.mem_cons_self
    have hrest := ih fun q hq => h q (List.mem_cons_of_mem p hq)
    cases rest with
    | nil => simpa [listTokens] using hp
    | cons q rest =>
      rw [listTokens_cons_cons, List.mem_append, List.mem_cons]
      rintro (hmem | hmem | hmem)
      · exact hp hmem
      · exact ht hmem
      · exact hrest hmem

/-- The list is set apart at its commas. -/
theorem splitOn_listTokens (hne : parts ≠ []) (h : ∀ p ∈ parts, Token.mark ',' ∉ p.2) :
    (listTokens parts).splitOn (Token.mark ',') = parts.map (·.2) := by
  refine List.splitOn_intercalate (Token.mark ',') ?_ (List.map_eq_nil_iff.not.2 hne)
  intro ts hts
  obtain ⟨p, hp, rfl⟩ := List.mem_map.1 hts
  exact h p hp

/-! ## Names and types -/

/-- No quotation mark is in a plain name, so that it is quoted as it is. -/
theorem quote_notMem_of_isPlainName {name : String} (h : isPlainName name = true) :
    '"' ∉ name.toList := by
  intro hquote
  unfold isPlainName at h
  split at h
  · cases h
  · next c rest htext =>
    rw [htext] at hquote
    rw [Bool.and_eq_true, List.all_eq_true] at h
    rcases List.mem_cons.1 hquote with rfl | hquote
    · exact absurd h.1 (by decide)
    · exact absurd (h.2 _ hquote) (by decide)

/-- A plain name in quotes is one token. -/
theorem reads_plainName {name : String} (h : isPlainName name = true) :
    Reads (identifier name).toList [.name name] :=
  reads_identifier (quote_notMem_of_isPlainName h)

theorem reads_sqlType (t : ColumnType) : Reads t.sqlType.toList [.word t.sqlType] := by
  cases t <;> exact reads_word (by decide)

/-- A type after a cast. -/
theorem reads_cast (t : ColumnType) :
    Reads (':' :: ':' :: t.sqlType.toList) [.mark ':', .mark ':', .word t.sqlType] :=
  ((reads_sqlType t).after_mark rfl).after_mark rfl

/-! ## Placeholders -/

/-- The type that a placeholder is cast to, and the value that is bound to it: the
first value has the number one. -/
def placeholder? (parameters : List String) : List Token → Option (String × String)
  | [.mark '$', .word number, .mark ':', .mark ':', .word type] =>
    if number.toList.all Char.isDigit then
      match Nat.ofDigitChars 10 number.toList 0 with
      | 0 => none
      | k + 1 => parameters[k]?.map fun value => (type, value)
    else none
  | _ => none

/-- The placeholder with the number, cast to the type of the column. -/
def placePart (number : Nat) (c : Column) : String × List Token :=
  ("$" ++ toString number ++ "::" ++ c.type.sqlType,
    [.mark '$', .word (toString number), .mark ':', .mark ':', .word c.type.sqlType])

theorem toList_toString (n : Nat) : (toString n).toList = Nat.toDigits 10 n :=
  Nat.toList_repr

/-- A number is written in digits. -/
theorem isDigit_of_mem_toString {n : Nat} {c : Char} (h : c ∈ (toString n).toList) :
    c.isDigit = true := by
  rw [toList_toString] at h
  exact Nat.isDigit_of_mem_toDigits (by decide) (by decide) h

/-- A number reads as one word. -/
theorem isWord_toString (n : Nat) : isWord (toString n) = true := by
  have hne : (toString n).toList ≠ [] := by
    rw [toList_toString]
    exact Nat.toDigits_ne_nil
  have hword : (toString n).toList.all isWordChar = true := by
    rw [List.all_eq_true]
    intro c hc
    rw [isWordChar, isDigit_of_mem_toString hc, Bool.or_true]
  rw [isWord, hword, bne_iff_ne.2 hne, Bool.and_self]

/-- A placeholder reads as its number and the cast to its type. -/
theorem reads_placePart (number : Nat) (c : Column) :
    Reads (placePart number c).1.toList (placePart number c).2 := by
  have hnumber := (reads_word (isWord_toString number)).append (by decide) (reads_cast c.type)
  have htext : (placePart number c).1.toList =
      '$' :: ((toString number).toList ++ ':' :: ':' :: c.type.sqlType.toList) := by
    simp [placePart]
  rw [htext]
  exact hnumber.after_mark rfl

/-- A placeholder gives the value in its place. -/
theorem placeholder?_placePart {parameters : List String} {k : Nat} {value : String}
    (h : parameters[k]? = some value) (c : Column) :
    placeholder? parameters (placePart (k + 1) c).2 = some (c.type.sqlType, value) := by
  have hdigits : (toString (k + 1)).toList.all Char.isDigit = true :=
    List.all_eq_true.2 fun _ => isDigit_of_mem_toString
  have hnumber : Nat.ofDigitChars 10 (toString (k + 1)).toList 0 = k + 1 := by
    rw [toList_toString]
    exact Nat.ofDigitChars_ten_toDigits
  rw [placePart, placeholder?, if_pos hdigits, hnumber]
  dsimp only
  rw [h]
  rfl

end BearerAuth.Sql
