import BearerAuth.Schema.Sql
import Mathlib.Data.List.Basic

/-!
# Tokens and statements

A server reads a text from left to right, one character at a time. Inside quotes
a quote is written twice and nothing else has a meaning; a single quote inside
quotes ends them. What is in double quotes is a name, what is in single quotes a
literal. Every other character that is no part of a word is a mark, except for
white space and comments, which follow two hyphens up to the end of the line or
stand between a slash with a star and a star with a slash. A text holds as many
statements as semicolons set apart.

- `Sql.scan`, `Sql.statements?`: reading any text, and the statements in it.
- `Sql.Reads`: a text that makes up tokens by itself, wherever it stands.
- `Sql.reads_identifier`, `Sql.reads_literal`: a quoted name and a quoted literal
  are one token each, whatever the literal holds.
- `Sql.reads_words`: words with blanks between them.
- `Sql.Reads.statements?_append`: what follows a statement and a semicolon is read
  as if nothing stood before it.
-/

namespace BearerAuth.Sql

/-- A token of a statement. -/
inductive Token where
  | word (text : String)
  | name (text : String)
  | literal (text : String)
  | mark (c : Char)
  deriving DecidableEq, Repr

/-- Where reading stands: between tokens, in a word, inside quotes, or after a
quote inside quotes, which ends them unless the next character is a quote too. -/
inductive Mode where
  | between
  | word (read : List Char)
  | quoted (quote : Char) (read : List Char)
  | closing (quote : Char) (read : List Char)

/-- Whether the character may stand in a word. -/
def isWordChar (c : Char) : Bool :=
  isNameStart c || c.isDigit

/-- Whether the text is one word. -/
def isWord (text : String) : Bool :=
  text.toList != [] && text.toList.all isWordChar

/-- What was read inside quotes. -/
def quotedToken (quote : Char) (read : List Char) : Token :=
  if quote = '"' then .name (String.ofList read) else .literal (String.ofList read)

/-- The token that is complete at the end of the text: what is in quotes must have
ended. -/
def Mode.finish? : Mode → Option (List Token)
  | .between => some []
  | .word read => some [.word (String.ofList read)]
  | .quoted _ _ => none
  | .closing quote read => some [quotedToken quote read]

/-- Where reading stands: outside comments, after a character that may open one,
inside one, or after a star that may end one. -/
inductive Place where
  | code (mode : Mode)
  | hyphen
  | slash
  | line
  | block
  | star

/-- Tokens, and then those that were read with the place where reading got to. -/
def before (ts : List Token) (found : List Token × Place) : List Token × Place :=
  (ts ++ found.1, found.2)

/-- How it goes on with a character between tokens, and the token that it makes up
by itself, if any. -/
def begin (c : Char) : List Token × Place :=
  if c.isWhitespace then ([], .code .between)
  else if c = '-' then ([], .hyphen)
  else if c = '/' then ([], .slash)
  else if c = '"' ∨ c = '\'' then ([], .code (.quoted c []))
  else if isWordChar c then ([], .code (.word [c]))
  else ([.mark c], .code .between)

/-- How it goes on outside comments, and the tokens that are complete. -/
def Mode.advance : Mode → Char → List Token × Place
  | .between, c => begin c
  | .word read, c =>
    if isWordChar c then ([], .code (.word (read ++ [c])))
    else before [.word (String.ofList read)] (begin c)
  | .quoted quote read, c =>
    ([], .code (if c = quote then .closing quote read else .quoted quote (read ++ [c])))
  | .closing quote read, c =>
    if c = quote then ([], .code (.quoted quote (read ++ [c])))
    else before [quotedToken quote read] (begin c)

/-- How it goes on anywhere, and the tokens that are complete. -/
def Place.advance : Place → Char → List Token × Place
  | .code mode, c => mode.advance c
  | .hyphen, c => if c = '-' then ([], .line) else before [.mark '-'] (begin c)
  | .slash, c => if c = '*' then ([], .block) else before [.mark '/'] (begin c)
  | .line, c => ([], if c = '\n' then .code .between else .line)
  | .block, c => ([], if c = '*' then .star else .block)
  | .star, c => ([], if c = '/' then .code .between else if c = '*' then .star else .block)

/-- The token that is complete at the end of the text: a comment between slashes
must have ended, too. -/
def Place.finish? : Place → Option (List Token)
  | .code mode => mode.finish?
  | .hyphen => some [.mark '-']
  | .slash => some [.mark '/']
  | .line => some []
  | .block => none
  | .star => none

/-- The tokens that are complete after a text, and the place where it leaves off. -/
def scan : Place → List Char → List Token × Place
  | place, [] => ([], place)
  | place, c :: rest => before (place.advance c).1 (scan (place.advance c).2 rest)

/-- The statements of a script, each with its tokens. -/
def statements? (script : String) : Option (List (List Token)) :=
  (scan (.code .between) script.toList).2.finish?.map fun ts =>
    (((scan (.code .between) script.toList).1 ++ ts).splitOn (.mark ';')).filter (· ≠ [])

/-! ## Reading in pieces -/

@[simp] theorem before_nil (found : List Token × Place) : before [] found = found :=
  rfl

theorem before_before (ts us : List Token) (found : List Token × Place) :
    before ts (before us found) = before (ts ++ us) found := by
  rw [before, before, before, List.append_assoc]

theorem scan_append (place : Place) (text rest : List Char) :
    scan place (text ++ rest) =
      before (scan place text).1 (scan (scan place text).2 rest) := by
  induction text generalizing place with
  | nil => rfl
  | cons c text ih =>
    rw [List.cons_append, scan, ih, before_before]
    rfl

/-- A character that goes on what is being read. -/
theorem scan_of_advance {mode next : Mode} {c : Char} (h : mode.advance c = ([], .code next))
    (rest : List Char) : scan (.code mode) (c :: rest) = scan (.code next) rest := by
  rw [scan, Place.advance, h]
  rfl

theorem scan_word {text : List Char} (h : ∀ c ∈ text, isWordChar c = true) (read : List Char) :
    scan (.code (.word read)) text = ([], .code (.word (read ++ text))) := by
  induction text generalizing read with
  | nil => rw [scan, List.append_nil]
  | cons c text ih =>
    have hadvance : (Mode.word read).advance c = ([], .code (.word (read ++ [c]))) :=
      if_pos (h c List.mem_cons_self)
    rw [scan_of_advance hadvance, ih fun x hx => h x (List.mem_cons_of_mem _ hx),
      List.append_assoc, List.singleton_append]

theorem advance_quote (quote : Char) (read : List Char) :
    (Mode.quoted quote read).advance quote = ([], .code (.closing quote read)) := by
  rw [Mode.advance, if_pos rfl]

theorem advance_inside {quote c : Char} (h : c ≠ quote) (read : List Char) :
    (Mode.quoted quote read).advance c = ([], .code (.quoted quote (read ++ [c]))) := by
  rw [Mode.advance, if_neg h]

theorem advance_twice (quote : Char) (read : List Char) :
    (Mode.closing quote read).advance quote = ([], .code (.quoted quote (read ++ [quote]))) := by
  rw [Mode.advance, if_pos rfl]

/-- Inside quotes every quote is written twice. -/
theorem scan_quoted (quote : Char) (text read : List Char) :
    scan (.code (.quoted quote read))
        (text.flatMap fun c => if c = quote then [quote, quote] else [c]) =
      ([], .code (.quoted quote (read ++ text))) := by
  induction text generalizing read with
  | nil => rw [List.flatMap_nil, scan, List.append_nil]
  | cons c text ih =>
    rw [List.flatMap_cons]
    by_cases hquote : c = quote
    · subst hquote
      rw [if_pos rfl, List.cons_append, List.singleton_append,
        scan_of_advance (advance_quote c read), scan_of_advance (advance_twice c read), ih,
        List.append_assoc, List.singleton_append]
    · rw [if_neg hquote, List.singleton_append, scan_of_advance (advance_inside hquote read), ih,
        List.append_assoc, List.singleton_append]

/-! ## Texts that make up tokens by themselves -/

/-- Only the two kinds of quotes are open. -/
def Mode.Proper : Mode → Prop
  | .quoted quote _ => quote = '"' ∨ quote = '\''
  | .closing quote _ => quote = '"' ∨ quote = '\''
  | _ => True

/-- The text makes up the tokens, and leaves off outside quotes and comments. -/
def Reads (text : List Char) (ts : List Token) : Prop :=
  ∃ us last vs, last.Proper ∧ scan (.code .between) text = (us, .code last) ∧
    last.finish? = some vs ∧ us ++ vs = ts

/-- What ends a word and what was quoted. -/
def Ends (c : Char) : Prop :=
  isWordChar c = false ∧ c ≠ '"' ∧ c ≠ '\''

instance (c : Char) : Decidable (Ends c) :=
  inferInstanceAs (Decidable (_ ∧ _))

/-- A word starts with any of its characters: none of them has another meaning
between tokens. -/
theorem begin_of_isWordChar {c : Char} (h : isWordChar c = true) :
    begin c = ([], .code (.word [c])) := by
  have hne : ∀ other, isWordChar other = false → c ≠ other := by
    intro other hother heq
    rw [heq, hother] at h
    cases h
  have hspace : ¬c.isWhitespace = true := by
    simp [Char.isWhitespace, hne ' ' (by decide), hne '\t' (by decide), hne '\r' (by decide),
      hne '\n' (by decide)]
  have hquote : ¬(c = '"' ∨ c = '\'') := by
    rw [not_or]
    exact ⟨hne '"' (by decide), hne '\'' (by decide)⟩
  rw [begin, if_neg hspace, if_neg (hne '-' (by decide)), if_neg (hne '/' (by decide)),
    if_neg hquote, if_pos h]

/-- A word is one token. -/
theorem reads_word {text : String} (hword : isWord text = true) :
    Reads text.toList [.word text] := by
  rw [isWord, Bool.and_eq_true, bne_iff_ne, List.all_eq_true] at hword
  obtain ⟨hne, h⟩ := hword
  obtain ⟨first, more, htext⟩ := List.exists_cons_of_ne_nil hne
  rw [htext] at h
  have hbegin : Mode.between.advance first = ([], .code (.word [first])) :=
    begin_of_isWordChar (h first List.mem_cons_self)
  refine ⟨[], .word text.toList, [.word text], trivial, ?_, ?_, rfl⟩
  · rw [htext, scan_of_advance hbegin, scan_word fun c hc => h c (List.mem_cons_of_mem _ hc),
      List.singleton_append]
  · rw [Mode.finish?, String.ofList_toList]

/-- What stands in quotes is one token, if every quote in it is written twice. -/
theorem reads_quoted {quote : Char} (hquote : quote = '"' ∨ quote = '\'') (text : List Char) :
    Reads (quote :: (text.flatMap (fun c => if c = quote then [quote, quote] else [c]) ++ [quote]))
      [quotedToken quote text] := by
  have hopen : Mode.between.advance quote = ([], .code (.quoted quote [])) := by
    rcases hquote with rfl | rfl
    · rfl
    · rfl
  refine ⟨[], .closing quote text, [quotedToken quote text], hquote, ?_, rfl, rfl⟩
  rw [scan_of_advance hopen, scan_append, scan_quoted, List.nil_append, before_nil,
    scan_of_advance (advance_quote quote text), scan]

/-- A literal is one token, whatever it holds. -/
theorem reads_literal (value : String) : Reads (literal value).toList [.literal value] := by
  have htext : (literal value).toList =
      '\'' :: (value.toList.flatMap literalChar ++ ['\'']) := by
    simp [literal]
  have htoken : quotedToken '\'' value.toList = .literal value := by
    rw [quotedToken, if_neg (by decide), String.ofList_toList]
  rw [htext, ← htoken]
  exact reads_quoted (.inr rfl) value.toList

/-- A name without quotes in it is one token. -/
theorem reads_identifier {name : String} (h : '"' ∉ name.toList) :
    Reads (identifier name).toList [.name name] := by
  have hplain : name.toList.flatMap (fun c => if c = '"' then ['"', '"'] else [c]) =
      name.toList := by
    have hpoint : ∀ c ∈ name.toList, (if c = '"' then ['"', '"'] else [c]) = [c] := by
      intro c hc
      refine if_neg ?_
      rintro rfl
      exact h hc
    exact (List.flatMap_congr hpoint).trans (List.flatMap_singleton' name.toList)
  have htext : (identifier name).toList = '"' :: (name.toList ++ ['"']) := by
    rw [identifier, String.toList_append, String.toList_append]
    rfl
  have htoken : quotedToken '"' name.toList = .name name := by
    rw [quotedToken, if_pos rfl, String.ofList_toList]
  have hquoted := reads_quoted (.inl rfl) name.toList
  rw [hplain, htoken] at hquoted
  rw [htext]
  exact hquoted

/-- What ends a word completes what was read before it. -/
theorem Mode.advance_of_ends {mode : Mode} (hm : mode.Proper) {ts : List Token}
    (hfinish : mode.finish? = some ts) {c : Char} (hc : Ends c) :
    mode.advance c = before ts (begin c) := by
  obtain ⟨hword, hname, hliteral⟩ := hc
  cases mode with
  | between =>
    cases hfinish
    rfl
  | word read =>
    cases hfinish
    rw [Mode.advance, hword]
    rfl
  | quoted quote read => cases hfinish
  | closing quote read =>
    cases hfinish
    have hne : c ≠ quote := by rcases hm with rfl | rfl <;> assumption
    rw [Mode.advance, if_neg hne]

namespace Reads

variable {text more : List Char} {ts us : List Token}

theorem nil : Reads [] [] :=
  ⟨[], .between, [], trivial, rfl, rfl, rfl⟩

/-- White space before a text. -/
theorem after_space (h : Reads more us) : Reads (' ' :: more) us := by
  obtain ⟨ws, last, vs, hlast, hscan, hfinish, hus⟩ := h
  exact ⟨ws, last, vs, hlast, hscan, hfinish, hus⟩

/-- A mark before a text. -/
theorem after_mark (h : Reads more us) {c : Char}
    (hc : begin c = ([.mark c], .code .between)) :
    Reads (c :: more) (.mark c :: us) := by
  obtain ⟨ws, last, vs, hlast, hscan, hfinish, rfl⟩ := h
  refine ⟨.mark c :: ws, last, vs, hlast, ?_, hfinish, rfl⟩
  rw [scan, Place.advance, Mode.advance, hc, hscan]
  rfl

variable (h : Reads text ts)
include h

/-- What follows a text that makes up tokens is read as if nothing stood before it, from
what ends a word on. -/
theorem scan_cons {c : Char} (hc : Ends c) (rest : List Char) :
    scan (.code .between) (text ++ c :: rest) = before ts (scan (.code .between) (c :: rest)) := by
  obtain ⟨ws, last, vs, hlast, hscan, hfinish, rfl⟩ := h
  rw [scan_append, hscan, scan, scan, Place.advance, Place.advance,
    Mode.advance_of_ends hlast hfinish hc, Mode.advance, before_before]
  simp only [before, List.append_assoc]

/-- Two texts, the second of which starts with what ends a word. -/
theorem append {c : Char} (hc : Ends c) (hmore : Reads (c :: more) us) :
    Reads (text ++ c :: more) (ts ++ us) := by
  obtain ⟨ws, last, vs, hlast, hscan, hfinish, rfl⟩ := hmore
  refine ⟨ts ++ ws, last, vs, hlast, ?_, hfinish, List.append_assoc ts ws vs⟩
  rw [h.scan_cons hc, hscan]
  rfl

/-- Two texts with a blank between them. -/
theorem append_space (hmore : Reads more us) : Reads (text ++ ' ' :: more) (ts ++ us) :=
  h.append (by decide) hmore.after_space

/-- Two texts with a comma and a blank between them. -/
theorem append_comma (hmore : Reads more us) :
    Reads (text ++ ',' :: ' ' :: more) (ts ++ .mark ',' :: us) :=
  h.append (by decide) (hmore.after_space.after_mark rfl)

/-- A text after an opening parenthesis. -/
theorem opened : Reads ('(' :: text) (.mark '(' :: ts) :=
  h.after_mark rfl

/-- Two texts with a closing parenthesis between them. -/
theorem closed (hmore : Reads more us) : Reads (text ++ ')' :: more) (ts ++ .mark ')' :: us) :=
  h.append (by decide) (hmore.after_mark rfl)

/-- Something that may follow a text after a blank. -/
theorem append_optional {suffix : List Char}
    (hsuffix : suffix = [] ∧ us = [] ∨ ∃ more, suffix = ' ' :: more ∧ Reads more us) :
    Reads (text ++ suffix) (ts ++ us) := by
  rcases hsuffix with ⟨rfl, rfl⟩ | ⟨more, rfl, hmore⟩
  · rw [List.append_nil, List.append_nil]
    exact h
  · exact h.append_space hmore

end Reads

/-- Words with a blank between each two. -/
theorem reads_words {text : String} (words : List String) (htext : text = " ".intercalate words)
    (hne : words ≠ []) (h : words.all isWord = true) : Reads text.toList (words.map .word) := by
  subst htext
  induction words with
  | nil => exact absurd rfl hne
  | cons first rest ih =>
    rw [List.all_cons, Bool.and_eq_true] at h
    have hfirst := reads_word h.1
    cases rest with
    | nil => simpa using hfirst
    | cons second rest =>
      have hmore := ih (List.cons_ne_nil second rest) h.2
      have htext : (" ".intercalate (first :: second :: rest)).toList =
          first.toList ++ ' ' :: (" ".intercalate (second :: rest)).toList := by
        simp
      rw [htext]
      exact hfirst.append_space hmore

/-! ## Statements -/

section

variable {text : String} {ts : List Token} (h : Reads text.toList ts) (hne : ts ≠ [])
  (hmark : .mark ';' ∉ ts)
include h hne hmark

/-- A text without semicolons outside quotes is one statement. -/
theorem Reads.statements?_eq : statements? text = some [ts] := by
  obtain ⟨us, last, vs, -, hscan, hfinish, rfl⟩ := h
  rw [statements?, hscan]
  dsimp only
  rw [Place.finish?, hfinish, Option.map_some, List.splitOn_eq_singleton hmark,
    List.filter_singleton, decide_eq_true hne, cond_true]

/-- What follows a statement and a semicolon is read as if nothing stood before
it. -/
theorem Reads.statements?_append (rest : String) :
    statements? (text ++ ";" ++ rest) = (statements? rest).map (ts :: ·) := by
  have hscan : scan (.code .between) (text ++ ";" ++ rest).toList =
      before (ts ++ [.mark ';']) (scan (.code .between) rest.toList) := by
    rw [String.toList_append, String.toList_append, List.append_assoc, ← before_before]
    exact h.scan_cons (by decide) rest.toList
  rw [statements?, statements?, hscan, Option.map_map]
  dsimp only [before]
  congr 1
  funext us
  rw [List.append_assoc, List.append_assoc, List.singleton_append,
    List.splitOn_append_cons_self_of_not_mem hmark]
  exact List.filter_cons_of_pos (decide_eq_true hne)

end

example : statements? "a, 'it''s; -- b'; c /* ; */ d -- e" =
    some [[.word "a", .mark ',', .literal "it's; -- b"], [.word "c", .word "d"]] := by
  decide +kernel

end BearerAuth.Sql
