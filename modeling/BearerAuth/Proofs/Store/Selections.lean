import BearerAuth.Proofs.Schema.Valid
import BearerAuth.Proofs.Sql.Lists
import BearerAuth.Store.Relational

/-!
# Selections

A server that is sent a selection finds in it the columns that are picked, each as it
is or cast to a type, the table that they are picked from, and the column that is to
have the value which is bound.

- `Sql.Query`, `Sql.query?`: what a statement selects with the values bound to it.
- `Relational.query?_selection`: the selection of a user picks all columns of the
  schema in order, time stamps as they are and all else as text, from the rows that
  have the name in the column for it.
-/

namespace BearerAuth

namespace Sql

/-- A column that is picked, cast to a type or as it is. -/
structure Pick where
  column : String
  cast : Option String
  deriving DecidableEq, Repr

/-- A selection of the rows of a table in which a column has a value of a type. -/
structure Query where
  picks : List Pick
  table : String
  key : String
  type : String
  value : String
  deriving DecidableEq, Repr

/-- What a part of the list after the first word picks. -/
def pick? : List Token → Option Pick
  | [.name column] => some { column, cast := none }
  | [.name column, .mark ':', .mark ':', .word type] => some { column, cast := some type }
  | _ => none

/-- The selection that the parts before and after the second word make. -/
def partsQuery? (parameters : List String) : List (List Token) → Option Query
  | [picks, .name table :: .word "WHERE" :: .name key :: .mark '=' :: place] =>
    match (picks.splitOn (.mark ',')).mapM pick?, placeholder? parameters place with
    | some picks, some (type, value) => some { picks, table, key, type, value }
    | _, _ => none
  | _ => none

/-- What the tokens of a statement select, with the values bound to it. -/
def query? (parameters : List String) : List Token → Option Query
  | .word "SELECT" :: rest => partsQuery? parameters (rest.splitOn (.word "FROM"))
  | _ => none

end Sql

/-- Elements that are read one by one are read as a list. -/
theorem mapM_eq_some_map {α β γ : Type} {read : β → Option γ} {given : α → β} {found : α → γ}
    {l : List α} (h : ∀ a ∈ l, read (given a) = some (found a)) :
    (l.map given).mapM read = some (l.map found) := by
  induction l with
  | nil => rfl
  | cons a rest ih =>
    rw [List.map_cons, List.mapM_cons, h a List.mem_cons_self,
      ih fun x hx => h x (List.mem_cons_of_mem a hx)]
    rfl

open Sql

/-- How a column is meant to be picked: time stamps as they are, all else as text. -/
def Column.pick (c : Column) : Pick where
  column := c.name
  cast := if c.type = .timestamp then none else some "TEXT"

namespace Relational

variable {s : Schema}

/-! ## The columns that are picked -/

/-- The part of the list that picks a column. -/
def pickPart (c : Column) : String × List Token :=
  (selected c, .name c.name ::
    if c.type = .timestamp then [] else [.mark ':', .mark ':', .word "TEXT"])

/-- The part for a column reads as its quoted name, with a cast to text after it where there
is one. -/
theorem reads_pickPart {c : Column} (h : isPlainName c.name = true) :
    Reads (pickPart c).1.toList (pickPart c).2 := by
  have hname := reads_plainName h
  by_cases htype : c.type = .timestamp
  · rw [pickPart, selected, if_pos htype, if_pos htype]
    exact hname
  · have htext : (identifier c.name ++ "::TEXT").toList =
        (identifier c.name).toList ++ ':' :: ':' :: ColumnType.text.sqlType.toList := by
      rw [String.toList_append]
      rfl
    rw [pickPart, selected, if_neg htype, if_neg htype, htext]
    exact hname.append (by decide) (reads_cast .text)

/-- The part for a column picks it as it is meant to be picked. -/
theorem pick?_pickPart (c : Column) : pick? (pickPart c).2 = some c.pick := by
  by_cases htype : c.type = .timestamp
  · rw [pickPart, Column.pick, if_pos htype, if_pos htype]
    rfl
  · rw [pickPart, Column.pick, if_neg htype, if_neg htype]
    rfl

/-- A part that picks a column has no words but a type, and no marks but those of a
cast. -/
theorem notMem_pickPart {t : Token} (hname : ∀ name, t ≠ .name name) (hcolon : t ≠ .mark ':')
    (htext : t ≠ .word "TEXT") (columns : List Column) :
    ∀ p ∈ columns.map pickPart, t ∉ p.2 := by
  intro p hp
  obtain ⟨c, -, rfl⟩ := List.mem_map.1 hp
  by_cases htype : c.type = .timestamp
  · simp [pickPart, htype, hname]
  · simp [pickPart, htype, hname, hcolon, htext]

/-! ## The statement -/

/-- The tokens of the selection. -/
def selectionTokens (s : Schema) : List Token :=
  .word "SELECT" :: (listTokens (s.columns.map pickPart) ++
    .word "FROM" :: .name s.table :: .word "WHERE" :: .name s.username.name :: .mark '=' ::
      (placePart 1 s.username).2)

/-- The selection is three words and what follows each of them. -/
theorem toList_selection (s : Schema) (username : String) :
    (selection s username).text.toList = "SELECT".toList ++ ' ' ::
      ((commaList ((s.columns.map pickPart).map (·.1))).toList ++ ' ' ::
        ("FROM".toList ++ ' ' :: ((identifier s.table).toList ++ ' ' ::
          ("WHERE".toList ++ ' ' :: ((identifier s.username.name).toList ++ ' ' :: '=' :: ' ' ::
            (placePart 1 s.username).1.toList))))) := by
  have hpicks : (s.columns.map pickPart).map (·.1) = s.columns.map selected := by
    rw [List.map_map]
    rfl
  have hplace : (placePart 1 s.username).1 = "$1::" ++ s.username.type.sqlType := rfl
  rw [hpicks, hplace]
  simp [selection]

/-- A table of a checked schema has at least the column of the name. -/
theorem pickParts_ne_nil (hs : s.Valid) : s.columns.map pickPart ≠ [] :=
  List.map_eq_nil_iff.not.2 (List.ne_nil_of_mem hs.username_mem)

theorem reads_selection {table : TableDescription} (hs : Schema.ofDescription table = .ok s)
    (username : String) : Reads (selection s username).text.toList (selectionTokens s) := by
  obtain ⟨htable, hplain⟩ := Schema.isPlainName_of_ofDescription hs
  have hvalid := Schema.valid_of_ofDescription hs
  have hpicks := reads_commaList (pickParts_ne_nil hvalid) fun p hp => by
    obtain ⟨c, hc, rfl⟩ := List.mem_map.1 hp
    exact reads_pickPart (hplain c hc)
  have hselect : Reads "SELECT".toList [.word "SELECT"] := reads_word (by decide)
  have hfrom : Reads "FROM".toList [.word "FROM"] := reads_word (by decide)
  have hwhere : Reads "WHERE".toList [.word "WHERE"] := reads_word (by decide)
  have hkey := reads_plainName (hplain s.username hvalid.username_mem)
  have hplace := (reads_placePart 1 s.username).after_space.after_mark (c := '=') rfl
  have hcondition := hwhere.append_space (hkey.append_space hplace)
  rw [toList_selection]
  exact hselect.append_space (hpicks.append_space
    (hfrom.append_space ((reads_plainName htable).append_space hcondition)))

theorem semicolon_notMem_selectionTokens (s : Schema) :
    Token.mark ';' ∉ selectionTokens s := by
  have hpicks : Token.mark ';' ∉ listTokens (s.columns.map pickPart) :=
    notMem_listTokens (by decide) (notMem_pickPart (by simp) (by decide) (by decide) s.columns)
  simp [selectionTokens, placePart, hpicks]

/-- The tokens make the query: the only word between the columns and the table is the second
one, and the only commas are those between columns. -/
theorem query?_selectionTokens (hs : s.Valid) (username : String) :
    query? [username] (selectionTokens s) = some
      { picks := s.columns.map Column.pick, table := s.table, key := s.username.name
        type := s.username.type.sqlType, value := username } := by
  -- the second word is neither among the columns nor behind the table
  have hfrom : Token.word "FROM" ∉ listTokens (s.columns.map pickPart) :=
    notMem_listTokens (by decide) (notMem_pickPart (by simp) (by decide) (by decide) s.columns)
  have hlast : Token.word "FROM" ∉ Token.name s.table :: Token.word "WHERE" ::
      Token.name s.username.name :: Token.mark '=' :: (placePart 1 s.username).2 := by
    have hnumber : "FROM" ≠ Nat.repr 1 := by decide
    have htype : "FROM" ≠ s.username.type.sqlType := by cases s.username.type <;> decide
    simp [placePart, hnumber, htype]
  have hcommas := splitOn_listTokens (pickParts_ne_nil hs)
    (notMem_pickPart (by simp) (by decide) (by decide) s.columns)
  have hpicks : ((s.columns.map pickPart).map (·.2)).mapM pick? =
      some (s.columns.map Column.pick) := by
    rw [List.map_map]
    exact mapM_eq_some_map fun c _ => pick?_pickPart c
  have hplace : placeholder? [username] (placePart 1 s.username).2 =
      some (s.username.type.sqlType, username) := placeholder?_placePart (k := 0) rfl s.username
  rw [selectionTokens, query?, List.splitOn_append_cons_self_of_not_mem hfrom,
    List.splitOn_eq_singleton hlast, partsQuery?, hcommas, hpicks, hplace]

/-- The selection of a user is one statement. It picks all columns of the schema in
order, time stamps as they are and all else as text, from the rows of the table that
have the name in the column for it. -/
theorem query?_selection {table : TableDescription} (hs : Schema.ofDescription table = .ok s)
    (username : String) :
    ∃ ts, statements? (selection s username).text = some [ts] ∧
      query? (selection s username).parameters ts = some
        { picks := s.columns.map Column.pick, table := s.table, key := s.username.name
          type := s.username.type.sqlType, value := username } :=
  ⟨selectionTokens s, (reads_selection hs username).statements?_eq (List.cons_ne_nil _ _)
    (semicolon_notMem_selectionTokens s),
    query?_selectionTokens (Schema.valid_of_ofDescription hs) username⟩

end Relational

end BearerAuth
