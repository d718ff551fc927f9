import LiveRecord.Proofs.StatementText

/-!
# The text of an insertion

A name stands between quotes, and a quote in it is doubled. A reader that takes two quotes in a row
for one, and a single one for the end, finds the name again, provided that the text after it does
not begin with a quote. In an insertion a comma or a parenthesis follows the name of a column, and a
blank that of the table. So the text of an insertion can be split in one way only, whatever
characters the names are made of: it determines the table, the columns in their sequence, and the
column that is asked back.
-/

namespace LiveRecord.Sql

open Piece

variable {dialect : Dialect}

/-! ## One name -/

/-- Read a quoted text after its first quote: what is quoted, and what follows the last quote. -/
def unquoted (quote : Char) : List Char → List Char × List Char
  | [] => ([], [])
  | c :: cs =>
    if c = quote then
      match cs with
      | [] => ([], [])
      | d :: ds => if d = quote then (unquoted quote ds).map (quote :: ·) id else ([], d :: ds)
    else (unquoted quote cs).map (c :: ·) id

theorem unquoted_cons_of_ne {quote c : Char} (other : c ≠ quote) (cs : List Char) :
    unquoted quote (c :: cs) = (unquoted quote cs).map (c :: ·) id := by
  rw [unquoted.eq_def]
  exact if_neg other

theorem unquoted_pair (quote : Char) (cs : List Char) :
    unquoted quote (quote :: quote :: cs) = (unquoted quote cs).map (quote :: ·) id := by
  simp [unquoted]

theorem unquoted_end {quote : Char} {rest : List Char} (ends : rest.head? ≠ some quote) :
    unquoted quote (quote :: rest) = ([], rest) := by
  cases rest with
  | nil => simp [unquoted]
  | cons d ds =>
      have other : d ≠ quote := by simpa using ends
      simp [unquoted, other]

/-- The reader finds a text in which the quotes have been doubled, and stops after it. -/
theorem unquoted_doubled {quote : Char} {rest : List Char} (ends : rest.head? ≠ some quote)
    (cs : List Char) :
    unquoted quote ((cs.flatMap fun c => if c = quote then [quote, quote] else [c]) ++
      quote :: rest) = (cs, rest) := by
  induction cs with
  | nil => exact unquoted_end ends
  | cons c cs ih =>
      rw [List.flatMap_cons, List.append_assoc]
      by_cases same : c = quote
      · rw [if_pos same, same, List.cons_append, List.cons_append, List.nil_append, unquoted_pair,
          ih]
        rfl
      · rw [if_neg same, List.cons_append, List.nil_append, unquoted_cons_of_ne same, ih]
        rfl

/-- What stands before a text that does not begin with a quote is one name only. -/
theorem Dialect.identifier_append_inj {name name' : String} {rest rest' : List Char}
    (ends : rest.head? ≠ some dialect.quote) (ends' : rest'.head? ≠ some dialect.quote)
    (same : dialect.identifier name ++ rest = dialect.identifier name' ++ rest') :
    name = name' ∧ rest = rest' := by
  have read (name : String) {rest : List Char} (ends : rest.head? ≠ some dialect.quote) :
      unquoted dialect.quote (dialect.identifier name ++ rest).tail = (name.toList, rest) := by
    rw [identifier, List.append_assoc, List.cons_append, List.tail_cons]
    exact unquoted_doubled ends _
  have both := congrArg (fun text => unquoted dialect.quote text.tail) same
  rw [read name ends, read name' ends', Prod.mk.injEq, String.toList_inj] at both
  exact both

theorem Dialect.identifier_inj {name name' : String}
    (same : dialect.identifier name = dialect.identifier name') : name = name' := by
  have ends : ([] : List Char).head? ≠ some dialect.quote := nofun
  exact (identifier_append_inj ends ends (congrArg (· ++ []) same)).1

/-! ## The names of the columns -/

/-- The names in a list of columns after the first one, each after a comma. -/
def laterNames (dialect : Dialect) (columns : List String) : List Char :=
  columns.flatMap fun column => ',' :: ' ' :: dialect.identifier column

theorem textFrom_word (s : String) (n : Nat) : textFrom dialect n (word s) = s.toList :=
  List.append_nil _

/-- Names have no places, so that the number of the next place does not matter. -/
theorem textFrom_names (column : String) (columns : List String) (n : Nat) :
    textFrom dialect n (separated ", " ((column :: columns).map (name dialect))) =
      dialect.identifier column ++ laterNames dialect columns := by
  induction columns generalizing column with
  | nil => rfl
  | cons second columns ih =>
      have first : textFrom dialect n
          (separated ", " ((column :: second :: columns).map (name dialect))) =
          dialect.identifier column ++ (", ".toList ++ textFrom dialect n
            (separated ", " ((second :: columns).map (name dialect)))) := rfl
      rw [first, ih second]
      rfl

/-- What follows the name of a column does not begin with a quote. -/
theorem laterNames_ends (columns : List String) (rest : List Char) :
    (laterNames dialect columns ++ ')' :: rest).head? ≠ some dialect.quote := by
  cases columns with
  | nil => cases dialect <;> simp [laterNames, Dialect.quote]
  | cons column columns => cases dialect <;> simp [laterNames, Dialect.quote]

/-- A list of names that ends with a parenthesis can be split in one way only. -/
theorem laterNames_inj {columns columns' : List String} {rest rest' : List Char}
    (same : laterNames dialect columns ++ ')' :: rest =
      laterNames dialect columns' ++ ')' :: rest') : columns = columns' ∧ rest = rest' := by
  induction columns generalizing columns' with
  | nil =>
      cases columns' with
      | nil => exact ⟨rfl, List.tail_eq_of_cons_eq same⟩
      | cons column' columns' => cases List.head_eq_of_cons_eq same
  | cons column columns ih =>
      cases columns' with
      | nil => cases List.head_eq_of_cons_eq same
      | cons column' columns' =>
          have split (column : String) (columns : List String) (rest : List Char) :
              laterNames dialect (column :: columns) ++ ')' :: rest = ", ".toList ++
                (dialect.identifier column ++ (laterNames dialect columns ++ ')' :: rest)) := by
            simp [laterNames]
          rw [split, split, List.append_cancel_left_eq] at same
          obtain ⟨rfl, later⟩ :=
            Dialect.identifier_append_inj (laterNames_ends _ _) (laterNames_ends _ _) same
          obtain ⟨rfl, ends⟩ := ih later
          exact ⟨rfl, ends⟩

/-! ## The statement -/

/-- The text of the clause that asks a key back. -/
def returningText (dialect : Dialect) : Option String → List Char
  | none => []
  | some key => if dialect.hasReturning then " RETURNING ".toList ++ dialect.identifier key else []

theorem textFrom_returningPieces (returning : Option String) (n : Nat) :
    textFrom dialect n (returningPieces dialect returning) = returningText dialect returning := by
  cases returning with
  | none => rfl
  | some key =>
      rw [returningPieces, returningText]
      split
      · exact congrArg (" RETURNING ".toList ++ ·) (List.append_nil _)
      · rfl

theorem returningText_inj {returning returning' : Option String}
    (reports : dialect.hasReturning = true)
    (same : returningText dialect returning = returningText dialect returning') :
    returning = returning' := by
  cases returning with
  | none =>
      cases returning' with
      | none => rfl
      | some key' => simp [returningText, reports] at same
  | some key =>
      cases returning' with
      | none => simp [returningText, reports] at same
      | some key' =>
          rw [returningText, returningText, if_pos reports, if_pos reports,
            List.append_cancel_left_eq] at same
          rw [Dialect.identifier_inj same]

/-- The text of an insertion after the name of the table. -/
def rowText (dialect : Dialect) (returning : Option String) : List (String × Value) → List Char
  | [] => dialect.defaultRow.toList ++ returningText dialect returning
  | entry :: row =>
    " (".toList ++ (dialect.identifier entry.1 ++ (laterNames dialect (row.map Prod.fst) ++
      ')' :: (textFrom dialect 1 (word " VALUES " ++
        parenthesised ((entry :: row).map fun entry => value entry.2)) ++
          returningText dialect returning)))

/-- What follows the name of the table does not begin with a quote. -/
theorem rowText_ends (returning : Option String) (row : List (String × Value)) :
    (rowText dialect returning row).head? ≠ some dialect.quote := by
  cases row with
  | nil => cases dialect <;> simp [rowText, Dialect.defaultRow, Dialect.quote]
  | cons entry row => cases dialect <;> simp [rowText, Dialect.quote]

theorem sql_insert (table : String) (row : List (String × Value)) (returning : Option String) :
    ((Statement.insert table row returning).render dialect).sql.toList =
      "INSERT INTO ".toList ++ (dialect.identifier table ++ rowText dialect returning row) := by
  have text : ((Statement.insert table row returning).render dialect).sql.toList =
      "INSERT INTO ".toList ++ (dialect.identifier table ++
        textFrom dialect 1 (rowPieces dialect row ++ returningPieces dialect returning)) := by
    rw [Statement.render, String.toList_ofList, Statement.pieces, List.append_assoc]
    rfl
  rw [text, Statement.textFrom_append, textFrom_returningPieces]
  cases row with
  | nil => simp [rowText, rowPieces, word, textFrom]
  | cons entry row =>
      have columns : (entry :: row).map (fun entry => name dialect entry.1) =
          (entry.1 :: row.map Prod.fst).map (name dialect) := by simp
      have placeless :
          boundsOf (separated ", " ((entry.1 :: row.map Prod.fst).map (name dialect))) = [] := by
        rw [boundsOf_separated, List.flatMap_map]
        simp
      rw [rowPieces, if_neg (by simp), columns, parenthesised, rowText]
      simp only [Statement.textFrom_append, placeless, boundsOf_word, textFrom_names, textFrom_word,
        List.length_nil, Nat.add_zero, List.append_assoc]
      rfl

/-- What follows the name of the table can be split in one way only. -/
theorem rowText_inj {row row' : List (String × Value)} {returning returning' : Option String}
    (same : rowText dialect returning row = rowText dialect returning' row') :
    row.map Prod.fst = row'.map Prod.fst ∧
      returningText dialect returning = returningText dialect returning' := by
  cases row with
  | nil =>
      cases row' with
      | nil => exact ⟨rfl, List.append_cancel_left same⟩
      | cons entry' row' => cases dialect <;> simp [rowText, Dialect.defaultRow] at same
  | cons entry row =>
      cases row' with
      | nil => cases dialect <;> simp [rowText, Dialect.defaultRow] at same
      | cons entry' row' =>
          rw [rowText, rowText, List.append_cancel_left_eq] at same
          obtain ⟨first, same⟩ :=
            Dialect.identifier_append_inj (laterNames_ends _ _) (laterNames_ends _ _) same
          obtain ⟨later, same⟩ := laterNames_inj same
          have columns : (entry :: row).map Prod.fst = (entry' :: row').map Prod.fst := by
            rw [List.map_cons, List.map_cons, first, later]
          refine ⟨columns, ?_⟩
          have values : textFrom dialect 1 (word " VALUES " ++
                parenthesised ((entry :: row).map fun entry => value entry.2)) =
              textFrom dialect 1 (word " VALUES " ++
                parenthesised ((entry' :: row').map fun entry => value entry.2)) :=
            ((Congruent.refl _).append (.parenthesised
              (forall₂_congruent_map (fun a b _ => .value a.2 b.2) columns))).textFrom_eq 1
          rw [values] at same
          exact List.append_cancel_left same

/-- Two insertions have the same text exactly if they name the same table and the same columns in
the same sequence, and, in a dialect with a clause for it, ask the same key back. No character in a
name makes a difference to this. -/
theorem Statement.sql_insert_eq_iff (dialect : Dialect) (table table' : String)
    (row row' : List (String × Value)) (returning returning' : Option String) :
    ((insert table row returning).render dialect).sql =
        ((insert table' row' returning').render dialect).sql ↔
      table = table' ∧ row.map Prod.fst = row'.map Prod.fst ∧
        (dialect.hasReturning = true → returning = returning') := by
  constructor
  · intro same
    rw [← String.toList_inj, sql_insert, sql_insert, List.append_cancel_left_eq] at same
    obtain ⟨tables, same⟩ :=
      Dialect.identifier_append_inj (rowText_ends _ _) (rowText_ends _ _) same
    obtain ⟨columns, asked⟩ := rowText_inj same
    exact ⟨tables, columns, fun reports => returningText_inj reports asked⟩
  · rintro ⟨rfl, columns, asked⟩
    have clauses : returningPieces dialect returning = returningPieces dialect returning' := by
      cases reports : dialect.hasReturning with
      | true => rw [asked reports]
      | false => cases returning <;> cases returning' <;> simp [returningPieces, reports]
    have congruent : Congruent ((insert table row returning).pieces dialect)
        ((insert table row' returning').pieces dialect) := by
      rw [pieces, pieces, clauses]
      exact ((Congruent.refl _).append (congruent_rowPieces columns)).append (.refl _)
    exact congrArg String.ofList (congruent.textFrom_eq 1)

/-- A name that looks like two is one. -/
example : ((Statement.insert "users" [("a\", \"b", .null)] none).render .sqlite).sql =
    "INSERT INTO \"users\" (\"a\"\", \"\"b\") VALUES (?)" := by rfl

end LiveRecord.Sql
