import LiveRecord.Proofs.Placeholders
import Mathlib.Data.List.Forall2

/-!
# The text and the parameters of a statement

The text of a statement depends on the names in it and on the shape of its conditions, and not on
any value: two statements that differ in values only have pieces with the same texts and gaps. The
values are the parameters, in the sequence in which they stand in the statement. The clause of the
conditions is the same in every statement with these conditions, up to the numbers of its places.
-/

namespace LiveRecord.Sql

open Piece

variable {dialect : Dialect}

/-- What a piece is without its parameter: a text, or a gap. -/
def Piece.skeleton : Piece → Option (List Char)
  | .text cs => some cs
  | .place _ => none

/-- Do the pieces differ in their parameters only? -/
def Congruent (pieces pieces' : List Piece) : Prop :=
  pieces.map Piece.skeleton = pieces'.map Piece.skeleton

namespace Congruent

variable {p p' q q' : List Piece}

theorem refl (p : List Piece) : Congruent p p := rfl

theorem append (h : Congruent p p') (k : Congruent q q') : Congruent (p ++ q) (p' ++ q') := by
  rw [Congruent, List.map_append, List.map_append, h, k]

theorem value (v w : Value) : Congruent (Piece.value v) (Piece.value w) := rfl

theorem separated (separator : String) {groups groups' : List (List Piece)}
    (h : List.Forall₂ Congruent groups groups') :
    Congruent (Piece.separated separator groups) (Piece.separated separator groups') := by
  induction h with
  | nil => exact .refl _
  | cons first rest ih =>
      cases rest with
      | nil => exact first
      | cons second rest => exact (first.append (.refl _)).append ih

theorem parenthesised {groups groups' : List (List Piece)}
    (h : List.Forall₂ Congruent groups groups') :
    Congruent (Sql.parenthesised groups) (Sql.parenthesised groups') :=
  ((refl _).append (separated _ h)).append (.refl _)

/-- As many values make as many places. -/
theorem values {vs ws : List Value} (same : vs.length = ws.length) :
    List.Forall₂ Congruent (vs.map Piece.value) (ws.map Piece.value) := by
  induction vs generalizing ws with
  | nil =>
      cases ws with
      | nil => exact .nil
      | cons w ws => cases same
  | cons v vs ih =>
      cases ws with
      | nil => cases same
      | cons w ws => exact .cons (.value v w) (ih (Nat.succ.inj same))

/-- Congruent pieces have the same text. -/
theorem textFrom_eq (h : Congruent p p') (n : Nat) : textFrom dialect n p = textFrom dialect n p' := by
  induction p generalizing p' n with
  | nil =>
      cases p' with
      | nil => rfl
      | cons piece' rest' => cases h
  | cons piece rest ih =>
      cases p' with
      | nil => cases h
      | cons piece' rest' =>
          obtain ⟨same, tail⟩ := List.cons.inj h
          cases piece <;> cases piece' <;> cases same
          · rw [textFrom, textFrom, ih tail]
          · rw [textFrom, textFrom, ih tail]

end Congruent

/-- What a condition looks like without its values. -/
inductive Test where
  /-- A comparison with a value, or with the absent value. -/
  | equals (column : String) (null : Bool)
  | isIn (column : String) (count : Nat)
  deriving DecidableEq

namespace Condition

/-- What the condition looks like. -/
def test : Condition → Test
  | .equals column _ => .equals column false
  | .isNull column => .equals column true
  | .isIn column values => .isIn column values.length

/-- The parameters of the condition. The condition that never holds compares two constants. -/
def bounds : Condition → List Bound
  | .equals _ v => [.ofValue v]
  | .isNull _ => []
  | .isIn _ [] => [.int 1, .int 2]
  | .isIn _ values => values.map .ofValue

theorem test_holds (column : String) (v : Value) :
    (holds column v).test = .equals column v.isNull := by
  rw [holds]
  cases v <;> rfl

theorem bounds_holds (column : String) (v : Value) :
    (holds column v).bounds = if v.isNull then [] else [.ofValue v] := by
  rw [holds]
  cases v <;> rfl

theorem congruent_pieces {c c' : Condition} (same : c.test = c'.test) :
    Congruent (c.pieces dialect) (c'.pieces dialect) := by
  cases c with
  | equals column v =>
      cases c' with
      | equals column' w =>
          cases same
          exact (Congruent.refl _).append (.value v w)
      | isNull | isIn => cases same
  | isNull column =>
      cases c' with
      | isNull column' =>
          cases same
          exact .refl _
      | equals | isIn => cases same
  | isIn column vs =>
      cases c' with
      | isIn column' ws =>
          rw [test, test, Test.isIn.injEq] at same
          obtain ⟨rfl, length⟩ := same
          cases vs with
          | nil =>
              obtain rfl := List.eq_nil_of_length_eq_zero length.symm
              exact .refl _
          | cons v vs =>
              cases ws with
              | nil => cases length
              | cons w ws => exact (Congruent.refl _).append (.parenthesised (Congruent.values length))
      | equals | isNull => cases same

end Condition

/-- Congruence of the pieces that are made of things which look the same. -/
theorem forall₂_congruent_map {α β : Type} {looks : α → β} {pieces : α → List Piece}
    (congruent : ∀ a b, looks a = looks b → Congruent (pieces a) (pieces b)) {as bs : List α}
    (same : as.map looks = bs.map looks) :
    List.Forall₂ Congruent (as.map pieces) (bs.map pieces) := by
  rw [← List.forall₂_eq_eq_eq, List.forall₂_map_left_iff, List.forall₂_map_right_iff] at same
  rw [List.forall₂_map_left_iff, List.forall₂_map_right_iff]
  exact same.imp congruent

theorem congruent_wherePieces {conditions conditions' : List Condition}
    (same : conditions.map Condition.test = conditions'.map Condition.test) :
    Congruent (wherePieces dialect conditions) (wherePieces dialect conditions') := by
  have empty : conditions.isEmpty = conditions'.isEmpty := by
    rw [← List.isEmpty_map (f := Condition.test), same, List.isEmpty_map]
  rw [wherePieces, wherePieces, empty]
  split
  · exact .refl _
  · exact (Congruent.refl _).append
      (.separated _ (forall₂_congruent_map (fun _ _ => Condition.congruent_pieces) same))

/-- An assignment without its value. -/
def Assignment.forget : Assignment → Assignment
  | .set column _ => .set column .null
  | .add column _ => .add column .null
  | .subtract column _ => .subtract column .null

theorem Assignment.congruent_pieces {a b : Assignment} (same : a.forget = b.forget) :
    Congruent (a.pieces dialect) (b.pieces dialect) := by
  cases a <;> cases b <;> cases same <;> exact (Congruent.refl _).append (.value _ _)

theorem congruent_limitPieces {limit limit' : Option Nat} (same : limit.isSome = limit'.isSome) :
    Congruent (limitPieces limit) (limitPieces limit') := by
  cases limit <;> cases limit' <;> first | rfl | cases same

theorem congruent_rowPieces {row row' : List (String × Value)}
    (same : row.map Prod.fst = row'.map Prod.fst) :
    Congruent (rowPieces dialect row) (rowPieces dialect row') := by
  have empty : row.isEmpty = row'.isEmpty := by
    rw [← List.isEmpty_map (f := Prod.fst), same, List.isEmpty_map]
  rw [rowPieces, rowPieces, empty]
  split
  · exact .refl _
  · refine .append (.append (.append (.refl _) (.parenthesised ?_)) (.refl _)) (.parenthesised ?_)
    · refine forall₂_congruent_map (fun a b same => ?_) same
      rw [same]
      exact .refl _
    · exact forall₂_congruent_map (fun a b _ => .value a.2 b.2) same

namespace Statement

/-- Do two statements differ in their values only? -/
inductive Alike : Statement → Statement → Prop
  | select {table : String} {conditions conditions' : List Condition}
      {orders : List (String × Direction)} {limit limit' : Option Nat}
      (tests : conditions.map Condition.test = conditions'.map Condition.test)
      (limited : limit.isSome = limit'.isSome) :
      Alike (.select table conditions orders limit) (.select table conditions' orders limit')
  | insert {table : String} {row row' : List (String × Value)} {returning : Option String}
      (columns : row.map Prod.fst = row'.map Prod.fst) :
      Alike (.insert table row returning) (.insert table row' returning)
  | update {table : String} {assignments assignments' : List Assignment}
      {conditions conditions' : List Condition}
      (changes : assignments.map Assignment.forget = assignments'.map Assignment.forget)
      (tests : conditions.map Condition.test = conditions'.map Condition.test) :
      Alike (.update table assignments conditions) (.update table assignments' conditions')
  | delete {table : String} {conditions conditions' : List Condition}
      (tests : conditions.map Condition.test = conditions'.map Condition.test) :
      Alike (.delete table conditions) (.delete table conditions')

theorem Alike.congruent_pieces {s s' : Statement} (alike : s.Alike s') :
    Congruent (s.pieces dialect) (s'.pieces dialect) := by
  cases alike with
  | select tests limited =>
      exact (((Congruent.refl _).append (congruent_wherePieces tests)).append (.refl _)).append
        (congruent_limitPieces limited)
  | insert columns =>
      exact ((Congruent.refl _).append (congruent_rowPieces columns)).append (.refl _)
  | update changes tests =>
      refine ((Congruent.refl _).append (.separated _ ?_)).append (congruent_wherePieces tests)
      exact forall₂_congruent_map (fun _ _ => Assignment.congruent_pieces) changes
  | delete tests => exact (Congruent.refl _).append (congruent_wherePieces tests)

/-- Values do not enter the text of a statement. -/
theorem Alike.sql_eq {s s' : Statement} (alike : s.Alike s') :
    (s.render dialect).sql = (s'.render dialect).sql :=
  congrArg String.ofList (alike.congruent_pieces.textFrom_eq 1)

end Statement

section Bounds

theorem boundsOf_separated (separator : String) (groups : List (List Piece)) :
    boundsOf (separated separator groups) = groups.flatMap boundsOf := by
  induction groups using separated.induct with
  | case1 => rfl
  | case2 group => simp [separated]
  | case3 group rest nonempty ih =>
      rw [separated]
      · simp [ih]
      · exact nonempty

@[simp] theorem boundsOf_parenthesised (groups : List (List Piece)) :
    boundsOf (parenthesised groups) = groups.flatMap boundsOf := by
  simp [parenthesised, boundsOf_separated]

theorem boundsOf_values (values : List Value) :
    (values.map Piece.value).flatMap boundsOf = values.map .ofValue := by
  induction values with
  | nil => rfl
  | cons v values ih => exact congrArg (List.cons (Bound.ofValue v)) ih

theorem Condition.boundsOf_pieces (c : Condition) : boundsOf (c.pieces dialect) = c.bounds := by
  cases c with
  | equals column v => rfl
  | isNull column => rfl
  | isIn column values =>
      cases values with
      | nil => rfl
      | cons v values =>
          rw [pieces, boundsOf_append, boundsOf_parenthesised, boundsOf_values]
          · rfl
          · simp

/-- The parameters of the conditions, in sequence. -/
theorem boundsOf_wherePieces (conditions : List Condition) :
    boundsOf (wherePieces dialect conditions) = conditions.flatMap Condition.bounds := by
  rw [wherePieces]
  split
  · next empty =>
    rw [List.isEmpty_iff.1 empty]
    rfl
  · rw [boundsOf_append, boundsOf_separated, List.flatMap_map]
    simp only [Condition.boundsOf_pieces, boundsOf_word, List.nil_append]

/-- The value of an assignment. -/
def Assignment.value : Assignment → Value
  | .set _ v | .add _ v | .subtract _ v => v

theorem boundsOf_assignments (assignments : List Assignment) :
    boundsOf (separated ", " (assignments.map (·.pieces dialect))) =
      assignments.map fun a => .ofValue a.value := by
  have single (a : Assignment) : boundsOf (a.pieces dialect) = [.ofValue a.value] := by
    cases a <;> rfl
  rw [boundsOf_separated, List.flatMap_map]
  simp only [single]
  exact List.map_eq_flatMap.symm

theorem boundsOf_orderPieces (orders : List (String × Direction)) :
    boundsOf (orderPieces dialect orders) = [] := by
  rw [orderPieces]
  split
  · rfl
  · rw [boundsOf_append, boundsOf_separated, List.flatMap_map]
    simp

theorem boundsOf_rowPieces (row : List (String × Value)) :
    boundsOf (rowPieces dialect row) = row.map fun entry => .ofValue entry.2 := by
  rw [rowPieces]
  split
  · next empty =>
    rw [List.isEmpty_iff.1 empty]
    rfl
  · have names : (row.map fun entry => name dialect entry.1).flatMap boundsOf = [] := by
      simp [List.flatMap_map]
    have values : (row.map fun entry => value entry.2).flatMap boundsOf =
        row.map fun entry => .ofValue entry.2 := by
      rw [List.flatMap_map]
      exact List.map_eq_flatMap.symm
    simp only [boundsOf_append, boundsOf_parenthesised, boundsOf_word, names, values,
      List.nil_append]

theorem boundsOf_returningPieces (returning : Option String) :
    boundsOf (returningPieces dialect returning) = [] := by
  cases returning with
  | none => rfl
  | some key =>
      rw [returningPieces]
      split <;> rfl

/-- The parameters of a statement: its own values, those of its conditions, and the limit. -/
def Statement.bounds : Statement → List Bound
  | .select _ conditions _ limit =>
    conditions.flatMap Condition.bounds ++ limit.toList.map .bigUnsigned
  | .insert _ row _ => row.map fun entry => .ofValue entry.2
  | .update _ assignments conditions =>
    (assignments.map fun a => .ofValue a.value) ++ conditions.flatMap Condition.bounds
  | .delete _ conditions => conditions.flatMap Condition.bounds

theorem Statement.boundsOf_pieces (s : Statement) : boundsOf (s.pieces dialect) = s.bounds := by
  cases s with
  | select table conditions orders limit =>
      simp only [pieces, boundsOf_append, boundsOf_word, boundsOf_name, boundsOf_wherePieces,
        boundsOf_orderPieces, List.nil_append, List.append_nil, bounds]
      cases limit <;> rfl
  | insert table row returning =>
      simp only [pieces, boundsOf_append, boundsOf_word, boundsOf_name, boundsOf_rowPieces,
        boundsOf_returningPieces, List.nil_append, List.append_nil, bounds]
  | update table assignments conditions =>
      simp only [pieces, boundsOf_append, boundsOf_word, boundsOf_name, boundsOf_assignments,
        boundsOf_wherePieces, List.nil_append, bounds]
  | delete table conditions =>
      simp only [pieces, boundsOf_append, boundsOf_word, boundsOf_name, boundsOf_wherePieces,
        List.nil_append, bounds]

end Bounds

section Places

theorem allInert_parenthesised {groups : List (List Piece)}
    (inert : ∀ group ∈ groups, AllInert dialect group) : AllInert dialect (parenthesised groups) :=
  ((AllInert.word rfl).append (.separated rfl inert)).append (.word rfl)

theorem allInert_values (values : List Value) :
    AllInert dialect (parenthesised (values.map Piece.value)) := by
  refine allInert_parenthesised fun group mem => ?_
  obtain ⟨v, -, rfl⟩ := List.mem_map.1 mem
  exact .place _

theorem Condition.allInert_pieces (c : Condition) : AllInert dialect (c.pieces dialect) := by
  cases c with
  | equals column v => exact ((AllInert.name column).append (.word rfl)).append (.place _)
  | isNull column => exact (AllInert.name column).append (.word rfl)
  | isIn column values =>
      cases values with
      | nil => exact ((AllInert.place _).append (.word rfl)).append (.place _)
      | cons v values =>
          exact ((AllInert.name column).append (.word rfl)).append (allInert_values _)

theorem allInert_wherePieces (conditions : List Condition) :
    AllInert dialect (wherePieces dialect conditions) := by
  rw [wherePieces]
  split
  · exact .nil
  · refine (AllInert.word rfl).append (.separated rfl fun group mem => ?_)
    obtain ⟨c, -, rfl⟩ := List.mem_map.1 mem
    exact c.allInert_pieces

theorem Assignment.allInert_pieces (a : Assignment) : AllInert dialect (a.pieces dialect) := by
  cases a with
  | set column v => exact ((AllInert.name column).append (.word rfl)).append (.place _)
  | add column v | subtract column v =>
      exact ((((AllInert.name column).append (.word rfl)).append (.name column)).append
        (.word rfl)).append (.place _)

theorem allInert_orderPieces (orders : List (String × Direction)) :
    AllInert dialect (orderPieces dialect orders) := by
  rw [orderPieces]
  split
  · exact .nil
  · refine (AllInert.word rfl).append (.separated rfl fun group mem => ?_)
    obtain ⟨⟨column, direction⟩, -, rfl⟩ := List.mem_map.1 mem
    refine (AllInert.name column).append ?_
    cases direction with
    | ascending => exact AllInert.word (s := " ASC") rfl
    | descending => exact AllInert.word (s := " DESC") rfl

theorem allInert_limitPieces (limit : Option Nat) : AllInert dialect (limitPieces limit) := by
  cases limit with
  | none => exact .nil
  | some n => exact (AllInert.word rfl).append (.place _)

theorem allInert_rowPieces (row : List (String × Value)) :
    AllInert dialect (rowPieces dialect row) := by
  rw [rowPieces]
  split
  · cases dialect <;> exact .word rfl
  · refine (((AllInert.word rfl).append ?_).append (.word rfl)).append ?_
    · refine allInert_parenthesised fun group mem => ?_
      obtain ⟨entry, -, rfl⟩ := List.mem_map.1 mem
      exact .name entry.1
    · refine allInert_parenthesised fun group mem => ?_
      obtain ⟨entry, -, rfl⟩ := List.mem_map.1 mem
      exact .place _

theorem allInert_returningPieces (returning : Option String) :
    AllInert dialect (returningPieces dialect returning) := by
  cases returning with
  | none => exact .nil
  | some key =>
      rw [returningPieces]
      split
      · exact (AllInert.word rfl).append (.name key)
      · exact .nil

namespace Statement

/-- The pieces before the clause of the conditions. -/
def head (dialect : Dialect) : Statement → List Piece
  | .select table _ _ _ => word "SELECT * FROM " ++ name dialect table
  | .insert table row returning =>
    word "INSERT INTO " ++ name dialect table ++ rowPieces dialect row ++
      returningPieces dialect returning
  | .update table assignments _ =>
    word "UPDATE " ++ name dialect table ++ word " SET " ++
      separated ", " (assignments.map (·.pieces dialect))
  | .delete table _ => word "DELETE FROM " ++ name dialect table

/-- The pieces after the clause of the conditions. -/
def tail (dialect : Dialect) : Statement → List Piece
  | .select _ _ orders limit => orderPieces dialect orders ++ limitPieces limit
  | .insert .. | .update .. | .delete .. => []

theorem pieces_eq (s : Statement) :
    s.pieces dialect = s.head dialect ++ wherePieces dialect s.conditions ++ s.tail dialect := by
  cases s with
  | select => simp [pieces, head, tail, conditions]
  | insert => simp [pieces, head, tail, conditions, wherePieces]
  | update | delete => simp [pieces, head, tail, conditions]

theorem allInert_head (s : Statement) : AllInert dialect (s.head dialect) := by
  cases s with
  | select table => exact (AllInert.word rfl).append (.name table)
  | insert table row returning =>
      exact (((AllInert.word rfl).append (.name table)).append (allInert_rowPieces row)).append
        (allInert_returningPieces returning)
  | update table assignments =>
      refine (((AllInert.word rfl).append (.name table)).append (.word rfl)).append
        (.separated rfl fun group mem => ?_)
      obtain ⟨a, -, rfl⟩ := List.mem_map.1 mem
      exact a.allInert_pieces
  | delete table => exact (AllInert.word rfl).append (.name table)

theorem allInert_tail (s : Statement) : AllInert dialect (s.tail dialect) := by
  cases s with
  | select table conditions orders limit =>
      exact (allInert_orderPieces orders).append (allInert_limitPieces limit)
  | insert | update | delete => exact .nil

theorem allInert_pieces (s : Statement) : AllInert dialect (s.pieces dialect) := by
  rw [pieces_eq]
  exact (s.allInert_head.append (allInert_wherePieces _)).append s.allInert_tail

/-- The text of a statement has one place for each parameter, numbered in sequence. -/
theorem placesOf_render (s : Statement) :
    placesOf dialect (s.render dialect).sql.toList =
      (List.range' 1 (s.render dialect).bounds.length).map (placeText dialect) := by
  rw [render, String.toList_ofList]
  exact placesOf_textFrom s.allInert_pieces 1

theorem bounds_render (s : Statement) : (s.render dialect).bounds = s.bounds := s.boundsOf_pieces

/-- A text goes on with the number after the last one. -/
theorem textFrom_append (p q : List Piece) (n : Nat) :
    textFrom dialect n (p ++ q) =
      textFrom dialect n p ++ textFrom dialect (n + (boundsOf p).length) q := by
  induction p generalizing n with
  | nil => rfl
  | cons piece rest ih =>
      cases piece with
      | text cs => simp [textFrom, boundsOf, ih]
      | place bound => simp [textFrom, boundsOf, ih, Nat.add_assoc, Nat.add_comm 1]

/-- The clause of the conditions stands between two texts that do not depend on the conditions but for
the numbers of places. -/
theorem sql_render (s : Statement) (dialect : Dialect) :
    (s.render dialect).sql.toList = textFrom dialect 1 (s.head dialect) ++
      textFrom dialect ((boundsOf (s.head dialect)).length + 1) (wherePieces dialect s.conditions) ++
        textFrom dialect ((boundsOf (s.head dialect)).length +
          (boundsOf (wherePieces dialect s.conditions)).length + 1) (s.tail dialect) := by
  rw [render, String.toList_ofList, pieces_eq, textFrom_append, textFrom_append, boundsOf_append,
    List.length_append, Nat.add_comm 1, Nat.add_comm 1]

end Statement

end Places

end LiveRecord.Sql
