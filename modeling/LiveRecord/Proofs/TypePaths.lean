import LiveRecord.Naming
import Mathlib.Data.List.Basic

/-!
# Tables of types with a path

A path is made of segments with two colons between them. The last one is the name of the type, which
arguments in angle brackets may follow; before it stand the names of modules and functions, and
implementations in angle brackets. The table is named after what is left of the path if everything
from the first angle bracket on is cut off. So the arguments of the type do not matter, and neither
do the names of modules. But an implementation is cut off together with the name of the type that is
declared in it, and nothing is left to name the table after.
-/

namespace LiveRecord.Naming

/-! ## Paths -/

/-- A name in a path: neither a colon nor the beginning of angle brackets is in it. -/
structure Identifier where
  text : String
  nonempty : text ≠ ""
  colonless : ':' ∉ text.toList
  unbracketed : '<' ∉ text.toList

/-- What comes before the name of a type. -/
inductive Segment where
  | named (name : Identifier)
  /-- An implementation, whatever stands in its brackets. -/
  | bracketed (inside : String)

namespace Segment

/-- The text of a segment. -/
def text : Segment → List Char
  | .named name => name.text.toList
  | .bracketed inside => '<' :: (inside.toList ++ ['>'])

/-- Is the segment an implementation? -/
def isBracketed : Segment → Bool
  | .named _ => false
  | .bracketed _ => true

end Segment

/-- A type with its path. -/
structure TypePath where
  outer : List Segment
  name : Identifier
  /-- What stands in the brackets after the name, if there are any. -/
  arguments : Option String

namespace TypePath

/-- The text of the segments before the name. -/
def outerText (outer : List Segment) : List Char :=
  outer.flatMap fun segment => segment.text ++ [':', ':']

/-- The text of the arguments. -/
def argumentsText : Option String → List Char
  | none => []
  | some inside => '<' :: (inside.toList ++ ['>'])

/-- The path as it is written. -/
def text (p : TypePath) : String :=
  String.ofList (outerText p.outer ++ (p.name.text.toList ++ argumentsText p.arguments))

/-- Is the type declared in an implementation? -/
def isLocal (p : TypePath) : Bool := p.outer.any Segment.isBracketed

end TypePath

/-! ## What is left of a path -/

/-- Does the text end with colons, unless it is empty? -/
def EndsWithColons (cs : List Char) : Prop := cs = [] ∨ ∃ more, cs = more ++ [':', ':']

theorem EndsWithColons.append {cs : List Char} (ends : EndsWithColons cs) (before : List Char) :
    EndsWithColons (before ++ [':', ':'] ++ cs) := by
  obtain rfl | ⟨more, rfl⟩ := ends
  · exact .inr ⟨before, List.append_nil _⟩
  · exact .inr ⟨before ++ [':', ':'] ++ more, (List.append_assoc _ _ _).symm⟩

theorem beforeColons_append {cs : List Char} (colonless : ':' ∉ cs) {rest : List Char}
    (starts : rest = [] ∨ ∃ more, rest = ':' :: ':' :: more) : beforeColons (cs ++ rest) = cs := by
  induction cs with
  | nil => obtain rfl | ⟨more, rfl⟩ := starts <;> rfl
  | cons c cs ih =>
      have other : c ≠ ':' := fun same => colonless (same ▸ List.mem_cons_self)
      rw [List.cons_append, beforeColons, ih (List.not_mem_of_not_mem_cons colonless)]
      rintro more rfl
      exact absurd rfl other

/-- What follows the last colons is left. -/
theorem beforeColons_reverse {before cs : List Char} (ends : EndsWithColons before)
    (colonless : ':' ∉ cs) : (beforeColons (before ++ cs).reverse).reverse = cs := by
  rw [List.reverse_append, beforeColons_append, List.reverse_reverse]
  · rwa [List.mem_reverse]
  · obtain rfl | ⟨more, rfl⟩ := ends
    · exact .inl rfl
    · exact .inr ⟨more.reverse, by simp⟩

namespace TypePath

/-- The text up to the first bracket: the segments before it, and the name if none is bracketed. -/
theorem takeWhile_outerText (outer : List Segment) (rest : List Char) :
    ∃ before, EndsWithColons before ∧
      (outerText outer ++ rest).takeWhile (· != '<') =
        before ++ if outer.any Segment.isBracketed then [] else rest.takeWhile (· != '<') := by
  induction outer with
  | nil => exact ⟨[], .inl rfl, rfl⟩
  | cons segment outer ih =>
      rw [outerText, List.flatMap_cons, ← outerText, List.append_assoc]
      cases segment with
      | bracketed inside => exact ⟨[], .inl rfl, rfl⟩
      | named name =>
          obtain ⟨before, ends, cut⟩ := ih
          have unbracketed : ∀ c ∈ name.text.toList ++ [':', ':'], (c != '<') = true := by
            intro c mem
            rw [bne_iff_ne]
            rintro rfl
            simp [name.unbracketed] at mem
          refine ⟨name.text.toList ++ [':', ':'] ++ before, ends.append _, ?_⟩
          rw [Segment.text, List.takeWhile_append_of_pos unbracketed, cut, ← List.append_assoc]
          rfl

theorem takeWhile_name (name : Identifier) (arguments : Option String) :
    (name.text.toList ++ argumentsText arguments).takeWhile (· != '<') = name.text.toList := by
  rw [List.takeWhile_append_of_pos]
  · cases arguments with
    | none => exact List.append_nil _
    | some inside => exact List.append_nil _
  · intro c mem
    rw [bne_iff_ne]
    rintro rfl
    exact name.unbracketed mem

/-- The name of the type is left, or nothing. -/
theorem baseName_text (p : TypePath) :
    baseName p.text = if p.isLocal then "" else p.name.text := by
  obtain ⟨before, ends, cut⟩ :=
    takeWhile_outerText p.outer (p.name.text.toList ++ argumentsText p.arguments)
  rw [takeWhile_name] at cut
  rw [baseName, text, String.toList_ofList, cut, ← isLocal]
  cases p.isLocal with
  | true =>
      rw [if_pos rfl, if_pos rfl, beforeColons_reverse ends List.not_mem_nil]
  | false =>
      rw [if_neg Bool.false_ne_true, if_neg Bool.false_ne_true,
        beforeColons_reverse ends p.name.colonless, String.ofList_toList]

end TypePath

/-- A name by itself is left as it is. -/
theorem Identifier.baseName_text (name : Identifier) : baseName name.text = name.text := by
  have alone : (TypePath.mk [] name none).text = name.text := by
    rw [TypePath.text, TypePath.argumentsText, List.append_nil]
    exact String.ofList_toList
  have left := TypePath.baseName_text ⟨[], name, none⟩
  rwa [alone] at left

/-! ## The name of the table -/

theorem splitWords_ne_nil (word cs : List Char) : splitWords word cs ≠ [] := by
  fun_induction splitWords word cs <;> simp_all

/-- A text that makes one word is that word. -/
theorem eq_of_splitWords {word cs w : List Char} (one : splitWords word cs = [w]) :
    w = word.reverse ++ cs := by
  fun_induction splitWords word cs with
  | case1 word | case3 word c =>
      cases one
      simp
  | case2 word c rest | case4 word c _ next more =>
      exact absurd (List.tail_eq_of_cons_eq one) (splitWords_ne_nil _ _)
  | case5 word c _ next more _ ih =>
      rw [ih one]
      simp

theorem lowerFrom_ne_nil (before : List Char) {cs : List Char} (nonempty : cs ≠ []) :
    Text.lowerFrom before cs ≠ [] := by
  have small (c : Char) : Text.lowerChar c ≠ [] := by
    rw [Text.lowerChar]
    split
    · exact List.cons_ne_nil _ _
    · split <;> exact List.cons_ne_nil _ _
  cases cs with
  | nil => exact absurd rfl nonempty
  | cons c rest =>
      rw [Text.lowerFrom]
      refine List.append_ne_nil_of_left_ne_nil ?_ _
      split
      · exact List.cons_ne_nil _ _
      · exact small c

/-- A name in snake case is not empty: it has a word, or an underscore between two. -/
theorem snakeCase_ne_empty {name : String} (nonempty : name ≠ "") : snakeCase name ≠ "" := by
  rw [snakeCase, if_neg (mt String.isEmpty_iff.1 nonempty)]
  cases words : splitWords [] name.toList with
  | nil => exact absurd words (splitWords_ne_nil _ _)
  | cons word more =>
      cases more with
      | nil =>
          obtain rfl := eq_of_splitWords words
          have word : Text.lower name ≠ "" := by
            rw [Text.lower, ne_eq, String.ofList_eq_empty_iff]
            exact lowerFrom_ne_nil [] (mt String.toList_eq_nil_iff.1 nonempty)
          simpa using word
      | cons second more =>
          rw [List.map_cons, List.map_cons, String.intercalate_cons_cons]
          simp

/-- A plural goes on after the noun, or the noun ends with `y` and the plural with `ies`. -/
theorem plural_cases (word : String) :
    (plural word).toList = word.toList ++ ['s'] ∨
    ((∃ ending ∈ sibilants, ending <:+ word.toList) ∧
      (plural word).toList = word.toList ++ ['e', 's']) ∨
    ∃ stem, word.toList = stem ++ ['y'] ∧ (plural word).toList = stem ++ ['i', 'e', 's'] := by
  rw [plural]
  split
  · next ends =>
    obtain ⟨stem, split⟩ := List.getLast?_eq_some_iff.1 ends.1
    refine .inr (.inr ⟨stem, split, ?_⟩)
    rw [String.toList_ofList, split, List.dropLast_concat]
  · split
    · next ends =>
      obtain ⟨ending, mem, suffix⟩ := List.any_eq_true.1 ends
      exact .inr (.inl ⟨⟨ending, mem, List.isSuffixOf_iff_suffix.1 suffix⟩, String.toList_append⟩)
    · exact .inl String.toList_append

/-- A plural that is nothing but an ending comes from one of four nouns. -/
theorem of_plural_eq_ending (word : String) (bare : plural word ∈ ["s", "es", "ies"]) :
    (plural word, word) ∈ [("s", ""), ("es", "e"), ("ies", "ie"), ("ies", "y")] := by
  have found (ending noun : String) (text : (plural word).toList = ending.toList)
      (stem : word.toList = noun.toList)
      (mem : (ending, noun) ∈ [("s", ""), ("es", "e"), ("ies", "ie"), ("ies", "y")]) :
      (plural word, word) ∈ [("s", ""), ("es", "e"), ("ies", "ie"), ("ies", "y")] := by
    rwa [String.toList_inj.1 text, String.toList_inj.1 stem]
  have spelled : (plural word).toList = ['s'] ∨ (plural word).toList = ['e', 's'] ∨
      (plural word).toList = ['i', 'e', 's'] := by
    simpa using List.mem_map_of_mem (f := String.toList) bare
  obtain text | ⟨hisses, text⟩ | ⟨stem, split, text⟩ := plural_cases word
  · have noun : word.toList = (plural word).toList.dropLast := by rw [text, List.dropLast_concat]
    obtain s | es | ies := spelled
    · exact found "s" "" s (noun.trans (congrArg List.dropLast s)) (by decide)
    · exact found "es" "e" es (noun.trans (congrArg List.dropLast es)) (by decide)
    · exact found "ies" "ie" ies (noun.trans (congrArg List.dropLast ies)) (by decide)
  · -- What stands before `es` is empty or a single vowel, and so it does not end in a sibilant.
    have short : word.toList = [] ∨ word.toList = ['i'] := by
      obtain s | es | ies := spelled
      · have length := congrArg List.length (s.symm.trans text)
        simp at length
      · exact .inl (List.append_cancel_right (text.symm.trans es))
      · exact .inr (List.append_cancel_right (text.symm.trans ies : _ = ['i'] ++ ['e', 's']))
    obtain empty | vowel := short
    · rw [empty] at hisses
      exact absurd hisses (by decide)
    · rw [vowel] at hisses
      exact absurd hisses (by decide)
  · obtain s | es | ies := spelled
    · have length := congrArg List.length (s.symm.trans text)
      simp at length
    · have length := congrArg List.length (es.symm.trans text)
      simp at length
    · have nothing : stem = [] := List.append_cancel_right (text.symm.trans ies)
      rw [nothing] at split
      exact found "ies" "y" ies split (by decide)

theorem plural_eq_s_iff (word : String) : plural word = "s" ↔ word = "" := by
  constructor
  · intro s
    have noun := of_plural_eq_ending word (by simp [s])
    simpa [s] using noun
  · rintro rfl
    rfl

theorem plural_mem_endings_iff (word : String) :
    plural word ∈ ["s", "es", "ies"] ↔ word ∈ ["", "e", "ie", "y"] := by
  constructor
  · intro bare
    exact List.mem_map_of_mem (f := Prod.snd) (of_plural_eq_ending word bare)
  · have all : ∀ word ∈ ["", "e", "ie", "y"], plural word ∈ ["s", "es", "ies"] := by decide
    exact all word

/-- A type that is not declared in an implementation has the table of its bare name, the plural of
the name in snake case, whatever its modules and its arguments are. Every type that is declared in
an implementation has the table `s`, which is not the one of its bare name. The table is called by
an ending of plurals for the latter, and otherwise exactly for the names that are `e`, `ie` or `y`
in snake case. -/
theorem tableName_typePath (p : TypePath) :
    tableName p.name.text = plural (snakeCase p.name.text) ∧
    tableName p.text = (if p.isLocal then "s" else tableName p.name.text) ∧
    (tableName p.text = tableName p.name.text ↔ p.isLocal = false) ∧
    (tableName p.text ∈ ["s", "es", "ies"] ↔
      p.isLocal = true ∨ snakeCase p.name.text ∈ ["e", "ie", "y"]) := by
  have bare : tableName p.name.text = plural (snakeCase p.name.text) := by
    rw [tableName, p.name.baseName_text]
  have worded : snakeCase p.name.text ≠ "" := snakeCase_ne_empty p.name.nonempty
  have table : tableName p.text = if p.isLocal then "s" else tableName p.name.text := by
    rw [tableName, p.baseName_text, bare]
    split <;> rfl
  refine ⟨bare, table, ?_, ?_⟩
  · cases place : p.isLocal with
    | true =>
        have other : "s" ≠ plural (snakeCase p.name.text) := fun same =>
          worded ((plural_eq_s_iff _).1 same.symm)
        simp [table, place, bare, other]
    | false => simp [table, place]
  · cases place : p.isLocal with
    | true => simp [table, place]
    | false =>
        rw [table, place, if_neg Bool.false_ne_true, bare, plural_mem_endings_iff, List.mem_cons,
          or_iff_right worded]
        simp

/-- The type `Local` in a function of an implementation. -/
def makeLocal (outer : List Segment) : TypePath where
  outer := outer ++ [.named ⟨"make", by decide, by decide, by decide⟩]
  name := ⟨"Local", by decide, by decide, by decide⟩
  arguments := none

/-- Two such types share a table, and it is not that of the bare name. A name of one letter can be
replaced by an ending altogether. -/
theorem local_types_share_table :
    (makeLocal [.bracketed "app::X as app::T"]).text = "<app::X as app::T>::make::Local" ∧
    tableName "<app::X as app::T>::make::Local" = "s" ∧
    (makeLocal [.named ⟨"app", by decide, by decide, by decide⟩,
      .bracketed "impl app::T for app::X"]).text = "app::<impl app::T for app::X>::make::Local" ∧
    tableName "app::<impl app::T for app::X>::make::Local" = "s" ∧
    tableName "Local" = "locals" ∧
    tableName "names::Y" = "ies" := by
  decide +kernel

end LiveRecord.Naming
