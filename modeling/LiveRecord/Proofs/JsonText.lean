import LiveRecord.Json.Parser
import LiveRecord.Json.Printer
import Mathlib.Data.List.Basic
import Mathlib.Data.List.TakeWhile

/-!
# Reading back JSON text

The compact text of a document is read back as the same document, with the members of its objects
in their order, unless it is nested too deep. Its numbers have to be integers: a binary64 number is
computed from its digits in binary64 arithmetic and need not come back.

Each token is read before any continuation: a character from its escape, a string, a numeral. The
main lemma `readValue_text` is by recursion on the tree, together with its versions for items and
members. It asks for as much fuel as the text is long.
-/

namespace LiveRecord

namespace Text

/-- Only zero begins with a zero. -/
theorem eq_zero_of_head?_natDigits {n : Nat} (h : (natDigits n).head? = some '0') : n = 0 := by
  induction n using Nat.strongRecOn with
  | ind n ih =>
      by_cases small : n < 10
      · rw [natDigits, Nat.toDigits_of_lt_base small, List.head?_cons, Option.some.injEq] at h
        exact (by decide : ∀ k < 10, Nat.digitChar k = '0' → k = 0) n small h
      · have leading : (natDigits n).head? = (natDigits (n / 10)).head? := by
          rw [natDigits, Nat.toDigits_of_base_le (by decide) (Nat.le_of_not_lt small),
            List.head?_append_of_ne_nil _ Nat.toDigits_ne_nil, natDigits]
        have short := ih (n / 10) (by omega) (leading ▸ h)
        omega

end Text

namespace Json

/-! ## Strings -/

theorem hexValue?_hexDigit : ∀ k < 16, hexValue? (hexDigit k) = some k := by decide

/-- A control character is read from its code. -/
theorem readUnicode_hexDigits {c : Char} (small : c.toNat < 0x20) (rest : List Char) :
    readUnicode ('0' :: '0' :: hexDigit (c.toNat / 16) :: hexDigit (c.toNat % 16) :: rest) =
      .ok (c, rest) := by
  have high := hexValue?_hexDigit (c.toNat / 16) (by omega)
  have low := hexValue?_hexDigit (c.toNat % 16) (by omega)
  have zero : hexValue? '0' = some 0 := by decide
  have code : ((0 * 16 + 0) * 16 + c.toNat / 16) * 16 + c.toNat % 16 = c.toNat := by omega
  simp only [readUnicode, readHex, zero, high, low, code, bind, Except.bind]
  rw [if_neg (by omega), if_neg (by omega), Char.ofNat_toNat]
  rfl

/-- A character is read as it has been spelled. -/
theorem readChars_escape (c : Char) (fuel : Nat) (rest : List Char) :
    readChars (fuel + 1) (escape c ++ rest) =
      (readChars fuel rest).map fun read => (c :: read.1, read.2) := by
  have escaped (decoded : Char) (spelling : List Char)
      (h : readEscape (spelling ++ rest) = .ok (decoded, rest)) :
      readChars (fuel + 1) ('\\' :: spelling ++ rest) =
        (readChars fuel rest).map fun read => (decoded :: read.1, read.2) := by
    rw [List.cons_append, readChars, if_neg (by decide), if_pos rfl, h]
    rfl
  unfold escape
  split
  · next same => exact same ▸ escaped '"' ['"'] rfl
  split
  · next same => exact same ▸ escaped '\\' ['\\'] rfl
  split
  · next same => exact same ▸ escaped '\n' ['n'] rfl
  split
  · next same => exact same ▸ escaped '\r' ['r'] rfl
  split
  · next same => exact same ▸ escaped '\t' ['t'] rfl
  split
  · next same => exact same ▸ escaped '\x08' ['b'] rfl
  split
  · next same => exact same ▸ escaped '\x0c' ['f'] rfl
  split
  · next small => exact escaped c _ (readUnicode_hexDigits small rest)
  · next quote slash _ _ _ _ _ large =>
    rw [List.singleton_append, readChars, if_neg quote, if_neg slash, if_neg large]
    rfl

theorem readChars_flatMap_escape (cs : List Char) {fuel : Nat} (enough : cs.length < fuel)
    (rest : List Char) :
    readChars fuel (cs.flatMap escape ++ '"' :: rest) = .ok (cs, rest) := by
  induction cs generalizing fuel with
  | nil =>
      obtain ⟨fuel, rfl⟩ := Nat.exists_eq_succ_of_ne_zero (Nat.ne_of_gt enough)
      rfl
  | cons c cs ih =>
      obtain ⟨fuel, rfl⟩ := Nat.exists_eq_succ_of_ne_zero (Nat.ne_zero_of_lt enough)
      rw [List.flatMap_cons, List.append_assoc, readChars_escape,
        ih (Nat.lt_of_succ_lt_succ enough)]
      rfl

theorem escape_ne_nil (c : Char) : escape c ≠ [] := by
  unfold escape
  repeat' split
  all_goals exact List.cons_ne_nil _ _

theorem length_le_flatMap_escape (cs : List Char) : cs.length ≤ (cs.flatMap escape).length := by
  induction cs with
  | nil => exact Nat.le_refl 0
  | cons c cs ih =>
      have := List.length_pos_iff.2 (escape_ne_nil c)
      rw [List.flatMap_cons, List.length_append, List.length_cons]
      omega

theorem readString_quoted (s : String) (rest : List Char) :
    readString (quoted s ++ rest) = .ok (s, rest) := by
  have enough := length_le_flatMap_escape s.toList
  rw [quoted, List.cons_append, List.append_assoc, List.singleton_append, readString,
    readChars_flatMap_escape]
  · exact congrArg (fun s => Except.ok (s, rest)) String.ofList_toList
  · simp only [List.length_append, List.length_cons]
    omega

/-! ## Numerals -/

/-- Does the text not go on with a numeral? -/
def EndsNumeral (rest : List Char) : Prop :=
  ∀ c ∈ rest.head?, c.isDigit = false ∧ c ≠ '.' ∧ c ≠ 'e' ∧ c ≠ 'E'

theorem EndsNumeral.spanDigits {rest digits : List Char} (ends : EndsNumeral rest)
    (all : ∀ c ∈ digits, c.isDigit = true) :
    Decimal.spanDigits (digits ++ rest) = (digits, rest) := by
  have stops : rest.takeWhile Char.isDigit = [] ∧ rest.dropWhile Char.isDigit = rest := by
    cases rest with
    | nil => exact ⟨rfl, rfl⟩
    | cons c more =>
        have other := (ends c rfl).1
        exact ⟨List.takeWhile_cons_of_neg (by simp [other]),
          List.dropWhile_cons_of_neg (by simp [other])⟩
  rw [Decimal.spanDigits, List.takeWhile_append_of_pos all, List.dropWhile_append_of_pos all,
    stops.1, stops.2, List.append_nil]

/-- Digits that begin with no superfluous zero are read as a numeral, with a sign or without. -/
theorem Numeral.read_integerText (n : Int) {rest : List Char} (ends : EndsNumeral rest) :
    read (integerText n ++ rest) =
      .ok (⟨decide (n < 0), Text.natDigits n.natAbs, none, none⟩, rest) := by
  have all : ∀ c ∈ Text.natDigits n.natAbs, c.isDigit = true :=
    fun c => Text.isDigit_of_mem_natDigits
  have leading : ¬ ((Text.natDigits n.natAbs).length > 1 ∧
      (Text.natDigits n.natAbs).head? = some '0') := by
    rintro ⟨long, zero⟩
    rw [Text.eq_zero_of_head?_natDigits zero] at long
    exact absurd long (by decide)
  have some_digit : Text.natDigits n.natAbs ≠ [] := Nat.toDigits_ne_nil
  have span := ends.spanDigits all
  have unsigned : ∀ more, Text.natDigits n.natAbs ++ rest = '-' :: more → False := by
    intro more sign
    cases digits : Text.natDigits n.natAbs with
    | nil => exact some_digit digits
    | cons d ds =>
        rw [digits, List.cons_append, List.cons.injEq] at sign
        exact absurd (sign.1 ▸ all d (digits ▸ List.mem_cons_self)) (by decide)
  unfold read integerText
  by_cases neg : n < 0 <;>
    simp only [neg, if_true, if_false, List.cons_append, span, List.isEmpty_iff, some_digit,
      leading, bind, Except.bind, pure, Except.pure, decide_true, decide_false]
  -- Behind the digits there is neither a fraction nor an exponent.
  all_goals
    split
    · exact absurd rfl (ends '.' rfl).2.1
    · split
      · exact absurd rfl (ends 'e' rfl).2.2.1
      · exact absurd rfl (ends 'E' rfl).2.2.2
      · rfl

theorem Numeral.value_integerText (n : Integer) :
    (Numeral.mk (decide (n.val < 0)) (Text.natDigits n.val.natAbs) none none).value =
      .ok (.integer n) := by
  have magnitude : (if decide (n.val < 0) = true then -(n.val.natAbs : Int) else n.val.natAbs) =
      n.val := by
    split
    · next negative =>
      have := of_decide_eq_true negative
      omega
    · next positive =>
      have : ¬ n.val < 0 := by simpa using positive
      omega
  have exact : (decide (n.val < 0) && n.val.natAbs == 0) = false := by
    cases zero : n.val.natAbs == 0 with
    | false => exact Bool.and_false _
    | true =>
        have := Int.natAbs_eq_zero.1 (eq_of_beq zero)
        simp [this]
  have fits : Integer.ofInt? n.val = some n := dif_pos ⟨n.least_le, n.lt_bound⟩
  simp only [Numeral.value, Text.digitsValue_natDigits, Option.isSome_none, Bool.false_or, exact,
    magnitude, Bool.false_eq_true, if_false, fits]

/-! ## Trees -/

mutual

/-- How deep arrays and objects are nested in the tree. -/
def depth : Json → Nat
  | .null | .bool _ | .num _ | .str _ => 0
  | .arr items => itemsDepth items + 1
  | .obj members => membersDepth members + 1

/-- The greatest depth of a list of trees. -/
def itemsDepth : List Json → Nat
  | [] => 0
  | item :: rest => max (depth item) (itemsDepth rest)

/-- The greatest depth of the values of members. -/
def membersDepth : List (String × Json) → Nat
  | [] => 0
  | (_, value) :: rest => max (depth value) (membersDepth rest)

end

mutual

/-- Is every number of the tree an integer? -/
def RealFree : Json → Prop
  | .null | .bool _ | .num (.integer _) | .str _ => True
  | .num (.real _) => False
  | .arr items => ItemsRealFree items
  | .obj members => MembersRealFree members

/-- `RealFree` for all trees of a list. -/
def ItemsRealFree : List Json → Prop
  | [] => True
  | item :: rest => RealFree item ∧ ItemsRealFree rest

/-- `RealFree` for the values of all members. -/
def MembersRealFree : List (String × Json) → Prop
  | [] => True
  | (_, value) :: rest => RealFree value ∧ MembersRealFree rest

end

theorem skipSpace_cons {c : Char} (visible : isSpace c = false) (rest : List Char) :
    skipSpace (c :: rest) = c :: rest :=
  List.dropWhile_cons_of_neg (by simp [visible])

/-- The text of an integer begins with a sign or a digit. -/
theorem exists_integerText_eq_cons (n : Int) :
    ∃ c cs, integerText n = c :: cs ∧ (c = '-' ∨ c.isDigit = true) := by
  rw [integerText]
  split
  · exact ⟨_, _, rfl, .inl rfl⟩
  · cases digits : Text.natDigits n.natAbs with
    | nil => exact absurd digits Nat.toDigits_ne_nil
    | cons d ds =>
        exact ⟨d, ds, rfl, .inr (Text.isDigit_of_mem_natDigits (digits ▸ List.mem_cons_self))⟩

theorem ne_of_numeral {c : Char} (start : c = '-' ∨ c.isDigit = true) (other : Char)
    (sign : other ≠ '-') (digit : other.isDigit = false) : c ≠ other := by
  rintro rfl
  rcases start with minus | is_digit
  · exact sign minus
  · rw [digit] at is_digit
    cases is_digit

/-- A tree is not taken for a blank or the end of an array. -/
theorem exists_text_eq_cons {j : Json} (free : j.RealFree) :
    ∃ c cs, j.text = c :: cs ∧ isSpace c = false ∧ c ≠ ']' := by
  cases j with
  | null => exact ⟨_, _, rfl, rfl, by decide⟩
  | bool b => cases b <;> exact ⟨_, _, rfl, rfl, by decide⟩
  | num n =>
      cases n with
      | real x => exact absurd free (by simp [RealFree])
      | integer n =>
          obtain ⟨c, cs, split, start⟩ := exists_integerText_eq_cons n.val
          have other {x : Char} := ne_of_numeral start x
          refine ⟨c, cs, split, ?_, other (by decide) (by decide)⟩
          simp only [isSpace, Bool.or_eq_false_iff, beq_eq_false_iff_ne]
          exact ⟨⟨⟨other (by decide) (by decide), other (by decide) (by decide)⟩,
            other (by decide) (by decide)⟩, other (by decide) (by decide)⟩
  | str s => exact ⟨_, _, rfl, rfl, by decide⟩
  | arr items => exact ⟨_, _, rfl, rfl, by decide⟩
  | obj members => exact ⟨_, _, rfl, rfl, by decide⟩

theorem readValue_integerText (n : Integer) (fuel depth : Nat) {rest : List Char}
    (ends : EndsNumeral rest) :
    readValue (fuel + 1) depth (integerText n.val ++ rest) = .ok (.num (.integer n), rest) := by
  have read := Numeral.read_integerText n.val ends
  obtain ⟨c, cs, split, start⟩ := exists_integerText_eq_cons n.val
  rw [split, List.cons_append] at read ⊢
  have other {x : Char} := ne_of_numeral start x
  rw [readValue.eq_def]
  dsimp only
  rw [if_neg (other (by decide) (by decide)), if_neg (other (by decide) (by decide)),
    if_neg (other (by decide) (by decide)), if_neg (other (by decide) (by decide)),
    if_neg (other (by decide) (by decide)), if_neg (other (by decide) (by decide)), if_pos start,
    read]
  simp only [bind, Except.bind, Numeral.value_integerText]
  rfl

theorem readValue_quoted (s : String) (fuel depth : Nat) (rest : List Char) :
    readValue (fuel + 1) depth (quoted s ++ rest) = .ok (.str s, rest) := by
  have read := readString_quoted s rest
  rw [quoted, List.cons_append] at read ⊢
  rw [readValue.eq_def]
  dsimp only
  rw [if_pos rfl, read]
  rfl

/-- What stands behind a value in an array or an object ends a numeral. -/
theorem endsNumeral_cons {c : Char} (stops : c = ']' ∨ c = ',' ∨ c = '\x7d') (rest : List Char) :
    EndsNumeral (c :: rest) := by
  rintro _ ⟨⟩
  rcases stops with rfl | rfl | rfl <;> decide

theorem skipSpace_text {j : Json} (free : j.RealFree) (rest : List Char) :
    skipSpace (j.text ++ rest) = j.text ++ rest := by
  obtain ⟨c, cs, split, visible, -⟩ := exists_text_eq_cons free
  rw [split, List.cons_append, skipSpace_cons visible]

/-- The items begin as the first of them does. -/
theorem exists_itemsText_eq (item : Json) (items : List Json) :
    ∃ more, itemsText (item :: items) = item.text ++ more := by
  cases items with
  | nil => exact ⟨_, rfl⟩
  | cons next more => exact ⟨_, rfl⟩

theorem skipSpace_itemsText {item : Json} (free : item.RealFree) (items : List Json)
    (rest : List Char) :
    skipSpace (itemsText (item :: items) ++ rest) = itemsText (item :: items) ++ rest := by
  obtain ⟨more, split⟩ := exists_itemsText_eq item items
  rw [split, List.append_assoc, skipSpace_text free]

theorem itemsText_cons (item next : Json) (more : List Json) :
    itemsText (item :: next :: more) = item.text ++ ',' :: itemsText (next :: more) := rfl

theorem membersText_cons (key : String) (value : Json) (next : String × Json)
    (more : List (String × Json)) : membersText ((key, value) :: next :: more) =
      quoted key ++ ':' :: (value.text ++ ',' :: membersText (next :: more)) := rfl

theorem exists_membersText_eq (member : String × Json) (members : List (String × Json)) :
    ∃ cs, membersText (member :: members) = '"' :: cs := by
  cases members with
  | nil => exact ⟨_, rfl⟩
  | cons next more => exact ⟨_, rfl⟩

theorem skipSpace_membersText (member : String × Json) (members : List (String × Json))
    (rest : List Char) :
    skipSpace (membersText (member :: members) ++ rest) =
      membersText (member :: members) ++ rest := by
  obtain ⟨cs, split⟩ := exists_membersText_eq member members
  rw [split, List.cons_append, skipSpace_cons (by decide)]

/-! ### The steps of reading a tree -/

section Steps

variable {fuel d : Nat} {cs rest : List Char} {key : String} {value : Json} {e : ParseError}

theorem readValue_bracket (visible : skipSpace cs = cs) (items : cs.head? ≠ some ']') :
    readValue (fuel + 1) (d + 1) ('[' :: cs) =
      (readItems fuel d cs).map fun read => (.arr read.1, read.2) := by
  rw [readValue.eq_def]
  dsimp only
  rw [if_neg (by decide), if_pos rfl, visible]
  split
  · exact absurd rfl items
  · rfl

theorem readValue_brace (visible : skipSpace cs = cs) (members : cs.head? ≠ some '\x7d') :
    readValue (fuel + 1) (d + 1) ('\x7b' :: cs) =
      (readMembers fuel d cs).map fun read => (.obj read.1, read.2) := by
  rw [readValue.eq_def]
  dsimp only
  rw [if_neg (by decide), if_neg (by decide), if_pos rfl, visible]
  split
  · exact absurd rfl members
  · rfl

theorem readItems_error (read : readValue fuel d cs = .error e) :
    readItems (fuel + 1) d cs = .error e := by
  rw [readItems.eq_def]
  dsimp only
  rw [read]
  rfl

theorem readItems_last (read : readValue fuel d cs = .ok (value, ']' :: rest)) :
    readItems (fuel + 1) d cs = .ok ([value], rest) := by
  rw [readItems.eq_def]
  dsimp only
  rw [read]
  rfl

theorem readItems_next (read : readValue fuel d cs = .ok (value, ',' :: rest))
    (visible : skipSpace rest = rest) : readItems (fuel + 1) d cs =
      (readItems fuel d rest).map fun read => (value :: read.1, read.2) := by
  rw [readItems.eq_def]
  dsimp only
  rw [read]
  change (readItems fuel d (skipSpace rest)).bind _ = _
  rw [visible]
  rfl

theorem readMembers_colon (visible : skipSpace cs = cs) :
    readMembers (fuel + 1) d (quoted key ++ ':' :: cs) = (readValue fuel d cs).bind fun read =>
      match skipSpace read.2 with
      | '\x7d' :: rest => .ok ([(key, read.1)], rest)
      | ',' :: rest => (readMembers fuel d (skipSpace rest)).map fun more =>
          ((key, read.1) :: more.1, more.2)
      | c :: _ => .error (.unexpected c)
      | [] => .error .unexpectedEnd := by
  rw [readMembers.eq_def]
  dsimp only
  rw [readString_quoted]
  change (readValue fuel d (skipSpace cs)).bind _ = _
  rw [visible]
  rfl

theorem readMembers_error (visible : skipSpace cs = cs) (read : readValue fuel d cs = .error e) :
    readMembers (fuel + 1) d (quoted key ++ ':' :: cs) = .error e := by
  rw [readMembers_colon visible, read]
  rfl

theorem readMembers_last (visible : skipSpace cs = cs)
    (read : readValue fuel d cs = .ok (value, '\x7d' :: rest)) :
    readMembers (fuel + 1) d (quoted key ++ ':' :: cs) = .ok ([(key, value)], rest) := by
  rw [readMembers_colon visible, read]
  rfl

theorem readMembers_next (visible : skipSpace cs = cs)
    (read : readValue fuel d cs = .ok (value, ',' :: rest)) (visible' : skipSpace rest = rest) :
    readMembers (fuel + 1) d (quoted key ++ ':' :: cs) =
      (readMembers fuel d rest).map fun read => ((key, value) :: read.1, read.2) := by
  rw [readMembers_colon visible, read]
  change (readMembers fuel d (skipSpace rest)).map _ = _
  rw [visible']

end Steps

mutual

/-- The text of a tree is read back, unless the tree is too deep. -/
theorem readValue_text : ∀ (j : Json), j.RealFree → ∀ (fuel d : Nat) (rest : List Char),
    j.text.length ≤ fuel → EndsNumeral rest →
      readValue fuel d (j.text ++ rest) =
        if j.depth ≤ d then .ok (j, rest) else .error .tooDeep
  | .null, _, fuel + 1, d, rest, _, _ => by
      rw [depth, if_pos (Nat.zero_le _)]
      rfl
  | .bool b, _, fuel + 1, d, rest, _, _ => by
      rw [depth, if_pos (Nat.zero_le _)]
      cases b <;> rfl
  | .num (.integer n), _, fuel + 1, d, rest, _, ends => by
      rw [depth, if_pos (Nat.zero_le _)]
      exact readValue_integerText n fuel d ends
  | .str s, _, fuel + 1, d, rest, _, _ => by
      rw [depth, if_pos (Nat.zero_le _)]
      exact readValue_quoted s fuel d rest
  | .arr items, _, fuel + 1, 0, rest, _, _ => by
      rw [depth, if_neg (Nat.not_succ_le_zero _)]
      rfl
  | .obj members, _, fuel + 1, 0, rest, _, _ => by
      rw [depth, if_neg (Nat.not_succ_le_zero _)]
      rfl
  | .arr [], _, fuel + 1, d + 1, rest, _, _ => rfl
  | .obj [], _, fuel + 1, d + 1, rest, _, _ => rfl
  | .arr (item :: items), free, fuel + 1, d + 1, rest, enough, _ => by
      have items_begin : (itemsText (item :: items) ++ rest).head? ≠ some ']' := by
        obtain ⟨more, first⟩ := exists_itemsText_eq item items
        obtain ⟨c, cs, split, -, other⟩ := exists_text_eq_cons free.1
        rw [first, split]
        exact fun same => other (Option.some.inj same)
      rw [depth, text, List.cons_append, readValue_bracket (skipSpace_itemsText free.1 items rest)
        items_begin, readItems_text (item :: items) (List.cons_ne_nil _ _) free fuel d rest
        (Nat.le_of_succ_le_succ enough)]
      simp only [Nat.succ_le_succ_iff]
      split <;> rfl
  | .obj (member :: members), free, fuel + 1, d + 1, rest, enough, _ => by
      have members_begin : (membersText (member :: members) ++ rest).head? ≠ some '\x7d' := by
        obtain ⟨cs, split⟩ := exists_membersText_eq member members
        rw [split]
        exact fun same => absurd (Option.some.inj same) (by decide)
      rw [depth, text, List.cons_append, readValue_brace (skipSpace_membersText member members rest)
        members_begin, readMembers_text (member :: members) (List.cons_ne_nil _ _) free fuel d rest
        (Nat.le_of_succ_le_succ enough)]
      simp only [Nat.succ_le_succ_iff]
      split <;> rfl
  -- No text is empty, so there is always fuel.
  | j, free, 0, _, _, enough, _ => by
      obtain ⟨c, cs, split, -⟩ := exists_text_eq_cons free
      rw [split] at enough
      cases enough

theorem readItems_text : ∀ (items : List Json), items ≠ [] → ItemsRealFree items →
    ∀ (fuel d : Nat) (rest : List Char), (itemsText items).length ≤ fuel →
      readItems fuel d (itemsText items ++ rest) =
        if itemsDepth items ≤ d then .ok (items, rest) else .error .tooDeep
  | [item], _, free, fuel + 1, d, rest, enough => by
      rw [itemsText, List.length_append, List.length_singleton] at enough
      have read := readValue_text item free.1 fuel d (']' :: rest) (by omega)
        (endsNumeral_cons (.inl rfl) rest)
      rw [itemsText, List.append_assoc, List.singleton_append]
      simp only [itemsDepth, Nat.max_zero]
      by_cases fits : item.depth ≤ d
      · rw [if_pos fits] at read ⊢
        exact readItems_last read
      · rw [if_neg fits] at read ⊢
        exact readItems_error read
  | item :: next :: more, _, free, fuel + 1, d, rest, enough => by
      rw [itemsText_cons, List.length_append, List.length_cons] at enough
      have read := readValue_text item free.1 fuel d (',' :: (itemsText (next :: more) ++ rest))
        (by omega) (endsNumeral_cons (.inr (.inl rfl)) _)
      have others := readItems_text (next :: more) (List.cons_ne_nil _ _) free.2 fuel d rest
        (by omega)
      rw [itemsText_cons, List.append_assoc, List.cons_append]
      rw [itemsDepth]
      by_cases fits : item.depth ≤ d
      · rw [if_pos fits] at read
        rw [readItems_next read (skipSpace_itemsText free.2.1 more rest), others]
        by_cases more_fit : itemsDepth (next :: more) ≤ d
        · rw [if_pos more_fit, if_pos (Nat.max_le.2 ⟨fits, more_fit⟩)]
          rfl
        · rw [if_neg more_fit, if_neg fun both => more_fit (Nat.max_le.1 both).2]
          rfl
      · rw [if_neg fits] at read
        rw [readItems_error read, if_neg fun both => fits (Nat.max_le.1 both).1]
  | item :: items, _, free, 0, _, _, enough => by
      obtain ⟨more, first⟩ := exists_itemsText_eq item items
      obtain ⟨c, cs, split, -⟩ := exists_text_eq_cons free.1
      rw [first, split] at enough
      cases enough

theorem readMembers_text : ∀ (members : List (String × Json)), members ≠ [] →
    MembersRealFree members → ∀ (fuel d : Nat) (rest : List Char),
      (membersText members).length ≤ fuel →
        readMembers fuel d (membersText members ++ rest) =
          if membersDepth members ≤ d then .ok (members, rest) else .error .tooDeep
  | [(key, value)], _, free, fuel + 1, d, rest, enough => by
      rw [membersText, List.length_append, List.length_cons, List.length_append,
        List.length_singleton] at enough
      have read := readValue_text value free.1 fuel d ('\x7d' :: rest) (by omega)
        (endsNumeral_cons (.inr (.inr rfl)) rest)
      have visible := skipSpace_text free.1 ('\x7d' :: rest)
      rw [membersText, List.append_assoc, List.cons_append, List.append_assoc,
        List.singleton_append]
      simp only [membersDepth, Nat.max_zero]
      by_cases fits : value.depth ≤ d
      · rw [if_pos fits] at read ⊢
        exact readMembers_last visible read
      · rw [if_neg fits] at read ⊢
        exact readMembers_error visible read
  | (key, value) :: next :: more, _, free, fuel + 1, d, rest, enough => by
      rw [membersText_cons, List.length_append, List.length_cons, List.length_append,
        List.length_cons] at enough
      have read := readValue_text value free.1 fuel d
        (',' :: (membersText (next :: more) ++ rest)) (by omega)
        (endsNumeral_cons (.inr (.inl rfl)) _)
      have others := readMembers_text (next :: more) (List.cons_ne_nil _ _) free.2 fuel d rest
        (by omega)
      have visible := skipSpace_text free.1 (',' :: (membersText (next :: more) ++ rest))
      rw [membersText_cons, List.append_assoc, List.cons_append, List.append_assoc,
        List.cons_append, membersDepth]
      by_cases fits : value.depth ≤ d
      · rw [if_pos fits] at read
        rw [readMembers_next visible read (skipSpace_membersText next more rest), others]
        by_cases more_fit : membersDepth (next :: more) ≤ d
        · rw [if_pos more_fit, if_pos (Nat.max_le.2 ⟨fits, more_fit⟩)]
          rfl
        · rw [if_neg more_fit, if_neg fun both => more_fit (Nat.max_le.1 both).2]
          rfl
      · rw [if_neg fits] at read
        rw [readMembers_error visible read, if_neg fun both => fits (Nat.max_le.1 both).1]
  | member :: members, _, _, 0, _, _, enough => by
      obtain ⟨cs, split⟩ := exists_membersText_eq member members
      rw [split] at enough
      cases enough

end

/-! ## Documents -/

mutual

/-- Distinct keys need no merging. -/
theorem merged_of_keysDistinct : ∀ {j : Json}, j.KeysDistinct → j.merged = j
  | .null, _ | .bool _, _ | .num _, _ | .str _, _ => rfl
  | .arr items, distinct => by
      rw [merged, mergedItems_of_itemsDistinct distinct]
  | .obj members, distinct => by
      rw [merged, mergedMembers_of_membersDistinct [] distinct.1 distinct.2, List.nil_append]

theorem mergedItems_of_itemsDistinct : ∀ {items : List Json}, ItemsDistinct items →
    mergedItems items = items
  | [], _ => rfl
  | item :: rest, distinct => by
      rw [mergedItems, merged_of_keysDistinct distinct.1, mergedItems_of_itemsDistinct distinct.2]

theorem mergedMembers_of_membersDistinct : ∀ (seen : List (String × Json))
    {members : List (String × Json)}, (Entries.keys (seen ++ members)).Nodup →
      MembersDistinct members → mergedMembers seen members = seen ++ members
  | seen, [], _, _ => (List.append_nil seen).symm
  | seen, (key, value) :: rest, nodup, distinct => by
      have fresh : key ∉ Entries.keys seen := by
        rw [Entries.keys, List.map_append, List.map_cons] at nodup
        exact fun mem => (List.nodup_append.1 nodup).2.2 key mem key List.mem_cons_self rfl
      have split : seen ++ (key, value) :: rest = (seen ++ [(key, value)]) ++ rest := by simp
      rw [mergedMembers, merged_of_keysDistinct distinct.1, Entries.assign_of_not_mem fresh, split]
      exact mergedMembers_of_membersDistinct _ (split ▸ nodup) distinct.2

end

/-- The text of a document without binary64 numbers is read back as the document, unless it is
nested too deep. -/
theorem Document.parse_print {d : Document} (free : d.root.RealFree) :
    Document.parse d.print = if d.root.depth ≤ maxDepth then .ok d else .error .tooDeep := by
  have ends : EndsNumeral [] := by
    rintro c ⟨⟩
  have visible := skipSpace_text free []
  have read := readValue_text d.root free (2 * d.root.text.length + 1) maxDepth [] (by omega) ends
  rw [List.append_nil] at visible read
  rw [parse, print, String.toList_ofList, parseTree, visible, read]
  by_cases shallow : d.root.depth ≤ maxDepth
  · rw [if_pos shallow, if_pos shallow]
    exact congrArg Except.ok (Document.ext (merged_of_keysDistinct d.distinct))
  · rw [if_neg shallow, if_neg shallow]
    rfl

end Json

end LiveRecord
