import LiveRecord.Sql.Rendering

/-!
# The places of parameters in a text

A database finds the places of parameters by reading the text of a statement: outside quotes a mark
begins a place, and in a dialect with numbered places digits follow it. Such a reader is defined here
and run on the text of every statement. The pieces of a statement are inert, that is, no text in them
is taken for a place, whatever the names are; so the reader finds exactly the places that the
renderer has made, and their numbers are the only thing that depends on where in a statement a piece
stands.
-/

namespace LiveRecord.Sql

/-- The character that begins a place. -/
def Dialect.mark (dialect : Dialect) : Char := if dialect.numbersPlaces then '$' else '?'

/-- Where a reader is: outside quotes, in quotes, or in the number of a place. -/
inductive Mode where
  | outside
  | quoted
  | numbered
  deriving DecidableEq

/-- What a reader takes a character for. -/
inductive Token where
  | plain (c : Char)
  /-- The beginning of a place. -/
  | mark (c : Char)
  /-- A digit in the number of a place. -/
  | digit (c : Char)
  deriving DecidableEq

/-- Read a character. A quote inside quotes is doubled, so that the reader leaves the quotes and
enters them again. -/
def Mode.read (dialect : Dialect) : Mode → Char → Token × Mode
  | .quoted, c => (.plain c, if c = dialect.quote then .outside else .quoted)
  | mode, c =>
    if c = dialect.quote then (.plain c, .quoted)
    else if c = dialect.mark then
      (.mark c, if dialect.numbersPlaces then .numbered else .outside)
    else if mode = .numbered ∧ c.isDigit then (.digit c, .numbered)
    else (.plain c, .outside)

/-- Read a text. -/
def tokens (dialect : Dialect) : Mode → List Char → List Token
  | _, [] => []
  | mode, c :: cs => (mode.read dialect c).1 :: tokens dialect (mode.read dialect c).2 cs

namespace Token

/-- Is the character a digit of a number? -/
def isDigit : Token → Bool
  | .digit _ => true
  | .plain _ | .mark _ => false

/-- The number that stands first. -/
def number : List Token → List Char
  | .digit c :: rest => c :: number rest
  | _ => []

/-- The spellings of the places. -/
def places : List Token → List (List Char)
  | [] => []
  | .mark c :: rest => (c :: number rest) :: places rest
  | .plain _ :: rest | .digit _ :: rest => places rest

end Token

/-- The places of a text, as they are spelled. -/
def placesOf (dialect : Dialect) (sql : List Char) : List (List Char) :=
  Token.places (tokens dialect .outside sql)

/-- What is left of a text without the numbers of its places. -/
def unnumbered (dialect : Dialect) (sql : List Char) : List Token :=
  (tokens dialect .outside sql).filter fun token => !token.isDigit

variable {dialect : Dialect}

/-- The number in a place, if places are numbered. -/
def placeNumber (dialect : Dialect) (number : Nat) : List Char :=
  if dialect.numbersPlaces then Text.natDigits number else []

theorem placeText_eq (dialect : Dialect) (number : Nat) :
    placeText dialect number = dialect.mark :: placeNumber dialect number := by
  cases dialect <;> rfl

/-- What a reader should take pieces for if their first place has the given number. -/
def tokensFrom (dialect : Dialect) (number : Nat) : List Piece → List Token
  | [] => []
  | .text cs :: rest => cs.map .plain ++ tokensFrom dialect number rest
  | .place _ :: rest => .mark dialect.mark ::
      ((placeNumber dialect number).map .digit ++ tokensFrom dialect (number + 1) rest)

namespace Token

theorem places_append_plain (cs : List Char) (rest : List Token) :
    places (cs.map .plain ++ rest) = places rest := by
  induction cs with
  | nil => rfl
  | cons c cs ih => exact ih

theorem places_append_digit (cs : List Char) (rest : List Token) :
    places (cs.map .digit ++ rest) = places rest := by
  induction cs with
  | nil => rfl
  | cons c cs ih => exact ih

theorem number_append_digit (cs : List Char) {rest : List Token} (ends : number rest = []) :
    number (cs.map .digit ++ rest) = cs := by
  induction cs with
  | nil => exact ends
  | cons c cs ih => exact congrArg (List.cons c) ih

/-- Pieces do not begin inside a number. -/
theorem number_tokensFrom (pieces : List Piece) (n : Nat) :
    number (tokensFrom dialect n pieces) = [] := by
  induction pieces with
  | nil => rfl
  | cons piece rest ih =>
      cases piece with
      | place bound => rfl
      | text cs =>
          cases cs with
          | nil => exact ih
          | cons c cs => rfl

/-- There is one place for every parameter, and the places are numbered in sequence. -/
theorem places_tokensFrom (pieces : List Piece) (n : Nat) :
    places (tokensFrom dialect n pieces) =
      (List.range' n (boundsOf pieces).length).map (placeText dialect) := by
  induction pieces generalizing n with
  | nil => rfl
  | cons piece rest ih =>
      cases piece with
      | text cs => rw [tokensFrom, places_append_plain, ih, boundsOf]
      | place bound =>
          rw [tokensFrom, places, number_append_digit _ (number_tokensFrom rest _),
            places_append_digit, ih, boundsOf, List.length_cons, List.range'_succ, List.map_cons,
            placeText_eq]

/-- Only the numbers depend on where the pieces begin. -/
theorem unnumbered_tokensFrom (pieces : List Piece) (n k : Nat) :
    ((tokensFrom dialect n pieces).filter fun token => !token.isDigit) =
      (tokensFrom dialect k pieces).filter fun token => !token.isDigit := by
  induction pieces generalizing n k with
  | nil => rfl
  | cons piece rest ih =>
      cases piece with
      | text cs => rw [tokensFrom, tokensFrom, List.filter_append, List.filter_append, ih n k]
      | place bound =>
          have numberless (cs : List Char) :
              ((cs.map Token.digit).filter fun token => !token.isDigit) = [] := by
            simp [isDigit]
          rw [tokensFrom, tokensFrom, List.filter_cons_of_pos rfl, List.filter_cons_of_pos rfl,
            List.filter_append, List.filter_append, numberless, numberless, ih (n + 1) (k + 1)]

end Token

/-- A text is inert if nothing in it is taken for a place or for a part of one. -/
def Inert (dialect : Dialect) (cs : List Char) : Prop :=
  ∀ mode : Mode, mode ≠ .quoted → ∀ rest,
    tokens dialect mode (cs ++ rest) = cs.map .plain ++ tokens dialect .outside rest

/-- Is the text a word: does it not begin with a digit, and are there no quotes and marks in it? -/
def isWord (cs : List Char) : Bool :=
  cs.head?.any (fun c => !c.isDigit) &&
    cs.all fun c => c != '"' && c != '\x60' && c != '$' && c != '?'

theorem Mode.read_plain {mode : Mode} {c : Char} (unquoted : mode ≠ .quoted)
    (quote : c ≠ dialect.quote) (mark : c ≠ dialect.mark)
    (numberless : mode = .numbered → c.isDigit = false) :
    mode.read dialect c = (.plain c, .outside) := by
  cases mode with
  | quoted => exact absurd rfl unquoted
  | outside => simp [Mode.read, quote, mark]
  | numbered => simp [Mode.read, quote, mark, numberless rfl]

theorem inert_of_isWord {cs : List Char} (word : isWord cs = true) : Inert dialect cs := by
  obtain ⟨head, ordinary⟩ := Bool.and_eq_true_iff.1 word
  have ordinary : ∀ c ∈ cs, c ≠ dialect.quote ∧ c ≠ dialect.mark := by
    intro c mem
    have other := List.all_eq_true.1 ordinary c mem
    simp only [Bool.and_eq_true, bne_iff_ne] at other
    obtain ⟨⟨⟨double, back⟩, dollar⟩, question⟩ := other
    cases dialect with
    | postgres => exact ⟨double, dollar⟩
    | mysql => exact ⟨back, question⟩
    | sqlite => exact ⟨double, question⟩
  have outside : ∀ cs : List Char, (∀ c ∈ cs, c ≠ dialect.quote ∧ c ≠ dialect.mark) → ∀ rest,
      tokens dialect .outside (cs ++ rest) = cs.map .plain ++ tokens dialect .outside rest := by
    intro cs
    induction cs with
    | nil => exact fun _ _ => rfl
    | cons c cs ih =>
        intro ordinary rest
        obtain ⟨⟨quote, mark⟩, ordinary⟩ := List.forall_mem_cons.1 ordinary
        rw [List.cons_append, tokens, Mode.read_plain (by decide) quote mark (by simp),
          ih ordinary, List.map_cons, List.cons_append]
  cases cs with
  | nil => cases head
  | cons c cs =>
      intro mode unquoted rest
      obtain ⟨⟨quote, mark⟩, ordinary⟩ := List.forall_mem_cons.1 ordinary
      rw [List.cons_append, tokens,
        Mode.read_plain unquoted quote mark (fun _ => by simpa using head), outside cs ordinary,
        List.map_cons, List.cons_append]

/-- A name is read up to its closing quote, since every quote in it is doubled. -/
theorem inert_identifier (dialect : Dialect) (name : String) :
    Inert dialect (dialect.identifier name) := by
  have inside : ∀ cs rest : List Char,
      tokens dialect .quoted ((cs.flatMap fun c =>
        if c = dialect.quote then [dialect.quote, dialect.quote] else [c]) ++
          dialect.quote :: rest) =
      (cs.flatMap fun c => if c = dialect.quote then [dialect.quote, dialect.quote]
        else [c]).map .plain ++ .plain dialect.quote :: tokens dialect .outside rest := by
    intro cs rest
    induction cs with
    | nil => simp [tokens, Mode.read]
    | cons c cs ih =>
        by_cases quote : c = dialect.quote
        · simp [quote, tokens, Mode.read, ih]
        · simp [quote, tokens, Mode.read, ih]
  intro mode unquoted rest
  have opens : mode.read dialect dialect.quote = (.plain dialect.quote, .quoted) := by
    cases mode with
    | quoted => exact absurd rfl unquoted
    | outside | numbered => simp [Mode.read]
  rw [Dialect.identifier]
  simp only [List.cons_append, List.append_assoc, List.nil_append, tokens, opens, inside,
    List.map_cons, List.map_append, List.map_nil]

namespace Piece

/-- A piece is inert if its text is. -/
def Inert (dialect : Dialect) : Piece → Prop
  | .text cs => Sql.Inert dialect cs
  | .place _ => True

end Piece

/-- Are all pieces inert? -/
def AllInert (dialect : Dialect) (pieces : List Piece) : Prop := ∀ p ∈ pieces, p.Inert dialect

namespace AllInert

variable {p q : List Piece}

theorem nil : AllInert dialect [] := fun _ mem => absurd mem List.not_mem_nil

theorem word {s : String} (plain : isWord s.toList = true) : AllInert dialect (Piece.word s) :=
  List.forall_mem_singleton.2 (inert_of_isWord plain)

theorem name (s : String) : AllInert dialect (Piece.name dialect s) :=
  List.forall_mem_singleton.2 (inert_identifier dialect s)

theorem place (bound : Bound) : AllInert dialect [.place bound] :=
  List.forall_mem_singleton.2 trivial

theorem append (h : AllInert dialect p) (k : AllInert dialect q) : AllInert dialect (p ++ q) :=
  List.forall_mem_append.2 ⟨h, k⟩

theorem separated {separator : String} (plain : isWord separator.toList = true)
    {groups : List (List Piece)} (inert : ∀ group ∈ groups, AllInert dialect group) :
    AllInert dialect (Piece.separated separator groups) := by
  induction groups using Piece.separated.induct with
  | case1 => exact .nil
  | case2 group => exact inert group List.mem_cons_self
  | case3 group rest nonempty ih =>
      obtain ⟨first, others⟩ := List.forall_mem_cons.1 inert
      rw [Piece.separated]
      · exact (first.append (.word plain)).append (ih others)
      · exact nonempty

end AllInert

/-- The number of a place is read to its end. -/
theorem tokens_numbered {cs : List Char} (digits : ∀ c ∈ cs, c.isDigit = true) (rest : List Char) :
    tokens dialect .numbered (cs ++ rest) =
      cs.map .digit ++ tokens dialect .numbered rest := by
  induction cs with
  | nil => rfl
  | cons c cs ih =>
      obtain ⟨digit, digits⟩ := List.forall_mem_cons.1 digits
      have quote : c ≠ dialect.quote := by
        rintro rfl
        cases dialect <;> cases digit
      have mark : c ≠ dialect.mark := by
        rintro rfl
        cases dialect <;> cases digit
      have read : Mode.numbered.read dialect c = (.digit c, .numbered) := by
        simp [Mode.read, quote, mark, digit]
      rw [List.cons_append, tokens, read, ih digits, List.map_cons, List.cons_append]

theorem tokens_placeText {mode : Mode} (unquoted : mode ≠ .quoted) (n : Nat) (rest : List Char) :
    tokens dialect mode (placeText dialect n ++ rest) =
      .mark dialect.mark :: ((placeNumber dialect n).map .digit ++
        tokens dialect (if dialect.numbersPlaces then .numbered else .outside) rest) := by
  have begins : mode.read dialect dialect.mark =
      (.mark dialect.mark, if dialect.numbersPlaces then .numbered else .outside) := by
    have other : dialect.mark ≠ dialect.quote := by cases dialect <;> decide
    cases mode with
    | quoted => exact absurd rfl unquoted
    | outside | numbered => simp [Mode.read, other]
  rw [placeText_eq, List.cons_append, tokens, begins, placeNumber]
  cases dialect.numbersPlaces with
  | false => rfl
  | true =>
      rw [if_pos rfl, if_pos rfl]
      exact congrArg _ (tokens_numbered (fun c => Text.isDigit_of_mem_natDigits) rest)

/-- The reader finds in the text of inert pieces what the renderer has put there. -/
theorem tokens_textFrom {pieces : List Piece} (inert : AllInert dialect pieces)
    {mode : Mode} (unquoted : mode ≠ .quoted) (n : Nat) :
    tokens dialect mode (textFrom dialect n pieces) = tokensFrom dialect n pieces := by
  induction pieces generalizing mode n with
  | nil => cases mode <;> rfl
  | cons piece rest ih =>
      obtain ⟨first, others⟩ := List.forall_mem_cons.1 inert
      cases piece with
      | text cs => rw [textFrom, first mode unquoted, tokensFrom, ih others (by decide)]
      | place bound =>
          have outside : (if dialect.numbersPlaces then Mode.numbered else .outside) ≠ .quoted := by
            split <;> decide
          rw [textFrom, tokens_placeText unquoted, tokensFrom, ih others outside]

variable {pieces : List Piece}

/-- Every parameter has its place in the text of inert pieces, and there are no other places. -/
theorem placesOf_textFrom (inert : AllInert dialect pieces) (n : Nat) :
    placesOf dialect (textFrom dialect n pieces) =
      (List.range' n (boundsOf pieces).length).map (placeText dialect) := by
  rw [placesOf, tokens_textFrom inert (by decide), Token.places_tokensFrom]

/-- Where inert pieces stand in a statement shows in the numbers of their places only. -/
theorem unnumbered_textFrom (inert : AllInert dialect pieces) (n k : Nat) :
    unnumbered dialect (textFrom dialect n pieces) =
      unnumbered dialect (textFrom dialect k pieces) := by
  rw [unnumbered, unnumbered, tokens_textFrom inert (by decide), tokens_textFrom inert (by decide),
    Token.unnumbered_tokensFrom pieces n k]

end LiveRecord.Sql
