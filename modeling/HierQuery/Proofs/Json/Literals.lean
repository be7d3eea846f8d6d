import HierQuery.Json.Printer
import HierQuery.Json.Reader
import HierQuery.Proofs.Text.Numerals

/-!
# Literals that are written and read

A string literal and a number are read back as they were written, and what
comes after them is left over.  A string ends at its closing quote, as every
quote inside is escaped.  A number ends where nothing follows that could belong
to a number.
-/

namespace HierQuery.Json

/-! ## Strings -/

/-- A piece of a literal that stands for a character, whatever comes after it. -/
def Piece.Spells (piece : Piece) (character : Char) : Prop :=
  ∀ pieces, spelled? (piece :: pieces) = (spelled? pieces).map (character :: ·)

theorem spells_plain (character : Char) :
    (Piece.plain character).Spells character := by
  intro pieces
  simp [spelled?]

/-- A unit below the surrogates stands for the character with its number. -/
theorem spells_unit
    {character : Char}
    (low : character.toNat < 0x20) :
    (Piece.unit character.toNat).Spells character := by
  have notHigh : isHighSurrogate character.toNat = false := by
    simp [isHighSurrogate]
    omega
  have notLow : isLowSurrogate character.toNat = false := by
    simp [isLowSurrogate]
    omega
  intro pieces
  cases pieces with
  | nil =>
      simp [spelled?, notHigh, notLow]
  | cons piece pieces =>
      cases piece <;> simp [spelled?, notHigh, notLow]

theorem hexValue?_digitChar :
    ∀ digit < 16, hexValue? (Nat.digitChar digit) = some digit := by
  decide

/-- A character that needs no escape is read as itself. -/
theorem readPieces_plain
    {character : Char}
    (notQuote : character ≠ '"')
    (notBackslash : character ≠ '\\')
    (visible : ¬ character.toNat < 0x20)
    (text : List Char) :
    readPieces (character :: text) =
      (readPieces text).map fun (pieces, rest) =>
        (.plain character :: pieces, rest) := by
  cases read : readPieces text <;>
    simp [readPieces, notBackslash, visible, read]

/-- The number of a control character is read off its last two digits. -/
theorem readPieces_control
    {character : Char}
    (control : character.toNat < 0x20)
    (text : List Char) :
    readPieces
        ('\\' :: 'u' :: '0' :: '0' ::
          Nat.digitChar (character.toNat / 16) ::
            Nat.digitChar (character.toNat % 16) :: text) =
      (readPieces text).map fun (pieces, rest) =>
        (.unit character.toNat :: pieces, rest) := by
  have upper := hexValue?_digitChar (character.toNat / 16) (by omega)
  have lower := hexValue?_digitChar (character.toNat % 16) (by omega)
  have zero : hexValue? '0' = some 0 := rfl
  have number :
      character.toNat / 16 * 16 + character.toNat % 16 = character.toNat := by
    omega
  cases read : readPieces text <;>
    simp [readPieces, zero, upper, lower, number, read]

/-- An escaped character is read as one piece that stands for it. -/
theorem exists_readPieces_escapeChar (character : Char) :
    ∃ piece : Piece,
      piece.Spells character ∧
        ∀ text,
          readPieces (escapeChar character ++ text) =
            (readPieces text).map fun (pieces, rest) =>
              (piece :: pieces, rest) := by
  unfold escapeChar
  split_ifs with quote backslash backspace formFeed lineFeed carriage tab
    control
  on_goal 9 =>
    exact ⟨_, spells_plain character,
      readPieces_plain quote backslash control⟩
  on_goal 8 =>
    exact ⟨_, spells_unit control, readPieces_control control⟩
  all_goals
    subst character
    refine ⟨_, spells_plain _, fun text => ?_⟩
    cases read : readPieces text <;> simp [readPieces, shortEscape?, read]

/-- The pieces of a written text spell it. -/
theorem exists_readPieces_escaped (content rest : List Char) :
    ∃ pieces,
      readPieces (content.flatMap escapeChar ++ '"' :: rest) =
          some (pieces, rest) ∧
        spelled? pieces = some content := by
  induction content with
  | nil =>
      exact ⟨[], rfl, rfl⟩
  | cons character content ih =>
      rcases ih with ⟨pieces, read, spelled⟩
      rcases exists_readPieces_escapeChar character with
        ⟨piece, spells, readPiece⟩
      refine ⟨piece :: pieces, ?_, ?_⟩
      · simp [readPiece, read]
      · simp [spells pieces, spelled]

/-- A literal is read back, also one without a text. -/
theorem readText_textChars (text : Text) :
    ∃ body,
      textChars text = '"' :: body ∧
        ∀ rest, readText (body ++ rest) = some (text, rest) := by
  cases text with
  | none =>
      refine ⟨_, rfl, fun rest => ?_⟩
      have digits :
          hexValue? 'd' = some 13 ∧
            hexValue? '8' = some 8 ∧ hexValue? '0' = some 0 := by
        decide
      simp [readText, readPieces, digits, spelled?, isHighSurrogate]
  | some content =>
      refine ⟨_, rfl, fun rest => ?_⟩
      rcases exists_readPieces_escaped content.toList rest with
        ⟨pieces, read, spelled⟩
      simp [readText, read, spelled]

/-! ## Numbers -/

/-- Whether a number can go on so. -/
def goesOnNumber (character : Char) : Bool :=
  character.isDigit || ['.', 'e', 'E'].contains character

/-- A text that does not go on with a part of a number. -/
def Delimited (rest : List Char) : Prop :=
  ∀ character ∈ rest.head?, goesOnNumber character = false

theorem delimited_cons
    {character : Char}
    {rest : List Char}
    (ends : goesOnNumber character = false) :
    Delimited (character :: rest) := by
  rintro _ ⟨⟩
  exact ends

theorem Delimited.undigited
    {rest : List Char}
    (delimited : Delimited rest) :
    Undigited rest := by
  intro character isHead
  have ends := delimited character isHead
  simp [goesOnNumber] at ends
  exact ends.1

theorem Delimited.readFraction
    {rest : List Char}
    (delimited : Delimited rest) :
    readFraction rest = some (none, rest) := by
  unfold Json.readFraction
  split
  next rest =>
    cases delimited '.' rfl
  next =>
    rfl

theorem Delimited.readExponent
    {rest : List Char}
    (delimited : Delimited rest) :
    readExponent rest = some (none, rest) := by
  cases rest with
  | nil =>
      rfl
  | cons character rest =>
      have ends := delimited character rfl
      simp [goesOnNumber] at ends
      simp [Json.readExponent, ends]

theorem digitsValue_toDigits (number : Nat) :
    digitsValue (Nat.toDigits 10 number) = number := by
  have value (digits : List Char) :
      digitsValue digits = Nat.ofDigitChars 10 digits 0 := by
    simp [digitsValue, Nat.ofDigitChars_eq_foldl, Nat.mul_comm]
  rw [value, Nat.ofDigitChars_ten_toDigits]

/-- The digits of a number are read up to the first other character. -/
theorem readDigits_toDigits
    (number : Nat)
    {rest : List Char}
    (ends : Undigited rest) :
    readDigits (Nat.toDigits 10 number ++ rest) =
      some (Nat.toDigits 10 number, rest) := by
  have whole := takeWhile_toDigits number ends
  have left :
      (Nat.toDigits 10 number ++ rest).dropWhile Char.isDigit = rest := by
    have parts :
        (Nat.toDigits 10 number ++ rest).takeWhile Char.isDigit ++
            (Nat.toDigits 10 number ++ rest).dropWhile Char.isDigit =
          Nat.toDigits 10 number ++ rest :=
      List.takeWhile_append_dropWhile
    rw [whole] at parts
    exact List.append_cancel_left parts
  unfold readDigits
  rw [whole, left]
  split
  next empty =>
    exact (Nat.toDigits_ne_nil empty).elim
  next =>
    rfl

theorem intChars_of_nonneg
    {number : Int}
    (natural : 0 ≤ number) :
    intChars number = Nat.toDigits 10 number.natAbs := by
  have absolute : number.toNat = number.natAbs := by
    omega
  rw [intChars, toList_repr_int, if_pos natural, absolute]

theorem intChars_of_neg
    {number : Int}
    (negative : number < 0) :
    intChars number = '-' :: Nat.toDigits 10 number.natAbs := by
  have absolute : (-number).toNat = number.natAbs := by
    omega
  rw [intChars, toList_repr_int, if_neg (by omega), absolute]

theorem exists_toDigits (number : Nat) :
    ∃ digit digits,
      Nat.toDigits 10 number = digit :: digits ∧ digit.isDigit = true := by
  cases written : Nat.toDigits 10 number with
  | nil =>
      exact (Nat.toDigits_ne_nil written).elim
  | cons digit digits =>
      refine ⟨digit, digits, rfl, ?_⟩
      apply Nat.isDigit_of_mem_toDigits (b := 10) (n := number) (by decide) (by decide)
      simp [written]

/-- A number has no leading zero, as only zero begins with one. -/
theorem no_leading_zero (number : Nat) :
    ¬ ((Nat.toDigits 10 number).head? = some '0' ∧
      (Nat.toDigits 10 number).length ≠ 1) := by
  rintro ⟨zero, long⟩
  by_cases isZero : number = 0
  · subst isZero
    exact long rfl
  · exact head?_toDigits_ne_zero isZero zero

/-- An integer is read up to the first character that is no digit, then what else it has. -/
theorem readNumber_intChars
    (number : Int)
    {rest : List Char}
    (ends : Undigited rest) :
    readNumber (intChars number ++ rest) =
      (readFraction rest).bind fun (fraction, rest) =>
        (readExponent rest).bind fun (exponent, rest) =>
          some
            (numberOfParts (decide (number < 0))
              (Nat.toDigits 10 number.natAbs) fraction exponent, rest) := by
  by_cases negative : number < 0
  · rw [intChars_of_neg negative, List.cons_append, readNumber]
    simp [readDigits_toDigits _ ends, no_leading_zero, negative]
  · rw [intChars_of_nonneg (by omega), readNumber]
    · simp [readDigits_toDigits _ ends, no_leading_zero, negative]
    · rcases exists_toDigits number.natAbs with ⟨digit, digits, written, isDigit⟩
      intro after signed
      rw [written] at signed
      cases (List.cons.inj signed).1
      cases isDigit

theorem signed_natAbs (number : Int) :
    signed (decide (number < 0)) number.natAbs = number := by
  by_cases negative : number < 0
  · simp only [signed, negative, decide_true, if_true]
    omega
  · simp only [signed, negative, decide_false, Bool.false_eq_true, if_false]
    omega

/-- An integer is read back. -/
theorem readNumber_int
    (number : Int)
    {rest : List Char}
    (delimited : Delimited rest) :
    readNumber (intChars number ++ rest) = some (int number, rest) := by
  have sound :
      (decide (number < 0) && number.natAbs == 0) = false := by
    by_cases zero : number = 0 <;> simp [zero]
  simp [readNumber_intChars number delimited.undigited,
    delimited.readFraction, delimited.readExponent, numberOfParts,
    digitsValue_toDigits, sound, signed_natAbs]

/-- A signed number is read as the exponent that it is written as. -/
theorem readExponent_intChars
    (number : Int)
    {rest : List Char}
    (delimited : Delimited rest) :
    readExponent ('e' :: (intChars number ++ rest)) =
      some (some number, rest) := by
  have sign :
      readSign (intChars number ++ rest) =
        (decide (number < 0), Nat.toDigits 10 number.natAbs ++ rest) := by
    by_cases negative : number < 0
    · simp [intChars_of_neg negative, readSign, negative]
    · rcases exists_toDigits number.natAbs with ⟨digit, digits, written, isDigit⟩
      rw [intChars_of_nonneg (by omega), written, decide_eq_false negative]
      rw [readSign.eq_def]
      split <;> simp_all [Char.isDigit]
  simp [readExponent, sign, readDigits_toDigits _ delimited.undigited,
    digitsValue_toDigits, signed_natAbs]

/-- A number that is no integer is read back. -/
theorem readNumber_decimal
    (mantissa exponent : Int)
    {rest : List Char}
    (delimited : Delimited rest) :
    readNumber (intChars mantissa ++ 'e' :: (intChars exponent ++ rest)) =
      some (decimal mantissa exponent, rest) := by
  have ends : Undigited ('e' :: (intChars exponent ++ rest)) := by
    rintro _ ⟨⟩
    rfl
  simp [readNumber_intChars mantissa ends, readFraction,
    readExponent_intChars exponent delimited, numberOfParts,
    digitsValue_toDigits, signed_natAbs]

end HierQuery.Json
