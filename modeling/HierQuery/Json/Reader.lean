import HierQuery.Json.Basic

/-!
# Reading a JSON document

The reader accepts exactly the documents of the JSON grammar: no comments, no
trailing commas, no leading zeros and no unescaped control characters.  Blanks
are the space, the tabulator and the two line breaks.

A string is first split into its pieces, plain characters and `\u` escapes;
only then are the escapes combined into characters.  So a literal with half of
a surrogate pair can be read past without having a text.
-/

namespace HierQuery.Json

/-- The four characters that may stand between the tokens of a document. -/
def isBlank (character : Char) : Bool :=
  character = ' ' || character = '\t' ||
    character = '\n' || character = '\r'

/-- The rest of the text from its first character that is not blank. -/
def skipBlanks (text : List Char) : List Char :=
  text.dropWhile isBlank

/-- The value of a hexadecimal digit. -/
def hexValue? (digit : Char) : Option Nat :=
  if '0' ≤ digit ∧ digit ≤ '9' then
    some (digit.toNat - '0'.toNat)
  else if 'a' ≤ digit ∧ digit ≤ 'f' then
    some (digit.toNat - 'a'.toNat + 10)
  else if 'A' ≤ digit ∧ digit ≤ 'F' then
    some (digit.toNat - 'A'.toNat + 10)
  else
    none

/-- A piece of a string literal. -/
inductive Piece
  | plain (character : Char)
  /-- A `\u` escape with the 16-bit unit that it spells. -/
  | unit (value : Nat)
deriving DecidableEq

/-- The character that a one-letter escape spells. -/
def shortEscape? : Char → Option Char
  | '"' => some '"'
  | '\\' => some '\\'
  | '/' => some '/'
  | 'b' => some '\x08'
  | 'f' => some '\x0c'
  | 'n' => some '\n'
  | 'r' => some '\r'
  | 't' => some '\t'
  | _ => none

/-- The pieces of a string literal up to its closing quote, and the text after it. -/
def readPieces : List Char → Option (List Piece × List Char)
  | [] => none
  | '"' :: rest => some ([], rest)
  | '\\' :: 'u' :: first :: second :: third :: fourth :: rest => do
      let first ← hexValue? first
      let second ← hexValue? second
      let third ← hexValue? third
      let fourth ← hexValue? fourth
      let value := ((first * 16 + second) * 16 + third) * 16 + fourth
      let (pieces, rest) ← readPieces rest
      some (.unit value :: pieces, rest)
  | '\\' :: letter :: rest => do
      let character ← shortEscape? letter
      let (pieces, rest) ← readPieces rest
      some (.plain character :: pieces, rest)
  | character :: rest =>
      if character = '\\' ∨ character.toNat < 0x20 then
        none
      else do
        let (pieces, rest) ← readPieces rest
        some (.plain character :: pieces, rest)

/-- Whether a unit opens a surrogate pair. -/
def isHighSurrogate (unit : Nat) : Bool :=
  0xd800 ≤ unit && unit < 0xdc00

/-- Whether a unit closes a surrogate pair. -/
def isLowSurrogate (unit : Nat) : Bool :=
  0xdc00 ≤ unit && unit < 0xe000

/-- The characters that the pieces spell; none if a surrogate stands alone. -/
def spelled? : List Piece → Option (List Char)
  | [] => some []
  | .plain character :: pieces =>
      (spelled? pieces).map (character :: ·)
  | .unit high :: .unit low :: pieces =>
      if isHighSurrogate high && isLowSurrogate low then
        (spelled? pieces).map
          (Char.ofNat (0x10000 + (high - 0xd800) * 0x400 + (low - 0xdc00)) :: ·)
      else if isHighSurrogate high || isLowSurrogate high then
        none
      else
        (spelled? (.unit low :: pieces)).map (Char.ofNat high :: ·)
  | .unit value :: pieces =>
      if isHighSurrogate value || isLowSurrogate value then
        none
      else
        (spelled? pieces).map (Char.ofNat value :: ·)

/-- A string literal whose opening quote has been read. -/
def readText (text : List Char) : Option (Text × List Char) := do
  let (pieces, rest) ← readPieces text
  some ((spelled? pieces).map String.ofList, rest)

/-- The number that a row of decimal digits spells. -/
def digitsValue (digits : List Char) : Nat :=
  digits.foldl (fun value digit => value * 10 + (digit.toNat - '0'.toNat)) 0

/-- A row of at least one digit, and the text after it. -/
def readDigits (text : List Char) : Option (List Char × List Char) :=
  match text.takeWhile Char.isDigit with
  | [] => none
  | digits => some (digits, text.dropWhile Char.isDigit)

/-- The digits of a fraction, if a point follows. -/
def readFraction : List Char → Option (Option (List Char) × List Char)
  | '.' :: rest => do
      let (digits, rest) ← readDigits rest
      some (some digits, rest)
  | rest => some (none, rest)

/-- A sign and the text after it; a missing sign is a plus. -/
def readSign : List Char → Bool × List Char
  | '-' :: rest => (true, rest)
  | '+' :: rest => (false, rest)
  | rest => (false, rest)

/-- `number` with its sign changed if `negative`. -/
def signed (negative : Bool) (number : Nat) : Int :=
  if negative then -number else number

/-- The exponent, if the letter for one follows. -/
def readExponent : List Char → Option (Option Int × List Char)
  | letter :: rest =>
      if letter = 'e' ∨ letter = 'E' then do
        let (negative, rest) := readSign rest
        let (digits, rest) ← readDigits rest
        some (some (signed negative (digitsValue digits)), rest)
      else
        some (none, letter :: rest)
  | [] => some (none, [])

/--
The number with the given parts.  A fraction, an exponent or a minus sign
before zero make it a number that is no integer.
-/
def numberOfParts
    (negative : Bool)
    (whole : List Char)
    (fraction : Option (List Char))
    (exponent : Option Int) :
    Json :=
  match fraction, exponent with
  | none, none =>
      if negative && digitsValue whole == 0 then
        decimal 0 0
      else
        int (signed negative (digitsValue whole))
  | _, _ =>
      let places := fraction.getD []
      decimal
        (signed negative (digitsValue (whole ++ places)))
        (exponent.getD 0 - places.length)

/-- A number: a whole part without leading zeros, then a fraction and an exponent if given. -/
def readNumber (text : List Char) : Option (Json × List Char) := do
  let (negative, unsigned) :=
    match text with
    | '-' :: rest => (true, rest)
    | rest => (false, rest)
  let (whole, rest) ← readDigits unsigned
  if whole.head? = some '0' ∧ whole.length ≠ 1 then
    none
  else do
    let (fraction, rest) ← readFraction rest
    let (exponent, rest) ← readExponent rest
    some (numberOfParts negative whole fraction exponent, rest)

mutual

/-- A document, and the text after it. -/
def readValue : Nat → List Char → Option (Json × List Char)
  | 0, _ => none
  | fuel + 1, text =>
      match skipBlanks text with
      | 'n' :: 'u' :: 'l' :: 'l' :: rest => some (null, rest)
      | 't' :: 'r' :: 'u' :: 'e' :: rest => some (bool true, rest)
      | 'f' :: 'a' :: 'l' :: 's' :: 'e' :: rest => some (bool false, rest)
      | '"' :: rest => do
          let (content, rest) ← readText rest
          some (string content, rest)
      | '[' :: rest =>
          match skipBlanks rest with
          | ']' :: rest => some (array [], rest)
          | rest => do
              let (items, rest) ← readItems fuel rest
              some (array items, rest)
      | '\x7b' :: rest =>
          match skipBlanks rest with
          | '\x7d' :: rest => some (object [], rest)
          | rest => do
              let (members, rest) ← readMembers fuel rest
              some (object members, rest)
      | rest => readNumber rest

/-- The items of an array up to its closing bracket, and the text after it. -/
def readItems : Nat → List Char → Option (List Json × List Char)
  | 0, _ => none
  | fuel + 1, text => do
      let (item, rest) ← readValue fuel text
      match skipBlanks rest with
      | ']' :: rest => some ([item], rest)
      | ',' :: rest => do
          let (items, rest) ← readItems fuel rest
          some (item :: items, rest)
      | _ => none

/-- The members of an object up to its closing brace, and the text after it. -/
def readMembers : Nat → List Char → Option (List (Text × Json) × List Char)
  | 0, _ => none
  | fuel + 1, text =>
      match skipBlanks text with
      | '"' :: rest => do
          let (key, rest) ← readText rest
          match skipBlanks rest with
          | ':' :: rest => do
              let (value, rest) ← readValue fuel rest
              match skipBlanks rest with
              | '\x7d' :: rest => some ([(key, value)], rest)
              | ',' :: rest => do
                  let (members, rest) ← readMembers fuel rest
                  some ((key, value) :: members, rest)
              | _ => none
          | _ => none
      | _ => none

end

/-- The document that a whole text spells.  Only blanks may follow it. -/
def readChars (text : List Char) : Option Json := do
  let (document, rest) ← readValue (2 * text.length + 2) text
  match skipBlanks rest with
  | [] => some document
  | _ => none

/-- The document that a whole text spells, if it is one. -/
def read (text : String) : Option Json :=
  readChars text.toList

end HierQuery.Json
