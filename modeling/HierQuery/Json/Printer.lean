import HierQuery.Json.Basic

/-!
# The written form of a JSON document

Documents are written without any blanks.  In a string the quote, the
backslash and the control characters are escaped, and every other character
stands for itself.  Hence a written document never contains a line break.
-/

namespace HierQuery.Json

/-- The escape of one character inside a string literal. -/
def escapeChar (character : Char) : List Char :=
  if character = '"' then
    ['\\', '"']
  else if character = '\\' then
    ['\\', '\\']
  else if character = '\x08' then
    ['\\', 'b']
  else if character = '\x0c' then
    ['\\', 'f']
  else if character = '\n' then
    ['\\', 'n']
  else if character = '\r' then
    ['\\', 'r']
  else if character = '\t' then
    ['\\', 't']
  else if character.toNat < 0x20 then
    ['\\', 'u', '0', '0',
      Nat.digitChar (character.toNat / 16),
      Nat.digitChar (character.toNat % 16)]
  else
    [character]

/-- A string literal, quotes included. -/
def quoteChars (content : List Char) : List Char :=
  '"' :: (content.flatMap escapeChar ++ ['"'])

/-- A string literal, quotes included. -/
def quote (content : String) : String :=
  String.ofList (quoteChars content.toList)

/-- A literal for the given text.  Where there is none, half of a surrogate pair is written. -/
def textChars : Text → List Char
  | some content => quoteChars content.toList
  | none => ['"', '\\', 'u', 'd', '8', '0', '0', '"']

/-- An integer in decimal. -/
def intChars (number : Int) : List Char :=
  (Int.repr number).toList

mutual

/-- The characters of the written document. -/
def chars : Json → List Char
  | null => ['n', 'u', 'l', 'l']
  | bool true => ['t', 'r', 'u', 'e']
  | bool false => ['f', 'a', 'l', 's', 'e']
  | int number => intChars number
  | decimal mantissa exponent => intChars mantissa ++ 'e' :: intChars exponent
  | string content => textChars content
  | array items => '[' :: (itemChars items ++ [']'])
  | object members => '\x7b' :: (memberChars members ++ ['\x7d'])

/-- The items of an array with commas between them. -/
def itemChars : List Json → List Char
  | [] => []
  | [item] => chars item
  | item :: items => chars item ++ ',' :: itemChars items

/-- The members of an object with commas between them. -/
def memberChars : List (Text × Json) → List Char
  | [] => []
  | [(key, value)] => textChars key ++ ':' :: chars value
  | (key, value) :: members =>
      textChars key ++ ':' :: (chars value ++ ',' :: memberChars members)

end

/-- The written document. -/
def render (document : Json) : String :=
  String.ofList document.chars

@[simp]
theorem toList_quote (content : String) :
    (quote content).toList = quoteChars content.toList := by
  simp [quote]

@[simp]
theorem toList_render (document : Json) :
    document.render.toList = document.chars := by
  simp [render]

end HierQuery.Json
