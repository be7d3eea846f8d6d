/-!
# JSON documents

The tree of a JSON document.  Objects keep their members in the order in which
they were written, repeats included, so that a reader of records can refuse a
member that is given twice.

Two kinds of leaf need care.  A string literal may spell half of a surrogate
pair; such a literal is well-formed but denotes no text.  A number with a
fraction or an exponent is kept as a mantissa and a power of ten and is never
confused with an integer.
-/

namespace HierQuery

/-- The text of a string literal; a literal with half of a surrogate pair has none. -/
abbrev Json.Text :=
  Option String

/-- The tree of a JSON document. -/
inductive Json
  | null
  | bool (flag : Bool)
  /-- A number without fraction and exponent. -/
  | int (number : Int)
  /-- Any other number: `mantissa` times ten to the power `exponent`. -/
  | decimal (mantissa exponent : Int)
  | string (text : Json.Text)
  | array (items : List Json)
  | object (members : List (Json.Text × Json))
deriving Inhabited

namespace Json

/-- A string literal with the given text. -/
def text (content : String) : Json :=
  string (some content)

/-- A non-negative integer. -/
def nat (number : Nat) : Json :=
  int number

/-- An object with the given members in the given order. -/
def record (members : List (String × Json)) : Json :=
  object (members.map fun member => (some member.1, member.2))

/--
Puts a member in its place among members whose keys ascend.  A member with
the same key is replaced.
-/
def insertMember
    (key : Text)
    (value : Json) :
    List (Text × Json) → List (Text × Json)
  | [] => [(key, value)]
  | member :: members =>
      match compare key member.1 with
      | .lt => (key, value) :: member :: members
      | .eq => (key, value) :: members
      | .gt => member :: insertMember key value members

/-- An object with ascending keys.  The last of several members with one key stays. -/
def sortedObject (members : List (Text × Json)) : Json :=
  object
    (members.foldl
      (fun sorted member => insertMember member.1 member.2 sorted)
      [])

mutual

/-- The document with the keys of every object in ascending order, each once. -/
def canonical : Json → Json
  | array items => array (canonicalItems items)
  | object members => sortedObject (canonicalMembers members)
  | leaf => leaf

/-- The canonical forms of the items of an array. -/
def canonicalItems : List Json → List Json
  | [] => []
  | item :: items => canonical item :: canonicalItems items

/-- The members of an object with canonical values. -/
def canonicalMembers : List (Text × Json) → List (Text × Json)
  | [] => []
  | (key, value) :: members => (key, canonical value) :: canonicalMembers members

end

/-- The value of the first member with the given key. -/
def get? (document : Json) (key : String) : Option Json :=
  match document with
  | object members => members.lookup (some key)
  | _ => none

end Json

end HierQuery
