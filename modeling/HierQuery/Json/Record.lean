import HierQuery.Json.Basic

/-!
# Records written in JSON

A record may be written as an object or as the list of its leading fields in
their fixed order.  In an object no field may be given twice; whether unknown
members are refused or passed over is a property of the record.

The readers of this module answer nothing about what is wrong with a document,
only whether it has the wanted form.
-/

namespace HierQuery.Json

/-- The text of a string. -/
def asText? : Json → Option String
  | string content => content
  | _ => none

/-- The truth value. -/
def asBool? : Json → Option Bool
  | bool flag => some flag
  | _ => none

/-- A non-negative integer below the given bound. -/
def asNatBelow? (bound : Nat) : Json → Option Nat
  | int number =>
      if 0 ≤ number ∧ number < bound then
        some number.toNat
      else
        none
  | _ => none

/-- An integer that fits into 64 bits with a sign. -/
def asInt64? : Json → Option Int64
  | int number =>
      if -9223372036854775808 ≤ number ∧ number < 9223372036854775808 then
        some (Int64.ofInt number)
      else
        none
  | _ => none

/-- A list whose items all have the wanted form. -/
def asList? (item? : Json → Option α) : Json → Option (List α)
  | array items => items.mapM item?
  | _ => none

/-- `null` for nothing, anything else by the given reader. -/
def asOption? (value? : Json → Option α) : Json → Option (Option α)
  | null => some none
  | document => (value? document).map some

/-- The fields of a record in their order, and whether other members are refused. -/
structure Shape where
  names : List String
  closed : Bool

/-- The fields that a document gives, each with its value. -/
abbrev Fields :=
  List (String × Json)

/-- The members of an object which are fields; none if one is not allowed. -/
def Shape.known? (shape : Shape) : List (Text × Json) → Option Fields
  | [] => some []
  | (none, _) :: _ => none
  | (some name, value) :: members =>
      if shape.names.contains name then
        (shape.known? members).map ((name, value) :: ·)
      else if shape.closed then
        none
      else
        shape.known? members

/-- The fields that a document gives, from its object form or from its list form. -/
def Shape.fields? (shape : Shape) : Json → Option Fields
  | array items =>
      if items.length ≤ shape.names.length then
        some (shape.names.zip items)
      else
        none
  | object members => do
      let fields ← shape.known? members
      if (fields.map Prod.fst).Nodup then
        some fields
      else
        none
  | _ => none

/-- A field that has to be given. -/
def Fields.required
    (fields : Fields)
    (name : String)
    (value? : Json → Option α) :
    Option α :=
  (fields.lookup name).bind value?

/-- A field that has a default. -/
def Fields.optional
    (fields : Fields)
    (name : String)
    (default : α)
    (value? : Json → Option α) :
    Option α :=
  match fields.lookup name with
  | some document => value? document
  | none => some default

/-- A word of an enumeration, also in the form of an object with that word as its only key. -/
def asWord? : Json → Option String
  | string content => content
  | object [(content, null)] => content
  | _ => none

end HierQuery.Json
