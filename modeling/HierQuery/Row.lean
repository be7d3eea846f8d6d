import HierQuery.ExecError
import HierQuery.Json.Keys

/-!
# Rows

A row has as many values as its type has columns.  A stored row also carries
its hierarchical key, whose table is the table of the row's type; a computed
row carries none.
-/

namespace HierQuery

/-- A row of a stream. -/
structure Row where
  rowType : RowType
  key? : Option HKey
  values : List Value
  arity : values.length = rowType.arity
  /-- A key names a row of the table that the row's type belongs to. -/
  placed :
    ∀ key, key? = some key →
      rowType.isTable = true ∧ key.table? = rowType.table?
deriving DecidableEq

namespace Row

/-- The name under which refused rows are reported. -/
def operatorName : String :=
  "Row"

/-- A row stored in a group table. -/
def stored
    (rowType : RowType)
    (key : HKey)
    (values : List Value) :
    Except ExecError Row :=
  if isTable : rowType.isTable = true then
    if sameTable : key.table? = rowType.table? then
      if arity : values.length = rowType.arity then
        .ok {
          rowType, key? := some key, values, arity
          placed := by
            intro other equal
            cases equal
            exact ⟨isTable, sameTable⟩ }
      else
        .error (.argument operatorName (.wrongArity rowType values.length))
    else
      .error (.argument operatorName (.foreignKey key rowType))
  else
    .error (.argument operatorName (.notTableType rowType))

/-- A row computed by an operator. -/
def computed
    (rowType : RowType)
    (values : List Value) :
    Except ExecError Row :=
  if arity : values.length = rowType.arity then
    .ok {
      rowType, key? := none, values, arity
      placed := by
        intro key impossible
        cases impossible }
  else
    .error (.argument operatorName (.wrongArity rowType values.length))

/-- The values with the name of the row's type, and the key if there is one. -/
def render (row : Row) : String :=
  row.rowType.name ++ "[" ++
    ", ".intercalate (row.values.map Value.render) ++ "]" ++
      match row.key? with
      | some key => " @ " ++ key.render
      | none => ""

/-- The members of the row's JSON object in the order in which they are put into it. -/
def jsonMembers (row : Row) : List (String × Json) :=
  ("_type", .text row.rowType.name) ::
    ((row.key?.map fun key => ("_hkey", .text key.render)).toList ++
      (row.rowType.columns.zip row.values).map fun (column, value) =>
        (column.name, value.toJson))

/--
The row as a JSON object with ascending keys: the name of its type, the
written key if there is one, and the values under the names of their columns.
Of members with one name the last one stays.
-/
def toJson (row : Row) : Json :=
  .sortedObject
    (row.jsonMembers.map fun member => (some member.1, member.2))

end Row

end HierQuery
