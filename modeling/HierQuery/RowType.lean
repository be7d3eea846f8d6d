import HierQuery.Ident

/-!
# Row types

Every stream of rows has a row type: the columns of its rows and where they
come from.  Rows of a table know the table's place in the hierarchy.  The rows
of a whole group table have a type of their own, without columns, because
rows of several tables are mixed in it.  Computed rows belong to no table.
-/

namespace HierQuery

/-- What a column may hold, beside the absent value. -/
inductive ColumnType
  | int
  | text
  | bool
deriving DecidableEq, Inhabited

/-- The word for the column type in documents. -/
def ColumnType.render : ColumnType → String
  | int => "int"
  | text => "text"
  | bool => "bool"

/-- The name of the column type in messages. -/
def ColumnType.title : ColumnType → String
  | int => "Int"
  | text => "Text"
  | bool => "Bool"

/-- A named column. -/
structure Column where
  name : String
  columnType : ColumnType
deriving DecidableEq, Inhabited

/-- Where a table sits in the hierarchy. -/
structure Placement where
  table : TableId
  /-- The table one level up; a root table has none. -/
  parent? : Option TableId
  group : GroupId
deriving DecidableEq, Inhabited

/-- Where the rows of a type come from. -/
inductive RowType.Kind
  /-- Rows stored for one table. -/
  | table (placement : Placement)
  /-- Any row of a group table. -/
  | group (group : GroupId)
  /-- Rows computed by an operator. -/
  | values
deriving DecidableEq, Inhabited

/-- The type of the rows of a stream. -/
structure RowType where
  /-- The number of the type in its schema. -/
  typeId : UInt32
  name : String
  columns : List Column
  kind : RowType.Kind
deriving DecidableEq, Inhabited

namespace RowType

/-- The number of fields of a row. -/
def arity (rowType : RowType) : Nat :=
  rowType.columns.length

/-- The place of the table whose rows have this type. -/
def placement? (rowType : RowType) : Option Placement :=
  match rowType.kind with
  | .table placement => some placement
  | _ => none

/-- The table whose rows have this type. -/
def table? (rowType : RowType) : Option TableId :=
  rowType.placement?.map Placement.table

/-- Whether the rows are stored for one table. -/
def isTable (rowType : RowType) : Bool :=
  rowType.placement?.isSome

/-- The name of the type with the number that tells it apart. -/
def render (rowType : RowType) : String :=
  match rowType.kind with
  | .table placement =>
      rowType.name ++ "(t" ++ placement.table.render ++ ")"
  | .group group =>
      rowType.name ++ "(g" ++ group.render ++ ")"
  | .values =>
      "values" ++ Nat.repr rowType.typeId.toNat ++ "(" ++ rowType.name ++ ")"

end RowType

end HierQuery
