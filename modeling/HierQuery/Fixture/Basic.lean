import HierQuery.Fixture.Document
import HierQuery.Fixture.Error
import HierQuery.Row
import HierQuery.Schema

/-!
# Fixtures

A fixture is a schema with rows for its tables.  It is made from a document by
registering the tables one after another and building the rows, each with its
full key.  The first thing that does not fit is the failure.
-/

namespace HierQuery

/-- A schema and the rows to store in its tables, in order. -/
structure Fixture where
  schema : Schema
  rows : List Row
  /-- Whether the row counts are committed after loading. -/
  commit : Bool
deriving DecidableEq

/-- Whether a column of the type may hold the value; each may hold the absent one. -/
def ColumnType.admits : ColumnType → Value → Bool
  | _, .null => true
  | int, .int _ => true
  | text, .text _ => true
  | bool, .bool _ => true
  | _, _ => false

/--
The tables from the root down to the given place.  A chain of parents in a
schema passes through each of its tables at most once, so it is followed for
as many steps as there are tables.
-/
def Schema.lineage (schema : Schema) (placement : Placement) : List TableId :=
  climb schema.tables.length placement [placement.table]
where
  /-- Puts the tables above a place in front of those below. -/
  climb : Nat → Placement → List TableId → List TableId
    | 0, _, below => below
    | steps + 1, placement, below =>
        match (placement.parent?.bind schema.table?).bind RowType.placement? with
        | some upper => climb steps upper (upper.table :: below)
        | none => below

namespace Fixture

/-- The key of a row of a table from the key values of its levels. -/
def placeKey
    (schema : Schema)
    (rowType : RowType)
    (levels : List (List Value)) :
    Except FixtureError HKey :=
  let tables := (rowType.placement?.map schema.lineage).getD []
  if tables.length = levels.length then
    .ok ⟨tables.zipWith HKey.Segment.mk levels⟩
  else
    .error (.keyDepth rowType.name tables.length levels.length)

/-- Refuses the first value that its column may not hold. -/
def checkValues
    (rowType : RowType)
    (values : List Value) :
    Except FixtureError Unit :=
  let misfit? :=
    (rowType.columns.zip values).find? fun (column, value) =>
      !column.columnType.admits value
  match misfit? with
  | some (column, value) =>
      .error (.valueType rowType.name column.name column.columnType value)
  | none => .ok ()

/-- The table with a name. -/
def tableNamed
    (schema : Schema)
    (name : String) :
    Except FixtureError RowType :=
  match schema.tableNamed? name with
  | some rowType => .ok rowType
  | none => .error (.unknownTable name)

/-- Registers a table below its parent, which must be known. -/
def addTable
    (schema : Schema)
    (entry : TableEntry) :
    Except FixtureError Schema := do
  let parent? ←
    match entry.parent? with
    | some name => (tableNamed schema name).map RowType.table?
    | none => pure none
  match schema.newTable entry.name entry.columns parent? with
  | (.ok _, added) => .ok added
  | (.error error, _) => .error (.execution error)

/-- The row of an entry, with its full key. -/
def buildRow
    (schema : Schema)
    (entry : RowEntry) :
    Except FixtureError Row := do
  let rowType ← tableNamed schema entry.table
  checkValues rowType entry.values
  let key ← placeKey schema rowType entry.levels
  (Row.stored rowType key entry.values).mapError .execution

/-- The fixture of a document. -/
def ofDocument (document : Document) : Except FixtureError Fixture := do
  let schema ← document.tables.foldlM addTable Schema.empty
  let rows ← document.rows.mapM (buildRow schema)
  .ok { schema, rows, commit := document.commit }

/-- The fixture that a text spells. -/
def read (text : String) : Except FixtureError Fixture :=
  match Document.read? text with
  | some document => ofDocument document
  | none => .error .parse

end Fixture

end HierQuery
