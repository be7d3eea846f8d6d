import HierQuery.Json.Keys
import HierQuery.RowType

/-!
# Fixture documents

A fixture document lists tables, each after its parent, and rows.  The key of
a row is written as one list of key values for each level, root level first.

This module reads the form of a document.  Whether the tables and the rows fit
together is checked later.
-/

namespace HierQuery.Fixture

/-- A table as a document gives it. -/
structure TableEntry where
  name : String
  parent? : Option String
  columns : List Column
deriving DecidableEq, Inhabited

/-- A row as a document gives it. -/
structure RowEntry where
  table : String
  /-- The key values of each level. -/
  levels : List (List Value)
  values : List Value
deriving DecidableEq, Inhabited

/-- A fixture document. -/
structure Document where
  tables : List TableEntry
  rows : List RowEntry
  /-- Whether the row counts are committed after loading. -/
  commit : Bool
deriving DecidableEq, Inhabited

/-- The column type that a JSON word names. -/
def columnTypeOfJson? (document : Json) : Option ColumnType :=
  match document.asWord? with
  | some "int" => some .int
  | some "text" => some .text
  | some "bool" => some .bool
  | _ => none

/-- A column; members other than its two fields are passed over. -/
def columnOfJson? (document : Json) : Option Column := do
  let shape : Json.Shape := ⟨["name", "column_type"], false⟩
  let fields ← shape.fields? document
  let name ← fields.required "name" Json.asText?
  let columnType ← fields.required "column_type" columnTypeOfJson?
  some ⟨name, columnType⟩

/-- A table; members other than its fields are refused. -/
def TableEntry.ofJson? (document : Json) : Option TableEntry := do
  let shape : Json.Shape := ⟨["name", "parent", "columns"], true⟩
  let fields ← shape.fields? document
  let name ← fields.required "name" Json.asText?
  let parent? ← fields.optional "parent" none (Json.asOption? Json.asText?)
  let columns ← fields.required "columns" (Json.asList? columnOfJson?)
  some { name, parent?, columns }

/-- The key values of all levels, root level first. -/
def levelsOfJson? : Json → Option (List (List Value)) :=
  Json.asList? (Json.asList? Value.ofJson?)

/-- A row; members other than its fields are refused. -/
def RowEntry.ofJson? (document : Json) : Option RowEntry := do
  let shape : Json.Shape := ⟨["table", "hkey", "values"], true⟩
  let fields ← shape.fields? document
  let table ← fields.required "table" Json.asText?
  let levels ← fields.required "hkey" levelsOfJson?
  let values ← fields.required "values" (Json.asList? Value.ofJson?)
  some { table, levels, values }

/-- A fixture; members other than its fields are refused. -/
def Document.ofJson? (document : Json) : Option Document := do
  let shape : Json.Shape := ⟨["tables", "rows", "commit"], true⟩
  let fields ← shape.fields? document
  let tables ← fields.required "tables" (Json.asList? TableEntry.ofJson?)
  let rows ← fields.optional "rows" [] (Json.asList? RowEntry.ofJson?)
  let commit ← fields.optional "commit" true Json.asBool?
  some { tables, rows, commit }

/-- The document that a text spells. -/
def Document.read? (text : String) : Option Document :=
  (Json.read text).bind ofJson?

end HierQuery.Fixture
