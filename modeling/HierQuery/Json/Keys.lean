import HierQuery.HKey.Basic
import HierQuery.Json.Printer
import HierQuery.Json.Reader
import HierQuery.Json.Record

/-!
# JSON forms of values and hierarchical keys

A value is written as the JSON leaf of its kind, so the kind is told by the
shape alone.  A key is written as a record with one list of segments, and a
segment as a record of its table and its key values.
-/

namespace HierQuery

/-- The JSON leaf of the value's kind. -/
def Value.toJson : Value → Json
  | null => .null
  | bool flag => .bool flag
  | int number => .int number.toInt
  | text content => .text content

/-- The value of a leaf.  Lists, objects and all numbers but 64-bit integers are refused. -/
def Value.ofJson? : Json → Option Value
  | .null => some .null
  | .bool flag => some (.bool flag)
  | .int number => ((Json.int number).asInt64?).map .int
  | .string content => content.map .text
  | _ => none

namespace HKey

/-- The table of a segment and its values, in this order. -/
def Segment.toJson (segment : Segment) : Json :=
  .record
    [("table_id", .nat segment.table.value.toNat),
      ("values", .array (segment.values.map Value.toJson))]

/-- The record that holds the segments of a key. -/
def toJson (key : HKey) : Json :=
  .record [("segments", .array (key.segments.map Segment.toJson))]

/-- The number of a table. -/
def tableOfJson? (document : Json) : Option TableId :=
  (document.asNatBelow? UInt32.size).map fun number => ⟨UInt32.ofNat number⟩

/-- A segment; members other than its two fields are passed over. -/
def Segment.ofJson? (document : Json) : Option Segment := do
  let shape : Json.Shape := ⟨["table_id", "values"], false⟩
  let fields ← shape.fields? document
  let table ← fields.required "table_id" tableOfJson?
  let values ← fields.required "values" (Json.asList? Value.ofJson?)
  some ⟨table, values⟩

/-- A key; members other than its segments are passed over. -/
def ofJson? (document : Json) : Option HKey := do
  let shape : Json.Shape := ⟨["segments"], false⟩
  let fields ← shape.fields? document
  let segments ← fields.required "segments" (Json.asList? Segment.ofJson?)
  some ⟨segments⟩

/-- The key that a text spells. -/
def read? (text : String) : Option HKey :=
  (Json.read text).bind ofJson?

end HKey

/-- The values that a text spells as a list. -/
def Value.readList? (text : String) : Option (List Value) :=
  (Json.read text).bind (Json.asList? Value.ofJson?)

end HierQuery
