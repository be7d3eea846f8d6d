import HierQuery.Json.Printer
import HierQuery.Log.Severity

/-!
# Log records

A log record is one line: a JSON object whose first members are the event and
the severity, followed by the fields in the order of their keys.  Fields with
equal keys keep the order in which they were given.
-/

namespace HierQuery.Log

/-- One field of a log record: key and text. -/
abbrev Field :=
  String × String

/-- A logged event. -/
structure Record where
  severity : Severity
  event : String
  fields : List Field
deriving DecidableEq, Inhabited

namespace Record

/-- The fields in the order of their keys; equal keys stay as they were. -/
def sortedFields (record : Record) : List Field :=
  record.fields.mergeSort fun first second =>
    (compare first.1 second.1).isLE

/-- A member of the written record, with the comma before it. -/
def fieldChars (field : Field) : List Char :=
  ',' :: (Json.quoteChars field.1.toList ++
    ':' :: Json.quoteChars field.2.toList)

/-- The characters of the written record without the line break. -/
def chars (record : Record) : List Char :=
  "\x7b\"event\":".toList ++ Json.quoteChars record.event.toList ++
    ",\"severity\":".toList ++
      Json.quoteChars record.severity.render.toList ++
        record.sortedFields.flatMap fieldChars ++ ['\x7d']

/-- The written record without the line break. -/
def line (record : Record) : String :=
  String.ofList record.chars

/-- The written record: one line, line break included. -/
def render (record : Record) : String :=
  String.ofList (record.chars ++ ['\n'])

end Record

end HierQuery.Log

namespace HierQuery

/-- The records that were logged, oldest first. -/
abbrev Log :=
  List Log.Record

end HierQuery
