import HierQuery.Json.Printer
import HierQuery.Json.Reader
import HierQuery.Json.Record

/-!
# Execution options

Options are read from a JSON document in which every field may be left out.
A limit of no rows at all is refused.
-/

namespace HierQuery

/-- Which count of a table a query reads. -/
inductive CountMode
  /-- The committed count with the session's own changes. -/
  | exact
  /-- The committed count alone. -/
  | approximate
deriving DecidableEq, Inhabited

namespace CountMode

/-- The word for the mode in documents. -/
def render : CountMode → String
  | exact => "exact"
  | approximate => "approximate"

/-- The mode that a JSON word names. -/
def ofJson? (document : Json) : Option CountMode :=
  match document.asWord? with
  | some "exact" => some exact
  | some "approximate" => some approximate
  | _ => none

end CountMode

/-- The options of a query. -/
structure Config where
  /-- Log every call on every cursor. -/
  logOperatorExecution : Bool := false
  countMode : CountMode := .exact
  /-- The most rows that a scan from the command line returns. -/
  maxRows : Option Nat := none
deriving DecidableEq, Inhabited

/-- Why options could not be had. -/
inductive ConfigError
  /-- The document could not be read; `reason` is the system's report. -/
  | read (path reason : String)
  /-- The text is no JSON document of options. -/
  | parse
  | invalid (reason : String)
deriving DecidableEq, Inhabited

/-- What is wrong with the options, in words. -/
def ConfigError.render : ConfigError → String
  | read path reason => "failed to read config " ++ path ++ ": " ++ reason
  | parse => "invalid config JSON"
  | invalid reason => "invalid config value: " ++ reason

namespace Config

/-- The fields of the document; others are refused. -/
def shape : Json.Shape :=
  ⟨["log_operator_execution", "row_count_mode", "max_rows"], true⟩

/-- The options that a JSON document spells. -/
def ofJson? (document : Json) : Option Config := do
  let fields ← shape.fields? document
  let logOperatorExecution ←
    fields.optional "log_operator_execution" false Json.asBool?
  let countMode ←
    fields.optional "row_count_mode" .exact CountMode.ofJson?
  let maxRows ←
    fields.optional "max_rows" none
      (Json.asOption? (Json.asNatBelow? UInt64.size))
  some { logOperatorExecution, countMode, maxRows }

/-- Refuses a limit of no rows. -/
def validate (config : Config) : Except ConfigError Config :=
  if config.maxRows = some 0 then
    .error (.invalid "max_rows must be > 0")
  else
    .ok config

/-- The options that a text spells. -/
def read (text : String) : Except ConfigError Config :=
  match (Json.read text).bind ofJson? with
  | some config => config.validate
  | none => .error .parse

/-- The document of the options. -/
def toJson (config : Config) : Json :=
  .record
    [("log_operator_execution", .bool config.logOperatorExecution),
      ("row_count_mode", .text config.countMode.render),
      ("max_rows",
        match config.maxRows with
        | some limit => .nat limit
        | none => .null)]

end Config

end HierQuery
