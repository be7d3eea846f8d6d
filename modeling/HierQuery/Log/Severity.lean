/-!
# Severities of log records
-/

namespace HierQuery

/-- How grave a logged event is. -/
inductive Severity
  /-- A single call on a cursor. -/
  | trace
  /-- Normal operation. -/
  | info
  /-- A deliberate interruption or a recoverable issue. -/
  | warn
  /-- A failed query. -/
  | error
  /-- A broken contract. -/
  | fatal
deriving DecidableEq, Inhabited

namespace Severity

/-- All severities, mildest first. -/
def all : List Severity :=
  [trace, info, warn, error, fatal]

/-- The place of the severity, mildest first. -/
def rank : Severity → Nat
  | trace => 0
  | info => 1
  | warn => 2
  | error => 3
  | fatal => 4

instance : Ord Severity :=
  ⟨compareOn rank⟩

/-- The name of the severity in a log record. -/
def render : Severity → String
  | trace => "TRACE"
  | info => "INFO"
  | warn => "WARN"
  | error => "ERROR"
  | fatal => "FATAL"

end Severity

end HierQuery
