import HierQuery.Log.Record

/-!
# Observation scopes

A scope logs the start and the outcome of one unit of work.  To tell an outcome
finishes the scope.  A scope is dropped when the work is left, in whatever way, and
one that is dropped without being finished logs that it has no outcome.

A line that tells how long the work took waits for the time, so what a scope logged
since its start is kept with the scope.
-/

namespace HierQuery

/-- What a scope logs after its start. -/
inductive Scope.Line
  /-- The work succeeded, with further fields to tell. -/
  | complete (extra : List Log.Field)
  | canceled
  | failed (severity : Severity) (code reason : String)
  | incomplete
deriving DecidableEq

/-- A unit of work whose start has been logged. -/
structure Scope where
  name : String
  /-- Fields that all records of the scope repeat. -/
  fields : List Log.Field
  /-- Whether an outcome was told. -/
  finished : Bool := false
  /-- What was logged since the start, in order. -/
  lines : List Scope.Line := []
deriving DecidableEq

namespace Scope

/-- A record of the scope: its own fields, then those of the occasion. -/
def record
    (scope : Scope)
    (severity : Severity)
    (occasion : String)
    (extra : List Log.Field) :
    Log.Record :=
  ⟨severity, scope.name ++ "_" ++ occasion, scope.fields ++ extra⟩

/-- The record of the start. -/
def started (scope : Scope) : Log.Record :=
  scope.record .info "BEGIN" []

/-- Logs a line. -/
def logged (scope : Scope) (line : Line) : Scope :=
  { scope with lines := scope.lines ++ [line] }

/-- Tells that the work succeeded. -/
def complete (scope : Scope) (extra : List Log.Field) : Scope :=
  { scope with finished := true }.logged (.complete extra)

/-- Tells that the work was canceled on purpose. -/
def canceled (scope : Scope) : Scope :=
  { scope with finished := true }.logged .canceled

/-- Tells that the work failed. -/
def fail
    (scope : Scope)
    (severity : Severity)
    (code reason : String) :
    Scope :=
  { scope with finished := true }.logged (.failed severity code reason)

/-- Leaves the scope, which logs that if no outcome was told. -/
def dropped (scope : Scope) : Scope :=
  if scope.finished then
    scope
  else
    scope.logged .incomplete

/-- The record of a line; a success tells the time it took, in milliseconds. -/
def recordOf (scope : Scope) (elapsed : String) : Line → Log.Record
  | .complete extra =>
      scope.record .info "COMPLETE" (("elapsed_ms", elapsed) :: extra)
  | .canceled =>
      scope.record .warn "CANCELED" []
  | .failed severity code reason =>
      scope.record severity "FAILED" [("code", code), ("reason", reason)]
  | .incomplete =>
      scope.record .warn "INCOMPLETE"
        [("reason", "scope dropped without outcome")]

/-- What was logged since the start, given the time that the work took. -/
def log (scope : Scope) (elapsed : String) : Log :=
  scope.lines.map (scope.recordOf elapsed)

end Scope

end HierQuery
