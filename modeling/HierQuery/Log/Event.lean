import HierQuery.Log.Record

/-!
# Events of the engine

The events that the engine logs by itself.  Each has a fixed name and a fixed
severity; the events of single cursor calls are the mildest.
-/

namespace HierQuery

/-- An event of the engine. -/
inductive Event
  | configLoaded
  | fixtureLoaded
  | cursorOpen
  | rowYield
  | endOfStream
  /-- A scan dropped a row because of its limit. -/
  | limitReached
  | cursorClose
  | cursorDestroy
  /-- A row was refused because the query is canceled. -/
  | queryCanceled
  | tableStatusCreated
  | memoryTableStatusCreated
  | tableStatusCleared
  /-- The virtual tables lost their sources. -/
  | schemaDetached
  | sessionCommit
  | sessionRollback
deriving DecidableEq, Inhabited

namespace Event

/-- All events in their fixed order. -/
def all : List Event :=
  [configLoaded, fixtureLoaded,
    cursorOpen, rowYield, endOfStream, limitReached, cursorClose, cursorDestroy,
    queryCanceled,
    tableStatusCreated, memoryTableStatusCreated, tableStatusCleared,
    schemaDetached, sessionCommit, sessionRollback]

/-- The name of the event in a log record. -/
def render : Event → String
  | configLoaded => "CONFIG_LOADED"
  | fixtureLoaded => "FIXTURE_LOADED"
  | cursorOpen => "CURSOR_OPEN"
  | rowYield => "ROW_YIELD"
  | endOfStream => "END_OF_STREAM"
  | limitReached => "LIMIT_REACHED"
  | cursorClose => "CURSOR_CLOSE"
  | cursorDestroy => "CURSOR_DESTROY"
  | queryCanceled => "QUERY_CANCELED"
  | tableStatusCreated => "TABLE_STATUS_CREATED"
  | memoryTableStatusCreated => "MEMORY_TABLE_STATUS_CREATED"
  | tableStatusCleared => "TABLE_STATUS_CLEARED"
  | schemaDetached => "SCHEMA_DETACHED"
  | sessionCommit => "SESSION_COMMIT"
  | sessionRollback => "SESSION_ROLLBACK"

/-- The severity at which the event is logged. -/
def severity : Event → Severity
  | cursorOpen | rowYield | endOfStream | limitReached
  | cursorClose | cursorDestroy => .trace
  | queryCanceled => .warn
  | _ => .info

/-- The log record of the event with the given fields. -/
def record (event : Event) (fields : List Log.Field) : Log.Record :=
  ⟨event.severity, event.render, fields⟩

end Event

end HierQuery
