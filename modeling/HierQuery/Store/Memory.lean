import HierQuery.Config
import HierQuery.HKey.Order
import HierQuery.Row
import HierQuery.Schema
import HierQuery.StatusRegistry

/-!
# A store in memory

The store keeps the rows of each group table in the order of their keys.  Rows
are written and deleted at once, while the row counts of the tables are
buffered in the session of the store until it commits.  A rollback forgets
the buffered counts and leaves the rows alone.
-/

namespace HierQuery

/-- The rows of one group table by their keys. -/
abbrev GroupRows :=
  SortedMap HKey Row

/-- The rows of all group tables of a schema, and the statuses of the tables. -/
structure MemoryStore where
  schema : Schema
  groups : SortedMap GroupId GroupRows
  statuses : StatusRegistry
  session : Session
  countMode : CountMode
deriving DecidableEq

namespace MemoryStore

/-- The name under which refused rows and tables are reported. -/
def operatorName : String :=
  "MemoryStoreAdapter"

/-- Registers a stored status for each of the given tables. -/
def registerTables
    (statuses : StatusRegistry)
    (tables : List TableId) :
    StatusRegistry × Log :=
  tables.foldl
    (fun (statuses, log) table =>
      let (_, statuses, created) := statuses.createStored table
      (statuses, log ++ created))
    (statuses, [])

/-- A store without rows, with a status for each table of the schema. -/
def create
    (schema : Schema)
    (statuses : StatusRegistry)
    (sessionId : String)
    (countMode : CountMode) :
    MemoryStore × Log :=
  let (statuses, log) :=
    registerTables statuses (schema.tables.filterMap RowType.table?)
  ({ schema, statuses, countMode
     groups := .ofList (schema.groups.map fun group => (group.id, .empty))
     session := { id := sessionId } },
    log)

/-- The rows of a group. -/
def rowsIn
    (store : MemoryStore)
    (group : GroupId) :
    Except ExecError GroupRows :=
  match store.groups.get? group with
  | some rows => .ok rows
  | none => .error (.ofStorage (.unknownGroup group))

/-- The group in which the rows of a table are stored, with all its rows. -/
def groupRowsOf
    (store : MemoryStore)
    (table : TableId) :
    Except ExecError (GroupId × GroupRows) :=
  match store.schema.groupOf? table with
  | none => .error (.ofStorage (.unknownTable table))
  | some group => (store.rowsIn group.id).map fun rows => (group.id, rows)

/-- The status of a table. -/
def status
    (store : MemoryStore)
    (table : TableId) :
    Except ExecError TableStatus :=
  (store.statuses.status table).mapError .ofStorage

/-- The store with other rows in a group. -/
def withRows
    (store : MemoryStore)
    (group : GroupId)
    (rows : GroupRows) :
    MemoryStore :=
  { store with groups := store.groups.insert group rows }

/-- Counts rows of a table in the session; fails if the table has no status. -/
def countRows
    (store : MemoryStore)
    (table : TableId)
    (count : Int64) :
    Except ExecError Unit × MemoryStore :=
  match store.status table with
  | .error error => (.error error, store)
  | .ok status =>
      (.ok (), { store with session := status.rowsWritten count store.session })

/--
Stores a row under its key, which must be free, and counts it.  The row is
stored before it is counted, so it stays stored if its table has no status.
-/
def writeRow
    (store : MemoryStore)
    (row : Row) :
    Except ExecError Unit × MemoryStore :=
  match row.key?, row.rowType.table? with
  | some key, some table =>
      match store.groupRowsOf table with
      | .error error => (.error error, store)
      | .ok (group, rows) =>
          if rows.contains key then
            (.error (.ofStorage (.duplicateKey key.render)), store)
          else
            (store.withRows group (rows.insert key row)).countRows table 1
  | _, _ => (.error (.argument operatorName (.notTableRow row.rowType)), store)

/--
Removes the row at a key and tells whether there was one.  The rows below it
stay.  The row is gone even if its table has no status any more.
-/
def deleteRow
    (store : MemoryStore)
    (key : HKey) :
    Except ExecError Bool × MemoryStore :=
  match key.table? with
  | none => (.error (.argument operatorName .emptyKey), store)
  | some table =>
      match store.groupRowsOf table with
      | .error error => (.error error, store)
      | .ok (group, rows) =>
          if rows.contains key then
            let (counted, store) :=
              (store.withRows group (rows.erase key)).countRows table (-1)
            (counted.map fun () => true, store)
          else
            (.ok false, store)

/-- The row count of a table as the store's count mode has it. -/
def rowCount
    (store : MemoryStore)
    (sources : SourceRows)
    (rowType : RowType) :
    Except ExecError Int64 :=
  match rowType.table? with
  | none => .error (.argument operatorName (.notTableType rowType))
  | some table =>
      (store.status table).map fun status =>
        match store.countMode with
        | .exact => status.rowCount sources store.session
        | .approximate => status.approximateRowCount sources

/-- Publishes the counts that the session buffers. -/
def commit (store : MemoryStore) : MemoryStore × Log :=
  let (statuses, session, log) := store.statuses.commit store.session
  ({ store with statuses, session }, log)

/-- Forgets the counts that the session buffers. -/
def rollback (store : MemoryStore) : MemoryStore × Log :=
  let (session, log) := store.session.rollback
  ({ store with session }, log)

/-- The number of rows in all groups together. -/
def size (store : MemoryStore) : Nat :=
  (store.groups.entries.flatMap fun (_, rows) => rows.entries).length

end MemoryStore

end HierQuery
