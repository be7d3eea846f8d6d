import HierQuery.Session

/-!
# Table statuses

A table status holds the counters of one table.  For a stored table the row
count changes through sessions, while the auto-increment mark and the unique
ids take effect at once.  For a virtual table the row count is whatever its
source says and everything but the unique ids is ignored.
-/

namespace HierQuery

/-- The source of a virtual table's row count. -/
structure RowSource where
  /-- Sources with one number are one source. -/
  number : Nat
  name : String
deriving DecidableEq, Inhabited

/-- What the sources count at present. -/
abbrev SourceRows :=
  RowSource → Int64

/-- The counters of a table whose rows are stored. -/
structure StoredStatus where
  table : TableId
  rowCount : Int64 := 0
  autoIncrement : Int64 := 0
  uniqueId : Int64 := 0
deriving DecidableEq, Inhabited

/-- The counters of a virtual table. -/
structure VirtualStatus where
  table : TableId
  /-- A status that was detached has no source. -/
  source : Option RowSource
  uniqueId : Int64 := 0
deriving DecidableEq, Inhabited

/-- The status of a table; its kind never changes. -/
inductive TableStatus
  | stored (status : StoredStatus)
  | virtual (status : VirtualStatus)
deriving DecidableEq

namespace TableStatus

/-- The table whose status it is. -/
def table : TableStatus → TableId
  | stored status => status.table
  | virtual status => status.table

/-- The word for the kind of the status. -/
def kind : TableStatus → String
  | stored _ => "stored"
  | virtual _ => "memory"

/-- Records rows written, or deleted if `count` is negative, in a session. -/
def rowsWritten
    (status : TableStatus)
    (count : Int64)
    (session : Session) :
    Session :=
  match status with
  | stored status => session.addRows status.table count
  | virtual _ => session

/-- Records one row deleted in a session. -/
def rowDeleted (status : TableStatus) (session : Session) : Session :=
  status.rowsWritten (-1) session

/-- Sets the row count in a session. -/
def setRowCount
    (status : TableStatus)
    (count : Int64)
    (session : Session) :
    Session :=
  match status with
  | stored status => session.setRows status.table count
  | virtual _ => session

/-- Publishes a buffered change.  Virtual tables take none. -/
def apply (status : TableStatus) (change : PendingCount) : TableStatus :=
  match status with
  | stored status =>
      stored { status with rowCount := change.resolve status.rowCount }
  | virtual status => virtual status

/-- The committed row count. -/
def approximateRowCount
    (status : TableStatus)
    (rows : SourceRows) :
    Int64 :=
  match status with
  | stored status => status.rowCount
  | virtual status =>
      match status.source with
      | some source => rows source
      | none => 0

/-- The row count with a session's own changes. -/
def rowCount
    (status : TableStatus)
    (rows : SourceRows)
    (session : Session) :
    Int64 :=
  match status with
  | stored status =>
      match session.pending? status.table with
      | some change => change.resolve status.rowCount
      | none => status.rowCount
  | virtual _ => status.approximateRowCount rows

/-- The auto-increment mark; virtual tables have none. -/
def autoIncrement : TableStatus → Int64
  | stored status => status.autoIncrement
  | virtual _ => 0

/-- Raises the auto-increment mark; a lower one is ignored. -/
def raiseAutoIncrement
    (status : TableStatus)
    (mark : Int64) :
    TableStatus :=
  match status with
  | stored status =>
      stored { status with autoIncrement := max status.autoIncrement mark }
  | virtual status => virtual status

/-- Sets the auto-increment mark, also to a lower one. -/
def resetAutoIncrement
    (status : TableStatus)
    (mark : Int64) :
    TableStatus :=
  match status with
  | stored status => stored { status with autoIncrement := mark }
  | virtual status => virtual status

/-- Sets the row count to zero in a session and the auto-increment mark at once. -/
def truncate
    (status : TableStatus)
    (session : Session) :
    TableStatus × Session :=
  (status.resetAutoIncrement 0, status.setRowCount 0 session)

/-- The unique id issued last. -/
def uniqueId : TableStatus → Int64
  | stored status => status.uniqueId
  | virtual status => status.uniqueId

/-- The unique id issued last, for who can do with one that is out of date. -/
def approximateUniqueId : TableStatus → Int64
  | stored status => status.uniqueId
  | virtual status => status.uniqueId

/-- Issues the next unique id. -/
def issueUniqueId : TableStatus → Int64 × TableStatus
  | stored status =>
      let next := status.uniqueId + 1
      (next, stored { status with uniqueId := next })
  | virtual status =>
      let next := status.uniqueId + 1
      (next, virtual { status with uniqueId := next })

/-- Gives a virtual table a source. -/
def attach (status : TableStatus) (source : RowSource) : TableStatus :=
  match status with
  | stored status => stored status
  | virtual status => virtual { status with source := some source }

/-- Takes the source of a virtual table away. -/
def detach : TableStatus → TableStatus
  | stored status => stored status
  | virtual status => virtual { status with source := none }

/-- Sets all counters of a stored table to zero. -/
def zeroed : TableStatus → TableStatus
  | stored status => stored { table := status.table }
  | virtual status => virtual status

@[simp]
theorem table_apply (status : TableStatus) (change : PendingCount) :
    (status.apply change).table = status.table := by
  cases status <;> rfl

@[simp]
theorem table_zeroed (status : TableStatus) :
    status.zeroed.table = status.table := by
  cases status <;> rfl

@[simp]
theorem uniqueId_issueUniqueId (status : TableStatus) :
    status.issueUniqueId.2.uniqueId = status.issueUniqueId.1 := by
  cases status <;> rfl

end TableStatus

/-- The written form of a virtual table's status: its table and whether it has a source. -/
def VirtualStatus.render (status : VirtualStatus) : String :=
  "MemoryTableStatus \x7b table_id: TableId(" ++ status.table.render ++
    "), attached: " ++
      (if status.source.isSome then "true" else "false") ++ " \x7d"

end HierQuery
