import HierQuery.Ident
import HierQuery.SortedMap

/-!
# Sessions

A session buffers its own changes to the row counts of tables.  For one table
the buffer holds a count that was set, if any, and the rows added since then.
Counts are 64-bit numbers and wrap around.
-/

namespace HierQuery

/-- A buffered change of one table's row count. -/
structure PendingCount where
  /-- The count that was set last, if one was. -/
  setTo : Option Int64 := none
  /-- The rows added since. -/
  delta : Int64 := 0
deriving DecidableEq, Inhabited

/-- The count after the change. -/
def PendingCount.resolve
    (change : PendingCount)
    (committed : Int64) :
    Int64 :=
  change.setTo.getD committed + change.delta

/-- A transaction on row counts. -/
structure Session where
  /-- The name of the session in log records. -/
  id : String
  pending : SortedMap TableId PendingCount := .empty
deriving DecidableEq, Inhabited

namespace Session

/-- The buffered change of a table. -/
def pending? (session : Session) (table : TableId) : Option PendingCount :=
  session.pending.get? table

/-- Whether any change is buffered. -/
def hasPendingChanges (session : Session) : Bool :=
  session.pending.size != 0

/-- Buffers rows added to a table, or removed from it if `count` is negative. -/
def addRows
    (session : Session)
    (table : TableId)
    (count : Int64) :
    Session :=
  let change := (session.pending? table).getD {}
  { session with
    pending := session.pending.insert table
      { change with delta := change.delta + count } }

/-- Buffers a count for a table; changes buffered before are void. -/
def setRows
    (session : Session)
    (table : TableId)
    (count : Int64) :
    Session :=
  { session with
    pending := session.pending.insert table ⟨some count, 0⟩ }

/-- Forgets the buffered change of a table. -/
def discard (session : Session) (table : TableId) : Session :=
  { session with pending := session.pending.erase table }

/-- The session with nothing buffered. -/
def drained (session : Session) : Session :=
  { session with pending := .empty }

theorem pending?_addRows
    (session : Session)
    (table other : TableId)
    (count : Int64) :
    (session.addRows table count).pending? other =
      if compare other table = .eq then
        some
          { (session.pending? table).getD {} with
            delta := ((session.pending? table).getD {}).delta + count }
      else
        session.pending? other := by
  simp [pending?, addRows]

@[simp]
theorem pending?_setRows
    (session : Session)
    (table other : TableId)
    (count : Int64) :
    (session.setRows table count).pending? other =
      if compare other table = .eq then
        some ⟨some count, 0⟩
      else
        session.pending? other := by
  simp [pending?, setRows]

@[simp]
theorem pending?_discard
    (session : Session)
    (table other : TableId) :
    (session.discard table).pending? other =
      if compare other table = .eq then none else session.pending? other := by
  simp [pending?, discard]

@[simp]
theorem pending?_drained (session : Session) (table : TableId) :
    session.drained.pending? table = none :=
  rfl

end Session

end HierQuery
