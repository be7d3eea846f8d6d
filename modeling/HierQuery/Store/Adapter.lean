import HierQuery.Cursor.Protocol
import HierQuery.HKey.Range
import HierQuery.Schema

/-!
# What a plan needs from a store

A store gives out cursors over single group tables and tells how many rows a
table has.  A storage cursor walks its group in the order of the keys; it may
be moved to a range of keys while it is idle.
-/

namespace HierQuery

/-- The services of a store whose state is `σ` and whose cursors are `κ`. -/
structure StoreAdapter (κ σ : Type) extends CursorProtocol κ σ where
  /-- A fresh, idle cursor over a whole group. -/
  newCursor : GroupTable → σ → Except ExecError κ × σ
  /-- Moves an idle cursor to a range of keys, for when it is opened next. -/
  rebind : KeyRange → κ → σ → Outcome κ σ Unit
  /-- The number of rows of the table with the given row type. -/
  rowCount : RowType → σ → Except ExecError Int64 × σ

end HierQuery
