import HierQuery.Lifecycle
import HierQuery.Store.Adapter
import HierQuery.Store.Memory

/-!
# Cursors over the groups of a memory store

A storage cursor remembers the key of the row that it handed out last and
looks in the group, as it is at that moment, for the row that comes next.
Therefore rows may be written and deleted while cursors are open.
-/

namespace HierQuery

/-- A cursor over one group of a memory store. -/
structure GroupCursor where
  group : GroupId
  state : CursorState := .idle
  /-- The keys that the cursor visits. -/
  range : KeyRange := .whole
  /-- The key of the last row since the cursor was opened. -/
  position? : Option HKey := none
deriving DecidableEq, Inhabited

/-- The first row of a range that comes after the given position, if one is given. -/
def GroupRows.following?
    (rows : GroupRows)
    (range : KeyRange)
    (position? : Option HKey) :
    Option (HKey × Row) :=
  let candidate? :=
    match position?, range.start? with
    | some last, _ => rows.firstAfter? last
    | none, some start => rows.firstFrom? start
    | none, none => rows.first?
  candidate?.filter fun (key, _) => range.contains key

namespace GroupCursor

/-- The name of the cursor in failures. -/
def operatorName : String :=
  "GroupCursor"

/-- Makes an idle cursor active, before its first row. -/
def openWith
    (_ : Bindings)
    (cursor : GroupCursor)
    (store : MemoryStore) :
    Outcome GroupCursor MemoryStore Unit :=
  match cursor.state.requireIdle operatorName with
  | .error error => .fail error cursor store
  | .ok () =>
      .pure () { cursor with state := .active, position? := none } store

/-- Hands out the row that follows the position in the group of this moment. -/
def next
    (cursor : GroupCursor)
    (store : MemoryStore) :
    Outcome GroupCursor MemoryStore (Option Row) :=
  match cursor.state.requireActive operatorName with
  | .error error => .fail error cursor store
  | .ok () =>
      let rows := (store.groups.get? cursor.group).getD .empty
      match GroupRows.following? rows cursor.range cursor.position? with
      | some (key, row) =>
          .pure (some row) { cursor with position? := some key } store
      | none =>
          .pure none { cursor with state := .idle, position? := none } store

/-- Makes the cursor idle, which it may be already. -/
def close
    (cursor : GroupCursor)
    (store : MemoryStore) :
    Outcome GroupCursor MemoryStore Unit :=
  match cursor.state.requireAlive operatorName with
  | .error error => .fail error cursor store
  | .ok () =>
      .pure () { cursor with state := .idle, position? := none } store

/-- Ends the cursor's life. -/
def destroy
    (cursor : GroupCursor)
    (store : MemoryStore) :
    Outcome GroupCursor MemoryStore Unit :=
  match cursor.state.requireAlive operatorName with
  | .error error => .fail error cursor store
  | .ok () =>
      .pure ()
        { group := cursor.group, state := .destroyed } store

/-- Moves an idle cursor to a range. -/
def rebind
    (range : KeyRange)
    (cursor : GroupCursor)
    (store : MemoryStore) :
    Outcome GroupCursor MemoryStore Unit :=
  match cursor.state.requireIdle operatorName with
  | .error error => .fail error cursor store
  | .ok () => .pure () { cursor with range } store

end GroupCursor

namespace MemoryStore

/-- A fresh cursor over a group of the store. -/
def newCursor
    (group : GroupTable)
    (store : MemoryStore) :
    Except ExecError GroupCursor × MemoryStore :=
  ((store.rowsIn group.id).map fun _ => { group := group.id }, store)

/-- The store as plans use it; virtual tables count what their sources say. -/
def adapter (sources : SourceRows) : StoreAdapter GroupCursor MemoryStore where
  state := GroupCursor.state
  openWith := GroupCursor.openWith
  next := GroupCursor.next
  close := GroupCursor.close
  destroy := GroupCursor.destroy
  rowBound := size
  newCursor := newCursor
  rebind := GroupCursor.rebind
  rowCount := fun rowType store => (store.rowCount sources rowType, store)

end MemoryStore

end HierQuery
