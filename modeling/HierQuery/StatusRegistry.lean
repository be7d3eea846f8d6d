import HierQuery.Log.Event
import HierQuery.StorageError
import HierQuery.TableStatus

/-!
# The registry of table statuses

The registry knows the status of each registered table.  Whoever looked a
status up keeps a handle to it, and the handle stays good after the table was
dropped: it then leads to counters which no table uses any more.  So the
registry keeps every status that it ever issued, and which of them is
registered under which table.

Commits publish the buffered changes of a session.  A change for a table that
is not registered, or is registered as a virtual one, is thrown away.
-/

namespace HierQuery

/-- A handle to a status; equal handles lead to one status. -/
structure StatusHandle where
  index : Nat
deriving DecidableEq, Inhabited

/-- All statuses, and those that are registered. -/
structure StatusRegistry where
  /-- Every status ever issued, in order; a handle counts into this list. -/
  issued : List TableStatus := []
  registered : SortedMap TableId StatusHandle := .empty
deriving DecidableEq, Inhabited

namespace StatusRegistry

/-- The status behind a handle. -/
def get? (registry : StatusRegistry) (handle : StatusHandle) : Option TableStatus :=
  registry.issued[handle.index]?

/-- The status registered for a table. -/
def statusOf? (registry : StatusRegistry) (table : TableId) : Option TableStatus :=
  (registry.registered.get? table).bind registry.get?

/-- Changes the status behind a handle. -/
def modify
    (registry : StatusRegistry)
    (handle : StatusHandle)
    (change : TableStatus → TableStatus) :
    StatusRegistry :=
  { registry with issued := registry.issued.modify handle.index change }

/-- Issues a status and registers it. -/
def issue
    (registry : StatusRegistry)
    (status : TableStatus) :
    StatusHandle × StatusRegistry :=
  let handle : StatusHandle := ⟨registry.issued.length⟩
  (handle,
    { issued := registry.issued ++ [status]
      registered := registry.registered.insert status.table handle })

@[simp]
theorem get?_modify
    (registry : StatusRegistry)
    (handle other : StatusHandle)
    (change : TableStatus → TableStatus) :
    (registry.modify handle change).get? other =
      if handle = other then
        (registry.get? other).map change
      else
        registry.get? other := by
  cases handle
  cases other
  simp [get?, modify, List.getElem?_modify, StatusHandle.mk.injEq]
  split <;> simp

@[simp]
theorem registered_modify
    (registry : StatusRegistry)
    (handle : StatusHandle)
    (change : TableStatus → TableStatus) :
    (registry.modify handle change).registered = registry.registered :=
  rfl

@[simp]
theorem get?_issue
    (registry : StatusRegistry)
    (status : TableStatus) :
    (registry.issue status).2.get? (registry.issue status).1 = some status := by
  simp [get?, issue]

/-- The number of registered tables. -/
def size (registry : StatusRegistry) : Nat :=
  registry.registered.size

/-- The handle to the status of a registered table. -/
def lookup
    (registry : StatusRegistry)
    (table : TableId) :
    Except StorageError StatusHandle :=
  match registry.registered.get? table with
  | some handle => .ok handle
  | none => .error (.unknownTable table)

/-- The status of a registered table. -/
def status
    (registry : StatusRegistry)
    (table : TableId) :
    Except StorageError TableStatus :=
  match registry.statusOf? table with
  | some status => .ok status
  | none => .error (.unknownTable table)

/-- The field that names a table in log records. -/
def tableField (table : TableId) : Log.Field :=
  ("table_id", table.render)

/-- The handle to the status of a table, which is registered as a stored one if it is new. -/
def createStored
    (registry : StatusRegistry)
    (table : TableId) :
    StatusHandle × StatusRegistry × Log :=
  match registry.registered.get? table with
  | some handle => (handle, registry, [])
  | none =>
      let (handle, registry) := registry.issue (.stored { table })
      (handle, registry, [Event.tableStatusCreated.record [tableField table]])

/--
The handle to the status of a virtual table.  A status that exists keeps its
unique ids and gets the new source; a stored table is refused.
-/
def createVirtual
    (registry : StatusRegistry)
    (table : TableId)
    (source : RowSource) :
    Except StorageError StatusHandle × StatusRegistry × Log :=
  match registry.registered.get? table with
  | some handle =>
      match registry.get? handle with
      | some (.virtual _) =>
          (.ok handle, registry.modify handle fun status => status.attach source, [])
      | _ =>
          (.error
            (.duplicateKey ("table " ++ table.render ++ " (already a stored table)")),
            registry, [])
  | none =>
      let (handle, registry) :=
        registry.issue (.virtual { table, source := some source })
      (.ok handle, registry,
        [Event.memoryTableStatusCreated.record
          [("name", source.name), tableField table]])

/-- Whether a registered handle leads to a virtual table. -/
def isVirtual (registry : StatusRegistry) (handle : StatusHandle) : Bool :=
  match registry.get? handle with
  | some (.virtual _) => true
  | _ => false

/-- Takes the sources of all registered virtual tables away. -/
def detach (registry : StatusRegistry) : StatusRegistry × Log :=
  let virtuals :=
    (registry.registered.entries.map Prod.snd).filter registry.isVirtual
  (virtuals.foldl (fun registry handle => registry.modify handle .detach) registry,
    [Event.schemaDetached.record
      [("detached", Nat.repr virtuals.length)]])

/--
Resets a table and forgets what the session buffered for it.  A stored table
stays registered with zeroed counters; a virtual one is no longer registered.
-/
def clear
    (registry : StatusRegistry)
    (table : TableId)
    (session : Session) :
    Except StorageError Unit × StatusRegistry × Session × Log :=
  match registry.registered.get? table with
  | none => (.error (.unknownTable table), registry, session, [])
  | some handle =>
      let (kind, cleared) :=
        match registry.get? handle with
        | some (.virtual status) =>
            ((TableStatus.virtual status).kind,
              { registry with registered := registry.registered.erase table })
        | some (.stored status) =>
            ((TableStatus.stored status).kind, registry.modify handle .zeroed)
        | none => ("", registry)
      (.ok (), cleared, session.discard table,
        [Event.tableStatusCleared.record [("kind", kind), tableField table]])

/-- Resets a table and takes it out of the registry. -/
def drop
    (registry : StatusRegistry)
    (table : TableId)
    (session : Session) :
    Except StorageError Unit × StatusRegistry × Session × Log :=
  match registry.clear table session with
  | (.ok (), cleared, session, log) =>
      (.ok (),
        { cleared with registered := cleared.registered.erase table },
        session, log)
  | failed => failed

/-- Publishes one buffered change and tells whether a stored table took it. -/
def publish
    (registry : StatusRegistry)
    (table : TableId)
    (change : PendingCount) :
    Bool × StatusRegistry :=
  match registry.registered.get? table with
  | none => (false, registry)
  | some handle =>
      match registry.get? handle with
      | some (.stored _) =>
          (true, registry.modify handle fun status => status.apply change)
      | _ => (false, registry)

/-- Publishes all buffered changes of a session and empties its buffer. -/
def commit
    (registry : StatusRegistry)
    (session : Session) :
    StatusRegistry × Session × Log :=
  let (applied, published) :=
    session.pending.entries.foldl
      (fun (applied, registry) (table, change) =>
        let (taken, registry) := registry.publish table change
        (if taken then applied + 1 else applied, registry))
      (0, registry)
  (published, session.drained,
    [Event.sessionCommit.record
      [("session_id", session.id), ("tables", Nat.repr applied)]])

end StatusRegistry

/-- Forgets all buffered changes of a session. -/
def Session.rollback (session : Session) : Session × Log :=
  (session.drained,
    [Event.sessionRollback.record
      [("session_id", session.id),
        ("tables", Nat.repr session.pending.size)]])

end HierQuery
