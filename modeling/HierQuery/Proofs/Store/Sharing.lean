import HierQuery.Proofs.Store.Registry

/-!
# Sessions that share a registry

Any number of sessions work on one registry of table statuses.  A session
calls statuses through the handles it holds, and each call on a row count is
buffered in that session alone; a commit publishes the buffer and a rollback
throws it away.

A registry is stocked if every status that it ever issued is still registered
for its table.  That is so as long as no table is dropped.  In a stocked
registry a handle stands for a table, and a commit changes the status behind a
handle exactly by what the session buffers for its table.
-/

namespace HierQuery

/-! ## Stocked registries -/

namespace StatusRegistry

/-- Every status that was issued is registered for its table. -/
structure Stocked (registry : StatusRegistry) : Prop where
  wellFormed : registry.WellFormed
  registered :
    ∀ handle status,
      registry.get? handle = some status →
        registry.registered.get? status.table = some handle

theorem stocked_empty : Stocked {} where
  wellFormed := wellFormed_empty
  registered := by
    intro handle status behind
    cases behind

/-- Behind a handle after an issue is the new status, or what was behind it before. -/
theorem get?_issue_cases
    {registry : StatusRegistry}
    {fresh status : TableStatus}
    {handle : StatusHandle}
    (behind : (registry.issue fresh).2.get? handle = some status) :
    handle = (registry.issue fresh).1 ∧ status = fresh ∨
      registry.get? handle = some status := by
  change (registry.issued ++ [fresh])[handle.index]? = some status at behind
  by_cases earlier : handle.index < registry.issued.length
  · rw [List.getElem?_append_left earlier] at behind
    exact .inr behind
  · have inside := (List.getElem?_eq_some_iff.1 behind).1
    rw [List.length_append, List.length_singleton] at inside
    have last : handle.index = registry.issued.length := by
      omega
    rw [last, List.getElem?_concat_length] at behind
    cases behind
    exact .inl ⟨congrArg StatusHandle.mk last, rfl⟩

/-- Registering a table keeps a registry stocked, whether or not the table is new. -/
theorem Stocked.createStored
    {registry : StatusRegistry}
    (stocked : registry.Stocked)
    (table : TableId) :
    (registry.createStored table).2.1.Stocked where
  wellFormed := stocked.wellFormed.createStored table
  registered := by
    intro handle status behind
    rw [StatusRegistry.createStored] at behind ⊢
    split at behind
    next =>
      exact stocked.registered handle status behind
    next unregistered =>
      change (registry.registered.insert table _).get? status.table = _
      rw [SortedMap.get?_insert]
      rcases get?_issue_cases behind with ⟨rfl, rfl⟩ | before
      · exact if_pos Std.ReflOrd.compare_self
      · have kept := stocked.registered handle status before
        rw [if_neg, kept]
        rw [Std.LawfulEqOrd.compare_eq_iff_eq]
        intro same
        rw [same, unregistered] at kept
        cases kept

theorem Stocked.modify
    {registry : StatusRegistry}
    (stocked : registry.Stocked)
    (handle : StatusHandle)
    {change : TableStatus → TableStatus}
    (sameTable : ∀ status, (change status).table = status.table) :
    (registry.modify handle change).Stocked where
  wellFormed := stocked.wellFormed.modify handle sameTable
  registered := by
    intro other status behind
    rw [get?_modify] at behind
    rw [registered_modify]
    split at behind
    next =>
      rcases Option.map_eq_some_iff.1 behind with ⟨before, found, rfl⟩
      rw [sameTable]
      exact stocked.registered other before found
    next =>
      exact stocked.registered other status behind

/-- A table of a stocked registry has the status behind its handle. -/
theorem Stocked.statusOf?_table
    {registry : StatusRegistry}
    (stocked : registry.Stocked)
    {handle : StatusHandle}
    {status : TableStatus}
    (behind : registry.get? handle = some status) :
    registry.statusOf? status.table = some status := by
  rw [statusOf?, stocked.registered handle status behind, Option.bind_some,
    behind]

@[simp]
theorem registered_publish
    (registry : StatusRegistry)
    (table : TableId)
    (change : PendingCount) :
    (registry.publish table change).2.registered = registry.registered := by
  rw [publish]
  split
  · rfl
  · split <;> rfl

theorem Stocked.publish
    {registry : StatusRegistry}
    (stocked : registry.Stocked)
    (table : TableId)
    (change : PendingCount) :
    (registry.publish table change).2.Stocked := by
  rw [StatusRegistry.publish]
  split
  · exact stocked
  · split
    · exact stocked.modify _ fun status => status.table_apply change
    · exact stocked

theorem Stocked.publishAll
    {registry : StatusRegistry}
    (stocked : registry.Stocked)
    (changes : List (TableId × PendingCount))
    (applied : Nat) :
    (publishAll changes (applied, registry)).2.Stocked ∧
      (publishAll changes (applied, registry)).2.registered =
        registry.registered := by
  induction changes generalizing applied registry with
  | nil =>
      exact ⟨stocked, rfl⟩
  | cons head tail ih =>
      rcases head with ⟨table, change⟩
      rcases
          ih (stocked.publish table change)
            (if (registry.publish table change).1 then applied + 1
              else applied) with
        ⟨tailStocked, tailRegistered⟩
      exact ⟨tailStocked,
        tailRegistered.trans (registered_publish registry table change)⟩

theorem Stocked.commit
    {registry : StatusRegistry}
    (stocked : registry.Stocked)
    (session : Session) :
    (registry.commit session).1.Stocked :=
  (stocked.publishAll session.pending.entries 0).1

/-- A commit changes the status behind a handle by what is buffered for its table. -/
theorem Stocked.get?_commit
    {registry : StatusRegistry}
    (stocked : registry.Stocked)
    (session : Session)
    {handle : StatusHandle}
    {status : TableStatus}
    (behind : registry.get? handle = some status) :
    (registry.commit session).1.get? handle =
      some (settle (session.pending? status.table) status) := by
  have kept :
      (registry.commit session).1.registered = registry.registered :=
    (stocked.publishAll session.pending.entries 0).2
  have committed :=
    stocked.wellFormed.statusOf?_commit session status.table
  rw [stocked.statusOf?_table behind, statusOf?, kept,
    stocked.registered handle status behind] at committed
  exact committed

/-- A session that buffers nothing commits nothing. -/
theorem commit_of_nothing_pending
    (registry : StatusRegistry)
    {session : Session}
    (nothing : session.hasPendingChanges = false) :
    (registry.commit session).1 = registry ∧
      (registry.commit session).2.1 = session := by
  rcases session with ⟨id, ⟨entries, ascending⟩⟩
  have empty : entries = [] := by
    simpa [Session.hasPendingChanges, SortedMap.size] using nothing
  subst empty
  exact ⟨rfl, rfl⟩

end StatusRegistry

/-! ## Calls -/

/-- The calls on a status by which a session changes a row count. -/
inductive CountCall
  | rowsWritten (count : Int64)
  | rowDeleted
  | setRowCount (count : Int64)
  | truncate
deriving DecidableEq

/-- The status and the session after a call. -/
def CountCall.on
    (made : CountCall)
    (status : TableStatus)
    (session : Session) :
    TableStatus × Session :=
  match made with
  | rowsWritten count => (status, status.rowsWritten count session)
  | rowDeleted => (status, status.rowDeleted session)
  | setRowCount count => (status, status.setRowCount count session)
  | truncate => status.truncate session

@[simp]
theorem CountCall.table_on
    (made : CountCall)
    (status : TableStatus)
    (session : Session) :
    (made.on status session).1.table = status.table := by
  cases made with
  | rowsWritten | rowDeleted | setRowCount =>
      rfl
  | truncate =>
      cases status <;> rfl

/-- What a session may do. -/
inductive SessionAction
  | call (handle : StatusHandle) (made : CountCall)
  | commit
  | rollback
deriving DecidableEq

/-- The registry and the session after an action; a handle that leads nowhere is no use. -/
def SessionAction.on
    (action : SessionAction)
    (registry : StatusRegistry)
    (session : Session) :
    StatusRegistry × Session :=
  match action with
  | call handle made =>
      match registry.get? handle with
      | none => (registry, session)
      | some status =>
          (registry.modify handle fun status => (made.on status session).1,
            (made.on status session).2)
  | commit =>
      ((registry.commit session).1, (registry.commit session).2.1)
  | rollback =>
      (registry, session.rollback.1)

/-- A registry and the sessions that share it. -/
structure Sharing (ι : Type) where
  registry : StatusRegistry
  sessions : ι → Session

namespace Sharing

variable {ι : Type} [DecidableEq ι]

/-- Sessions that buffer nothing yet, over a registry. -/
def fresh (registry : StatusRegistry) (ids : ι → String) : Sharing ι where
  registry := registry
  sessions := fun who => { id := ids who }

/-- The same registry, and one session in another state. -/
def withSession
    (sharing : Sharing ι)
    (who : ι)
    (session : Session) :
    Sharing ι :=
  { sharing with
    sessions := fun other =>
      if other = who then session else sharing.sessions other }

@[simp]
theorem registry_withSession
    (sharing : Sharing ι)
    (who : ι)
    (session : Session) :
    (sharing.withSession who session).registry = sharing.registry :=
  rfl

@[simp]
theorem sessions_withSession
    (sharing : Sharing ι)
    (who other : ι)
    (session : Session) :
    (sharing.withSession who session).sessions other =
      if other = who then session else sharing.sessions other :=
  rfl

@[simp]
theorem withSession_self (sharing : Sharing ι) (who : ι) :
    sharing.withSession who (sharing.sessions who) = sharing := by
  rcases sharing with ⟨registry, sessions⟩
  rw [withSession]
  congr 1
  ext1 other
  split
  next same =>
    rw [same]
  next =>
    rfl

/-- A session does something to the registry and to itself. -/
def turn
    (sharing : Sharing ι)
    (who : ι)
    (step : StatusRegistry → Session → StatusRegistry × Session) :
    Sharing ι :=
  let stepped := step sharing.registry (sharing.sessions who)
  ({ sharing with registry := stepped.1 }).withSession who stepped.2

/-- What a session does. -/
def perform
    (sharing : Sharing ι)
    (who : ι)
    (action : SessionAction) :
    Sharing ι :=
  sharing.turn who action.on

/-- A commit of a session that buffers nothing changes nothing. -/
theorem perform_commit_of_nothing_pending
    {sharing : Sharing ι}
    {who : ι}
    (nothing : (sharing.sessions who).hasPendingChanges = false) :
    sharing.perform who .commit = sharing := by
  rcases StatusRegistry.commit_of_nothing_pending sharing.registry nothing with
    ⟨sameRegistry, sameSession⟩
  rw [perform, turn, SessionAction.on, sameRegistry, sameSession]
  exact sharing.withSession_self who

/-- The committed row count of the table behind a handle. -/
def approximate
    (sharing : Sharing ι)
    (sources : SourceRows)
    (handle : StatusHandle) :
    Option Int64 :=
  (sharing.registry.get? handle).map fun status =>
    status.approximateRowCount sources

/-- The row count which a session reads through a handle. -/
def exact
    (sharing : Sharing ι)
    (sources : SourceRows)
    (who : ι)
    (handle : StatusHandle) :
    Option Int64 :=
  (sharing.registry.get? handle).map fun status =>
    status.rowCount sources (sharing.sessions who)

end Sharing

end HierQuery
