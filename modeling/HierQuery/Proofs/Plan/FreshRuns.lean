import HierQuery.Proofs.Plan.Reopening
import HierQuery.Proofs.Store.Atomicity

/-!
# Runs from fresh cursors

A plan is run by making fresh cursors for it and collecting their rows.  The
cursors can be made if the store knows the group of each scan; the first scan
whose group is unknown is what stands in the way.  If nothing does, the answer
of the run is what the plan means.

So two plans run alike in a store if the same stands in the way of both and
they mean the same.  This holds of every store that can be reached, whatever
other sessions do to the registry of its statuses: the meaning of a plan does
not need the tables that it counts to be registered.
-/

namespace HierQuery

/-! ## Stores that can be reached -/

/-- A store of a schema after any history of its own and of the other sessions. -/
def MemoryStore.Reachable (schema : Schema) (store : MemoryStore) : Prop :=
  ∃ (statuses : StatusRegistry) (sessionId : String) (countMode : CountMode)
    (others : Nat → Session) (events : List (StoreEvent Nat)),
    store =
      (SharedStore.happenAll
        ⟨(create schema statuses sessionId countMode).1, others⟩ events).store

namespace SharedStore

variable {ι : Type} [DecidableEq ι] {shared : SharedStore ι}

/-- What others do to the registry leaves the rows in their places. -/
theorem placed_happen
    (placed : shared.store.Placed)
    (event : StoreEvent ι) :
    (shared.happen event).store.Placed := by
  cases event with
  | own action =>
      exact placed.perform action
  | beside event =>
      exact ⟨placed.groups, placed.rows⟩

theorem placed_happenAll
    (placed : shared.store.Placed)
    (events : List (StoreEvent ι)) :
    (shared.happenAll events).store.Placed := by
  induction events generalizing shared with
  | nil =>
      exact placed
  | cons event later ih =>
      exact ih (placed_happen placed event)

end SharedStore

namespace MemoryStore.Reachable

variable {schema : Schema} {store : MemoryStore}

theorem placed (reachable : store.Reachable schema) : store.Placed := by
  rcases reachable with
    ⟨statuses, sessionId, countMode, others, events, rfl⟩
  exact SharedStore.placed_happenAll
    (placed_create schema statuses sessionId countMode) events

theorem schema_eq (reachable : store.Reachable schema) :
    store.schema = schema := by
  rcases reachable with
    ⟨statuses, sessionId, countMode, others, events, rfl⟩
  exact SharedStore.schema_happenAll events

end MemoryStore.Reachable

namespace Plan

/-! ## What stands in the way of fresh cursors -/

/-- Why no cursors can be made for a plan: the first scan of a group that the store does not know. -/
def obstacle? (store : MemoryStore) : Plan → Option ExecError
  | scan leaf =>
      if store.groups.contains leaf.group.id then
        none
      else
        some
          ((ExecError.ofStorage (.unknownGroup leaf.group.id)).within
            GroupScan.operatorName)
  | count _ => none
  | nestedLoop outer inner _ =>
      (outer.obstacle? store).or (inner.obstacle? store)

variable
  (sources : SourceRows)
  {plan : Plan}
  {query : Query MemoryStore}

/-- A scan of a group that the store does not know has no cursors. -/
theorem newCursor_scan_of_unknown
    {leaf : GroupScan}
    (unknown : query.store.groups.contains leaf.group.id = false) :
    (scan leaf).newCursor (MemoryStore.adapter sources) query =
      (.error
          ((ExecError.ofStorage (.unknownGroup leaf.group.id)).within
            GroupScan.operatorName),
        query) := by
  have refused :
      (MemoryStore.adapter sources).newCursor leaf.group query.store =
        (.error (.ofStorage (.unknownGroup leaf.group.id)),
          query.store) := by
    have absent : query.store.groups.get? leaf.group.id = none := by
      simpa [SortedMap.contains] using unknown
    change
      ((query.store.rowsIn leaf.group.id).map fun _ =>
          ({ group := leaf.group.id } : GroupCursor), query.store) = _
    rw [MemoryStore.rowsIn, absent]
    rfl
  rw [newCursor, GroupScan.newCursor, refused]
  rfl

/-- Without an obstacle there are fresh cursors, and the tree may be opened. -/
theorem newCursor_of_no_obstacle
    (clear : plan.obstacle? query.store = none) :
    ∃ cursor,
      plan.newCursor (MemoryStore.adapter sources) query =
          (.ok cursor, query) ∧
        (plan.service sources query.store).Ready cursor := by
  induction plan with
  | scan leaf =>
      rw [obstacle?] at clear
      split at clear
      next known =>
        exact ⟨_, newCursor_scan_iff.2 ⟨known, rfl, rfl⟩, rfl, rfl, rfl,
          fun _ => ⟨rfl, rfl⟩⟩
      next =>
        cases clear
  | count leaf =>
      exact ⟨({} : Count.Cursor), rfl, rfl⟩
  | nestedLoop outer inner slot outerMade innerMade =>
      rcases Option.or_eq_none_iff.1 clear with ⟨outerClear, innerClear⟩
      rcases outerMade outerClear with ⟨outerCursor, outerNew, outerReady⟩
      rcases innerMade innerClear with ⟨innerCursor, innerNew, innerReady⟩
      refine ⟨(⟨outerCursor, innerCursor, .idle, .reserve 0⟩ :
        NestedLoop.Cursor (outer.Cursor GroupCursor)
          (inner.Cursor GroupCursor)), ?_, rfl, outerReady, innerReady⟩
      rw [newCursor, outerNew]
      dsimp only
      rw [innerNew]

/-- An obstacle is the answer to who asks for fresh cursors. -/
theorem newCursor_of_obstacle
    {error : ExecError}
    (blocked : plan.obstacle? query.store = some error) :
    plan.newCursor (MemoryStore.adapter sources) query =
      (.error error, query) := by
  induction plan with
  | scan leaf =>
      rw [obstacle?] at blocked
      split at blocked
      next =>
        cases blocked
      next unknown =>
        cases blocked
        exact newCursor_scan_of_unknown sources (Bool.eq_false_iff.2 unknown)
  | count leaf =>
      cases blocked
  | nestedLoop outer inner slot outerRefused innerRefused =>
      rw [newCursor]
      rcases Option.or_eq_some_iff.1 blocked with
        outerBlocked | ⟨outerClear, innerBlocked⟩
      · rw [outerRefused outerBlocked]
      · rcases newCursor_of_no_obstacle sources outerClear with
          ⟨outerCursor, outerNew, -⟩
        rw [outerNew]
        dsimp only
        rw [innerRefused innerBlocked]

/-! ## Running a plan from fresh cursors -/

/-- The rows of fresh cursors of a plan, or why they cannot be had. -/
def collectFresh
    (sources : SourceRows)
    (plan : Plan)
    (bindings : Bindings)
    (query : Query MemoryStore) :
    Except ExecError (List Row) :=
  match plan.newCursor (MemoryStore.adapter sources) query with
  | (.error error, _) => .error error
  | (.ok cursor, query) =>
      ((plan.protocol (MemoryStore.adapter sources)).collect bindings cursor
        query).answer

/-- A run answers with the obstacle, or else with what the plan means. -/
theorem collectFresh_eq
    {bindings : Bindings}
    (roomy : plan.bindingSlots ≤ bindings.reserved)
    (running : query.canceled = false)
    (placed : query.store.Placed) :
    plan.collectFresh sources bindings query =
      match plan.obstacle? query.store with
      | some error => .error error
      | none => (plan.eval sources query.store bindings).answer := by
  rw [collectFresh]
  cases found : plan.obstacle? query.store with
  | some error =>
      rw [newCursor_of_obstacle sources found]
  | none =>
      rcases newCursor_of_no_obstacle sources found with ⟨cursor, made, ready⟩
      rw [made]
      exact (collect_of_ready sources roomy running placed ready).1

/-- Plans with the same obstacle and the same meaning run alike. -/
theorem collectFresh_congr
    {other : Plan}
    {bindings : Bindings}
    (roomy : plan.bindingSlots ≤ bindings.reserved)
    (otherRoomy : other.bindingSlots ≤ bindings.reserved)
    (running : query.canceled = false)
    (placed : query.store.Placed)
    (obstacles : plan.obstacle? query.store = other.obstacle? query.store)
    (meanings :
      plan.obstacle? query.store = none →
        plan.eval sources query.store bindings =
          other.eval sources query.store bindings) :
    plan.collectFresh sources bindings query =
      other.collectFresh sources bindings query := by
  rw [collectFresh_eq sources roomy running placed,
    collectFresh_eq sources otherRoomy running placed, ← obstacles]
  cases found : plan.obstacle? query.store with
  | some error =>
      rfl
  | none =>
      exact congrArg RowStream.answer (meanings found)

/-- The store of the sample query can be reached. -/
theorem reachable_sampleQuery :
    sampleQuery.store.Reachable MemoryStore.Sample.schema :=
  ⟨{}, "session", .exact, fun _ => { id := "other" },
    [.own (.write MemoryStore.Sample.orderRow),
      .own (.write MemoryStore.Sample.customerRow), .own .commit], rfl⟩

end Plan

end HierQuery
