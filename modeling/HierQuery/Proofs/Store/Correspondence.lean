import HierQuery.Proofs.Plan.LeafCorrespondence
import HierQuery.Proofs.Store.Following
import HierQuery.Proofs.Store.Run

/-!
# What a memory store keeps to

A memory store corresponds to itself as long as nothing is written.  Its
cursors do not look at bindings, they stay with their group and hand out rows
of it, and no call changes the store.  It fails for two reasons only: a call
that the state of the cursor does not allow, and a table that it cannot count.
-/

namespace HierQuery.MemoryStore

/-- The terms of the cursors of a group, which hand out rows with some property. -/
def cursorTerms
    (group : GroupId)
    (Handed : Row → Prop) :
    Terms GroupCursor GroupCursor where
  Cursors := fun cursor other => cursor = other ∧ cursor.group = group
  Given := fun _ _ => True
  Handed := Handed

/-- Every cause for which a memory store may fail. -/
structure Tolerates (Failed : ExecError.Cause → Prop) : Prop
    extends ExecError.Tolerates Failed where
  notTableType :
    ∀ rowType, Failed (.invalidArgument (.notTableType rowType))
  storage : ∀ error, Failed (.storage error)

/-- The store that a call found and left. -/
def Still (store : MemoryStore) (before after : MemoryStore) : Prop :=
  store = before ∧ store = after

variable
  {sources : SourceRows}
  {store : MemoryStore}
  {Failed : ExecError.Cause → Prop}

theorem counts_still
    (tolerates : Tolerates Failed) :
    (adapter sources).Counts (adapter sources) (Still store) Failed where
  answer := by
    rintro _ _ rowType ⟨rfl, rfl⟩
    rfl
  failed := by
    rintro _ _ rowType ⟨rfl, rfl⟩ error fails
    change store.rowCount sources rowType = .error error at fails
    rw [rowCount] at fails
    split at fails
    next =>
      cases fails
      exact tolerates.notTableType rowType
    next table _ =>
      rw [status] at fails
      cases known : store.statuses.status table with
      | error fault =>
          rw [known] at fails
          cases fails
          exact tolerates.storage fault
      | ok =>
          rw [known] at fails
          cases fails
  stores := fun _ still => still

/-- As long as nothing is written, a memory store corresponds to itself. -/
theorem corresponds_still
    (tolerates : Tolerates Failed)
    {group : GroupId}
    {Handed : Row → Prop}
    (handed :
      ∀ key row, (key, row) ∈ (store.groupRows group).entries → Handed row) :
    (adapter sources).Corresponds (adapter sources) (Still store) Failed
      (cursorTerms group Handed) where
  toCounts := counts_still tolerates
  calls.state := fun cursors => congrArg GroupCursor.state cursors.1
  calls.opens := by
    rintro cursor _ bindings others _ _ ⟨rfl, inGroup⟩ - ⟨rfl, rfl⟩
    change
      (GroupCursor.openWith bindings cursor store).Corresponds _ _ _ _
        (GroupCursor.openWith others cursor store)
    rw [GroupCursor.openWith, GroupCursor.openWith]
    by_cases idle : cursor.state = .idle
    · rw [idle, CursorState.requireIdle_idle]
      exact .ok trivial ⟨rfl, inGroup⟩ ⟨rfl, rfl⟩
    · rw [CursorState.requireIdle_of_ne idle]
      exact .error (tolerates.lifecycle _ _) ⟨rfl, inGroup⟩ ⟨rfl, rfl⟩
  calls.answers := by
    rintro cursor _ _ _ ⟨rfl, inGroup⟩ ⟨rfl, rfl⟩
    change (GroupCursor.next cursor store).Corresponds _ _ _ _
      (GroupCursor.next cursor store)
    rw [GroupCursor.next]
    by_cases active : cursor.state = .active
    · rw [active, CursorState.requireActive_active]
      dsimp only
      cases found :
          GroupRows.following? ((store.groups.get? cursor.group).getD .empty)
            cursor.range cursor.position? with
      | none =>
          exact .ok nofun ⟨rfl, inGroup⟩ ⟨rfl, rfl⟩
      | some entry =>
          rcases entry with ⟨key, row⟩
          refine .ok ?_ ⟨rfl, inGroup⟩ ⟨rfl, rfl⟩
          rintro _ ⟨⟩
          rw [GroupRows.following?_eq_filter_find?] at found
          have inside :=
            List.mem_of_find?_eq_some (Option.eq_some_of_filter_eq_some found)
          exact handed key row (inGroup ▸ inside)
    · rw [CursorState.requireActive_of_ne active]
      exact .error (tolerates.lifecycle _ _) ⟨rfl, inGroup⟩ ⟨rfl, rfl⟩
  calls.closes := by
    rintro cursor _ _ _ ⟨rfl, inGroup⟩ ⟨rfl, rfl⟩
    change (GroupCursor.close cursor store).Corresponds _ _ _ _
      (GroupCursor.close cursor store)
    rw [GroupCursor.close]
    by_cases destroyed : cursor.state = .destroyed
    · rw [destroyed]
      exact .error (tolerates.lifecycle _ _) ⟨rfl, inGroup⟩ ⟨rfl, rfl⟩
    · rw [CursorState.requireAlive_of_ne destroyed]
      exact .ok trivial ⟨rfl, inGroup⟩ ⟨rfl, rfl⟩
  calls.rowBound := by
    rintro _ _ ⟨rfl, rfl⟩
    rfl
  rebinds := by
    rintro cursor _ _ _ range ⟨rfl, inGroup⟩ ⟨rfl, rfl⟩
    change (GroupCursor.rebind range cursor store).Corresponds _ _ _ _
      (GroupCursor.rebind range cursor store)
    rw [GroupCursor.rebind]
    by_cases idle : cursor.state = .idle
    · rw [idle, CursorState.requireIdle_idle]
      exact .ok trivial ⟨rfl, inGroup⟩ ⟨rfl, rfl⟩
    · rw [CursorState.requireIdle_of_ne idle]
      exact .error (tolerates.lifecycle _ _) ⟨rfl, inGroup⟩ ⟨rfl, rfl⟩
  destroys := by
    rintro cursor _ _ _ ⟨rfl, inGroup⟩ ⟨rfl, rfl⟩
    change (GroupCursor.destroy cursor store).Corresponds _ _ _ _
      (GroupCursor.destroy cursor store)
    rw [GroupCursor.destroy]
    by_cases destroyed : cursor.state = .destroyed
    · rw [destroyed]
      exact .error (tolerates.lifecycle _ _) ⟨rfl, inGroup⟩ ⟨rfl, rfl⟩
    · rw [CursorState.requireAlive_of_ne destroyed]
      exact .ok trivial ⟨rfl, inGroup⟩ ⟨rfl, rfl⟩

/-- The same query, with a store that is known. -/
def StillQuery (store : MemoryStore) (query other : Query MemoryStore) : Prop :=
  query = other ∧ query.store = store

theorem parallel_still :
    Query.ParallelOver (StillQuery store) (Still store) where
  booked := by
    rintro query _ ⟨rfl, same⟩ event - operator detail
    refine ⟨rfl, ?_⟩
    rw [Query.booked, Query.store_trace, Query.reckoned]
    split <;> exact same
  checks := by
    rintro query _ ⟨rfl, same⟩
    refine ⟨rfl, rfl, ?_⟩
    rw [Query.checkCancellation]
    split <;> exact same
  stores := by
    rintro query _ ⟨rfl, same⟩
    exact ⟨same.symm, same.symm⟩
  stored := by
    rintro query _ _ _ ⟨rfl, same⟩ ⟨rfl, rfl⟩
    exact ⟨rfl, rfl⟩
  counted := by
    rintro query _ ⟨rfl, same⟩ counter -
    exact ⟨rfl, same⟩

end HierQuery.MemoryStore
