import HierQuery.Proofs.Cursor.Service
import HierQuery.Store.GroupCursor

/-!
# The service of a count

The cursor of a count serves the stream of one row with the number that the
store has when the row is wanted.
-/

namespace HierQuery.Count

/-- A cursor of a count that may be opened. -/
def Ready (cursor : Cursor) : Prop :=
  cursor.state = .idle

/-- A cursor of a count, before its row or after it. -/
def Going
    (count : Count)
    (sources : SourceRows)
    (store : MemoryStore)
    (stream : RowStream)
    (cursor : Cursor) :
    Prop :=
  cursor.state = .active ∧
    stream =
      if cursor.pending then count.eval sources store else ⟨[], none⟩

/-- A count serves the row of the number that the store has when the row is wanted. -/
def service
    (count : Count)
    (sources : SourceRows)
    (store : MemoryStore) :
    Service Cursor MemoryStore where
  protocol := count.protocol (MemoryStore.adapter sources)
  slots := 0
  meaning := fun _ => count.eval sources store
  Ready := Ready
  Going := count.Going sources store

theorem ready_settled
    {cursor : Cursor}
    (active : cursor.state = .active) :
    Ready cursor.settled := by
  rw [Ready, Cursor.settled, active]
  rfl

theorem eval_fits
    (count : Count)
    (sources : SourceRows)
    (store : MemoryStore) :
    (count.eval sources store).Fits 1 := by
  rw [eval]
  split
  next error _ =>
    exact RowStream.fits_failed 1 (error.isSome_operator_within operatorName)
  next =>
    exact ⟨Nat.le_refl 1, nofun⟩

theorem going_fits
    {count : Count}
    {sources : SourceRows}
    {store : MemoryStore}
    {stream : RowStream}
    {cursor : Cursor}
    (going : count.Going sources store stream cursor) :
    stream.Fits 1 := by
  rw [going.2]
  split
  · exact count.eval_fits sources store
  · exact RowStream.fits_nil 1

/-- Asking for the number takes the first row of what the count means. -/
theorem answers_produce
    (count : Count)
    (sources : SourceRows)
    {store : MemoryStore}
    {cursor : Cursor}
    (active : cursor.state = .active)
    {query : Query MemoryStore}
    (calm : Calm store query) :
    (count.service sources store).Answers store (count.eval sources store)
      (count.produce (MemoryStore.adapter sources) cursor query) := by
  rcases calm with ⟨running, unchanged⟩
  have asked :
      (MemoryStore.adapter sources).rowCount count.tableType query.store =
        (store.rowCount sources count.tableType, store) := by
    rw [unchanged]
    rfl
  rw [eval, produce, asked]
  cases store.rowCount sources count.tableType with
  | error error =>
      exact .failed (ready_settled active) ⟨running, rfl⟩
  | ok number =>
      refine .row ⟨active, rfl⟩ (Calm.trace ?_ _ _ _)
      exact ⟨running, rfl⟩

/-- The calls on the cursor of a count serve what the count means. -/
theorem lawful
    (count : Count)
    (sources : SourceRows)
    (store : MemoryStore) :
    (count.service sources store).Lawful store where
  idle := fun ready => ready
  active := fun going => going.1
  opens := by
    intro bindings cursor query _ ready calm
    change Service.Opens _ _ _ (count.openWith bindings cursor query)
    rw [openWith, show cursor.state = .idle from ready]
    exact .opened ⟨rfl, rfl⟩ ((calm.count _).trace _ _ _)
  answers := by
    intro stream cursor query ⟨active, means⟩ calm
    change Service.Answers _ _ _
      (count.next (MemoryStore.adapter sources) cursor query)
    rw [next, active, means, calm.checkCancellation]
    cases pending : cursor.pending with
    | true =>
        exact count.answers_produce sources active calm
    | false =>
        exact .ended (ready_settled active) (calm.trace _ _ _)
  closesReady := by
    intro cursor query ready calm
    change Service.Closes _ _ (count.close cursor query)
    rw [close, show cursor.state = .idle from ready]
    exact .closed ready calm
  closesGoing := by
    intro stream cursor query ⟨active, _⟩ calm
    change Service.Closes _ _ (count.close cursor query)
    rw [close, active]
    exact .closed (ready_settled active) (calm.trace _ _ _)
  meaningFits := fun _ _ => count.eval_fits sources store
  goingFits := fun going _ => going_fits going

end HierQuery.Count
