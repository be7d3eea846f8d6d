import HierQuery.Config
import HierQuery.ExecError
import HierQuery.Log.Event
import HierQuery.Metrics

/-!
# Queries

All cursors of a query share its options, its counters, its log and the sign
that it is canceled.  Together with the store these are the world in which the
cursors of a plan run.
-/

namespace HierQuery

/-- A query under way, and the store that it reads. -/
structure Query (σ : Type) where
  /-- The name of the query in log records. -/
  id : String
  config : Config
  canceled : Bool := false
  metrics : Metrics := {}
  log : Log := []
  store : σ

namespace Query

variable {σ : Type}

/-- Asks the query to stop; this cannot be taken back. -/
def cancel (query : Query σ) : Query σ :=
  { query with canceled := true }

/-- Raises a counter. -/
def count (query : Query σ) (counter : Metrics.Counter) : Query σ :=
  { query with metrics := query.metrics.increment counter }

/-- Logs a record. -/
def logged (query : Query σ) (record : Log.Record) : Query σ :=
  { query with log := query.log ++ [record] }

/-- Logs a call on a cursor if the options ask for it. -/
def trace
    (query : Query σ)
    (event : Event)
    (operator detail : String) :
    Query σ :=
  if query.config.logOperatorExecution then
    query.logged
      ⟨.trace, event.render,
        [("detail", detail), ("operator", operator), ("query_id", query.id)]⟩
  else
    query

/-- Fails if the query is canceled; the refusal is counted and logged. -/
def checkCancellation (query : Query σ) : Except ExecError Unit × Query σ :=
  if query.canceled then
    (.error ⟨.queryCanceled query.id, none⟩,
      (query.count .cancellations).logged
        (Event.queryCanceled.record [("query_id", query.id)]))
  else
    (.ok (), query)

@[simp]
theorem store_count (query : Query σ) (counter : Metrics.Counter) :
    (query.count counter).store = query.store :=
  rfl

@[simp]
theorem canceled_count (query : Query σ) (counter : Metrics.Counter) :
    (query.count counter).canceled = query.canceled :=
  rfl

@[simp]
theorem store_trace
    (query : Query σ)
    (event : Event)
    (operator detail : String) :
    (query.trace event operator detail).store = query.store := by
  unfold trace
  split <;> rfl

@[simp]
theorem canceled_trace
    (query : Query σ)
    (event : Event)
    (operator detail : String) :
    (query.trace event operator detail).canceled = query.canceled := by
  unfold trace
  split <;> rfl

@[simp]
theorem metrics_trace
    (query : Query σ)
    (event : Event)
    (operator detail : String) :
    (query.trace event operator detail).metrics = query.metrics := by
  unfold trace
  split <;> rfl

theorem checkCancellation_of_not_canceled
    {query : Query σ}
    (running : query.canceled = false) :
    query.checkCancellation = (.ok (), query) := by
  simp [checkCancellation, running]

end Query

end HierQuery
