import HierQuery.Log.Scope
import HierQuery.Plan.Basic

/-!
# Executions

An execution runs a plan from a fresh cursor to the last row and destroys the
cursor in any case.  It is observed by a scope, which is told how the execution
went.  It is left without an outcome if the cursor could not be created, or could
not be destroyed after all rows were had.
-/

namespace HierQuery

/-- A plan that was run to its end. -/
structure Execution (σ : Type) where
  answer : Except ExecError (List Row)
  /-- The query afterwards, with all it logged but what the scope did since its start. -/
  query : Query σ
  /-- The scope of the execution after it was left. -/
  scope : Scope

namespace Execution

variable {κ σ : Type}

/-- The log of the query and what the scope logged since its start. -/
def log (execution : Execution σ) (elapsed : String) : Log :=
  execution.query.log ++ execution.scope.log elapsed

/-- The scope that observes a plan. -/
def scopeOf (plan : Plan) (query : Query σ) : Scope :=
  { name := "QUERY"
    fields := [("plan", plan.render), ("query_id", query.id)] }

/-- Tells the scope of all rows that were handed out. -/
def complete (scope : Scope) (rows : List Row) (query : Query σ) : Scope :=
  scope.complete
    [("metrics", query.metrics.toJson.render),
      ("rows", Nat.repr rows.length)]

/-- Tells the scope of a failure. -/
def interrupt (scope : Scope) (error : ExecError) : Scope :=
  if error.isCancellation then
    scope.canceled
  else
    scope.fail error.severity error.code.render error.message

/-- Takes all rows from a fresh cursor and destroys it, by the calls of a protocol. -/
def drive
    (protocol : CursorProtocol κ (Query σ))
    (bindings : Bindings)
    (scope : Scope)
    (cursor : κ)
    (query : Query σ) :
    Execution σ :=
  let collected := protocol.collect bindings cursor query
  let destroyed := protocol.destroy collected.cursor collected.world
  match collected.answer, destroyed.answer with
  | .ok rows, .ok () =>
      ⟨.ok rows, destroyed.world,
        (complete scope rows destroyed.world).dropped⟩
  | .ok _, .error error =>
      ⟨.error error, destroyed.world, scope.dropped⟩
  | .error error, _ =>
      ⟨.error error, destroyed.world, (interrupt scope error).dropped⟩

/-- Runs a plan, given how a cursor is made and the calls on it. -/
def runBy
    (create : Query σ → Except ExecError κ × Query σ)
    (protocol : CursorProtocol κ (Query σ))
    (plan : Plan)
    (bindings : Bindings)
    (query : Query σ) :
    Execution σ :=
  let scope := scopeOf plan query
  match create (query.logged scope.started) with
  | (.error error, query) => ⟨.error error, query, scope.dropped⟩
  | (.ok cursor, query) => drive protocol bindings scope cursor query

/-- Runs a plan. -/
def run
    (adapter : StoreAdapter κ σ)
    (plan : Plan)
    (bindings : Bindings)
    (query : Query σ) :
    Execution σ :=
  runBy (plan.newCursor adapter) (plan.protocol adapter) plan bindings query

end Execution

end HierQuery
