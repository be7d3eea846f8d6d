import HierQuery.Json.Printer

/-!
# Counters of a query

All cursors of a query count into the same counters.  A counter only grows.
-/

namespace HierQuery

/-- What a query counts. -/
structure Metrics where
  /-- Calls that opened an operator's cursor. -/
  cursorsOpened : Nat := 0
  /-- Rows that a scan or a count handed out. -/
  rowsProduced : Nat := 0
  /-- Calls that destroyed an operator's cursor. -/
  cursorsDestroyed : Nat := 0
  /-- Storage cursors that were positioned at a key. -/
  rebinds : Nat := 0
  rowCountReads : Nat := 0
  /-- Rows dropped because of a limit. -/
  limitsReached : Nat := 0
  /-- Rows refused because the query is canceled. -/
  cancellations : Nat := 0
deriving DecidableEq, Inhabited

namespace Metrics

/-- The name of one counter. -/
inductive Counter
  | cursorsOpened
  | rowsProduced
  | cursorsDestroyed
  | rebinds
  | rowCountReads
  | limitsReached
  | cancellations
deriving DecidableEq, Inhabited

/-- All counters in their fixed order. -/
def Counter.all : List Counter :=
  [cursorsOpened, rowsProduced, cursorsDestroyed, rebinds,
    rowCountReads, limitsReached, cancellations]

/-- The key of the counter in the written form. -/
def Counter.render : Counter → String
  | cursorsOpened => "cursors_opened"
  | rowsProduced => "rows_produced"
  | cursorsDestroyed => "cursors_destroyed"
  | rebinds => "rebinds"
  | rowCountReads => "row_count_reads"
  | limitsReached => "limits_reached"
  | cancellations => "cancellations"

/-- The value of one counter. -/
def get (metrics : Metrics) : Counter → Nat
  | .cursorsOpened => metrics.cursorsOpened
  | .rowsProduced => metrics.rowsProduced
  | .cursorsDestroyed => metrics.cursorsDestroyed
  | .rebinds => metrics.rebinds
  | .rowCountReads => metrics.rowCountReads
  | .limitsReached => metrics.limitsReached
  | .cancellations => metrics.cancellations

/-- The counters with one of them raised by one. -/
def increment (metrics : Metrics) : Counter → Metrics
  | .cursorsOpened =>
      { metrics with cursorsOpened := metrics.cursorsOpened + 1 }
  | .rowsProduced =>
      { metrics with rowsProduced := metrics.rowsProduced + 1 }
  | .cursorsDestroyed =>
      { metrics with cursorsDestroyed := metrics.cursorsDestroyed + 1 }
  | .rebinds =>
      { metrics with rebinds := metrics.rebinds + 1 }
  | .rowCountReads =>
      { metrics with rowCountReads := metrics.rowCountReads + 1 }
  | .limitsReached =>
      { metrics with limitsReached := metrics.limitsReached + 1 }
  | .cancellations =>
      { metrics with cancellations := metrics.cancellations + 1 }

@[simp]
theorem get_increment
    (metrics : Metrics)
    (raised counter : Counter) :
    (metrics.increment raised).get counter =
      metrics.get counter + (if raised = counter then 1 else 0) := by
  cases raised <;> cases counter <;> simp [get, increment]

/-- The counters as a JSON object in their fixed order. -/
def toJson (metrics : Metrics) : Json :=
  .record
    (Counter.all.map fun counter =>
      (counter.render, .nat (metrics.get counter)))

end Metrics

end HierQuery
