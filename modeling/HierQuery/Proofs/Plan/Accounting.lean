import HierQuery.Proofs.Plan.TreeCorrespondence

/-!
# Counters and log agree

A query counts what its cursors do and, if it is asked to, logs it as well.
Counting and logging stand apart in the operators, on the ways to success, to a
limit, to a failure of the store and to a cancellation.  Still, for each event
that is counted, the log has as many lines as the counter says.

This is one of the relations that bear what operators do to a query, so it is
kept by every tree over every store.
-/

namespace HierQuery

open CursorProtocol

variable {κ σ : Type}

/-! ## Lines and counters -/

/-- An event is found again by its name. -/
theorem Event.find?_render (event : Event) :
    all.find? (fun other => other.render == event.render) = some event := by
  cases event <;> rfl

theorem Event.render_inj
    {event other : Event} :
    event.render = other.render ↔ event = other := by
  refine ⟨?_, congrArg render⟩
  intro same
  have found := find?_render event
  rw [same, find?_render other] at found
  exact (Option.some.inj found).symm

/-- How many records of the log are of the event. -/
def Log.linesOf (log : Log) (event : Event) : Nat :=
  log.countP fun record => record.event == event.render

/-- A log with one more record. -/
theorem Log.linesOf_append_record
    (log : Log)
    (logged event : Event)
    (severity : Severity)
    (fields : List Log.Field) :
    Log.linesOf (log ++ [⟨severity, logged.render, fields⟩]) event =
      log.linesOf event + if logged = event then 1 else 0 := by
  rw [linesOf, List.countP_append, List.countP_singleton]
  simp [linesOf, Event.render_inj]

namespace Query

/-- A query that logs calls, and has logged as much as it counts. -/
structure Accounts (earlier : Log) (query : Query σ) : Prop where
  logging : query.config.logOperatorExecution = true
  lines :
    ∃ lines,
      query.log = earlier ++ lines ∧
        ∀ event counter, event.counter? = some counter →
          Log.linesOf lines event = query.metrics.get counter

variable
  {earlier : Log}
  {query : Query σ}

theorem Accounts.stored
    (accounts : query.Accounts earlier)
    (store : σ) :
    Accounts earlier { query with store } :=
  ⟨accounts.logging, accounts.lines⟩

/-- What goes with no event may be counted at any time. -/
theorem Accounts.counted
    (accounts : query.Accounts earlier)
    {counter : Metrics.Counter}
    (silent : ∀ event : Event, event.counter? ≠ some counter) :
    (query.count counter).Accounts earlier where
  logging := accounts.logging
  lines := by
    rcases accounts.lines with ⟨lines, logged, agree⟩
    refine ⟨lines, logged, ?_⟩
    intro event other goes
    have different : counter ≠ other := by
      rintro rfl
      exact silent event goes
    change _ = (query.metrics.increment counter).get other
    rw [Metrics.get_increment, if_neg different]
    exact agree event other goes

/-- No two events go with one counter. -/
theorem get_reckoned
    (query : Query σ)
    (event : Event)
    {other : Event}
    {counter : Metrics.Counter}
    (goes : other.counter? = some counter) :
    (query.reckoned event).metrics.get counter =
      query.metrics.get counter + if event = other then 1 else 0 := by
  cases other <;> cases goes <;> cases event <;> rfl

/-- An event that is counted and logged at once is accounted for. -/
theorem Accounts.recorded
    (accounts : query.Accounts earlier)
    (event : Event)
    (severity : Severity)
    (fields : List Log.Field) :
    Accounts earlier
      ((query.reckoned event).logged
        ⟨severity, event.render, fields⟩) := by
  rcases accounts.lines with ⟨lines, same, agree⟩
  have kept :
      (query.reckoned event).config = query.config ∧
        (query.reckoned event).log = query.log := by
    rw [reckoned]
    split <;> exact ⟨rfl, rfl⟩
  refine ⟨?_, lines ++ [⟨severity, event.render, fields⟩], ?_, ?_⟩
  · change (query.reckoned event).config.logOperatorExecution = true
    rw [kept.1]
    exact accounts.logging
  · change (query.reckoned event).log ++ _ = _
    rw [kept.2, same, List.append_assoc]
  · intro other counter goes
    change _ = (query.reckoned event).metrics.get counter
    rw [Log.linesOf_append_record, agree other counter goes,
      get_reckoned query event goes]

theorem Accounts.booked
    (accounts : query.Accounts earlier)
    (event : Event)
    (operator detail : String) :
    (query.booked event operator detail).Accounts earlier := by
  have logging :
      (query.reckoned event).config.logOperatorExecution = true := by
    rw [reckoned]
    split <;> exact accounts.logging
  rw [Query.booked, trace, if_pos logging]
  exact accounts.recorded event .trace _

theorem Accounts.checked
    (accounts : query.Accounts earlier) :
    query.checkCancellation.2.Accounts earlier := by
  rw [checkCancellation]
  split
  · exact accounts.recorded .queryCanceled .warn _
  · exact accounts

/-- Accounting bears all that operators do to a query. -/
theorem parallel_accounts (earlier : Log) :
    ParallelOver
      (fun query other : Query σ => query = other ∧ query.Accounts earlier)
      Eq where
  booked := by
    rintro query _ ⟨rfl, accounts⟩ event - operator detail
    exact ⟨rfl, accounts.booked event operator detail⟩
  checks := by
    rintro query _ ⟨rfl, accounts⟩
    exact ⟨rfl, rfl, accounts.checked⟩
  stores := by
    rintro query _ ⟨rfl, -⟩
    rfl
  stored := by
    rintro query _ store _ ⟨rfl, accounts⟩ rfl
    exact ⟨rfl, accounts.stored store⟩
  counted := by
    rintro query _ ⟨rfl, accounts⟩ counter silent
    exact ⟨rfl, accounts.counted silent⟩

end Query

/-- No call leaves a difference between what a query counts and what it logs. -/
theorem Plan.accounts_call
    {earlier : Log}
    {query : Query σ}
    (accounts : query.Accounts earlier)
    (adapter : StoreAdapter κ σ)
    {plan : Plan}
    (made : CursorCall)
    (cursor : plan.Cursor κ) :
    ((plan.protocol adapter).call made cursor query).world.Accounts
      earlier := by
  have corresponds :=
    plan.corresponds_same (Query.parallel_accounts earlier)
      adapter.corresponds_refl
  exact
    (corresponds.call (made.paired_self fun _ => rfl) rfl
      ⟨rfl, accounts⟩).worlds.2

end HierQuery
