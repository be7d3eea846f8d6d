import HierQuery.Proofs.Plan.RunSights

/-!
# What is told of an execution

The log of an execution starts with the line that says so and ends with the line
of its outcome.  Between the two are lines of the engine, none of which could be
taken for one of these, unless the query is canceled.

The outcome can be read off the calls on the cursor.  The failure of a run is
the first failure among these calls, and it is the answer whatever the call says
that destroys the cursor; only after a run that succeeded does it matter whether
the cursor could be destroyed.
-/

namespace HierQuery

open CursorProtocol

variable {κ σ : Type}

/-! ## Lines of the engine -/

/--
A record of an event of the engine, which is no cancellation unless the query
is canceled.
-/
def Log.Record.OfEngine (canceled : Bool) (record : Log.Record) : Prop :=
  ∃ event : Event,
    record.event = event.render ∧ (event = .queryCanceled → canceled = true)

namespace Query

/--
A query that was told to stop or was not, and that logged lines of the engine
only.
-/
structure Logs
    (stopped : Bool)
    (earlier : Log)
    (query : Query σ) :
    Prop where
  canceled : query.canceled = stopped
  lines :
    ∃ lines,
      query.log = earlier ++ lines ∧
        ∀ record ∈ lines, record.OfEngine stopped

variable
  {stopped : Bool}
  {earlier : Log}
  {query : Query σ}

theorem Logs.logged
    (logs : query.Logs stopped earlier)
    {record : Log.Record}
    (ofEngine : record.OfEngine stopped) :
    (query.logged record).Logs stopped earlier where
  canceled := logs.canceled
  lines := by
    rcases logs.lines with ⟨lines, same, each⟩
    refine ⟨lines ++ [record], ?_, ?_⟩
    · rw [← List.append_assoc, ← same]
      rfl
    · exact List.forall_mem_append.2
        ⟨each, List.forall_mem_singleton.2 ofEngine⟩

/-- A call that is booked is no cancellation. -/
theorem Logs.booked
    (logs : query.Logs stopped earlier)
    {event : Event}
    (ofCall : event.severity = .trace)
    (operator detail : String) :
    (query.booked event operator detail).Logs stopped earlier := by
  have reckoned : (query.reckoned event).Logs stopped earlier := by
    rw [Query.reckoned]
    split <;> exact ⟨logs.canceled, logs.lines⟩
  rw [Query.booked, trace]
  split
  · apply reckoned.logged
    refine ⟨event, rfl, ?_⟩
    rintro rfl
    cases ofCall
  · exact reckoned

theorem Logs.checked
    (logs : query.Logs stopped earlier) :
    query.checkCancellation.2.Logs stopped earlier := by
  rw [checkCancellation]
  split
  next isCanceled =>
    have counted : (query.count .cancellations).Logs stopped earlier :=
      ⟨logs.canceled, logs.lines⟩
    apply counted.logged
    exact ⟨.queryCanceled, rfl, fun _ => logs.canceled ▸ isCanceled⟩
  next =>
    exact logs

end Query

/-! ## Watching an execution -/

namespace Execution

/-- Makes a cursor as before, of which nothing is seen. -/
def unwatched
    {α : Type}
    (create : Query σ → Except ExecError α × Query σ)
    (query : Query (σ × List Sight)) :
    Except ExecError α × Query (σ × List Sight) :=
  let (answer, after) := create query.unseen
  (answer, after.mapStore (·, query.store.2))

/-- Runs a plan, where all calls within its tree are seen. -/
def watch
    (adapter : StoreAdapter κ σ)
    (plan : Plan)
    (bindings : Bindings)
    (query : Query σ) :
    Execution (σ × List Sight) :=
  runBy (unwatched (plan.newCursor adapter)) (plan.watched adapter) plan
    bindings (query.mapStore (·, []))

/-- The execution without what was seen. -/
def unseen (execution : Execution (σ × List Sight)) : Execution σ :=
  ⟨execution.answer, execution.query.unseen, execution.scope⟩

end Execution

/--
Calls of which the last destroys a tree, with each operator of it and after
all others.
-/
structure Sight.EndDestroyed
    (plan : Plan)
    (calls : List Sight)
    (gone : Except ExecError (Option Row))
    (sights : List Sight) :
    Prop where
  root : ofRoot plan sights = calls ++ [⟨plan, .destroy, gone⟩]
  sparing : ∀ sight ∈ calls, sight.isDestroying = false
  once : (sights.filter isDestroying).map Sight.plan = plan.operators
  last : sights.getLast? = some ⟨plan, .destroy, gone⟩

namespace Sight.EndDestroyed

variable
  {plan : Plan}
  {calls sights : List Sight}
  {gone : Except ExecError (Option Row)}

/-- There is one call that destroys the root. -/
theorem countP_eq (ends : EndDestroyed plan calls gone sights) :
    (ofRoot plan sights).countP isDestroying = 1 := by
  have none : calls.countP isDestroying = 0 := by
    apply List.countP_eq_zero.2
    intro sight member
    rw [ends.sparing sight member]
    exact Bool.false_ne_true
  rw [ends.root, List.countP_append, none]
  rfl

/-- The answer of the call that destroys the root. -/
theorem mem_iff
    (ends : EndDestroyed plan calls gone sights)
    (answer : Except ExecError (Option Row)) :
    ⟨plan, .destroy, answer⟩ ∈ sights ↔ answer = gone := by
  have rooted :
      (⟨plan, .destroy, answer⟩ : Sight) ∈ sights ↔
        ⟨plan, .destroy, answer⟩ ∈ ofRoot plan sights := by
    simp [ofRoot]
  have elsewhere : (⟨plan, .destroy, answer⟩ : Sight) ∉ calls := by
    intro member
    cases ends.sparing _ member
  rw [rooted, ends.root]
  simp [elsewhere]

end Sight.EndDestroyed

namespace Execution

/--
How an execution ends that has a cursor, given what its run comes to and what
the call says that destroys the cursor.
-/
inductive Ends (scope : Scope) :
    Except ExecError (List Row) →
      Except ExecError (Option Row) → Execution σ → Prop
  | complete (rows : List Row) (query : Query σ) :
      Ends scope (.ok rows) (.ok none)
        ⟨.ok rows, query, (complete scope rows query).dropped⟩
  | incomplete (rows : List Row) (error : ExecError) (query : Query σ) :
      Ends scope (.ok rows) (.error error)
        ⟨.error error, query, scope.dropped⟩
  | interrupted
      (error : ExecError)
      (gone : Except ExecError (Option Row))
      (query : Query σ) :
      Ends scope (.error error) gone
        ⟨.error error, query, (interrupt scope error).dropped⟩

theorem Ends.unseen
    {scope : Scope}
    {course : Except ExecError (List Row)}
    {gone : Except ExecError (Option Row)}
    {watched : Execution (σ × List Sight)}
    (ends : Ends scope course gone watched) :
    Ends scope course gone watched.unseen := by
  cases ends with
  | complete rows query =>
      exact .complete rows query.unseen
  | incomplete rows error query =>
      exact .incomplete rows error query.unseen
  | interrupted error gone query =>
      exact .interrupted error gone query.unseen

/-- The names of the lines that tell the outcome of a query. -/
def outcomeNames : List String :=
  ["QUERY_COMPLETE", "QUERY_CANCELED", "QUERY_FAILED", "QUERY_INCOMPLETE"]

/-- The counters as they are told: each with its name, in a fixed order. -/
def countersText (metrics : Metrics) : String :=
  (Json.record
    [("cursors_opened", .nat metrics.cursorsOpened),
      ("rows_produced", .nat metrics.rowsProduced),
      ("cursors_destroyed", .nat metrics.cursorsDestroyed),
      ("rebinds", .nat metrics.rebinds),
      ("row_count_reads", .nat metrics.rowCountReads),
      ("limits_reached", .nat metrics.limitsReached),
      ("cancellations", .nat metrics.cancellations)]).render

/--
The name of the line that tells the outcome of a run, and of destroying its
cursor.
-/
def outcomeName :
    Except ExecError (List Row) → Except ExecError (Option Row) → String
  | .ok _, .ok _ => "QUERY_COMPLETE"
  | .ok _, .error _ => "QUERY_INCOMPLETE"
  | .error error, _ =>
      if error.isCancellation then "QUERY_CANCELED" else "QUERY_FAILED"

section

variable
  {plan : Plan}
  {query : Query σ}
  {course : Except ExecError (List Row)}
  {gone : Except ExecError (Option Row)}
  {ran : Execution σ}
  {elapsed : String}
  {ending : Log.Record}

theorem Ends.event_eq
    (ends : Ends (scopeOf plan query) course gone ran)
    (told : ran.scope.log elapsed = [ending]) :
    ending.event = outcomeName course gone := by
  cases ends with
  | complete | incomplete =>
      cases told
      rfl
  | interrupted error =>
      rw [interrupt] at told
      rw [outcomeName]
      split at told
      next canceled =>
        cases told
        rw [if_pos canceled]
        rfl
      next notCanceled =>
        cases told
        rw [if_neg notCanceled]
        rfl

theorem Ends.complete_iff
    (ends : Ends (scopeOf plan query) course gone ran)
    (told : ran.scope.log elapsed = [ending]) :
    ending.event = "QUERY_COMPLETE" ↔ ∃ rows, ran.answer = .ok rows := by
  rw [ends.event_eq told]
  cases ends with
  | complete | incomplete =>
      simp [outcomeName]
  | interrupted error =>
      cases canceled : error.isCancellation <;> simp [outcomeName, canceled]

theorem canceled_iff
    (course : Except ExecError (List Row))
    (gone : Except ExecError (Option Row)) :
    outcomeName course gone = "QUERY_CANCELED" ↔
      ∃ error, course = .error error ∧ error.isCancellation = true := by
  rcases course with error | rows
  · cases canceled : error.isCancellation <;> simp [outcomeName, canceled]
  · cases gone <;> simp [outcomeName]

theorem failed_iff
    (course : Except ExecError (List Row))
    (gone : Except ExecError (Option Row)) :
    outcomeName course gone = "QUERY_FAILED" ↔
      ∃ error, course = .error error ∧ error.isCancellation = false := by
  rcases course with error | rows
  · cases canceled : error.isCancellation <;> simp [outcomeName, canceled]
  · cases gone <;> simp [outcomeName]

theorem incomplete_iff
    (course : Except ExecError (List Row))
    (gone : Except ExecError (Option Row)) :
    outcomeName course gone = "QUERY_INCOMPLETE" ↔
      (∃ rows, course = .ok rows) ∧ ∃ error, gone = .error error := by
  rcases course with error | rows
  · cases canceled : error.isCancellation <;> simp [outcomeName, canceled]
  · cases gone <;> simp [outcomeName]

/--
The failure of a run is the answer, and is told as it is unless it is a
cancellation.
-/
theorem Ends.kept
    (ends : Ends (scopeOf plan query) course gone ran)
    (told : ran.scope.log elapsed = [ending])
    {error : ExecError}
    (fails : course = .error error) :
    ran.answer = .error error ∧
      (error.isCancellation = false →
        ending =
          ⟨error.severity, "QUERY_FAILED",
            [("plan", plan.render), ("query_id", query.id),
              ("code", error.code.render), ("reason", error.message)]⟩) := by
  cases ends with
  | complete | incomplete =>
      cases fails
  | interrupted =>
      cases fails
      refine ⟨rfl, ?_⟩
      intro notCanceled
      rw [interrupt, notCanceled] at told
      cases told
      rfl

/--
An execution that answers has handed out all rows of the run, and tells so with
its counters.
-/
theorem Ends.told
    (ends : Ends (scopeOf plan query) course gone ran)
    (told : ran.scope.log elapsed = [ending])
    {rows : List Row}
    (answers : ran.answer = .ok rows) :
    course = .ok rows ∧
      ending =
        ⟨.info, "QUERY_COMPLETE",
          [("plan", plan.render), ("query_id", query.id),
            ("elapsed_ms", elapsed),
            ("metrics", countersText ran.query.metrics),
            ("rows", Nat.repr rows.length)]⟩ := by
  cases ends with
  | complete =>
      cases answers
      cases told
      exact ⟨rfl, rfl⟩
  | incomplete | interrupted =>
      cases answers

end

/-! ## Executions as they can be observed -/

/-- What the calls on the root of a tree come to, but for those that destroy it. -/
def courseOf (plan : Plan) (sights : List Sight) : Except ExecError (List Row) :=
  Sight.comeTo ((Sight.ofRoot plan sights).filter (!·.isDestroying))

/--
One line starts the query, and after it one tells its outcome.  What the engine
logs in between is no such line, unless the query was canceled before and the
engine says so.
-/
structure Enclosed
    (plan : Plan)
    (query : Query σ)
    (elapsed : String)
    (ran : Execution σ)
    (ending : Log.Record) :
    Prop where
  log :
    ∃ between,
      ran.log elapsed =
          query.log ++
            (⟨.info, "QUERY_BEGIN",
                [("plan", plan.render), ("query_id", query.id)]⟩ ::
              between ++ [ending]) ∧
        ∀ record ∈ between,
          record.event ≠ "QUERY_BEGIN" ∧
            (record.event ∈ outcomeNames → query.canceled = true)

/--
How the log and the answer of an execution go together with what came of making
its cursor and with the calls in the tree.
-/
structure Observed
    {α : Type}
    (plan : Plan)
    (query : Query σ)
    (elapsed : String)
    (created : Except ExecError α)
    (sights : List Sight)
    (ran : Execution σ)
    (ending : Log.Record) :
    Prop extends Enclosed plan query elapsed ran ending where
  outcome : ending.event ∈ outcomeNames
  complete_iff :
    ending.event = "QUERY_COMPLETE" ↔
      ∃ rows, ran.answer = .ok rows
  canceled_iff :
    ending.event = "QUERY_CANCELED" ↔
      ∃ error,
        courseOf plan sights = .error error ∧ error.isCancellation = true
  failed_iff :
    ending.event = "QUERY_FAILED" ↔
      ∃ error,
        courseOf plan sights = .error error ∧ error.isCancellation = false
  incomplete_iff :
    ending.event = "QUERY_INCOMPLETE" ↔
      (∃ error, created = .error error) ∨
        (∃ rows, courseOf plan sights = .ok rows) ∧
          ∃ error, ⟨plan, .destroy, .error error⟩ ∈ sights
  /-- The failure of the run is the answer, whatever destroying the cursor comes to. -/
  kept :
    ∀ error, courseOf plan sights = .error error →
      ran.answer = .error error ∧
        (error.isCancellation = false →
          ending =
            ⟨error.severity, "QUERY_FAILED",
              [("plan", plan.render), ("query_id", query.id),
                ("code", error.code.render), ("reason", error.message)]⟩)
  told :
    ∀ rows, ran.answer = .ok rows →
      courseOf plan sights = .ok rows ∧
        ending =
          ⟨.info, "QUERY_COMPLETE",
            [("plan", plan.render), ("query_id", query.id),
              ("elapsed_ms", elapsed),
              ("metrics", countersText ran.query.metrics),
              ("rows", Nat.repr rows.length)]⟩
  /-- Without a cursor there are no calls, and the failure to make it is the answer. -/
  unmade :
    ∀ error, created = .error error →
      sights = [] ∧ ran.answer = .error error
  /--
  The last call destroys the cursor, which happens once, and once to each
  operator.
  -/
  destroyed :
    ∀ cursor, created = .ok cursor →
      (Sight.ofRoot plan sights).countP Sight.isDestroying = 1 ∧
        (sights.filter Sight.isDestroying).map Sight.plan = plan.operators ∧
          ∃ gone, sights.getLast? = some ⟨plan, .destroy, gone⟩

section

variable
  {α : Type}
  {plan : Plan}
  {query : Query σ}
  {elapsed : String}
  {ran : Execution σ}
  {ending : Log.Record}

/--
A query that is not canceled is started by one line, and its outcome is told
by one.
-/
theorem Observed.once
    {created : Except ExecError α}
    {sights : List Sight}
    (observed : Observed plan query elapsed created sights ran ending)
    (running : query.canceled = false) :
    ∃ told,
      ran.log elapsed = query.log ++ told ∧
        told.countP (·.event = "QUERY_BEGIN") = 1 ∧
          told.countP (·.event ∈ outcomeNames) = 1 := by
  rcases observed.log with ⟨between, log_eq, others⟩
  refine ⟨_, log_eq, ?_⟩
  have begins : between.countP (·.event = "QUERY_BEGIN") = 0 := by
    rw [List.countP_eq_zero]
    intro record member
    simpa using (others record member).1
  have ends : between.countP (·.event ∈ outcomeNames) = 0 := by
    rw [List.countP_eq_zero]
    intro record member
    have untold := mt (others record member).2
    simpa [running] using untold
  have start : "QUERY_BEGIN" ∉ outcomeNames := by
    decide
  have ended : ending.event ≠ "QUERY_BEGIN" := by
    intro begun
    exact start (begun ▸ observed.outcome)
  simp only [List.cons_append, List.countP_cons, List.countP_append,
    List.countP_nil, begins, ends, start, ended, observed.outcome]
  simp

end

end Execution

end HierQuery
