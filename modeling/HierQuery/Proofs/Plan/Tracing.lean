import HierQuery.Proofs.Plan.Bookkeeping
import HierQuery.Proofs.Store.Run

/-!
# Tracing only adds to the log

A query may be told to log each call on its cursors.  Nothing else depends on
that: whatever a crowd of cursors goes through, and whatever is done to their
stores in the meantime, the answers, the states of all cursors, the stores and
the counters are the same at each step, and so is the log but for the records of
the traced calls.  Without tracing there are no such records.

Two runs of which one traces are related by what was logged since they began.
The relation bears all that operators do to a query, so each call keeps it, and
a whole run does by induction.
-/

namespace HierQuery

open CursorProtocol

/-! ## Logs without traces -/

/-- The log without the records of single calls on cursors. -/
def Log.untraced (log : Log) : Log :=
  log.filter fun record => record.severity != .trace

namespace Log

theorem untraced_append (first second : Log) :
    untraced (first ++ second) = untraced first ++ untraced second :=
  List.filter_append ..

@[simp]
theorem untraced_untraced (log : Log) : untraced (untraced log) = untraced log := by
  simp [untraced]

theorem severity_of_mem_untraced
    {log : Log}
    {record : Record}
    (listed : record ∈ untraced log) :
    record.severity ≠ .trace := by
  simpa using (List.mem_filter.1 listed).2

end Log

variable {σ ρ : Type}

namespace Query

/-- The query with calls on its cursors traced, or not. -/
def tracing (query : Query σ) (traced : Bool) : Query σ :=
  { query with
    config := { query.config with logOperatorExecution := traced } }

/-- A query, and the same without tracing since the log was the given one. -/
structure Muted (earlier : Log) (query quiet : Query σ) : Prop where
  id : quiet.id = query.id
  config : quiet.config = { query.config with logOperatorExecution := false }
  canceled : quiet.canceled = query.canceled
  metrics : quiet.metrics = query.metrics
  store : quiet.store = query.store
  lines :
    ∃ lines,
      query.log = earlier ++ lines ∧
        quiet.log = earlier ++ Log.untraced lines

theorem muted_tracing (query : Query σ) (traced : Bool) :
    Muted query.log (query.tracing traced) (query.tracing false) where
  id := rfl
  config := rfl
  canceled := rfl
  metrics := rfl
  store := rfl
  lines := ⟨[], (List.append_nil _).symm, (List.append_nil _).symm⟩

namespace Muted

variable
  {earlier : Log}
  {query quiet : Query σ}

theorem count
    (muted : Muted earlier query quiet)
    (counter : Metrics.Counter) :
    Muted earlier (query.count counter) (quiet.count counter) where
  id := muted.id
  config := muted.config
  canceled := muted.canceled
  metrics := congrArg (Metrics.increment · counter) muted.metrics
  store := muted.store
  lines := muted.lines

theorem stored
    (muted : Muted earlier query quiet)
    (store : σ) :
    Muted earlier { query with store } { quiet with store } where
  id := muted.id
  config := muted.config
  canceled := muted.canceled
  metrics := muted.metrics
  store := rfl
  lines := muted.lines

theorem cancel (muted : Muted earlier query quiet) :
    Muted earlier query.cancel quiet.cancel where
  id := muted.id
  config := muted.config
  canceled := rfl
  metrics := muted.metrics
  store := muted.store
  lines := muted.lines

/-- The same records are logged on both sides, but for those that are traces on the quiet one. -/
theorem logged
    (muted : Muted earlier query quiet)
    {records kept : Log}
    (sameKept : Log.untraced records = kept) :
    Muted earlier { query with log := query.log ++ records }
      { quiet with log := quiet.log ++ kept } where
  id := muted.id
  config := muted.config
  canceled := muted.canceled
  metrics := muted.metrics
  store := muted.store
  lines := by
    rcases muted.lines with ⟨lines, itsLog, quietLog⟩
    refine ⟨lines ++ records, ?_, ?_⟩
    · rw [itsLog, List.append_assoc]
    · rw [quietLog, Log.untraced_append, sameKept, List.append_assoc]

theorem trace
    (muted : Muted earlier query quiet)
    (event : Event)
    (operator detail : String) :
    Muted earlier (query.trace event operator detail)
      (quiet.trace event operator detail) := by
  have silent : quiet.trace event operator detail = quiet := by
    rw [Query.trace, muted.config]
    rfl
  rw [silent, Query.trace]
  split
  · have noRecord :
        Log.untraced
            [⟨.trace, event.render,
              [("detail", detail), ("operator", operator),
                ("query_id", query.id)]⟩] =
          [] :=
      rfl
    have traced := muted.logged noRecord
    rw [List.append_nil] at traced
    exact traced
  · exact muted

theorem reckoned
    (muted : Muted earlier query quiet)
    (event : Event) :
    Muted earlier (query.reckoned event) (quiet.reckoned event) := by
  rw [Query.reckoned, Query.reckoned]
  split
  · exact muted.count _
  · exact muted

/-- A canceled query refuses on both sides, and logs that at a severity above traces. -/
theorem checkCancellation (muted : Muted earlier query quiet) :
    query.checkCancellation.1 = quiet.checkCancellation.1 ∧
      Muted earlier query.checkCancellation.2 quiet.checkCancellation.2 := by
  rw [Query.checkCancellation, Query.checkCancellation, muted.canceled,
    muted.id]
  split
  · exact ⟨rfl, (muted.count .cancellations).logged rfl⟩
  · exact ⟨rfl, muted⟩

end Muted

/-- To mute a query bears all that operators do to it. -/
theorem parallel_muted (earlier : Log) :
    ParallelOver (@Muted σ earlier) Eq where
  booked muted event _ operator detail :=
    (muted.reckoned event).trace event operator detail
  checks muted := muted.checkCancellation
  stores muted := muted.store.symm
  stored := by
    rintro query quiet store _ muted rfl
    exact muted.stored store
  counted muted counter _ := muted.count counter

end Query

/-- Calls in parallel worlds are answered alike, and leave the same tree. -/
theorem Member.call_parallel
    {Worlds : Query σ → Query σ → Prop}
    (parallel : Query.ParallelOver Worlds Eq)
    (member : Member σ)
    (made : CursorCall)
    {query other : Query σ}
    (worlds : Worlds query other) :
    (member.call made query).answer = (member.call made other).answer ∧
      (member.call made query).cursor = (member.call made other).cursor ∧
        Worlds (member.call made query).world
          (member.call made other).world := by
  have corresponds :=
    member.plan.corresponds_same parallel member.adapter.corresponds_refl
  rw [Member.call, Member.call]
  have called :=
    corresponds.call (made.paired_self fun _ => rfl)
      (show member.cursor = member.cursor from rfl) worlds
  exact ⟨called.answer_eq, called.cursors, called.worlds⟩

/-! ## Work on the stores -/

/-- Work on a store, which answers, and logs what is no call on a cursor. -/
structure StoreWork (σ ρ : Type) where
  run : σ → ρ × σ × Log
  untraced : ∀ store, Log.untraced (run store).2.2 = (run store).2.2

/-- What an action on a memory store answers and logs. -/
def MemoryStore.Action.work (action : MemoryStore.Action) :
    StoreWork MemoryStore (Except ExecError Bool) where
  run store :=
    match action with
    | .write row =>
        let written := store.writeRow row
        (written.1.map fun () => true, written.2, [])
    | .delete key =>
        let deleted := store.deleteRow key
        (deleted.1, deleted.2, [])
    | .commit => (.ok true, store.commit)
    | .rollback => (.ok true, store.rollback)
    | .register table source =>
        let registered := store.statuses.createVirtual table source
        ((registered.1.map fun _ => true).mapError .ofStorage,
          { store with statuses := registered.2.1 }, registered.2.2)
  untraced store := by
    cases action with
    | write | delete | commit | rollback =>
        rfl
    | register table source =>
        dsimp only
        rw [StatusRegistry.createVirtual]
        split
        · split <;> rfl
        · rfl

/-! ## What can be seen of a crowd -/

namespace Crowd

/-- One step of a run: something occurs to the crowd, or there is work on its stores. -/
inductive Step (σ ρ : Type)
  | occurrence (occurrence : Occurrence σ)
  | work (work : StoreWork σ ρ)

/-- What a step is answered with. -/
inductive Answer (ρ : Type)
  | nothing
  | created (answer : Except ExecError Unit)
  | called (answer : Except ExecError (Option Row))
  | worked (answer : ρ)

/-- The crowd after a step.  The stores log where the query does. -/
def step (crowd : Crowd σ) : Step σ ρ → Crowd σ
  | .occurrence occurrence => crowd.occur occurrence
  | .work work =>
      let (_, store, lines) := work.run crowd.query.store
      ⟨crowd.members,
        { crowd.query with store, log := crowd.query.log ++ lines }⟩

/-- The crowd after one step after another. -/
def stepAll (crowd : Crowd σ) (steps : List (Step σ ρ)) : Crowd σ :=
  steps.foldl step crowd

/-- The answer to a step. -/
def answerTo (crowd : Crowd σ) : Step σ ρ → Answer ρ
  | .occurrence (.create adapter plan) =>
      .created ((plan.newCursor adapter crowd.query).1.map fun _ => ())
  | .occurrence (.call number made) =>
      match crowd.members[number]? with
      | none => .nothing
      | some member => .called (member.call made crowd.query).answer
  | .occurrence .cancel | .occurrence (.write _) => .nothing
  | .work work => .worked (work.run crowd.query.store).1

/-- All that can be seen after a step, except for traces. -/
structure View (σ ρ : Type) where
  answer : Answer ρ
  /-- The states of all cursors of all trees, those of storage cursors included. -/
  states : List (List CursorState)
  canceled : Bool
  metrics : Metrics
  store : σ
  log : Log

/-- What can be seen of the crowd after a step with the given answer. -/
def view (crowd : Crowd σ) (answer : Answer ρ) : View σ ρ where
  answer := answer
  states :=
    crowd.members.map fun member =>
      member.plan.states member.adapter member.cursor
  canceled := crowd.query.canceled
  metrics := crowd.query.metrics
  store := crowd.query.store
  log := Log.untraced crowd.query.log

/-- What can be seen step by step. -/
def history : Crowd σ → List (Step σ ρ) → List (View σ ρ)
  | _, [] => []
  | crowd, step :: steps =>
      (crowd.step step).view (crowd.answerTo step) ::
        (crowd.step step).history steps

/-- A crowd, and the same without tracing since the log was the given one. -/
structure Muted (earlier : Log) (crowd quiet : Crowd σ) : Prop where
  members : quiet.members = crowd.members
  query : Query.Muted earlier crowd.query quiet.query

variable
  {earlier : Log}
  {crowd quiet : Crowd σ}

/-- What can be seen is the same. -/
theorem Muted.view
    (muted : Muted earlier crowd quiet)
    (answer : Answer ρ) :
    crowd.view answer = quiet.view answer := by
  rcases muted.query.lines with ⟨lines, itsLog, quietLog⟩
  have sameLog :
      Log.untraced crowd.query.log = Log.untraced quiet.query.log := by
    rw [itsLog, quietLog, Log.untraced_append, Log.untraced_append,
      Log.untraced_untraced]
  rw [Crowd.view, Crowd.view, muted.members, muted.query.canceled,
    muted.query.metrics, muted.query.store, sameLog]

/-- A step is answered in the same way and leaves the same. -/
theorem Muted.step
    (muted : Muted earlier crowd quiet)
    (step : Step σ ρ) :
    crowd.answerTo step = quiet.answerTo step ∧
      Muted earlier (crowd.step step) (quiet.step step) := by
  rcases crowd with ⟨members, query⟩
  rcases quiet with ⟨_, quietQuery⟩
  cases muted.members
  have queries : Query.Muted earlier query quietQuery := muted.query
  have parallel : Query.ParallelOver (Query.Muted earlier) (@Eq σ) :=
    Query.parallel_muted earlier
  cases step with
  | work work =>
      rw [answerTo, answerTo, Crowd.step, Crowd.step]
      dsimp only
      rw [queries.store]
      exact ⟨rfl, rfl,
        (queries.stored (work.run query.store).2.1).logged
          (work.untraced query.store)⟩
  | occurrence occurrence =>
      cases occurrence with
      | create adapter plan =>
          rcases plan.newCursor_fromStore adapter query.store with
            ⟨answer, after, made⟩
          rw [answerTo, answerTo, Crowd.step, Crowd.step, occur, occur,
            made query rfl, made quietQuery queries.store]
          cases answer with
          | error | ok =>
              exact ⟨rfl, rfl, queries.stored after⟩
      | call number made =>
          rw [answerTo, answerTo, Crowd.step, Crowd.step, occur, occur]
          dsimp only
          generalize members[number]? = found
          cases found with
          | none =>
              exact ⟨rfl, rfl, queries⟩
          | some member =>
              rcases member.call_parallel parallel made queries with
                ⟨sameAnswer, sameCursor, queries⟩
              refine ⟨congrArg Answer.called sameAnswer, ?_, queries⟩
              dsimp only
              rw [sameCursor]
      | cancel =>
          exact ⟨rfl, rfl, queries.cancel⟩
      | write change =>
          rw [answerTo, answerTo, Crowd.step, Crowd.step, occur, occur]
          dsimp only
          rw [queries.store]
          exact ⟨rfl, rfl, queries.stored _⟩

/-- Step by step, the same can be seen. -/
theorem Muted.steps
    (muted : Muted earlier crowd quiet)
    (steps : List (Step σ ρ)) :
    crowd.history steps = quiet.history steps ∧
      Muted earlier (crowd.stepAll steps) (quiet.stepAll steps) := by
  induction steps generalizing crowd quiet with
  | nil =>
      exact ⟨rfl, muted⟩
  | cons step steps ongoing =>
      rcases muted.step step with ⟨sameAnswer, after⟩
      rcases ongoing after with ⟨sameHistory, atLast⟩
      refine ⟨?_, atLast⟩
      rw [history, history, sameAnswer, after.view, sameHistory]

/-- The crowd with calls on its cursors traced, or not. -/
def tracing (crowd : Crowd σ) (traced : Bool) : Crowd σ where
  members := crowd.members
  query := crowd.query.tracing traced

/--
Whether calls are traced or not, the same can be seen at each step of a run, and
all trees end up the same.  If they are not, then no traces are logged.
-/
theorem history_tracing
    (crowd : Crowd σ)
    (first second : Bool)
    (steps : List (Step σ ρ)) :
    (crowd.tracing first).history steps =
        (crowd.tracing second).history steps ∧
      ((crowd.tracing first).stepAll steps).members =
          ((crowd.tracing second).stepAll steps).members ∧
        ∃ lines,
          ((crowd.tracing false).stepAll steps).query.log =
              crowd.query.log ++ lines ∧
            ∀ record ∈ lines, record.severity ≠ .trace := by
  have muted (traced : Bool) :
      (crowd.tracing traced).history steps =
          (crowd.tracing false).history steps ∧
        Muted crowd.query.log ((crowd.tracing traced).stepAll steps)
          ((crowd.tracing false).stepAll steps) := by
    have start :
        Muted crowd.query.log (crowd.tracing traced) (crowd.tracing false) :=
      ⟨rfl, crowd.query.muted_tracing traced⟩
    exact start.steps steps
  rcases muted first with ⟨firstHistory, firstMuted⟩
  rcases muted second with ⟨secondHistory, secondMuted⟩
  rcases firstMuted.query.lines with ⟨lines, -, quietLog⟩
  exact
    ⟨firstHistory.trans secondHistory.symm,
      firstMuted.members.symm.trans secondMuted.members,
      Log.untraced lines, quietLog, fun _ => Log.severity_of_mem_untraced⟩

/-- Calls on a loop are traced.  What its store logs is logged anyway, and so is a cancellation. -/
example :
    let start : Crowd MemoryStore := ⟨[], Plan.sampleQuery⟩
    let adapter := MemoryStore.adapter MemoryStore.Sample.sources
    let registering := MemoryStore.Action.register ⟨9⟩ ⟨0, "sessions"⟩
    let steps :=
      [.occurrence (.create adapter Plan.samplePlan),
        .occurrence (.call 0 (.openWith (.reserve 1))),
        .occurrence (.call 0 .next), .work registering.work,
        .occurrence .cancel, .occurrence (.call 0 .next)]
    ((start.tracing true).stepAll steps).query.log.map (·.event) =
        ["CURSOR_OPEN", "CURSOR_OPEN", "ROW_YIELD", "CURSOR_OPEN", "ROW_YIELD",
          "MEMORY_TABLE_STATUS_CREATED", "QUERY_CANCELED", "CURSOR_CLOSE",
          "CURSOR_CLOSE"] ∧
      ((start.tracing false).stepAll steps).query.log.map (·.event) =
        ["MEMORY_TABLE_STATUS_CREATED", "QUERY_CANCELED"] := by
  decide +kernel

end Crowd

end HierQuery
