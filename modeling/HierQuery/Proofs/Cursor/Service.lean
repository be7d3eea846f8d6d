import HierQuery.Cursor.Protocol
import HierQuery.Query
import HierQuery.Proofs.Plan.Meaning

/-!
# Cursors that serve streams

A service says what the calls on a kind of cursor are to do: opening begins a
stream, each call for a row takes the first of its rows, and closing forgets
the rest.  It is lawful if the calls do so.  This is a simulation between
cursors and streams, in which a cursor is either ready to be opened or on its
way through a stream.  It is asked for only while the world is calm: the query
is not canceled and nobody writes to the store.

Taking all rows of a cursor of a lawful service gives the stream's answer, and
the bound on the calls is never felt.
-/

namespace HierQuery

variable {κ σ : Type}

/-- The query is not canceled, and its store holds what it should. -/
structure Calm (store : σ) (query : Query σ) : Prop where
  running : query.canceled = false
  unchanged : query.store = store

namespace Calm

variable {store : σ} {query : Query σ}

theorem count (calm : Calm store query) (counter : Metrics.Counter) :
    Calm store (query.count counter) :=
  ⟨calm.running, calm.unchanged⟩

theorem trace
    (calm : Calm store query)
    (event : Event)
    (operator detail : String) :
    Calm store (query.trace event operator detail) :=
  ⟨(query.canceled_trace event operator detail).trans calm.running,
    (query.store_trace event operator detail).trans calm.unchanged⟩

theorem checkCancellation (calm : Calm store query) :
    query.checkCancellation = (.ok (), query) :=
  Query.checkCancellation_of_not_canceled calm.running

end Calm

/-- What the calls on a kind of cursor are to do, and how far a cursor has come with it. -/
structure Service (κ σ : Type) where
  protocol : CursorProtocol κ (Query σ)
  /-- The number of binding slots that opening needs. -/
  slots : Nat
  /-- The stream that opening with given bindings begins. -/
  meaning : Bindings → RowStream
  /-- A cursor that may be opened. -/
  Ready : κ → Prop
  /-- An opened cursor with what it still has to hand out. -/
  Going : RowStream → κ → Prop

namespace Service

/-- A call that opened a cursor on a stream, or failed as the stream begins with a failure. -/
inductive Opens
    (service : Service κ σ)
    (store : σ) :
    RowStream → Outcome κ (Query σ) Unit → Prop
  | opened
      {stream : RowStream}
      {cursor : κ}
      {query : Query σ}
      (going : service.Going stream cursor)
      (calm : Calm store query) :
      Opens service store stream (.pure () cursor query)
  | refused
      {error : ExecError}
      {cursor : κ}
      {query : Query σ}
      (ready : service.Ready cursor)
      (calm : Calm store query) :
      Opens service store (.failed error) (.fail error cursor query)

/-- A call for a row that took the first row of a stream, or met its end or its failure. -/
inductive Answers
    (service : Service κ σ)
    (store : σ) :
    RowStream → Outcome κ (Query σ) (Option Row) → Prop
  | row
      {row : Row}
      {rows : List Row}
      {failure? : Option ExecError}
      {cursor : κ}
      {query : Query σ}
      (going : service.Going ⟨rows, failure?⟩ cursor)
      (calm : Calm store query) :
      Answers service store ⟨row :: rows, failure?⟩
        (.pure (some row) cursor query)
  | ended
      {cursor : κ}
      {query : Query σ}
      (ready : service.Ready cursor)
      (calm : Calm store query) :
      Answers service store ⟨[], none⟩ (.pure none cursor query)
  | failed
      {error : ExecError}
      {cursor : κ}
      {query : Query σ}
      (ready : service.Ready cursor)
      (calm : Calm store query) :
      Answers service store (.failed error) (.fail error cursor query)

/-- A call that left a cursor ready to be opened. -/
inductive Closes
    (service : Service κ σ)
    (store : σ) :
    Outcome κ (Query σ) Unit → Prop
  | closed
      {cursor : κ}
      {query : Query σ}
      (ready : service.Ready cursor)
      (calm : Calm store query) :
      Closes service store (.pure () cursor query)

/--
All calls do what they are to do, whenever the bindings have the needed slots
and the world is calm around a store.
-/
structure Lawful (service : Service κ σ) (store : σ) : Prop where
  idle :
    ∀ {cursor}, service.Ready cursor →
      service.protocol.state cursor = .idle
  active :
    ∀ {stream cursor}, service.Going stream cursor →
      service.protocol.state cursor = .active
  opens :
    ∀ {bindings cursor query}, service.slots ≤ bindings.reserved →
      service.Ready cursor → Calm store query →
        service.Opens store (service.meaning bindings)
          (service.protocol.openWith bindings cursor query)
  answers :
    ∀ {stream cursor query}, service.Going stream cursor →
      Calm store query →
        service.Answers store stream (service.protocol.next cursor query)
  closesReady :
    ∀ {cursor query}, service.Ready cursor → Calm store query →
      service.Closes store (service.protocol.close cursor query)
  closesGoing :
    ∀ {stream cursor query}, service.Going stream cursor →
      Calm store query →
        service.Closes store (service.protocol.close cursor query)
  meaningFits :
    ∀ {bindings query}, service.slots ≤ bindings.reserved →
      Calm store query →
        (service.meaning bindings).Fits (service.protocol.rowBound query)
  goingFits :
    ∀ {stream cursor query}, service.Going stream cursor →
      Calm store query → stream.Fits (service.protocol.rowBound query)

namespace Lawful

variable {service : Service κ σ} {store : σ}

/-- A cursor is closed if it is active, and afterwards it is ready in any case. -/
theorem closesActive
    (lawful : service.Lawful store)
    {cursor : κ}
    (stands : service.Ready cursor ∨ ∃ stream, service.Going stream cursor)
    {query : Query σ}
    (calm : Calm store query) :
    service.Closes store (service.protocol.closeActive cursor query) := by
  rcases stands with ready | ⟨stream, going⟩
  · rw [CursorProtocol.closeActive, lawful.idle ready]
    exact .closed ready calm
  · rw [CursorProtocol.closeActive, lawful.active going]
    exact lawful.closesGoing going calm

/-- Taking rows until there are none gives the stream's answer, however many calls are left. -/
theorem drain
    (lawful : service.Lawful store)
    {stream : RowStream}
    {calls : Nat}
    (enough : stream.rows.length < calls)
    {cursor : κ}
    (going : service.Going stream cursor)
    {query : Query σ}
    (calm : Calm store query) :
    (service.protocol.drain calls cursor query).answer = stream.answer ∧
      service.Ready (service.protocol.drain calls cursor query).cursor ∧
        Calm store (service.protocol.drain calls cursor query).world := by
  induction calls generalizing stream cursor query with
  | zero =>
      exact (Nat.not_lt_zero _ enough).elim
  | succ calls ih =>
      have step := lawful.answers going calm
      rw [CursorProtocol.drain]
      generalize service.protocol.next cursor query = outcome at step ⊢
      cases step with
      | @row row rows failure? next after nextGoing nextCalm =>
          rcases
              @ih ⟨rows, failure?⟩ (Nat.lt_of_succ_lt_succ enough) next
                nextGoing after nextCalm with
            ⟨answer, ready, calm⟩
          refine ⟨?_, ready, calm⟩
          change
            (service.protocol.drain calls next after).answer.map
              (row :: ·) = _
          rw [answer]
          cases failure? <;> rfl
      | ended ready calm =>
          exact ⟨rfl, ready, calm⟩
      | failed ready calm =>
          exact ⟨rfl, ready, calm⟩

/-- Collecting the rows of a ready cursor gives the answer of its stream. -/
theorem collect
    (lawful : service.Lawful store)
    {bindings : Bindings}
    (roomy : service.slots ≤ bindings.reserved)
    {cursor : κ}
    (ready : service.Ready cursor)
    {query : Query σ}
    (calm : Calm store query) :
    (service.protocol.collect bindings cursor query).answer =
        (service.meaning bindings).answer ∧
      service.Ready
          (service.protocol.collect bindings cursor query).cursor ∧
        Calm store
          (service.protocol.collect bindings cursor query).world := by
  have opened := lawful.opens roomy ready calm
  rw [CursorProtocol.collect]
  generalize service.meaning bindings = stream at opened ⊢
  generalize service.protocol.openWith bindings cursor query = outcome
    at opened ⊢
  cases opened with
  | refused ready calm =>
      exact ⟨rfl, ready, calm⟩
  | @opened _ begun after going calm =>
      have short :
          stream.rows.length ≤ service.protocol.rowBound after :=
        (lawful.goingFits going calm).short
      rcases lawful.drain (Nat.lt_succ_of_le short) going calm with
        ⟨answer, ready, calm⟩
      rw [Outcome.andThen_pure]
      generalize
        service.protocol.drain (service.protocol.rowBound after + 1) begun
          after = drained
        at answer ready calm ⊢
      have closed := lawful.closesReady ready calm
      dsimp only
      generalize service.protocol.close drained.cursor drained.world = closing
        at closed ⊢
      cases closed with
      | closed ready calm =>
          rw [← answer]
          cases drained.answer <;> exact ⟨rfl, ready, calm⟩

end Lawful

end Service

end HierQuery
