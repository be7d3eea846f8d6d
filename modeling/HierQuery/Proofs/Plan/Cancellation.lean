import HierQuery.Proofs.Plan.Framing
import HierQuery.Proofs.Plan.Lifecycle

/-!
# Cancellation is final

Once a query is canceled, no cursor of it hands out a row any more.  An active
tree that is asked for one refuses at its root, closes all that is below, and
counts a single cancellation however deep it is.  What the query counts on the
way to a row stays as it was, whatever is called.

This is about all cursors of a query at once, of whatever plans and over
whatever stores.  The operators of a tree are orderly among themselves even if
a store is not; its storage cursors are what the store makes of them.
-/

namespace HierQuery

open CursorProtocol

variable {κ σ : Type}

/-! ## Counters that stand still -/

/-- The relation between a query and what becomes of it, in which cancellation stops progress. -/
structure Query.Stopped (before after : Query σ) : Prop where
  canceled : after.canceled = before.canceled
  progress :
    before.canceled = true →
      ∀ counter : Metrics.Counter, counter.ofProgress = true →
        after.metrics.get counter = before.metrics.get counter

namespace Query

theorem frame_stopped : Frame (Stopped : Query σ → Query σ → Prop) where
  refl := fun _ => ⟨rfl, fun _ _ _ => rfl⟩
  trans := by
    intro first second third earlier later
    refine ⟨later.canceled.trans earlier.canceled, ?_⟩
    intro canceled counter progress
    exact (later.progress (earlier.canceled.trans canceled) counter
      progress).trans (earlier.progress canceled counter progress)
  count := by
    intro query counted allowed
    refine ⟨rfl, ?_⟩
    intro canceled counter progress
    have different : counted ≠ counter := by
      rintro rfl
      rw [allowed canceled] at progress
      cases progress
    change (query.metrics.increment counted).get counter = _
    rw [Metrics.get_increment, if_neg different, Nat.add_zero]
  logged := fun _ _ => ⟨rfl, fun _ _ _ => rfl⟩

theorem stopped_withStore (query : Query σ) (store : σ) :
    query.Stopped { query with store } :=
  ⟨rfl, fun _ _ _ => rfl⟩

end Query

theorem StoreAdapter.frames_stopped (adapter : StoreAdapter κ σ) :
    adapter.Frames Query.Stopped where
  opens := fun _ _ query => query.stopped_withStore _
  answers := fun _ query => query.stopped_withStore _
  closes := fun _ query => query.stopped_withStore _
  destroys := fun _ query => query.stopped_withStore _
  rebinds := fun _ _ query => query.stopped_withStore _
  counts := fun _ query => query.stopped_withStore _

/-- The storage cursor is what a fresh scan gets from the store. -/
theorem GroupScan.newCursor_eq
    (scan : GroupScan)
    (adapter : StoreAdapter κ σ)
    {query : Query σ}
    {before : σ}
    (itsStore : query.store = before) :
    let issued := adapter.newCursor scan.group before
    scan.newCursor adapter query =
      ((issued.1.map fun storage => { storage }).mapError
          (·.within operatorName),
        { query with store := issued.2 }) := by
  rw [newCursor, itsStore]
  rcases adapter.newCursor scan.group before with ⟨_ | _, _⟩ <;> rfl

namespace Plan

variable {adapter : StoreAdapter κ σ}

/--
Making cursors only has the store do its part.  Which cursors are made depends
on the store alone, and so does what becomes of it.
-/
theorem newCursor_fromStore
    (adapter : StoreAdapter κ σ)
    (plan : Plan)
    (before : σ) :
    ∃ answer after,
      ∀ query : Query σ, query.store = before →
        plan.newCursor adapter query =
          (answer, { query with store := after }) := by
  induction plan generalizing before with
  | scan leaf =>
      exact ⟨_, _, fun _ => leaf.newCursor_eq adapter⟩
  | count leaf =>
      refine ⟨.ok ({} : Count.Cursor), before, ?_⟩
      rintro query rfl
      rfl
  | nestedLoop outer inner slot outerMade innerMade =>
      rcases outerMade before with ⟨error | outerCursor, between, first⟩
      · refine ⟨.error error, between, ?_⟩
        intro query itsStore
        rw [newCursor, first query itsStore]
      rcases innerMade between with ⟨error | innerCursor, after, second⟩
      · refine ⟨.error error, after, ?_⟩
        intro query itsStore
        rw [newCursor, first query itsStore]
        dsimp only
        rw [second _ rfl]
      · refine
          ⟨.ok (⟨outerCursor, innerCursor, .idle, .reserve 0⟩ :
            NestedLoop.Cursor (outer.Cursor κ) (inner.Cursor κ)), after, ?_⟩
        intro query itsStore
        rw [newCursor, first query itsStore]
        dsimp only
        rw [second _ rfl]

end Plan

/-! ## Refusing to go on

An active cursor of a canceled query refuses in the name of its operator.  The
refusal is counted, and closing what is below counts nothing.
-/

/-- A call that refused because the query is canceled, and counted that alone. -/
structure Refuses
    {ρ : Type}
    (operator : String)
    (query : Query σ)
    (outcome : Outcome κ (Query σ) ρ) :
    Prop where
  answer :
    outcome.answer = .error ⟨.queryCanceled query.id, some operator⟩
  metrics : outcome.world.metrics = query.metrics.increment .cancellations

theorem Query.checkCancellation_of_canceled
    {query : Query σ}
    (canceled : query.canceled = true) :
    query.checkCancellation =
      (.error ⟨.queryCanceled query.id, none⟩,
        (query.count .cancellations).logged
          (Event.queryCanceled.record [("query_id", query.id)])) :=
  if_pos canceled

/-- Closing cursors of the protocol counts nothing. -/
def CursorProtocol.ClosesQuietly
    (protocol : CursorProtocol κ (Query σ)) :
    Prop :=
  ∀ cursor query, (protocol.close cursor query).world.metrics = query.metrics

theorem CursorProtocol.ClosesQuietly.closeActive
    {protocol : CursorProtocol κ (Query σ)}
    (quiet : protocol.ClosesQuietly)
    (cursor : κ)
    (query : Query σ) :
    (protocol.closeActive cursor query).world.metrics = query.metrics := by
  rw [CursorProtocol.closeActive]
  split
  · exact quiet cursor query
  · rfl

namespace GroupScan

variable {adapter : StoreAdapter κ σ}

theorem closesQuietly
    (scan : GroupScan)
    (adapter : StoreAdapter κ σ) :
    (scan.protocol adapter).ClosesQuietly := by
  intro cursor query
  change (close adapter cursor query).world.metrics = query.metrics
  rw [close]
  split
  · rfl
  · split
    · exact Query.metrics_trace _ _ _ _
    · rfl

theorem refuses_next
    (scan : GroupScan)
    {cursor : Cursor κ}
    (active : cursor.state = .active)
    {query : Query σ}
    (canceled : query.canceled = true) :
    Refuses operatorName query (scan.next adapter cursor query) := by
  rw [next, active, CursorState.requireActive_active,
    Query.checkCancellation_of_canceled canceled]
  exact ⟨rfl, rfl⟩

/-- Whatever its storage cursor does, the scan itself goes through its states as it should. -/
theorem conformant_of_any
    (scan : GroupScan)
    (adapter : StoreAdapter κ σ) :
    (scan.protocol adapter).Conformant (fun _ => True) False where
  opens := by
    intro bindings cursor query _ idle
    change cursor.state = .idle at idle
    have starts
        {cursor : Cursor κ}
        (idle : cursor.state = .idle)
        (query : Query σ) :
        AfterOpen (scan.protocol adapter) (fun _ => True)
          (start adapter bindings cursor query) := by
      rw [start, Outcome.andThen]
      split
      · exact .opened trivial rfl
      · exact .failed trivial idle
    change AfterOpen _ _ (scan.openWith adapter bindings cursor query)
    rw [openWith, idle, CursorState.requireIdle_idle]
    dsimp only
    rw [position]
    split
    · exact starts idle query
    · split
      · exact .failed trivial idle
      next key _ =>
        unfold Cursor.onStorage
        dsimp only
        generalize
          adapter.rebind (.reaching _ key) cursor.storage query.store =
            outcome
        rcases outcome with ⟨answer, moved, store⟩
        cases answer with
        | ok =>
            apply starts
            exact idle
        | error error =>
            exact .failed trivial idle
  answers := by
    intro cursor query _ active
    change cursor.state = .active at active
    have settled : cursor.state.deactivate = .idle := by
      rw [active]
      rfl
    have finishes
        (reason : Event)
        {cursor : Cursor κ}
        (settled : cursor.state.deactivate = .idle)
        (query : Query σ) :
        AfterNext (scan.protocol adapter) (fun _ => True)
          ((finish adapter reason cursor query).map fun () => none) :=
      AfterEnd.afterNext ⟨trivial, settled, False.elim⟩
    change AfterNext _ _ (scan.next adapter cursor query)
    rw [next, active, CursorState.requireActive_active]
    dsimp only
    split
    · exact .failed trivial settled
    · split
      · exact .failed trivial settled
      · apply finishes
        exact settled
      · rw [offer]
        split
        · split
          · apply finishes
            exact settled
          · exact .row trivial active
        · apply finishes
          exact settled
  closes := by
    intro cursor query _ alive
    change cursor.state ≠ .destroyed at alive
    change AfterEnd _ _ _ _ (close adapter cursor query)
    rw [close, CursorState.requireAlive_of_ne alive]
    dsimp only
    split
    next active =>
      refine ⟨trivial, ?_, False.elim⟩
      change cursor.state.deactivate = .idle
      rw [active]
      rfl
    next notActive =>
      exact ⟨trivial, CursorState.eq_idle_of_ne alive notActive, False.elim⟩
  destroys := by
    intro cursor query _ alive
    change cursor.state ≠ .destroyed at alive
    change AfterEnd _ _ _ _ (destroy adapter cursor query)
    rw [destroy, CursorState.requireAlive_of_ne alive]
    exact ⟨trivial, rfl, False.elim⟩

end GroupScan

namespace Count

theorem closesQuietly
    (count : Count)
    (adapter : StoreAdapter κ σ) :
    (count.protocol adapter).ClosesQuietly := by
  intro cursor query
  change (count.close cursor query).world.metrics = query.metrics
  rw [close]
  split
  · rfl
  · split
    · exact Query.metrics_trace _ _ _ _
    · rfl

theorem refuses_next
    (count : Count)
    (adapter : StoreAdapter κ σ)
    {cursor : Cursor}
    (active : cursor.state = .active)
    {query : Query σ}
    (canceled : query.canceled = true) :
    Refuses operatorName query (count.next adapter cursor query) := by
  rw [next, active, CursorState.requireActive_active,
    Query.checkCancellation_of_canceled canceled]
  exact ⟨rfl, rfl⟩

end Count

namespace NestedLoop

variable
  {α β : Type}
  {outer : CursorProtocol α (Query σ)}
  {inner : CursorProtocol β (Query σ)}

theorem closesQuietly
    (outerQuiet : outer.ClosesQuietly)
    (innerQuiet : inner.ClosesQuietly)
    (slot : Nat) :
    (protocol outer inner slot).ClosesQuietly := by
  intro cursor query
  change (close outer inner slot cursor query).world.metrics = query.metrics
  rw [close]
  split
  · rfl
  · split
    · refine (Query.metrics_trace _ _ _ _).trans ?_
      exact (outerQuiet cursor.outer _).trans
        (innerQuiet.closeActive cursor.inner query)
    · rfl

/-- However deep the tree below is, a loop polls for cancellation once. -/
theorem refuses_next
    (outerQuiet : outer.ClosesQuietly)
    (innerQuiet : inner.ClosesQuietly)
    (slot : Nat)
    {cursor : Cursor α β}
    (active : cursor.state = .active)
    {query : Query σ}
    (canceled : query.canceled = true) :
    Refuses operatorName query (next outer inner slot cursor query) := by
  rw [next, active, CursorState.requireActive_active,
    Query.checkCancellation_of_canceled canceled]
  refine ⟨rfl, ?_⟩
  exact (outerQuiet.closeActive cursor.outer _).trans
    (innerQuiet.closeActive cursor.inner _)

end NestedLoop

namespace Plan

variable {adapter : StoreAdapter κ σ}

theorem closesQuietly (adapter : StoreAdapter κ σ) (plan : Plan) :
    (plan.protocol adapter).ClosesQuietly := by
  induction plan with
  | scan leaf =>
      exact leaf.closesQuietly adapter
  | count leaf =>
      exact leaf.closesQuietly adapter
  | nestedLoop outer inner slot outerQuiet innerQuiet =>
      exact NestedLoop.closesQuietly outerQuiet innerQuiet slot

theorem refuses_next
    (plan : Plan)
    {cursor : plan.Cursor κ}
    (active : (plan.protocol adapter).state cursor = .active)
    {query : Query σ}
    (canceled : query.canceled = true) :
    Refuses plan.name query ((plan.protocol adapter).next cursor query) := by
  cases plan with
  | scan leaf =>
      exact leaf.refuses_next active canceled
  | count leaf =>
      exact leaf.refuses_next adapter active canceled
  | nestedLoop outer inner slot =>
      exact NestedLoop.refuses_next (outer.closesQuietly adapter)
        (inner.closesQuietly adapter) slot active canceled

/-! ## The operators of a tree over any store -/

/-- The states of all operators in a tree; the root is first. -/
def operatorStates :
    (plan : Plan) → plan.Cursor κ → List CursorState
  | scan _, (cursor : GroupScan.Cursor κ) => [cursor.state]
  | count _, (cursor : Count.Cursor) => [cursor.state]
  | nestedLoop outer inner _,
      (cursor : NestedLoop.Cursor (outer.Cursor κ) (inner.Cursor κ)) =>
      cursor.state ::
        (outer.operatorStates cursor.outer ++
          inner.operatorStates cursor.inner)

/-- At each loop of a tree, its state fits with those of the operators below it. -/
def Fitting
    (adapter : StoreAdapter κ σ) :
    (plan : Plan) → plan.Cursor κ → Prop
  | scan _ => fun _ => True
  | count _ => fun _ => True
  | nestedLoop outer inner _ =>
      NestedLoop.Sound (outer.protocol adapter) (inner.protocol adapter)
        (outer.Fitting adapter) (inner.Fitting adapter)

/-- The operators of a tree keep to the table of calls and states, whatever the store does. -/
theorem conformant_of_any
    (adapter : StoreAdapter κ σ)
    (plan : Plan) :
    (plan.protocol adapter).Conformant (plan.Fitting adapter) False := by
  induction plan with
  | scan leaf =>
      exact leaf.conformant_of_any adapter
  | count leaf =>
      exact leaf.conformant adapter False
  | nestedLoop outer inner slot outerConformant innerConformant =>
      exact NestedLoop.conformant outerConformant innerConformant slot

/-- A fresh tree of cursors fits, and it is idle. -/
theorem fitting_newCursor
    {plan : Plan}
    {query afterwards : Query σ}
    {cursor : plan.Cursor κ}
    (fresh : plan.newCursor adapter query = (.ok cursor, afterwards)) :
    plan.Fitting adapter cursor ∧
      (plan.protocol adapter).state cursor = .idle := by
  induction plan generalizing query afterwards with
  | scan leaf =>
      change leaf.newCursor adapter query = _ at fresh
      rw [GroupScan.newCursor] at fresh
      split at fresh
      next =>
        cases fresh
        exact ⟨trivial, rfl⟩
      next =>
        cases fresh
  | count leaf =>
      cases fresh
      exact ⟨trivial, rfl⟩
  | nestedLoop outer inner slot outerFresh innerFresh =>
      rw [newCursor] at fresh
      split at fresh
      next =>
        cases fresh
      next outerCursor between outerMade =>
        split at fresh
        next =>
          cases fresh
        next innerCursor last innerMade =>
          cases fresh
          rcases outerFresh outerMade with ⟨outerFits, outerIdle⟩
          rcases innerFresh innerMade with ⟨innerFits, innerIdle⟩
          refine ⟨⟨outerFits, innerFits, ?_, ?_, ?_⟩, rfl⟩
          · exact fun _ => ⟨outerIdle, innerIdle⟩
          · intro active
            cases active
          · intro destroyed
            cases destroyed

/-- If the root of a tree that fits is idle, so are all operators below it. -/
theorem operatorStates_of_idle
    {plan : Plan}
    {cursor : plan.Cursor κ}
    (fits : plan.Fitting adapter cursor)
    (idle : (plan.protocol adapter).state cursor = .idle) :
    ∀ state ∈ plan.operatorStates cursor, state = .idle := by
  induction plan with
  | scan leaf =>
      intro state member
      rw [List.mem_singleton.1 member]
      exact idle
  | count leaf =>
      intro state member
      rw [List.mem_singleton.1 member]
      exact idle
  | nestedLoop outer inner slot outerIdle innerIdle =>
      rcases fits.idle idle with ⟨outerRoot, innerRoot⟩
      intro state member
      rcases List.mem_cons.1 member with rfl | below
      · exact idle
      · rcases List.mem_append.1 below with ofOuter | ofInner
        · exact outerIdle fits.outerSound outerRoot state ofOuter
        · exact innerIdle fits.innerSound innerRoot state ofInner

end Plan

end HierQuery
