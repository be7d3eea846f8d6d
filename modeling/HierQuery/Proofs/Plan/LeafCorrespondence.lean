import HierQuery.Plan.Basic
import HierQuery.Proofs.Cursor.Correspondence

/-!
# Corresponding scans and counts

Scans and counts over corresponding stores correspond.  They treat a store as
they treat any other that answers alike.

A relation between queries has to bear what operators do to a query: to count
and log an event, to ask whether the query is canceled and to have the store do
its part.  Counting an event and logging it are one step here, so the relation
may well compare the counters of a query with its log.
-/

namespace HierQuery

variable {κ κ' σ τ ρ : Type}

/-! ## What operators do to a query -/

/-- The counter that goes with an event, if the event is counted. -/
def Event.counter? : Event → Option Metrics.Counter
  | cursorOpen => some .cursorsOpened
  | rowYield => some .rowsProduced
  | limitReached => some .limitsReached
  | cursorDestroy => some .cursorsDestroyed
  | queryCanceled => some .cancellations
  | _ => none

namespace Query

/-- Counts an event, if it is counted at all. -/
def reckoned (query : Query σ) (event : Event) : Query σ :=
  match event.counter? with
  | some counter => query.count counter
  | none => query

/-- Counts an event and logs it. -/
def booked
    (query : Query σ)
    (event : Event)
    (operator detail : String) :
    Query σ :=
  (query.reckoned event).trace event operator detail

/-- A relation that bears the booking of calls and the question for cancellation. -/
structure Parallel (Worlds : Query σ → Query τ → Prop) : Prop where
  booked :
    ∀ {query other}, Worlds query other →
      ∀ event : Event, event.severity = .trace → ∀ operator detail,
        Worlds (query.booked event operator detail)
          (other.booked event operator detail)
  checks :
    ∀ {query other}, Worlds query other →
      query.checkCancellation.1 = other.checkCancellation.1 ∧
        Worlds query.checkCancellation.2 other.checkCancellation.2

/-- A relation that also bears what storage cursors do, which is counted without being logged. -/
structure ParallelOver
    (Worlds : Query σ → Query τ → Prop)
    (Stores : σ → τ → Prop) :
    Prop extends Parallel Worlds where
  stores :
    ∀ {query other}, Worlds query other → Stores query.store other.store
  stored :
    ∀ {query other store elsewhere},
      Worlds query other → Stores store elsewhere →
        Worlds { query with store } { other with store := elsewhere }
  counted :
    ∀ {query other}, Worlds query other → ∀ counter,
      (∀ event : Event, event.counter? ≠ some counter) →
        Worlds (query.count counter) (other.count counter)

theorem parallel_eq : Parallel (Eq : Query σ → Query σ → Prop) where
  booked := by
    rintro query _ rfl event - operator detail
    rfl
  checks := by
    rintro query _ rfl
    exact ⟨rfl, rfl⟩

/-- The two ways in which the question for cancellation may go on both sides. -/
theorem Parallel.checkCancellation
    {Worlds : Query σ → Query τ → Prop}
    (parallel : Parallel Worlds)
    {query : Query σ}
    {other : Query τ}
    (worlds : Worlds query other) :
    (∃ error checked otherChecked,
      query.checkCancellation = (.error error, checked) ∧
        other.checkCancellation = (.error error, otherChecked) ∧
          error.cause = .queryCanceled query.id ∧
            Worlds checked otherChecked) ∨
      query.checkCancellation = (.ok (), query) ∧
        other.checkCancellation = (.ok (), other) := by
  have checks := parallel.checks worlds
  unfold Query.checkCancellation at checks ⊢
  cases canceled : query.canceled <;> cases otherCanceled : other.canceled
  case false.false =>
    exact .inr ⟨rfl, rfl⟩
  case true.true =>
    simp only [canceled, otherCanceled, if_true] at checks
    exact .inl
      ⟨_, _, _, rfl, Prod.ext checks.1.symm rfl, rfl, checks.2⟩
  case false.true | true.false =>
    simp [canceled, otherCanceled] at checks

end Query

/-! ## Stores -/

/-- Two stores know the same numbers of rows. -/
structure StoreAdapter.Counts
    (first : StoreAdapter κ σ)
    (second : StoreAdapter κ' τ)
    (Stores : σ → τ → Prop)
    (Failed : ExecError.Cause → Prop) :
    Prop where
  answer :
    ∀ {store elsewhere} rowType, Stores store elsewhere →
      (first.rowCount rowType store).1 =
        (second.rowCount rowType elsewhere).1
  failed :
    ∀ {store elsewhere} rowType, Stores store elsewhere →
      ∀ error,
        (first.rowCount rowType store).1 = .error error → Failed error.cause
  stores :
    ∀ {store elsewhere} rowType, Stores store elsewhere →
      Stores (first.rowCount rowType store).2
        (second.rowCount rowType elsewhere).2

/-- The services of two stores are the same, but for the destruction of cursors. -/
structure StoreAdapter.Runs
    (first : StoreAdapter κ σ)
    (second : StoreAdapter κ' τ)
    (Stores : σ → τ → Prop)
    (Failed : ExecError.Cause → Prop)
    (terms : Terms κ κ') :
    Prop extends StoreAdapter.Counts first second Stores Failed where
  calls :
    first.toCursorProtocol.Runs second.toCursorProtocol Stores Failed terms
  rebinds :
    ∀ {cursor other store elsewhere} range,
      terms.Cursors cursor other → Stores store elsewhere →
        (first.rebind range cursor store).Corresponds Stores Failed
          terms.Cursors (fun _ => True)
          (second.rebind range other elsewhere)

/-- All services of two stores are the same. -/
structure StoreAdapter.Corresponds
    (first : StoreAdapter κ σ)
    (second : StoreAdapter κ' τ)
    (Stores : σ → τ → Prop)
    (Failed : ExecError.Cause → Prop)
    (terms : Terms κ κ') :
    Prop extends StoreAdapter.Runs first second Stores Failed terms where
  destroys :
    ∀ {cursor other store elsewhere},
      terms.Cursors cursor other → Stores store elsewhere →
        (first.destroy cursor store).Corresponds Stores Failed terms.Cursors
          (fun _ => True) (second.destroy other elsewhere)

variable
  {adapter : StoreAdapter κ σ}
  {otherAdapter : StoreAdapter κ' τ}
  {Worlds : Query σ → Query τ → Prop}
  {Stores : σ → τ → Prop}
  {Failed : ExecError.Cause → Prop}
  {storage : Terms κ κ'}
  {Given : Bindings → Bindings → Prop}

/-! ## Scans -/

namespace GroupScan

/-- Cursors of scans that differ in their storage cursors only, and these are related. -/
structure Bound
    (Storage : κ → κ' → Prop)
    (first : Cursor κ)
    (second : Cursor κ') :
    Prop where
  storage : Storage first.storage second.storage
  state : first.state = second.state
  range : first.range = second.range
  tally : first.tally = second.tally

/-- The terms of a scan, whose rows are rows of its storage cursor. -/
def terms
    (storage : Terms κ κ')
    (Given : Bindings → Bindings → Prop) :
    Terms (Cursor κ) (Cursor κ') where
  Cursors := Bound storage.Cursors
  Given := Given
  Handed := storage.Handed

/-- Bindings that hold the same in the slot of a scan, or fail it in the same way. -/
structure Positions
    (scan : GroupScan)
    (Failed : ExecError.Cause → Prop)
    (storage : Terms κ κ')
    (Given : Bindings → Bindings → Prop) :
    Prop where
  opens :
    ∀ {bindings others}, Given bindings others →
      storage.Given bindings others
  key :
    ∀ {bindings others slot reach}, Given bindings others →
      scan.mode = .positional slot reach →
        bindings.getKey slot = others.getKey slot ∧
          ∀ error, bindings.getKey slot = .error error → Failed error.cause

/-- Closing and booking the reason is what finishing comes to. -/
theorem finish_reckoned
    (adapter : StoreAdapter κ σ)
    (reason : Event)
    (cursor : Cursor κ)
    (query : Query σ) :
    finish adapter reason cursor (query.reckoned reason) =
      let closed := cursor.onStorage adapter.closeActive query
      ⟨closed.answer,
        { closed.cursor with state := closed.cursor.state.deactivate },
        closed.world.booked reason operatorName
          closed.cursor.range.render⟩ := by
  cases reason <;> rfl

variable
  {scan : GroupScan}
  {first : Cursor κ}
  {second : Cursor κ'}
  {query : Query σ}
  {elsewhere : Query τ}

theorem Bound.deactivated
    (bound : Bound storage.Cursors first second) :
    Bound storage.Cursors
      { first with state := first.state.deactivate }
      { second with state := second.state.deactivate } :=
  ⟨bound.storage, congrArg CursorState.deactivate bound.state, bound.range,
    bound.tally⟩

section

variable
  (parallel : Query.ParallelOver Worlds Stores)
  (bound : Bound storage.Cursors first second)
  (worlds : Worlds query elsewhere)

include parallel bound worlds

theorem Bound.onStorage
    {Handed : ρ → Prop}
    {call : κ → σ → Outcome κ σ ρ}
    {otherCall : κ' → τ → Outcome κ' τ ρ}
    (corresponds :
      (call first.storage query.store).Corresponds Stores Failed
        storage.Cursors Handed
        (otherCall second.storage elsewhere.store)) :
    (first.onStorage call query).Corresponds Worlds Failed
      (Bound storage.Cursors) Handed
      (second.onStorage otherCall elsewhere) := by
  unfold Cursor.onStorage
  generalize call first.storage query.store = outcome at corresponds ⊢
  generalize otherCall second.storage elsewhere.store = otherOutcome
    at corresponds ⊢
  cases corresponds with
  | ok handed cursors stores =>
      exact .ok handed ⟨cursors, bound.state, bound.range, bound.tally⟩
        (parallel.stored worlds stores)
  | error failed cursors stores =>
      exact .error failed ⟨cursors, bound.state, bound.range, bound.tally⟩
        (parallel.stored worlds stores)

variable (runs : adapter.Runs otherAdapter Stores Failed storage)

include runs

/-- A scan that ends for a reason books it, whatever closing the storage cursor comes to. -/
theorem corresponds_finish
    (reason : Event)
    (ofCall : reason.severity = .trace) :
    (finish adapter reason first (query.reckoned reason)).Corresponds Worlds
      Failed (Bound storage.Cursors) (fun _ => True)
      (finish otherAdapter reason second (elsewhere.reckoned reason)) := by
  have closed :=
    bound.onStorage parallel worlds
      (runs.calls.closesActive bound.storage (parallel.stores worlds))
  rw [finish_reckoned, finish_reckoned]
  generalize first.onStorage adapter.closeActive query = outcome at closed ⊢
  generalize second.onStorage otherAdapter.closeActive elsewhere =
    otherOutcome at closed ⊢
  have sameRange := closed.cursors.range
  cases closed with
  | ok handed cursors worlds =>
      refine .ok handed cursors.deactivated ?_
      rw [← sameRange]
      exact parallel.booked worlds reason ofCall operatorName _
  | error failed cursors worlds =>
      refine .error failed cursors.deactivated ?_
      rw [← sameRange]
      exact parallel.booked worlds reason ofCall operatorName _

theorem corresponds_abort
    (Handed : ρ → Prop)
    {error : ExecError}
    (failed : Failed error.cause) :
    (abort adapter error first query).Corresponds Worlds Failed
      (Bound storage.Cursors) Handed
      (abort otherAdapter error second elsewhere) := by
  have closed :=
    bound.onStorage parallel worlds
      (runs.calls.closes bound.storage (parallel.stores worlds))
  exact .error failed closed.cursors.deactivated closed.worlds

theorem corresponds_offer
    {row : Row}
    (handed : storage.Handed row) :
    (scan.offer adapter row first query).Corresponds Worlds Failed
      (Bound storage.Cursors) storage.Yields
      (scan.offer otherAdapter row second elsewhere) := by
  rcases first with ⟨firstStorage, state, range, tally⟩
  rcases second with ⟨secondStorage, otherState, otherRange, otherTally⟩
  cases bound.state
  cases bound.range
  cases bound.tally
  rw [offer, offer]
  dsimp only
  split
  · rcases scan.limit.reached tally row with ⟨reached, tally⟩
    have tallied :
        Bound storage.Cursors ⟨firstStorage, state, range, tally⟩
          ⟨secondStorage, state, range, tally⟩ :=
      ⟨bound.storage, rfl, rfl, rfl⟩
    cases reached with
    | true =>
        have finished :=
          corresponds_finish parallel tallied worlds runs .limitReached rfl
        exact finished.map fun _ _ => nofun
    | false =>
        refine .ok ?_ tallied
          (parallel.booked worlds .rowYield rfl operatorName _)
        rintro _ ⟨⟩
        exact handed
  · have finished :=
      corresponds_finish parallel bound worlds runs .endOfStream rfl
    exact finished.map fun _ _ => nofun

end

section

variable
  (parallel : Query.ParallelOver Worlds Stores)
  (tolerates : ExecError.Tolerates Failed)
  (runs : adapter.Runs otherAdapter Stores Failed storage)
  (bound : Bound storage.Cursors first second)
  (worlds : Worlds query elsewhere)

include parallel runs bound worlds

theorem corresponds_start
    {bindings others : Bindings}
    (given : storage.Given bindings others) :
    (start adapter bindings first query).Corresponds Worlds Failed
      (Bound storage.Cursors) (fun _ => True)
      (start otherAdapter others second elsewhere) := by
  rw [start, start]
  apply Outcome.Corresponds.andThen
  · exact bound.onStorage parallel worlds
      (runs.calls.opens bound.storage given (parallel.stores worlds))
  · intro _ first second query elsewhere _ bound worlds
    refine .ok trivial ⟨bound.storage, rfl, bound.range, rfl⟩ ?_
    rw [← bound.range]
    exact parallel.booked worlds .cursorOpen rfl operatorName _

theorem corresponds_position
    (positions : scan.Positions Failed storage Given)
    {bindings others : Bindings}
    (given : Given bindings others) :
    (scan.position adapter bindings first query).Corresponds Worlds Failed
      (Bound storage.Cursors) (fun _ => True)
      (scan.position otherAdapter others second elsewhere) := by
  rw [position, position]
  cases mode : scan.mode with
  | full =>
      exact .ok trivial bound worlds
  | positional slot reach =>
      rcases positions.key given mode with ⟨same, failed⟩
      dsimp only
      rw [← same]
      cases holds : bindings.getKey slot with
      | error error =>
          exact .error (failed error holds) bound worlds
      | ok key =>
          dsimp only
          apply Outcome.Corresponds.andThen
          · exact bound.onStorage parallel worlds
              (runs.rebinds (.reaching reach key) bound.storage
                (parallel.stores worlds))
          · intro _ first second query elsewhere _ bound worlds
            refine .ok trivial
              ⟨bound.storage, bound.state, rfl, bound.tally⟩ ?_
            exact parallel.counted worlds .rebinds
              (by intro event; cases event <;> nofun)

include tolerates

theorem corresponds_openWith
    (positions : scan.Positions Failed storage Given)
    {bindings others : Bindings}
    (given : Given bindings others) :
    (scan.openWith adapter bindings first query).Corresponds Worlds Failed
      (Bound storage.Cursors) (fun _ => True)
      (scan.openWith otherAdapter others second elsewhere) := by
  rw [openWith, openWith, ← bound.state]
  by_cases idle : first.state = .idle
  · rw [idle, CursorState.requireIdle_idle]
    dsimp only
    apply Outcome.Corresponds.andThen
    · exact corresponds_position parallel runs bound worlds positions given
    · intro _ first second query elsewhere _ bound worlds
      exact corresponds_start parallel runs bound worlds
        (positions.opens given)
  · rw [CursorState.requireIdle_of_ne idle]
    exact .error (tolerates.lifecycle _ _) bound worlds

theorem corresponds_next :
    (scan.next adapter first query).Corresponds Worlds Failed
      (Bound storage.Cursors) storage.Yields
      (scan.next otherAdapter second elsewhere) := by
  rw [next, next, ← bound.state]
  by_cases active : first.state = .active
  · rw [active, CursorState.requireActive_active]
    dsimp only
    rcases parallel.checkCancellation worlds with
      ⟨error, checked, otherChecked, refused, otherRefused, cause, worlds⟩ |
        ⟨passed, otherPassed⟩
    · rw [refused, otherRefused]
      exact corresponds_abort parallel bound worlds runs _
        (cause ▸ tolerates.canceled _)
    · rw [passed, otherPassed]
      have fetched :=
        bound.onStorage parallel worlds
          (runs.calls.answers bound.storage (parallel.stores worlds))
      dsimp only
      generalize first.onStorage adapter.next query = outcome at fetched ⊢
      generalize second.onStorage otherAdapter.next elsewhere = otherOutcome
        at fetched ⊢
      cases fetched with
      | error failed bound worlds =>
          exact corresponds_abort parallel bound worlds runs _ failed
      | @ok row? _ _ _ _ yields bound worlds =>
          cases row? with
          | none =>
              exact
                (corresponds_finish parallel bound worlds runs .endOfStream
                  rfl).map fun _ _ _ absent => nomatch absent
          | some row =>
              exact corresponds_offer parallel bound worlds runs
                (yields row rfl)
  · rw [CursorState.requireActive_of_ne active]
    exact .error (tolerates.lifecycle _ _) bound worlds

theorem corresponds_close :
    (close adapter first query).Corresponds Worlds Failed
      (Bound storage.Cursors) (fun _ => True)
      (close otherAdapter second elsewhere) := by
  rw [close, close, ← bound.state]
  cases state : first.state with
  | destroyed =>
      exact .error (tolerates.lifecycle _ _) bound worlds
  | idle =>
      exact .ok trivial bound worlds
  | active =>
      exact corresponds_finish parallel bound worlds runs .cursorClose rfl

end

variable
  (parallel : Query.ParallelOver Worlds Stores)
  (tolerates : ExecError.Tolerates Failed)
  (positions : scan.Positions Failed storage Given)

include parallel tolerates positions

/-- Scans run alike over stores that run alike. -/
theorem runs
    (runs : adapter.Runs otherAdapter Stores Failed storage) :
    (scan.protocol adapter).Runs (scan.protocol otherAdapter) Worlds Failed
      (terms storage Given) where
  state := fun bound => bound.state
  opens := fun bound given worlds =>
    corresponds_openWith parallel tolerates runs bound worlds positions given
  answers := corresponds_next parallel tolerates runs
  closes := corresponds_close parallel tolerates runs
  rowBound := fun worlds => runs.calls.rowBound (parallel.stores worlds)

/-- Scans correspond over stores that correspond. -/
theorem corresponds
    (stores : adapter.Corresponds otherAdapter Stores Failed storage) :
    (scan.protocol adapter).Corresponds (scan.protocol otherAdapter) Worlds
      Failed (terms storage Given) where
  toRuns := runs parallel tolerates positions stores.toRuns
  destroys := by
    intro first second query elsewhere bound worlds
    change (destroy adapter first query).Corresponds Worlds Failed _ _
      (destroy otherAdapter second elsewhere)
    rw [destroy, destroy, ← bound.state]
    by_cases destroyed : first.state = .destroyed
    · rw [destroyed]
      exact .error (tolerates.lifecycle _ _) bound worlds
    · rw [CursorState.requireAlive_of_ne destroyed]
      have gone :
          Bound storage.Cursors
            { first with state := .destroyed, range := .whole }
            { second with state := .destroyed, range := .whole } :=
        ⟨bound.storage, rfl, rfl, bound.tally⟩
      have booked := parallel.booked worlds .cursorDestroy rfl operatorName ""
      exact gone.onStorage parallel booked
        (stores.destroys bound.storage (parallel.stores booked))

end GroupScan

/-! ## Counts -/

namespace Count

/-- The terms of a count, which takes any bindings. -/
def terms
    (Given : Bindings → Bindings → Prop)
    (Handed : Row → Prop) :
    Terms Cursor Cursor where
  Cursors := Eq
  Given := Given
  Handed := Handed

variable
  {count : Count}
  {Handed : Row → Prop}
  {cursor : Cursor}
  {query : Query σ}
  {elsewhere : Query τ}

theorem corresponds_produce
    (parallel : Query.ParallelOver Worlds Stores)
    (counts : adapter.Counts otherAdapter Stores Failed)
    (handed : ∀ number, Handed (count.row number))
    (worlds : Worlds query elsewhere) :
    (count.produce adapter cursor query).Corresponds Worlds Failed Eq
      (terms Given Handed).Yields
      (count.produce otherAdapter cursor elsewhere) := by
  have stores := parallel.stores worlds
  have answer := counts.answer count.tableType stores
  have failed := counts.failed count.tableType stores
  have kept := counts.stores count.tableType stores
  rw [produce, produce]
  generalize adapter.rowCount count.tableType query.store = counted
    at answer failed kept ⊢
  generalize otherAdapter.rowCount count.tableType elsewhere.store =
    alsoCounted at answer kept ⊢
  rcases counted with ⟨counted, store⟩
  rcases alsoCounted with ⟨_, otherStore⟩
  cases answer
  have asked := parallel.stored worlds kept
  cases counted with
  | error error =>
      exact .error (failed error rfl) rfl asked
  | ok number =>
      refine .ok ?_ rfl ?_
      · rintro _ ⟨⟩
        exact handed number
      · exact parallel.booked
          (parallel.counted asked .rowCountReads
            (by intro event; cases event <;> nofun))
          .rowYield rfl operatorName _

/-- Counts correspond over stores that know the same numbers. -/
theorem corresponds
    (parallel : Query.ParallelOver Worlds Stores)
    (tolerates : ExecError.Tolerates Failed)
    (counts : adapter.Counts otherAdapter Stores Failed)
    (handed : ∀ number, Handed (count.row number)) :
    (count.protocol adapter).Corresponds (count.protocol otherAdapter) Worlds
      Failed (terms Given Handed) where
  state := congrArg Cursor.state
  opens := by
    rintro cursor _ bindings others query elsewhere rfl _ worlds
    change (count.openWith bindings cursor query).Corresponds Worlds Failed _
      _ (count.openWith others cursor elsewhere)
    rw [openWith, openWith]
    by_cases idle : cursor.state = .idle
    · rw [idle, CursorState.requireIdle_idle]
      exact .ok trivial rfl
        (parallel.booked worlds .cursorOpen rfl operatorName _)
    · rw [CursorState.requireIdle_of_ne idle]
      exact .error (tolerates.lifecycle _ _) rfl worlds
  answers := by
    rintro cursor _ query elsewhere rfl worlds
    change (count.next adapter cursor query).Corresponds Worlds Failed _ _
      (count.next otherAdapter cursor elsewhere)
    rw [next, next]
    by_cases active : cursor.state = .active
    · rw [active, CursorState.requireActive_active]
      dsimp only
      rcases parallel.checkCancellation worlds with
        ⟨error, checked, otherChecked, refused, otherRefused, cause, worlds⟩ |
          ⟨passed, otherPassed⟩
      · rw [refused, otherRefused]
        exact .error (cause ▸ tolerates.canceled _) rfl worlds
      · rw [passed, otherPassed]
        dsimp only
        split
        · exact corresponds_produce parallel counts handed worlds
        · exact .ok nofun rfl
            (parallel.booked worlds .endOfStream rfl operatorName _)
    · rw [CursorState.requireActive_of_ne active]
      exact .error (tolerates.lifecycle _ _) rfl worlds
  closes := by
    rintro cursor _ query elsewhere rfl worlds
    change (count.close cursor query).Corresponds Worlds Failed _ _
      (count.close cursor elsewhere)
    rw [close, close]
    cases state : cursor.state with
    | destroyed =>
        exact .error (tolerates.lifecycle _ _) rfl worlds
    | idle =>
        exact .ok trivial rfl worlds
    | active =>
        exact .ok trivial rfl
          (parallel.booked worlds .cursorClose rfl operatorName _)
  rowBound := fun _ => rfl
  destroys := by
    rintro cursor _ query elsewhere rfl worlds
    change (count.destroy cursor query).Corresponds Worlds Failed _ _
      (count.destroy cursor elsewhere)
    rw [destroy, destroy]
    by_cases destroyed : cursor.state = .destroyed
    · rw [destroyed]
      exact .error (tolerates.lifecycle _ _) rfl worlds
    · rw [CursorState.requireAlive_of_ne destroyed]
      exact .ok trivial rfl
        (parallel.booked worlds .cursorDestroy rfl operatorName _)

end Count

end HierQuery
