import HierQuery.Proofs.Plan.Erasure
import HierQuery.Proofs.Plan.Lifecycle
import HierQuery.Proofs.Plan.Reporting

/-!
# Failures of a store reach the root

Any store can be run with a record of its calls beside it, and the plan does
not notice.  The record tells what a call on the root of a tree of cursors has
tried.  If any of that failed, the call fails, with the first failure unchanged
unless the call had a fault of its own before.  Then all of the tree is idle, and
the root may be opened again.

Which faults a call has of its own is known: it is refused in the state of the
root, or the query is canceled, or a slot gives a scan no key or a loop no room
when the root or an inner plan is opened, or an outer row has no key.

The store may fail in any call.  All that is asked of its storage cursors is
that a failed opening or closing leaves them idle.
-/

namespace HierQuery

open CursorProtocol

variable {κ σ : Type}

/-! ## Running a store with a record -/

/-- The failure of the store that an answer tells of. -/
def failureIn
    {α : Type}
    (answer : Except ExecError α) :
    Option StorageError :=
  match answer with
  | .error ⟨.storage error, _⟩ => some error
  | _ => none

/-- A call by what it answered, with the row that its value hands out. -/
def Attempt.answered
    {α : Type}
    (made : StorageCall)
    (handout : α → Option Row)
    (answer : Except ExecError α) :
    Attempt :=
  ⟨made, failureIn answer, answer.toOption.bind handout⟩

/-- The outcome of a call on a store, with the call added to a record. -/
def Outcome.noted
    {α : Type}
    (made : StorageCall)
    (handout : α → Option Row)
    (record : List Attempt)
    (outcome : Outcome κ σ α) :
    Outcome κ (σ × List Attempt) α :=
  ⟨outcome.answer, outcome.cursor,
    (outcome.world, record ++ [.answered made handout outcome.answer])⟩

namespace StoreAdapter

/-- The same store with a record of the calls by which a plan uses it. -/
def withRecord
    (adapter : StoreAdapter κ σ) :
    StoreAdapter κ (σ × List Attempt) where
  state := adapter.state
  openWith := fun bindings cursor (store, record) =>
    (adapter.openWith bindings cursor store).noted .openWith (fun _ => none)
      record
  next := fun cursor (store, record) =>
    (adapter.next cursor store).noted .next id record
  close := fun cursor (store, record) =>
    (adapter.close cursor store).noted .close (fun _ => none) record
  destroy := fun cursor (store, record) =>
    (adapter.destroy cursor store).mapWorld fun store => (store, record)
  rowBound := fun (store, _) => adapter.rowBound store
  newCursor := fun group (store, record) =>
    let (made, store) := adapter.newCursor group store
    (made, (store, record))
  rebind := fun range cursor (store, record) =>
    (adapter.rebind range cursor store).noted .rebind (fun _ => none) record
  rowCount := fun rowType (store, record) =>
    let (answer, store) := adapter.rowCount rowType store
    (answer, (store, record ++ [.answered .rowCount (fun _ => none) answer]))

/-- Recording makes no difference to the calls. -/
theorem erases_withRecord (adapter : StoreAdapter κ σ) :
    adapter.withRecord.Erases adapter Prod.fst where
  calls :=
    { state := fun _ => rfl
      openWith := fun _ _ _ => rfl
      next := fun _ _ => rfl
      close := fun _ _ => rfl
      rowBound := fun _ => rfl }
  rebind := fun _ _ _ => rfl
  rowCount := fun _ _ => rfl

variable
  {adapter : StoreAdapter κ σ}
  {Sound : κ → Prop}
  {sure : Prop}

theorem Orderly.withRecord
    (orderly : adapter.Orderly Sound sure) :
    adapter.withRecord.Orderly Sound sure where
  opens := by
    intro bindings cursor store sound idle
    have opens :
        AfterOpen adapter.toCursorProtocol Sound
          (adapter.openWith bindings cursor store.1) :=
      orderly.opens sound idle
    change AfterOpen _ _
      ((adapter.openWith bindings cursor store.1).noted .openWith
        (fun _ => none) store.2)
    generalize adapter.openWith bindings cursor store.1 = outcome at opens ⊢
    cases opens with
    | opened sound active =>
        exact .opened sound active
    | failed sound idle =>
        exact .failed sound idle
  answers := by
    intro cursor store sound active
    have answers :
        adapter.AfterFetch Sound (adapter.next cursor store.1) :=
      orderly.answers sound active
    change AfterFetch _ _
      ((adapter.next cursor store.1).noted .next id store.2)
    generalize adapter.next cursor store.1 = outcome at answers ⊢
    cases answers with
    | row sound active =>
        exact .row sound active
    | ended sound alive =>
        exact .ended sound alive
    | failed sound alive =>
        exact .failed sound alive
  closes := by
    intro cursor store sound alive
    have closes :
        AfterEnd adapter.toCursorProtocol Sound sure .idle
          (adapter.close cursor store.1) :=
      orderly.closes sound alive
    exact ⟨closes.sound, closes.state, closes.succeeds⟩
  destroys := by
    intro cursor store sound alive
    have destroys :
        AfterEnd adapter.toCursorProtocol Sound sure .destroyed
          (adapter.destroy cursor store.1) :=
      orderly.destroys sound alive
    exact ⟨destroys.sound, destroys.state, destroys.succeeds⟩
  rebinds := fun sound idle => orderly.rebinds sound idle
  creates := fun made => orderly.creates made

/-- Where a call is allowed, it fails only because the store does. -/
structure FailsAsStore
    (adapter : StoreAdapter κ σ)
    (Sound : κ → Prop) :
    Prop where
  rebinds :
    ∀ {range cursor store error}, Sound cursor →
      adapter.state cursor = .idle →
        (adapter.rebind range cursor store).answer = .error error →
          ∃ failure, error = .ofStorage failure
  opens :
    ∀ {bindings cursor store error}, Sound cursor →
      adapter.state cursor = .idle →
        (adapter.openWith bindings cursor store).answer = .error error →
          ∃ failure, error = .ofStorage failure
  answers :
    ∀ {cursor store error}, Sound cursor →
      adapter.state cursor = .active →
        (adapter.next cursor store).answer = .error error →
          ∃ failure, error = .ofStorage failure
  closes :
    ∀ {cursor store error}, Sound cursor →
      adapter.state cursor ≠ .destroyed →
        (adapter.close cursor store).answer = .error error →
          ∃ failure, error = .ofStorage failure
  counts :
    ∀ {rowType : RowType} {store error}, rowType.isTable = true →
      (adapter.rowCount rowType store).1 = .error error →
        ∃ failure, error = .ofStorage failure

theorem recorded_answered
    {α : Type}
    (made : StorageCall)
    (handout : α → Option Row)
    (record : List Attempt)
    {answer : Except ExecError α}
    (fails :
      ∀ error, answer = .error error → ∃ failure, error = .ofStorage failure)
    (store : σ) :
    Recorded Prod.snd made handout record answer
      (store, record ++ [.answered made handout answer]) := by
  cases answer with
  | ok value =>
      exact .inl ⟨value, rfl, rfl⟩
  | error error =>
      rcases fails error rfl with ⟨failure, rfl⟩
      exact .inr ⟨failure, rfl, rfl⟩

theorem FailsAsStore.recording
    (fails : adapter.FailsAsStore Sound) :
    adapter.withRecord.Recording Sound Prod.snd where
  rebinds := fun sound idle =>
    recorded_answered .rebind _ _ (fun _ => fails.rebinds sound idle) _
  opens := fun sound idle =>
    recorded_answered .openWith _ _ (fun _ => fails.opens sound idle) _
  answers := fun sound active =>
    recorded_answered .next _ _ (fun _ => fails.answers sound active) _
  closes := fun sound alive =>
    recorded_answered .close _ _ (fun _ => fails.closes sound alive) _
  counts := fun isTable =>
    recorded_answered .rowCount _ _ (fun _ => fails.counts isTable) _

end StoreAdapter

/-- What is erased makes no difference to a call on the root. -/
theorem CursorProtocol.Erases.call
    {ω ω' : Type}
    {full : CursorProtocol κ ω}
    {bare : CursorProtocol κ ω'}
    {erase : ω → ω'}
    (erases : full.Erases bare erase)
    {made : CursorCall}
    (notDestroy : made ≠ .destroy)
    (cursor : κ)
    (world : ω) :
    (full.call made cursor world).mapWorld erase =
      bare.call made cursor (erase world) := by
  cases made with
  | openWith bindings =>
      exact congrArg (Outcome.map fun () => none)
        (erases.openWith bindings cursor world)
  | next =>
      exact erases.next cursor world
  | close =>
      exact congrArg (Outcome.map fun () => none) (erases.close cursor world)
  | destroy =>
      exact (notDestroy rfl).elim

namespace Plan

variable
  {adapter : StoreAdapter κ σ}
  {StorageSound : κ → Prop}
  {sure : Prop}

/-! ## Calls on a store that records -/

/-- The cursors of a plan report the failures of a store that records them. -/
theorem honest
    {record : σ → List Attempt}
    (orderly : adapter.Orderly StorageSound False)
    (recording : adapter.Recording StorageSound record)
    (plan : Plan) :
    (plan.protocol adapter).Honest plan.name record
      (plan.Sound adapter StorageSound) (plan.Under adapter) plan.OpenFault
      plan.RunFault := by
  induction plan with
  | scan leaf =>
      exact GroupScan.honest orderly recording leaf
  | count leaf =>
      exact Count.honest recording leaf
  | nestedLoop outer inner slot outerHonest innerHonest =>
      exact NestedLoop.honest outerHonest innerHonest slot

/-- While the root is active, the tree goes on under the bindings of its last opening. -/
def OpenedLast
    (adapter : StoreAdapter κ σ)
    (plan : Plan)
    (last? : Option Bindings)
    (cursor : plan.Cursor κ) :
    Prop :=
  (plan.protocol adapter).state cursor = .active →
    ∃ bindings, last? = some bindings ∧ plan.Under adapter bindings cursor

/--
Every call on a root reports, whatever state it is in, and unless all went well
on the store, the root is idle then.
-/
theorem report_recorded
    {record : σ → List Attempt}
    (orderly : adapter.Orderly StorageSound False)
    (recording : adapter.Recording StorageSound record)
    {plan : Plan}
    {last? : Option Bindings}
    {cursor : plan.Cursor κ}
    (sound : plan.Sound adapter StorageSound cursor)
    (openedLast : plan.OpenedLast adapter last? cursor)
    {made : CursorCall}
    (notDestroy : made ≠ .destroy)
    (query : Query σ) :
    let outcome := (plan.protocol adapter).call made cursor query
    ∃ attempts,
      outcome.world.record record = query.record record ++ attempts ∧
        Report
            (plan.FailsItself last? ((plan.protocol adapter).state cursor)
              query made)
            attempts outcome.answer ∧
          (¬ Quiet attempts →
            (plan.protocol adapter).state outcome.cursor = .idle) := by
  have honest := plan.honest orderly recording
  have conformant := plan.conformant_of_orderly orderly
  intro outcome
  by_cases allowed : made.AllowedIn ((plan.protocol adapter).state cursor)
  case neg =>
    have refused : outcome = _ := (plan.guarded _).call_of_not_allowed allowed
    rw [refused]
    have atFault :
        plan.FailsItself last? ((plan.protocol adapter).state cursor) query
          made [] _ :=
      .refused allowed
    refine ⟨[], (List.append_nil _).symm, ?_, fun failed => ?_⟩
    · exact .itself rfl quiet_nil onlyCloses_nil atFault
    · exact (failed quiet_nil).elim
  cases made with
  | openWith bindings =>
      have reports := @honest.opens bindings cursor query sound allowed
      have opens := @conformant.opens bindings cursor query sound allowed
      dsimp only [outcome, call]
      generalize (plan.protocol adapter).openWith bindings cursor query =
        opening at reports opens ⊢
      rcases reports with ⟨attempts, recorded, report⟩
      refine ⟨attempts, recorded, (report.map _).mono ?_, ?_⟩
      · rintro earlier fault ⟨rfl, atFault⟩
        exact .opening allowed atFault
      · cases opens with
        | opened =>
            exact fun failed => (failed report.quiet_of_ok).elim
        | failed _ idle =>
            exact fun _ => idle
  | next =>
      have answers := @conformant.answers cursor query sound allowed
      have reports :
          Reports
            (plan.FailsItself last? ((plan.protocol adapter).state cursor)
              query .next)
            (Query.record record) (query.record record)
            ((plan.protocol adapter).next cursor query) := by
        cases running : query.canceled with
        | true =>
            refine (honest.stops sound allowed running).mono ?_
            rintro earlier fault ⟨rfl, rfl⟩
            exact .canceled allowed running
        | false =>
            rcases openedLast allowed with ⟨bindings, last, under⟩
            refine (honest.answers sound allowed under running).mono ?_
            exact .running allowed running last
      dsimp only [outcome, call]
      generalize (plan.protocol adapter).next cursor query = fetched
        at reports answers ⊢
      rcases reports with ⟨attempts, recorded, report⟩
      refine ⟨attempts, recorded, report, ?_⟩
      cases answers with
      | row =>
          exact fun failed => (failed report.quiet_of_ok).elim
      | ended _ idle | failed _ idle =>
          exact fun _ => idle
  | close =>
      have closes := @conformant.closes cursor query sound allowed
      rcases (honest.closes sound allowed).reports with
        ⟨attempts, recorded, report⟩
      exact ⟨attempts, recorded, report.map _, fun _ => closes.state⟩
  | destroy =>
      exact (notDestroy rfl).elim

/-- A fault that a call has at once is its answer. -/
theorem answer_of_failsItself
    {plan : Plan}
    {last? : Option Bindings}
    {cursor : plan.Cursor κ}
    (sound : plan.Sound adapter StorageSound cursor)
    {made : CursorCall}
    {query : Query σ}
    {fault : Fault}
    (atFault :
      plan.FailsItself last? ((plan.protocol adapter).state cursor) query made
        [] fault) :
    ((plan.protocol adapter).call made cursor query).answer =
      .error fault.error := by
  generalize empty : ([] : List Attempt) = earlier at atFault
  cases atFault with
  | refused notAllowed =>
      rw [(plan.guarded adapter).call_of_not_allowed notAllowed]
      rfl
  | canceled active canceled =>
      exact (plan.refuses_next active canceled).answer
  | opening idle atFault =>
      change Except.map _ _ = _
      rw [answer_of_openFault sound idle atFault query]
      rfl
  | running _ _ _ atFault =>
      rw [← empty] at atFault
      exact (not_runFault_nil atFault).elim

/-- The record does not matter to which trees are sound. -/
theorem sound_withRecord
    {plan : Plan}
    {cursor : plan.Cursor κ}
    (sound : plan.Sound adapter StorageSound cursor) :
    plan.Sound adapter.withRecord StorageSound cursor := by
  induction plan with
  | scan leaf =>
      exact ⟨sound.storage, sound.state⟩
  | count leaf =>
      exact trivial
  | nestedLoop outer inner slot outerSound innerSound =>
      have outerState :=
        (outer.erases_protocol adapter.erases_withRecord).state cursor.outer
      have innerState :=
        (inner.erases_protocol adapter.erases_withRecord).state cursor.inner
      refine ⟨outerSound sound.outerSound, innerSound sound.innerSound, ?_, ?_,
        ?_⟩
      · rw [outerState, innerState]
        exact sound.idle
      · rw [outerState, innerState]
        exact sound.active
      · rw [outerState, innerState]
        exact sound.destroyed

/-- Nor does it matter to the bindings under which they go on. -/
theorem under_withRecord
    {plan : Plan}
    {bindings : Bindings}
    {cursor : plan.Cursor κ}
    (under : plan.Under adapter bindings cursor) :
    plan.Under adapter.withRecord bindings cursor := by
  induction plan generalizing bindings with
  | scan leaf | count leaf =>
      exact trivial
  | nestedLoop outer inner slot outerUnder innerUnder =>
      have innerState :=
        (inner.erases_protocol adapter.erases_withRecord).state cursor.inner
      refine ⟨under.inside, under.rebinds, outerUnder under.outer, ?_⟩
      rw [innerState]
      intro active
      rcases under.inner active with ⟨key, binds, runs⟩
      exact ⟨key, binds, innerUnder runs⟩

/-! ## The root -/

/-- The bindings with which a tree was opened last, after one more call and its answer. -/
def lastOpened
    (last? : Option Bindings)
    (made : CursorCall)
    (answer : Except ExecError (Option Row)) :
    Option Bindings :=
  match made, answer with
  | .openWith bindings, .ok _ => some bindings
  | _, _ => last?

/--
The trees that calls on the root can lead to, over stores and queries that
change at will, and the bindings with which they were opened last.
-/
inductive Reached (adapter : StoreAdapter κ σ) (plan : Plan) :
    Option Bindings → plan.Cursor κ → Prop
  | fresh
      {query afterwards : Query σ}
      {cursor : plan.Cursor κ}
      (made : plan.newCursor adapter query = (.ok cursor, afterwards)) :
      Reached adapter plan none cursor
  | called
      {last? : Option Bindings}
      {cursor : plan.Cursor κ}
      (earlier : Reached adapter plan last? cursor)
      (made : CursorCall)
      (query : Query σ) :
      Reached adapter plan
        (lastOpened last? made
          ((plan.protocol adapter).call made cursor query).answer)
        ((plan.protocol adapter).call made cursor query).cursor

theorem Reached.sound
    (orderly : adapter.Orderly StorageSound sure)
    {plan : Plan}
    {last? : Option Bindings}
    {cursor : plan.Cursor κ}
    (reached : plan.Reached adapter last? cursor) :
    plan.Sound adapter StorageSound cursor := by
  induction reached with
  | fresh made =>
      exact (sound_newCursor orderly made).1
  | called earlier made query ih =>
      exact (plan.conformant_of_orderly orderly).sound_call (plan.guarded _)
        made ih query

/-- One more call keeps track of the bindings. -/
theorem OpenedLast.call
    (orderly : adapter.Orderly StorageSound sure)
    {plan : Plan}
    {last? : Option Bindings}
    {cursor : plan.Cursor κ}
    (openedLast : plan.OpenedLast adapter last? cursor)
    (sound : plan.Sound adapter StorageSound cursor)
    (made : CursorCall)
    (query : Query σ) :
    let outcome := (plan.protocol adapter).call made cursor query
    plan.OpenedLast adapter (lastOpened last? made outcome.answer)
      outcome.cursor := by
  have conformant := plan.conformant_of_orderly orderly
  have goesOn := plan.goesOnUnder orderly
  dsimp only
  by_cases allowed : made.AllowedIn ((plan.protocol adapter).state cursor)
  case neg =>
    rw [(plan.guarded _).call_of_not_allowed allowed]
    cases made <;> exact openedLast
  intro active
  cases made with
  | openWith bindings =>
      have opens := @conformant.opens bindings cursor query sound allowed
      have under := @goesOn.opens bindings cursor query sound allowed
      rw [CursorProtocol.call] at active ⊢
      generalize (plan.protocol adapter).openWith bindings cursor query =
        opening at opens under active ⊢
      cases opens with
      | opened =>
          exact ⟨bindings, rfl, under rfl⟩
      | failed _ idle =>
          cases idle.symm.trans active
  | next =>
      rcases openedLast allowed with ⟨bindings, last, under⟩
      have answers := @conformant.answers cursor query sound allowed
      have keeps (row : Row) :
          ((plan.protocol adapter).next cursor query).answer =
              .ok (some row) →
            plan.Under adapter bindings
              ((plan.protocol adapter).next cursor query).cursor :=
        goesOn.answers sound allowed under
      rw [CursorProtocol.call] at active ⊢
      generalize (plan.protocol adapter).next cursor query = fetched
        at answers keeps active ⊢
      cases answers with
      | row =>
          exact ⟨bindings, last, keeps _ rfl⟩
      | ended _ idle | failed _ idle =>
          cases idle.symm.trans active
  | close =>
      have closes := @conformant.closes cursor query sound allowed
      cases closes.state.symm.trans active
  | destroy =>
      have destroys := @conformant.destroys cursor query sound allowed
      cases destroys.state.symm.trans active

theorem Reached.openedLast
    (orderly : adapter.Orderly StorageSound sure)
    {plan : Plan}
    {last? : Option Bindings}
    {cursor : plan.Cursor κ}
    (reached : plan.Reached adapter last? cursor) :
    plan.OpenedLast adapter last? cursor := by
  induction reached with
  | fresh made =>
      intro active
      rw [(sound_newCursor orderly made).2] at active
      cases active
  | called earlier made query ih =>
      exact ih.call orderly (earlier.sound orderly) made query

/-- The calls on the store that a call on the root leads to, the earliest first. -/
def attempts
    (adapter : StoreAdapter κ σ)
    (plan : Plan)
    (made : CursorCall)
    (cursor : plan.Cursor κ)
    (query : Query σ) :
    List Attempt :=
  ((plan.protocol adapter.withRecord).call made cursor
    (query.mapStore fun store => (store, []))).world.store.2

/-- The answer of a call on a root reports the calls on the store that it led to. -/
theorem report_attempts
    (orderly : adapter.Orderly StorageSound False)
    (fails : adapter.FailsAsStore StorageSound)
    {plan : Plan}
    {last? : Option Bindings}
    {cursor : plan.Cursor κ}
    (sound : plan.Sound adapter StorageSound cursor)
    (openedLast : plan.OpenedLast adapter last? cursor)
    {made : CursorCall}
    (notDestroy : made ≠ .destroy)
    (query : Query σ) :
    let outcome := (plan.protocol adapter).call made cursor query
    let attempts := plan.attempts adapter made cursor query
    Report
        (plan.FailsItself last? ((plan.protocol adapter).state cursor) query
          made)
        attempts outcome.answer ∧
      (¬ Quiet attempts →
        (plan.protocol adapter).state outcome.cursor = .idle) := by
  have erases := plan.erases_protocol adapter.erases_withRecord
  let recorded : Query (σ × List Attempt) :=
    query.mapStore fun store => (store, [])
  -- The run with the record is the run of the store, up to the record.
  have erased :
      ((plan.protocol adapter.withRecord).call made cursor recorded).mapWorld
          (Query.mapStore Prod.fst) =
        (plan.protocol adapter).call made cursor query :=
    erases.call notDestroy cursor recorded
  have recordedLast : plan.OpenedLast adapter.withRecord last? cursor := by
    intro active
    rw [erases.state] at active
    rcases openedLast active with ⟨bindings, last, under⟩
    exact ⟨bindings, last, under_withRecord under⟩
  rcases
      report_recorded orderly.withRecord fails.recording
        (sound_withRecord sound) recordedLast notDestroy recorded with
    ⟨attempts, added, report, settles⟩
  have same : plan.attempts adapter made cursor query = attempts := added
  dsimp only
  rw [same, ← erased]
  refine ⟨report.mono ?_,
    fun failed => (erases.state _).symm.trans (settles failed)⟩
  -- The faults only depend on what the record leaves as it is.
  rw [erases.state]
  intro earlier fault atFault
  cases atFault with
  | refused notAllowed =>
      exact .refused notAllowed
  | canceled active canceled =>
      exact .canceled active canceled
  | opening idle atFault =>
      exact .opening idle atFault
  | running active goesOn opened atFault =>
      exact .running active goesOn opened atFault

/-- What a call on the root owes, given the calls on the store that it led to. -/
structure Propagates
    (adapter : StoreAdapter κ σ)
    (plan : Plan)
    (own : OwnFaults)
    (attempts : List Attempt)
    (outcome : Outcome (plan.Cursor κ) (Query σ) (Option Row)) :
    Prop where
  /-- The first failure is the answer, unless the call had a fault of its own before. -/
  report : Report own attempts outcome.answer
  /-- A fault that the call has at once is the answer, whatever fails on the store then. -/
  stays : ∀ fault, own [] fault → outcome.answer = .error fault.error
  /-- All of the tree is idle if anything failed, storage cursors included. -/
  idle :
    ¬ Quiet attempts →
      ∀ state ∈ plan.states adapter outcome.cursor, state = .idle
  /-- The root may be opened again, which only the bindings or the store can prevent. -/
  reopens :
    ¬ Quiet attempts →
      ∀ bindings query error,
        ((plan.protocol adapter).call (.openWith bindings) outcome.cursor
            query).answer = .error error →
          (∃ fault, plan.OpenFault bindings fault ∧ error = fault.error) ∨
            ∃ call failure, error = StorageCall.told call failure

/--
Whatever happened to a tree of cursors before, a call on its root that leads to
failures of the store fails with the first of them and leaves all of the tree
idle, unless the call itself was at fault before the first of them.
-/
theorem propagates_of_reached
    (orderly : adapter.Orderly StorageSound False)
    (fails : adapter.FailsAsStore StorageSound)
    {plan : Plan}
    {last? : Option Bindings}
    {cursor : plan.Cursor κ}
    (reached : plan.Reached adapter last? cursor)
    {made : CursorCall}
    (notDestroy : made ≠ .destroy)
    (query : Query σ) :
    plan.Propagates adapter
      (plan.FailsItself last? ((plan.protocol adapter).state cursor) query made)
      (plan.attempts adapter made cursor query)
      ((plan.protocol adapter).call made cursor query) := by
  have sound := reached.sound orderly
  rcases
      report_attempts orderly fails sound (reached.openedLast orderly)
        notDestroy query with
    ⟨report, idle⟩
  have after : plan.Reached adapter _ _ := reached.called made query
  have soundAfter := after.sound orderly
  constructor
  case report =>
    exact report
  case stays =>
    exact fun fault => answer_of_failsItself sound
  case idle =>
    intro failed
    exact states_of_root soundAfter nofun (idle failed)
  case reopens =>
    intro failed bindings later error refused
    rcases
        report_attempts orderly fails soundAfter (after.openedLast orderly)
          (show CursorCall.openWith bindings ≠ .destroy from nofun) later with
      ⟨opens, -⟩
    rw [refused, idle failed] at opens
    cases opens with
    | first =>
        exact .inr ⟨_, _, rfl⟩
    | itself _ _ _ atFault =>
        cases atFault with
        | refused notAllowed =>
            exact (notAllowed rfl).elim
        | opening _ atFault =>
            exact .inl ⟨_, atFault, rfl⟩

end Plan

/-! ## A store with injected failures -/

namespace StoreAdapter

/--
The same store, but calls fail when they are told to.  A cursor is closed all
the same before the failure to close it is told; other calls are not made.
-/
def injecting
    (adapter : StoreAdapter κ σ)
    (fault : StorageCall → σ → Option StorageError) :
    StoreAdapter κ σ :=
  { adapter with
    rebind := fun range cursor store =>
      match fault .rebind store with
      | some error => .fail (.ofStorage error) cursor store
      | none => adapter.rebind range cursor store
    openWith := fun bindings cursor store =>
      match fault .openWith store with
      | some error => .fail (.ofStorage error) cursor store
      | none => adapter.openWith bindings cursor store
    next := fun cursor store =>
      match fault .next store with
      | some error => .fail (.ofStorage error) cursor store
      | none => adapter.next cursor store
    close := fun cursor store =>
      let closed := adapter.close cursor store
      match fault .close store with
      | some error =>
          { closed with
            answer := closed.answer.bind fun () => .error (.ofStorage error) }
      | none => closed
    rowCount := fun rowType store =>
      match fault .rowCount store with
      | some error => (.error (.ofStorage error), store)
      | none => adapter.rowCount rowType store }

variable
  {adapter : StoreAdapter κ σ}
  {Sound : κ → Prop}
  {sure : Prop}

theorem Orderly.injecting
    (orderly : adapter.Orderly Sound sure)
    (fault : StorageCall → σ → Option StorageError) :
    (adapter.injecting fault).Orderly Sound False where
  opens := by
    intro bindings cursor store sound idle
    change AfterOpen _ _ (match fault .openWith store with
      | some error => .fail (.ofStorage error) cursor store
      | none => adapter.openWith bindings cursor store)
    split
    · exact .failed sound idle
    · have opens :
          AfterOpen adapter.toCursorProtocol Sound
            (adapter.openWith bindings cursor store) :=
        orderly.opens sound idle
      generalize adapter.openWith bindings cursor store = outcome at opens ⊢
      cases opens with
      | opened sound active =>
          exact .opened sound active
      | failed sound idle =>
          exact .failed sound idle
  answers := by
    intro cursor store sound active
    have alive := CursorState.alive_of_active active
    change AfterFetch _ _ (match fault .next store with
      | some error => .fail (.ofStorage error) cursor store
      | none => adapter.next cursor store)
    split
    · exact .failed sound alive
    · have answers :
          adapter.AfterFetch Sound (adapter.next cursor store) :=
        orderly.answers sound active
      generalize adapter.next cursor store = outcome at answers ⊢
      cases answers with
      | row sound active =>
          exact .row sound active
      | ended sound alive =>
          exact .ended sound alive
      | failed sound alive =>
          exact .failed sound alive
  closes := by
    intro cursor store sound alive
    have closes :
        AfterEnd adapter.toCursorProtocol Sound sure .idle
          (adapter.close cursor store) :=
      orderly.closes sound alive
    change AfterEnd _ _ _ _ (match fault .close store with
      | some error =>
          { adapter.close cursor store with
            answer :=
              (adapter.close cursor store).answer.bind fun () =>
                .error (.ofStorage error) }
      | none => adapter.close cursor store)
    split <;> exact ⟨closes.sound, closes.state, nofun⟩
  destroys := by
    intro cursor store sound alive
    have destroys :
        AfterEnd adapter.toCursorProtocol Sound sure .destroyed
          (adapter.destroy cursor store) :=
      orderly.destroys sound alive
    exact ⟨destroys.sound, destroys.state, nofun⟩
  rebinds := by
    intro range cursor store sound idle
    dsimp only [StoreAdapter.injecting]
    split
    · exact ⟨sound, idle⟩
    · exact orderly.rebinds sound idle
  creates := fun made => orderly.creates made

theorem FailsAsStore.injecting
    (fails : adapter.FailsAsStore Sound)
    (fault : StorageCall → σ → Option StorageError) :
    (adapter.injecting fault).FailsAsStore Sound where
  rebinds := by
    intro range cursor store error sound idle failed
    dsimp only [StoreAdapter.injecting] at failed
    split at failed
    · cases failed
      exact ⟨_, rfl⟩
    · exact fails.rebinds sound idle failed
  opens := by
    intro bindings cursor store error sound idle failed
    dsimp only [StoreAdapter.injecting] at failed
    split at failed
    · cases failed
      exact ⟨_, rfl⟩
    · exact fails.opens sound idle failed
  answers := by
    intro cursor store error sound active failed
    dsimp only [StoreAdapter.injecting] at failed
    split at failed
    · cases failed
      exact ⟨_, rfl⟩
    · exact fails.answers sound active failed
  closes := by
    intro cursor store error sound alive failed
    dsimp only [StoreAdapter.injecting] at failed
    split at failed
    next injected _ =>
      cases answer : (adapter.close cursor store).answer with
      | ok =>
          rw [answer] at failed
          cases failed
          exact ⟨_, rfl⟩
      | error found =>
          rw [answer] at failed
          cases failed
          exact fails.closes sound alive answer
    next =>
      exact fails.closes sound alive failed
  counts := by
    intro rowType store error isTable failed
    dsimp only [StoreAdapter.injecting] at failed
    split at failed
    · cases failed
      exact ⟨_, rfl⟩
    · exact fails.counts isTable failed

end StoreAdapter

/-- Where a call on a memory store is allowed, it fails only for want of a status. -/
theorem MemoryStore.failsAsStore (sources : SourceRows) :
    (adapter sources).FailsAsStore (fun _ => True) where
  rebinds := by
    intro range cursor store error _ idle failed
    change cursor.state = .idle at idle
    change (GroupCursor.rebind range cursor store).answer = _ at failed
    rw [GroupCursor.rebind, idle] at failed
    cases failed
  opens := by
    intro bindings cursor store error _ idle failed
    change cursor.state = .idle at idle
    change (GroupCursor.openWith bindings cursor store).answer = _ at failed
    rw [GroupCursor.openWith, idle] at failed
    cases failed
  answers := by
    intro cursor store error _ active failed
    change cursor.state = .active at active
    change (GroupCursor.next cursor store).answer = _ at failed
    rw [GroupCursor.next, active, CursorState.requireActive_active] at failed
    dsimp only at failed
    split at failed <;> cases failed
  closes := by
    intro cursor store error _ alive failed
    change cursor.state ≠ .destroyed at alive
    change (GroupCursor.close cursor store).answer = _ at failed
    rw [GroupCursor.close, CursorState.requireAlive_of_ne alive] at failed
    cases failed
  counts := by
    intro rowType store error isTable failed
    change store.rowCount sources rowType = _ at failed
    rw [MemoryStore.rowCount] at failed
    split at failed
    next noTable =>
      rw [RowType.table?, Option.map_eq_none_iff] at noTable
      rw [RowType.isTable, noTable] at isTable
      cases isTable
    next table _ =>
      rw [MemoryStore.status, StatusRegistry.status] at failed
      cases known : store.statuses.statusOf? table with
      | some status =>
          rw [known] at failed
          cases failed
      | none =>
          rw [known] at failed
          cases failed
          exact ⟨_, rfl⟩

namespace Plan

section Sample

/-- The failure to release a storage cursor. -/
def stuck : StorageError :=
  .io "page unpin failed" "injected"

/-- A memory store whose storage cursors fail whenever they are closed. -/
def sticky : StoreAdapter GroupCursor MemoryStore :=
  (MemoryStore.adapter MemoryStore.Sample.sources).injecting fun made _ =>
    if made = .close then some stuck else none

/-- The cursors of the sample plan after its first row. -/
def sampleMidway : samplePlan.Cursor GroupCursor × Query MemoryStore :=
  let protocol := samplePlan.protocol sticky
  let opened :=
    protocol.call (.openWith (.reserve 1)) sampleCursor sampleQuery
  let stepped := protocol.call .next opened.cursor opened.world
  (stepped.cursor, stepped.world)

/-- A loop under way is closed, and neither of its storage cursors closes well. -/
theorem propagates_sampleMidway :
    let protocol := samplePlan.protocol sticky
    let closed := protocol.call .close sampleMidway.1 sampleMidway.2
    samplePlan.Reached sticky (some (.reserve 1)) sampleMidway.1 ∧
      samplePlan.Propagates sticky
          (samplePlan.FailsItself (some (.reserve 1)) .active sampleMidway.2
            .close)
          [⟨.close, some stuck, none⟩, ⟨.close, some stuck, none⟩] closed ∧
        closed.answer = .error (StorageCall.told .close stuck) := by
  intro protocol closed
  have reached :
      samplePlan.Reached sticky (some (.reserve 1)) sampleMidway.1 :=
    .called
      (.called (.fresh (show
          samplePlan.newCursor sticky sampleQuery =
            (.ok sampleCursor, sampleQuery) from rfl))
        (.openWith (.reserve 1)) sampleQuery)
      .next _
  have memory :=
    (MemoryStore.adapter_conformant MemoryStore.Sample.sources).orderly
  have propagates :=
    propagates_of_reached (memory.injecting _)
      ((MemoryStore.failsAsStore MemoryStore.Sample.sources).injecting _)
      reached (show CursorCall.close ≠ .destroy from nofun) sampleMidway.2
  exact ⟨reached, propagates, rfl⟩

/--
A loop that is canceled tells that, in its own name, although it meets two
failures of the store when it closes its cursors.
-/
theorem canceled_sampleMidway :
    let canceled := sampleMidway.2.cancel
    let stopped :=
      (samplePlan.protocol sticky).call .next sampleMidway.1 canceled
    samplePlan.attempts sticky .next sampleMidway.1 canceled =
        [⟨.close, some stuck, none⟩, ⟨.close, some stuck, none⟩] ∧
      stopped.answer =
        .error ⟨.queryCanceled "sample", some "NestedLoopMap"⟩ ∧
      stopped.answer ≠ .error (StorageCall.told .close stuck) :=
  ⟨rfl, rfl, nofun⟩

end Sample

end Plan

end HierQuery
