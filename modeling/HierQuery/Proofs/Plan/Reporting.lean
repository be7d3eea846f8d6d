import HierQuery.Proofs.Plan.Cancellation
import HierQuery.Proofs.Plan.Faults

/-!
# Operators report what fails below them

A scan, a count and a nested loop each report the failures of the store that
their calls meet, given the same for the cursors below.  The proofs follow the
operators: what may fail is followed by the closing of all cursors that are
still active, and a failure in closing is told only if nothing failed before.

A leaf has a fault of its own only if the query is canceled, or if it is a scan
that is opened without a key.  All others arise in loops, right after an outer
row was handed out.
-/

namespace HierQuery

open CursorProtocol

variable {κ σ : Type}

/-! ## Cursors that report -/

/--
The allowed calls of a protocol report the calls which they make on the store.
A cursor is opened with bindings and then goes on under them; they decide which
faults of its own an opening and a call for a row may have.
-/
structure CursorProtocol.Honest
    (protocol : CursorProtocol κ (Query σ))
    (operator : String)
    (record : σ → List Attempt)
    (Sound : κ → Prop)
    (Under : Bindings → κ → Prop)
    (Opening : Bindings → Fault → Prop)
    (Running : Bindings → OwnFaults) :
    Prop where
  conformant : protocol.Conformant Sound False
  goesOn : protocol.GoesOnUnder Sound Under
  frames : protocol.Frames Query.Stopped
  opens :
    ∀ {bindings cursor query}, Sound cursor →
      protocol.state cursor = .idle →
        Reports (.atOnce (Opening bindings)) (Query.record record)
          (query.record record) (protocol.openWith bindings cursor query)
  answers :
    ∀ {bindings cursor query}, Sound cursor →
      protocol.state cursor = .active → Under bindings cursor →
        query.canceled = false →
          Reports (Running bindings) (Query.record record)
            (query.record record) (protocol.next cursor query)
  hands :
    ∀ {bindings cursor query}, Sound cursor →
      protocol.state cursor = .active → Under bindings cursor →
        HandsOut (Query.record record) (query.record record)
          (protocol.next cursor query)
  stops :
    ∀ {cursor query}, Sound cursor → protocol.state cursor = .active →
      query.canceled = true →
        Reports (.atOnce (· = query.stop operator)) (Query.record record)
          (query.record record) (protocol.next cursor query)
  closes :
    ∀ {cursor query}, Sound cursor → protocol.state cursor ≠ .destroyed →
      ReportsClosing (Query.record record) (query.record record)
        (protocol.close cursor query)
  /-- What is at fault now does not depend on the calls that were made long before. -/
  follows :
    ∀ bindings before,
      (Running bindings).Follows (Running bindings) before

theorem CursorProtocol.Honest.closesActive
    {protocol : CursorProtocol κ (Query σ)}
    {operator : String}
    {record : σ → List Attempt}
    {Sound : κ → Prop}
    {Under : Bindings → κ → Prop}
    {Opening : Bindings → Fault → Prop}
    {Running : Bindings → OwnFaults}
    (honest :
      protocol.Honest operator record Sound Under Opening Running)
    {cursor : κ}
    (sound : Sound cursor)
    (alive : protocol.state cursor ≠ .destroyed)
    (query : Query σ) :
    ReportsClosing (Query.record record) (query.record record)
      (protocol.closeActive cursor query) := by
  rw [closeActive]
  split
  · exact honest.closes sound alive
  · exact reportsClosing_pure rfl

/-! ## Scans -/

namespace GroupScan

variable
  {adapter : StoreAdapter κ σ}
  {StorageSound : κ → Prop}
  {sure : Prop}
  {record : σ → List Attempt}
  {before : List Attempt}
  {scan : GroupScan}

/-- A scan tells the failure of its storage cursor as its own. -/
theorem report_onStorage
    {α : Type}
    {call : κ → σ → Outcome κ σ α}
    {cursor : Cursor κ}
    {query : Query σ}
    {made : StorageCall}
    {handout : α → Option Row}
    (recorded :
      Recorded record made handout before
        (call cursor.storage query.store).answer
        (call cursor.storage query.store).world)
    (leaf : made.operatorName = operatorName) :
    ∃ failure? row?,
      (cursor.onStorage call query).world.record record =
          before ++ [⟨made, failure?, row?⟩] ∧
        Report .nothing [⟨made, failure?, row?⟩]
          (cursor.onStorage call query).answer := by
  rcases recorded with ⟨value, succeeds, added⟩ | ⟨error, fails, added⟩
  · refine ⟨none, handout value, added, ?_⟩
    simp only [Cursor.onStorage, succeeds]
    exact .succeeded (List.forall_mem_singleton.2 rfl)
  · refine ⟨some error, none, added, ?_⟩
    have told :
        made.told error = (ExecError.ofStorage error).within operatorName := by
      rw [StorageCall.told, leaf]
      rfl
    simp only [Cursor.onStorage, fails]
    change Report _ _
      (.error ((ExecError.ofStorage error).within operatorName))
    rw [← told]
    exact .first (List.nil_append _).symm quiet_nil onlyCloses_nil

theorem reports_onStorage
    {α : Type}
    {call : κ → σ → Outcome κ σ α}
    {cursor : Cursor κ}
    {query : Query σ}
    {made : StorageCall}
    {handout : α → Option Row}
    (recorded :
      Recorded record made handout before
        (call cursor.storage query.store).answer
        (call cursor.storage query.store).world)
    (leaf : made.operatorName = operatorName) :
    Reports .nothing (Query.record record) before
      (cursor.onStorage call query) := by
  rcases report_onStorage recorded leaf with ⟨failure?, row?, added, report⟩
  exact ⟨_, added, report⟩

/-- A scan that closes its storage cursor reports that. -/
theorem reportsClosing_onStorage
    (recording : adapter.Recording StorageSound record)
    {cursor : Cursor κ}
    (sound : StorageSound cursor.storage)
    (alive : adapter.state cursor.storage ≠ .destroyed)
    (query : Query σ) :
    ReportsClosing (Query.record record) (query.record record)
      (cursor.onStorage adapter.close query) := by
  have closed :
      Recorded record .close _ (record query.store) _ _ :=
    recording.closes sound alive
  rcases report_onStorage closed rfl with ⟨failure?, row?, added, report⟩
  exact ⟨_, added, List.forall_mem_singleton.2 rfl, report⟩

theorem reportsClosing_release
    (recording : adapter.Recording StorageSound record)
    {cursor : Cursor κ}
    (sound : StorageSound cursor.storage)
    (alive : adapter.state cursor.storage ≠ .destroyed)
    (query : Query σ) :
    ReportsClosing (Query.record record) (query.record record)
      (release adapter cursor query) := by
  have closed :
      ReportsClosing (Query.record record) (query.record record)
        (cursor.onStorage adapter.closeActive query) := by
    unfold closeActive
    by_cases active : adapter.state cursor.storage = .active
    · simp only [Cursor.onStorage, if_pos active]
      exact reportsClosing_onStorage recording sound alive query
    · simp only [Cursor.onStorage, if_neg active]
      exact reportsClosing_pure rfl
  exact closed

theorem reportsClosing_finish
    (recording : adapter.Recording StorageSound record)
    (reason : Event)
    {cursor : Cursor κ}
    (sound : StorageSound cursor.storage)
    (alive : adapter.state cursor.storage ≠ .destroyed)
    (query : Query σ) :
    ReportsClosing (Query.record record) (query.record record)
      (finish adapter reason cursor query) := by
  rcases reportsClosing_release recording sound alive query with
    ⟨attempts, added, closes, report⟩
  refine ⟨attempts, ?_, closes, report⟩
  change record (Query.trace _ _ _ _).store = _
  rw [Query.store_trace]
  exact added

/-- A scan that fails closes its storage cursor and stays with the failure. -/
theorem reports_abort
    {α β : Type}
    (recording : adapter.Recording StorageSound record)
    {own : OwnFaults}
    {error : ExecError}
    {cursor : Cursor κ}
    (sound : StorageSound cursor.storage)
    (alive : adapter.state cursor.storage ≠ .destroyed)
    {query : Query σ}
    (failed :
      Reports own (Query.record record) before
        (.fail error cursor query : Outcome (Cursor κ) (Query σ) α)) :
    Reports own (Query.record record) before
      (abort adapter error cursor query
        : Outcome (Cursor κ) (Query σ) β) := by
  rcases reportsClosing_onStorage recording sound alive query with
    ⟨closed, added, closes, -⟩
  exact failed.cleanUp closes operatorName added

/-- A scan that is canceled says so, whatever its storage cursor says when it is closed. -/
theorem reports_stop
    (recording : adapter.Recording StorageSound record)
    {cursor : Cursor κ}
    (active : cursor.state = .active)
    (sound : Sound adapter StorageSound cursor)
    {query : Query σ}
    (canceled : query.canceled = true) :
    Reports (.atOnce (· = query.stop operatorName)) (Query.record record)
      (query.record record) (scan.next adapter cursor query) := by
  have storageActive := sound.state.trans active
  rw [next, active, CursorState.requireActive_active,
    Query.checkCancellation_of_canceled canceled]
  dsimp only
  let refused :=
    (query.count .cancellations).logged
      (Event.queryCanceled.record [("query_id", query.id)])
  have closed :
      ReportsClosing (Query.record record) (refused.record record)
        (cursor.onStorage adapter.close refused) :=
    reportsClosing_onStorage recording sound.storage
      (CursorState.alive_of_active storageActive) refused
  rcases closed with ⟨closed, added, closes, -⟩
  refine ⟨closed, added, ?_⟩
  change Report _ _ (.error (query.stop operatorName).error)
  exact .itself (List.nil_append _).symm quiet_nil closes
    (OwnFaults.atOnce_nil rfl)

theorem reports_offer
    (recording : adapter.Recording StorageSound record)
    (row : Row)
    {cursor : Cursor κ}
    (sound : StorageSound cursor.storage)
    (alive : adapter.state cursor.storage ≠ .destroyed)
    (query : Query σ) :
    Reports .nothing (Query.record record) (query.record record)
      (scan.offer adapter row cursor query) := by
  rw [offer]
  split
  · split
    next tally _ =>
      have limited :
          ReportsClosing (Query.record record) (query.record record)
            (finish adapter .limitReached { cursor with tally }
              (query.count .limitsReached)) :=
        reportsClosing_finish recording _ sound alive _
      exact limited.reports.map _
    · exact reports_pure (by simp [Query.record])
  · exact (reportsClosing_finish recording .endOfStream sound alive
      query).reports.map _

theorem reports_next
    (orderly : adapter.Orderly StorageSound sure)
    (recording : adapter.Recording StorageSound record)
    {cursor : Cursor κ}
    (active : cursor.state = .active)
    (sound : Sound adapter StorageSound cursor)
    {query : Query σ}
    (running : query.canceled = false) :
    Reports .nothing (Query.record record) (query.record record)
      (scan.next adapter cursor query) := by
  have storageActive := sound.state.trans active
  have fetches :
      Recorded record .next id (record query.store)
        (adapter.next cursor.storage query.store).answer
        (adapter.next cursor.storage query.store).world :=
    recording.answers sound.storage storageActive
  have reports :
      Reports .nothing (Query.record record) (query.record record)
        (cursor.onStorage adapter.next query) :=
    reports_onStorage fetches rfl
  have step :
      adapter.AfterFetch StorageSound
        (adapter.next cursor.storage query.store) :=
    orderly.answers sound.storage storageActive
  rw [next, active, CursorState.requireActive_active,
    Query.checkCancellation_of_not_canceled running]
  unfold Cursor.onStorage at reports ⊢
  dsimp only at reports ⊢
  generalize adapter.next cursor.storage query.store = outcome
    at reports step ⊢
  cases step with
  | row sound storageActive =>
      refine reports.followed rfl ?_ fun _ => OwnFaults.follows_nothing _ _
      apply reports_offer recording
      · exact sound
      · exact CursorState.alive_of_active storageActive
  | ended sound alive =>
      refine reports.followed rfl ?_ fun _ => OwnFaults.follows_nothing _ _
      apply Reports.map
      apply ReportsClosing.reports
      apply reportsClosing_finish recording
      · exact sound
      · exact alive
  | failed sound alive =>
      apply reports_abort recording
      · exact sound
      · exact alive
      · exact reports

/-- A row that is handed out is the one that was offered, and the store is left alone. -/
theorem handed_offer
    {row handed : Row}
    {cursor : Cursor κ}
    {query : Query σ}
    (hands : (scan.offer adapter row cursor query).answer = .ok (some handed)) :
    handed = row ∧
      (scan.offer adapter row cursor query).world.store = query.store := by
  unfold offer at hands ⊢
  split at hands
  next admitted =>
    rw [if_pos admitted]
    generalize scan.limit.reached cursor.tally row = limited at hands ⊢
    rcases limited with ⟨_ | _, tally⟩
    · cases hands
      exact ⟨rfl, by simp [Outcome.pure]⟩
    · exact (answer_map_none_ne hands).elim
  next =>
    exact (answer_map_none_ne hands).elim

theorem hands_next
    (orderly : adapter.Orderly StorageSound sure)
    (recording : adapter.Recording StorageSound record)
    {cursor : Cursor κ}
    (active : cursor.state = .active)
    (sound : Sound adapter StorageSound cursor)
    (query : Query σ) :
    HandsOut (Query.record record) (query.record record)
      (scan.next adapter cursor query) := by
  intro row hands
  refine ⟨[⟨.next, none, some row⟩], ?_, [], _, rfl, .fetched⟩
  change (scan.next adapter cursor query).world.record record = _
  have storageActive := sound.state.trans active
  have fetches :
      Recorded record .next id (record query.store)
        (adapter.next cursor.storage query.store).answer
        (adapter.next cursor.storage query.store).world :=
    recording.answers sound.storage storageActive
  have step :
      adapter.AfterFetch StorageSound
        (adapter.next cursor.storage query.store) :=
    orderly.answers sound.storage storageActive
  rw [next, active, CursorState.requireActive_active] at hands ⊢
  cases running : query.canceled with
  | true =>
      rw [Query.checkCancellation_of_canceled running] at hands
      cases hands
  | false =>
      rw [Query.checkCancellation_of_not_canceled running] at hands ⊢
      unfold Cursor.onStorage at hands ⊢
      dsimp only at hands ⊢
      generalize adapter.next cursor.storage query.store = outcome
        at fetches step hands ⊢
      cases step with
      | row =>
          rcases handed_offer hands with ⟨rfl, same⟩
          rcases fetches with ⟨value, succeeds, added⟩ | ⟨error, fails, -⟩
          · cases succeeds
            exact (congrArg record same).trans added
          · cases fails
      | ended =>
          exact (answer_map_none_ne hands).elim
      | failed =>
          cases hands

theorem reports_start
    (recording : adapter.Recording StorageSound record)
    (bindings : Bindings)
    {cursor : Cursor κ}
    (sound : StorageSound cursor.storage)
    (storageIdle : adapter.state cursor.storage = .idle)
    (query : Query σ) :
    Reports .nothing (Query.record record) (query.record record)
      (start adapter bindings cursor query) := by
  have opened :
      Recorded record .openWith _ (record query.store)
        (adapter.openWith bindings cursor.storage query.store).answer
        (adapter.openWith bindings cursor.storage query.store).world :=
    recording.opens sound storageIdle
  refine (reports_onStorage opened rfl).andThen ?_
    (OwnFaults.follows_nothing _)
  intro value succeeds
  exact reports_pure (by simp [Query.record])

/-- Moving an idle storage cursor leaves it idle, even if that fails. -/
theorem idle_position
    (scan : GroupScan)
    (orderly : adapter.Orderly StorageSound sure)
    (bindings : Bindings)
    {cursor : Cursor κ}
    (sound : StorageSound cursor.storage)
    (storageIdle : adapter.state cursor.storage = .idle)
    (query : Query σ) :
    let positioned := scan.position adapter bindings cursor query
    StorageSound positioned.cursor.storage ∧
      adapter.state positioned.cursor.storage = .idle := by
  dsimp only
  rw [position]
  split
  · exact ⟨sound, storageIdle⟩
  · split
    · exact ⟨sound, storageIdle⟩
    · dsimp only
      rw [Outcome.andThen]
      split <;> exact orderly.rebinds sound storageIdle

theorem reports_position
    (recording : adapter.Recording StorageSound record)
    (bindings : Bindings)
    {cursor : Cursor κ}
    (sound : StorageSound cursor.storage)
    (storageIdle : adapter.state cursor.storage = .idle)
    (query : Query σ) :
    Reports (.atOnce (scan.OpenFault bindings)) (Query.record record)
      (query.record record) (scan.position adapter bindings cursor query) := by
  rw [position]
  split
  · exact reports_pure rfl
  next slot reach positional =>
    split
    next error unbound =>
      rcases error with ⟨cause, operator?⟩
      rcases Bindings.getKey_eq_error_iff.1 unbound with ⟨rfl, noKey⟩
      have atFault : scan.OpenFault bindings _ := .noKey positional noKey
      exact reports_itself (OwnFaults.atOnce_nil atFault) rfl
    next key _ =>
      have moved :
          Recorded record .rebind _ (record query.store)
            (adapter.rebind (.reaching reach key) cursor.storage
              query.store).answer
            (adapter.rebind (.reaching reach key) cursor.storage
              query.store).world :=
        recording.rebinds sound storageIdle
      have reports :
          Reports .nothing (Query.record record) (query.record record)
            ((cursor.onStorage (adapter.rebind (.reaching reach key))
              query).andThen fun () cursor query =>
                .pure () { cursor with range := .reaching reach key }
                  (query.count .rebinds)) := by
        refine (reports_onStorage moved rfl).andThen ?_
          (OwnFaults.follows_nothing _)
        intro value succeeds
        exact reports_pure (by simp [Query.record])
      exact reports.mono (OwnFaults.follows_nothing _ _)

/-- A scan reports the failures of its storage cursor. -/
theorem honest
    (orderly : adapter.Orderly StorageSound False)
    (recording : adapter.Recording StorageSound record)
    (scan : GroupScan) :
    (scan.protocol adapter).Honest operatorName record
      (Sound adapter StorageSound) (fun _ _ => True) scan.OpenFault
      (fun _ => .nothing) where
  conformant := scan.conformant orderly
  goesOn := ⟨fun _ _ _ => trivial, fun _ _ _ _ => trivial⟩
  frames := scan.frames Query.frame_stopped adapter.frames_stopped
  opens := by
    intro bindings cursor query sound idle
    change cursor.state = .idle at idle
    have storageIdle := sound.state.trans idle
    change Reports _ _ _ (scan.openWith adapter bindings cursor query)
    rw [openWith, idle, CursorState.requireIdle_idle]
    have positioned :=
      scan.idle_position orderly bindings sound.storage storageIdle query
    refine (reports_position recording bindings sound.storage storageIdle
      query).andThen ?_ (OwnFaults.follows_nothing _)
    intro value succeeds
    exact reports_start recording bindings positioned.1 positioned.2 _
  answers := fun sound active _ running =>
    reports_next orderly recording active sound running
  hands := fun sound active _ =>
    hands_next orderly recording active sound _
  stops := fun sound active canceled =>
    reports_stop recording active sound canceled
  follows := fun _ => OwnFaults.follows_nothing _
  closes := by
    intro cursor query sound alive
    change cursor.state ≠ .destroyed at alive
    change ReportsClosing _ _ (close adapter cursor query)
    rw [close, CursorState.requireAlive_of_ne alive]
    dsimp only
    split
    · apply reportsClosing_finish recording .cursorClose sound.storage
      rw [sound.state]
      exact alive
    · exact reportsClosing_pure rfl

end GroupScan

/-! ## Counts -/

namespace Count

/-- A count reports the failure of the store to count. -/
theorem honest
    {adapter : StoreAdapter κ σ}
    {StorageSound : κ → Prop}
    {record : σ → List Attempt}
    (recording : adapter.Recording StorageSound record)
    (count : Count) :
    (count.protocol adapter).Honest operatorName record (fun _ => True)
      (fun _ _ => True) (fun _ _ => False) (fun _ => .nothing) where
  conformant := count.conformant adapter False
  goesOn := ⟨fun _ _ _ => trivial, fun _ _ _ _ => trivial⟩
  frames := count.frames Query.frame_stopped adapter.frames_stopped
  opens := by
    intro bindings cursor query _ idle
    change cursor.state = .idle at idle
    change Reports _ _ _ (count.openWith bindings cursor query)
    rw [openWith, idle, CursorState.requireIdle_idle]
    exact reports_pure (by simp [Query.record, trace])
  answers := by
    intro bindings cursor query _ active _ running
    change cursor.state = .active at active
    change Reports _ _ _ (count.next adapter cursor query)
    rw [next, active, CursorState.requireActive_active,
      Query.checkCancellation_of_not_canceled running]
    dsimp only
    split
    · have counted :
          Recorded record .rowCount _ (record query.store)
            (adapter.rowCount count.tableType query.store).1
            (adapter.rowCount count.tableType query.store).2 :=
        recording.counts count.isTable
      rw [produce]
      generalize adapter.rowCount count.tableType query.store = result
        at counted ⊢
      rcases result with ⟨answer, store⟩
      rcases counted with ⟨number, succeeds, added⟩ | ⟨error, fails, added⟩
      · cases succeeds
        refine ⟨[⟨.rowCount, none, none⟩], ?_, ?_⟩
        · simpa [Query.record, Outcome.pure] using added
        · exact .succeeded (List.forall_mem_singleton.2 rfl)
      · cases fails
        refine ⟨[⟨.rowCount, some error, none⟩], added, ?_⟩
        exact .first (List.nil_append _).symm quiet_nil onlyCloses_nil
    · exact reports_pure (by simp [Query.record, trace])
  hands := by
    intro bindings cursor query _ active _ row hands
    change cursor.state = .active at active
    change (count.next adapter cursor query).answer = _ at hands
    refine ⟨[⟨.rowCount, none, none⟩], ?_⟩
    change (count.next adapter cursor query).world.record record = _ ∧ _
    rw [next, active, CursorState.requireActive_active] at hands ⊢
    cases running : query.canceled with
    | true =>
        rw [Query.checkCancellation_of_canceled running] at hands
        cases hands
    | false =>
        rw [Query.checkCancellation_of_not_canceled running] at hands ⊢
        dsimp only at hands ⊢
        split at hands
        next pending =>
          rw [if_pos pending]
          have counted :
              Recorded record .rowCount _ (record query.store)
                (adapter.rowCount count.tableType query.store).1
                (adapter.rowCount count.tableType query.store).2 :=
            recording.counts count.isTable
          rw [produce] at hands ⊢
          generalize adapter.rowCount count.tableType query.store = result
            at counted hands ⊢
          rcases result with ⟨_ | number, store⟩
          · cases hands
          · cases hands
            rcases counted with ⟨_, _, added⟩ | ⟨_, fails, -⟩
            · exact ⟨by simpa [Query.record, Outcome.pure] using added,
                [], _, rfl, .counted rfl⟩
            · cases fails
        next =>
          cases hands
  stops := by
    intro cursor query _ active canceled
    change cursor.state = .active at active
    change Reports _ _ _ (count.next adapter cursor query)
    rw [next, active, CursorState.requireActive_active,
      Query.checkCancellation_of_canceled canceled]
    have atFault :
        OwnFaults.atOnce (· = query.stop operatorName) []
          (query.stop operatorName) :=
      OwnFaults.atOnce_nil rfl
    exact reports_itself atFault rfl
  follows := fun _ => OwnFaults.follows_nothing _
  closes := by
    intro cursor query _ alive
    change cursor.state ≠ .destroyed at alive
    change ReportsClosing _ _ (count.close cursor query)
    rw [close, CursorState.requireAlive_of_ne alive]
    dsimp only
    split
    · exact reportsClosing_pure (by simp [Query.record, trace])
    · exact reportsClosing_pure rfl

end Count

/-! ## Nested loops -/

namespace NestedLoop

variable
  {α β : Type}
  {outer : CursorProtocol α (Query σ)}
  {inner : CursorProtocol β (Query σ)}
  {outerName innerName : String}
  {OuterSound : α → Prop}
  {InnerSound : β → Prop}
  {OuterUnder : Bindings → α → Prop}
  {InnerUnder : Bindings → β → Prop}
  {OuterOpening InnerOpening : Bindings → Fault → Prop}
  {OuterRunning InnerRunning : Bindings → OwnFaults}
  {slot : Nat}
  {bindings : Bindings}
  {record : σ → List Attempt}
  {before : List Attempt}

/-- The bindings of the loop only matter up to what it binds itself. -/
theorem reports_startInner
    (innerHonest :
      inner.Honest innerName record InnerSound InnerUnder InnerOpening
        InnerRunning)
    (row : Row)
    {cursor : Cursor α β}
    (innerSound : InnerSound cursor.inner)
    (innerIdle : inner.state cursor.inner = .idle)
    (inside : slot < bindings.reserved)
    (rebinds :
      ∀ value, cursor.bindings.set slot value = bindings.set slot value)
    (query : Query σ) :
    Reports (.atOnce (StartFault InnerOpening slot bindings row))
      (Query.record record) (query.record record)
      (startInner inner slot row cursor query) := by
  rw [startInner]
  split
  next unplaced =>
    have atFault : StartFault InnerOpening slot bindings row _ :=
      .keyless unplaced
    exact reports_itself (OwnFaults.atOnce_nil atFault) rfl
  next key placed =>
    have binds := Bindings.set_of_lt inside (.key key)
    rw [rebinds, binds]
    dsimp only
    have opens :=
      @innerHonest.opens
        ⟨bindings.slots.set slot (some (.key key))⟩ cursor.inner query
        innerSound innerIdle
    refine Reports.mono opens ?_
    rintro earlier fault ⟨rfl, atFault⟩
    exact ⟨rfl, .opening placed binds atFault⟩

theorem answer_takeOuter_ne
    {cursor : Cursor α β}
    {query : Query σ}
    {row : Row} :
    (takeOuter outer inner slot cursor query).answer ≠ .ok (.row row) := by
  intro hands
  rw [takeOuter, Outcome.andThen] at hands
  split at hands
  next row? _ =>
    cases row? with
    | none =>
        cases hands
    | some outerRow =>
        change Except.map _ (startInner inner slot outerRow _ _).answer = _
          at hands
        generalize (startInner inner slot outerRow _ _).answer = answer
          at hands
        cases answer <;> cases hands
  next =>
    cases hands

/-- A row of a round is a row of the inner cursor. -/
theorem hands_round
    (innerHonest :
      inner.Honest innerName record InnerSound InnerUnder InnerOpening
        InnerRunning)
    {cursor : Cursor α β}
    (living : Living outer inner OuterSound InnerSound cursor)
    (under : Under inner OuterUnder InnerUnder slot bindings cursor)
    {query : Query σ}
    {row : Row}
    (hands : (round outer inner slot cursor query).answer = .ok (.row row)) :
    ∃ attempts,
      (round outer inner slot cursor query).world.record record =
          query.record record ++ attempts ∧
        HandsLast row attempts := by
  rw [round] at hands ⊢
  by_cases innerActive : inner.state cursor.inner = .active
  · rw [if_pos innerActive] at hands ⊢
    rcases under.inner innerActive with ⟨key, -, innerUnder⟩
    have innerHands :
        HandsOut (Query.record record) (query.record record)
          (inner.next cursor.inner query) :=
      innerHonest.hands living.innerSound innerActive innerUnder
    unfold Cursor.onInner at hands ⊢
    dsimp only at hands ⊢
    generalize inner.next cursor.inner query = outcome at innerHands hands ⊢
    rcases outcome with ⟨_ | _ | innerRow, innerAfter, afterwards⟩
    · cases hands
    · exact (answer_takeOuter_ne hands).elim
    · cases hands
      exact innerHands row rfl
  · rw [if_neg innerActive] at hands
    exact (answer_takeOuter_ne hands).elim

section

variable
  (outerHonest :
    outer.Honest outerName record OuterSound OuterUnder OuterOpening
      OuterRunning)
  (innerHonest :
    inner.Honest innerName record InnerSound InnerUnder InnerOpening
      InnerRunning)

include outerHonest innerHonest

/-- A loop that is closed tells the failure of its inner cursor first. -/
theorem reportsClosing_release
    {cursor : Cursor α β}
    (living : Living outer inner OuterSound InnerSound cursor)
    (query : Query σ) :
    ReportsClosing (Query.record record) (query.record record)
      (release outer inner cursor query) := by
  rcases innerHonest.closesActive living.innerSound living.innerAlive query with
    ⟨innerMade, innerAdded, innerCloses, innerReport⟩
  rcases
      @outerHonest.closes cursor.outer
        (inner.closeActive cursor.inner query).world living.outerSound
        living.outerAlive with
    ⟨outerMade, outerAdded, outerCloses, outerReport⟩
  refine ⟨innerMade ++ outerMade, ?_, innerCloses.append outerCloses, ?_⟩
  · rw [← List.append_assoc, ← innerAdded]
    exact outerAdded
  · rw [release, Cursor.onInner, Cursor.onOuter]
    dsimp only
    generalize (inner.closeActive cursor.inner query).answer = answer
      at innerReport ⊢
    cases answer with
    | ok =>
        exact outerReport.after_quiet innerReport.quiet_of_ok
          (OwnFaults.follows_nothing _ _)
    | error error =>
        exact innerReport.cleaned outerCloses

/-- What a loop that fails still closes. -/
theorem closes_abort
    {ρ : Type}
    (error : ExecError)
    {cursor : Cursor α β}
    (living : Living outer inner OuterSound InnerSound cursor)
    (query : Query σ) :
    ∃ closed,
      (abort outer inner error cursor query
          : Outcome (Cursor α β) (Query σ) ρ).world.record record =
          query.record record ++ closed ∧
        OnlyCloses closed := by
  rcases innerHonest.closesActive living.innerSound living.innerAlive query with
    ⟨innerMade, innerAdded, innerCloses, -⟩
  rcases
      outerHonest.closesActive living.outerSound living.outerAlive
        (inner.closeActive cursor.inner query).world with
    ⟨outerMade, outerAdded, outerCloses, -⟩
  refine ⟨innerMade ++ outerMade, ?_, innerCloses.append outerCloses⟩
  rw [← List.append_assoc, ← innerAdded]
  exact outerAdded

/-- A loop that fails closes what is still active and stays with the failure. -/
theorem reports_abort
    {ρ ρ' : Type}
    {own : OwnFaults}
    {error : ExecError}
    {cursor : Cursor α β}
    (living : Living outer inner OuterSound InnerSound cursor)
    {query : Query σ}
    (failed :
      Reports own (Query.record record) before
        (.fail error cursor query : Outcome (Cursor α β) (Query σ) ρ)) :
    Reports own (Query.record record) before
      (abort outer inner error cursor query
        : Outcome (Cursor α β) (Query σ) ρ') := by
  have cleanedUp :=
    closes_abort (ρ := ρ') outerHonest innerHonest error living query
  rcases cleanedUp with ⟨closed, added, closes⟩
  exact failed.cleanUp closes operatorName added

/-- A loop that is canceled says so, whatever its two cursors say when they are closed. -/
theorem reports_stop
    {cursor : Cursor α β}
    (living : Living outer inner OuterSound InnerSound cursor)
    {query : Query σ}
    (canceled : query.canceled = true) :
    Reports (.atOnce (· = query.stop operatorName)) (Query.record record)
      (query.record record) (next outer inner slot cursor query) := by
  rw [next, living.state, CursorState.requireActive_active,
    Query.checkCancellation_of_canceled canceled]
  dsimp only
  rcases closes_abort outerHonest innerHonest _ living _ with
    ⟨closed, added, closes⟩
  refine ⟨closed, added, ?_⟩
  change Report _ _ (.error (query.stop operatorName).error)
  exact .itself (List.nil_append _).symm quiet_nil closes
    (OwnFaults.atOnce_nil rfl)

theorem reports_takeOuter
    {cursor : Cursor α β}
    (outerSound : OuterSound cursor.outer)
    (outerActive : outer.state cursor.outer = .active)
    (innerSound : InnerSound cursor.inner)
    (innerIdle : inner.state cursor.inner = .idle)
    (under : Under inner OuterUnder InnerUnder slot bindings cursor)
    {query : Query σ}
    (running : query.canceled = false) :
    Reports (RunFault OuterRunning InnerOpening InnerRunning slot bindings)
      (Query.record record) (query.record record)
      (takeOuter outer inner slot cursor query) := by
  have reports :
      Reports (OuterRunning bindings) (Query.record record)
        (query.record record) (cursor.onOuter outer.next query) :=
    outerHonest.answers outerSound outerActive under.outer running
  rw [takeOuter, Outcome.andThen]
  split
  next row? taken =>
    cases row? with
    | none =>
        exact reports.followed taken
          (reports_pure rfl : Reports .nothing _ _ _)
          fun _ => OwnFaults.follows_nothing _ _
    | some row =>
        rcases
            outerHonest.hands outerSound outerActive under.outer row taken with
          ⟨handing, added, hands⟩
        have starts :
            Reports (.atOnce (StartFault InnerOpening slot bindings row))
              (Query.record record)
              ((cursor.onOuter outer.next query).world.record record)
              (startInner inner slot row (cursor.onOuter outer.next query).cursor
                (cursor.onOuter outer.next query).world) := by
          apply reports_startInner innerHonest row
          · exact innerSound
          · exact innerIdle
          · exact under.inside
          · exact under.rebinds
        refine reports.followed taken (starts.map _) ?_
        -- Nothing was called on the store since the outer row was handed out.
        rintro attempts recorded earlier fault ⟨rfl, atFault⟩
        have same : handing = attempts :=
          List.append_cancel_left (added.symm.trans recorded)
        rw [List.append_nil, ← same]
        exact .start hands atFault
  next error fails =>
    exact Reports.fail (reports.mono .outer) fails _

/-- A round reports what the cursors below it report. -/
theorem reports_round
    {cursor : Cursor α β}
    (living : Living outer inner OuterSound InnerSound cursor)
    (outerActive : outer.state cursor.outer = .active)
    (under : Under inner OuterUnder InnerUnder slot bindings cursor)
    {query : Query σ}
    (running : query.canceled = false) :
    Reports (RunFault OuterRunning InnerOpening InnerRunning slot bindings)
      (Query.record record) (query.record record)
      (round outer inner slot cursor query) := by
  rw [round]
  split
  next innerActive =>
    rcases under.inner innerActive with ⟨key, binds, innerUnder⟩
    have reports :
        Reports (InnerRunning cursor.bindings) (Query.record record)
          (query.record record) (cursor.onInner inner.next query) :=
      innerHonest.answers living.innerSound innerActive innerUnder running
    have answers :=
      @innerHonest.conformant.answers cursor.inner query living.innerSound
        innerActive
    have still :=
      (innerHonest.frames.answers cursor.inner query).canceled.trans running
    refine (reports.mono (.inner binds)).andThen ?_
      (follows_runFault outerHonest.follows innerHonest.follows slot bindings)
    intro row? succeeds
    cases row? with
    | some row =>
        exact reports_pure rfl
    | none =>
        rcases answers.idle_of_ended succeeds with ⟨innerSound, innerIdle⟩
        apply reports_takeOuter outerHonest innerHonest
        · exact living.outerSound
        · exact outerActive
        · exact innerSound
        · exact innerIdle
        · exact under.of_inner_idle under.outer innerIdle
        · exact still
  next innerNotActive =>
    exact reports_takeOuter outerHonest innerHonest living.outerSound
      outerActive living.innerSound
      (CursorState.eq_idle_of_ne living.innerAlive innerNotActive) under
      running

/-- However many rounds are left, they report what they meet and where their row comes from. -/
theorem accounts_advance
    (rounds : Nat)
    {cursor : Cursor α β}
    (living : Living outer inner OuterSound InnerSound cursor)
    (outerActive : outer.state cursor.outer = .active)
    (under : Under inner OuterUnder InnerUnder slot bindings cursor)
    {query : Query σ}
    (running : query.canceled = false) :
    Reports (RunFault OuterRunning InnerOpening InnerRunning slot bindings)
        (Query.record record) (query.record record)
        (advance outer inner slot rounds cursor query) ∧
      HandsOut (Query.record record) (query.record record)
        (advance outer inner slot rounds cursor query) := by
  have follows
      (before : List Attempt) :
      OwnFaults.Follows
        (RunFault OuterRunning InnerOpening InnerRunning slot bindings)
        (RunFault OuterRunning InnerOpening InnerRunning slot bindings)
        before :=
    follows_runFault outerHonest.follows innerHonest.follows slot bindings
      before
  induction rounds generalizing cursor query with
  | zero =>
      rw [advance]
      exact ⟨(reportsClosing_release outerHonest innerHonest living
        query).reports.map _, fun row hands => (answer_map_none_ne hands).elim⟩
  | succ rounds ih =>
      have step :
          AfterRound outer inner OuterSound InnerSound
            (round outer inner slot cursor query) :=
        afterRound_round outerHonest.conformant innerHonest.conformant living
          outerActive query
      have reports :
          Reports (RunFault OuterRunning InnerOpening InnerRunning slot bindings)
            (Query.record record) (query.record record)
            (round outer inner slot cursor query) :=
        reports_round outerHonest innerHonest living outerActive under running
      have hands (row : Row) :
          (round outer inner slot cursor query).answer = .ok (.row row) →
            ∃ attempts,
              (round outer inner slot cursor query).world.record record =
                  query.record record ++ attempts ∧
                HandsLast row attempts :=
        hands_round innerHonest living under
      have keeps (left : Round) :
          (round outer inner slot cursor query).answer = .ok left →
            left ≠ .ended →
              Under inner OuterUnder InnerUnder slot bindings
                (round outer inner slot cursor query).cursor :=
        under_round innerHonest.conformant outerHonest.goesOn
          innerHonest.goesOn living outerActive under query
      have still :
          query.Stopped (round outer inner slot cursor query).world :=
        keeps_round Query.frame_stopped.quiet outerHonest.frames
          innerHonest.frames cursor query
      rw [advance]
      generalize round outer inner slot cursor query = outcome
        at step reports hands keeps still ⊢
      cases step with
      | @goesOn left cursor query living outerActive notEnded =>
          cases left with
          | row row =>
              refine ⟨reports.followed rfl (reports_pure rfl)
                fun _ => follows _, ?_⟩
              intro handed same
              cases same
              exact hands row rfl
          | opened =>
              have later :=
                ih living outerActive (keeps .opened rfl notEnded)
                  (still.canceled.trans running)
              refine ⟨reports.followed rfl later.1 fun _ => follows _, ?_⟩
              rcases reports with ⟨earlier, recorded, -⟩
              exact later.2.after recorded
          | ended =>
              exact (notEnded rfl).elim
      | ended =>
          refine ⟨reports.followed rfl ?_ fun _ => follows _, ?_⟩
          · exact reports_pure (by simp [Query.record, trace])
          · intro row handed
            cases handed
      | failed living =>
          refine ⟨reports_abort outerHonest innerHonest living reports, ?_⟩
          intro row handed
          cases handed

/-- A loop reports the failures of the cursors below it. -/
theorem honest
    (slot : Nat) :
    (protocol outer inner slot).Honest operatorName record
      (Sound outer inner OuterSound InnerSound)
      (Under inner OuterUnder InnerUnder slot)
      (OpenFault OuterOpening slot)
      (RunFault OuterRunning InnerOpening InnerRunning slot) where
  conformant :=
    NestedLoop.conformant outerHonest.conformant innerHonest.conformant slot
  goesOn :=
    goesOnUnder outerHonest.conformant innerHonest.conformant
      outerHonest.goesOn innerHonest.goesOn slot
  frames :=
    NestedLoop.frames Query.frame_stopped outerHonest.frames
      innerHonest.frames slot
  opens := by
    intro bindings cursor query sound idle
    change cursor.state = .idle at idle
    change Reports _ _ _ (openWith outer slot bindings cursor query)
    rcases sound.idle idle with ⟨outerIdle, -⟩
    rw [openWith, idle, CursorState.requireIdle_idle]
    dsimp only
    split
    next inside =>
      have reports :
          Reports (.atOnce (OuterOpening bindings)) (Query.record record)
            (query.record record)
            (Cursor.onOuter (outer.openWith bindings)
              { cursor with bindings } query) :=
        outerHonest.opens sound.outerSound outerIdle
      rw [idle] at reports
      have ofOuter :
          OwnFaults.Follows (.atOnce (OuterOpening bindings))
            (.atOnce (OpenFault OuterOpening slot bindings)) [] := by
        rintro earlier fault ⟨rfl, atFault⟩
        exact ⟨rfl, .outer inside atFault⟩
      refine (reports.mono ofOuter).andThen ?_ (OwnFaults.follows_nothing _)
      intro value succeeds
      exact reports_pure (by simp [Query.record, trace])
    next outside =>
      have atFault : OpenFault OuterOpening slot bindings _ :=
        .outside (Nat.not_lt.1 outside)
      exact reports_itself (OwnFaults.atOnce_nil atFault) rfl
  answers := by
    intro bindings cursor query sound active under running
    change cursor.state = .active at active
    change Reports _ _ _ (next outer inner slot cursor query)
    rw [next, active, CursorState.requireActive_active,
      Query.checkCancellation_of_not_canceled running]
    exact (accounts_advance outerHonest innerHonest _ (sound.living active)
      (sound.active active).1 under running).1
  hands := by
    intro bindings cursor query sound active under
    change cursor.state = .active at active
    change HandsOut _ _ (next outer inner slot cursor query)
    rw [next, active, CursorState.requireActive_active]
    cases running : query.canceled with
    | true =>
        rw [Query.checkCancellation_of_canceled running]
        intro row handed
        cases handed
    | false =>
        rw [Query.checkCancellation_of_not_canceled running]
        exact (accounts_advance outerHonest innerHonest _ (sound.living active)
          (sound.active active).1 under running).2
  stops := fun sound active canceled =>
    reports_stop outerHonest innerHonest (sound.living active) canceled
  closes := by
    intro cursor query sound alive
    change cursor.state ≠ .destroyed at alive
    change ReportsClosing _ _ (close outer inner slot cursor query)
    rw [close, CursorState.requireAlive_of_ne alive]
    dsimp only
    split
    next active =>
      rcases reportsClosing_release outerHonest innerHonest
          (sound.living active) query with
        ⟨attempts, added, closes, report⟩
      refine ⟨attempts, ?_, closes, report⟩
      change record (Query.trace _ _ _ _).store = _
      rw [Query.store_trace]
      exact added
    next =>
      exact reportsClosing_pure rfl
  follows := follows_runFault outerHonest.follows innerHonest.follows slot

end

end NestedLoop

end HierQuery
