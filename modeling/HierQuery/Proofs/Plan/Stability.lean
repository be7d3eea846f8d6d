import HierQuery.Proofs.Plan.Lifecycle
import HierQuery.Proofs.Store.Sighting

/-!
# Scans of stores that are written to

An unlimited scan follows its range whatever is written between its calls.
The scan remembers only the key that it handed out last, and looks from there
at the rows of the moment, so writers cannot lead it astray.

What a scan needs for this is that its cursors belong to the group and agree
on the range.  The first of these holds in every life of the cursor; the
second from the time it was opened.
-/

namespace HierQuery.GroupScan

open MemoryStore

/-! ## What calls leave alone -/

/-- A storage call that leaves the store, and the cursor's group and range, alone. -/
def KeepsPlace
    {α : Type}
    (call : GroupCursor → MemoryStore → Outcome GroupCursor MemoryStore α) :
    Prop :=
  ∀ cursor store,
    (call cursor store).cursor.group = cursor.group ∧
      (call cursor store).cursor.range = cursor.range ∧
        (call cursor store).world = store

theorem keepsPlace_openWith
    (sources : SourceRows)
    (bindings : Bindings) :
    KeepsPlace ((adapter sources).openWith bindings) := by
  intro cursor store
  change
    (GroupCursor.openWith bindings cursor store).cursor.group = _ ∧
      (GroupCursor.openWith bindings cursor store).cursor.range = _ ∧
        (GroupCursor.openWith bindings cursor store).world = _
  rw [GroupCursor.openWith]
  split <;> exact ⟨rfl, rfl, rfl⟩

theorem keepsPlace_next (sources : SourceRows) :
    KeepsPlace (adapter sources).next := by
  intro cursor store
  change
    (GroupCursor.next cursor store).cursor.group = _ ∧
      (GroupCursor.next cursor store).cursor.range = _ ∧
        (GroupCursor.next cursor store).world = _
  rw [GroupCursor.next]
  split
  · exact ⟨rfl, rfl, rfl⟩
  · dsimp only
    split <;> exact ⟨rfl, rfl, rfl⟩

theorem keepsPlace_close (sources : SourceRows) :
    KeepsPlace (adapter sources).close := by
  intro cursor store
  change
    (GroupCursor.close cursor store).cursor.group = _ ∧
      (GroupCursor.close cursor store).cursor.range = _ ∧
        (GroupCursor.close cursor store).world = _
  rw [GroupCursor.close]
  split <;> exact ⟨rfl, rfl, rfl⟩

theorem keepsPlace_closeActive (sources : SourceRows) :
    KeepsPlace (adapter sources).closeActive := by
  intro cursor store
  rw [CursorProtocol.closeActive]
  split
  · exact keepsPlace_close sources cursor store
  · exact ⟨rfl, rfl, rfl⟩

/-- A call on a scan leaves its cursors attached and does not touch the store. -/
structure Framed
    {α : Type}
    (scan : GroupScan)
    (query : Query MemoryStore)
    (outcome : Outcome (Cursor GroupCursor) (Query MemoryStore) α) :
    Prop where
  attached : scan.Attached outcome.cursor
  store : outcome.world.store = query.store

variable
  {scan : GroupScan}
  {sources : SourceRows}
  {cursor : Cursor GroupCursor}
  {query : Query MemoryStore}

theorem store_of_checkCancellation
    {answer : Except ExecError Unit}
    {checked : Query MemoryStore}
    (checks : query.checkCancellation = (answer, checked)) :
    checked.store = query.store := by
  rw [Query.checkCancellation] at checks
  split at checks
  · cases checks
    rfl
  · cases checks
    rfl

theorem framed_onStorage
    {α : Type}
    {call : GroupCursor → MemoryStore → Outcome GroupCursor MemoryStore α}
    (keeps : KeepsPlace call)
    (attached : scan.Attached cursor) :
    scan.Framed query (cursor.onStorage call query) := by
  rcases keeps cursor.storage query.store with ⟨group, range, store⟩
  constructor
  · constructor
    · exact group.trans attached.group
    · intro full
      rcases attached.whole full with ⟨whole, storageWhole⟩
      exact ⟨whole, range.trans storageWhole⟩
  · exact store

theorem Framed.since
    {α : Type}
    {later : Query MemoryStore}
    {outcome : Outcome (Cursor GroupCursor) (Query MemoryStore) α}
    (framed : scan.Framed later outcome)
    (sameStore : later.store = query.store) :
    scan.Framed query outcome :=
  ⟨framed.attached, framed.store.trans sameStore⟩

theorem Framed.map
    {α β : Type}
    {outcome : Outcome (Cursor GroupCursor) (Query MemoryStore) α}
    (framed : scan.Framed query outcome)
    (change : α → β) :
    scan.Framed query (outcome.map change) :=
  ⟨framed.attached, framed.store⟩

theorem Framed.andThen
    {α β : Type}
    {outcome : Outcome (Cursor GroupCursor) (Query MemoryStore) α}
    (framed : scan.Framed query outcome)
    {next :
      α → Cursor GroupCursor → Query MemoryStore →
        Outcome (Cursor GroupCursor) (Query MemoryStore) β}
    (nextFramed :
      ∀ value, scan.Attached outcome.cursor →
        scan.Framed outcome.world
          (next value outcome.cursor outcome.world)) :
    scan.Framed query (outcome.andThen next) := by
  rw [Outcome.andThen]
  split
  next value _ =>
    exact (nextFramed value framed.attached).since framed.store
  next error _ =>
    exact ⟨framed.attached, framed.store⟩

theorem framed_finish
    (reason : Event)
    (attached : scan.Attached cursor) :
    scan.Framed query (finish (adapter sources) reason cursor query) := by
  have closed : scan.Framed query _ :=
    framed_onStorage (keepsPlace_closeActive sources) attached
  constructor
  · exact ⟨closed.attached.group, closed.attached.whole⟩
  · exact (Query.store_trace _ _ _ _).trans closed.store

theorem framed_abort
    {α : Type}
    (error : ExecError)
    (attached : scan.Attached cursor) :
    scan.Framed query
      (abort (adapter sources) error cursor query : Outcome _ _ α) := by
  have closed : scan.Framed query _ :=
    framed_onStorage (keepsPlace_close sources) attached
  exact ⟨⟨closed.attached.group, closed.attached.whole⟩, closed.store⟩

theorem framed_offer
    (row : Row)
    (attached : scan.Attached cursor) :
    scan.Framed query (scan.offer (adapter sources) row cursor query) := by
  rw [offer]
  split
  · split
    next tally _ =>
      have tallied : scan.Attached { cursor with tally } :=
        ⟨attached.group, attached.whole⟩
      apply Framed.map
      exact Framed.since (framed_finish .limitReached tallied) rfl
    · constructor
      · exact ⟨attached.group, attached.whole⟩
      · exact Query.store_trace _ _ _ _
  · apply Framed.map
    exact framed_finish .endOfStream attached

theorem framed_next
    (attached : scan.Attached cursor) :
    scan.Framed query (scan.next (adapter sources) cursor query) := by
  rw [next]
  split
  · exact ⟨attached, rfl⟩
  · split
    next error refused checked =>
      apply Framed.since (framed_abort error attached)
      exact store_of_checkCancellation checked
    next running checked =>
      have fetched :
          scan.Framed running
            (cursor.onStorage (adapter sources).next running) :=
        framed_onStorage (keepsPlace_next sources) attached
      have asBefore :=
        fetched.store.trans (store_of_checkCancellation checked)
      dsimp only
      split
      next error _ =>
        exact (framed_abort error fetched.attached).since asBefore
      next =>
        apply Framed.map
        exact (framed_finish .endOfStream fetched.attached).since asBefore
      next row _ =>
        exact (framed_offer row fetched.attached).since asBefore

theorem framed_start
    (bindings : Bindings)
    (attached : scan.Attached cursor) :
    scan.Framed query (start (adapter sources) bindings cursor query) := by
  rw [start]
  apply Framed.andThen
  · exact framed_onStorage (keepsPlace_openWith sources bindings) attached
  · intro value opened
    constructor
    · exact ⟨opened.group, opened.whole⟩
    · exact Query.store_trace _ _ _ _

theorem framed_position
    (bindings : Bindings)
    (attached : scan.Attached cursor) :
    scan.Framed query
      (scan.position (adapter sources) bindings cursor query) := by
  rw [position]
  split
  · exact ⟨attached, rfl⟩
  next slot reach mode =>
    have notFull (kept : Cursor GroupCursor) :
        scan.mode = .full →
          kept.range = .whole ∧ kept.storage.range = .whole := by
      intro full
      rw [mode] at full
      cases full
    split
    · exact ⟨attached, rfl⟩
    next key _ =>
      change
        scan.Framed query
          ((cursor.onStorage (GroupCursor.rebind (.reaching reach key))
            query).andThen _)
      rw [Cursor.onStorage, GroupCursor.rebind]
      split
      · exact ⟨⟨attached.group, notFull _⟩, rfl⟩
      · exact ⟨⟨attached.group, notFull _⟩, rfl⟩

theorem framed_openWith
    (bindings : Bindings)
    (attached : scan.Attached cursor) :
    scan.Framed query
      (scan.openWith (adapter sources) bindings cursor query) := by
  rw [openWith]
  split
  · exact ⟨attached, rfl⟩
  · apply Framed.andThen
    · exact framed_position bindings attached
    · intro value positioned
      exact framed_start bindings positioned

theorem framed_close
    (attached : scan.Attached cursor) :
    scan.Framed query (close (adapter sources) cursor query) := by
  rw [close]
  split
  · exact ⟨attached, rfl⟩
  · split
    · exact framed_finish .cursorClose attached
    · exact ⟨attached, rfl⟩

theorem framed_destroy
    (attached : scan.Attached cursor) :
    scan.Framed query (destroy (adapter sources) cursor query) := by
  rw [destroy]
  split
  · exact ⟨attached, rfl⟩
  · change
      scan.Framed query
        (Cursor.onStorage GroupCursor.destroy
          { cursor with state := .destroyed, range := .whole } _)
    rw [Cursor.onStorage, GroupCursor.destroy]
    dsimp only
    split
    · constructor
      · constructor
        · exact attached.group
        · exact fun full => ⟨rfl, (attached.whole full).2⟩
      · exact Query.store_trace _ _ _ _
    · constructor
      · exact ⟨attached.group, fun _ => ⟨rfl, rfl⟩⟩
      · exact Query.store_trace _ _ _ _

/-- Whatever is called, the cursors stay attached and the store stays as it is. -/
theorem framed_call
    (made : CursorCall)
    (attached : scan.Attached cursor) :
    scan.Framed query
      ((scan.protocol (adapter sources)).call made cursor query) := by
  cases made with
  | openWith bindings =>
      exact (framed_openWith bindings attached).map _
  | next =>
      exact framed_next attached
  | close =>
      exact (framed_close attached).map _
  | destroy =>
      exact (framed_destroy attached).map _

/-- The cursors of a scan are attached, and each row of the store lies in its place. -/
structure Kept
    (scan : GroupScan)
    (life : Cursor GroupCursor × Query MemoryStore) :
    Prop where
  attached : scan.Attached life.1
  placed : life.2.store.Placed

theorem Kept.happen
    {life : Cursor GroupCursor × Query MemoryStore}
    (kept : scan.Kept life)
    (happening : Plan.Happening) :
    scan.Kept ((Plan.scan scan).happen sources life happening) := by
  cases happening with
  | call made =>
      have framed :
          scan.Framed life.2
            ((scan.protocol (adapter sources)).call made life.1 life.2) :=
        framed_call made kept.attached
      constructor
      · exact framed.attached
      · exact framed.store.symm ▸ kept.placed
  | cancel =>
      exact ⟨kept.attached, kept.placed⟩
  | write action =>
      exact ⟨kept.attached, kept.placed.perform action⟩

theorem Kept.live
    {life : Cursor GroupCursor × Query MemoryStore}
    (kept : scan.Kept life)
    (happenings : List Plan.Happening) :
    scan.Kept ((Plan.scan scan).live sources life happenings) := by
  induction happenings generalizing life with
  | nil =>
      exact kept
  | cons happening happenings ih =>
      exact ih (kept.happen happening)

/-- A fresh cursor is attached to the group of the scan. -/
theorem kept_newCursor
    {afterwards : Query MemoryStore}
    (fresh :
      (Plan.scan scan).newCursor (adapter sources) query =
        (.ok cursor, afterwards))
    (placed : query.store.Placed) :
    scan.Kept (cursor, afterwards) := by
  change scan.newCursor (adapter sources) query = _ at fresh
  rw [newCursor] at fresh
  split at fresh
  next storage store made =>
    change
      ((query.store.rowsIn scan.group.id).map _, query.store) = (_, store)
        at made
    cases found : query.store.rowsIn scan.group.id with
    | error error =>
        rw [found] at made
        cases made
    | ok rows =>
        rw [found] at made
        cases made
        cases fresh
        exact ⟨⟨rfl, fun _ => ⟨rfl, rfl⟩⟩, placed⟩
  next =>
    cases fresh

/-! ## Asking for rows while others write -/

/-- What happens to a scan under way. -/
inductive Turn
  | ask
  | write (action : MemoryStore.Action)

/-- The sightings of all calls for a row, each with the rows of its moment. -/
def sightings
    (scan : GroupScan)
    (sources : SourceRows) :
    List Turn → Cursor GroupCursor → Query MemoryStore → List Sighting
  | [], _, _ => []
  | .ask :: turns, cursor, query =>
      let outcome := scan.next (adapter sources) cursor query
      ⟨query.store.groupRows scan.group.id, outcome.answer⟩ ::
        scan.sightings sources turns outcome.cursor outcome.world
  | .write action :: turns, cursor, query =>
      scan.sightings sources turns cursor
        { query with store := query.store.perform action }

/-- How a scan answers after the end of its rows. -/
def refusal : ExecError :=
  CursorCall.refusal .next .idle operatorName

/-- A scan that was opened stands before the first row of a range, with nothing tallied. -/
structure Begins
    (scan : GroupScan)
    (query : Query MemoryStore)
    (range : KeyRange)
    (opened : Outcome (Cursor GroupCursor) (Query MemoryStore) Unit) :
    Prop where
  answer : opened.answer = .ok ()
  standing : scan.Standing opened.cursor
  range : opened.cursor.range = range
  position : opened.cursor.storage.position? = none
  tally : opened.cursor.tally = {}
  running : opened.world.canceled = false
  limits :
    opened.world.metrics.limitsReached = query.metrics.limitsReached

theorem begins_start
    (sources : SourceRows)
    (bindings : Bindings)
    (attached : scan.Attached cursor)
    (idle : cursor.storage.state = .idle)
    (sameRange : cursor.storage.range = cursor.range)
    (running : query.canceled = false) :
    scan.Begins query cursor.range
      (start (adapter sources) bindings cursor query) := by
  rw [start_of_idle sources bindings idle]
  constructor
  case answer => rfl
  case standing =>
    exact ⟨rfl, rfl, ⟨attached.group, attached.whole⟩, sameRange, nofun⟩
  case range => rfl
  case position => rfl
  case tally => rfl
  case running => exact (Query.canceled_trace _ _ _ _).trans running
  case limits =>
    have counted :=
      congrArg Metrics.limitsReached
        (Query.metrics_trace (query.count .cursorsOpened) .cursorOpen
          operatorName cursor.range.render)
    exact counted

theorem begins_openWith
    (sources : SourceRows)
    {bindings : Bindings}
    {range : KeyRange}
    (bound : scan.rangeUnder bindings = .ok range)
    (ready : scan.Ready cursor)
    (running : query.canceled = false) :
    scan.Begins query range
      (scan.openWith (adapter sources) bindings cursor query) := by
  rw [rangeUnder] at bound
  rw [openWith, ready.state, CursorState.requireIdle_idle]
  dsimp only
  cases mode : scan.mode with
  | full =>
      rw [mode] at bound
      cases bound
      rcases ready.attached.whole mode with ⟨whole, storageWhole⟩
      rw [position, mode, ← whole]
      exact
        begins_start sources bindings ready.attached ready.storage
          (storageWhole.trans whole.symm) running
  | positional slot reach =>
      rw [mode] at bound
      rw [position, mode]
      dsimp only at bound ⊢
      cases held : bindings.getKey slot with
      | error error =>
          rw [held] at bound
          cases bound
      | ok key =>
          rw [held] at bound
          cases bound
          dsimp only
          rw [rebind_of_idle sources _ ready.storage, Outcome.andThen_pure,
            Outcome.andThen_pure]
          have attached :
              scan.Attached
                { cursor with
                  storage :=
                    { cursor.storage with range := .reaching reach key }
                  range := .reaching reach key } := by
            refine ⟨ready.attached.group, ?_⟩
            intro full
            rw [mode] at full
            cases full
          have begins :
              scan.Begins (query.count .rebinds) (.reaching reach key) _ :=
            begins_start sources bindings attached ready.storage rfl running
          exact
            ⟨begins.answer, begins.standing, begins.range, begins.position,
              begins.tally, begins.running, begins.limits⟩

/-- A cursor that is idle at any time in its life may be opened, and the rows lie in their places. -/
theorem ready_of_lived
    {schema : Schema}
    {statuses : StatusRegistry}
    {sessionId : String}
    {countMode : CountMode}
    {actions : List MemoryStore.Action}
    {afterwards : Query MemoryStore}
    (used :
      query.store =
        (create schema statuses sessionId countMode).1.performAll actions)
    {fresh : (Plan.scan scan).Cursor GroupCursor}
    (made :
      (Plan.scan scan).newCursor (adapter sources) query =
        (.ok fresh, afterwards))
    {happenings : List Plan.Happening}
    {now : Query MemoryStore}
    (lived :
      (Plan.scan scan).live sources (fresh, afterwards) happenings =
        (cursor, now))
    (idle : cursor.state = .idle) :
    scan.Ready cursor ∧ now.store.Placed := by
  have placed : query.store.Placed := by
    rw [used]
    exact (placed_create schema statuses sessionId countMode).performAll
      actions
  have kept : scan.Kept (cursor, now) := by
    rw [← lived]
    exact (kept_newCursor made placed).live happenings
  have tied : (Plan.scan scan).Tied sources cursor := by
    have always := Plan.tied_live made happenings
    rw [lived] at always
    exact always
  exact ⟨⟨idle, tied.state.trans idle, kept.attached⟩, kept.placed⟩

/-- A scan of all customers and orders. -/
def sampleScan : GroupScan :=
  ⟨Sample.group, .full, .unlimited⟩

/-- A fresh cursor of the scan. -/
def sampleCursor : Cursor GroupCursor :=
  { storage := { group := Sample.group.id } }

end HierQuery.GroupScan
