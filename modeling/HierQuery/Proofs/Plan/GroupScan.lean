import HierQuery.Proofs.Cursor.Service
import HierQuery.Proofs.Store.Following

/-!
# The service of a scan

A scan that is under way still has to hand out those remaining rows of its
group that the limit allows after the rows taken so far.  Its storage cursor
stands inside of the range, so the first row that remains is the one which
the storage cursor finds.
-/

namespace HierQuery.GroupScan

/-- The storage cursor belongs to the scan, and a full scan never leaves the whole range. -/
structure Attached (scan : GroupScan) (cursor : Cursor GroupCursor) : Prop where
  group : cursor.storage.group = scan.group.id
  whole :
    scan.mode = .full →
      cursor.range = .whole ∧ cursor.storage.range = .whole

/-- A cursor of a scan that may be opened. -/
structure Ready (scan : GroupScan) (cursor : Cursor GroupCursor) : Prop where
  state : cursor.state = .idle
  storage : cursor.storage.state = .idle
  attached : scan.Attached cursor

/-- A cursor of a scan that is under way, and where both of its cursors stand. -/
structure Standing (scan : GroupScan) (cursor : Cursor GroupCursor) : Prop where
  state : cursor.state = .active
  storage : cursor.storage.state = .active
  attached : scan.Attached cursor
  range : cursor.storage.range = cursor.range
  inside :
    ∀ last, cursor.storage.position? = some last →
      cursor.range.contains last

/-- The rows of the scan's group that are still to come. -/
def rowsLeft
    (scan : GroupScan)
    (store : MemoryStore)
    (cursor : Cursor GroupCursor) :
    List Row :=
  ((store.groupRows scan.group.id).remaining cursor.range
    cursor.storage.position?).map Prod.snd

/-- A cursor of a scan that still serves a stream. -/
def Going
    (scan : GroupScan)
    (store : MemoryStore)
    (stream : RowStream)
    (cursor : Cursor GroupCursor) :
    Prop :=
  scan.Standing cursor ∧
    ∃ taken,
      scan.limit.allows taken = true ∧
        scan.limit.Tallies taken cursor.tally ∧
          stream =
            ⟨scan.limit.cutAfter taken (scan.rowsLeft store cursor), none⟩

/-- A scan serves the rows of its range up to its limit. -/
def service
    (scan : GroupScan)
    (sources : SourceRows)
    (store : MemoryStore) :
    Service (Cursor GroupCursor) MemoryStore where
  protocol := scan.protocol (MemoryStore.adapter sources)
  slots := scan.mode.bindingSlots
  meaning := scan.eval store
  Ready := scan.Ready
  Going := scan.Going store

variable {store : MemoryStore} {query : Query MemoryStore}

theorem rebind_of_idle
    (sources : SourceRows)
    (range : KeyRange)
    {cursor : Cursor GroupCursor}
    (idle : cursor.storage.state = .idle)
    (query : Query MemoryStore) :
    cursor.onStorage ((MemoryStore.adapter sources).rebind range) query =
      .pure () { cursor with storage := { cursor.storage with range } }
        query := by
  rcases cursor with
    ⟨⟨group, storageState, storageRange, position?⟩, state, scanRange, tally⟩
  cases idle
  rfl

/-- A scan that starts opens its idle storage cursor and tallies anew. -/
theorem start_of_idle
    (sources : SourceRows)
    (bindings : Bindings)
    {cursor : Cursor GroupCursor}
    (idle : cursor.storage.state = .idle)
    (query : Query MemoryStore) :
    start (MemoryStore.adapter sources) bindings cursor query =
      .pure ()
        { cursor with
          storage :=
            { cursor.storage with state := .active, position? := none }
          state := .active
          tally := {} }
        ((query.count .cursorsOpened).trace .cursorOpen operatorName
          cursor.range.render) := by
  rcases cursor with
    ⟨⟨group, storageState, storageRange, position?⟩, state, range, tally⟩
  cases idle
  rfl

/-- Whatever ends a scan leaves its cursor ready, as long as the storage cursor lives. -/
theorem closes_finish
    {scan : GroupScan}
    (sources : SourceRows)
    (reason : Event)
    {cursor : Cursor GroupCursor}
    (active : cursor.state = .active)
    (alive : cursor.storage.state ≠ .destroyed)
    (attached : scan.Attached cursor)
    (calm : Calm store query) :
    (scan.service sources store).Closes store
      (finish (MemoryStore.adapter sources) reason cursor query) := by
  rcases cursor with
    ⟨⟨group, storageState, storageRange, position?⟩, state, range, tally⟩
  cases active
  have traced :
      Calm store (query.trace reason operatorName range.render) :=
    calm.trace reason operatorName range.render
  cases storageState with
  | destroyed =>
      exact (alive rfl).elim
  | idle =>
      exact .closed ⟨rfl, rfl, attached.group, attached.whole⟩ traced
  | active =>
      exact .closed ⟨rfl, rfl, attached.group, attached.whole⟩ traced

/-- Opening the storage cursor begins the rows of the range. -/
theorem opens_start
    {scan : GroupScan}
    (sources : SourceRows)
    (bindings : Bindings)
    {cursor : Cursor GroupCursor}
    (idle : cursor.storage.state = .idle)
    (attached : scan.Attached cursor)
    {range : KeyRange}
    (scanned : cursor.range = range)
    (stored : cursor.storage.range = range)
    (calm : Calm store query) :
    (scan.service sources store).Opens store
      ⟨scan.limit.cut (scan.rowsWithin store range), none⟩
      (start (MemoryStore.adapter sources) bindings cursor query) := by
  subst scanned
  rw [start_of_idle sources bindings idle]
  refine .opened
    ⟨⟨rfl, rfl, ⟨attached.group, attached.whole⟩, stored, ?_⟩, [],
      scan.limit.allows_nil, scan.limit.tallies_nil, ?_⟩
    ((calm.count _).trace _ _ _)
  · intro last stands
    cases stands
  · rw [rowsLeft, GroupRows.remaining_none]
    rfl

/-- Opening a scan begins what it means. -/
theorem opens_openWith
    {scan : GroupScan}
    (sources : SourceRows)
    (bindings : Bindings)
    {cursor : Cursor GroupCursor}
    (ready : scan.Ready cursor)
    (calm : Calm store query) :
    (scan.service sources store).Opens store
      (scan.eval store bindings)
      (scan.openWith (MemoryStore.adapter sources) bindings cursor
        query) := by
  rw [openWith, ready.state, eval, rangeUnder, CursorState.requireIdle_idle]
  dsimp only
  cases mode : scan.mode with
  | full =>
      have ranges := ready.attached.whole mode
      rw [position, mode]
      exact opens_start sources bindings ready.storage ready.attached
        ranges.1 ranges.2 calm
  | positional slot reach =>
      rw [position, mode]
      dsimp only
      cases bindings.getKey slot with
      | error error =>
          exact .refused ready calm
      | ok key =>
          dsimp only
          rw [rebind_of_idle sources _ ready.storage, Outcome.andThen_pure,
            Outcome.andThen_pure]
          refine opens_start sources bindings ?_ ⟨?_, ?_⟩ ?_ ?_ ?_
          · exact ready.storage
          · exact ready.attached.group
          · intro full
            rw [mode] at full
            cases full
          · rfl
          · rfl
          · exact calm.count _

/-- What an active storage cursor answers: the row that follows its position, or the end. -/
theorem next_of_active
    (sources : SourceRows)
    {cursor : Cursor GroupCursor}
    (active : cursor.storage.state = .active)
    (query : Query MemoryStore) :
    cursor.onStorage (MemoryStore.adapter sources).next query =
      match (query.store.groupRows cursor.storage.group).following?
          cursor.storage.range cursor.storage.position? with
      | some (key, row) =>
          .pure (some row)
            { cursor with
              storage := { cursor.storage with position? := some key } }
            query
      | none =>
          .pure none
            { cursor with
              storage :=
                { cursor.storage with state := .idle, position? := none } }
            query := by
  rcases cursor with
    ⟨⟨group, storageState, storageRange, position?⟩, state, scanRange, tally⟩
  cases active
  change Cursor.onStorage GroupCursor.next _ query = _
  rw [Cursor.onStorage, GroupCursor.next, CursorState.requireActive_active]
  change _ =
    match (query.store.groupRows group).following? storageRange position?
      with
    | some (key, row) => _
    | none => _
  rw [MemoryStore.groupRows]
  dsimp only
  cases ((query.store.groups.get? group).getD .empty).following?
      storageRange position? <;> rfl

/-- A scan under way on which some rows were taken, which its limit allows and has tallied. -/
structure Midway
    (scan : GroupScan)
    (taken : List Row)
    (cursor : Cursor GroupCursor) :
    Prop where
  standing : scan.Standing cursor
  allowed : scan.limit.allows taken = true
  tallies : scan.limit.Tallies taken cursor.tally

/-- Where the rows that remain go on after the first of them. -/
structure Moves
    (scan : GroupScan)
    (store : MemoryStore)
    (before : Cursor GroupCursor)
    (key : HKey)
    (row : Row)
    (rest : List (HKey × Row))
    (cursor : Cursor GroupCursor) :
    Prop where
  remains :
    (store.groupRows scan.group.id).remaining before.range
        before.storage.position? = (key, row) :: rest
  itsKey : row.key? = some key
  range : cursor.range = before.range
  position : cursor.storage.position? = some key

theorem Moves.rowsLeft_eq
    {scan : GroupScan}
    {before cursor : Cursor GroupCursor}
    {key : HKey}
    {row : Row}
    {rest : List (HKey × Row)}
    (moves : scan.Moves store before key row rest cursor) :
    scan.rowsLeft store before = row :: scan.rowsLeft store cursor := by
  rw [rowsLeft, rowsLeft, moves.remains, moves.range, moves.position,
    GroupRows.remaining_of_cons moves.remains]
  rfl

/--
What a call for a row comes to after some rows were taken: the first row that
remains is handed out, or it is dropped for the limit, or there is none.  Only a
row that is dropped raises the counter of limits.
-/
inductive Advances
    (scan : GroupScan)
    (store : MemoryStore)
    (taken : List Row)
    (before : Cursor GroupCursor)
    (limits : Nat) :
    Outcome (Cursor GroupCursor) (Query MemoryStore) (Option Row) → Prop
  | row
      {key : HKey}
      {row : Row}
      {rest : List (HKey × Row)}
      {cursor : Cursor GroupCursor}
      {query : Query MemoryStore}
      (moves : scan.Moves store before key row rest cursor)
      (midway : scan.Midway (taken ++ [row]) cursor)
      (calm : Calm store query)
      (same : query.metrics.limitsReached = limits) :
      Advances scan store taken before limits (.pure (some row) cursor query)
  | dropped
      {row : Row}
      {rest : List Row}
      {cursor : Cursor GroupCursor}
      {query : Query MemoryStore}
      (left : scan.rowsLeft store before = row :: rest)
      (forbidden : scan.limit.allows (taken ++ [row]) = false)
      (ready : scan.Ready cursor)
      (calm : Calm store query)
      (raised : query.metrics.limitsReached = limits + 1) :
      Advances scan store taken before limits (.pure none cursor query)
  | ended
      {cursor : Cursor GroupCursor}
      {query : Query MemoryStore}
      (nothing :
        (store.groupRows scan.group.id).remaining before.range
          before.storage.position? = [])
      (ready : scan.Ready cursor)
      (calm : Calm store query)
      (same : query.metrics.limitsReached = limits) :
      Advances scan store taken before limits (.pure none cursor query)

/-- Whatever ends a scan counts nothing. -/
theorem metrics_finish
    {κ σ : Type}
    (adapter : StoreAdapter κ σ)
    (reason : Event)
    (cursor : Cursor κ)
    (query : Query σ) :
    (finish adapter reason cursor query).world.metrics = query.metrics :=
  Query.metrics_trace _ _ _ _

/-- Whatever ends a scan leaves its cursor ready and the counters as they are. -/
theorem finish_eq
    {scan : GroupScan}
    (sources : SourceRows)
    (reason : Event)
    {cursor : Cursor GroupCursor}
    (attached : scan.Attached cursor)
    (active : cursor.state = .active)
    (alive : cursor.storage.state ≠ .destroyed)
    (calm : Calm store query) :
    ∃ left after,
      finish (MemoryStore.adapter sources) reason cursor query =
          .pure () left after ∧
        scan.Ready left ∧
          Calm store after ∧ after.metrics = query.metrics := by
  have closes := closes_finish sources reason active alive attached calm
  have same :=
    metrics_finish (MemoryStore.adapter sources) reason cursor query
  generalize
    finish (MemoryStore.adapter sources) reason cursor query = outcome
    at closes same ⊢
  cases closes with
  | closed ready calm =>
      exact ⟨_, _, rfl, ready, calm, same⟩

/-- The row to which a scan moved is handed out if its limit allows it, and dropped if not. -/
theorem advances_offer
    {scan : GroupScan}
    (sources : SourceRows)
    {before cursor : Cursor GroupCursor}
    {key : HKey}
    {row : Row}
    {rest : List (HKey × Row)}
    (moves : scan.Moves store before key row rest cursor)
    {taken : List Row}
    (midway : scan.Midway taken cursor)
    (calm : Calm store query) :
    scan.Advances store taken before query.metrics.limitsReached
      (scan.offer (MemoryStore.adapter sources) row cursor query) := by
  rcases midway with ⟨standing, allowed, tallies⟩
  have inside : cursor.range.admits row.key? = true := by
    rw [moves.itsKey, KeyRange.admits_some]
    exact standing.inside key moves.position
  have tallied := Limit.tallies_reached tallies row
  have through := Limit.reached_eq_false_iff allowed tallies row
  rw [offer, if_pos inside]
  generalize scan.limit.reached cursor.tally row = answer at tallied through ⊢
  rcases answer with ⟨reached, tally⟩
  have attached : scan.Attached { cursor with tally } :=
    ⟨standing.attached.group, standing.attached.whole⟩
  cases reached with
  | false =>
      have onward : scan.Midway (taken ++ [row]) { cursor with tally } :=
        ⟨⟨standing.state, standing.storage, attached, standing.range,
          standing.inside⟩, through.1 rfl, tallied⟩
      refine .row ⟨moves.remains, moves.itsKey, moves.range, moves.position⟩
        onward ((calm.count _).trace _ _ _) ?_
      rw [Query.metrics_trace]
      rfl
  | true =>
      have forbidden : scan.limit.allows (taken ++ [row]) = false := by
        rw [← Bool.not_eq_true, ← through]
        exact nofun
      have alive : cursor.storage.state ≠ .destroyed := by
        rw [standing.storage]
        exact nofun
      rcases
          finish_eq sources .limitReached attached standing.state alive
            (calm.count .limitsReached) with
        ⟨left, after, finished, ready, calm, same⟩
      dsimp only
      rw [finished]
      exact .dropped moves.rowsLeft_eq forbidden ready calm
        (congrArg Metrics.limitsReached same)

/-- A scan under way goes on to the first row that remains, if there is one. -/
theorem advances_next
    {scan : GroupScan}
    (sources : SourceRows)
    (placed : store.Placed)
    {taken : List Row}
    {cursor : Cursor GroupCursor}
    (midway : scan.Midway taken cursor)
    (calm : Calm store query) :
    scan.Advances store taken cursor query.metrics.limitsReached
      (scan.next (MemoryStore.adapter sources) cursor query) := by
  have standing := midway.standing
  rw [next, standing.state, calm.checkCancellation,
    CursorState.requireActive_active]
  dsimp only
  rw [next_of_active sources standing.storage, calm.unchanged,
    standing.attached.group, standing.range,
    GroupRows.following?_eq_head? _ standing.inside]
  cases remains :
      (store.groupRows scan.group.id).remaining cursor.range
        cursor.storage.position? with
  | nil =>
      have attached :
          scan.Attached
            { cursor with
              storage :=
                { cursor.storage with state := .idle, position? := none } } :=
        ⟨standing.attached.group, standing.attached.whole⟩
      rcases
          finish_eq sources .endOfStream attached standing.state
            nofun calm with
        ⟨left, after, finished, ready, calm, same⟩
      dsimp only [List.head?_nil, Outcome.pure]
      rw [finished]
      exact .ended remains ready calm (congrArg Metrics.limitsReached same)
  | cons entry rest =>
      rcases entry with ⟨key, row⟩
      have here :
          (key, row) ∈
            (store.groupRows scan.group.id).remaining cursor.range
              cursor.storage.position? := by
        rw [remains]
        exact List.mem_cons_self
      rcases GroupRows.mem_remaining.1 here with ⟨stored, upcoming⟩
      have moved :
          scan.Midway taken
            { cursor with
              storage := { cursor.storage with position? := some key } } := by
        refine ⟨⟨standing.state, standing.storage,
          ⟨standing.attached.group, standing.attached.whole⟩,
          standing.range, ?_⟩, midway.allowed, midway.tallies⟩
        intro last stands
        cases stands
        exact (Bool.and_eq_true_iff.1 upcoming).1
      have moves :
          scan.Moves store cursor key row rest
            { cursor with
              storage := { cursor.storage with position? := some key } } :=
        ⟨remains, (placed.row stored).itsKey, rfl, rfl⟩
      exact advances_offer sources moves moved calm

/-- A scan under way hands out the first row that remains and that its limit allows. -/
theorem answers_next
    {scan : GroupScan}
    (sources : SourceRows)
    (placed : store.Placed)
    {stream : RowStream}
    {cursor : Cursor GroupCursor}
    (going : scan.Going store stream cursor)
    (calm : Calm store query) :
    (scan.service sources store).Answers store stream
      (scan.next (MemoryStore.adapter sources) cursor query) := by
  rcases going with ⟨standing, taken, allowed, tallies, rfl⟩
  have step :=
    advances_next sources placed ⟨standing, allowed, tallies⟩ calm
  generalize scan.next (MemoryStore.adapter sources) cursor query = outcome
    at step ⊢
  cases step with
  | row moves midway calm =>
      rw [moves.rowsLeft_eq, Limit.cutAfter, if_pos midway.allowed]
      exact .row ⟨midway.standing, _, midway.allowed, midway.tallies, rfl⟩ calm
  | dropped left forbidden ready calm =>
      rw [left, Limit.cutAfter, forbidden]
      exact .ended ready calm
  | ended nothing ready calm =>
      rw [rowsLeft, nothing]
      exact .ended ready calm

/-- A part of the rows of one group is no longer than all rows together. -/
theorem fits_of_prefix
    {rows : List Row}
    {group : GroupId}
    {range : KeyRange}
    {position? : Option HKey}
    (begins :
      rows <+:
        ((store.groupRows group).remaining range position?).map Prod.snd) :
    RowStream.Fits store.size ⟨rows, none⟩ where
  short := by
    calc
      rows.length ≤
          ((store.groupRows group).remaining range position?).length := by
        simpa using begins.length_le
      _ ≤ (store.groupRows group).size :=
        GroupRows.length_remaining_le _ _ _
      _ ≤ store.size := store.size_groupRows_le group
  named := nofun

theorem eval_fits
    (scan : GroupScan)
    (store : MemoryStore)
    (bindings : Bindings) :
    (scan.eval store bindings).Fits store.size := by
  rw [eval]
  split
  next error refused =>
    apply RowStream.fits_failed
    rw [rangeUnder] at refused
    split at refused
    · cases refused
    · split at refused
      next cause _ =>
        cases refused
        exact cause.isSome_operator_within operatorName
      next =>
        cases refused
  next range _ =>
    have begins :
        scan.limit.cut (scan.rowsWithin store range) <+:
          ((store.groupRows scan.group.id).remaining range none).map
            Prod.snd := by
      rw [GroupRows.remaining_none]
      exact scan.limit.cutAfter_prefix [] _
    exact fits_of_prefix begins

theorem going_fits
    {scan : GroupScan}
    {stream : RowStream}
    {cursor : Cursor GroupCursor}
    (going : scan.Going store stream cursor) :
    stream.Fits store.size := by
  rcases going with ⟨-, taken, -, -, rfl⟩
  exact fits_of_prefix (scan.limit.cutAfter_prefix taken _)

/-- The calls on the cursor of a scan serve what the scan means. -/
theorem lawful
    (scan : GroupScan)
    (sources : SourceRows)
    (placed : store.Placed) :
    (scan.service sources store).Lawful store where
  idle := fun ready => ready.state
  active := fun going => going.1.state
  opens := fun _ ready calm => opens_openWith sources _ ready calm
  answers := fun going calm => answers_next sources placed going calm
  closesReady := by
    intro cursor query ready calm
    change Service.Closes _ _ (close (MemoryStore.adapter sources) cursor query)
    rw [close, ready.state]
    exact .closed ready calm
  closesGoing := by
    intro stream cursor query ⟨standing, _⟩ calm
    change Service.Closes _ _ (close (MemoryStore.adapter sources) cursor query)
    rw [close, standing.state]
    refine closes_finish sources .cursorClose standing.state ?_
      standing.attached calm
    rw [standing.storage]
    exact nofun
  meaningFits := by
    intro bindings query _ calm
    change (scan.eval store bindings).Fits query.store.size
    rw [calm.unchanged]
    exact scan.eval_fits store bindings
  goingFits := by
    intro stream cursor query going calm
    change stream.Fits query.store.size
    rw [calm.unchanged]
    exact going_fits going

end HierQuery.GroupScan
