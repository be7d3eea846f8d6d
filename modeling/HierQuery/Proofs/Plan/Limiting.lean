import HierQuery.Proofs.Plan.Stability

/-!
# Scans that are cut short

A scan under a limit hands out the longest beginning of the rows of its range
which the limit admits, and is idle after that together with its storage cursor.
The counter of limits is raised once if a row was dropped for the limit, and not
at all if the range ends by itself, even if it ends just at the limit.

One call for a row takes the scan one row further or ends it, and the rows of a
whole scan follow by induction on the calls.  As opening starts the tally anew,
the same holds whenever in its life the cursor is opened.
-/

namespace HierQuery

/-! ## What a limit admits -/

namespace Limit

/-- There are no more rows than may be, or of no table more than its cap. -/
def Admits : Limit → List Row → Prop
  | unlimited, _ => True
  | rows most, taken => taken.length ≤ most
  | perTable caps, taken =>
      ∀ table most,
        caps.get? table = some most → countOf table taken ≤ most

theorem allows_eq_true_iff
    {limit : Limit}
    {taken : List Row} :
    limit.allows taken = true ↔ limit.Admits taken := by
  cases limit with
  | unlimited =>
      exact iff_of_true rfl trivial
  | rows most =>
      exact decide_eq_true_iff
  | perTable caps =>
      simp [allows, Admits, SortedMap.get?_eq_some_iff]

/-- The longest beginning of some rows that a limit admits. -/
structure LongestOf
    (limit : Limit)
    (rows taken : List Row) :
    Prop where
  begins : taken <+: rows
  admitted : limit.Admits taken
  longest :
    ∀ first, first <+: rows → limit.Admits first → first <+: taken

theorem longestOf_cut (limit : Limit) (rows : List Row) :
    limit.LongestOf rows (limit.cut rows) := by
  rcases limit.cut_longest rows with ⟨begins, allowed, longest⟩
  refine ⟨begins, allows_eq_true_iff.1 allowed, ?_⟩
  intro first alsoBegins admitted
  exact longest first alsoBegins (allows_eq_true_iff.2 admitted)

end Limit

namespace GroupScan

open MemoryStore

variable
  {scan : GroupScan}
  {sources : SourceRows}
  {store : MemoryStore}
  {cursor : Cursor GroupCursor}
  {query : Query MemoryStore}

/-! ## All calls up to the end -/

/-- How a scan has ended of which some rows were left and those taken were handed out. -/
structure Ended
    (limits : Nat)
    (left taken : List Row)
    (drained :
      Outcome (Cursor GroupCursor) (Query MemoryStore) (List Row)) :
    Prop where
  answer : drained.answer = .ok taken
  state : drained.cursor.state = .idle
  storage : drained.cursor.storage.state = .idle
  /-- One more limit was reached if not all rows were taken, and else none. -/
  limits :
    drained.world.metrics.limitsReached =
      limits + if taken = left then 0 else 1

/-- A scan under way hands out what its limit still allows. -/
theorem ended_drain
    (sources : SourceRows)
    (placed : store.Placed)
    {taken : List Row}
    (midway : scan.Midway taken cursor)
    (calm : Calm store query)
    {calls : Nat}
    (enough :
      (scan.limit.cutAfter taken (scan.rowsLeft store cursor)).length <
        calls) :
    Ended query.metrics.limitsReached (scan.rowsLeft store cursor)
      (scan.limit.cutAfter taken (scan.rowsLeft store cursor))
      ((scan.protocol (adapter sources)).drain calls cursor query) := by
  induction calls generalizing taken cursor query with
  | zero =>
      exact (Nat.not_lt_zero _ enough).elim
  | succ calls ih =>
      have step := advances_next sources placed midway calm
      rw [CursorProtocol.drain]
      change
        Ended _ _ _ ((scan.next (adapter sources) cursor query).andThen _)
      generalize scan.next (adapter sources) cursor query = outcome at step ⊢
      cases step with
      | @row key row rest after later moves midway calm same =>
          rw [moves.rowsLeft_eq, Limit.cutAfter, if_pos midway.allowed]
            at enough ⊢
          have ended := ih midway calm (Nat.lt_of_succ_lt_succ enough)
          rw [Outcome.andThen_pure]
          constructor
          case answer => exact congrArg (Except.map (row :: ·)) ended.answer
          case state => exact ended.state
          case storage => exact ended.storage
          case limits =>
            simp only [List.cons.injEq, true_and, ← same]
            exact ended.limits
      | dropped left forbidden ready _ raised =>
          rw [left, Limit.cutAfter, forbidden]
          exact ⟨rfl, ready.state, ready.storage, raised⟩
      | ended nothing ready _ same =>
          rw [rowsLeft, nothing]
          exact ⟨rfl, ready.state, ready.storage, same⟩

/-- Opens a scan and asks for rows until there are none, at most the given number of times. -/
def readOut
    (scan : GroupScan)
    (sources : SourceRows)
    (bindings : Bindings)
    (calls : Nat)
    (cursor : Cursor GroupCursor)
    (query : Query MemoryStore) :
    Outcome (Cursor GroupCursor) (Query MemoryStore) (List Row) :=
  (scan.openWith (adapter sources) bindings cursor query).andThen
    fun () cursor query =>
      (scan.protocol (adapter sources)).drain calls cursor query

/-- A scan that is read out hands out what its limit lets through. -/
theorem ended_readOut
    (sources : SourceRows)
    {bindings : Bindings}
    {range : KeyRange}
    (bound : scan.rangeUnder bindings = .ok range)
    (ready : scan.Ready cursor)
    (running : query.canceled = false)
    (placed : query.store.Placed)
    {calls : Nat}
    (enough :
      (scan.limit.cut (scan.rowsWithin query.store range)).length < calls) :
    Ended query.metrics.limitsReached (scan.rowsWithin query.store range)
      (scan.limit.cut (scan.rowsWithin query.store range))
      (scan.readOut sources bindings calls cursor query) := by
  have begins : scan.Begins query range _ :=
    begins_openWith sources bound ready running
  have framed :
      scan.Framed query
        (scan.openWith (adapter sources) bindings cursor query) :=
    framed_openWith bindings ready.attached
  rw [readOut]
  generalize scan.openWith (adapter sources) bindings cursor query = opened
    at begins framed ⊢
  rcases opened with ⟨answer, cursor, after⟩
  cases begins.answer
  have midway : scan.Midway [] cursor :=
    ⟨begins.standing, scan.limit.allows_nil,
      begins.tally.symm ▸ scan.limit.tallies_nil⟩
  have left :
      scan.rowsLeft query.store cursor =
        scan.rowsWithin query.store range := by
    rw [rowsLeft, begins.range, begins.position, GroupRows.remaining_none,
      rowsWithin]
  rw [Limit.cut, ← left] at enough ⊢
  rw [← begins.limits]
  exact ended_drain sources placed midway ⟨begins.running, framed.store⟩ enough

/--
A scan that is opened at any time in its life, and then asked for rows until
there are none, hands out the longest beginning which its limit admits of those
rows that the scan hands out without a limit.
-/
theorem longest_of_opened
    (schema : Schema)
    (statuses : StatusRegistry)
    (sessionId : String)
    (countMode : CountMode)
    (sources : SourceRows)
    (actions : List MemoryStore.Action)
    {scan : GroupScan}
    {query afterwards : Query MemoryStore}
    (used :
      query.store =
        (create schema statuses sessionId countMode).1.performAll actions)
    {fresh : (Plan.scan scan).Cursor GroupCursor}
    (made :
      (Plan.scan scan).newCursor (adapter sources) query =
        (.ok fresh, afterwards))
    (happenings : List Plan.Happening)
    {cursor : Cursor GroupCursor}
    {now : Query MemoryStore}
    (lived :
      (Plan.scan scan).live sources (fresh, afterwards) happenings =
        (cursor, now))
    (idle : cursor.state = .idle)
    (running : now.canceled = false)
    {bindings : Bindings}
    {range : KeyRange}
    (bound : scan.rangeUnder bindings = .ok range)
    {calls : Nat}
    (enough : (scan.rowsWithin now.store range).length < calls) :
    ∃ taken,
      ({ scan with limit := .unlimited }.readOut sources bindings calls cursor
          now).answer = .ok (scan.rowsWithin now.store range) ∧
        scan.limit.LongestOf (scan.rowsWithin now.store range) taken ∧
          Ended now.metrics.limitsReached (scan.rowsWithin now.store range)
            taken (scan.readOut sources bindings calls cursor now) := by
  rcases ready_of_lived used made lived idle with ⟨ready, placed⟩
  have short :
      (scan.limit.cut (scan.rowsWithin now.store range)).length < calls :=
    Nat.lt_of_le_of_lt (scan.limit.cutAfter_prefix [] _).length_le enough
  have ended : Ended _ _ _ (scan.readOut sources bindings calls cursor now) :=
    ended_readOut sources bound ready running placed short
  refine ⟨_, ?_, scan.limit.longestOf_cut _, ended⟩
  have unlimitedReady :
      ({ scan with limit := .unlimited } : GroupScan).Ready cursor :=
    ⟨ready.state, ready.storage, ready.attached.group, ready.attached.whole⟩
  have unlimitedBound :
      ({ scan with limit := .unlimited } : GroupScan).rangeUnder bindings =
        .ok range :=
    bound
  have all :
      (Limit.unlimited.cut (scan.rowsWithin now.store range)).length <
        calls := by
    rw [Limit.cut_unlimited]
    exact enough
  have endedLater :=
    ended_readOut sources unlimitedBound unlimitedReady running placed all
  exact endedLater.answer.trans (congrArg Except.ok (Limit.cut_unlimited _))

/-- A scan of the first row of all customers and orders. -/
def limitedScan : GroupScan :=
  { sampleScan with limit := .rows 1 }

/-- The scan was opened before and closed early. -/
def limitedLife : Cursor GroupCursor × Query MemoryStore :=
  (Plan.scan limitedScan).live Sample.sources (sampleCursor, Plan.sampleQuery)
    [.call (.openWith (.reserve 0)), .call .next, .call .close]

theorem longest_limitedScan :
    let drained :=
      limitedScan.readOut Sample.sources (.reserve 0) 3 limitedLife.1
        limitedLife.2
    limitedScan.rowsWithin limitedLife.2.store .whole =
        [Sample.customerRow, Sample.orderRow] ∧
      limitedScan.limit.LongestOf [Sample.customerRow, Sample.orderRow]
          [Sample.customerRow] ∧
        Ended 0 [Sample.customerRow, Sample.orderRow] [Sample.customerRow]
          drained := by
  have fresh :
      (Plan.scan limitedScan).newCursor (adapter Sample.sources)
          Plan.sampleQuery =
        (.ok sampleCursor, Plan.sampleQuery) :=
    rfl
  have lived :
      (Plan.scan limitedScan).live Sample.sources
          (sampleCursor, Plan.sampleQuery)
          [.call (.openWith (.reserve 0)), .call .next, .call .close] =
        (limitedLife.1, limitedLife.2) :=
    rfl
  have bound : limitedScan.rangeUnder (.reserve 0) = .ok .whole :=
    rfl
  have enough :
      (limitedScan.rowsWithin limitedLife.2.store .whole).length < 3 := by
    decide
  rcases
      longest_of_opened Sample.schema {} "session" .exact Sample.sources
        [.write Sample.orderRow, .write Sample.customerRow, .commit] rfl
        fresh _ lived rfl rfl bound enough with
    ⟨taken, -, longest, ended⟩
  have answered :
      (limitedScan.readOut Sample.sources (.reserve 0) 3 limitedLife.1
          limitedLife.2).answer = .ok [Sample.customerRow] :=
    rfl
  have same : taken = [Sample.customerRow] := by
    rw [ended.answer] at answered
    exact Except.ok.inj answered
  subst same
  exact ⟨rfl, longest, ended⟩

end GroupScan

end HierQuery
