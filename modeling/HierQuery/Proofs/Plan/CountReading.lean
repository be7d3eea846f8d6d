import HierQuery.Proofs.Plan.Lifecycle
import HierQuery.Proofs.Store.BackEnds
import HierQuery.Proofs.Store.Sharing

/-!
# When a count is read

A count is opened without a look at the store.  The number is read at the first
call for a row, and only there: what was written between is counted, and what
is written later is not.  After its row a count answers that it has ended or
that the call is not allowed, until it is opened again.

The counter of reads keeps step with the rows.  A count that is closed or
destroyed before it was asked for its row has read nothing.
-/

namespace HierQuery

/-! ## Tables that stay registered -/

namespace MemoryStore

/-- The table of the given rows has a status. -/
def Registers (store : MemoryStore) (rowType : RowType) : Prop :=
  ∃ table,
    rowType.table? = some table ∧
      (store.statuses.statusOf? table).isSome = true

variable
  {store : MemoryStore}
  {rowType : RowType}

theorem Registers.exists_rowCount
    (registers : store.Registers rowType)
    (sources : SourceRows) :
    ∃ number, store.rowCount sources rowType = .ok number := by
  rcases registers with ⟨table, itsTable, known⟩
  rcases Option.isSome_iff_exists.1 known with ⟨status, found⟩
  rw [rowCount, itsTable]
  dsimp only
  rw [MemoryStore.status, StatusRegistry.status, found]
  exact ⟨_, rfl⟩

/-- No action on a store takes the status of a table away. -/
theorem Registers.perform
    (registers : store.Registers rowType)
    (action : Action) :
    (store.perform action).Registers rowType := by
  rcases registers with ⟨table, itsTable, known⟩
  refine ⟨table, itsTable, ?_⟩
  cases action with
  | write row =>
      rcases store.perform_write row with refused | ⟨key, spot, -, -, written⟩
      · rw [refused]
        exact known
      · rw [written, spot.statuses_replace]
        exact known
  | delete key =>
      rcases store.perform_delete key with refused | ⟨spot, -, deleted⟩
      · rw [refused]
        exact known
      · rw [deleted, spot.statuses_replace]
        exact known
  | commit =>
      have sameKind := store.statuses.kindOf?_commit store.session table
      have same := congrArg Option.isSome sameKind
      rw [StatusRegistry.kindOf?, StatusRegistry.kindOf?, Option.isSome_map,
        Option.isSome_map] at same
      exact same.trans known
  | rollback =>
      exact known
  | register other source =>
      exact
        store.statuses.isSome_statusOf?_createVirtual known other source

end MemoryStore

namespace Count

open MemoryStore

/-! ## One call -/

/-- What a call on the cursor of a count can do while the store counts a number. -/
inductive Does (leaf : Count) (number : Int64) (cursor : Cursor) :
    CursorCall → Except ExecError (Option Row) → Cursor → Prop
  | refused
      {made : CursorCall}
      (notAllowed : ¬ made.AllowedIn cursor.state) :
      Does leaf number cursor made
        (.error (made.refusal cursor.state operatorName)) cursor
  | opened
      {bindings : Bindings} :
      Does leaf number cursor (.openWith bindings) (.ok none)
        { state := .active, pending := true }
  /-- The row that is handed out holds the number of this moment. -/
  | read
      (pending : cursor.pending = true) :
      Does leaf number cursor .next (.ok (some (leaf.row number)))
        { cursor with pending := false }
  | ended
      (spent : cursor.pending = false) :
      Does leaf number cursor .next (.ok none) cursor.settled
  | closed :
      Does leaf number cursor .close (.ok none) cursor.settled
  | leftAlone
      (idle : cursor.state = .idle) :
      Does leaf number cursor .close (.ok none) cursor
  | destroyed :
      Does leaf number cursor .destroy (.ok none) { state := .destroyed }

/-- The query of a count that goes on and has a table to count. -/
structure Readable (leaf : Count) (query : Query MemoryStore) : Prop where
  running : query.canceled = false
  registered : query.store.Registers leaf.tableType

variable
  {leaf : Count}
  {query : Query MemoryStore}
  (sources : SourceRows)

theorem Readable.count
    (readable : leaf.Readable query)
    (counter : Metrics.Counter) :
    leaf.Readable (query.count counter) :=
  ⟨readable.running, readable.registered⟩

theorem Readable.trace
    (readable : leaf.Readable query)
    (event : Event)
    (operator detail : String) :
    leaf.Readable (query.trace event operator detail) where
  running := by
    rw [Query.canceled_trace]
    exact readable.running
  registered := by
    rw [Query.store_trace]
    exact readable.registered

section

variable
  (leaf)
  {cursor : Cursor}
  {made : CursorCall}

theorem call_open
    (idle : cursor.state = .idle)
    (bindings : Bindings) :
    (leaf.protocol (adapter sources)).call (.openWith bindings) cursor query =
      .pure none { state := .active, pending := true }
        (leaf.trace .cursorOpen (query.count .cursorsOpened)) := by
  change (leaf.openWith bindings cursor query).map _ = _
  rw [openWith, idle]
  rfl

/-- The first call for a row asks the store and counts as a read. -/
theorem call_next_of_pending
    (active : cursor.state = .active)
    (running : query.canceled = false)
    (pending : cursor.pending = true)
    {number : Int64}
    (counted : query.store.rowCount sources leaf.tableType = .ok number) :
    (leaf.protocol (adapter sources)).call .next cursor query =
      .pure (some (leaf.row number)) { cursor with pending := false }
        (((query.count .rowCountReads).count .rowsProduced).trace .rowYield
          operatorName (leaf.row number).render) := by
  have asked :
      (adapter sources).rowCount leaf.tableType query.store =
        (.ok number, query.store) :=
    congrArg (·, query.store) counted
  have allowed : cursor.state.requireActive operatorName = .ok () := by
    rw [active]
    rfl
  change leaf.next (adapter sources) cursor query = _
  rw [next, allowed]
  dsimp only
  rw [Query.checkCancellation_of_not_canceled running]
  dsimp only
  rw [if_pos pending, produce, asked]

theorem call_next_of_spent
    (active : cursor.state = .active)
    (running : query.canceled = false)
    (spent : cursor.pending = false) :
    (leaf.protocol (adapter sources)).call .next cursor query =
      .pure none cursor.settled (leaf.trace .endOfStream query) := by
  change leaf.next (adapter sources) cursor query = _
  rw [next, active, CursorState.requireActive_active]
  dsimp only
  rw [Query.checkCancellation_of_not_canceled running]
  dsimp only
  rw [spent]
  rfl

theorem call_close_of_active (active : cursor.state = .active) :
    (leaf.protocol (adapter sources)).call .close cursor query =
      .pure none cursor.settled (leaf.trace .cursorClose query) := by
  change (leaf.close cursor query).map _ = _
  rw [close, active]
  rfl

theorem call_close_of_idle (idle : cursor.state = .idle) :
    (leaf.protocol (adapter sources)).call .close cursor query =
      .pure none cursor query := by
  change (leaf.close cursor query).map _ = _
  rw [close, idle]
  rfl

theorem call_destroy (alive : cursor.state ≠ .destroyed) :
    (leaf.protocol (adapter sources)).call .destroy cursor query =
      .pure none { state := .destroyed }
        (leaf.trace .cursorDestroy (query.count .cursorsDestroyed)) := by
  change (leaf.destroy cursor query).map _ = _
  rw [destroy, CursorState.requireAlive_of_ne alive]
  rfl

end

/-- Each call does one of these, and just the call that hands a row out counts as a read. -/
theorem does_call
    (readable : leaf.Readable query)
    (made : CursorCall)
    (cursor : Cursor) :
    ∃ number,
      query.store.rowCount sources leaf.tableType = .ok number ∧
        let outcome := (leaf.protocol (adapter sources)).call made cursor query
        leaf.Does number cursor made outcome.answer outcome.cursor ∧
          leaf.Readable outcome.world ∧
            outcome.world.metrics.rowCountReads =
              query.metrics.rowCountReads +
                outcome.answer.toOption.join.toList.length := by
  rcases readable.registered.exists_rowCount sources with ⟨number, counted⟩
  refine ⟨number, counted, ?_⟩
  by_cases allowed : made.AllowedIn cursor.state
  case neg =>
    rw [(leaf.guarded (adapter sources)).call_of_not_allowed allowed]
    exact ⟨.refused allowed, readable, rfl⟩
  cases made with
  | openWith bindings =>
      rw [call_open leaf sources allowed]
      refine ⟨.opened, (readable.count _).trace _ _ _, ?_⟩
      exact
        (congrArg Metrics.rowCountReads (Query.metrics_trace _ _ _ _)).trans
          rfl
  | next =>
      cases pending : cursor.pending with
      | true =>
          rw [call_next_of_pending leaf sources allowed readable.running
            pending counted]
          refine ⟨.read pending,
            ((readable.count _).count _).trace _ _ _, ?_⟩
          exact congrArg Metrics.rowCountReads (Query.metrics_trace _ _ _ _)
      | false =>
          rw [call_next_of_spent leaf sources allowed readable.running
            pending]
          refine ⟨.ended pending, readable.trace _ _ _, ?_⟩
          exact congrArg Metrics.rowCountReads (Query.metrics_trace _ _ _ _)
  | close =>
      by_cases active : cursor.state = .active
      · rw [call_close_of_active leaf sources active]
        refine ⟨.closed, readable.trace _ _ _, ?_⟩
        exact congrArg Metrics.rowCountReads (Query.metrics_trace _ _ _ _)
      · have idle := CursorState.eq_idle_of_ne allowed active
        rw [call_close_of_idle leaf sources idle]
        exact ⟨.leftAlone idle, readable, rfl⟩
  | destroy =>
      rw [call_destroy leaf sources allowed]
      refine ⟨.destroyed, (readable.count _).trace _ _ _, ?_⟩
      exact
        (congrArg Metrics.rowCountReads (Query.metrics_trace _ _ _ _)).trans
          rfl

/-! ## Lives -/

/-- A call on the cursor of a count, with what the store counts at that moment. -/
structure Glimpse where
  made : CursorCall
  counted : Except ExecError Int64
  answer : Except ExecError (Option Row)

namespace Glimpse

/-- Whether the call opened the cursor. -/
def opened (glimpse : Glimpse) : Bool :=
  match glimpse.made, glimpse.answer with
  | .openWith _, .ok _ => true
  | _, _ => false

/-- The row that was handed out. -/
def row? (glimpse : Glimpse) : Option Row :=
  glimpse.answer.toOption.join

/-- No row was handed out; if one was asked for, there is none or the call is not allowed. -/
structure Bare (glimpse : Glimpse) : Prop where
  counted : ∃ number, glimpse.counted = .ok number
  rowless : glimpse.row? = none
  asked :
    glimpse.made = .next →
      glimpse.answer = .ok none ∨
        ∃ state,
          glimpse.answer = .error (glimpse.made.refusal state operatorName)

end Glimpse

/-- All rows that were handed out. -/
def rowsOf (seen : List Glimpse) : List Row :=
  seen.filterMap Glimpse.row?

/-- What the store counts at the first call for a row, unless the cursor was closed before. -/
def firstCounted? : List Glimpse → Option Int64
  | [] => none
  | glimpse :: later =>
      match glimpse.made with
      | .openWith _ => firstCounted? later
      | .next => glimpse.counted.toOption
      | .close | .destroy => none

/-- What is seen of a call. -/
def glimpse
    (leaf : Count)
    (sources : SourceRows)
    (life : Cursor × Query MemoryStore)
    (made : CursorCall) :
    Glimpse where
  made := made
  counted := life.2.store.rowCount sources leaf.tableType
  answer := ((leaf.protocol (adapter sources)).call made life.1 life.2).answer

/-- What is seen of all calls while one thing happens after another. -/
def glimpses
    (leaf : Count)
    (sources : SourceRows) :
    Cursor × Query MemoryStore → List Plan.Happening → List Glimpse
  | _, [] => []
  | life, happening :: happenings =>
      let later :=
        leaf.glimpses sources ((Plan.count leaf).happen sources life happening)
          happenings
      match happening with
      | .call made => leaf.glimpse sources life made :: later
      | .cancel | .write _ => later

/-- Nothing cancels the query. -/
def Uncanceled (happenings : List Plan.Happening) : Prop :=
  ∀ happening ∈ happenings, happening ≠ .cancel

theorem Uncanceled.tail
    {happening : Plan.Happening}
    {happenings : List Plan.Happening}
    (uncanceled : Uncanceled (happening :: happenings)) :
    Uncanceled happenings :=
  fun _ later => uncanceled _ (List.mem_cons_of_mem _ later)

section Lives

variable {life : Cursor × Query MemoryStore}

theorem Readable.happen
    (readable : leaf.Readable life.2)
    {happening : Plan.Happening}
    (uncanceled : happening ≠ .cancel) :
    leaf.Readable ((Plan.count leaf).happen sources life happening).2 := by
  cases happening with
  | call made =>
      rcases does_call sources readable made life.1 with ⟨-, -, -, kept, -⟩
      exact kept
  | cancel =>
      exact (uncanceled rfl).elim
  | write action =>
      exact ⟨readable.running, readable.registered.perform action⟩

theorem Readable.live
    (readable : leaf.Readable life.2)
    {happenings : List Plan.Happening}
    (uncanceled : Uncanceled happenings) :
    leaf.Readable ((Plan.count leaf).live sources life happenings).2 := by
  induction happenings generalizing life with
  | nil =>
      exact readable
  | cons happening happenings ih =>
      have first := uncanceled happening List.mem_cons_self
      exact ih (readable.happen sources first) uncanceled.tail

@[simp]
theorem rowsOf_cons (glimpse : Glimpse) (later : List Glimpse) :
    rowsOf (glimpse :: later) = glimpse.row?.toList ++ rowsOf later := by
  rw [rowsOf, List.filterMap_cons]
  cases glimpse.row? <;> rfl

theorem rowsOf_of_bare
    {seen : List Glimpse}
    (bare : ∀ glimpse ∈ seen, glimpse.Bare) :
    rowsOf seen = [] :=
  List.filterMap_eq_nil_iff.2 fun glimpse member => (bare glimpse member).rowless

/-- There are as many reads as rows. -/
theorem rowCountReads_live
    (readable : leaf.Readable life.2)
    {happenings : List Plan.Happening}
    (uncanceled : Uncanceled happenings) :
    ((Plan.count leaf).live sources life
          happenings).2.metrics.rowCountReads =
      life.2.metrics.rowCountReads +
        (rowsOf (leaf.glimpses sources life happenings)).length := by
  induction happenings generalizing life with
  | nil =>
      rfl
  | cons happening happenings ih =>
      have first := uncanceled happening List.mem_cons_self
      have rest := ih (readable.happen sources first) uncanceled.tail
      cases happening with
      | call made =>
          rcases does_call sources readable made life.1 with
            ⟨-, -, -, -, read⟩
          rw [glimpses, rowsOf_cons, List.length_append, ← Nat.add_assoc]
          exact rest.trans (congrArg (· + _) read)
      | cancel =>
          exact (first rfl).elim
      | write action =>
          exact rest

/-- A call that does not open the cursor brings no row back once there is none to come. -/
theorem Does.of_spent
    {number : Int64}
    {cursor after : Cursor}
    {made : CursorCall}
    {answer : Except ExecError (Option Row)}
    (does : leaf.Does number cursor made answer after)
    (spent : cursor.pending = false)
    (unopened : Glimpse.opened ⟨made, .ok number, answer⟩ = false) :
    after.pending = false ∧ Glimpse.Bare ⟨made, .ok number, answer⟩ := by
  cases does with
  | refused =>
      exact ⟨spent, ⟨_, rfl⟩, rfl, fun _ => .inr ⟨_, rfl⟩⟩
  | opened =>
      cases unopened
  | read pending =>
      rw [spent] at pending
      cases pending
  | ended =>
      exact ⟨rfl, ⟨_, rfl⟩, rfl, fun _ => .inl rfl⟩
  | closed | destroyed =>
      exact ⟨rfl, ⟨_, rfl⟩, rfl, nofun⟩
  | leftAlone =>
      exact ⟨spent, ⟨_, rfl⟩, rfl, nofun⟩

theorem glimpse_eq
    {number : Int64}
    (counted : life.2.store.rowCount sources leaf.tableType = .ok number)
    (made : CursorCall) :
    leaf.glimpse sources life made =
      ⟨made, .ok number,
        ((leaf.protocol (adapter sources)).call made life.1 life.2).answer⟩ := by
  rw [glimpse, counted]

/-- Once there is no row to come, there is none until the cursor is opened again. -/
theorem bare_of_spent
    (readable : leaf.Readable life.2)
    (spent : life.1.pending = false)
    {happenings : List Plan.Happening}
    (uncanceled : Uncanceled happenings)
    (unopened :
      ∀ glimpse ∈ leaf.glimpses sources life happenings,
        glimpse.opened = false) :
    ∀ glimpse ∈ leaf.glimpses sources life happenings, glimpse.Bare := by
  induction happenings generalizing life with
  | nil =>
      intro glimpse member
      rw [glimpses] at member
      cases member
  | cons happening happenings ih =>
      have first := uncanceled happening List.mem_cons_self
      have kept := readable.happen sources first
      cases happening with
      | call made =>
          rcases does_call sources readable made life.1 with
            ⟨number, counted, does, -, -⟩
          rw [glimpses, glimpse_eq sources counted] at unopened ⊢
          rcases List.forall_mem_cons.1 unopened with ⟨notNow, notLater⟩
          rcases does.of_spent spent notNow with ⟨spent, bare⟩
          exact
            List.forall_mem_cons.2
              ⟨bare, ih kept spent uncanceled.tail notLater⟩
      | cancel =>
          exact (first rfl).elim
      | write action =>
          exact ih kept spent uncanceled.tail unopened

/-- The calls on a count that was opened, up to the next opening. -/
inductive Waits (leaf : Count) : List Glimpse → Prop
  | nil :
      Waits leaf []
  /-- A cursor that is open cannot be opened, and this changes nothing. -/
  | refused
      {bindings : Bindings}
      {number : Int64}
      {error : ExecError}
      {later : List Glimpse}
      (rest : Waits leaf later) :
      Waits leaf (⟨.openWith bindings, .ok number, .error error⟩ :: later)
  | read
      {number : Int64}
      {later : List Glimpse}
      (bare : ∀ glimpse ∈ later, glimpse.Bare) :
      Waits leaf
        (⟨.next, .ok number, .ok (some (leaf.row number))⟩ :: later)
  | closed
      {made : CursorCall}
      {number : Int64}
      {later : List Glimpse}
      (ending : made = .close ∨ made = .destroy)
      (bare : ∀ glimpse ∈ later, glimpse.Bare) :
      Waits leaf (⟨made, .ok number, .ok none⟩ :: later)

/-- The row is still to come, or this call hands it out, or it gives it up. -/
theorem Does.waits
    {number : Int64}
    {cursor after : Cursor}
    {made : CursorCall}
    {answer : Except ExecError (Option Row)}
    (does : leaf.Does number cursor made answer after)
    (active : cursor.state = .active)
    (pending : cursor.pending = true)
    (unopened : Glimpse.opened ⟨made, .ok number, answer⟩ = false)
    {later : List Glimpse}
    (waiting :
      after.state = .active → after.pending = true → leaf.Waits later)
    (spent :
      after.pending = false → ∀ glimpse ∈ later, glimpse.Bare) :
    leaf.Waits (⟨made, .ok number, answer⟩ :: later) := by
  cases does with
  | refused notAllowed =>
      rw [active] at notAllowed ⊢
      cases made with
      | openWith bindings =>
          exact .refused (waiting active pending)
      | next =>
          exact (notAllowed rfl).elim
      | close | destroy =>
          exact (notAllowed nofun).elim
  | opened =>
      cases unopened
  | read =>
      exact .read (spent rfl)
  | ended spentBefore =>
      rw [pending] at spentBefore
      cases spentBefore
  | closed =>
      exact .closed (.inl rfl) (spent rfl)
  | leftAlone idle =>
      rw [active] at idle
      cases idle
  | destroyed =>
      exact .closed (.inr rfl) (spent rfl)

/-- Whatever is written, a count that was opened waits to be asked for its row. -/
theorem waits_of_pending
    (readable : leaf.Readable life.2)
    (active : life.1.state = .active)
    (pending : life.1.pending = true)
    {happenings : List Plan.Happening}
    (uncanceled : Uncanceled happenings)
    (unopened :
      ∀ glimpse ∈ leaf.glimpses sources life happenings,
        glimpse.opened = false) :
    leaf.Waits (leaf.glimpses sources life happenings) := by
  induction happenings generalizing life with
  | nil =>
      rw [glimpses]
      exact .nil
  | cons happening happenings ih =>
      have first := uncanceled happening List.mem_cons_self
      have kept := readable.happen sources first
      cases happening with
      | call made =>
          rcases does_call sources readable made life.1 with
            ⟨number, counted, does, -, -⟩
          rw [glimpses, glimpse_eq sources counted] at unopened ⊢
          rcases List.forall_mem_cons.1 unopened with ⟨notNow, notLater⟩
          have spentLater spent :=
            bare_of_spent sources kept spent uncanceled.tail notLater
          have waitingLater active pending :=
            ih kept active pending uncanceled.tail notLater
          exact does.waits active pending notNow waitingLater spentLater
      | cancel =>
          exact (first rfl).elim
      | write action =>
          exact ih kept active pending uncanceled.tail unopened

end Lives

/-! ## One row, read late and once -/

/-- What is seen of a count from an opening up to the next one. -/
structure ReadsOnce (leaf : Count) (seen : List Glimpse) : Prop where
  /-- The table can be counted at every moment. -/
  counted : ∀ glimpse ∈ seen, ∃ number, glimpse.counted = .ok number
  once : (rowsOf seen).length ≤ 1
  /-- The row holds the number of the moment at which a row was first asked for. -/
  late :
    ∀ number,
      firstCounted? seen = some number →
        ∃ row, rowsOf seen = [row] ∧ leaf.Holds number row
  unasked : firstCounted? seen = none → rowsOf seen = []
  /-- Whatever is written later, the count has ended or refuses to go on. -/
  ended :
    ∀ before first after,
      seen = before ++ first :: after →
        first.made = .next →
          ∀ glimpse ∈ after,
            glimpse.made = .next →
              glimpse.answer = .ok none ∨
                ∃ state,
                  glimpse.answer =
                    .error (glimpse.made.refusal state operatorName)
  unread :
    ∀ before closing after,
      seen = before ++ closing :: after →
        (∀ glimpse ∈ before, glimpse.made ≠ .next) →
          closing.made = .close →
            rowsOf seen = []

namespace Waits

variable {seen : List Glimpse}

theorem counted (waits : leaf.Waits seen) :
    ∀ glimpse ∈ seen, ∃ number, glimpse.counted = .ok number := by
  induction waits with
  | nil =>
      intro glimpse member
      cases member
  | refused _ ih =>
      exact List.forall_mem_cons.2 ⟨⟨_, rfl⟩, ih⟩
  | read bare | closed _ bare =>
      exact
        List.forall_mem_cons.2
          ⟨⟨_, rfl⟩, fun glimpse later => (bare glimpse later).counted⟩

theorem late (waits : leaf.Waits seen) :
    rowsOf seen = (firstCounted? seen).toList.map leaf.row := by
  induction waits with
  | nil =>
      rfl
  | refused _ ih =>
      exact (rowsOf_cons _ _).trans ih
  | read bare =>
      rw [rowsOf_cons, rowsOf_of_bare bare]
      rfl
  | closed ending bare =>
      rw [rowsOf_cons, rowsOf_of_bare bare]
      rcases ending with rfl | rfl <;> rfl

theorem ended
    (waits : leaf.Waits seen)
    {before after : List Glimpse}
    {first glimpse : Glimpse}
    (split : seen = before ++ first :: after)
    (asked : first.made = .next)
    (member : glimpse ∈ after)
    (again : glimpse.made = .next) :
    glimpse.answer = .ok none ∨
      ∃ state,
        glimpse.answer = .error (glimpse.made.refusal state operatorName) := by
  induction waits generalizing before with
  | nil =>
      simp at split
  | refused _ ih =>
      cases before with
      | nil =>
          cases split
          cases asked
      | cons head before =>
          exact ih (List.cons.inj split).2
  | @read _ later bare | @closed _ _ later _ bare =>
      have inLater : glimpse ∈ later := by
        cases before with
        | nil =>
            exact (List.cons.inj split).2 ▸ member
        | cons head before =>
            rw [(List.cons.inj split).2]
            simp [member]
      exact (bare glimpse inLater).asked again

theorem unread
    (waits : leaf.Waits seen)
    {before after : List Glimpse}
    {closing : Glimpse}
    (split : seen = before ++ closing :: after)
    (unasked : ∀ glimpse ∈ before, glimpse.made ≠ .next)
    (closes : closing.made = .close) :
    rowsOf seen = [] := by
  induction waits generalizing before with
  | nil =>
      rfl
  | refused _ ih =>
      cases before with
      | nil =>
          cases split
          cases closes
      | cons head before =>
          rw [rowsOf_cons]
          exact
            ih (List.cons.inj split).2 fun glimpse member =>
              unasked glimpse (List.mem_cons_of_mem _ member)
  | read =>
      cases before with
      | nil =>
          cases split
          cases closes
      | cons head before =>
          cases split
          exact (unasked _ List.mem_cons_self rfl).elim
  | closed _ bare =>
      rw [rowsOf_cons, rowsOf_of_bare bare]
      rfl

theorem readsOnce (waits : leaf.Waits seen) : leaf.ReadsOnce seen where
  counted := waits.counted
  once := by
    rw [waits.late, List.length_map]
    cases firstCounted? seen <;> simp
  late := by
    intro number first
    rw [waits.late, first]
    exact ⟨leaf.row number, rfl, leaf.holds_row number⟩
  unasked := by
    intro never
    rw [waits.late, never]
    rfl
  ended := fun _ _ _ split asked _ => waits.ended split asked
  unread := fun _ _ _ split => waits.unread split

end Waits

/-- An opening that succeeds leaves the row to come. -/
theorem pending_of_opened
    {number : Int64}
    {cursor after : Cursor}
    {bindings : Bindings}
    {answer : Except ExecError (Option Row)}
    (does : leaf.Does number cursor (.openWith bindings) answer after)
    (opened :
      Glimpse.opened ⟨.openWith bindings, .ok number, answer⟩ = true) :
    after.state = .active ∧ after.pending = true := by
  cases does with
  | refused =>
      cases opened
  | opened =>
      exact ⟨rfl, rfl⟩

/--
A fresh count over a store that has a status for its table may be called and
the store written to in any order.  The counter of reads grows by the number of
rows that the count hands out.  From an opening up to the next one that is the
row of the number that the store counts when a row is first asked for, and
nothing after it; or no row, if the count is closed before.
-/
theorem readsOnce_live
    (leaf : Count)
    (query : Query MemoryStore)
    (running : query.canceled = false)
    (registered : query.store.Registers leaf.tableType) :
    let fresh : Cursor := {}
    let plan := Plan.count leaf
    plan.newCursor (adapter sources) query = (.ok fresh, query) ∧
      (∀ happenings,
        Uncanceled happenings →
          (plan.live sources (fresh, query)
                happenings).2.metrics.rowCountReads =
            query.metrics.rowCountReads +
              (rowsOf
                (leaf.glimpses sources (fresh, query) happenings)).length) ∧
        ∀ past bindings segment,
          Uncanceled past →
            Uncanceled segment →
              let before := plan.live sources (fresh, query) past
              let opening := leaf.glimpse sources before (.openWith bindings)
              let after :=
                plan.happen sources before (.call (.openWith bindings))
              let seen := leaf.glimpses sources after segment
              opening.opened = true →
                (∀ glimpse ∈ seen, glimpse.opened = false) →
                  leaf.ReadsOnce seen := by
  intro fresh plan
  have readable : leaf.Readable (fresh, query).2 := ⟨running, registered⟩
  refine ⟨rfl, ?_, ?_⟩
  · exact fun _ uncanceled => rowCountReads_live sources readable uncanceled
  · intro past bindings segment pastUncanceled uncanceled before opening after
      seen opened unopened
    have readableBefore : leaf.Readable before.2 :=
      readable.live sources pastUncanceled
    have readableAfter : leaf.Readable after.2 :=
      readableBefore.happen sources nofun
    rcases does_call sources readableBefore (.openWith bindings) before.1 with
      ⟨number, -, does, -, -⟩
    have fits : after.1.state = .active ∧ after.1.pending = true :=
      pending_of_opened does opened
    exact
      (waits_of_pending sources readableAfter fits.1 fits.2 uncanceled
        unopened).readsOnce

/-- A count of the orders of the sample store. -/
def sampleCount : Count where
  tableType := Sample.order
  output := ⟨4, "count(order)", [⟨"count", .int⟩], .values⟩
  isTable := rfl
  singleInteger := ⟨rfl, rfl⟩

/-- The count is opened while there is one order, and asked for its row when there is none. -/
theorem readsOnce_of_deleted_order :
    let orderKey : HKey := (HKey.root ⟨1⟩ [.int 1]).child ⟨2⟩ [.int 7]
    let plan := Plan.count sampleCount
    let opening : CursorCall := .openWith (.reserve 0)
    let opened :=
      plan.happen Sample.sources (({} : Cursor), Plan.sampleQuery) (.call opening)
    let seen :=
      sampleCount.glimpses Sample.sources opened
        [.write (.delete orderKey), .call opening, .call .next,
          .write (.write Sample.orderRow), .call .next, .call .next]
    Plan.sampleQuery.store.Registers sampleCount.tableType ∧
      Plan.sampleQuery.store.rowCount Sample.sources Sample.order = .ok 1 ∧
        sampleCount.ReadsOnce seen ∧
          ∃ row,
            rowsOf seen = [row] ∧
              row.rowType.name = "count(order)" ∧
                row.key? = none ∧ row.values = [.int 0] := by
  intro orderKey plan opening opened seen
  have registered :
      Plan.sampleQuery.store.Registers sampleCount.tableType :=
    ⟨⟨2⟩, rfl, by decide +kernel⟩
  have life := readsOnce_live Sample.sources sampleCount Plan.sampleQuery rfl
    registered
  have once : sampleCount.ReadsOnce seen :=
    life.2.2 [] (.reserve 0)
      [.write (.delete orderKey), .call opening, .call .next,
        .write (.write Sample.orderRow), .call .next, .call .next]
      nofun (by simp [Uncanceled]) rfl (by decide +kernel)
  have none : firstCounted? seen = some 0 := by
    decide +kernel
  rcases once.late 0 none with ⟨row, rows, holds⟩
  exact ⟨registered, rfl, once, row, rows, by rw [holds.rowType]; rfl,
    holds.unplaced, holds.values⟩

end Count

end HierQuery
