import HierQuery.Proofs.Plan.Evaluation

/-!
# Counts and scans agree

The row count that a store maintains for a table is compared with what is
stored.  Exact counts differ from the number of stored rows by what rollbacks
discarded, and approximate counts are those of the latest commit.  So without
a rollback a count in exact mode yields as many rows as a full scan returns.
-/

namespace HierQuery

namespace MemoryStore

variable
  {schema : Schema}
  {table : TableId}
  {rowType : RowType}

theorem isSome_table?_performAll
    {store : MemoryStore}
    (known : (store.schema.table? table).isSome)
    (actions : List Action) :
    ((store.performAll actions).schema.table? table).isSome := by
  rw [schema_performAll]
  exact known

theorem table_of_known
    (known : schema.table? table = some rowType) :
    rowType.table? = some table := by
  simpa using List.find?_some known

/-- Before the first commit of a store that was just created nothing counts as committed. -/
theorem rowCount_of_no_commit
    (schema : Schema)
    (sessionId : String)
    (countMode : CountMode)
    (sources : SourceRows)
    (known : schema.table? table = some rowType)
    {actions : List Action}
    (noCommit : Action.commit ∉ actions) :
    (((create schema {} sessionId countMode).1.performAll actions).counting
        .approximate).rowCount sources rowType =
      .ok 0 := by
  have inSchema : (schema.table? table).isSome :=
    Option.isSome_iff_exists.2 ⟨rowType, known⟩
  have tracked := tracked_create schema sessionId countMode
  rw [(tracked.performAll actions).rowCount_counting (table_of_known known)
    (isSome_table?_performAll inSchema actions) .approximate sources]
  dsimp only
  rw [tracked.committedRows_performAll inSchema noCommit,
    committedRows_create schema sessionId countMode inSchema]

/-- Until the next commit the approximate count is the exact one right after the latest. -/
theorem rowCount_after_commit
    {store : MemoryStore}
    (tracked : store.Tracked)
    (sources : SourceRows)
    (known : store.schema.table? table = some rowType)
    {before after : List Action}
    (noCommit : Action.commit ∉ after) :
    ((store.performAll (before ++ .commit :: after)).counting
          .approximate).rowCount sources rowType =
      ((store.performAll (before ++ [.commit])).counting .exact).rowCount
        sources rowType := by
  have itsTable := table_of_known known
  have inSchema : (store.schema.table? table).isSome :=
    Option.isSome_iff_exists.2 ⟨rowType, known⟩
  have committing := (tracked.performAll before).perform .commit
  have knownThen :
      (((store.performAll before).perform .commit).schema.table?
        table).isSome := by
    rw [schema_perform]
    exact isSome_table?_performAll inSchema before
  rw [(tracked.performAll _).rowCount_counting itsTable
      (isSome_table?_performAll inSchema _) .approximate sources,
    (tracked.performAll _).rowCount_counting itsTable
      (isSome_table?_performAll inSchema _) .exact sources]
  dsimp only
  rw [performAll_append, performAll_append, performAll_cons,
    committing.committedRows_performAll knownThen noCommit]
  -- A commit empties the session, so no pending change separates the two counts.
  exact congrArg Except.ok (Int64.add_zero _).symm

end MemoryStore

namespace Plan

open MemoryStore (Action)

/-- The rows of a table that a full scan of its group returns are the stored ones. -/
theorem countP_rowsWithin_whole
    {store : MemoryStore}
    (placed : store.Placed)
    {table : TableId}
    {group : GroupTable}
    (itsGroup : store.schema.groupOf? table = some group)
    (mode : GroupScan.Mode)
    (limit : Limit) :
    ((GroupScan.rowsWithin ⟨group, mode, limit⟩ store .whole).countP
        fun row => row.rowType.table? == some table) =
      store.storedRows table := by
  rw [placed.storedRows_eq itsGroup, GroupScan.rowsWithin_whole,
    List.countP_map]
  apply List.countP_congr
  intro entry member
  have itsKey := (placed.row member).itsKey
  have sameTable := (entry.2.placed entry.1 itsKey).2
  simp [sameTable]

/-- A fresh cursor of the plan can be made, and it hands out the given rows. -/
def Collects
    (sources : SourceRows)
    (plan : Plan)
    (bindings : Bindings)
    (query : Query MemoryStore)
    (rows : List Row) :
    Prop :=
  ∃ cursor,
    plan.newCursor (MemoryStore.adapter sources) query =
        (.ok cursor, query) ∧
      ((plan.protocol (MemoryStore.adapter sources)).collect bindings cursor
        query).answer = .ok rows

/-- A scan of a whole group without a limit. -/
def fullScan (group : GroupTable) : Plan :=
  scan ⟨group, .full, .unlimited⟩

/-- A full scan means all rows of the group, in the order of their keys. -/
theorem eval_fullScan
    (sources : SourceRows)
    (store : MemoryStore)
    (group : GroupTable)
    (bindings : Bindings) :
    (fullScan group).eval sources store bindings =
      ⟨(store.groupRows group.id).entries.map Prod.snd, none⟩ := by
  rw [fullScan, eval, GroupScan.eval, GroupScan.rangeUnder]
  dsimp only
  rw [Limit.cut_unlimited, GroupScan.rowsWithin_whole]

section

variable
  {query : Query MemoryStore}
  {table : TableId}

/-- A full scan of the group of a table returns as many rows of the table as are stored. -/
theorem collects_fullScan
    (sources : SourceRows)
    (running : query.canceled = false)
    (placed : query.store.Placed)
    {group : GroupTable}
    (itsGroup : query.store.schema.groupOf? table = some group)
    (bindings : Bindings) :
    ∃ rows,
      (fullScan group).Collects sources bindings query rows ∧
        (rows.countP fun row => row.rowType.table? == some table) =
          query.store.storedRows table := by
  have built : (fullScan group).Over query.store.schema := by
    rcases Option.bind_eq_some_iff.1 itsGroup with ⟨rowType, -, rest⟩
    rcases Option.bind_eq_some_iff.1 rest with ⟨placement, -, found⟩
    exact .scan ⟨group, List.mem_of_find?_eq_some found, rfl⟩
  have roomy : (fullScan group).bindingSlots ≤ bindings.reserved :=
    Nat.zero_le _
  rcases newCursor_eq_ok sources placed built with ⟨cursor, made, ready⟩
  rcases collect_of_ready sources roomy running placed ready with ⟨answer, -⟩
  refine ⟨_, ⟨cursor, made, ?_⟩,
    countP_rowsWithin_whole placed itsGroup .full .unlimited⟩
  rw [answer, eval_fullScan, GroupScan.rowsWithin_whole]
  rfl

/-- A count returns the number that the store has for the table. -/
theorem collects_count
    (sources : SourceRows)
    (running : query.canceled = false)
    (placed : query.store.Placed)
    {leaf : Count}
    (itsTable : leaf.tableType.table? = some table)
    (known : (query.store.schema.table? table).isSome)
    {number : Int64}
    (counted :
      query.store.rowCount sources leaf.tableType = .ok number)
    (bindings : Bindings) :
    (count leaf).Collects sources bindings query [leaf.row number] := by
  have built : (count leaf).Over query.store.schema := .count itsTable known
  have roomy : (count leaf).bindingSlots ≤ bindings.reserved :=
    Nat.zero_le _
  rcases newCursor_eq_ok sources placed built with ⟨cursor, made, ready⟩
  rcases collect_of_ready sources roomy running placed ready with ⟨answer, -⟩
  refine ⟨cursor, made, ?_⟩
  rw [answer, eval, Count.eval, counted]
  rfl

/-- Where the exact count is the number of stored rows, counting and scanning agree. -/
theorem collects_count_fullScan
    (sources : SourceRows)
    (running : query.canceled = false)
    (placed : query.store.Placed)
    (tracked : query.store.Tracked)
    (exactly : query.store.countMode = .exact)
    {leaf : Count}
    (itsTable : leaf.tableType.table? = some table)
    (known : (query.store.schema.table? table).isSome)
    {group : GroupTable}
    (itsGroup : query.store.schema.groupOf? table = some group)
    (counted :
      query.store.exactRows table =
        Int64.ofInt (query.store.storedRows table))
    (bindings : Bindings) :
    ∃ rows row,
      (fullScan group).Collects sources bindings query rows ∧
        (count leaf).Collects sources bindings query [row] ∧
          leaf.Holds
            (Int64.ofInt
              (rows.countP fun row => row.rowType.table? == some table))
            row := by
  rcases collects_fullScan sources running placed itsGroup bindings with
    ⟨rows, scanned, asMany⟩
  have itself : query.store.counting .exact = query.store := by
    rw [MemoryStore.counting, ← exactly]
  have answered :
      query.store.rowCount sources leaf.tableType =
        .ok
          (Int64.ofInt
            (rows.countP fun row =>
              row.rowType.table? == some table)) := by
    rw [← itself, tracked.rowCount_counting itsTable known .exact sources]
    dsimp only
    rw [counted, asMany]
  exact ⟨rows, _, scanned,
    collects_count sources running placed itsTable known answered bindings,
    leaf.holds_row _⟩

end

/--
What a store counts for a table of its schema after any run.  The exact count
is the number of stored rows less what rollbacks discarded, as a 64-bit number
and, unless a run of 2^63 actions overflows it, as an integer.  The
approximate count is the exact one of the latest commit.  If nothing was
rolled back, a count in exact mode yields one row, which holds the number of the
table's rows that a full scan of its group returns.
-/
theorem rowCount_performAll
    (schema : Schema)
    (sessionId : String)
    (countMode : CountMode)
    (sources : SourceRows)
    {table : TableId}
    {rowType : RowType}
    (known : schema.table? table = some rowType)
    (actions : List Action) :
    let empty := (MemoryStore.create schema {} sessionId countMode).1
    let store := empty.performAll actions
    let discarded := empty.discarded table actions
    (∃ exact : Int64,
      (store.counting .exact).rowCount sources rowType = .ok exact ∧
        exact = Int64.ofInt (store.storedRows table - discarded) ∧
          (actions.length < 9223372036854775808 →
            exact.toInt = store.storedRows table - discarded)) ∧
      (Action.commit ∉ actions →
        (store.counting .approximate).rowCount sources rowType = .ok 0) ∧
      (∀ before after,
        actions = before ++ .commit :: after → Action.commit ∉ after →
          (store.counting .approximate).rowCount sources rowType =
            ((empty.performAll (before ++ [.commit])).counting
              .exact).rowCount sources rowType) ∧
      (countMode = .exact → Action.rollback ∉ actions →
        ∀ (leaf : Count) (group : GroupTable) (query : Query MemoryStore)
          (bindings : Bindings),
          leaf.tableType = rowType →
          schema.groupOf? table = some group →
          query.canceled = false →
          query.store = store →
            ∃ rows row,
              (fullScan group).Collects sources bindings query rows ∧
                (count leaf).Collects sources bindings query [row] ∧
                  leaf.Holds
                    (Int64.ofInt
                      (rows.countP fun row =>
                        row.rowType.table? == some table))
                    row) := by
  intro empty store discarded
  have itsTable := MemoryStore.table_of_known known
  have inSchema : (empty.schema.table? table).isSome :=
    Option.isSome_iff_exists.2 ⟨rowType, known⟩
  have inStore : (store.schema.table? table).isSome :=
    MemoryStore.isSome_table?_performAll inSchema actions
  have fresh : empty.Tracked :=
    MemoryStore.tracked_create schema sessionId countMode
  have tracked : store.Tracked := fresh.performAll actions
  have balanced :
      store.Balanced table (0 + discarded) (0 + actions.length) :=
    (MemoryStore.balanced_create schema sessionId countMode
      inSchema).performAll fresh inSchema actions
  rw [Int.zero_add, Nat.zero_add] at balanced
  refine ⟨⟨store.exactRows table, ?_, balanced.counted,
    balanced.toInt_exactRows⟩, ?_, ?_, ?_⟩
  · exact tracked.rowCount_counting itsTable inStore .exact sources
  · intro noCommit
    exact MemoryStore.rowCount_of_no_commit schema sessionId countMode sources
      known noCommit
  · rintro before after rfl noCommit
    exact MemoryStore.rowCount_after_commit fresh sources known noCommit
  · intro exactMode noRollback leaf group query bindings counts itsGroup
      running used
    have counted :
        store.exactRows table = Int64.ofInt (store.storedRows table) := by
      rw [balanced.counted,
        show discarded = 0 from MemoryStore.discarded_eq_zero noRollback,
        Int.sub_zero]
    have placed : store.Placed :=
      (MemoryStore.placed_create schema {} sessionId countMode).performAll
        actions
    have exactly : store.countMode = .exact :=
      (MemoryStore.countMode_performAll empty actions).trans exactMode
    have groupInStore : store.schema.groupOf? table = some group := by
      rw [show store.schema = schema from
        MemoryStore.schema_performAll empty actions]
      exact itsGroup
    rw [← counts] at itsTable
    rw [← used] at counted placed tracked exactly inStore groupInStore
    exact collects_count_fullScan sources running placed tracked exactly
      itsTable inStore groupInStore counted bindings

/-- An order that was deleted before a rollback is still counted, though it is not stored. -/
theorem rowCount_of_deleted_order :
    let empty :=
      (MemoryStore.create MemoryStore.Sample.schema {} "session" .exact).1
    let store :=
      empty.performAll
        [.write MemoryStore.Sample.orderRow, .commit,
          .delete ((HKey.root ⟨1⟩ [.int 1]).child ⟨2⟩ [.int 7]), .rollback]
    (store.counting .exact).rowCount MemoryStore.Sample.sources
          MemoryStore.Sample.order =
        .ok 1 ∧
      store.storedRows ⟨2⟩ = 0 := by
  rcases
      rowCount_performAll MemoryStore.Sample.schema "session" .exact
        MemoryStore.Sample.sources
        (show MemoryStore.Sample.schema.table? ⟨2⟩ =
          some MemoryStore.Sample.order from rfl)
        [.write MemoryStore.Sample.orderRow, .commit,
          .delete ((HKey.root ⟨1⟩ [.int 1]).child ⟨2⟩ [.int 7]), .rollback] with
    ⟨⟨number, counted, balance, -⟩, -⟩
  refine ⟨?_, by decide⟩
  rw [counted, balance]
  rfl

end Plan

end HierQuery
