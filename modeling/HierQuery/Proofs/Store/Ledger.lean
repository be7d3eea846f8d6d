import HierQuery.Proofs.Store.Run

/-!
# The ledger of row counts

Rows are stored at once, while their counts pass through a session.  For one
table the committed count and the change which the session buffers make up
the exact count.  It is as high as the number of stored rows, except for the
changes which rollbacks discarded while the rows stayed.

What an action books for a table is said once: it commits, or it rolls back,
or it stores or removes one row at most and buffers the very same change.
-/

namespace HierQuery

/-- The change of a table's row count which a session buffers. -/
def Session.netChange (session : Session) (table : TableId) : Int64 :=
  ((session.pending? table).getD {}).delta

namespace MemoryStore

/-- The rows of all groups. -/
def allRows (store : MemoryStore) : List (HKey × Row) :=
  store.groups.entries.flatMap fun group => group.2.entries

/-- The number of entries whose key names a row of the table. -/
def rowsOf (table : TableId) (entries : List (HKey × Row)) : Nat :=
  entries.countP fun entry => entry.1.table? == some table

/-- The number of stored rows whose key names a row of the table. -/
def storedRows (store : MemoryStore) (table : TableId) : Nat :=
  rowsOf table store.allRows

/-- The committed row count of a table with a stored status. -/
def committedRows (store : MemoryStore) (table : TableId) : Int64 :=
  match store.statuses.statusOf? table with
  | some (.stored status) => status.rowCount
  | _ => 0

/-- The committed row count with the change that the session buffers. -/
def exactRows (store : MemoryStore) (table : TableId) : Int64 :=
  store.committedRows table + store.session.netChange table

/-- The same store with its row counts read in the given mode. -/
def counting (store : MemoryStore) (mode : CountMode) : MemoryStore :=
  { store with countMode := mode }

/-- What the store answers when it is asked for the row count of a table. -/
theorem Tracked.rowCount_counting
    {store : MemoryStore}
    (tracked : store.Tracked)
    {rowType : RowType}
    {table : TableId}
    (itsTable : rowType.table? = some table)
    (known : (store.schema.table? table).isSome)
    (mode : CountMode)
    (sources : SourceRows) :
    (store.counting mode).rowCount sources rowType =
      .ok
        (match mode with
        | .exact => store.exactRows table
        | .approximate => store.committedRows table) := by
  rcases tracked.stored table known with ⟨status, registered⟩
  have sameTable : status.table = table :=
    tracked.registry.table_of_statusOf? registered
  have found : (store.counting mode).status table = .ok (.stored status) := by
    change (store.statuses.status table).mapError _ = _
    rw [StatusRegistry.status, registered]
    rfl
  rw [rowCount, itsTable]
  dsimp only
  rw [found]
  cases mode with
  | approximate =>
      rw [committedRows, registered]
      rfl
  | exact =>
      rw [exactRows, committedRows, registered]
      change Except.ok
        ((TableStatus.stored status).rowCount sources store.session) = _
      rw [TableStatus.rowCount, sameTable, Session.netChange]
      cases buffered : store.session.pending? table with
      | none =>
          exact congrArg Except.ok (Int64.add_zero _).symm
      | some change =>
          have notSet : change.setTo = none :=
            tracked.deltas table change buffered
          simp [PendingCount.resolve, notSet]

/-! ## Rows -/

@[simp]
theorem rowsOf_cons
    (table : TableId)
    (entry : HKey × Row)
    (entries : List (HKey × Row)) :
    rowsOf table (entry :: entries) =
      rowsOf table entries +
        if entry.1.table? = some table then 1 else 0 := by
  simp [rowsOf, List.countP_cons]

@[simp]
theorem rowsOf_append
    (table : TableId)
    (first second : List (HKey × Row)) :
    rowsOf table (first ++ second) =
      rowsOf table first + rowsOf table second :=
  List.countP_append

theorem rowsOf_insert
    {rows : GroupRows}
    {key : HKey}
    (absent : rows.contains key = false)
    (row : Row)
    (table : TableId) :
    rowsOf table (rows.insert key row).entries =
      rowsOf table rows.entries +
        if key.table? = some table then 1 else 0 := by
  have kept : (rows.erase key).entries = rows.entries := by
    apply List.filter_eq_self.2
    intro entry member
    rw [bne_iff_ne, ne_eq, Std.LawfulEqOrd.compare_eq_iff_eq]
    rintro rfl
    rw [SortedMap.contains_iff.2 ⟨entry.2, member⟩] at absent
    cases absent
  have counted :
      rowsOf table (rows.insert key row).entries =
        rowsOf table ((key, row) :: (rows.erase key).entries) :=
    (rows.insert_perm key row).countP_eq _
  rw [counted, kept, rowsOf_cons]

theorem rowsOf_erase
    {rows : GroupRows}
    {key : HKey}
    (present : rows.contains key = true)
    (table : TableId) :
    rowsOf table rows.entries =
      rowsOf table (rows.erase key).entries +
        if key.table? = some table then 1 else 0 := by
  rcases Option.isSome_iff_exists.1 present with ⟨row, found⟩
  have counted :
      rowsOf table rows.entries =
        rowsOf table ((key, row) :: (rows.erase key).entries) :=
    (SortedMap.perm_erase found).countP_eq _
  rw [counted, rowsOf_cons]

/-- The rows of all groups are those of one group and those of the others. -/
theorem storedRows_of_group
    {store : MemoryStore}
    {group : GroupId}
    {rows : GroupRows}
    (stored : store.groups.get? group = some rows)
    (table : TableId) :
    store.storedRows table =
      rowsOf table rows.entries +
        rowsOf table
          ((store.groups.erase group).entries.flatMap fun group =>
            group.2.entries) := by
  have split :
      store.storedRows table =
        rowsOf table
          (((group, rows) :: (store.groups.erase group).entries).flatMap
            fun group => group.2.entries) :=
    ((SortedMap.perm_erase stored).flatMap_right _).countP_eq _
  rw [split, List.flatMap_cons, rowsOf_append]

/-- All stored rows of a table lie in the group of the table. -/
theorem Placed.storedRows_eq
    {store : MemoryStore}
    (placed : store.Placed)
    {table : TableId}
    {group : GroupTable}
    (itsGroup : store.schema.groupOf? table = some group) :
    store.storedRows table =
      rowsOf table (store.groupRows group.id).entries := by
  have sameGroup :
      ∀ other rows, (other, rows) ∈ store.groups.entries →
        ∀ entry ∈ rows.entries, entry.1.table? = some table →
          other = group.id := by
    intro other rows listed entry inside named
    rcases placed.rows other rows listed entry.1 entry.2 inside with
      ⟨-, named', groupTable, sameName, placedIn, sameId⟩
    have sameTable : named' = table :=
      Option.some.inj (sameName.symm.trans named)
    rw [sameTable, itsGroup] at placedIn
    cases placedIn
    exact sameId.symm
  cases stored : store.groups.get? group.id with
  | some rows =>
      have noneElsewhere :
          rowsOf table
            ((store.groups.erase group.id).entries.flatMap fun group =>
              group.2.entries) = 0 := by
        apply List.countP_eq_zero.2
        intro entry member named
        rcases List.mem_flatMap.1 member with ⟨other, listed, inside⟩
        rcases SortedMap.mem_erase.1 listed with ⟨listed, different⟩
        exact different
          (sameGroup other.1 other.2 listed entry inside (by simpa using named))
      rw [storedRows_of_group stored, noneElsewhere, groupRows, stored]
      rfl
  | none =>
      rw [groupRows, stored]
      apply List.countP_eq_zero.2
      intro entry member named
      rcases List.mem_flatMap.1 member with ⟨other, listed, inside⟩
      have same :=
        sameGroup other.1 other.2 listed entry inside (by simpa using named)
      rw [← same, SortedMap.get?_eq_some_iff.2 listed] at stored
      cases stored

/-- Other rows in one group change the number of stored rows by as many as they are more. -/
theorem Spot.storedRows_replace
    {store : MemoryStore}
    {key : HKey}
    (spot : store.Spot key)
    (rows : GroupRows)
    (count : Int64)
    (table : TableId) :
    (spot.replace rows count).storedRows table +
        rowsOf table spot.rows.entries =
      store.storedRows table + rowsOf table rows.entries := by
  have replaced :
      (spot.replace rows count).storedRows table =
        rowsOf table
          (((spot.group, rows) ::
              (store.groups.erase spot.group).entries).flatMap
            fun group => group.2.entries) := by
    rw [storedRows, allRows, spot.groups_replace]
    exact ((store.groups.insert_perm spot.group rows).flatMap_right
      _).countP_eq _
  rw [replaced, storedRows_of_group spot.stored, List.flatMap_cons,
    rowsOf_append]
  dsimp only
  omega

/-! ## Counts -/

theorem Spot.committedRows_replace
    {store : MemoryStore}
    {key : HKey}
    (spot : store.Spot key)
    (rows : GroupRows)
    (count : Int64)
    (table : TableId) :
    (spot.replace rows count).committedRows table =
      store.committedRows table := by
  rw [committedRows, spot.statuses_replace]
  rfl

/-- The table of a spot has a stored status. -/
theorem Tracked.stored_of_spot
    {store : MemoryStore}
    (tracked : store.Tracked)
    {key : HKey}
    (spot : store.Spot key) :
    ∃ status,
      store.statuses.statusOf? spot.table = some (.stored status) ∧
        status.table = spot.table := by
  rcases spot.grouped with ⟨group, itsGroup, -⟩
  rcases Option.bind_eq_some_iff.1 itsGroup with ⟨rowType, known, -⟩
  rcases
      tracked.stored spot.table (Option.isSome_iff_exists.2 ⟨rowType, known⟩) with
    ⟨status, registered⟩
  exact ⟨status, registered, tracked.registry.table_of_statusOf? registered⟩

/-- Rows counted at a spot are buffered for the table of the spot. -/
theorem Tracked.netChange_replace
    {store : MemoryStore}
    (tracked : store.Tracked)
    {key : HKey}
    (spot : store.Spot key)
    (rows : GroupRows)
    (count : Int64)
    (table : TableId) :
    (spot.replace rows count).session.netChange table =
      store.session.netChange table +
        if key.table? = some table then count else 0 := by
  rcases tracked.stored_of_spot spot with ⟨status, registered, itsTable⟩
  rw [spot.session_replace, registered, spot.named]
  change (((store.session.addRows status.table count).pending? table).getD
    {}).delta = _
  rw [Session.pending?_addRows, itsTable]
  by_cases same : spot.table = table
  · subst same
    simp [Session.netChange]
  · have other : ¬ compare table spot.table = .eq :=
      fun equal => same (Std.LawfulEqOrd.eq_of_compare equal).symm
    simp [same, other, Session.netChange]

/-- An action that neither commits nor rolls back books the rows it stores or removes. -/
theorem Tracked.booked
    {store : MemoryStore}
    (tracked : store.Tracked)
    {table : TableId}
    (known : (store.schema.table? table).isSome)
    {action : Action}
    (notCommit : action ≠ .commit)
    (notRollback : action ≠ .rollback) :
    ∃ moved : Int,
      moved.natAbs ≤ 1 ∧
        ((store.perform action).storedRows table : Int) =
            store.storedRows table + moved ∧
          (store.perform action).session.netChange table =
              store.session.netChange table + Int64.ofInt moved ∧
            (store.perform action).committedRows table =
              store.committedRows table := by
  cases action with
  | commit =>
      exact (notCommit rfl).elim
  | rollback =>
      exact (notRollback rfl).elim
  | write row =>
      rcases store.perform_write row with
        refused | ⟨key, spot, -, absent, written⟩
      · rw [refused]
        exact ⟨0, by simp⟩
      · have stored := spot.storedRows_replace (spot.rows.insert key row) 1 table
        rw [rowsOf_insert absent] at stored
        rw [written, tracked.netChange_replace, spot.committedRows_replace]
        refine ⟨if key.table? = some table then 1 else 0, ?_, ?_, ?_, rfl⟩
        · split <;> decide
        · split at stored
          next named =>
            rw [if_pos named]
            omega
          next other =>
            rw [if_neg other]
            omega
        · split <;> rfl
  | delete key =>
      rcases store.perform_delete key with refused | ⟨spot, present, deleted⟩
      · rw [refused]
        exact ⟨0, by simp⟩
      · have stored := spot.storedRows_replace (spot.rows.erase key) (-1) table
        rw [rowsOf_erase present] at stored
        rw [deleted, tracked.netChange_replace, spot.committedRows_replace]
        refine ⟨if key.table? = some table then -1 else 0, ?_, ?_, ?_, rfl⟩
        · split <;> decide
        · split at stored
          next named =>
            rw [if_pos named]
            omega
          next other =>
            rw [if_neg other]
            omega
        · split <;> rfl
  | register other source =>
      rcases tracked.stored table known with ⟨status, registered⟩
      have kept :
          (store.perform (.register other source)).statuses.statusOf? table =
            some (.stored status) :=
        tracked.registry.statusOf?_createVirtual other source registered
      refine ⟨0, by decide, (Int.add_zero _).symm, (Int64.add_zero _).symm, ?_⟩
      rw [committedRows, committedRows, kept, registered]

theorem Tracked.committedRows_commit
    {store : MemoryStore}
    (tracked : store.Tracked)
    {table : TableId}
    (known : (store.schema.table? table).isSome) :
    (store.perform .commit).committedRows table = store.exactRows table := by
  rcases tracked.stored table known with ⟨status, registered⟩
  have committed :
      (store.perform .commit).statuses.statusOf? table =
        (store.statuses.statusOf? table).map
          (StatusRegistry.settle (store.session.pending? table)) :=
    tracked.registry.statusOf?_commit store.session table
  rw [exactRows, committedRows, committedRows, committed, registered,
    Session.netChange]
  cases buffered : store.session.pending? table with
  | none =>
      exact (Int64.add_zero _).symm
  | some change =>
      have notSet : change.setTo = none :=
        tracked.deltas table change buffered
      simp [StatusRegistry.settle, TableStatus.apply, PendingCount.resolve,
        notSet]

/-- Only a commit changes what is committed. -/
theorem Tracked.committedRows_perform
    {store : MemoryStore}
    (tracked : store.Tracked)
    {table : TableId}
    (known : (store.schema.table? table).isSome)
    {action : Action}
    (notCommit : action ≠ .commit) :
    (store.perform action).committedRows table =
      store.committedRows table := by
  by_cases rolledBack : action = .rollback
  · rw [rolledBack]
    rfl
  · rcases tracked.booked known notCommit rolledBack with ⟨-, -, -, -, kept⟩
    exact kept

theorem Tracked.committedRows_performAll
    {store : MemoryStore}
    (tracked : store.Tracked)
    {table : TableId}
    (known : (store.schema.table? table).isSome)
    {actions : List Action}
    (noCommit : Action.commit ∉ actions) :
    (store.performAll actions).committedRows table =
      store.committedRows table := by
  induction actions generalizing store with
  | nil =>
      rfl
  | cons action actions ih =>
      rw [List.mem_cons, not_or] at noCommit
      rw [performAll_cons,
        ih (tracked.perform action) (by rwa [schema_perform]) noCommit.2,
        tracked.committedRows_perform known (Ne.symm noCommit.1)]

/-! ## The balance of a run -/

/-- The buffered change of a table that an action throws away. -/
def droppedBy (store : MemoryStore) (table : TableId) : Action → Int
  | .rollback => (store.session.netChange table).toInt
  | _ => 0

/-- The sum of the changes of a table that the rollbacks of a run threw away. -/
def discarded (store : MemoryStore) (table : TableId) : List Action → Int
  | [] => 0
  | action :: actions =>
      store.droppedBy table action +
        (store.perform action).discarded table actions

/--
The exact count of a table, as a 64-bit number, is the number of its stored
rows less what was discarded.  After so few steps that no count can overflow,
neither the buffered change nor the rest of the count exceeds their number.
-/
structure Balanced
    (store : MemoryStore)
    (table : TableId)
    (discarded : Int)
    (steps : Nat) :
    Prop where
  counted :
    store.exactRows table =
      Int64.ofInt (store.storedRows table - discarded)
  bounded :
    steps < 9223372036854775808 →
      (store.session.netChange table).toInt.natAbs +
          (store.storedRows table - discarded -
            (store.session.netChange table).toInt).natAbs ≤
        steps

theorem discarded_eq_zero
    {store : MemoryStore}
    {table : TableId}
    {actions : List Action}
    (noRollback : Action.rollback ∉ actions) :
    store.discarded table actions = 0 := by
  induction actions generalizing store with
  | nil =>
      rfl
  | cons action actions ih =>
      rw [List.mem_cons, not_or] at noRollback
      have nothing : store.droppedBy table action = 0 := by
        cases action with
        | rollback =>
            exact (noRollback.1 rfl).elim
        | write | delete | commit | register =>
            rfl
      rw [discarded, nothing, ih noRollback.2]
      rfl

theorem toInt_add_ofInt
    {number : Int64}
    {moved : Int}
    (lower : -9223372036854775808 ≤ number.toInt + moved)
    (upper : number.toInt + moved < 9223372036854775808) :
    (number + Int64.ofInt moved).toInt = number.toInt + moved := by
  have asOne :
      number + Int64.ofInt moved = Int64.ofInt (number.toInt + moved) := by
    rw [Int64.ofInt_add, Int64.ofInt_toInt]
  rw [asOne, Int64.toInt_ofInt_of_le (by omega) (by omega)]

theorem Balanced.perform
    {store : MemoryStore}
    {table : TableId}
    {discarded : Int}
    {steps : Nat}
    (balanced : store.Balanced table discarded steps)
    (tracked : store.Tracked)
    (known : (store.schema.table? table).isSome)
    (action : Action) :
    (store.perform action).Balanced table
      (discarded + store.droppedBy table action) (steps + 1) := by
  have counted := balanced.counted
  by_cases commit : action = .commit
  · subst commit
    constructor
    · change (store.perform .commit).committedRows table + 0 =
        Int64.ofInt (store.storedRows table - (discarded + 0))
      rw [tracked.committedRows_commit known, Int64.add_zero, Int.add_zero,
        counted]
    · intro few
      have bounded := balanced.bounded (by omega)
      change (0 : Int64).toInt.natAbs +
        (store.storedRows table - (discarded + 0) -
          (0 : Int64).toInt).natAbs ≤ steps + 1
      rw [Int64.toInt_zero]
      omega
  · by_cases rollback : action = .rollback
    · subst rollback
      constructor
      · change store.committedRows table + 0 =
          Int64.ofInt (store.storedRows table -
            (discarded + (store.session.netChange table).toInt))
        rw [← Int.sub_sub, Int64.ofInt_sub, ← counted, Int64.ofInt_toInt,
          exactRows]
        grind
      · intro few
        have bounded := balanced.bounded (by omega)
        change (0 : Int64).toInt.natAbs +
          (store.storedRows table -
            (discarded + (store.session.netChange table).toInt) -
              (0 : Int64).toInt).natAbs ≤ steps + 1
        rw [Int64.toInt_zero]
        omega
    · rcases tracked.booked known commit rollback with
        ⟨moved, small, stored, buffered, committed⟩
      have nothing : store.droppedBy table action = 0 := by
        cases action with
        | rollback =>
            exact (rollback rfl).elim
        | write | delete | commit | register =>
            rfl
      rw [nothing, Int.add_zero]
      constructor
      · have moves :
            (store.storedRows table + moved - discarded : Int) =
              store.storedRows table - discarded + moved := by
          omega
        rw [exactRows, committed, buffered, stored, moves, Int64.ofInt_add,
          ← counted, exactRows, Int64.add_assoc]
      · intro few
        have bounded := balanced.bounded (by omega)
        rw [buffered, stored,
          toInt_add_ofInt (by omega) (by omega)]
        omega

theorem Balanced.performAll
    {store : MemoryStore}
    {table : TableId}
    {discarded : Int}
    {steps : Nat}
    (balanced : store.Balanced table discarded steps)
    (tracked : store.Tracked)
    (known : (store.schema.table? table).isSome)
    (actions : List Action) :
    (store.performAll actions).Balanced table
      (discarded + store.discarded table actions)
      (steps + actions.length) := by
  induction actions generalizing store discarded steps with
  | nil =>
      simpa [MemoryStore.discarded] using balanced
  | cons action actions ih =>
      have run :=
        ih (balanced.perform tracked known action) (tracked.perform action)
          (by rwa [schema_perform])
      rw [Int.add_assoc, Nat.add_right_comm] at run
      exact run

/-- A count that did not overflow is the number of stored rows less what was discarded. -/
theorem Balanced.toInt_exactRows
    {store : MemoryStore}
    {table : TableId}
    {discarded : Int}
    {steps : Nat}
    (balanced : store.Balanced table discarded steps)
    (few : steps < 9223372036854775808) :
    (store.exactRows table).toInt = store.storedRows table - discarded := by
  have bounded := balanced.bounded few
  rw [balanced.counted, Int64.toInt_ofInt_of_le (by omega) (by omega)]

theorem committedRows_create
    (schema : Schema)
    (sessionId : String)
    (countMode : CountMode)
    {table : TableId}
    (known : (schema.table? table).isSome) :
    (create schema {} sessionId countMode).1.committedRows table = 0 := by
  rw [committedRows, statusOf?_create schema sessionId countMode known]

/-- A new store is balanced: it holds no rows and counts none. -/
theorem balanced_create
    (schema : Schema)
    (sessionId : String)
    (countMode : CountMode)
    {table : TableId}
    (known : (schema.table? table).isSome) :
    (create schema {} sessionId countMode).1.Balanced table 0 0 := by
  have empty :
      (create schema {} sessionId countMode).1.storedRows table = 0 := by
    apply List.countP_eq_zero.2
    intro entry member
    rcases List.mem_flatMap.1 member with ⟨group, listed, inside⟩
    rcases List.mem_map.1 (SortedMap.mem_of_mem_ofList listed) with
      ⟨groupTable, -, same⟩
    cases same
    cases inside
  constructor
  · rw [exactRows, committedRows_create schema sessionId countMode known,
      empty]
    rfl
  · intro few
    rw [empty]
    change (0 : Int64).toInt.natAbs + (0 - 0 - (0 : Int64).toInt).natAbs ≤ 0
    decide

end MemoryStore

end HierQuery
