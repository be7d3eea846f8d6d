import HierQuery.Proofs.Store.Registry
import HierQuery.Store.Memory

/-!
# Runs of a memory store

A store is used through its actions: rows are written and deleted, counts
are committed or rolled back, and virtual tables are registered.  This module
says once what an action can do, and derives from it what every run keeps:
each row lies under its own key in the group of its table, and each table of
the schema has a stored status.
-/

namespace HierQuery.MemoryStore

/-- What may be done with a store. -/
inductive Action
  | write (row : Row)
  | delete (key : HKey)
  | commit
  | rollback
  /-- Registers a virtual table. -/
  | register (table : TableId) (source : RowSource)
deriving DecidableEq

/-- The store after an action, whether or not the action succeeded. -/
def perform (store : MemoryStore) : Action → MemoryStore
  | .write row => (store.writeRow row).2
  | .delete key => (store.deleteRow key).2
  | .commit => store.commit.1
  | .rollback => store.rollback.1
  | .register table source =>
      { store with
        statuses := (store.statuses.createVirtual table source).2.1 }

/-- The store after a run of actions. -/
def performAll (store : MemoryStore) (actions : List Action) : MemoryStore :=
  actions.foldl perform store

@[simp]
theorem performAll_nil (store : MemoryStore) :
    store.performAll [] = store :=
  rfl

@[simp]
theorem performAll_cons
    (store : MemoryStore)
    (action : Action)
    (actions : List Action) :
    store.performAll (action :: actions) =
      (store.perform action).performAll actions :=
  rfl

@[simp]
theorem performAll_append
    (store : MemoryStore)
    (first second : List Action) :
    store.performAll (first ++ second) =
      (store.performAll first).performAll second :=
  List.foldl_append

/-! ## What an action can do -/

theorem groupRowsOf_eq_ok
    {store : MemoryStore}
    {table : TableId}
    {group : GroupId}
    {rows : GroupRows}
    (found : store.groupRowsOf table = .ok (group, rows)) :
    (∃ groupTable,
      store.schema.groupOf? table = some groupTable ∧
        groupTable.id = group) ∧
      store.groups.get? group = some rows := by
  unfold groupRowsOf rowsIn at found
  split at found
  next =>
    cases found
  next groupTable itsGroup =>
    split at found
    next foundRows stored =>
      cases found
      exact ⟨⟨groupTable, itsGroup, rfl⟩, stored⟩
    next =>
      cases found

/-- The place in a store where the rows of a table are kept, next to a key of the table. -/
structure Spot (store : MemoryStore) (key : HKey) where
  table : TableId
  group : GroupId
  rows : GroupRows
  named : key.table? = some table
  grouped :
    ∃ groupTable,
      store.schema.groupOf? table = some groupTable ∧
        groupTable.id = group
  stored : store.groups.get? group = some rows

/-- Puts other rows in the group of a spot and counts rows for its table. -/
def Spot.recount
    {store : MemoryStore}
    {key : HKey}
    (spot : store.Spot key)
    (rows : GroupRows)
    (count : Int64) :
    Except ExecError Unit × MemoryStore :=
  (store.withRows spot.group rows).countRows spot.table count

/-- The store with other rows in the group of a spot, and with rows counted for its table. -/
def Spot.replace
    {store : MemoryStore}
    {key : HKey}
    (spot : store.Spot key)
    (rows : GroupRows)
    (count : Int64) :
    MemoryStore :=
  (spot.recount rows count).2

/-- A row is either refused, or it is stored under its key, which was free, and counted. -/
theorem writeRow_cases
    (store : MemoryStore)
    (row : Row) :
    (∃ error, store.writeRow row = (.error error, store)) ∨
      ∃ key, ∃ spot : store.Spot key,
        row.key? = some key ∧
          spot.rows.contains key = false ∧
            store.writeRow row =
              spot.recount (spot.rows.insert key row) 1 := by
  rw [writeRow]
  split
  next key table itsKey itsTable =>
    split
    next error _ =>
      exact .inl ⟨error, rfl⟩
    next group rows found =>
      split
      next =>
        exact .inl ⟨_, rfl⟩
      next absent =>
        rcases groupRowsOf_eq_ok found with ⟨grouped, stored⟩
        have named : key.table? = some table :=
          (row.placed key itsKey).2.trans itsTable
        exact .inr
          ⟨key, ⟨table, group, rows, named, grouped, stored⟩, itsKey,
            by simpa using absent, rfl⟩
  next =>
    exact .inl ⟨_, rfl⟩

/-- A deletion finds no row, or it removes the row at the key and counts that. -/
theorem deleteRow_cases
    (store : MemoryStore)
    (key : HKey) :
    (∃ answer, store.deleteRow key = (answer, store)) ∨
      ∃ spot : store.Spot key,
        spot.rows.contains key = true ∧
          store.deleteRow key =
            ((spot.recount (spot.rows.erase key) (-1)).1.map fun () => true,
              spot.replace (spot.rows.erase key) (-1)) := by
  rw [deleteRow]
  split
  next =>
    exact .inl ⟨_, rfl⟩
  next table named =>
    split
    next =>
      exact .inl ⟨_, rfl⟩
    next group rows found =>
      split
      next present =>
        rcases groupRowsOf_eq_ok found with ⟨grouped, stored⟩
        exact .inr
          ⟨⟨table, group, rows, named, grouped, stored⟩, present, rfl⟩
      next =>
        exact .inl ⟨_, rfl⟩

theorem perform_write
    (store : MemoryStore)
    (row : Row) :
    store.perform (.write row) = store ∨
      ∃ key, ∃ spot : store.Spot key,
        row.key? = some key ∧
          spot.rows.contains key = false ∧
            store.perform (.write row) =
              spot.replace (spot.rows.insert key row) 1 := by
  rcases store.writeRow_cases row with
    ⟨error, refused⟩ | ⟨key, spot, itsKey, absent, written⟩
  · exact .inl (congrArg Prod.snd refused)
  · exact .inr ⟨key, spot, itsKey, absent, congrArg Prod.snd written⟩

theorem perform_delete
    (store : MemoryStore)
    (key : HKey) :
    store.perform (.delete key) = store ∨
      ∃ spot : store.Spot key,
        spot.rows.contains key = true ∧
          store.perform (.delete key) =
            spot.replace (spot.rows.erase key) (-1) := by
  rcases store.deleteRow_cases key with
    ⟨answer, refused⟩ | ⟨spot, present, deleted⟩
  · exact .inl (congrArg Prod.snd refused)
  · exact .inr ⟨spot, present, congrArg Prod.snd deleted⟩

theorem countRows_frame
    (store : MemoryStore)
    (table : TableId)
    (count : Int64) :
    (store.countRows table count).2 =
      { store with session := (store.countRows table count).2.session } := by
  rw [countRows]
  split <;> rfl

namespace Spot

variable {store : MemoryStore} {key : HKey}

@[simp]
theorem schema_replace
    (spot : store.Spot key)
    (rows : GroupRows)
    (count : Int64) :
    (spot.replace rows count).schema = store.schema := by
  rw [replace, recount, countRows_frame]
  rfl

@[simp]
theorem groups_replace
    (spot : store.Spot key)
    (rows : GroupRows)
    (count : Int64) :
    (spot.replace rows count).groups =
      store.groups.insert spot.group rows := by
  rw [replace, recount, countRows_frame]
  rfl

@[simp]
theorem statuses_replace
    (spot : store.Spot key)
    (rows : GroupRows)
    (count : Int64) :
    (spot.replace rows count).statuses = store.statuses := by
  rw [replace, recount, countRows_frame]
  rfl

@[simp]
theorem countMode_replace
    (spot : store.Spot key)
    (rows : GroupRows)
    (count : Int64) :
    (spot.replace rows count).countMode = store.countMode := by
  rw [replace, recount, countRows_frame]
  rfl

end Spot

/-- An action leaves all rows alone, or it puts or removes a row at one spot. -/
theorem perform_cases
    (store : MemoryStore)
    (action : Action) :
    (store.perform action).groups = store.groups ∧
        (store.perform action).schema = store.schema ∨
      ∃ key, ∃ spot : store.Spot key, ∃ rows count,
        store.perform action = spot.replace rows count ∧
          ((∃ row, row.key? = some key ∧ rows = spot.rows.insert key row) ∨
            rows = spot.rows.erase key) := by
  cases action with
  | write row =>
      rcases store.perform_write row with
        refused | ⟨key, spot, itsKey, -, written⟩
      · exact .inl (by rw [refused]; exact ⟨rfl, rfl⟩)
      · exact .inr ⟨key, spot, _, _, written, .inl ⟨row, itsKey, rfl⟩⟩
  | delete key =>
      rcases store.perform_delete key with refused | ⟨spot, -, deleted⟩
      · exact .inl (by rw [refused]; exact ⟨rfl, rfl⟩)
      · exact .inr ⟨key, spot, _, _, deleted, .inr rfl⟩
  | commit =>
      exact .inl ⟨rfl, rfl⟩
  | rollback =>
      exact .inl ⟨rfl, rfl⟩
  | register table source =>
      exact .inl ⟨rfl, rfl⟩

@[simp]
theorem schema_perform
    (store : MemoryStore)
    (action : Action) :
    (store.perform action).schema = store.schema := by
  rcases store.perform_cases action with
    ⟨-, kept⟩ | ⟨key, spot, rows, count, replaced, -⟩
  · exact kept
  · rw [replaced, spot.schema_replace]

@[simp]
theorem schema_performAll
    (store : MemoryStore)
    (actions : List Action) :
    (store.performAll actions).schema = store.schema := by
  induction actions generalizing store with
  | nil =>
      rfl
  | cons action actions ih =>
      rw [performAll_cons, ih, schema_perform]

@[simp]
theorem countMode_perform
    (store : MemoryStore)
    (action : Action) :
    (store.perform action).countMode = store.countMode := by
  cases action with
  | write row =>
      rcases store.perform_write row with refused | ⟨key, spot, -, -, written⟩
      · rw [refused]
      · rw [written, spot.countMode_replace]
  | delete key =>
      rcases store.perform_delete key with refused | ⟨spot, -, deleted⟩
      · rw [refused]
      · rw [deleted, spot.countMode_replace]
  | commit | rollback | register =>
      rfl

@[simp]
theorem countMode_performAll
    (store : MemoryStore)
    (actions : List Action) :
    (store.performAll actions).countMode = store.countMode := by
  induction actions generalizing store with
  | nil =>
      rfl
  | cons action actions ih =>
      rw [performAll_cons, ih, countMode_perform]

/-- What an action preserves, a run of actions preserves. -/
theorem performAll_preserves
    {kept : MemoryStore → Prop}
    (step : ∀ store action, kept store → kept (store.perform action))
    {store : MemoryStore}
    (start : kept store)
    (actions : List Action) :
    kept (store.performAll actions) := by
  induction actions generalizing store with
  | nil =>
      exact start
  | cons action actions ih =>
      exact ih (step store action start)

/-! ## Where the rows lie -/

/-- A group of the store belongs to the table of each key in it, and rows lie under their keys. -/
structure PlacedRow
    (schema : Schema)
    (group : GroupId)
    (key : HKey)
    (row : Row) :
    Prop where
  itsKey : row.key? = some key
  itsGroup :
    ∃ table groupTable,
      key.table? = some table ∧
        schema.groupOf? table = some groupTable ∧
          groupTable.id = group

/-- Each group of the schema has rows, and each row lies in its place. -/
structure Placed (store : MemoryStore) : Prop where
  groups :
    ∀ group ∈ store.schema.groups, store.groups.contains group.id
  rows :
    ∀ group rows, (group, rows) ∈ store.groups.entries →
      ∀ key row, (key, row) ∈ rows.entries →
        PlacedRow store.schema group key row

theorem placed_create
    (schema : Schema)
    (statuses : StatusRegistry)
    (sessionId : String)
    (countMode : CountMode) :
    (create schema statuses sessionId countMode).1.Placed where
  groups := by
    intro group member
    apply SortedMap.contains_ofList.2
    exact ⟨(group.id, .empty), List.mem_map.2 ⟨group, member, rfl⟩, rfl⟩
  rows := by
    intro group rows member key row inside
    have listed := SortedMap.mem_of_mem_ofList member
    rcases List.mem_map.1 listed with ⟨groupTable, -, same⟩
    cases same
    cases inside

theorem Placed.perform
    {store : MemoryStore}
    (placed : store.Placed)
    (action : Action) :
    (store.perform action).Placed := by
  rcases store.perform_cases action with
    ⟨sameGroups, sameSchema⟩ | ⟨key, spot, rows, count, replaced, change⟩
  · constructor
    · rw [sameGroups, sameSchema]
      exact placed.groups
    · rw [sameGroups, sameSchema]
      exact placed.rows
  · rw [replaced]
    constructor
    · intro group member
      rw [spot.schema_replace] at member
      rw [spot.groups_replace, SortedMap.contains_insert]
      exact .inr (placed.groups group member)
    · intro group others member otherKey otherRow inside
      rw [spot.groups_replace] at member
      rw [spot.schema_replace]
      rcases SortedMap.mem_insert.1 member with new | ⟨old, -⟩
      · cases new
        have oldRows :
            ∀ entry ∈ spot.rows.entries,
              PlacedRow store.schema spot.group entry.1 entry.2 :=
          fun entry =>
            placed.rows spot.group spot.rows
              (SortedMap.get?_eq_some_iff.1 spot.stored) entry.1 entry.2
        rcases change with ⟨row, itsKey, rfl⟩ | rfl
        · rcases SortedMap.mem_insert.1 inside with written | ⟨kept, -⟩
          · cases written
            rcases spot.grouped with ⟨groupTable, itsGroup, sameGroup⟩
            exact ⟨itsKey, spot.table, groupTable, spot.named, itsGroup,
              sameGroup⟩
          · exact oldRows _ kept
        · exact oldRows _ (SortedMap.mem_erase.1 inside).1
      · exact placed.rows group others old otherKey otherRow inside

theorem Placed.performAll
    {store : MemoryStore}
    (placed : store.Placed)
    (actions : List Action) :
    (store.performAll actions).Placed :=
  performAll_preserves (fun _ action kept => kept.perform action) placed
    actions

/-- The rows of a group, none if the store has no such group. -/
def groupRows (store : MemoryStore) (group : GroupId) : GroupRows :=
  (store.groups.get? group).getD .empty

theorem size_groupRows_le
    (store : MemoryStore)
    (group : GroupId) :
    (store.groupRows group).size ≤ store.size := by
  rw [groupRows]
  cases stored : store.groups.get? group with
  | none =>
      exact Nat.zero_le _
  | some rows =>
      have listed : rows.entries ∈ store.groups.entries.map fun group =>
          group.2.entries :=
        List.mem_map.2
          ⟨(group, rows), SortedMap.get?_eq_some_iff.1 stored, rfl⟩
      rw [size, List.flatMap_def]
      exact (List.sublist_flatten_of_mem listed).length_le

theorem Placed.row
    {store : MemoryStore}
    (placed : store.Placed)
    {group : GroupId}
    {key : HKey}
    {row : Row}
    (inside : (key, row) ∈ (store.groupRows group).entries) :
    PlacedRow store.schema group key row := by
  rw [groupRows] at inside
  cases stored : store.groups.get? group with
  | none =>
      rw [stored] at inside
      cases inside
  | some rows =>
      rw [stored] at inside
      exact placed.rows group rows (SortedMap.get?_eq_some_iff.1 stored) key
        row inside

/-! ## Which tables are counted -/

/-- Each table of the schema has a stored status, and no count was set in the session. -/
structure Tracked (store : MemoryStore) : Prop where
  registry : store.statuses.WellFormed
  stored :
    ∀ table, (store.schema.table? table).isSome →
      ∃ status, store.statuses.statusOf? table = some (.stored status)
  deltas :
    ∀ table change, store.session.pending? table = some change →
      change.setTo = none

/-- A registry in which exactly the given tables are registered, with nothing counted. -/
structure Fresh
    (statuses : StatusRegistry)
    (tables : List TableId) :
    Prop where
  registry : statuses.WellFormed
  status :
    ∀ table,
      statuses.statusOf? table =
        if table ∈ tables then some (.stored { table }) else none

theorem Fresh.createStored
    {statuses : StatusRegistry}
    {tables : List TableId}
    (fresh : Fresh statuses tables)
    (table : TableId) :
    Fresh (statuses.createStored table).2.1 (tables ++ [table]) where
  registry := fresh.registry.createStored table
  status := by
    intro other
    rw [fresh.registry.statusOf?_createStored, fresh.status]
    by_cases same : other = table
    · subst same
      by_cases known : other ∈ tables <;> simp [known]
    · simp [same]

theorem registerTables_fst
    (statuses : StatusRegistry)
    (tables : List TableId) :
    (registerTables statuses tables).1 =
      tables.foldl (fun statuses table => (statuses.createStored table).2.1)
        statuses := by
  rw [registerTables]
  generalize ([] : Log) = log
  induction tables generalizing statuses log with
  | nil =>
      rfl
  | cons head tail ih =>
      exact ih _ _

theorem Fresh.registerTables
    {statuses : StatusRegistry}
    {known : List TableId}
    (fresh : Fresh statuses known)
    (tables : List TableId) :
    Fresh (registerTables statuses tables).1 (known ++ tables) := by
  rw [registerTables_fst]
  induction tables generalizing statuses known with
  | nil =>
      simpa using fresh
  | cons head tail ih =>
      simpa using ih (fresh.createStored head)

/-- On an empty registry a new store has a status without rows for each table of its schema. -/
theorem statusOf?_create
    (schema : Schema)
    (sessionId : String)
    (countMode : CountMode)
    {table : TableId}
    (known : (schema.table? table).isSome) :
    (create schema {} sessionId countMode).1.statuses.statusOf? table =
      some (.stored { table }) := by
  have fresh : Fresh {} [] :=
    ⟨StatusRegistry.wellFormed_empty, fun _ => rfl⟩
  have listed : table ∈ schema.tables.filterMap RowType.table? := by
    rcases Option.isSome_iff_exists.1 known with ⟨rowType, found⟩
    refine List.mem_filterMap.2
      ⟨rowType, List.mem_of_find?_eq_some found, ?_⟩
    simpa using List.find?_some found
  refine ((fresh.registerTables
    (schema.tables.filterMap RowType.table?)).status table).trans ?_
  simp [listed]

theorem tracked_create
    (schema : Schema)
    (sessionId : String)
    (countMode : CountMode) :
    (create schema {} sessionId countMode).1.Tracked where
  registry :=
    (Fresh.registerTables
      ⟨StatusRegistry.wellFormed_empty, fun _ => rfl⟩ _ : Fresh _ ([] ++ _)).registry
  stored := fun _ known =>
    ⟨_, statusOf?_create schema sessionId countMode known⟩
  deltas := by
    intro table change buffered
    cases buffered

/-- Whatever a spot is given, the session afterwards buffers one more change of its table at most. -/
theorem Spot.session_replace
    {store : MemoryStore}
    {key : HKey}
    (spot : store.Spot key)
    (rows : GroupRows)
    (count : Int64) :
    (spot.replace rows count).session =
      match store.statuses.statusOf? spot.table with
      | some status => status.rowsWritten count store.session
      | none => store.session := by
  rw [replace, recount, countRows, status, withRows, StatusRegistry.status]
  cases store.statuses.statusOf? spot.table <;> rfl

theorem setTo_rowsWritten
    {status : TableStatus}
    {session : Session}
    (deltas :
      ∀ table change, session.pending? table = some change →
        change.setTo = none)
    (count : Int64)
    {table : TableId}
    {change : PendingCount}
    (buffered :
      (status.rowsWritten count session).pending? table = some change) :
    change.setTo = none := by
  cases status with
  | virtual status =>
      exact deltas table change buffered
  | stored status =>
      change (session.addRows status.table count).pending? table = _
        at buffered
      rw [Session.pending?_addRows] at buffered
      split at buffered
      next =>
        cases buffered
        cases before : session.pending? status.table with
        | none =>
            rfl
        | some earlier =>
            exact deltas status.table earlier before
      next =>
        exact deltas table change buffered

theorem Tracked.replace
    {store : MemoryStore}
    (tracked : store.Tracked)
    {key : HKey}
    (spot : store.Spot key)
    (rows : GroupRows)
    (count : Int64) :
    (spot.replace rows count).Tracked where
  registry := by
    rw [spot.statuses_replace]
    exact tracked.registry
  stored := by
    rw [spot.statuses_replace, spot.schema_replace]
    exact tracked.stored
  deltas := by
    intro table change buffered
    rw [spot.session_replace] at buffered
    split at buffered
    · exact setTo_rowsWritten tracked.deltas count buffered
    · exact tracked.deltas table change buffered

theorem Tracked.commit
    {store : MemoryStore}
    (tracked : store.Tracked) :
    (store.perform .commit).Tracked where
  registry := tracked.registry.commit store.session
  stored := by
    intro table known
    rcases tracked.stored table known with ⟨status, stored⟩
    have committed :
        (store.perform .commit).statuses.statusOf? table =
          (store.statuses.statusOf? table).map
            (StatusRegistry.settle (store.session.pending? table)) :=
      tracked.registry.statusOf?_commit store.session table
    rw [committed, stored]
    cases store.session.pending? table with
    | none =>
        exact ⟨status, rfl⟩
    | some change =>
        exact ⟨_, rfl⟩
  deltas := by
    intro table change buffered
    cases buffered

theorem Tracked.perform
    {store : MemoryStore}
    (tracked : store.Tracked)
    (action : Action) :
    (store.perform action).Tracked := by
  cases action with
  | write row =>
      rcases store.perform_write row with refused | ⟨key, spot, -, -, written⟩
      · rw [refused]
        exact tracked
      · rw [written]
        exact tracked.replace spot _ _
  | delete key =>
      rcases store.perform_delete key with refused | ⟨spot, -, deleted⟩
      · rw [refused]
        exact tracked
      · rw [deleted]
        exact tracked.replace spot _ _
  | commit =>
      exact tracked.commit
  | rollback =>
      refine ⟨tracked.registry, tracked.stored, ?_⟩
      intro table change buffered
      cases buffered
  | register table source =>
      refine ⟨tracked.registry.createVirtual table source, ?_,
        tracked.deltas⟩
      intro other known
      rcases tracked.stored other known with ⟨status, stored⟩
      exact ⟨status,
        tracked.registry.statusOf?_createVirtual table source stored⟩

theorem Tracked.performAll
    {store : MemoryStore}
    (tracked : store.Tracked)
    (actions : List Action) :
    (store.performAll actions).Tracked :=
  performAll_preserves (fun _ action kept => kept.perform action) tracked
    actions

/-! ## A small store -/

namespace Sample

def customer : RowType :=
  ⟨2, "customer", [⟨"id", .int⟩], .table ⟨⟨1⟩, none, ⟨1⟩⟩⟩

def order : RowType :=
  ⟨3, "order", [⟨"id", .int⟩], .table ⟨⟨2⟩, some ⟨1⟩, ⟨1⟩⟩⟩

/-- The group of the customers and their orders. -/
def group : GroupTable :=
  ⟨⟨1⟩, "customer_group", ⟨1⟩, [⟨1⟩, ⟨2⟩],
    ⟨1, "customer_group", [], .group ⟨1⟩⟩⟩

def schema : Schema where
  lastTypeId := 3
  lastTableId := 2
  lastGroupId := 1
  tables := [customer, order]
  groups := [group]

/-- The row of the first customer. -/
def customerRow : Row where
  rowType := customer
  key? := some (.root ⟨1⟩ [.int 1])
  values := [.int 1]
  arity := rfl
  placed := by
    intro key same
    cases same
    exact ⟨rfl, rfl⟩

/-- The row of an order of the first customer. -/
def orderRow : Row where
  rowType := order
  key? := some ((HKey.root ⟨1⟩ [.int 1]).child ⟨2⟩ [.int 7])
  values := [.int 7]
  arity := rfl
  placed := by
    intro key same
    cases same
    exact ⟨rfl, rfl⟩

/-- No virtual table has rows. -/
def sources : SourceRows :=
  fun _ => 0

end Sample

end HierQuery.MemoryStore
