import HierQuery.Fixture.Load
import HierQuery.Proofs.Store.Ledger
import Mathlib.Data.List.Nodup

/-!
# Writing many rows

Rows of the tables of a schema are stored one after another.  This goes well
exactly as long as no key is taken, and the first row whose key is taken ends
it.  Two rows may be written in either order, so the store that many rows
leave behind does not depend on their order.
-/

namespace HierQuery

/-- Rows counted for two tables may be counted in either order. -/
theorem Session.addRows_comm
    (session : Session)
    (first second : TableId)
    (count other : Int64) :
    (session.addRows first count).addRows second other =
      (session.addRows second other).addRows first count := by
  by_cases same : first = second
  · subst same
    simp only [addRows, pending?, SortedMap.get?_insert,
      Std.ReflOrd.compare_self, if_true, Option.getD_some,
      SortedMap.insert_insert, Int64.add_assoc, Int64.add_comm count]
  · have notEqual : compare first second ≠ .eq := fun equal =>
      same (Std.LawfulEqOrd.eq_of_compare equal)
    have notEqual' : compare second first ≠ .eq := fun equal =>
      same (Std.LawfulEqOrd.eq_of_compare equal).symm
    simp only [addRows, pending?, SortedMap.get?_insert, if_neg notEqual,
      if_neg notEqual', SortedMap.insert_comm _ same]

theorem Schema.mem_groups_of_groupOf?
    {schema : Schema}
    {table : TableId}
    {group : GroupTable}
    (itsGroup : schema.groupOf? table = some group) :
    group ∈ schema.groups := by
  rcases Option.bind_eq_some_iff.1 itsGroup with ⟨rowType, -, rest⟩
  rcases Option.bind_eq_some_iff.1 rest with ⟨placement, -, found⟩
  exact List.mem_of_find?_eq_some found

namespace MemoryStore

/-! ## One row -/

/-- The store with a row more at a spot. -/
def Spot.filled
    {store : MemoryStore}
    {key : HKey}
    (spot : store.Spot key)
    (row : Row) :
    MemoryStore :=
  { store with
    groups := store.groups.insert spot.group (spot.rows.insert key row)
    session := store.session.addRows spot.table 1 }

theorem Tracked.recount_insert
    {store : MemoryStore}
    (tracked : store.Tracked)
    {key : HKey}
    (spot : store.Spot key)
    (row : Row) :
    spot.recount (spot.rows.insert key row) 1 = (.ok (), spot.filled row) := by
  rcases tracked.stored_of_spot spot with ⟨status, registered, itsTable⟩
  have found :
      (store.withRows spot.group (spot.rows.insert key row)).status
          spot.table =
        .ok (.stored status) := by
    rw [MemoryStore.status, StatusRegistry.status, withRows, registered]
    rfl
  rw [Spot.recount, countRows, found, Spot.filled, ← itsTable]
  rfl

theorem Spot.groupRowsOf_table
    {store : MemoryStore}
    {key : HKey}
    (spot : store.Spot key) :
    store.groupRowsOf spot.table = .ok (spot.group, spot.rows) := by
  rcases spot.grouped with ⟨groupTable, itsGroup, sameGroup⟩
  rw [groupRowsOf, itsGroup]
  dsimp only
  rw [rowsIn, sameGroup, spot.stored]
  rfl

/-- A row is refused if its key is taken, and else it is stored and counted. -/
theorem Tracked.writeRow_at
    {store : MemoryStore}
    (tracked : store.Tracked)
    {key : HKey}
    (spot : store.Spot key)
    {row : Row}
    (itsKey : row.key? = some key) :
    store.writeRow row =
      if spot.rows.contains key then
        (.error (.ofStorage (.duplicateKey key.render)), store)
      else
        (.ok (), spot.filled row) := by
  have itsTable : row.rowType.table? = some spot.table :=
    (row.placed key itsKey).2.symm.trans spot.named
  rw [writeRow, itsKey, itsTable]
  dsimp only
  rw [spot.groupRowsOf_table]
  dsimp only
  rw [← tracked.recount_insert spot row]
  rfl

/-- A row that was stored had a free key in the group of its table. -/
theorem Tracked.writeRow_eq_ok_iff
    {store written : MemoryStore}
    (tracked : store.Tracked)
    {row : Row} :
    store.writeRow row = (.ok (), written) ↔
      ∃ key, ∃ spot : store.Spot key,
        row.key? = some key ∧
          spot.rows.contains key = false ∧ written = spot.filled row := by
  constructor
  · intro ok
    rcases store.writeRow_cases row with
      ⟨error, refused⟩ | ⟨key, spot, itsKey, free, stored⟩
    · cases refused.symm.trans ok
    · rw [tracked.recount_insert spot row] at stored
      cases stored.symm.trans ok
      exact ⟨key, spot, itsKey, free, rfl⟩
  · rintro ⟨key, spot, itsKey, free, rfl⟩
    rw [tracked.writeRow_at spot itsKey, free]
    rfl

theorem Tracked.writeRow
    {store written : MemoryStore}
    (tracked : store.Tracked)
    {row : Row}
    (ok : store.writeRow row = (.ok (), written)) :
    written.Tracked := by
  have performed : store.perform (.write row) = written :=
    congrArg Prod.snd ok
  exact performed ▸ tracked.perform (.write row)

/-! ## The order of rows -/

theorem Tracked.exists_writeRow_pair
    {store : MemoryStore}
    (tracked : store.Tracked)
    {first second : Row}
    {key other : HKey}
    {spot : store.Spot key}
    {next : (spot.filled first).Spot other}
    (firstKey : first.key? = some key)
    (secondKey : second.key? = some other)
    (free : spot.rows.contains key = false)
    (nextFree : next.rows.contains other = false) :
    ∃ between,
      store.writeRow first = (.ok (), between) ∧
        between.writeRow second = (.ok (), next.filled second) := by
  have firstOk : store.writeRow first = (.ok (), spot.filled first) :=
    tracked.writeRow_eq_ok_iff.2 ⟨key, spot, firstKey, free, rfl⟩
  exact ⟨_, firstOk,
    (tracked.writeRow firstOk).writeRow_eq_ok_iff.2
      ⟨other, next, secondKey, nextFree, rfl⟩⟩

/-- Of two rows that can be stored one after the other, the other one may come first. -/
theorem Tracked.writeRow_swap
    {store between written : MemoryStore}
    (tracked : store.Tracked)
    {first second : Row}
    (firstOk : store.writeRow first = (.ok (), between))
    (secondOk : between.writeRow second = (.ok (), written)) :
    ∃ between,
      store.writeRow second = (.ok (), between) ∧
        between.writeRow first = (.ok (), written) := by
  have trackedBetween := tracked.writeRow firstOk
  rcases tracked.writeRow_eq_ok_iff.1 firstOk with
    ⟨key, spot, itsKey, free, rfl⟩
  rcases trackedBetween.writeRow_eq_ok_iff.1 secondOk with
    ⟨other, spot', otherKey, otherFree, rfl⟩
  have stored :
      (store.groups.insert spot.group (spot.rows.insert key first)).get?
          spot'.group =
        some spot'.rows :=
    spot'.stored
  rw [SortedMap.get?_insert] at stored
  simp only [Std.LawfulEqOrd.compare_eq_iff_eq] at stored
  by_cases sameGroup : spot'.group = spot.group
  · -- Both rows lie in one group: their keys differ, as the second one was free.
    rw [if_pos sameGroup] at stored
    have rows : spot'.rows = spot.rows.insert key first :=
      (Option.some.inj stored).symm
    rw [rows, Bool.eq_false_iff, ne_eq, SortedMap.contains_insert,
      not_or] at otherFree
    rcases otherFree with ⟨different, otherFree⟩
    let early : store.Spot other :=
      ⟨spot'.table, spot.group, spot.rows, spot'.named,
        sameGroup ▸ spot'.grouped, spot.stored⟩
    let late : (early.filled second).Spot key :=
      ⟨spot.table, spot.group, spot.rows.insert other second, spot.named,
        spot.grouped, by simp [early, Spot.filled]⟩
    have lateFree : late.rows.contains key = false := by
      apply Bool.eq_false_iff.2
      rw [ne_eq, SortedMap.contains_insert, free]
      simp [Ne.symm different]
    have same : late.filled first = spot'.filled second := by
      simp only [Spot.filled, early, late, rows, sameGroup,
        SortedMap.insert_insert, SortedMap.insert_comm _ different,
        Session.addRows_comm _ spot'.table]
    rw [← same]
    exact tracked.exists_writeRow_pair otherKey itsKey
      (by simpa using otherFree) lateFree
  · rw [if_neg sameGroup] at stored
    let early : store.Spot other :=
      ⟨spot'.table, spot'.group, spot'.rows, spot'.named, spot'.grouped,
        stored⟩
    let late : (early.filled second).Spot key :=
      ⟨spot.table, spot.group, spot.rows, spot.named, spot.grouped, by
        simp [early, Spot.filled, Ne.symm sameGroup, spot.stored]⟩
    have same : late.filled first = spot'.filled second := by
      simp only [Spot.filled, early, late,
        SortedMap.insert_comm _ sameGroup,
        Session.addRows_comm _ spot'.table]
    rw [← same]
    exact tracked.exists_writeRow_pair otherKey itsKey otherFree free

theorem writeRows_cons_eq_ok_iff
    {store written : MemoryStore}
    {row : Row}
    {rows : List Row} :
    store.writeRows (row :: rows) = (.ok (), written) ↔
      ∃ next,
        store.writeRow row = (.ok (), next) ∧
          next.writeRows rows = (.ok (), written) := by
  rw [writeRows]
  rcases store.writeRow row with ⟨_ | _, next⟩ <;> simp

/-- Rows that can all be stored may come in any order, and leave the same store behind. -/
theorem Tracked.writeRows_perm
    {store written : MemoryStore}
    (tracked : store.Tracked)
    {rows others : List Row}
    (reordered : rows.Perm others)
    (ok : store.writeRows rows = (.ok (), written)) :
    store.writeRows others = (.ok (), written) := by
  induction reordered generalizing store with
  | nil =>
      exact ok
  | cons row _ ih =>
      rcases writeRows_cons_eq_ok_iff.1 ok with ⟨next, first, rest⟩
      exact writeRows_cons_eq_ok_iff.2
        ⟨next, first, ih (tracked.writeRow first) rest⟩
  | swap second first rows =>
      rcases writeRows_cons_eq_ok_iff.1 ok with ⟨one, firstOk, rest⟩
      rcases writeRows_cons_eq_ok_iff.1 rest with ⟨two, secondOk, rest⟩
      rcases tracked.writeRow_swap firstOk secondOk with
        ⟨other, swapped, swappedToo⟩
      exact writeRows_cons_eq_ok_iff.2
        ⟨other, swapped, writeRows_cons_eq_ok_iff.2 ⟨two, swappedToo, rest⟩⟩
  | trans _ _ first second =>
      exact second tracked (first tracked ok)

/-! ## Many rows -/

theorem performAll_of_writeRows
    {store written : MemoryStore}
    {rows : List Row}
    (ok : store.writeRows rows = (.ok (), written)) :
    store.performAll (rows.map .write) = written := by
  induction rows generalizing store with
  | nil =>
      cases ok
      rfl
  | cons row rows ih =>
      rcases writeRows_cons_eq_ok_iff.1 ok with ⟨next, first, rest⟩
      have performed : store.perform (.write row) = next :=
        congrArg Prod.snd first
      rw [List.map_cons, performAll_cons, performed, ih rest]

/-- The rows of the groups after one row more. -/
theorem groupRows_filled
    {store : MemoryStore}
    {key : HKey}
    (spot : store.Spot key)
    (row : Row)
    (group : GroupId) :
    (spot.filled row).groupRows group =
      if group = spot.group then
        (store.groupRows group).insert key row
      else
        store.groupRows group := by
  rw [groupRows, groupRows, Spot.filled, SortedMap.get?_insert]
  simp only [Std.LawfulEqOrd.compare_eq_iff_eq]
  split
  next same =>
    rw [same, spot.stored]
    rfl
  next =>
    rfl

theorem groupRows_spot
    {store : MemoryStore}
    {key : HKey}
    (spot : store.Spot key) :
    store.groupRows spot.group = spot.rows := by
  rw [groupRows, spot.stored]
  rfl

/-- A row of a table of the schema has a spot in any store for the schema. -/
theorem Placed.exists_spot
    {store : MemoryStore}
    (placed : store.Placed)
    {group : GroupId}
    {key : HKey}
    {row : Row}
    (place : PlacedRow store.schema group key row) :
    ∃ spot : store.Spot key, spot.group = group := by
  rcases place.itsGroup with ⟨table, groupTable, named, itsGroup, rfl⟩
  have known := Schema.mem_groups_of_groupOf? itsGroup
  rcases Option.isSome_iff_exists.1 (placed.groups groupTable known) with
    ⟨rows, stored⟩
  exact ⟨⟨table, groupTable.id, rows, named, ⟨groupTable, itsGroup, rfl⟩,
    stored⟩, rfl⟩

/-- All rows with a key lie in the group where the key has its spot. -/
theorem placedRow_of_spot
    {store : MemoryStore}
    {key : HKey}
    (spot : store.Spot key)
    {row : Row}
    (itsKey : row.key? = some key) :
    PlacedRow store.schema spot.group key row := by
  rcases spot.grouped with ⟨groupTable, itsGroup, sameGroup⟩
  exact ⟨itsKey, spot.table, groupTable, spot.named, itsGroup, sameGroup⟩

theorem PlacedRow.group_eq
    {schema : Schema}
    {group other : GroupId}
    {key : HKey}
    {row sibling : Row}
    (place : PlacedRow schema group key row)
    (otherPlace : PlacedRow schema other key sibling) :
    group = other := by
  rcases place.itsGroup with ⟨table, groupTable, named, itsGroup, rfl⟩
  rcases otherPlace.itsGroup with
    ⟨table', groupTable', named', itsGroup', rfl⟩
  cases Option.some.inj (named.symm.trans named')
  cases Option.some.inj (itsGroup.symm.trans itsGroup')
  rfl

/-- After one row more a group holds what it held before, and that row if it lies there. -/
theorem mem_groupRows_filled
    {store : MemoryStore}
    {key : HKey}
    (spot : store.Spot key)
    {row : Row}
    (itsKey : row.key? = some key)
    (free : spot.rows.contains key = false)
    {group : GroupId}
    {other : HKey}
    {stored : Row} :
    (other, stored) ∈ ((spot.filled row).groupRows group).entries ↔
      (other, stored) ∈ (store.groupRows group).entries ∨
        stored = row ∧ PlacedRow store.schema group other stored := by
  have place := placedRow_of_spot spot itsKey
  have isNew :
      stored = row ∧ PlacedRow store.schema group other stored ↔
        group = spot.group ∧ (other, stored) = (key, row) := by
    constructor
    · rintro ⟨rfl, lies⟩
      cases Option.some.inj (lies.itsKey.symm.trans itsKey)
      exact ⟨lies.group_eq place, rfl⟩
    · rintro ⟨rfl, same⟩
      cases same
      exact ⟨rfl, place⟩
  rw [isNew, groupRows_filled]
  split
  next same =>
    have kept :
        (other, stored) ∈ (store.groupRows group).entries → other ≠ key := by
      rintro inside rfl
      rw [same, groupRows_spot] at inside
      rw [SortedMap.contains_iff.2 ⟨stored, inside⟩] at free
      cases free
    rw [SortedMap.mem_insert, or_comm, and_iff_left_of_imp kept,
      and_iff_right same]
  next other =>
    simp [other]

/-- After many rows a group holds what it held before and those of the rows that lie in it. -/
theorem Tracked.mem_groupRows_writeRows
    {store written : MemoryStore}
    (tracked : store.Tracked)
    {rows : List Row}
    (ok : store.writeRows rows = (.ok (), written))
    {group : GroupId}
    {key : HKey}
    {row : Row} :
    (key, row) ∈ (written.groupRows group).entries ↔
      (key, row) ∈ (store.groupRows group).entries ∨
        row ∈ rows ∧ PlacedRow store.schema group key row := by
  induction rows generalizing store with
  | nil =>
      cases ok
      simp
  | cons head rows ih =>
      rcases writeRows_cons_eq_ok_iff.1 ok with ⟨next, first, rest⟩
      have later := ih (tracked.writeRow first) rest
      rcases tracked.writeRow_eq_ok_iff.1 first with
        ⟨headKey, spot, itsKey, free, rfl⟩
      rw [later, mem_groupRows_filled spot itsKey free, or_assoc, List.mem_cons,
        or_and_right]
      rfl

/-- Rows that could all be stored lie in groups of the schema. -/
theorem Tracked.homed_of_writeRows
    {store written : MemoryStore}
    (tracked : store.Tracked)
    {rows : List Row}
    (ok : store.writeRows rows = (.ok (), written)) :
    ∀ row ∈ rows, ∃ group key, PlacedRow store.schema group key row := by
  induction rows generalizing store with
  | nil =>
      exact nofun
  | cons head rows ih =>
      rcases writeRows_cons_eq_ok_iff.1 ok with ⟨next, first, rest⟩
      have later := ih (tracked.writeRow first) rest
      rcases tracked.writeRow_eq_ok_iff.1 first with
        ⟨key, spot, itsKey, -, rfl⟩
      intro row listed
      rcases List.mem_cons.1 listed with rfl | inRest
      · exact ⟨_, _, placedRow_of_spot spot itsKey⟩
      · exact later row inRest

/-- Rows that could all be stored have different keys, none of which was taken. -/
theorem Tracked.nodup_of_writeRows
    {store written : MemoryStore}
    (tracked : store.Tracked)
    {rows : List Row}
    (ok : store.writeRows rows = (.ok (), written)) :
    (rows.map Row.key?).Nodup ∧
      ∀ row ∈ rows, ∀ group key,
        PlacedRow store.schema group key row →
          (store.groupRows group).contains key = false := by
  induction rows generalizing store with
  | nil =>
      exact ⟨.nil, nofun⟩
  | cons head rows ih =>
      rcases writeRows_cons_eq_ok_iff.1 ok with ⟨next, first, rest⟩
      rcases ih (tracked.writeRow first) rest with ⟨distinct, vacant⟩
      rcases tracked.writeRow_eq_ok_iff.1 first with
        ⟨headKey, spot, itsKey, free, rfl⟩
      have headIn :
          ((spot.filled head).groupRows spot.group).contains headKey =
            true := by
        rw [groupRows_filled, if_pos rfl, SortedMap.contains_insert]
        exact .inl rfl
      constructor
      · refine List.nodup_cons.2 ⟨?_, distinct⟩
        intro again
        rcases List.mem_map.1 again with ⟨row, listed, sameKey⟩
        have place :=
          placedRow_of_spot spot (sameKey.trans itsKey)
        rw [vacant row listed spot.group headKey place] at headIn
        cases headIn
      · intro row listed group key place
        rcases List.mem_cons.1 listed with rfl | later
        · cases Option.some.inj (place.itsKey.symm.trans itsKey)
          rw [place.group_eq (placedRow_of_spot spot itsKey), groupRows_spot]
          exact free
        · have notLater := vacant row later group key place
          by_contra taken
          rw [Bool.not_eq_false, SortedMap.contains_iff] at taken
          rcases taken with ⟨stored, inside⟩
          have still :=
            (mem_groupRows_filled spot itsKey free).2 (.inl inside)
          rw [SortedMap.contains_iff.2 ⟨stored, still⟩] at notLater
          cases notLater

/-- Rows of tables of the schema are all stored, or the first one whose key is taken is refused. -/
theorem Tracked.writeRows_cases
    {store : MemoryStore}
    (tracked : store.Tracked)
    (placed : store.Placed)
    {rows : List Row}
    (homed :
      ∀ row ∈ rows, ∃ group key, PlacedRow store.schema group key row) :
    (∃ written, store.writeRows rows = (.ok (), written)) ∨
      ∃ before row after group key reached,
        rows = before ++ row :: after ∧
          store.writeRows before = (.ok (), reached) ∧
            PlacedRow store.schema group key row ∧
              (reached.groupRows group).contains key = true ∧
                store.writeRows rows =
                  (.error (.ofStorage (.duplicateKey key.render)),
                    reached) := by
  induction rows generalizing store with
  | nil =>
      exact .inl ⟨store, rfl⟩
  | cons head rows ih =>
      rcases homed head List.mem_cons_self with ⟨group, key, place⟩
      rcases placed.exists_spot place with ⟨spot, rfl⟩
      have written := tracked.writeRow_at spot place.itsKey
      by_cases taken : spot.rows.contains key = true
      · rw [if_pos taken] at written
        refine .inr ⟨[], head, rows, spot.group, key, store, rfl, rfl, place,
          ?_, ?_⟩
        · rw [groupRows_spot]
          exact taken
        · rw [writeRows, written]
      · rw [if_neg taken] at written
        have placedNext : (spot.filled head).Placed := by
          have performed : store.perform (.write head) = spot.filled head :=
            congrArg Prod.snd written
          exact performed ▸ placed.perform (.write head)
        rcases ih (tracked.writeRow written) placedNext
            (fun row listed => homed row (List.mem_cons_of_mem _ listed)) with
          ⟨final, rest⟩ |
            ⟨before, row, after, group, key, reached, rfl, rest, lies, taken,
              refused⟩
        · exact .inl
            ⟨final, writeRows_cons_eq_ok_iff.2 ⟨_, written, rest⟩⟩
        · refine .inr
            ⟨head :: before, row, after, group, key, reached, rfl,
              writeRows_cons_eq_ok_iff.2 ⟨_, written, rest⟩, lies, taken, ?_⟩
          rw [writeRows, written]
          exact refused

/-! ## A store that is filled from the start -/

theorem groupRows_create
    (schema : Schema)
    (statuses : StatusRegistry)
    (sessionId : String)
    (countMode : CountMode)
    (group : GroupId) :
    (create schema statuses sessionId countMode).1.groupRows group =
      .empty := by
  rw [groupRows]
  cases stored :
      (create schema statuses sessionId countMode).1.groups.get? group with
  | none =>
      rfl
  | some rows =>
      have inside := SortedMap.get?_eq_some_iff.1 stored
      rcases List.mem_map.1 (SortedMap.mem_of_mem_ofList inside) with
        ⟨groupTable, -, same⟩
      cases same
      rfl

/-- The key is that of the first row whose key an earlier row has. -/
def FirstRepeat (rows : List Row) (key : HKey) : Prop :=
  ∃ before row after,
    rows = before ++ row :: after ∧
      (before.map Row.key?).Nodup ∧
        row.key? = some key ∧ some key ∈ before.map Row.key?

theorem FirstRepeat.not_nodup
    {rows : List Row}
    {key : HKey}
    (repeated : FirstRepeat rows key) :
    ¬ (rows.map Row.key?).Nodup := by
  rcases repeated with ⟨before, row, after, rfl, -, itsKey, again⟩
  intro distinct
  rw [List.map_append, List.map_cons, itsKey] at distinct
  exact (List.nodup_append.1 distinct).2.2 _ again _ List.mem_cons_self rfl

section

variable
  {schema : Schema}
  {sessionId : String}
  {countMode : CountMode}
  {rows : List Row}

/-- A new store takes all rows if their keys differ, and else it stops at the first repeated key. -/
theorem writeRows_create_cases
    (homed : ∀ row ∈ rows, ∃ group key, PlacedRow schema group key row) :
    let created := (create schema {} sessionId countMode).1
    (rows.map Row.key?).Nodup ∧
        (∃ written, created.writeRows rows = (.ok (), written)) ∨
      ∃ key reached,
        FirstRepeat rows key ∧
          created.writeRows rows =
            (.error (.ofStorage (.duplicateKey key.render)), reached) := by
  intro created
  have tracked : created.Tracked := tracked_create schema sessionId countMode
  have placed : created.Placed :=
    placed_create schema {} sessionId countMode
  rcases tracked.writeRows_cases placed homed with
    ⟨written, ok⟩ |
      ⟨before, row, after, group, key, reached, parts, ok, place, taken,
        refused⟩
  · exact .inl ⟨(tracked.nodup_of_writeRows ok).1, written, ok⟩
  · refine .inr ⟨key, reached, ⟨before, row, after, parts, ?_⟩, refused⟩
    rcases SortedMap.contains_iff.1 taken with ⟨stored, inside⟩
    rcases (tracked.mem_groupRows_writeRows ok).1 inside with
      old | ⟨listed, lies⟩
    · rw [groupRows_create] at old
      cases old
    · exact ⟨(tracked.nodup_of_writeRows ok).1, place.itsKey,
        List.mem_map.2 ⟨stored, listed, lies.itsKey⟩⟩

end

/-- Whether the rows of a group are those of the row's table. -/
def keeps (schema : Schema) (group : GroupId) (row : Row) : Bool :=
  match row.rowType.table?.bind schema.groupOf? with
  | some itsGroup => itsGroup.id == group
  | none => false

theorem placedRow_iff
    {schema : Schema}
    {group : GroupId}
    {key : HKey}
    {row : Row}
    (itsKey : row.key? = some key) :
    PlacedRow schema group key row ↔ keeps schema group row = true := by
  have sameTable := (row.placed key itsKey).2
  rw [keeps, ← sameTable]
  constructor
  · rintro ⟨-, table, groupTable, named, itsGroup, rfl⟩
    simp [named, itsGroup]
  · intro keeps
    split at keeps
    next groupTable found =>
      rcases Option.bind_eq_some_iff.1 found with ⟨table, named, itsGroup⟩
      exact ⟨itsKey, table, groupTable, named, itsGroup,
        beq_iff_eq.1 keeps⟩
    next =>
      cases keeps

/-- A group of a store that was filled holds the rows that lie in it. -/
theorem perm_groupRows_writeRows
    {schema : Schema}
    {sessionId : String}
    {countMode : CountMode}
    {rows : List Row}
    {written : MemoryStore}
    (ok :
      (create schema {} sessionId countMode).1.writeRows rows =
        (.ok (), written))
    (group : GroupId) :
    ((written.groupRows group).entries.map Prod.snd).Perm
      (rows.filter (keeps schema group)) := by
  have tracked := tracked_create schema sessionId countMode
  have held {key : HKey} {row : Row} :
      (key, row) ∈ (written.groupRows group).entries ↔
        row ∈ rows ∧ PlacedRow schema group key row := by
    rw [tracked.mem_groupRows_writeRows ok, groupRows_create]
    exact or_iff_right nofun
  have distinct : ((written.groupRows group).entries.map Prod.snd).Nodup := by
    refine List.Nodup.map_on ?_ (SortedMap.nodup_entries _)
    rintro ⟨key, row⟩ inside ⟨other, sibling⟩ alsoInside same
    cases (show row = sibling from same)
    cases Option.some.inj
      ((held.1 inside).2.itsKey.symm.trans (held.1 alsoInside).2.itsKey)
    rfl
  have distinctRows : (rows.filter (keeps schema group)).Nodup :=
    (tracked.nodup_of_writeRows ok).1.of_map.filter _
  apply (List.perm_ext_iff_of_nodup distinct distinctRows).2
  intro row
  rw [List.mem_map, List.mem_filter]
  constructor
  · rintro ⟨⟨key, _⟩, inside, rfl⟩
    rcases held.1 inside with ⟨listed, place⟩
    exact ⟨listed, (placedRow_iff place.itsKey).1 place⟩
  · rintro ⟨listed, keeps⟩
    rcases tracked.homed_of_writeRows ok row listed with ⟨_, key, place⟩
    have lies := (placedRow_iff place.itsKey).2 keeps
    exact ⟨(key, row), held.2 ⟨listed, lies⟩, rfl⟩

end MemoryStore

end HierQuery
