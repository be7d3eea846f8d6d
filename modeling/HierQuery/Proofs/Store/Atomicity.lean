import HierQuery.Proofs.Store.Events
import HierQuery.Proofs.Store.Run

/-!
# What a failed call leaves of a store

A store shares the registry of its statuses with other sessions, which may
register, clear and drop tables at any time.  A call that fails leaves the store
as it was, with one exception.  A row is stored or removed before it is counted,
so if its table was dropped, the call fails and the change of the rows stays.

A table that was registered as a stored one keeps its status until it is dropped.
So without a drop of such a table no call on its rows fails halfway.  A table that
is registered as a virtual one loses its status already when it is cleared.
-/

namespace HierQuery

namespace MemoryStore

/-! ## Failures of a single call -/

section Calls

variable
  {store : MemoryStore}
  {key : HKey}

/-- Rows of a table are counted exactly if the table has a status. -/
theorem Spot.recount_cases
    (spot : store.Spot key)
    (rows : GroupRows)
    (count : Int64) :
    (∃ left, spot.recount rows count = (.ok (), left)) ∨
      store.statuses.statusOf? spot.table = none ∧
        spot.recount rows count =
          (.error (.ofStorage (.unknownTable spot.table)),
            store.withRows spot.group rows) := by
  rw [recount, countRows, status, withRows, StatusRegistry.status]
  cases store.statuses.statusOf? spot.table with
  | none =>
      exact .inr ⟨rfl, rfl⟩
  | some status =>
      exact .inl ⟨_, rfl⟩

/-- A write that fails leaves the store alone, or the table has no status. -/
theorem writeRow_error
    {row : Row}
    {error : ExecError}
    {left : MemoryStore}
    (failed : store.writeRow row = (.error error, left)) :
    left = store ∨
      ∃ key, ∃ spot : store.Spot key,
        row.key? = some key ∧
          store.statuses.statusOf? spot.table = none ∧
            error = .ofStorage (.unknownTable spot.table) ∧
              left =
                store.withRows spot.group (spot.rows.insert key row) := by
  rcases store.writeRow_cases row with
    ⟨_, refused⟩ | ⟨key, spot, itsKey, -, written⟩
  · rw [refused] at failed
    cases failed
    exact .inl rfl
  · rw [written] at failed
    rcases spot.recount_cases (spot.rows.insert key row) 1 with
      ⟨_, counted⟩ | ⟨noStatus, uncounted⟩
    · rw [counted] at failed
      cases failed
    · rw [uncounted] at failed
      cases failed
      exact .inr ⟨key, spot, itsKey, noStatus, rfl, rfl⟩

/-- A deletion that fails leaves the store alone, or the table has no status. -/
theorem deleteRow_error
    {error : ExecError}
    {left : MemoryStore}
    (failed : store.deleteRow key = (.error error, left)) :
    left = store ∨
      ∃ spot : store.Spot key,
        store.statuses.statusOf? spot.table = none ∧
          error = .ofStorage (.unknownTable spot.table) ∧
            left = store.withRows spot.group (spot.rows.erase key) := by
  rcases store.deleteRow_cases key with ⟨_, refused⟩ | ⟨spot, -, deleted⟩
  · rw [refused] at failed
    cases failed
    exact .inl rfl
  · rw [deleted, Spot.replace] at failed
    rcases spot.recount_cases (spot.rows.erase key) (-1) with
      ⟨_, counted⟩ | ⟨noStatus, uncounted⟩
    · rw [counted] at failed
      cases failed
    · rw [uncounted] at failed
      cases failed
      exact .inr ⟨spot, noStatus, rfl, rfl⟩

end Calls

end MemoryStore

/-! ## Stores among other sessions -/

/-- A store, and the other sessions that use the registry of its statuses. -/
structure SharedStore (ι : Type) where
  store : MemoryStore
  others : ι → Session

/-- What may happen to a store and to its registry. -/
inductive StoreEvent (ι : Type)
  | own (action : MemoryStore.Action)
  | beside (event : RegistryEvent ι)
deriving DecidableEq

namespace SharedStore

variable {ι : Type} [DecidableEq ι]

/-- The store and the other sessions after an event. -/
def happen (shared : SharedStore ι) : StoreEvent ι → SharedStore ι
  | .own action =>
      { shared with store := shared.store.perform action }
  | .beside event =>
      let sharing :=
        (Sharing.mk shared.store.statuses shared.others).occur event
      { store := { shared.store with statuses := sharing.registry }
        others := sharing.sessions }

/-- The store and the other sessions after events, one after another. -/
def happenAll
    (shared : SharedStore ι)
    (events : List (StoreEvent ι)) :
    SharedStore ι :=
  events.foldl happen shared

variable {shared : SharedStore ι}

@[simp]
theorem schema_happen (event : StoreEvent ι) :
    (shared.happen event).store.schema = shared.store.schema := by
  cases event with
  | own action =>
      exact shared.store.schema_perform action
  | beside event =>
      rfl

theorem schema_happenAll (events : List (StoreEvent ι)) :
    (shared.happenAll events).store.schema = shared.store.schema := by
  induction events generalizing shared with
  | nil =>
      rfl
  | cons event later ih =>
      exact ih.trans (schema_happen event)

/-- The registry is well-formed, and a table is registered as a stored one. -/
structure Counts (shared : SharedStore ι) (table : TableId) : Prop where
  wellFormed : shared.store.statuses.WellFormed
  stored : shared.store.statuses.kindOf? table = some "stored"

/-- The actions of the store itself leave its tables registered. -/
theorem Counts.own
    {table : TableId}
    (counts : shared.Counts table)
    (action : MemoryStore.Action) :
    (shared.happen (.own action)).Counts table := by
  cases action with
  | write row =>
      change Counts ⟨shared.store.perform (.write row), _⟩ table
      rcases shared.store.perform_write row with
        refused | ⟨key, spot, -, -, written⟩
      · rw [refused]
        exact counts
      · rw [written]
        constructor
        · exact (spot.statuses_replace _ _).symm ▸ counts.wellFormed
        · exact (spot.statuses_replace _ _).symm ▸ counts.stored
  | delete key =>
      change Counts ⟨shared.store.perform (.delete key), _⟩ table
      rcases shared.store.perform_delete key with refused | ⟨spot, -, deleted⟩
      · rw [refused]
        exact counts
      · rw [deleted]
        constructor
        · exact (spot.statuses_replace _ _).symm ▸ counts.wellFormed
        · exact (spot.statuses_replace _ _).symm ▸ counts.stored
  | commit =>
      exact ⟨counts.wellFormed.commit _,
        (StatusRegistry.kindOf?_commit _ _ table).trans counts.stored⟩
  | rollback =>
      exact ⟨counts.wellFormed, counts.stored⟩
  | register created source =>
      refine ⟨counts.wellFormed.createVirtual created source, ?_⟩
      refine (counts.wellFormed.kindOf?_createVirtual created source
        table).trans ?_
      rw [counts.stored]
      exact ite_self _

/-- What others do to the registry leaves a table registered, unless they drop it. -/
theorem Counts.beside
    {table : TableId}
    (counts : shared.Counts table)
    {event : RegistryEvent ι}
    (kept : ∀ who, event ≠ .drop who table) :
    (shared.happen (.beside event)).Counts table := by
  refine ⟨Sharing.wellFormed_occur counts.wellFormed event, ?_⟩
  refine (Sharing.kindOf?_occur counts.wellFormed event table).trans ?_
  change event.kindAfter table (shared.store.statuses.kindOf? table) = _
  rw [counts.stored]
  cases event with
  | act | count | detach =>
      rfl
  | createStored | createVirtual =>
      exact ite_self _
  | clear who cleared =>
      exact if_neg fun both => by simp at both
  | drop who dropped =>
      apply if_neg
      rintro rfl
      exact kept who rfl

/-- Whatever happens, a table stays registered unless it is dropped. -/
theorem Counts.happenAll
    {table : TableId}
    (counts : shared.Counts table)
    {events : List (StoreEvent ι)}
    (kept : ∀ who, .beside (.drop who table) ∉ events) :
    (shared.happenAll events).Counts table := by
  induction events generalizing shared with
  | nil =>
      exact counts
  | cons event later ih =>
      have keptLater : ∀ who, .beside (.drop who table) ∉ later :=
        fun who member => kept who (List.mem_cons_of_mem _ member)
      cases event with
      | own action =>
          exact ih (counts.own action) keptLater
      | beside event =>
          refine ih (counts.beside ?_) keptLater
          rintro who rfl
          exact kept who List.mem_cons_self

/-! ## Failures in a shared store -/

/-- A failed call changed nothing, or it changed rows of a table that was dropped. -/
structure FailsWhole
    (events : List (StoreEvent ι))
    (store : MemoryStore) :
    Prop where
  write :
    ∀ row error left, store.writeRow row = (.error error, left) →
      left = store ∨
        ∃ who key, ∃ spot : store.Spot key,
          .beside (.drop who spot.table) ∈ events ∧
            row.key? = some key ∧
              error = .ofStorage (.unknownTable spot.table) ∧
                left =
                  store.withRows spot.group (spot.rows.insert key row)
  delete :
    ∀ key error left, store.deleteRow key = (.error error, left) →
      left = store ∨
        ∃ who, ∃ spot : store.Spot key,
          .beside (.drop who spot.table) ∈ events ∧
            error = .ofStorage (.unknownTable spot.table) ∧
              left = store.withRows spot.group (spot.rows.erase key)

/-- A table in which rows can be put, and which has no status, was dropped. -/
theorem dropped_of_no_status
    (stored :
      ∀ table, (shared.store.schema.table? table).isSome →
        shared.Counts table)
    {events : List (StoreEvent ι)}
    {key : HKey}
    (spot : (shared.happenAll events).store.Spot key)
    (noStatus :
      (shared.happenAll events).store.statuses.statusOf? spot.table = none) :
    ∃ who, .beside (.drop who spot.table) ∈ events := by
  have known : (shared.store.schema.table? spot.table).isSome := by
    rcases spot.grouped with ⟨group, itsGroup, -⟩
    rw [schema_happenAll] at itsGroup
    rcases Option.bind_eq_some_iff.1 itsGroup with ⟨rowType, found, -⟩
    exact Option.isSome_of_eq_some found
  by_cases dropped : ∃ who, .beside (.drop who spot.table) ∈ events
  · exact dropped
  · have kept : ∀ who, .beside (.drop who spot.table) ∉ events :=
      fun who member => dropped ⟨who, member⟩
    have registered := ((stored spot.table known).happenAll kept).stored
    rw [StatusRegistry.kindOf?, noStatus] at registered
    cases registered

/--
In a store whose tables all were registered as stored ones, a failed write or
deletion changes nothing, unless others dropped the table since.  A table with a
virtual status at the start is not covered: it is enough that others clear it for a
call on its rows to fail halfway.
-/
theorem failsWhole_happenAll
    (stored :
      ∀ table, (shared.store.schema.table? table).isSome →
        shared.Counts table)
    (events : List (StoreEvent ι)) :
    FailsWhole events (shared.happenAll events).store where
  write := by
    intro row error left failed
    rcases MemoryStore.writeRow_error failed with
      unchanged | ⟨key, spot, itsKey, noStatus, itsError, changed⟩
    · exact .inl unchanged
    · rcases dropped_of_no_status stored spot noStatus with ⟨who, dropped⟩
      exact .inr ⟨who, key, spot, dropped, itsKey, itsError, changed⟩
  delete := by
    intro key error left failed
    rcases MemoryStore.deleteRow_error failed with
      unchanged | ⟨spot, noStatus, itsError, changed⟩
    · exact .inl unchanged
    · rcases dropped_of_no_status stored spot noStatus with ⟨who, dropped⟩
      exact .inr ⟨who, spot, dropped, itsError, changed⟩

section Sample

open MemoryStore

/-- A new store, and another session that uses its registry. -/
def sample : SharedStore Unit where
  store := (create Sample.schema {} "store" .exact).1
  others := fun _ => { id := "other" }

/-- A second row of the same customer is refused, and the store stays as it was. -/
theorem failsWhole_of_duplicate :
    let events :=
      [.own (.write Sample.customerRow), .beside (.drop () ⟨2⟩)]
    let store := (sample.happenAll events).store
    (∀ table, (sample.store.schema.table? table).isSome →
        sample.Counts table) ∧
      FailsWhole events store ∧
      store.writeRow Sample.customerRow =
        (.error (.ofStorage (.duplicateKey "{(1)1}")), store) := by
  intro events store
  have stored :
      ∀ table, (sample.store.schema.table? table).isSome →
        sample.Counts table := by
    intro table known
    refine ⟨(tracked_create Sample.schema "store" .exact).registry, ?_⟩
    rw [StatusRegistry.kindOf?]
    exact congrArg (Option.map TableStatus.kind)
      (statusOf?_create Sample.schema "store" .exact known)
  exact ⟨stored, failsWhole_happenAll stored events, rfl⟩

/--
A customer cannot be written once the table was dropped, nor deleted, and yet
the row is stored and removed.
-/
theorem writeRow_of_dropped :
    let dropped := (sample.happenAll [.beside (.drop () ⟨1⟩)]).store
    let written := dropped.writeRow Sample.customerRow
    let deleted := written.2.deleteRow (.root ⟨1⟩ [.int 1])
    written.1 = .error (.ofStorage (.unknownTable ⟨1⟩)) ∧
      deleted.1 = .error (.ofStorage (.unknownTable ⟨1⟩)) ∧
      (dropped.groupRows ⟨1⟩).entries = [] ∧
      (written.2.groupRows ⟨1⟩).entries =
        [(.root ⟨1⟩ [.int 1], Sample.customerRow)] ∧
      (deleted.2.groupRows ⟨1⟩).entries = [] :=
  ⟨rfl, rfl, rfl, rfl, rfl⟩

end Sample

end SharedStore

end HierQuery
