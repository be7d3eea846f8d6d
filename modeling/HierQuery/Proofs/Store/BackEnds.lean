import HierQuery.Proofs.Store.Events
import HierQuery.Proofs.Store.Run

/-!
# Back-ends that are fixed at registration

A status is stored or virtual from the moment it is issued, and no event ever
changes that: whoever holds a handle may rely on the kind of status behind it.
Registering a table leaves the statuses of all tables that are registered as
they are, up to the source that a virtual table is given.

The two ways to register a table treat a status of the other kind differently.
A virtual table is refused under the number of a stored one.  The other way
round nothing is refused: who asks for a stored table under the number of a
virtual one is handed the virtual one.  So a new store has stored statuses for
just those tables of its schema for which no virtual one was registered.
-/

namespace HierQuery

@[simp]
theorem TableStatus.table_attach (status : TableStatus) (source : RowSource) :
    (status.attach source).table = status.table := by
  cases status <;> rfl

@[simp]
theorem TableStatus.autoIncrement_attach
    (status : TableStatus)
    (source : RowSource) :
    (status.attach source).autoIncrement = status.autoIncrement := by
  cases status <;> rfl

@[simp]
theorem TableStatus.uniqueId_attach
    (status : TableStatus)
    (source : RowSource) :
    (status.attach source).uniqueId = status.uniqueId := by
  cases status <;> rfl

namespace StatusRegistry

/-! ## Statuses behind handles -/

/--
A relation of what is behind a handle before and after that bears all that is
done to a registry but calls on a status and clearings.
-/
structure Bears
    (Becomes : Option TableStatus → Option TableStatus → Prop) :
    Prop where
  refl : ∀ found, Becomes found found
  trans :
    ∀ {first second third},
      Becomes first second → Becomes second third → Becomes first third
  applied :
    ∀ status change, Becomes (some status) (some (status.apply change))
  attached :
    ∀ status source, Becomes (some status) (some (status.attach source))
  detached : ∀ status, Becomes (some status) (some status.detach)
  stored : ∀ table, Becomes none (some (.stored { table }))
  virtual :
    ∀ table source,
      Becomes none (some (.virtual { table, source := some source }))

namespace Bears

variable
  {Becomes : Option TableStatus → Option TableStatus → Prop}

theorem modify
    (bears : Bears Becomes)
    (registry : StatusRegistry)
    (changed : StatusHandle)
    {change : TableStatus → TableStatus}
    (becomes : ∀ status, Becomes (some status) (some (change status)))
    (handle : StatusHandle) :
    Becomes (registry.get? handle)
      ((registry.modify changed change).get? handle) := by
  rw [get?_modify]
  split
  · cases registry.get? handle with
    | none =>
        exact bears.refl none
    | some status =>
        exact becomes status
  · exact bears.refl _

theorem issue
    (bears : Bears Becomes)
    (registry : StatusRegistry)
    {fresh : TableStatus}
    (comes : Becomes none (some fresh))
    (handle : StatusHandle) :
    Becomes (registry.get? handle) ((registry.issue fresh).2.get? handle) := by
  cases before : registry.get? handle with
  | some status =>
      rw [get?_issue_of_get? before]
      exact bears.refl _
  | none =>
      cases after : (registry.issue fresh).2.get? handle with
      | none =>
          exact bears.refl none
      | some status =>
          rcases get?_issue_cases after with ⟨-, rfl⟩ | known
          · exact comes
          · rw [before] at known
            cases known

theorem publish
    (bears : Bears Becomes)
    (registry : StatusRegistry)
    (table : TableId)
    (change : PendingCount)
    (handle : StatusHandle) :
    Becomes (registry.get? handle)
      ((registry.publish table change).2.get? handle) := by
  rw [StatusRegistry.publish]
  split
  · exact bears.refl _
  · split
    · exact
        bears.modify registry _ (fun status => bears.applied status change)
          handle
    · exact bears.refl _

theorem commit
    (bears : Bears Becomes)
    (registry : StatusRegistry)
    (session : Session)
    (handle : StatusHandle) :
    Becomes (registry.get? handle)
      ((registry.commit session).1.get? handle) := by
  change
    Becomes _
      ((publishAll session.pending.entries (0, registry)).2.get? handle)
  generalize session.pending.entries = changes
  generalize 0 = applied
  induction changes generalizing applied registry with
  | nil =>
      exact bears.refl _
  | cons head tail ih =>
      exact
        bears.trans (bears.publish registry head.1 head.2 handle) (ih _ _)

theorem createStored
    (bears : Bears Becomes)
    (registry : StatusRegistry)
    (table : TableId)
    (handle : StatusHandle) :
    Becomes (registry.get? handle)
      ((registry.createStored table).2.1.get? handle) := by
  rw [StatusRegistry.createStored]
  split
  · exact bears.refl _
  · exact bears.issue registry (bears.stored table) handle

theorem createVirtual
    (bears : Bears Becomes)
    (registry : StatusRegistry)
    (table : TableId)
    (source : RowSource)
    (handle : StatusHandle) :
    Becomes (registry.get? handle)
      ((registry.createVirtual table source).2.1.get? handle) := by
  rw [StatusRegistry.createVirtual]
  split
  · split
    · exact
        bears.modify registry _ (fun status => bears.attached status source)
          handle
    · exact bears.refl _
  · exact bears.issue registry (bears.virtual table source) handle

theorem detach
    (bears : Bears Becomes)
    (registry : StatusRegistry)
    (handle : StatusHandle) :
    Becomes (registry.get? handle) (registry.detach.1.get? handle) := by
  rw [StatusRegistry.detach]
  generalize (registry.registered.entries.map Prod.snd).filter
    registry.isVirtual = virtuals
  dsimp only
  induction virtuals generalizing registry with
  | nil =>
      exact bears.refl _
  | cons first rest ih =>
      exact
        bears.trans (bears.modify registry first bears.detached handle) (ih _)

end Bears

/-- Behind each handle there is a status of the same table and kind as before. -/
def KeepsKinds (before after : StatusRegistry) : Prop :=
  ∀ handle status,
    before.get? handle = some status →
      ∃ later,
        after.get? handle = some later ∧
          later.table = status.table ∧ later.kind = status.kind

namespace KeepsKinds

/-- No status is ever taken away, and none changes its table or its kind. -/
theorem bears :
    Bears fun before after =>
      ∀ status,
        before = some status →
          ∃ later,
            after = some later ∧
              later.table = status.table ∧ later.kind = status.kind where
  refl := fun _ status behind => ⟨status, behind, rfl, rfl⟩
  trans := by
    intro first second third earlier later status behind
    rcases earlier status behind with ⟨middle, found, sameTable, sameKind⟩
    rcases later middle found with ⟨last, foundLast, alsoTable, alsoKind⟩
    exact ⟨last, foundLast, alsoTable.trans sameTable, alsoKind.trans sameKind⟩
  applied := by
    rintro status change _ ⟨⟩
    exact ⟨_, rfl, status.table_apply change, status.kind_apply change⟩
  attached := by
    rintro status source _ ⟨⟩
    exact ⟨_, rfl, status.table_attach source, status.kind_attach source⟩
  detached := by
    rintro status _ ⟨⟩
    exact ⟨_, rfl, status.table_detach, status.kind_detach⟩
  stored := fun _ => nofun
  virtual := fun _ _ => nofun

theorem refl (registry : StatusRegistry) : registry.KeepsKinds registry :=
  fun _ => bears.refl _

theorem trans
    {first second third : StatusRegistry}
    (earlier : first.KeepsKinds second)
    (later : second.KeepsKinds third) :
    first.KeepsKinds third :=
  fun handle => bears.trans (earlier handle) (later handle)

theorem modify
    (registry : StatusRegistry)
    (handle : StatusHandle)
    {change : TableStatus → TableStatus}
    (sameTable : ∀ status, (change status).table = status.table)
    (sameKind : ∀ status, (change status).kind = status.kind) :
    registry.KeepsKinds (registry.modify handle change) := by
  refine bears.modify registry handle ?_
  rintro status _ ⟨⟩
  exact ⟨_, rfl, sameTable status, sameKind status⟩

theorem commit (registry : StatusRegistry) (session : Session) :
    registry.KeepsKinds (registry.commit session).1 :=
  bears.commit registry session

theorem createStored (registry : StatusRegistry) (table : TableId) :
    registry.KeepsKinds (registry.createStored table).2.1 :=
  bears.createStored registry table

theorem createVirtual
    (registry : StatusRegistry)
    (table : TableId)
    (source : RowSource) :
    registry.KeepsKinds (registry.createVirtual table source).2.1 :=
  bears.createVirtual registry table source

theorem detach (registry : StatusRegistry) :
    registry.KeepsKinds registry.detach.1 :=
  bears.detach registry

theorem clear
    (registry : StatusRegistry)
    (table : TableId)
    (session : Session) :
    registry.KeepsKinds (registry.clear table session).2.1 := by
  rw [StatusRegistry.clear]
  split
  · exact refl registry
  · dsimp only
    split
    · exact refl registry
    · exact modify registry _ TableStatus.table_zeroed TableStatus.kind_zeroed
    · exact refl registry

theorem drop
    (registry : StatusRegistry)
    (table : TableId)
    (session : Session) :
    registry.KeepsKinds (registry.drop table session).2.1 := by
  rcases registry.registry_drop table session with same | ⟨-, same⟩
  · -- taking a table out of the registry does not touch what was issued
    rw [same]
    exact clear registry table session
  · rw [same]
    exact refl registry

end KeepsKinds

/-- A table that is registered stays under its handle when a virtual one comes in. -/
theorem registered_createVirtual
    {registry : StatusRegistry}
    {table : TableId}
    {handle : StatusHandle}
    (itsHandle : registry.registered.get? table = some handle)
    (other : TableId)
    (source : RowSource) :
    (registry.createVirtual other source).2.1.registered.get? table =
      some handle := by
  rw [createVirtual]
  split
  next =>
    split <;> exact itsHandle
  next unregistered =>
    change (registry.registered.insert other _).get? table = some handle
    rw [SortedMap.get?_insert, if_neg, itsHandle]
    intro same
    rw [Std.LawfulEqOrd.eq_of_compare same, unregistered] at itsHandle
    cases itsHandle

/-- No table loses its status when a virtual one comes in. -/
theorem isSome_statusOf?_createVirtual
    (registry : StatusRegistry)
    {table : TableId}
    (known : (registry.statusOf? table).isSome = true)
    (other : TableId)
    (source : RowSource) :
    ((registry.createVirtual other source).2.1.statusOf? table).isSome =
      true := by
  rcases Option.isSome_iff_exists.1 known with ⟨status, found⟩
  rcases Option.bind_eq_some_iff.1 found with ⟨handle, itsHandle, behind⟩
  rcases KeepsKinds.createVirtual registry other source handle status behind
    with ⟨later, foundLater, -, -⟩
  rw [statusOf?, registered_createVirtual itsHandle other source,
    Option.bind_some, foundLater]
  rfl

end StatusRegistry

namespace Sharing

variable {ι : Type} [DecidableEq ι]

theorem keepsKinds_occur
    (sharing : Sharing ι)
    (event : RegistryEvent ι) :
    sharing.registry.KeepsKinds (sharing.occur event).registry := by
  cases event with
  | act who action =>
      cases action with
      | call handle made =>
          rw [occur, perform, turn, SessionAction.on]
          cases sharing.registry.get? handle with
          | none =>
              exact .refl _
          | some status =>
              exact .modify _ handle (fun status => made.table_on status _)
                fun status => made.kind_on status _
      | commit =>
          exact .commit _ _
      | rollback =>
          exact .refl _
  | count handle made =>
      exact .modify _ handle made.table_on made.kind_on
  | createStored table =>
      exact .createStored _ table
  | createVirtual table source =>
      exact .createVirtual _ table source
  | detach =>
      exact .detach _
  | clear who table =>
      exact .clear _ table _
  | drop who table =>
      exact .drop _ table _

theorem keepsKinds_occurAll
    (sharing : Sharing ι)
    (events : List (RegistryEvent ι)) :
    sharing.registry.KeepsKinds (sharing.occurAll events).registry := by
  induction events generalizing sharing with
  | nil =>
      exact .refl _
  | cons event later ih =>
      exact (sharing.keepsKinds_occur event).trans (ih _)

end Sharing

/-! ## What a registration delivers -/

namespace StatusRegistry

/-- What comes of registering a table as a stored one. -/
structure DeliversStored
    (registry : StatusRegistry)
    (table : TableId)
    (handle : StatusHandle)
    (after : StatusRegistry) :
    Prop where
  registered : after.registered.get? table = some handle
  /-- Only a virtual table that was there before is handed out in place of a stored one. -/
  delivered :
    ∃ status,
      after.get? handle = some status ∧
        status.table = table ∧
          (status.kind = "stored" ↔ registry.kindOf? table ≠ some "memory")
  kept :
    ∀ other status,
      registry.statusOf? other = some status →
        after.statusOf? other = some status

/-- What comes of registering a virtual table. -/
structure DeliversVirtual
    (registry : StatusRegistry)
    (table : TableId)
    (source : RowSource)
    (answer : Except StorageError StatusHandle)
    (after : StatusRegistry) :
    Prop where
  refused :
    registry.kindOf? table = some "stored" →
      answer =
          .error
            (.duplicateKey ("table " ++ table.render ++ " (already a stored table)")) ∧
        after = registry
  /-- The rows of the virtual table are those of the source, whoever counts them. -/
  delivered :
    registry.kindOf? table ≠ some "stored" →
      ∃ handle status,
        answer = .ok handle ∧
          after.registered.get? table = some handle ∧
            after.get? handle = some status ∧
              status.table = table ∧
                status.kind = "memory" ∧
                  ∀ rows session,
                    status.rowCount rows session = rows source ∧
                      status.approximateRowCount rows = rows source
  /-- A virtual table that was there before is only given the source. -/
  attached :
    ∀ status,
      registry.statusOf? table = some status →
        ∃ later,
          after.statusOf? table = some later ∧
            later.kind = status.kind ∧
              later.autoIncrement = status.autoIncrement ∧
                later.uniqueId = status.uniqueId
  kept :
    ∀ other status,
      other ≠ table →
        registry.statusOf? other = some status →
          after.statusOf? other = some status

section Delivering

variable
  {registry : StatusRegistry}

/-- A table of a well-formed registry has a status and a handle that leads to it, or neither. -/
theorem WellFormed.registered_cases
    (wellFormed : registry.WellFormed)
    (table : TableId) :
    registry.registered.get? table = none ∧ registry.statusOf? table = none ∨
      ∃ handle status,
        registry.registered.get? table = some handle ∧
          registry.get? handle = some status ∧
            registry.statusOf? table = some status ∧ status.table = table := by
  cases registered : registry.registered.get? table with
  | none =>
      exact .inl ⟨rfl, by rw [statusOf?, registered]; rfl⟩
  | some handle =>
      rcases wellFormed table handle registered with ⟨status, behind, itsTable⟩
      exact .inr ⟨handle, status, rfl, behind,
        by rw [statusOf?, registered, Option.bind_some, behind], itsTable⟩

theorem registered_issue
    (registry : StatusRegistry)
    (fresh : TableStatus) :
    (registry.issue fresh).2.registered.get? fresh.table =
      some (registry.issue fresh).1 := by
  change (registry.registered.insert fresh.table _).get? fresh.table = _
  rw [SortedMap.get?_insert]
  exact if_pos Std.ReflOrd.compare_self

/-- Issuing a status for a table that has none leaves every status that is registered. -/
theorem WellFormed.statusOf?_issue_of_registered
    (wellFormed : registry.WellFormed)
    (fresh : TableStatus)
    (unregistered : registry.statusOf? fresh.table = none)
    {other : TableId}
    {status : TableStatus}
    (registered : registry.statusOf? other = some status) :
    (registry.issue fresh).2.statusOf? other = some status := by
  rw [wellFormed.statusOf?_issue, if_neg, registered]
  rintro rfl
  rw [unregistered] at registered
  cases registered

theorem WellFormed.deliversStored
    (wellFormed : registry.WellFormed)
    (table : TableId) :
    registry.DeliversStored table
      (registry.createStored table).1
      (registry.createStored table).2.1 := by
  rw [StatusRegistry.createStored]
  rcases wellFormed.registered_cases table with
    ⟨unregistered, noStatus⟩ |
      ⟨handle, status, registered, behind, itsStatus, itsTable⟩
  · rw [unregistered]
    refine ⟨registered_issue registry _,
      ⟨_, get?_issue registry _, rfl, ?_⟩, fun _ _ =>
        wellFormed.statusOf?_issue_of_registered (.stored { table }) noStatus⟩
    rw [kindOf?, noStatus]
    simp [TableStatus.kind]
  · rw [registered]
    refine ⟨registered, ⟨status, behind, itsTable, ?_⟩, fun _ _ => id⟩
    rw [kindOf?, itsStatus]
    cases status <;> simp [TableStatus.kind]

theorem WellFormed.deliversVirtual
    (wellFormed : registry.WellFormed)
    (table : TableId)
    (source : RowSource) :
    registry.DeliversVirtual table source
      (registry.createVirtual table source).1
      (registry.createVirtual table source).2.1 := by
  rw [StatusRegistry.createVirtual]
  rcases wellFormed.registered_cases table with
    ⟨unregistered, noStatus⟩ |
      ⟨handle, status, registered, behind, itsStatus, itsTable⟩
  · rw [unregistered]
    refine
      { refused := ?_
        delivered := fun _ =>
          ⟨_, _, rfl, registered_issue registry _, get?_issue registry _, rfl,
            rfl, fun _ _ => ⟨rfl, rfl⟩⟩
        attached := ?_
        kept := fun _ _ _ =>
          wellFormed.statusOf?_issue_of_registered
            (.virtual { table, source := some source }) noStatus }
    · simp [kindOf?, noStatus]
    · simp [noStatus]
  · rw [registered]
    cases status with
    | stored status =>
        simp only [behind]
        refine
          { refused := fun _ => ⟨rfl, rfl⟩
            delivered := ?_
            attached := fun status itsOwn => ⟨status, itsOwn, rfl, rfl, rfl⟩
            kept := fun _ _ _ => id }
        simp [kindOf?, itsStatus, TableStatus.kind]
    | virtual status =>
        simp only [behind]
        have after :=
          wellFormed.statusOf?_modify registered
            fun status => status.attach source
        refine
          { refused := ?_
            delivered := fun _ =>
              ⟨handle, (TableStatus.virtual status).attach source, rfl,
                registered, by rw [get?_modify, behind]; simp, itsTable, rfl,
                fun _ _ => ⟨rfl, rfl⟩⟩
            attached := ?_
            kept := ?_ }
        · simp [kindOf?, itsStatus, TableStatus.kind]
        · intro before itsOwn
          rw [after, if_pos rfl, itsOwn]
          exact ⟨_, rfl, before.kind_attach source,
            before.autoIncrement_attach source, before.uniqueId_attach source⟩
        · intro other before different itsOwn
          rw [after, if_neg different, itsOwn]

/-- Registering tables one after another makes those stored ones that are not virtual already. -/
theorem WellFormed.kindOf?_registerTables
    (wellFormed : registry.WellFormed)
    (tables : List TableId)
    (table : TableId) :
    (MemoryStore.registerTables registry tables).1.kindOf? table =
      if table ∈ tables then
        (registry.kindOf? table).or (some "stored")
      else
        registry.kindOf? table := by
  rw [MemoryStore.registerTables_fst]
  induction tables generalizing registry with
  | nil =>
      rfl
  | cons head tail ih =>
      rw [List.foldl_cons, ih (wellFormed.createStored head),
        wellFormed.kindOf?_createStored]
      by_cases first : table = head
      · simp [first]
      · simp [first]

theorem kindOf?_cases (registry : StatusRegistry) (table : TableId) :
    registry.kindOf? table = none ∨
      registry.kindOf? table = some "stored" ∨
        registry.kindOf? table = some "memory" := by
  rw [kindOf?]
  rcases registry.statusOf? table with _ | _ | _
  · exact .inl rfl
  · exact .inr (.inl rfl)
  · exact .inr (.inr rfl)

/-- A new store has a stored status for a table of its schema unless a virtual one is registered. -/
theorem WellFormed.kindOf?_create
    (wellFormed : registry.WellFormed)
    (schema : Schema)
    (sessionId : String)
    (countMode : CountMode)
    {rowType : RowType}
    (listed : rowType ∈ schema.tables)
    {table : TableId}
    (itsTable : rowType.table? = some table) :
    (MemoryStore.create schema registry sessionId
        countMode).1.statuses.kindOf? table = some "stored" ↔
      registry.kindOf? table ≠ some "memory" := by
  have inside : table ∈ schema.tables.filterMap RowType.table? :=
    List.mem_filterMap.2 ⟨rowType, listed, itsTable⟩
  change (MemoryStore.registerTables registry _).1.kindOf? table = _ ↔ _
  rw [wellFormed.kindOf?_registerTables, if_pos inside]
  rcases registry.kindOf?_cases table with kind | kind | kind <;> simp [kind]

end Delivering

/-- What may be relied on in a registry whenever tables are registered. -/
structure FixesBackEnds (registry : StatusRegistry) : Prop where
  ownTable :
    ∀ table status,
      registry.statusOf? table = some status →
        status.table = table
  stored :
    ∀ table,
      registry.DeliversStored table
        (registry.createStored table).1
        (registry.createStored table).2.1
  virtual :
    ∀ table source,
      registry.DeliversVirtual table source
        (registry.createVirtual table source).1
        (registry.createVirtual table source).2.1
  /-- The tables of a new store are stored ones, but for those registered as virtual before. -/
  created :
    ∀ (schema : Schema) sessionId countMode,
      ∀ rowType ∈ schema.tables,
        ∀ table, rowType.table? = some table →
          ((MemoryStore.create schema registry sessionId
              countMode).1.statuses.kindOf? table = some "stored" ↔
            registry.kindOf? table ≠ some "memory")

theorem WellFormed.fixesBackEnds
    {registry : StatusRegistry}
    (wellFormed : registry.WellFormed) :
    registry.FixesBackEnds where
  ownTable := fun _ _ registered => wellFormed.table_of_statusOf? registered
  stored := wellFormed.deliversStored
  virtual := wellFormed.deliversVirtual
  created := by
    intro schema sessionId countMode rowType listed table itsTable
    exact wellFormed.kindOf?_create schema sessionId countMode listed itsTable

end StatusRegistry

namespace Sharing

variable {ι : Type} [DecidableEq ι]

/--
Whatever happened to a registry, a registration delivers the kind of status it
promises, unless a stored table is asked for under the number of a virtual one.
Whatever happens later, the kind of a status stays as it is.
-/
theorem fixesBackEnds_occurAll
    (ids : ι → String)
    (earlier later : List (RegistryEvent ι)) :
    let reached := (fresh {} ids).occurAll earlier
    reached.registry.FixesBackEnds ∧
      reached.registry.KeepsKinds (reached.occurAll later).registry :=
  ⟨(wellFormed_occurAll StatusRegistry.wellFormed_empty earlier).fixesBackEnds,
    keepsKinds_occurAll _ later⟩

/-- A virtual table is handed out for a stored one, and a new store works with it. -/
theorem createStored_hands_out_virtual :
    let registry :=
      ((fresh {} fun () => "session").occurAll
        [.createVirtual ⟨1⟩ ⟨0, "sessions"⟩]).registry
    let schema := (Schema.empty.newTable "customer" [] none).2
    ((registry.createStored ⟨1⟩).2.1.get?
        (registry.createStored ⟨1⟩).1).map TableStatus.kind = some "memory" ∧
      schema.tables.filterMap RowType.table? = [⟨1⟩] ∧
        (MemoryStore.create schema registry "store"
          .exact).1.statuses.kindOf? ⟨1⟩ = some "memory" := by
  decide

end Sharing

end HierQuery
