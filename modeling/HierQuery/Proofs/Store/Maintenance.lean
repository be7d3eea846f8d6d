import HierQuery.Proofs.Store.Events

/-!
# Upkeep of a shared registry

Clearing and dropping a table are one step for all that is behind its handle
and for the session that does it: what the session buffers for the table is
forgotten, and a stored status is zeroed.  They differ in what stays
registered.  Neither does anything for a table that is not registered, and
neither reaches another table, another status or another session.

Detaching and committing go through all tables at once.  The first reaches
only the virtual statuses that are registered, and the second only the row
counts of the registered stored tables for which the session buffers a change.
-/

namespace HierQuery

/-! ## Statuses behind handles -/

namespace StatusRegistry

variable {registry : StatusRegistry}

/-- Publishing a change applies it to what is behind the handle of the table. -/
theorem get?_publish
    (registry : StatusRegistry)
    (table : TableId)
    (change : PendingCount)
    (handle : StatusHandle) :
    (registry.publish table change).2.get? handle =
      if registry.registered.get? table = some handle then
        (registry.get? handle).map fun status => status.apply change
      else
        registry.get? handle := by
  rw [publish]
  split
  next unregistered =>
    simp [unregistered]
  next found itsHandle =>
    simp only [itsHandle, Option.some.injEq]
    split
    next status behind =>
      exact registry.get?_modify found handle _
    next notStored =>
      split
      next same =>
        subst same
        rcases behind : registry.get? found with _ | status | status
        · rfl
        · exact (notStored status behind).elim
        · rfl
      next =>
        rfl

/-- Publishing changes registers no table and leaves alone what is not registered. -/
theorem publishAll_frame
    (registry : StatusRegistry)
    (changes : List (TableId × PendingCount))
    (applied : Nat) :
    (publishAll changes (applied, registry)).2.registered =
        registry.registered ∧
      ∀ handle,
        (∀ table, registry.registered.get? table ≠ some handle) →
          (publishAll changes (applied, registry)).2.get? handle =
            registry.get? handle := by
  induction changes generalizing applied registry with
  | nil =>
      exact ⟨rfl, fun _ _ => rfl⟩
  | cons head tail ih =>
      rcases head with ⟨table, change⟩
      rcases
          ih (registry.publish table change).2
            (if (registry.publish table change).1 then applied + 1
              else applied) with
        ⟨sameTables, untouched⟩
      rw [registered_publish] at sameTables untouched
      refine ⟨sameTables, fun handle unregistered => ?_⟩
      exact (untouched handle unregistered).trans
        ((registry.get?_publish table change handle).trans
          (if_neg (unregistered table)))

@[simp]
theorem registered_commit
    (registry : StatusRegistry)
    (session : Session) :
    (registry.commit session).1.registered = registry.registered :=
  (registry.publishAll_frame session.pending.entries 0).1

/-- A commit applies to the status of a table what the session buffers for it. -/
theorem WellFormed.get?_commit
    (wellFormed : registry.WellFormed)
    (session : Session)
    {table : TableId}
    {handle : StatusHandle}
    (itsHandle : registry.registered.get? table = some handle) :
    (registry.commit session).1.get? handle =
      (registry.get? handle).map (settle (session.pending? table)) := by
  have committed := wellFormed.statusOf?_commit session table
  rw [statusOf?, statusOf?, registered_commit, itsHandle] at committed
  exact committed

/-- What a commit publishes reaches no other status. -/
theorem WellFormed.get?_commit_of_not_buffered
    (wellFormed : registry.WellFormed)
    (session : Session)
    {handle : StatusHandle}
    (notBuffered :
      ∀ table status change,
        registry.registered.get? table = some handle →
          registry.get? handle = some (.stored status) →
            session.pending? table ≠ some change) :
    (registry.commit session).1.get? handle = registry.get? handle := by
  by_cases known : ∃ table, registry.registered.get? table = some handle
  · rcases known with ⟨table, itsHandle⟩
    rw [wellFormed.get?_commit session itsHandle]
    rcases behind : registry.get? handle with _ | status | status
    · rfl
    · have nothing : session.pending? table = none :=
        Option.eq_none_iff_forall_ne_some.2 fun change =>
          notBuffered table status change itsHandle behind
      rw [nothing]
      rfl
    · -- a virtual status takes no change
      cases session.pending? table <;> rfl
  · exact
      (registry.publishAll_frame session.pending.entries 0).2 handle
        (not_exists.1 known)

/-- Detaching one status after another detaches what is behind their handles. -/
theorem get?_foldl_detach
    (registry : StatusRegistry)
    (handles : List StatusHandle)
    (handle : StatusHandle) :
    (handles.foldl (fun registry handle => registry.modify handle .detach)
        registry).get? handle =
      if handle ∈ handles then
        (registry.get? handle).map .detach
      else
        registry.get? handle := by
  have detach_twice (status : TableStatus) :
      status.detach.detach = status.detach := by
    cases status <;> rfl
  induction handles generalizing registry with
  | nil =>
      rfl
  | cons first rest ih =>
      rw [List.foldl_cons, ih, get?_modify]
      by_cases same : first = handle
      · subst same
        simp [detach_twice, Function.comp_def]
      · simp [same, Ne.symm same]

theorem registered_foldl_detach
    (registry : StatusRegistry)
    (handles : List StatusHandle) :
    (handles.foldl (fun registry handle => registry.modify handle .detach)
        registry).registered = registry.registered := by
  induction handles generalizing registry with
  | nil =>
      rfl
  | cons first rest ih =>
      exact ih (registry.modify first .detach)

@[simp]
theorem registered_detach (registry : StatusRegistry) :
    registry.detach.1.registered = registry.registered :=
  registry.registered_foldl_detach _

/-- The statuses that are detached are the registered virtual ones. -/
theorem get?_detach
    (registry : StatusRegistry)
    (handle : StatusHandle) :
    registry.detach.1.get? handle =
      if handle ∈ registry.registered.entries.map Prod.snd then
        (registry.get? handle).map .detach
      else
        registry.get? handle := by
  refine (registry.get?_foldl_detach _ handle).trans ?_
  by_cases known : handle ∈ registry.registered.entries.map Prod.snd
  · simp only [List.mem_filter, known, true_and, isVirtual]
    rcases registry.get? handle with _ | status | status
    · rfl
    · -- a stored status has no source to lose
      rfl
    · rfl
  · simp only [List.mem_filter, known, false_and]

theorem mem_handles_iff {handle : StatusHandle} :
    handle ∈ registry.registered.entries.map Prod.snd ↔
      ∃ table, registry.registered.get? table = some handle := by
  simp [SortedMap.get?_eq_some_iff]

/-- What is behind each handle after a clearing of a registered table. -/
theorem WellFormed.get?_clear
    (wellFormed : registry.WellFormed)
    (session : Session)
    {table : TableId}
    {handle : StatusHandle}
    (itsHandle : registry.registered.get? table = some handle)
    (other : StatusHandle) :
    (registry.clear table session).2.1.get? other =
      if handle = other then
        (registry.get? other).map .zeroed
      else
        registry.get? other := by
  rcases wellFormed table handle itsHandle with ⟨status, behind, -⟩
  rw [StatusRegistry.clear, itsHandle]
  cases status with
  | stored status =>
      simp only [behind]
      exact registry.get?_modify handle other .zeroed
  | virtual status =>
      simp only [behind]
      change registry.get? other = _
      split
      next same =>
        rw [← same, behind]
        rfl
      next =>
        rfl

/-- A clearing takes a virtual table out of the registry and nothing else. -/
theorem WellFormed.registered_clear
    (wellFormed : registry.WellFormed)
    (session : Session)
    {table : TableId}
    {handle : StatusHandle}
    (itsHandle : registry.registered.get? table = some handle)
    (other : TableId) :
    (registry.clear table session).2.1.registered.get? other =
      if other = table ∧ registry.isVirtual handle = true then
        none
      else
        registry.registered.get? other := by
  rcases wellFormed table handle itsHandle with ⟨status, behind, -⟩
  rw [StatusRegistry.clear, itsHandle, isVirtual]
  cases status with
  | stored status =>
      simp [behind]
  | virtual status =>
      simp [behind]

/-- A table that is registered can be cleared, and what is buffered for it is forgotten. -/
theorem clear_of_registered
    {table : TableId}
    {handle : StatusHandle}
    (itsHandle : registry.registered.get? table = some handle)
    (session : Session) :
    (registry.clear table session).1 = .ok () ∧
      (registry.clear table session).2.2.1 = session.discard table := by
  rw [StatusRegistry.clear, itsHandle]
  exact ⟨rfl, rfl⟩

/-- A table that is registered can be dropped, which is a clearing before it is taken out. -/
theorem drop_of_registered
    {table : TableId}
    {handle : StatusHandle}
    (itsHandle : registry.registered.get? table = some handle)
    (session : Session) :
    (registry.drop table session).1 = .ok () ∧
      (registry.drop table session).2.1 =
          { (registry.clear table session).2.1 with
            registered :=
              (registry.clear table session).2.1.registered.erase table } ∧
        (registry.drop table session).2.2.1 = session.discard table := by
  rw [StatusRegistry.drop, StatusRegistry.clear, itsHandle]
  exact ⟨rfl, rfl, rfl⟩

end StatusRegistry

/-! ## What is kept -/

namespace Sharing

variable {ι : Type} [DecidableEq ι]

/-- All that a session leaves alone when it clears or drops one table. -/
structure SparesOthers
    (before : Sharing ι)
    (who : ι)
    (table : TableId)
    (after : Sharing ι) :
    Prop where
  registered :
    ∀ other, other ≠ table →
      after.registry.registered.get? other =
        before.registry.registered.get? other
  /-- This covers the statuses of all other tables, and those of no table. -/
  statuses :
    ∀ handle, before.registry.registered.get? table ≠ some handle →
      after.registry.get? handle = before.registry.get? handle
  buffered :
    ∀ other, other ≠ table →
      (after.sessions who).pending? other =
        (before.sessions who).pending? other
  sessions :
    ∀ other, other ≠ who → after.sessions other = before.sessions other

/-- What a session does to a registered table that it clears or drops. -/
structure Resets
    (before : Sharing ι)
    (who : ι)
    (table : TableId)
    (handle : StatusHandle)
    (after : Sharing ι) :
    Prop extends SparesOthers before who table after where
  discarded : (after.sessions who).pending? table = none
  /-- All counters of a stored table are zero. -/
  zeroed :
    ∀ status,
      before.registry.get? handle = some (.stored status) →
        after.registry.get? handle =
          some (.stored
            { table := status.table
              rowCount := 0
              autoIncrement := 0
              uniqueId := 0 })
  /-- A virtual table keeps its source and its ids. -/
  kept :
    ∀ status,
      before.registry.get? handle = some (.virtual status) →
        after.registry.get? handle = some (.virtual status)

/-- What comes of detaching: every registered virtual status counts no rows. -/
structure Detaches (before after : Sharing ι) : Prop where
  sessions : after.sessions = before.sessions
  registered : after.registry.registered = before.registry.registered
  virtual :
    ∀ table handle status,
      before.registry.registered.get? table = some handle →
        before.registry.get? handle = some (.virtual status) →
          ∃ later,
            after.registry.get? handle = some later ∧
              later.kind = "memory" ∧
                later.uniqueId = status.uniqueId ∧
                  ∀ rows session,
                    later.rowCount rows session = 0 ∧
                      later.approximateRowCount rows = 0
  stored :
    ∀ handle status,
      before.registry.get? handle = some (.stored status) →
        after.registry.get? handle = some (.stored status)
  unregistered :
    ∀ handle,
      (∀ table, before.registry.registered.get? table ≠ some handle) →
        after.registry.get? handle = before.registry.get? handle

/-- What comes of a commit: row counts of registered stored tables, and an empty buffer. -/
structure Commits (before : Sharing ι) (who : ι) (after : Sharing ι) : Prop where
  registered : after.registry.registered = before.registry.registered
  counted :
    ∀ table handle status change,
      before.registry.registered.get? table = some handle →
        before.registry.get? handle = some (.stored status) →
          (before.sessions who).pending? table = some change →
            after.registry.get? handle =
              some (.stored
                { status with rowCount := change.resolve status.rowCount })
  spared :
    ∀ handle,
      (∀ table status change,
        before.registry.registered.get? table = some handle →
          before.registry.get? handle = some (.stored status) →
            (before.sessions who).pending? table ≠ some change) →
        after.registry.get? handle = before.registry.get? handle
  emptied : (after.sessions who).hasPendingChanges = false
  sessions :
    ∀ other, other ≠ who → after.sessions other = before.sessions other

/-- What may be relied on when a registry that sessions share is kept up. -/
structure KeepsUp (sharing : Sharing ι) : Prop where
  refused :
    ∀ who table,
      sharing.registry.registered.get? table = none →
        (sharing.registry.clear table (sharing.sessions who)).1 =
            .error (.unknownTable table) ∧
          (sharing.registry.drop table (sharing.sessions who)).1 =
              .error (.unknownTable table) ∧
            (StorageError.unknownTable table).code =
                "HKX_STORAGE_UNKNOWN_TABLE" ∧
              sharing.occur (.clear who table) = sharing ∧
                sharing.occur (.drop who table) = sharing
  cleared :
    ∀ who table handle,
      sharing.registry.registered.get? table = some handle →
        (sharing.registry.clear table (sharing.sessions who)).1 = .ok () ∧
          sharing.Resets who table handle
              (sharing.occur (.clear who table)) ∧
            (sharing.occur (.clear who table)).registry.registered.get? table =
              if sharing.registry.kindOf? table = some "memory" then
                none
              else
                some handle
  dropped :
    ∀ who table handle,
      sharing.registry.registered.get? table = some handle →
        (sharing.registry.drop table (sharing.sessions who)).1 = .ok () ∧
          sharing.Resets who table handle (sharing.occur (.drop who table)) ∧
            (sharing.occur (.drop who table)).registry.registered.get? table =
              none
  detached : sharing.Detaches (sharing.occur .detach)
  committed :
    ∀ who, sharing.Commits who (sharing.occur (.act who .commit))

/-! ## Each kind of upkeep -/

section Upkeep

variable
  {sharing : Sharing ι}
  {table : TableId}
  {handle : StatusHandle}

/-- Nothing comes of clearing or dropping a table that is not registered. -/
theorem occur_of_unregistered
    (sharing : Sharing ι)
    (who : ι)
    (unregistered : sharing.registry.registered.get? table = none) :
    sharing.occur (.clear who table) = sharing ∧
      sharing.occur (.drop who table) = sharing := by
  constructor
  · rw [occur, turn, StatusRegistry.clear, unregistered]
    exact sharing.withSession_self who
  · rw [occur, turn, StatusRegistry.drop, StatusRegistry.clear, unregistered]
    exact sharing.withSession_self who

/-- A session resets a table if it zeroes what is behind its handle and forgets its changes. -/
theorem resets_of_zeroed
    {who : ι}
    {after : Sharing ι}
    (itsHandle : sharing.registry.registered.get? table = some handle)
    (registered :
      ∀ other, other ≠ table →
        after.registry.registered.get? other =
          sharing.registry.registered.get? other)
    (zeroed :
      ∀ other,
        after.registry.get? other =
          if handle = other then
            (sharing.registry.get? other).map .zeroed
          else
            sharing.registry.get? other)
    (sessions :
      ∀ other,
        after.sessions other =
          if other = who then
            (sharing.sessions who).discard table
          else
            sharing.sessions other) :
    sharing.Resets who table handle after where
  registered := registered
  statuses := by
    intro other itsOther
    rw [zeroed, if_neg fun same => itsOther (itsHandle.trans (congrArg some same))]
  buffered := by
    intro other different
    rw [sessions, if_pos rfl, Session.pending?_discard, if_neg]
    exact fun same => different (Std.LawfulEqOrd.eq_of_compare same)
  sessions := fun other different => (sessions other).trans (if_neg different)
  discarded := by
    rw [sessions, if_pos rfl, Session.pending?_discard,
      if_pos Std.ReflOrd.compare_self]
  zeroed := by
    intro status stored
    rw [zeroed, if_pos rfl, stored]
    rfl
  kept := by
    intro status virtual
    rw [zeroed, if_pos rfl, virtual]
    rfl

theorem resets_clear
    (wellFormed : sharing.registry.WellFormed)
    (itsHandle : sharing.registry.registered.get? table = some handle)
    (who : ι) :
    sharing.Resets who table handle (sharing.occur (.clear who table)) := by
  refine resets_of_zeroed itsHandle ?_ (wellFormed.get?_clear _ itsHandle) ?_
  · intro other different
    exact (wellFormed.registered_clear _ itsHandle other).trans
      (if_neg fun both => different both.1)
  · intro other
    rw [← (StatusRegistry.clear_of_registered itsHandle _).2]
    rfl

theorem resets_drop
    (wellFormed : sharing.registry.WellFormed)
    (itsHandle : sharing.registry.registered.get? table = some handle)
    (who : ι) :
    sharing.Resets who table handle (sharing.occur (.drop who table)) ∧
      (sharing.occur (.drop who table)).registry.registered.get? table =
        none := by
  rcases
      StatusRegistry.drop_of_registered itsHandle (sharing.sessions who) with
    ⟨-, takenOut, discarded⟩
  have after :
      (sharing.occur (.drop who table)).registry =
        { (sharing.registry.clear table (sharing.sessions who)).2.1 with
          registered :=
            (sharing.registry.clear table
              (sharing.sessions who)).2.1.registered.erase table } :=
    takenOut
  constructor
  · refine resets_of_zeroed itsHandle ?_ ?_ ?_
    · intro other different
      rw [after, SortedMap.get?_erase, if_neg,
        wellFormed.registered_clear _ itsHandle other,
        if_neg fun both => different both.1]
      exact fun same => different (Std.LawfulEqOrd.eq_of_compare same)
    · rw [after]
      exact wellFormed.get?_clear _ itsHandle
    · intro other
      rw [← discarded]
      rfl
  · rw [after, SortedMap.get?_erase, if_pos Std.ReflOrd.compare_self]

/-- Only virtual tables are taken out of the registry when they are cleared. -/
theorem registered_occur_clear
    (wellFormed : sharing.registry.WellFormed)
    (itsHandle : sharing.registry.registered.get? table = some handle)
    (who : ι) :
    (sharing.occur (.clear who table)).registry.registered.get? table =
      if sharing.registry.kindOf? table = some "memory" then
        none
      else
        some handle := by
  refine (wellFormed.registered_clear _ itsHandle table).trans ?_
  rcases wellFormed table handle itsHandle with ⟨status, behind, -⟩
  rw [StatusRegistry.kindOf?, StatusRegistry.statusOf?, itsHandle,
    Option.bind_some, StatusRegistry.isVirtual, behind]
  cases status <;> simp [TableStatus.kind]

theorem detaches_detach (sharing : Sharing ι) :
    sharing.Detaches (sharing.occur .detach) where
  sessions := rfl
  registered := sharing.registry.registered_detach
  virtual := by
    intro table handle status itsHandle behind
    refine ⟨TableStatus.detach (.virtual status), ?_, rfl, rfl, fun _ _ => ⟨rfl, rfl⟩⟩
    refine (sharing.registry.get?_detach handle).trans ?_
    rw [if_pos (StatusRegistry.mem_handles_iff.2 ⟨table, itsHandle⟩), behind]
    rfl
  stored := by
    intro handle status behind
    refine (sharing.registry.get?_detach handle).trans ?_
    rw [behind]
    split <;> rfl
  unregistered := by
    intro handle unregistered
    refine (sharing.registry.get?_detach handle).trans (if_neg ?_)
    rw [StatusRegistry.mem_handles_iff]
    exact not_exists.2 unregistered

theorem commits_commit
    (wellFormed : sharing.registry.WellFormed)
    (who : ι) :
    sharing.Commits who (sharing.occur (.act who .commit)) where
  registered := sharing.registry.registered_commit (sharing.sessions who)
  counted := by
    intro table handle status change itsHandle behind buffered
    refine
      (wellFormed.get?_commit (sharing.sessions who) itsHandle).trans ?_
    rw [behind, buffered]
    rfl
  spared := fun handle =>
    wellFormed.get?_commit_of_not_buffered (sharing.sessions who)
  emptied := by
    change Session.hasPendingChanges (if who = who then _ else _) = false
    rw [if_pos rfl]
    rfl
  sessions := fun other different => if_neg different

theorem keepsUp_of_wellFormed
    (wellFormed : sharing.registry.WellFormed) :
    sharing.KeepsUp where
  refused := by
    intro who table unregistered
    rcases sharing.occur_of_unregistered who unregistered with
      ⟨cleared, dropped⟩
    rw [StatusRegistry.drop, StatusRegistry.clear, unregistered]
    exact ⟨rfl, rfl, rfl, cleared, dropped⟩
  cleared := by
    intro who table handle itsHandle
    exact ⟨(StatusRegistry.clear_of_registered itsHandle _).1,
      resets_clear wellFormed itsHandle who,
      registered_occur_clear wellFormed itsHandle who⟩
  dropped := by
    intro who table handle itsHandle
    exact ⟨(StatusRegistry.drop_of_registered itsHandle _).1,
      resets_drop wellFormed itsHandle who⟩
  detached := sharing.detaches_detach
  committed := commits_commit wellFormed

end Upkeep

/--
Whatever happened to a registry, and whatever the sessions buffer that now use
it: clearing and dropping reach one table alone or do nothing, detaching
reaches the registered virtual statuses, and committing the row counts of the
registered stored tables for which changes are buffered.
-/
theorem keepsUp_occurAll
    (starting sessions : ι → Session)
    (events : List (RegistryEvent ι)) :
    let reached :=
      (Sharing.mk {} starting : Sharing ι).occurAll events
    ({ reached with sessions := sessions } : Sharing ι).KeepsUp :=
  keepsUp_of_wellFormed
    (wellFormed_occurAll StatusRegistry.wellFormed_empty events)

end Sharing

end HierQuery
