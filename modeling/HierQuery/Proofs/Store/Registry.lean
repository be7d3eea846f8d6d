import HierQuery.Proofs.SortedMap
import HierQuery.StatusRegistry

/-!
# What the registry keeps in step

In a well-formed registry the handle registered for a table leads to a status
of that very table, so two tables never share a status.  Every operation
keeps this, and then each of them can be told by what it does to the status
of a table.  In particular a commit changes the status of a table exactly by
the change which the session buffers for that table.
-/

namespace HierQuery.StatusRegistry

/-- Each registered handle leads to a status of the table it is registered for. -/
def WellFormed (registry : StatusRegistry) : Prop :=
  ∀ table handle,
    registry.registered.get? table = some handle →
      ∃ status,
        registry.get? handle = some status ∧ status.table = table

theorem wellFormed_empty : WellFormed {} := by
  intro table handle registered
  cases registered

/-- The statuses of two tables do not share a handle. -/
theorem WellFormed.table_eq
    {registry : StatusRegistry}
    (wellFormed : registry.WellFormed)
    {first second : TableId}
    {handle : StatusHandle}
    (firstHandle : registry.registered.get? first = some handle)
    (secondHandle : registry.registered.get? second = some handle) :
    first = second := by
  rcases wellFormed first handle firstHandle with ⟨status, behind, firstTable⟩
  rcases wellFormed second handle secondHandle with
    ⟨other, alsoBehind, secondTable⟩
  have same : status = other :=
    Option.some.inj (behind.symm.trans alsoBehind)
  rw [← firstTable, ← secondTable, same]

theorem WellFormed.table_of_statusOf?
    {registry : StatusRegistry}
    (wellFormed : registry.WellFormed)
    {table : TableId}
    {status : TableStatus}
    (registered : registry.statusOf? table = some status) :
    status.table = table := by
  rcases Option.bind_eq_some_iff.1 registered with ⟨handle, itsHandle, behind⟩
  rcases wellFormed table handle itsHandle with ⟨found, alsoBehind, itsTable⟩
  have same : status = found :=
    Option.some.inj (behind.symm.trans alsoBehind)
  rw [same, itsTable]

theorem WellFormed.modify
    {registry : StatusRegistry}
    (wellFormed : registry.WellFormed)
    (handle : StatusHandle)
    {change : TableStatus → TableStatus}
    (sameTable : ∀ status, (change status).table = status.table) :
    (registry.modify handle change).WellFormed := by
  intro table other registered
  rcases wellFormed table other registered with ⟨status, behind, itsTable⟩
  rw [get?_modify, behind]
  by_cases changed : handle = other
  · exact ⟨change status, by simp [changed], by rw [sameTable, itsTable]⟩
  · exact ⟨status, by simp [changed], itsTable⟩

theorem get?_issue_of_get?
    {registry : StatusRegistry}
    {handle : StatusHandle}
    {status : TableStatus}
    (behind : registry.get? handle = some status)
    (fresh : TableStatus) :
    (registry.issue fresh).2.get? handle = some status := by
  have inside : handle.index < registry.issued.length :=
    (List.getElem?_eq_some_iff.1 behind).1
  simpa [issue, get?, List.getElem?_append_left inside] using behind

theorem WellFormed.issue
    {registry : StatusRegistry}
    (wellFormed : registry.WellFormed)
    (fresh : TableStatus) :
    (registry.issue fresh).2.WellFormed := by
  intro table handle registered
  change (registry.registered.insert fresh.table _).get? table = _
    at registered
  rw [SortedMap.get?_insert] at registered
  split at registered
  next same =>
    cases registered
    exact ⟨fresh, get?_issue registry fresh,
      (Std.LawfulEqOrd.eq_of_compare same).symm⟩
  next =>
    rcases wellFormed table handle registered with ⟨status, behind, itsTable⟩
    exact ⟨status, get?_issue_of_get? behind fresh, itsTable⟩

/-- A new status is the status of its table, and other tables keep theirs. -/
theorem WellFormed.statusOf?_issue
    {registry : StatusRegistry}
    (wellFormed : registry.WellFormed)
    (fresh : TableStatus)
    (table : TableId) :
    (registry.issue fresh).2.statusOf? table =
      if table = fresh.table then some fresh else registry.statusOf? table := by
  change ((registry.registered.insert fresh.table _).get? table).bind _ = _
  rw [SortedMap.get?_insert]
  simp only [Std.LawfulEqOrd.compare_eq_iff_eq]
  split
  · exact get?_issue registry fresh
  · rw [statusOf?]
    cases registered : registry.registered.get? table with
    | none =>
        rfl
    | some handle =>
        rcases wellFormed table handle registered with ⟨status, behind, -⟩
        rw [Option.bind_some, Option.bind_some, behind]
        exact get?_issue_of_get? behind fresh

/-- Changing the status of a registered table leaves the other tables alone. -/
theorem WellFormed.statusOf?_modify
    {registry : StatusRegistry}
    (wellFormed : registry.WellFormed)
    {table : TableId}
    {handle : StatusHandle}
    (registered : registry.registered.get? table = some handle)
    (change : TableStatus → TableStatus)
    (other : TableId) :
    (registry.modify handle change).statusOf? other =
      if other = table then
        (registry.statusOf? other).map change
      else
        registry.statusOf? other := by
  rw [statusOf?, statusOf?, registered_modify]
  cases otherHandle : registry.registered.get? other with
  | none =>
      simp
  | some found =>
      rw [Option.bind_some, Option.bind_some, get?_modify]
      by_cases same : other = table
      · have sameHandle : handle = found := by
          rw [same, registered] at otherHandle
          exact Option.some.inj otherHandle
        simp [same, sameHandle]
      · have otherFound : handle ≠ found := by
          rintro rfl
          exact same (wellFormed.table_eq otherHandle registered)
        simp [same, otherFound]

section Publishing

theorem WellFormed.publish
    {registry : StatusRegistry}
    (wellFormed : registry.WellFormed)
    (table : TableId)
    (change : PendingCount) :
    (registry.publish table change).2.WellFormed := by
  rw [StatusRegistry.publish]
  split
  · exact wellFormed
  · split
    · exact wellFormed.modify _ fun status => status.table_apply change
    · exact wellFormed

/-- Publishing a change applies it to the status of the table. -/
theorem WellFormed.statusOf?_publish
    {registry : StatusRegistry}
    (wellFormed : registry.WellFormed)
    (table : TableId)
    (change : PendingCount)
    (other : TableId) :
    (registry.publish table change).2.statusOf? other =
      if other = table then
        (registry.statusOf? other).map fun status => status.apply change
      else
        registry.statusOf? other := by
  rw [StatusRegistry.publish]
  split
  next unregistered =>
    split
    next same =>
      rw [same, statusOf?, unregistered]
      rfl
    next =>
      rfl
  next handle registered =>
    split
    next =>
      exact wellFormed.statusOf?_modify registered _ other
    next notStored =>
      split
      next same =>
        rcases wellFormed table handle registered with ⟨status, behind, -⟩
        cases status with
        | stored status =>
            exact (notStored status behind).elim
        | virtual status =>
            rw [same, statusOf?, registered, Option.bind_some, behind]
            rfl
      next =>
        rfl

/-- What is left of a status when a buffered change, if there is one, is published. -/
def settle (change? : Option PendingCount) (status : TableStatus) : TableStatus :=
  match change? with
  | some change => status.apply change
  | none => status

/-- Publishes changes one after another and counts those which a stored table took. -/
def publishAll
    (changes : List (TableId × PendingCount))
    (start : Nat × StatusRegistry) :
    Nat × StatusRegistry :=
  changes.foldl
    (fun (applied, registry) (table, change) =>
      let (taken, registry) := registry.publish table change
      (if taken then applied + 1 else applied, registry))
    start

theorem publishAll_spec
    {changes : List (TableId × PendingCount)}
    (ascending :
      changes.Pairwise fun first second =>
        compare first.1 second.1 = .lt)
    (applied : Nat)
    {registry : StatusRegistry}
    (wellFormed : registry.WellFormed) :
    (publishAll changes (applied, registry)).2.WellFormed ∧
      ∀ table,
        (publishAll changes (applied, registry)).2.statusOf? table =
          (registry.statusOf? table).map
            (settle
              ((changes.find? fun entry =>
                compare table entry.1 == .eq).map Prod.snd)) := by
  induction changes generalizing applied registry with
  | nil =>
      refine ⟨wellFormed, fun table => ?_⟩
      change registry.statusOf? table = (registry.statusOf? table).map id
      simp
  | cons head tail ih =>
      rcases head with ⟨changed, change⟩
      rcases List.pairwise_cons.1 ascending with ⟨above, rest⟩
      rcases
          ih rest
            (if (registry.publish changed change).1 then applied + 1
              else applied)
            (wellFormed.publish changed change) with
        ⟨tailWellFormed, tailStatus⟩
      refine ⟨tailWellFormed, fun table => ?_⟩
      rw [show publishAll ((changed, change) :: tail) (applied, registry) =
        publishAll tail
          (if (registry.publish changed change).1 then applied + 1
            else applied, (registry.publish changed change).2) from rfl,
        tailStatus, wellFormed.statusOf?_publish]
      by_cases same : table = changed
      · subst same
        have notLater :
            (tail.find? fun entry => compare table entry.1 == .eq) =
              none := by
          apply List.find?_eq_none.2
          intro entry member
          simp [above entry member]
        rw [notLater, if_pos rfl, Option.map_map]
        simp only [List.find?_cons, Std.ReflOrd.compare_self, BEq.rfl]
        rfl
      · simp [same]

theorem WellFormed.commit
    {registry : StatusRegistry}
    (wellFormed : registry.WellFormed)
    (session : Session) :
    (registry.commit session).1.WellFormed :=
  (publishAll_spec session.pending.ascending 0 wellFormed).1

/-- A commit publishes for each table what the session buffers for it. -/
theorem WellFormed.statusOf?_commit
    {registry : StatusRegistry}
    (wellFormed : registry.WellFormed)
    (session : Session)
    (table : TableId) :
    (registry.commit session).1.statusOf? table =
      (registry.statusOf? table).map (settle (session.pending? table)) :=
  (publishAll_spec session.pending.ascending 0 wellFormed).2 table

end Publishing

section Creating

theorem WellFormed.createStored
    {registry : StatusRegistry}
    (wellFormed : registry.WellFormed)
    (table : TableId) :
    (registry.createStored table).2.1.WellFormed := by
  rw [StatusRegistry.createStored]
  split
  · exact wellFormed
  · exact wellFormed.issue _

/-- Registering a table gives it a stored status with nothing counted, unless it has a status. -/
theorem WellFormed.statusOf?_createStored
    {registry : StatusRegistry}
    (wellFormed : registry.WellFormed)
    (table other : TableId) :
    (registry.createStored table).2.1.statusOf? other =
      if other = table then
        (registry.statusOf? other).or (some (.stored { table }))
      else
        registry.statusOf? other := by
  rw [StatusRegistry.createStored]
  split
  next handle registered =>
    rcases wellFormed table handle registered with ⟨status, behind, -⟩
    split
    next same =>
      rw [same, statusOf?, registered, Option.bind_some, behind]
      rfl
    next =>
      rfl
  next unregistered =>
    refine (wellFormed.statusOf?_issue (.stored { table }) other).trans ?_
    change (if other = table then _ else _) = _
    split
    next same =>
      rw [same, statusOf?, unregistered]
      rfl
    next =>
      rfl

theorem WellFormed.createVirtual
    {registry : StatusRegistry}
    (wellFormed : registry.WellFormed)
    (table : TableId)
    (source : RowSource) :
    (registry.createVirtual table source).2.1.WellFormed := by
  rw [StatusRegistry.createVirtual]
  split
  · split
    · refine wellFormed.modify _ fun status => ?_
      cases status <;> rfl
    · exact wellFormed
  · exact wellFormed.issue _

/-- Registering a virtual table leaves the status of each stored one alone. -/
theorem WellFormed.statusOf?_createVirtual
    {registry : StatusRegistry}
    (wellFormed : registry.WellFormed)
    (table : TableId)
    (source : RowSource)
    {other : TableId}
    {status : StoredStatus}
    (stored : registry.statusOf? other = some (.stored status)) :
    (registry.createVirtual table source).2.1.statusOf? other =
      some (.stored status) := by
  rw [StatusRegistry.createVirtual]
  split
  next handle registered =>
    split
    · refine (wellFormed.statusOf?_modify registered _ other).trans ?_
      rw [stored]
      split <;> rfl
    · exact stored
  next unregistered =>
    refine (wellFormed.statusOf?_issue _ other).trans ?_
    rw [if_neg, stored]
    rintro rfl
    rw [statusOf?, unregistered] at stored
    cases stored

end Creating

end HierQuery.StatusRegistry
