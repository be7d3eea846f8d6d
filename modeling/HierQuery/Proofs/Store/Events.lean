import HierQuery.Proofs.Store.Sharing

/-!
# All that may happen to a shared registry

Besides the counting and committing of sessions, tables are registered, cleared
and dropped, virtual tables lose their sources, and some counters change at
once.  Each event keeps a registry well-formed, and `kindAfter` tells what
becomes of the kind of table that is registered under a number.  The kind of a
status never changes, so only registering, clearing and dropping matter.
-/

namespace HierQuery

/-! ## Kinds -/

namespace TableStatus

@[simp]
theorem kind_apply (status : TableStatus) (change : PendingCount) :
    (status.apply change).kind = status.kind := by
  cases status <;> rfl

@[simp]
theorem kind_zeroed (status : TableStatus) :
    status.zeroed.kind = status.kind := by
  cases status <;> rfl

@[simp]
theorem kind_attach (status : TableStatus) (source : RowSource) :
    (status.attach source).kind = status.kind := by
  cases status <;> rfl

@[simp]
theorem kind_detach (status : TableStatus) :
    status.detach.kind = status.kind := by
  cases status <;> rfl

@[simp]
theorem table_detach (status : TableStatus) :
    status.detach.table = status.table := by
  cases status <;> rfl

end TableStatus

@[simp]
theorem CountCall.kind_on
    (made : CountCall)
    (status : TableStatus)
    (session : Session) :
    (made.on status session).1.kind = status.kind := by
  cases made with
  | rowsWritten | rowDeleted | setRowCount =>
      rfl
  | truncate =>
      cases status <;> rfl

/-- The calls on a status that take effect at once. -/
inductive CounterCall
  | raiseAutoIncrement (mark : Int64)
  | resetAutoIncrement (mark : Int64)
  | issueUniqueId
deriving DecidableEq

namespace CounterCall

/-- The status after a call. -/
def on : CounterCall → TableStatus → TableStatus
  | raiseAutoIncrement mark, status => status.raiseAutoIncrement mark
  | resetAutoIncrement mark, status => status.resetAutoIncrement mark
  | issueUniqueId, status => status.issueUniqueId.2

@[simp]
theorem kind_on (made : CounterCall) (status : TableStatus) :
    (made.on status).kind = status.kind := by
  cases made <;> cases status <;> rfl

@[simp]
theorem table_on (made : CounterCall) (status : TableStatus) :
    (made.on status).table = status.table := by
  cases made <;> cases status <;> rfl

end CounterCall

namespace StatusRegistry

/-- The word for the kind of table that is registered under a number. -/
def kindOf? (registry : StatusRegistry) (table : TableId) : Option String :=
  (registry.statusOf? table).map TableStatus.kind

theorem kindOf?_modify
    (registry : StatusRegistry)
    (handle : StatusHandle)
    {change : TableStatus → TableStatus}
    (sameKind : ∀ status, (change status).kind = status.kind)
    (table : TableId) :
    (registry.modify handle change).kindOf? table =
      registry.kindOf? table := by
  rw [kindOf?, kindOf?, statusOf?, statusOf?, registered_modify]
  cases registry.registered.get? table with
  | none =>
      rfl
  | some found =>
      rw [Option.bind_some, Option.bind_some, get?_modify]
      split
      · rw [Option.map_map]
        exact congrArg (fun kind => (registry.get? found).map kind)
          (funext sameKind)
      · rfl

@[simp]
theorem kindOf?_publish
    (registry : StatusRegistry)
    (changed : TableId)
    (change : PendingCount)
    (table : TableId) :
    (registry.publish changed change).2.kindOf? table =
      registry.kindOf? table := by
  rw [publish]
  split
  · rfl
  · split
    · exact registry.kindOf?_modify _ (fun status => status.kind_apply change)
        table
    · rfl

theorem kindOf?_publishAll
    (registry : StatusRegistry)
    (changes : List (TableId × PendingCount))
    (applied : Nat)
    (table : TableId) :
    (publishAll changes (applied, registry)).2.kindOf? table =
      registry.kindOf? table := by
  induction changes generalizing applied registry with
  | nil =>
      rfl
  | cons head tail ih =>
      exact (ih _ _).trans (registry.kindOf?_publish head.1 head.2 table)

@[simp]
theorem kindOf?_commit
    (registry : StatusRegistry)
    (session : Session)
    (table : TableId) :
    (registry.commit session).1.kindOf? table = registry.kindOf? table :=
  registry.kindOf?_publishAll session.pending.entries 0 table

theorem statusOf?_erase
    (registry : StatusRegistry)
    (erased table : TableId) :
    ({ registry with registered := registry.registered.erase erased }
      : StatusRegistry).statusOf? table =
      if table = erased then none else registry.statusOf? table := by
  rw [statusOf?]
  change ((registry.registered.erase erased).get? table).bind registry.get? = _
  rw [SortedMap.get?_erase]
  simp only [Std.LawfulEqOrd.compare_eq_iff_eq]
  split <;> rfl

/-- Taking the sources away changes no kind and leaves a registry well-formed. -/
theorem detach_spec (registry : StatusRegistry) :
    (∀ table, registry.detach.1.kindOf? table = registry.kindOf? table) ∧
      (registry.WellFormed → registry.detach.1.WellFormed) := by
  rw [detach]
  generalize (registry.registered.entries.map Prod.snd).filter
    registry.isVirtual = virtuals
  dsimp only
  induction virtuals generalizing registry with
  | nil =>
      exact ⟨fun _ => rfl, id⟩
  | cons handle rest ih =>
      rcases ih (registry.modify handle .detach) with ⟨sameKinds, keeps⟩
      constructor
      · intro table
        exact (sameKinds table).trans
          (registry.kindOf?_modify handle TableStatus.kind_detach table)
      · intro wellFormed
        exact keeps (wellFormed.modify handle TableStatus.table_detach)

namespace WellFormed

variable
  {registry : StatusRegistry}

theorem erase
    (wellFormed : registry.WellFormed)
    (erased : TableId) :
    ({ registry with registered := registry.registered.erase erased }
      : StatusRegistry).WellFormed := by
  intro table handle registered
  change (registry.registered.erase erased).get? table = _ at registered
  rw [SortedMap.get?_erase] at registered
  split at registered
  · cases registered
  · exact wellFormed table handle registered

theorem clear
    (wellFormed : registry.WellFormed)
    (cleared : TableId)
    (session : Session) :
    (registry.clear cleared session).2.1.WellFormed := by
  rw [StatusRegistry.clear]
  split
  · exact wellFormed
  · dsimp only
    split
    · exact wellFormed.erase cleared
    · exact wellFormed.modify _ TableStatus.table_zeroed
    · exact wellFormed

/-- Clearing takes a virtual table out of the registry and no stored one. -/
theorem kindOf?_clear
    (wellFormed : registry.WellFormed)
    (cleared : TableId)
    (session : Session)
    (table : TableId) :
    (registry.clear cleared session).2.1.kindOf? table =
      if table = cleared ∧ registry.kindOf? table = some "memory" then
        none
      else
        registry.kindOf? table := by
  rw [StatusRegistry.clear]
  cases registered : registry.registered.get? cleared with
  | none =>
      rw [if_neg]
      rintro ⟨rfl, kind⟩
      rw [kindOf?, statusOf?, registered] at kind
      cases kind
  | some handle =>
      rcases wellFormed cleared handle registered with ⟨status, behind, -⟩
      have itsStatus : registry.statusOf? cleared = some status := by
        rw [statusOf?, registered, Option.bind_some, behind]
      cases status with
      | virtual status =>
          simp only [behind]
          rw [kindOf?, statusOf?_erase]
          by_cases same : table = cleared
          · subst same
            rw [if_pos rfl, if_pos ⟨rfl, by rw [kindOf?, itsStatus]; rfl⟩]
            rfl
          · rw [if_neg same, if_neg fun both => same both.1]
            rfl
      | stored status =>
          simp only [behind]
          rw [if_neg, kindOf?_modify _ _ TableStatus.kind_zeroed]
          rintro ⟨rfl, kind⟩
          simp [kindOf?, itsStatus, TableStatus.kind] at kind

end WellFormed

/-- A drop is a clearing after which nothing is registered for the table. -/
theorem registry_drop
    (registry : StatusRegistry)
    (dropped : TableId)
    (session : Session) :
    (registry.drop dropped session).2.1 =
        { (registry.clear dropped session).2.1 with
          registered :=
            (registry.clear dropped session).2.1.registered.erase dropped } ∨
      registry.registered.get? dropped = none ∧
        (registry.drop dropped session).2.1 = registry := by
  rw [drop, clear]
  cases registered : registry.registered.get? dropped with
  | none =>
      exact .inr ⟨rfl, rfl⟩
  | some handle =>
      exact .inl rfl

theorem WellFormed.drop
    {registry : StatusRegistry}
    (wellFormed : registry.WellFormed)
    (dropped : TableId)
    (session : Session) :
    (registry.drop dropped session).2.1.WellFormed := by
  rcases registry.registry_drop dropped session with same | ⟨-, same⟩
  · rw [same]
    exact (wellFormed.clear dropped session).erase dropped
  · rw [same]
    exact wellFormed

theorem WellFormed.kindOf?_drop
    {registry : StatusRegistry}
    (wellFormed : registry.WellFormed)
    (dropped : TableId)
    (session : Session)
    (table : TableId) :
    (registry.drop dropped session).2.1.kindOf? table =
      if table = dropped then none else registry.kindOf? table := by
  rcases registry.registry_drop dropped session with same | ⟨unregistered, same⟩
  · rw [same, kindOf?, statusOf?_erase]
    split
    next =>
      rfl
    next other =>
      refine (wellFormed.kindOf?_clear dropped session table).trans ?_
      rw [if_neg fun both => other both.1]
  · rw [same]
    split
    next isDropped =>
      rw [isDropped, kindOf?, statusOf?, unregistered]
      rfl
    next =>
      rfl

theorem WellFormed.kindOf?_createStored
    {registry : StatusRegistry}
    (wellFormed : registry.WellFormed)
    (created table : TableId) :
    (registry.createStored created).2.1.kindOf? table =
      if table = created then
        (registry.kindOf? table).or (some "stored")
      else
        registry.kindOf? table := by
  rw [kindOf?, wellFormed.statusOf?_createStored, kindOf?]
  split
  · rw [Option.map_or]
    rfl
  · rfl

theorem WellFormed.kindOf?_createVirtual
    {registry : StatusRegistry}
    (wellFormed : registry.WellFormed)
    (created : TableId)
    (source : RowSource)
    (table : TableId) :
    (registry.createVirtual created source).2.1.kindOf? table =
      if table = created then
        (registry.kindOf? table).or (some "memory")
      else
        registry.kindOf? table := by
  have known :
      ∀ handle, registry.registered.get? created = some handle →
        (if table = created then (registry.kindOf? table).or (some "memory")
          else registry.kindOf? table) = registry.kindOf? table := by
    intro handle registered
    split
    next same =>
      rcases wellFormed created handle registered with ⟨status, behind, -⟩
      rw [same, kindOf?, statusOf?, registered, Option.bind_some, behind]
      rfl
    next =>
      rfl
  rw [StatusRegistry.createVirtual]
  split
  next handle registered =>
    rw [known handle registered]
    split
    · exact registry.kindOf?_modify handle
        (fun status => status.kind_attach source) table
    · rfl
  next unregistered =>
    rw [kindOf?]
    refine (congrArg _ (wellFormed.statusOf?_issue _ table)).trans ?_
    change Option.map _ (if table = created then _ else _) = _
    split
    next same =>
      rw [same, kindOf?, statusOf?, unregistered]
      rfl
    next =>
      rfl

end StatusRegistry

/-! ## Events -/

/-- What may happen to a registry and to the sessions that share it. -/
inductive RegistryEvent (ι : Type)
  | act (who : ι) (action : SessionAction)
  | count (handle : StatusHandle) (made : CounterCall)
  | createStored (table : TableId)
  | createVirtual (table : TableId) (source : RowSource)
  | detach
  | clear (who : ι) (table : TableId)
  | drop (who : ι) (table : TableId)
deriving DecidableEq

/-- The kind of table that is registered under a number after an event. -/
def RegistryEvent.kindAfter
    {ι : Type}
    (table : TableId)
    (before : Option String) :
    RegistryEvent ι → Option String
  | createStored created =>
      if table = created then before.or (some "stored") else before
  | createVirtual created _ =>
      if table = created then before.or (some "memory") else before
  | clear _ cleared =>
      if table = cleared ∧ before = some "memory" then none else before
  | drop _ dropped =>
      if table = dropped then none else before
  | act _ _ | count _ _ | detach => before

namespace Sharing

variable {ι : Type} [DecidableEq ι]

/-- The registry and the sessions after an event. -/
def occur (sharing : Sharing ι) : RegistryEvent ι → Sharing ι
  | .act who action => sharing.perform who action
  | .count handle made =>
      { sharing with registry := sharing.registry.modify handle made.on }
  | .createStored table =>
      { sharing with registry := (sharing.registry.createStored table).2.1 }
  | .createVirtual table source =>
      { sharing with
        registry := (sharing.registry.createVirtual table source).2.1 }
  | .detach =>
      { sharing with registry := sharing.registry.detach.1 }
  | .clear who table =>
      sharing.turn who fun registry session =>
        let cleared := registry.clear table session
        (cleared.2.1, cleared.2.2.1)
  | .drop who table =>
      sharing.turn who fun registry session =>
        let dropped := registry.drop table session
        (dropped.2.1, dropped.2.2.1)

/-- The registry and the sessions after events, one after another. -/
def occurAll (sharing : Sharing ι) (events : List (RegistryEvent ι)) : Sharing ι :=
  events.foldl occur sharing

variable {sharing : Sharing ι}

theorem wellFormed_occur
    (wellFormed : sharing.registry.WellFormed)
    (event : RegistryEvent ι) :
    (sharing.occur event).registry.WellFormed := by
  cases event with
  | act who action =>
      cases action with
      | call handle made =>
          rw [occur, perform, turn, SessionAction.on]
          cases sharing.registry.get? handle with
          | none =>
              exact wellFormed
          | some status =>
              exact wellFormed.modify handle fun status =>
                made.table_on status _
      | commit =>
          exact wellFormed.commit _
      | rollback =>
          exact wellFormed
  | count handle made =>
      exact wellFormed.modify handle made.table_on
  | createStored table =>
      exact wellFormed.createStored table
  | createVirtual table source =>
      exact wellFormed.createVirtual table source
  | detach =>
      exact sharing.registry.detach_spec.2 wellFormed
  | clear who table =>
      exact wellFormed.clear table _
  | drop who table =>
      exact wellFormed.drop table _

theorem wellFormed_occurAll
    (wellFormed : sharing.registry.WellFormed)
    (events : List (RegistryEvent ι)) :
    (sharing.occurAll events).registry.WellFormed := by
  induction events generalizing sharing with
  | nil =>
      exact wellFormed
  | cons event later ih =>
      exact ih (wellFormed_occur wellFormed event)

/-- What an event does to the kind of table that is registered under a number. -/
theorem kindOf?_occur
    (wellFormed : sharing.registry.WellFormed)
    (event : RegistryEvent ι)
    (table : TableId) :
    (sharing.occur event).registry.kindOf? table =
      event.kindAfter table (sharing.registry.kindOf? table) := by
  cases event with
  | act who action =>
      cases action with
      | call handle made =>
          rw [occur, perform, turn, SessionAction.on]
          cases sharing.registry.get? handle with
          | none =>
              rfl
          | some status =>
              exact StatusRegistry.kindOf?_modify _ handle
                (fun status => made.kind_on status _) table
      | commit =>
          exact StatusRegistry.kindOf?_commit _ _ table
      | rollback =>
          rfl
  | count handle made =>
      exact StatusRegistry.kindOf?_modify _ handle made.kind_on table
  | createStored created =>
      exact wellFormed.kindOf?_createStored created table
  | createVirtual created source =>
      exact wellFormed.kindOf?_createVirtual created source table
  | detach =>
      exact sharing.registry.detach_spec.1 table
  | clear who cleared =>
      exact wellFormed.kindOf?_clear cleared _ table
  | drop who dropped =>
      exact wellFormed.kindOf?_drop dropped _ table

end Sharing

end HierQuery
