import HierQuery.Proofs.Store.Events

/-!
# Changes buffered for a dropped table

A session buffers its changes by table, so what it buffers for a table
outlives the table if another session drops it.  As long as no stored table is
registered under that number again, no commit publishes such a change: the
registry goes on as if the change had been thrown away with the table.  Once
the session has committed or rolled back, nothing is left of the change.  Only
the session that drops the table forgets its change at once.

A table that is registered again before that is another matter.  The change
then counts for the new table, of which its session never heard.
-/

namespace HierQuery

/-! ## Sessions that differ in one table -/

/-- Two states of a session that differ at most in what is buffered for one table. -/
structure Session.AlikeBut
    (table : TableId)
    (first second : Session) :
    Prop where
  id : first.id = second.id
  pending :
    ∀ other, other ≠ table →
      first.pending? other = second.pending? other

namespace Session.AlikeBut

variable
  {table : TableId}
  {first second : Session}

theorem refl (table : TableId) (session : Session) :
    session.AlikeBut table session :=
  ⟨rfl, fun _ _ => rfl⟩

theorem discard (table : TableId) (session : Session) :
    session.AlikeBut table (session.discard table) where
  id := rfl
  pending := by
    intro other different
    simp [different]

/-- Without the change of the table, the two states are one. -/
theorem discard_eq (alike : first.AlikeBut table second) :
    first.discard table = second.discard table := by
  have samePending :
      first.pending.erase table = second.pending.erase table := by
    apply SortedMap.eq_of_get?
    intro other
    have kept := alike.pending other
    by_cases same : other = table
    · simp [same]
    · simpa [same, Session.pending?] using kept same
  rw [Session.discard, Session.discard, alike.id, samePending]

theorem addRows
    (alike : first.AlikeBut table second)
    (changed : TableId)
    (count : Int64) :
    (first.addRows changed count).AlikeBut table
      (second.addRows changed count) where
  id := alike.id
  pending := by
    intro other different
    rw [pending?_addRows, pending?_addRows]
    split
    next same =>
      have isChanged : other = changed :=
        Std.LawfulEqOrd.eq_of_compare same
      rw [← isChanged, alike.pending other different]
    next =>
      exact alike.pending other different

theorem setRows
    (alike : first.AlikeBut table second)
    (changed : TableId)
    (count : Int64) :
    (first.setRows changed count).AlikeBut table
      (second.setRows changed count) where
  id := alike.id
  pending := by
    intro other different
    rw [pending?_setRows, pending?_setRows, alike.pending other different]

theorem discardBoth
    (alike : first.AlikeBut table second)
    (cleared : TableId) :
    (first.discard cleared).AlikeBut table (second.discard cleared) where
  id := alike.id
  pending := by
    intro other different
    rw [pending?_discard, pending?_discard, alike.pending other different]

theorem drained_eq (alike : first.AlikeBut table second) :
    first.drained = second.drained := by
  rw [drained, drained, alike.id]

/-- A call does the same to both states and to the status. -/
theorem on
    (alike : first.AlikeBut table second)
    (made : CountCall)
    (status : TableStatus) :
    (made.on status first).1 = (made.on status second).1 ∧
      (made.on status first).2.AlikeBut table (made.on status second).2 := by
  refine ⟨by cases made <;> rfl, ?_⟩
  cases status with
  | virtual status =>
      cases made <;> exact alike
  | stored status =>
      cases made with
      | rowsWritten count =>
          exact alike.addRows status.table count
      | rowDeleted =>
          exact alike.addRows status.table (-1)
      | setRowCount count =>
          exact alike.setRows status.table count
      | truncate =>
          exact alike.setRows status.table 0

end Session.AlikeBut

/-! ## Tables that are not stored -/

namespace StatusRegistry

/-- No stored table is registered under a number. -/
def NotStored (registry : StatusRegistry) (table : TableId) : Prop :=
  registry.kindOf? table ≠ some "stored"

section Publishing

variable
  {registry : StatusRegistry}
  {table : TableId}

/-- A change for a table that is not stored is published to nobody. -/
theorem NotStored.publish_eq
    (notStored : registry.NotStored table)
    (change : PendingCount) :
    registry.publish table change = (false, registry) := by
  rw [publish]
  split
  next =>
    rfl
  next handle registered =>
    split
    next status behind =>
      refine (notStored ?_).elim
      rw [kindOf?, statusOf?, registered, Option.bind_some, behind]
      rfl
    next =>
      rfl

/-- Changes publish the same without the one for a table that is not stored. -/
theorem NotStored.publishAll_filter
    (notStored : registry.NotStored table)
    (changes : List (TableId × PendingCount))
    (applied : Nat) :
    publishAll (changes.filter fun entry => compare table entry.1 != .eq)
        (applied, registry) =
      publishAll changes (applied, registry) := by
  induction changes generalizing applied registry with
  | nil =>
      rfl
  | cons head tail ih =>
      rcases head with ⟨changed, change⟩
      by_cases same : table = changed
      · subst same
        have unpublished :
            publishAll ((table, change) :: tail) (applied, registry) =
              publishAll tail (applied, registry) := by
          change publishAll tail
            (if (registry.publish table change).1 then applied + 1
              else applied, (registry.publish table change).2) = _
          rw [notStored.publish_eq]
          rfl
        rw [unpublished, List.filter_cons_of_neg (by simp)]
        exact ih notStored applied
      · rw [List.filter_cons_of_pos (by simpa using same)]
        have stillNotStored :
            (registry.publish changed change).2.NotStored table := by
          rw [NotStored, kindOf?_publish]
          exact notStored
        exact ih stillNotStored _

/-- What a session buffers for a table that is not stored makes no difference to a commit. -/
theorem NotStored.commit_discard
    (notStored : registry.NotStored table)
    (session : Session) :
    (registry.commit (session.discard table)).1 =
      (registry.commit session).1 :=
  congrArg Prod.snd
    (notStored.publishAll_filter session.pending.entries 0)

end Publishing

end StatusRegistry

namespace Sharing

variable {ι : Type} [DecidableEq ι]

/-- The same, but a session has forgotten its buffered change of a table. -/
def forgetting
    (sharing : Sharing ι)
    (who : ι)
    (table : TableId) :
    Sharing ι :=
  sharing.withSession who ((sharing.sessions who).discard table)

/--
The session commits or rolls back before a stored table is registered under
the number, if that ever happens.
-/
def FinishesBeforeCreation
    (who : ι)
    (table : TableId) :
    List (RegistryEvent ι) → Prop
  | [] => True
  | .createStored created :: later =>
      created ≠ table ∧ FinishesBeforeCreation who table later
  | .act actor .commit :: later | .act actor .rollback :: later =>
      actor = who ∨ FinishesBeforeCreation who table later
  | _ :: later => FinishesBeforeCreation who table later

/-! ## One event -/

/-- A step does the same to sessions that differ at most in what they buffer for the table. -/
def Overlooks
    (table : TableId)
    (registry : StatusRegistry)
    (step : StatusRegistry → Session → StatusRegistry × Session) :
    Prop :=
  ∀ first second : Session, first.AlikeBut table second →
    (step registry first).1 = (step registry second).1 ∧
      (step registry first).2.AlikeBut table (step registry second).2

section Steps

variable
  {sharing : Sharing ι}
  {who : ι}
  {table : TableId}
  {other : Session}

theorem overlooks_action
    {registry : StatusRegistry}
    (notStored : registry.NotStored table)
    (action : SessionAction) :
    Overlooks table registry action.on := by
  intro first second alike
  cases action with
  | call handle made =>
      rw [SessionAction.on, SessionAction.on]
      cases registry.get? handle with
      | none =>
          exact ⟨rfl, alike⟩
      | some status =>
          have sameStatus :
              (fun status => (made.on status first).1) =
                fun status => (made.on status second).1 :=
            funext fun status => (alike.on made status).1
          exact ⟨congrArg (registry.modify handle) sameStatus,
            (alike.on made status).2⟩
  | commit =>
      have sameRegistry :
          (registry.commit first).1 = (registry.commit second).1 := by
        rw [← notStored.commit_discard first, alike.discard_eq,
          notStored.commit_discard second]
      refine ⟨sameRegistry, ?_⟩
      change first.drained.AlikeBut table second.drained
      rw [alike.drained_eq]
      exact .refl table _
  | rollback =>
      refine ⟨rfl, ?_⟩
      change first.drained.AlikeBut table second.drained
      rw [alike.drained_eq]
      exact .refl table _

theorem overlooks_clear
    (registry : StatusRegistry)
    (cleared : TableId) :
    Overlooks table registry fun registry session =>
      ((registry.clear cleared session).2.1,
        (registry.clear cleared session).2.2.1) := by
  intro first second alike
  simp only [StatusRegistry.clear]
  cases registry.registered.get? cleared with
  | none =>
      exact ⟨rfl, alike⟩
  | some handle =>
      exact ⟨rfl, alike.discardBoth cleared⟩

theorem overlooks_drop
    (registry : StatusRegistry)
    (dropped : TableId) :
    Overlooks table registry fun registry session =>
      ((registry.drop dropped session).2.1,
        (registry.drop dropped session).2.2.1) := by
  intro first second alike
  simp only [StatusRegistry.drop, StatusRegistry.clear]
  cases registry.registered.get? dropped with
  | none =>
      exact ⟨rfl, alike⟩
  | some handle =>
      exact ⟨rfl, alike.discardBoth dropped⟩

/-- Steps of sessions do the same, whatever one session buffers for the table. -/
theorem turn_withSession
    (alike : (sharing.sessions who).AlikeBut table other)
    {actor : ι}
    {step : StatusRegistry → Session → StatusRegistry × Session}
    (overlooks : Overlooks table sharing.registry step) :
    ∃ left,
      ((sharing.turn actor step).sessions who).AlikeBut table left ∧
        (sharing.withSession who other).turn actor step =
          (sharing.turn actor step).withSession who left := by
  by_cases isActor : actor = who
  · subst isActor
    rcases overlooks _ _ alike with ⟨sameRegistry, stillAlike⟩
    refine ⟨(step sharing.registry other).2, ?_, ?_⟩
    · simpa [turn] using stillAlike
    · simp only [turn, withSession, if_pos, sameRegistry, mk.injEq,
        true_and]
      ext1 reader
      split <;> rfl
  · refine ⟨other, ?_, ?_⟩
    · simpa [turn, Ne.symm isActor] using alike
    · simp only [turn, withSession, if_neg isActor, mk.injEq, true_and]
      ext1 reader
      by_cases isReader : reader = actor
      · simp [isReader, isActor]
      · simp [isReader]

/-- An event leaves a table not stored, unless the event registers it. -/
theorem notStored_occur
    (wellFormed : sharing.registry.WellFormed)
    (notStored : sharing.registry.NotStored table)
    {event : RegistryEvent ι}
    (other : event ≠ .createStored table) :
    (sharing.occur event).registry.NotStored table := by
  rw [StatusRegistry.NotStored, kindOf?_occur wellFormed]
  cases event with
  | act | count | detach =>
      exact notStored
  | createStored created =>
      have different : table ≠ created := by
        rintro rfl
        exact other rfl
      rw [RegistryEvent.kindAfter, if_neg different]
      exact notStored
  | createVirtual created source =>
      rw [RegistryEvent.kindAfter]
      split
      · cases before : sharing.registry.kindOf? table with
        | none =>
            simp
        | some kind =>
            rw [Option.some_or, ← before]
            exact notStored
      · exact notStored
  | clear | drop =>
      rw [RegistryEvent.kindAfter]
      split
      · exact nofun
      · exact notStored

/-- An event does the same, whatever one session buffers for a table that is not stored. -/
theorem occur_withSession
    (notStored : sharing.registry.NotStored table)
    (alike : (sharing.sessions who).AlikeBut table other)
    (event : RegistryEvent ι) :
    ∃ left,
      ((sharing.occur event).sessions who).AlikeBut table left ∧
        (sharing.withSession who other).occur event =
          (sharing.occur event).withSession who left := by
  cases event with
  | act actor action =>
      exact turn_withSession alike (overlooks_action notStored action)
  | clear actor cleared =>
      exact turn_withSession alike (overlooks_clear _ cleared)
  | drop actor dropped =>
      exact turn_withSession alike (overlooks_drop _ dropped)
  | count | createStored | createVirtual | detach =>
      exact ⟨other, alike, rfl⟩

/-- A commit or rollback of the session leaves nothing of its change of the table. -/
theorem perform_withSession
    (notStored : sharing.registry.NotStored table)
    (alike : (sharing.sessions who).AlikeBut table other)
    {action : SessionAction}
    (finishes : action = .commit ∨ action = .rollback) :
    (sharing.withSession who other).perform who action =
      sharing.perform who action := by
  rcases overlooks_action notStored action _ _ alike with
    ⟨sameRegistry, -⟩
  have sameSession :
      (action.on sharing.registry (sharing.sessions who)).2 =
        (action.on sharing.registry other).2 := by
    rcases finishes with rfl | rfl <;> exact alike.drained_eq
  simp only [perform, turn, withSession, if_pos, sameRegistry, sameSession,
    mk.injEq, true_and]
  ext1 reader
  split <;> rfl

end Steps

/-! ## Whole runs -/

omit [DecidableEq ι] in
/-- Either the session finishes with the first event, or the event is harmless. -/
theorem FinishesBeforeCreation.first
    {who : ι}
    {table : TableId}
    {event : RegistryEvent ι}
    {later : List (RegistryEvent ι)}
    (finishes : FinishesBeforeCreation who table (event :: later)) :
    (∃ action,
        event = .act who action ∧ (action = .commit ∨ action = .rollback)) ∨
      event ≠ .createStored table ∧
        FinishesBeforeCreation who table later := by
  cases event with
  | act actor action =>
      cases action with
      | call handle made =>
          exact .inr ⟨nofun, finishes⟩
      | commit =>
          rcases finishes with rfl | rest
          · exact .inl ⟨.commit, rfl, .inl rfl⟩
          · exact .inr ⟨nofun, rest⟩
      | rollback =>
          rcases finishes with rfl | rest
          · exact .inl ⟨.rollback, rfl, .inr rfl⟩
          · exact .inr ⟨nofun, rest⟩
  | createStored created =>
      rcases finishes with ⟨different, rest⟩
      refine .inr ⟨?_, rest⟩
      rintro ⟨⟩
      exact different rfl
  | count | createVirtual | detach | clear | drop =>
      exact .inr ⟨nofun, finishes⟩

/-- Events do the same, whatever one session buffers for a table that is not stored. -/
theorem registry_occurAll_withSession
    {sharing : Sharing ι}
    {who : ι}
    {table : TableId}
    {other : Session}
    (wellFormed : sharing.registry.WellFormed)
    (notStored : sharing.registry.NotStored table)
    (alike : (sharing.sessions who).AlikeBut table other)
    {events : List (RegistryEvent ι)}
    (finishes : FinishesBeforeCreation who table events) :
    ((sharing.withSession who other).occurAll events).registry =
      (sharing.occurAll events).registry := by
  induction events generalizing sharing other with
  | nil =>
      rfl
  | cons event later ih =>
      change (((sharing.withSession who other).occur event).occurAll
        later).registry = ((sharing.occur event).occurAll later).registry
      rcases finishes.first with ⟨action, rfl, ends⟩ | ⟨harmless, rest⟩
      · exact congrArg (fun sharing => (sharing.occurAll later).registry)
          (perform_withSession notStored alike ends)
      · rcases occur_withSession notStored alike event with
          ⟨left, stillAlike, same⟩
        rw [same]
        exact ih (wellFormed_occur wellFormed event)
          (notStored_occur wellFormed notStored harmless) stillAlike rest

/-- Who drops a table has nothing buffered for it afterwards. -/
theorem forgetting_of_dropper
    {sharing : Sharing ι}
    {table : TableId}
    (registered : (sharing.registry.registered.get? table).isSome)
    (dropper : ι) :
    (sharing.occur (.drop dropper table)).forgetting dropper table =
      sharing.occur (.drop dropper table) := by
  have discarded :
      (sharing.occur (.drop dropper table)).sessions dropper =
        (sharing.sessions dropper).discard table := by
    rcases Option.isSome_iff_exists.1 registered with ⟨handle, found⟩
    simp [occur, turn, StatusRegistry.drop, StatusRegistry.clear, found]
  have twice :
      ((sharing.sessions dropper).discard table).discard table =
        (sharing.sessions dropper).discard table :=
    (Session.AlikeBut.discard table (sharing.sessions dropper)).discard_eq.symm
  rw [forgetting, discarded, twice, ← discarded, withSession_self]

/--
A change that a session buffered for a table before the table was dropped is
never published, if it was the session itself that dropped the table, or if the
session commits or rolls back before the table is registered again.
-/
theorem registry_forgetting_of_drop
    (ids : ι → String)
    {before : List (RegistryEvent ι)}
    {table : TableId}
    (registered :
      (((fresh {} ids).occurAll before).registry.registered.get? table).isSome)
    {dropper who : ι}
    {after : List (RegistryEvent ι)}
    (harmless : who = dropper ∨ FinishesBeforeCreation who table after) :
    let left := (fresh {} ids).occurAll (before ++ [.drop dropper table])
    ((left.forgetting who table).occurAll after).registry =
      (left.occurAll after).registry := by
  intro left
  have earlier : ((fresh {} ids).occurAll before).registry.WellFormed :=
    wellFormed_occurAll StatusRegistry.wellFormed_empty before
  have dropped :
      left = ((fresh {} ids).occurAll before).occur (.drop dropper table) :=
    List.foldl_append
  rcases harmless with rfl | finishes
  · rw [dropped, forgetting_of_dropper registered]
  · have wellFormed : left.registry.WellFormed := by
      rw [dropped]
      exact wellFormed_occur earlier _
    have notStored : left.registry.NotStored table := by
      rw [StatusRegistry.NotStored, dropped, kindOf?_occur earlier,
        RegistryEvent.kindAfter, if_pos rfl]
      exact nofun
    exact registry_occurAll_withSession wellFormed notStored
      (.discard table (left.sessions who)) finishes

section Sample

/-- A session counts three rows of a table which another one then drops. -/
def sampleDrop : List (RegistryEvent Bool) :=
  [ .createStored ⟨7⟩,
    .act false (.call ⟨0⟩ (.rowsWritten 3)),
    .drop true ⟨7⟩ ]

/-- The sessions are named after themselves. -/
def sampleIds (who : Bool) : String :=
  if who then "true" else "false"

/-- The session that did not drop the table commits before the table comes back. -/
theorem registry_forgetting_of_committed :
    let left := (fresh {} sampleIds).occurAll sampleDrop
    let after := [.act false .commit, .createStored ⟨7⟩]
    (((fresh {} sampleIds).occurAll
        (sampleDrop.take 2)).registry.registered.get? ⟨7⟩).isSome ∧
      FinishesBeforeCreation false ⟨7⟩ after ∧
      (left.sessions false).pending? ⟨7⟩ = some ⟨none, 3⟩ ∧
      ((left.forgetting false ⟨7⟩).occurAll after).registry =
        (left.occurAll after).registry ∧
      (left.occurAll after).approximate (fun _ => 0) ⟨1⟩ = some 0 := by
  intro left after
  have registered :
      (((fresh {} sampleIds).occurAll
        (sampleDrop.take 2)).registry.registered.get? ⟨7⟩).isSome := by
    decide
  have finishes : FinishesBeforeCreation false ⟨7⟩ after := .inl rfl
  have harmless : false = true ∨ FinishesBeforeCreation false ⟨7⟩ after :=
    .inr finishes
  refine ⟨registered, finishes, by decide, ?_, by decide⟩
  exact registry_forgetting_of_drop sampleIds registered harmless

/--
A table that is registered again while the change is still buffered gets the
change: its count becomes 3, and it would be 0 if the drop had thrown the change
away.
-/
theorem approximate_of_recreated :
    let left := (fresh {} sampleIds).occurAll sampleDrop
    let after := [.createStored ⟨7⟩, .act false .commit]
    (left.occurAll after).approximate (fun _ => 0) ⟨1⟩ = some 3 ∧
      ((left.forgetting false ⟨7⟩).occurAll after).approximate
          (fun _ => 0) ⟨1⟩ =
        some 0 := by
  decide

end Sample

end Sharing

end HierQuery
