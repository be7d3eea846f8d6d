import HierQuery.Proofs.Store.BackEnds

/-!
# Counters that no session buffers

The unique ids and the auto-increment mark of a status take effect at once.  A
history of a status keeps the ids that were issued and the marks that were set
since the status was created or reset.  Whatever happens to the registry and to
the sessions that share it, the ids are the numbers from one on, the last of
them is the one the status tells, and the mark of a stored status is the
greatest since the latest reset.

Sessions do not matter.  Whether they count rows, commit or roll back, both
counters stay as they are behind every handle, and so they do when sources of
virtual tables come and go.
-/

namespace HierQuery

/-! ## What leaves the counters alone -/

namespace TableStatus

/-- The unique id and the auto-increment mark behind a handle, zero if it leads nowhere. -/
def counters : Option TableStatus → Int64 × Int64
  | some status => (status.uniqueId, status.autoIncrement)
  | none => (0, 0)

end TableStatus

open TableStatus (counters)

/-- Changes of row counts and of sources change no counters, and new statuses count nothing. -/
theorem StatusRegistry.bears_counters :
    Bears fun before after => counters after = counters before where
  refl := fun _ => rfl
  trans := fun earlier later => later.trans earlier
  applied := by
    intro status change
    cases status <;> rfl
  attached := by
    intro status source
    cases status <;> rfl
  detached := by
    intro status
    cases status <;> rfl
  stored := fun _ => rfl
  virtual := fun _ _ => rfl

/-- Events that have nothing to do with unique ids and auto-increment marks. -/
def RegistryEvent.LeavesCounters {ι : Type} : RegistryEvent ι → Prop
  | .act _ (.call _ made) => made ≠ .truncate
  | .act _ .commit | .act _ .rollback => True
  | .createStored _ | .createVirtual _ _ | .detach => True
  | .count _ _ | .clear _ _ | .drop _ _ => False

theorem CountCall.status_on
    {made : CountCall}
    (notTruncate : made ≠ .truncate)
    (status : TableStatus)
    (session : Session) :
    (made.on status session).1 = status := by
  cases made with
  | rowsWritten | rowDeleted | setRowCount =>
      rfl
  | truncate =>
      exact (notTruncate rfl).elim

namespace Sharing

variable
  {ι : Type}
  [DecidableEq ι]

/-- Whatever such an event is, both counters behind every handle stay as they are. -/
theorem counters_occur
    (sharing : Sharing ι)
    {event : RegistryEvent ι}
    (leaves : event.LeavesCounters)
    (handle : StatusHandle) :
    counters ((sharing.occur event).registry.get? handle) =
      counters (sharing.registry.get? handle) := by
  have bears := StatusRegistry.bears_counters
  cases event with
  | act who action =>
      cases action with
      | call changed made =>
          rw [occur, perform, turn, SessionAction.on]
          cases sharing.registry.get? changed with
          | none =>
              rfl
          | some status =>
              refine bears.modify _ changed (fun status => ?_) handle
              rw [CountCall.status_on leaves]
      | commit =>
          exact bears.commit _ _ handle
      | rollback =>
          rfl
  | createStored table =>
      exact bears.createStored _ table handle
  | createVirtual table source =>
      exact bears.createVirtual _ table source handle
  | detach =>
      exact bears.detach _ handle
  | count | clear | drop =>
      exact leaves.elim

end Sharing

/-! ## What resets them -/

namespace StatusRegistry

/-- A clearing resets the status registered for the table and no other one. -/
theorem get?_clear
    (registry : StatusRegistry)
    (table : TableId)
    (session : Session)
    (handle : StatusHandle) :
    (registry.clear table session).2.1.get? handle =
      if registry.registered.get? table = some handle then
        (registry.get? handle).map TableStatus.zeroed
      else
        registry.get? handle := by
  rw [clear]
  cases registered : registry.registered.get? table with
  | none =>
      rfl
  | some cleared =>
      simp only [Option.some.injEq]
      split
      next status behind =>
        -- a virtual status is left as it is, only its table is not registered any more
        change registry.get? handle = _
        split
        next same =>
          rw [← same, behind]
          rfl
        next =>
          rfl
      next =>
        exact get?_modify registry cleared handle .zeroed
      next nothing =>
        split
        next same =>
          rw [← same, nothing]
          rfl
        next =>
          rfl

/-- A drop takes a table out of the registry, and does nothing else behind the handles. -/
theorem get?_drop
    (registry : StatusRegistry)
    (table : TableId)
    (session : Session)
    (handle : StatusHandle) :
    (registry.drop table session).2.1.get? handle =
      (registry.clear table session).2.1.get? handle := by
  rcases registry.registry_drop table session with same | ⟨unregistered, same⟩
  · rw [same]
    rfl
  · rw [same, get?_clear, unregistered]
    rfl

end StatusRegistry

/-! ## Histories -/

/-- What was asked of a status since it was created or last reset. -/
structure CounterHistory where
  /-- The unique ids that were issued, in order. -/
  ids : List Int64 := []
  /-- The auto-increment mark of the latest reset. -/
  start : Int64 := 0
  /-- The auto-increment marks that were set since. -/
  marks : List Int64 := []
deriving DecidableEq, Inhabited

namespace CounterHistory

/-- The history after the auto-increment mark was reset. -/
def restarted (history : CounterHistory) (mark : Int64) : CounterHistory :=
  { history with start := mark, marks := [] }

/-- The history of a status after a call that takes effect at once. -/
def called
    (history : CounterHistory)
    (status : TableStatus)
    (made : CounterCall) :
    CounterHistory :=
  match made, status with
  | .issueUniqueId, status =>
      { history with ids := history.ids ++ [status.issueUniqueId.1] }
  | .raiseAutoIncrement mark, .stored _ =>
      { history with marks := history.marks ++ [mark] }
  | .resetAutoIncrement mark, .stored _ => history.restarted mark
  | _, .virtual _ => history

/-- The history of the status behind a handle after an event. -/
def recorded
    {ι : Type}
    (history : CounterHistory)
    (registry : StatusRegistry)
    (handle : StatusHandle)
    (event : RegistryEvent ι) :
    CounterHistory :=
  match registry.get? handle, event with
  | some status, .count changed made =>
      if changed = handle then history.called status made else history
  | some status, .act _ (.call changed .truncate) =>
      if changed = handle then
        history.called status (.resetAutoIncrement 0)
      else
        history
  | some (.stored _), .clear _ table | some (.stored _), .drop _ table =>
      if registry.registered.get? table = some handle then {} else history
  | _, _ => history

/-- The history tells what the counters behind a handle are. -/
structure Tells
    (history : CounterHistory)
    (found : Option TableStatus) :
    Prop where
  numbered :
    history.ids =
      (List.range' 1 history.ids.length).map Int64.ofNat
  uniqueId : (counters found).1 = Int64.ofNat history.ids.length
  autoIncrement :
    (counters found).2 = history.marks.foldl max history.start

theorem tells_nothing : Tells {} none :=
  ⟨rfl, rfl, rfl⟩

theorem Tells.of_counters
    {history : CounterHistory}
    {before after : Option TableStatus}
    (tells : history.Tells before)
    (same : counters after = counters before) :
    history.Tells after :=
  ⟨tells.numbered, same ▸ tells.uniqueId, same ▸ tells.autoIncrement⟩

section Steps

variable
  {history : CounterHistory}
  {status : TableStatus}

theorem Tells.issued (tells : history.Tells (some status)) :
    (history.called status .issueUniqueId).Tells
      (some status.issueUniqueId.2) := by
  have next :
      status.issueUniqueId.1 = Int64.ofNat (history.ids.length + 1) := by
    rw [Int64.ofNat_add, ← tells.uniqueId]
    cases status <;> rfl
  have length :
      (history.called status .issueUniqueId).ids.length =
        history.ids.length + 1 :=
    List.length_append
  constructor
  case numbered =>
    rw [length, List.range'_1_concat, List.map_append, ← tells.numbered,
      Nat.add_comm 1, List.map_singleton, ← next]
    rfl
  case uniqueId =>
    rw [length, ← next, ← status.uniqueId_issueUniqueId]
    rfl
  case autoIncrement =>
    refine Eq.trans ?_ tells.autoIncrement
    cases status <;> rfl

theorem Tells.restarted
    (tells : history.Tells (some status))
    (after : TableStatus)
    (sameId : after.uniqueId = status.uniqueId) :
    (history.restarted after.autoIncrement).Tells (some after) where
  numbered := tells.numbered
  uniqueId := sameId.trans tells.uniqueId
  autoIncrement := rfl

theorem Tells.raised
    {status : StoredStatus}
    (tells : history.Tells (some (.stored status)))
    (mark : Int64) :
    ({ history with marks := history.marks ++ [mark] } :
        CounterHistory).Tells
      (some ((TableStatus.stored status).raiseAutoIncrement mark)) where
  numbered := tells.numbered
  uniqueId := tells.uniqueId
  autoIncrement := by
    rw [List.foldl_append, ← tells.autoIncrement]
    rfl

/-- A history goes on with a call that takes effect at once. -/
theorem Tells.called
    (tells : history.Tells (some status))
    (made : CounterCall) :
    (history.called status made).Tells (some (made.on status)) := by
  cases made with
  | issueUniqueId =>
      exact tells.issued
  | raiseAutoIncrement mark =>
      cases status with
      | stored status =>
          exact tells.raised mark
      | virtual status =>
          exact tells
  | resetAutoIncrement mark =>
      cases status with
      | stored status =>
          exact
            tells.restarted (.stored { status with autoIncrement := mark }) rfl
      | virtual status =>
          exact tells

end Steps

section Records

variable
  {ι : Type}
  {history : CounterHistory}
  {registry : StatusRegistry}
  {handle : StatusHandle}

theorem Tells.counted
    (tells : history.Tells (registry.get? handle))
    (changed : StatusHandle)
    (made : CounterCall) :
    (history.recorded registry handle
        (.count changed made : RegistryEvent ι)).Tells
      ((registry.modify changed made.on).get? handle) := by
  rw [StatusRegistry.get?_modify]
  cases found : registry.get? handle with
  | none =>
      rw [found] at tells
      simpa [recorded, found] using tells
  | some status =>
      rw [found] at tells
      simp only [recorded, found]
      split
      · exact tells.called made
      · exact tells

/-- A truncation is a reset of the mark to zero. -/
theorem recorded_truncate
    (who : ι)
    (changed : StatusHandle) :
    history.recorded registry handle (.act who (.call changed .truncate)) =
      history.recorded registry handle
        (.count changed (.resetAutoIncrement 0) : RegistryEvent ι) := by
  unfold recorded
  cases registry.get? handle <;> rfl

/-- A history starts anew when the status of its table is cleared. -/
theorem Tells.cleared
    (tells : history.Tells (registry.get? handle))
    (who : ι)
    (table : TableId)
    (session : Session) :
    (history.recorded registry handle (.clear who table)).Tells
      ((registry.clear table session).2.1.get? handle) := by
  rw [StatusRegistry.get?_clear]
  cases found : registry.get? handle with
  | none =>
      rw [found] at tells
      simpa [recorded, found] using tells
  | some status =>
      rw [found] at tells
      cases status with
      | stored status =>
          simp only [recorded, found]
          split
          · exact ⟨rfl, rfl, rfl⟩
          · exact tells
      | virtual status =>
          simpa [recorded, found, TableStatus.zeroed] using tells

theorem recorded_drop
    (who : ι)
    (table : TableId) :
    history.recorded registry handle (.drop who table) =
      history.recorded registry handle (.clear who table) := by
  unfold recorded
  rcases registry.get? handle with _ | _ | _ <;> rfl

theorem recorded_of_leaves
    {event : RegistryEvent ι}
    (leaves : event.LeavesCounters)
    (registry : StatusRegistry) :
    history.recorded registry handle event = history := by
  unfold recorded
  split
  · exact leaves.elim
  · exact (leaves rfl).elim
  · exact leaves.elim
  · exact leaves.elim
  · rfl

end Records

end CounterHistory

namespace Sharing

variable
  {ι : Type}
  [DecidableEq ι]
  {sharing : Sharing ι}

/-- Behind the handles a truncation is a reset of the mark to zero. -/
theorem get?_truncate
    (who : ι)
    (changed handle : StatusHandle) :
    (sharing.occur (.act who (.call changed .truncate))).registry.get?
        handle =
      (sharing.registry.modify changed
        (CounterCall.resetAutoIncrement 0).on).get? handle := by
  rw [occur, perform, turn, SessionAction.on]
  cases found : sharing.registry.get? changed with
  | none =>
      change sharing.registry.get? handle = _
      rw [StatusRegistry.get?_modify]
      split
      next same =>
        rw [← same, found]
        rfl
      next =>
        rfl
  | some status =>
      rfl

/-- The history of a status, one event after another. -/
def counterHistory
    (sharing : Sharing ι)
    (handle : StatusHandle)
    (history : CounterHistory) :
    List (RegistryEvent ι) → CounterHistory
  | [] => history
  | event :: later =>
      (sharing.occur event).counterHistory handle
        (history.recorded sharing.registry handle event) later

variable
  {handle : StatusHandle}
  {history : CounterHistory}

/-- Whatever happens, the history goes on to tell what the counters are. -/
theorem tells_occur
    (tells : history.Tells (sharing.registry.get? handle))
    (event : RegistryEvent ι) :
    (history.recorded sharing.registry handle event).Tells
      ((sharing.occur event).registry.get? handle) := by
  have left (leaves : event.LeavesCounters) :
      (history.recorded sharing.registry handle event).Tells
        ((sharing.occur event).registry.get? handle) := by
    rw [CounterHistory.recorded_of_leaves leaves]
    exact tells.of_counters (sharing.counters_occur leaves handle)
  cases event with
  | act who action =>
      cases action with
      | call changed made =>
          by_cases truncates : made = .truncate
          case neg =>
            exact left truncates
          rw [truncates, CounterHistory.recorded_truncate, get?_truncate]
          exact tells.counted changed _
      | commit | rollback =>
          exact left trivial
  | count changed made =>
      exact tells.counted changed made
  | createStored | createVirtual | detach =>
      exact left trivial
  | clear who table =>
      exact tells.cleared who table _
  | drop who table =>
      have cleared := tells.cleared who table (sharing.sessions who)
      rw [← StatusRegistry.get?_drop, ← CounterHistory.recorded_drop]
        at cleared
      exact cleared

theorem tells_occurAll
    (tells : history.Tells (sharing.registry.get? handle))
    (events : List (RegistryEvent ι)) :
    (sharing.counterHistory handle history events).Tells
      ((sharing.occurAll events).registry.get? handle) := by
  induction events generalizing sharing history with
  | nil =>
      exact tells
  | cons event later ih =>
      exact ih (tells_occur tells event)

end Sharing

/-! ## The counters of a status -/

namespace CounterHistory.Tells

variable
  {history : CounterHistory}
  {found : Option TableStatus}

/-- As long as they last, the ids are the numbers from one on. -/
theorem toInt_ids
    (tells : history.Tells found)
    (few : history.ids.length < 9223372036854775808) :
    history.ids.map Int64.toInt =
      (List.range' 1 history.ids.length).map Int.ofNat := by
  refine (congrArg (List.map Int64.toInt) tells.numbered).trans ?_
  rw [List.map_map]
  apply List.map_congr_left
  intro number listed
  have small := (List.mem_range'_1.1 listed).2
  exact Int64.toInt_ofNat_of_lt (by omega)

theorem last_ids (tells : history.Tells found) :
    (counters found).1 = history.ids.getLastD 0 := by
  rw [tells.uniqueId, tells.numbered, List.length_map, List.length_range']
  generalize history.ids.length = issued
  cases issued with
  | zero =>
      rfl
  | succ issued =>
      rw [List.range'_1_concat, List.map_append, Nat.add_comm]
      exact List.getLastD_concat.symm

end CounterHistory.Tells

namespace Sharing

variable
  {ι : Type}
  [DecidableEq ι]

/--
Whatever happened to a registry and its sessions, fewer than 2^63 ids that a
status issued since it was created or cleared are the numbers from one on, and
both ways to read the unique id tell the last of them.  The mark of a stored
status is the greatest of those that were set since the latest reset and the
one it was reset to.  Counting rows, committing, rolling back, registering
tables and taking sources away leave both as they are.
-/
theorem counters_occurAll
    (ids : ι → String)
    (events : List (RegistryEvent ι))
    {handle : StatusHandle}
    {status : TableStatus}
    (behind :
      ((fresh {} ids).occurAll events).registry.get? handle = some status)
    (few :
      ((fresh {} ids).counterHistory handle {} events).ids.length <
        9223372036854775808) :
    let reached := (fresh {} ids).occurAll events
    let history := (fresh {} ids).counterHistory handle {} events
    history.ids.map Int64.toInt =
        (List.range' 1 history.ids.length).map Int.ofNat ∧
      status.uniqueId = history.ids.getLastD 0 ∧
        status.approximateUniqueId = history.ids.getLastD 0 ∧
          (status.kind = "stored" →
            (history.start :: history.marks).max? =
              some status.autoIncrement) ∧
            ∀ event : RegistryEvent ι,
              event.LeavesCounters →
                ∃ later,
                  (reached.occur event).registry.get? handle = some later ∧
                    later.uniqueId = status.uniqueId ∧
                      later.autoIncrement = status.autoIncrement := by
  intro reached history
  have unknown :
      (fresh {} ids : Sharing ι).registry.get? handle = none :=
    rfl
  have tells : history.Tells (some status) := by
    rw [← behind]
    apply tells_occurAll
    rw [unknown]
    exact CounterHistory.tells_nothing
  have last : status.uniqueId = history.ids.getLastD 0 := tells.last_ids
  refine ⟨tells.toInt_ids few, last, ?_, ?_, ?_⟩
  · rw [← last]
    cases status <;> rfl
  · intro _
    rw [List.max?_cons']
    exact congrArg some tells.autoIncrement.symm
  · intro event leaves
    rcases reached.keepsKinds_occur event handle status behind with
      ⟨later, found, -, -⟩
    have same := reached.counters_occur leaves handle
    rw [found, behind] at same
    exact ⟨later, found, congrArg Prod.fst same, congrArg Prod.snd same⟩

/-- A table counts and is cleared, and counts again. -/
def sampleCounting : List (RegistryEvent Unit) :=
  [.createStored ⟨1⟩, .count ⟨0⟩ .issueUniqueId,
    .count ⟨0⟩ (.raiseAutoIncrement 7), .clear () ⟨1⟩,
    .count ⟨0⟩ .issueUniqueId, .count ⟨0⟩ (.raiseAutoIncrement 5),
    .act () (.call ⟨0⟩ (.rowsWritten 3)), .count ⟨0⟩ .issueUniqueId,
    .count ⟨0⟩ (.raiseAutoIncrement 3)]

/-- A table that is cleared issues its ids anew, and its mark is that of the calls since. -/
theorem counters_of_cleared :
    let sharing := fresh {} fun _ => "session"
    let reached := sharing.occurAll sampleCounting
    let status : TableStatus :=
      .stored { table := ⟨1⟩, autoIncrement := 5, uniqueId := 2 }
    reached.registry.get? ⟨0⟩ = some status ∧
      sharing.counterHistory ⟨0⟩ {} sampleCounting = ⟨[1, 2], 0, [5, 3]⟩ ∧
        [(0 : Int64), 5, 3].max? = some 5 ∧
          ∃ later,
            (reached.occur (.act () .commit)).registry.get? ⟨0⟩ =
                some later ∧
              later.uniqueId = 2 ∧ later.autoIncrement = 5 := by
  intro sharing reached status
  have behind : reached.registry.get? ⟨0⟩ = some status := by
    decide
  have history :
      sharing.counterHistory ⟨0⟩ {} sampleCounting = ⟨[1, 2], 0, [5, 3]⟩ := by
    decide
  have few :
      (sharing.counterHistory ⟨0⟩ {} sampleCounting).ids.length <
        9223372036854775808 := by
    rw [history]
    decide
  rcases counters_occurAll (fun _ => "session") sampleCounting behind few with
    ⟨-, -, -, greatest, kept⟩
  rw [history] at greatest
  exact ⟨behind, history, greatest rfl, kept (.act () .commit) trivial⟩

end Sharing

end HierQuery
