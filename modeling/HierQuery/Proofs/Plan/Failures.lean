import HierQuery.Proofs.Plan.Conformance

/-!
# Reports of failures

A store may fail in any call that a plan makes on it.  If the store keeps a
record of the calls, the record tells which of them a call on a tree of cursors
has made, and which of these failed.  The answer must then be the first failure,
told in the name of the leaf in which it arose.  All that happens on the store
afterwards is that cursors are closed because of it.  More of them may fail to
close, and these failures are lost.

A call may also fail when nothing has failed on the store yet, by a fault of its
own.  Which faults these may be, and after which calls on the store, is a
parameter of the report.  Such a failure stays the answer as well, and again
cursors are only closed after it.

Everything here is said of any kind of cursors and of any store, together with
the steps by which the report of a call is put together from those of its parts.
-/

namespace HierQuery

open CursorProtocol

/-! ## Failures and answers -/

/-- The calls by which the cursors of a plan use a store. -/
inductive StorageCall
  | rebind
  | openWith
  | next
  | close
  | rowCount
deriving DecidableEq

/-- The leaf operator that makes a call. -/
def StorageCall.operatorName : StorageCall → String
  | rebind | openWith | next | close => GroupScan.operatorName
  | rowCount => Count.operatorName

/--
The failure of a call as a plan tells it: unchanged, and in the name of the
leaf that made the call.
-/
def StorageCall.told (call : StorageCall) (error : StorageError) : ExecError :=
  ⟨.storage error, some call.operatorName⟩

/-- A call that was made on the store, with its failure or the row that it handed out. -/
structure Attempt where
  call : StorageCall
  failure? : Option StorageError
  row? : Option Row
deriving DecidableEq

/-- The call is where a row comes from: the store handed it out, or the number for it. -/
inductive Attempt.Hands (row : Row) : Attempt → Prop
  | fetched :
      Hands row ⟨.next, none, some row⟩
  | counted (keyless : row.key? = none) :
      Hands row ⟨.rowCount, none, none⟩

/-- The last of the calls is where a row comes from. -/
def HandsLast (row : Row) (attempts : List Attempt) : Prop :=
  ∃ earlier attempt,
    attempts = earlier ++ [attempt] ∧ attempt.Hands row

theorem HandsLast.after
    {row : Row}
    {attempts : List Attempt}
    (hands : HandsLast row attempts)
    (before : List Attempt) :
    HandsLast row (before ++ attempts) := by
  rcases hands with ⟨earlier, attempt, rfl, comes⟩
  exact ⟨before ++ earlier, attempt, (List.append_assoc _ _ _).symm, comes⟩

/-- None of the calls failed. -/
def Quiet (attempts : List Attempt) : Prop :=
  ∀ attempt ∈ attempts, attempt.failure? = none

/-- All of the calls closed cursors, well or badly. -/
def OnlyCloses (attempts : List Attempt) : Prop :=
  ∀ attempt ∈ attempts, attempt.call = .close

theorem quiet_nil : Quiet [] :=
  List.forall_mem_nil _

theorem onlyCloses_nil : OnlyCloses [] :=
  List.forall_mem_nil _

theorem Quiet.append
    {first second : List Attempt}
    (firstQuiet : Quiet first)
    (secondQuiet : Quiet second) :
    Quiet (first ++ second) :=
  List.forall_mem_append.2 ⟨firstQuiet, secondQuiet⟩

theorem OnlyCloses.append
    {first second : List Attempt}
    (firstCloses : OnlyCloses first)
    (secondCloses : OnlyCloses second) :
    OnlyCloses (first ++ second) :=
  List.forall_mem_append.2 ⟨firstCloses, secondCloses⟩

/-- A failure that arises in an operator itself and not in the store. -/
structure Fault where
  cause : ExecError.Cause
  operator : String
  notStorage : ∀ error, cause ≠ .storage error

/-- The failure as the caller is told. -/
def Fault.error (fault : Fault) : ExecError :=
  ⟨fault.cause, some fault.operator⟩

@[simp]
theorem Fault.within_error (fault : Fault) (operator : String) :
    fault.error.within operator = fault.error :=
  rfl

/-- Which faults a call may have itself, after it has made the given calls on the store. -/
abbrev OwnFaults :=
  List Attempt → Fault → Prop

namespace OwnFaults

/-- A call that has no faults of its own. -/
def nothing : OwnFaults :=
  fun _ _ => False

/-- Faults that a call has before it makes any call on the store. -/
def atOnce (faults : Fault → Prop) : OwnFaults :=
  fun earlier fault => earlier = [] ∧ faults fault

theorem atOnce_nil
    {faults : Fault → Prop}
    {fault : Fault}
    (atFault : faults fault) :
    atOnce faults [] fault :=
  ⟨rfl, atFault⟩

/-- What may be at fault in the second of two calls may be so in both together. -/
def Follows (second both : OwnFaults) (first : List Attempt) : Prop :=
  ∀ {earlier fault}, second earlier fault → both (first ++ earlier) fault

theorem follows_nothing
    (both : OwnFaults)
    (first : List Attempt) :
    nothing.Follows both first :=
  False.elim

end OwnFaults

/-- What a call may answer that made the given calls on the store, the earliest first. -/
inductive Report
    {α : Type}
    (own : OwnFaults)
    (attempts : List Attempt) :
    Except ExecError α → Prop
  | succeeded
      {value : α}
      (quiet : Quiet attempts) :
      Report own attempts (.ok value)
  /-- The first failure is the answer, and only closings for it come after. -/
  | first
      {earlier later : List Attempt}
      {call : StorageCall}
      {error : StorageError}
      (isFirst : attempts = earlier ++ ⟨call, some error, none⟩ :: later)
      (quiet : Quiet earlier)
      (cleanup : OnlyCloses later) :
      Report own attempts (.error (call.told error))
  /-- The call had a fault itself while the store had not, and only closings for it come after. -/
  | itself
      {earlier later : List Attempt}
      {fault : Fault}
      (split : attempts = earlier ++ later)
      (quiet : Quiet earlier)
      (cleanup : OnlyCloses later)
      (atFault : own earlier fault) :
      Report own attempts (.error fault.error)

namespace Report

variable
  {α β : Type}
  {own further : OwnFaults}
  {attempts : List Attempt}

theorem quiet_of_ok
    {value : α}
    (report : Report own attempts (.ok value)) :
    Quiet attempts := by
  cases report with
  | succeeded quiet =>
      exact quiet

theorem map
    {answer : Except ExecError α}
    (report : Report own attempts answer)
    (change : α → β) :
    Report own attempts (answer.map change) := by
  cases report with
  | succeeded quiet =>
      exact .succeeded quiet
  | first isFirst quiet cleanup =>
      exact .first isFirst quiet cleanup
  | itself split quiet cleanup atFault =>
      exact .itself split quiet cleanup atFault

/-- What went well before only matters to a report if it matters to the faults. -/
theorem after_quiet
    {answer : Except ExecError α}
    (report : Report own attempts answer)
    {before : List Attempt}
    (quietBefore : Quiet before)
    (follows : own.Follows further before) :
    Report further (before ++ attempts) answer := by
  cases report with
  | succeeded quiet =>
      exact .succeeded (quietBefore.append quiet)
  | first isFirst quiet cleanup =>
      rw [isFirst, ← List.append_assoc]
      exact .first rfl (quietBefore.append quiet) cleanup
  | itself split quiet cleanup atFault =>
      rw [split, ← List.append_assoc]
      exact .itself rfl (quietBefore.append quiet) cleanup (follows atFault)

/-- A report stays one if more faults are allowed for. -/
theorem mono
    {answer : Except ExecError α}
    (report : Report own attempts answer)
    (more : own.Follows further []) :
    Report further attempts answer :=
  report.after_quiet quiet_nil more

/-- A failure stays the answer, whatever fails when cursors are closed for it. -/
theorem cleaned
    {error : ExecError}
    (report : Report own attempts (.error error : Except ExecError α))
    {after : List Attempt}
    (closes : OnlyCloses after) :
    Report own (attempts ++ after) (.error error : Except ExecError β) := by
  cases report with
  | first isFirst quiet cleanup =>
      rw [isFirst, List.append_assoc, List.cons_append]
      exact .first rfl quiet (cleanup.append closes)
  | itself split quiet cleanup atFault =>
      rw [split, List.append_assoc]
      exact .itself rfl quiet (cleanup.append closes) atFault

/-- Naming an operator does not change how a failure is reported. -/
theorem within
    {error : ExecError}
    (report : Report own attempts (.error error : Except ExecError α))
    (operator : String) :
    Report own attempts
      (.error (error.within operator) : Except ExecError α) := by
  cases report with
  | first isFirst quiet cleanup =>
      exact .first isFirst quiet cleanup
  | itself split quiet cleanup atFault =>
      rw [Fault.within_error]
      exact .itself split quiet cleanup atFault

end Report

/-! ## Calls that report -/

section Reports

variable
  {κ κ' ω α β : Type}
  {own further : OwnFaults}
  {record : ω → List Attempt}
  {before : List Attempt}

/-- A call that answers with its success alone hands out no row. -/
theorem answer_map_none_ne
    {outcome : Outcome κ ω Unit}
    {row : Row} :
    (outcome.map fun () => none).answer ≠ .ok (some row) := by
  rcases outcome with ⟨_ | _, cursor, world⟩ <;> exact nofun

/-- What a call added to the record is reported by its answer. -/
def Reports
    (own : OwnFaults)
    (record : ω → List Attempt)
    (before : List Attempt)
    (outcome : Outcome κ ω α) :
    Prop :=
  ∃ attempts,
    record outcome.world = before ++ attempts ∧
      Report own attempts outcome.answer

/-- The same for a call that only closes cursors; there is nothing else to go wrong in it. -/
def ReportsClosing
    (record : ω → List Attempt)
    (before : List Attempt)
    (outcome : Outcome κ ω α) :
    Prop :=
  ∃ attempts,
    record outcome.world = before ++ attempts ∧
      OnlyCloses attempts ∧ Report .nothing attempts outcome.answer

/-- The last call on the store before a row is handed out is where the row comes from. -/
def HandsOut
    (record : ω → List Attempt)
    (before : List Attempt)
    (outcome : Outcome κ ω (Option Row)) :
    Prop :=
  ∀ row, outcome.answer = .ok (some row) →
    ∃ attempts,
      record outcome.world = before ++ attempts ∧ HandsLast row attempts

/-- What was called on the store before does not matter to where a row comes from. -/
theorem HandsOut.after
    {world : ω}
    {earlier : List Attempt}
    (recorded : record world = before ++ earlier)
    {outcome : Outcome κ ω (Option Row)}
    (hands : HandsOut record (record world) outcome) :
    HandsOut record before outcome := by
  intro row handed
  rcases hands row handed with ⟨attempts, added, last⟩
  refine ⟨earlier ++ attempts, ?_, last.after earlier⟩
  rw [added, recorded, List.append_assoc]

theorem Reports.mono
    {outcome : Outcome κ ω α}
    (reports : Reports own record before outcome)
    (more : own.Follows further []) :
    Reports further record before outcome := by
  rcases reports with ⟨attempts, recorded, report⟩
  exact ⟨attempts, recorded, report.mono more⟩

theorem ReportsClosing.reports
    {outcome : Outcome κ ω α}
    (closing : ReportsClosing record before outcome) :
    Reports own record before outcome := by
  rcases closing with ⟨attempts, recorded, -, report⟩
  exact ⟨attempts, recorded, report.mono (OwnFaults.follows_nothing _ _)⟩

theorem reportsClosing_pure
    {value : α}
    {cursor : κ}
    {world : ω}
    (same : record world = before) :
    ReportsClosing record before (.pure value cursor world) :=
  ⟨[], by simpa [Outcome.pure] using same, onlyCloses_nil,
    .succeeded quiet_nil⟩

theorem reports_pure
    {value : α}
    {cursor : κ}
    {world : ω}
    (same : record world = before) :
    Reports own record before (.pure value cursor world) :=
  (reportsClosing_pure same).reports

/-- A call may be at fault itself before it makes any call on the store. -/
theorem reports_itself
    {fault : Fault}
    (atFault : own [] fault)
    {cursor : κ}
    {world : ω}
    (same : record world = before) :
    Reports own record before
      (.fail fault.error cursor world : Outcome κ ω α) :=
  ⟨[], by simpa [Outcome.fail] using same,
    .itself rfl quiet_nil onlyCloses_nil atFault⟩

theorem Reports.map
    {outcome : Outcome κ ω α}
    (reports : Reports own record before outcome)
    (change : α → β) :
    Reports own record before (outcome.map change) := by
  rcases reports with ⟨attempts, recorded, report⟩
  exact ⟨attempts, recorded, report.map change⟩

/-- What follows on a success reports for both. -/
theorem Reports.followed
    {outcome : Outcome κ ω α}
    (reports : Reports own record before outcome)
    {value : α}
    (succeeds : outcome.answer = .ok value)
    {later both : OwnFaults}
    {following : Outcome κ' ω β}
    (second : Reports later record (record outcome.world) following)
    (follows :
      ∀ {attempts}, record outcome.world = before ++ attempts →
        later.Follows both attempts) :
    Reports both record before following := by
  rcases reports with ⟨attempts, recorded, report⟩
  rcases second with ⟨added, addedLater, reportLater⟩
  rw [succeeds] at report
  refine ⟨attempts ++ added, ?_,
    reportLater.after_quiet report.quiet_of_ok (follows recorded)⟩
  rw [addedLater, recorded, List.append_assoc]

/-- A failed call reports the same when it is passed on by another cursor. -/
theorem Reports.fail
    {outcome : Outcome κ ω α}
    (reports : Reports own record before outcome)
    {error : ExecError}
    (fails : outcome.answer = .error error)
    (cursor : κ') :
    Reports own record before (.fail error cursor outcome.world
      : Outcome κ' ω β) := by
  rcases reports with ⟨attempts, recorded, report⟩
  rw [fails] at report
  refine ⟨attempts ++ [], ?_, report.cleaned onlyCloses_nil⟩
  rw [List.append_nil]
  exact recorded

/-- If a second call only follows on success, the two report together. -/
theorem Reports.andThen
    {outcome : Outcome κ ω α}
    (reports : Reports own record before outcome)
    {later : OwnFaults}
    {next : α → κ → ω → Outcome κ ω β}
    (goesOn :
      ∀ value, outcome.answer = .ok value →
        Reports later record (record outcome.world)
          (next value outcome.cursor outcome.world))
    (follows : ∀ attempts, later.Follows own attempts) :
    Reports own record before (outcome.andThen next) := by
  rw [Outcome.andThen]
  split
  next value succeeds =>
    exact reports.followed succeeds (goesOn value succeeds)
      fun _ => follows _
  next error fails =>
    exact reports.fail fails _

/-- After a failure cursors may be closed, and the failure stays the answer. -/
theorem Reports.cleanUp
    {error : ExecError}
    {cursor : κ}
    {world : ω}
    (failed :
      Reports own record before (.fail error cursor world : Outcome κ ω α))
    {closed : List Attempt}
    (closes : OnlyCloses closed)
    (operator : String)
    {left : κ'}
    {afterwards : ω}
    (recorded : record afterwards = record world ++ closed) :
    Reports own record before (.fail (error.within operator) left afterwards
      : Outcome κ' ω β) := by
  rcases failed with ⟨attempts, earlier, report⟩
  change record world = before ++ attempts at earlier
  refine ⟨attempts ++ closed, ?_, ?_⟩
  · change record afterwards = _
    rw [recorded, earlier, List.append_assoc]
  · exact (report.cleaned closes).within operator

end Reports

/-! ## Stores that record -/

variable {κ σ : Type}

/--
A call on the store was recorded, with the row that its value hands out.  If it
failed, it failed as the store does.
-/
def Recorded
    {α : Type}
    (record : σ → List Attempt)
    (made : StorageCall)
    (handout : α → Option Row)
    (before : List Attempt)
    (answer : Except ExecError α)
    (afterwards : σ) :
    Prop :=
  (∃ value,
    answer = .ok value ∧
      record afterwards = before ++ [⟨made, none, handout value⟩]) ∨
  ∃ error,
    answer = .error (.ofStorage error) ∧
      record afterwards = before ++ [⟨made, some error, none⟩]

/-- The allowed calls on a store fail only as the store does, and each is recorded. -/
structure StoreAdapter.Recording
    (adapter : StoreAdapter κ σ)
    (Sound : κ → Prop)
    (record : σ → List Attempt) :
    Prop where
  rebinds :
    ∀ {range cursor store}, Sound cursor → adapter.state cursor = .idle →
      Recorded record .rebind (fun _ => none) (record store)
        (adapter.rebind range cursor store).answer
        (adapter.rebind range cursor store).world
  opens :
    ∀ {bindings cursor store}, Sound cursor → adapter.state cursor = .idle →
      Recorded record .openWith (fun _ => none) (record store)
        (adapter.openWith bindings cursor store).answer
        (adapter.openWith bindings cursor store).world
  answers :
    ∀ {cursor store}, Sound cursor → adapter.state cursor = .active →
      Recorded record .next id (record store)
        (adapter.next cursor store).answer (adapter.next cursor store).world
  closes :
    ∀ {cursor store}, Sound cursor → adapter.state cursor ≠ .destroyed →
      Recorded record .close (fun _ => none) (record store)
        (adapter.close cursor store).answer
        (adapter.close cursor store).world
  counts :
    ∀ {rowType : RowType} {store}, rowType.isTable = true →
      Recorded record .rowCount (fun _ => none) (record store)
        (adapter.rowCount rowType store).1 (adapter.rowCount rowType store).2

/-- The record of the store under a query. -/
abbrev Query.record
    (record : σ → List Attempt)
    (query : Query σ) :
    List Attempt :=
  record query.store

end HierQuery
