import HierQuery.Proofs.Store.Sharing

/-!
# What shared counts owe to their history

Sessions that share a registry act in any order.  The history of their
actions alone, without any buffer, tells what each session has done to the
count of a table since it last committed or rolled back, and what the commits
so far have published.

The committed count of a table is what the published work makes of the count
at the start, taken in the order of the commits.  A session reads what a
commit of its own would publish at that moment.  So it sees its own work and
nothing that others have not committed, and no published work is lost.

A history lists what happened with the latest first, and so do the edits in
it.  Counts are 64-bit numbers; the sums of rows are taken over the integers
and wrap around in the end.
-/

namespace HierQuery

/-- What a call does to a row count. -/
inductive CountEdit
  | add (count : Int64)
  | set (count : Int64)
deriving DecidableEq

/-- The edit that a call makes of a stored table's count. -/
def CountCall.edit : CountCall → CountEdit
  | rowsWritten count => .add count
  | rowDeleted => .add (-1)
  | setRowCount count => .set count
  | truncate => .set 0

namespace CountEdit

/-- The count that was set last, if one was. -/
def lastSet? : List CountEdit → Option Int64
  | [] => none
  | add _ :: earlier => lastSet? earlier
  | set count :: _ => some count

/-- The net number of rows added since a count was set, or since the start. -/
def added : List CountEdit → Int
  | [] => 0
  | add count :: earlier => added earlier + count.toInt
  | set _ :: _ => 0

/-- What edits make of a committed count. -/
def applyAll (edits : List CountEdit) (committed : Int64) : Int64 :=
  Int64.ofInt (((lastSet? edits).getD committed).toInt + added edits)

/-- The change which a session buffers that made these edits. -/
def buffered : List CountEdit → Option PendingCount
  | [] => none
  | edits => some ⟨lastSet? edits, Int64.ofInt (added edits)⟩

@[simp]
theorem applyAll_nil (committed : Int64) :
    applyAll [] committed = committed := by
  change Int64.ofInt (committed.toInt + 0) = committed
  rw [Int.add_zero, Int64.ofInt_toInt]

/-- Without a count that was set, edits add to what is committed. -/
theorem applyAll_of_not_set
    {edits : List CountEdit}
    (notSet : lastSet? edits = none)
    (committed : Int64) :
    applyAll edits committed =
      Int64.ofInt (committed.toInt + added edits) := by
  rw [applyAll, notSet, Option.getD_none]

/-- One more row added adds to the buffered change. -/
theorem buffered_add
    (count : Int64)
    (edits : List CountEdit) :
    buffered (add count :: edits) =
      some
        { (buffered edits).getD {} with
          delta := ((buffered edits).getD {}).delta + count } := by
  cases edits with
  | nil =>
      simp [buffered, lastSet?, added]
  | cons last earlier =>
      simp [buffered, lastSet?, added, Int64.ofInt_add]

/-- A session reads through its buffer what its edits make of the committed count. -/
theorem resolve_buffered
    (edits : List CountEdit)
    (committed : Int64) :
    (match buffered edits with
      | some change => change.resolve committed
      | none => committed) =
      applyAll edits committed := by
  cases edits with
  | nil =>
      exact (applyAll_nil committed).symm
  | cons last earlier =>
      simp [buffered, PendingCount.resolve, applyAll, Int64.ofInt_add]

/-- A commit stores what the edits make of the committed count. -/
theorem settle_buffered
    (edits : List CountEdit)
    (status : StoredStatus) :
    StatusRegistry.settle (buffered edits) (.stored status) =
      .stored { status with rowCount := applyAll edits status.rowCount } := by
  cases edits with
  | nil =>
      rw [applyAll_nil]
      rfl
  | cons last earlier =>
      exact congrArg
        (fun count => TableStatus.stored { status with rowCount := count })
        (resolve_buffered (last :: earlier) status.rowCount)

end CountEdit

namespace Sharing

variable {ι : Type} [DecidableEq ι]

/-- What happened, the latest first. -/
abbrev History (ι : Type) :=
  List (ι × SessionAction)

/-- The registry and the sessions after all that happened. -/
def after (start : Sharing ι) (history : History ι) : Sharing ι :=
  history.foldr (fun (who, action) sharing => sharing.perform who action)
    start

/-- What a session did to a count since it last committed or rolled back. -/
def unpublished (who : ι) (handle : StatusHandle) :
    History ι → List CountEdit
  | [] => []
  | (actor, action) :: earlier =>
      if actor = who then
        match action with
        | .call on made =>
            if on = handle then
              made.edit :: unpublished who handle earlier
            else
              unpublished who handle earlier
        | .commit | .rollback => []
      else
        unpublished who handle earlier

/-- What each commit published of a count, the latest commit first. -/
def published (handle : StatusHandle) : History ι → List (List CountEdit)
  | [] => []
  | (who, .commit) :: earlier =>
      unpublished who handle earlier :: published handle earlier
  | _ :: earlier => published handle earlier

/-- What the published work makes of a count, in the order of the commits. -/
def committedCount
    (handle : StatusHandle)
    (initial : Int64)
    (history : History ι) :
    Int64 :=
  (published handle history).foldr CountEdit.applyAll initial

/-- The net number of rows that all commits together added to a count. -/
def committedRows (handle : StatusHandle) (history : History ι) : Int :=
  (published handle history).foldr
    (fun edits rows => rows + CountEdit.added edits) 0

/-- The history without what a session did since it last committed or rolled back. -/
def withoutUnpublished (who : ι) : History ι → History ι
  | [] => []
  | (actor, action) :: earlier =>
      if actor = who then
        match action with
        | .call _ _ => withoutUnpublished who earlier
        | .commit | .rollback => (actor, action) :: earlier
      else
        (actor, action) :: withoutUnpublished who earlier

/-! ## One step -/

/-- A call buffers its edit for the table of its status. -/
theorem pending?_on_table
    (made : CountCall)
    {status : StoredStatus}
    {session : Session}
    {edits : List CountEdit}
    (before : session.pending? status.table = CountEdit.buffered edits) :
    (made.on (.stored status) session).2.pending? status.table =
      CountEdit.buffered (made.edit :: edits) := by
  cases made with
  | rowsWritten count =>
      change (session.addRows status.table count).pending? status.table = _
      rw [Session.pending?_addRows, if_pos Std.ReflOrd.compare_self, before]
      exact (CountEdit.buffered_add count edits).symm
  | rowDeleted =>
      change (session.addRows status.table (-1)).pending? status.table = _
      rw [Session.pending?_addRows, if_pos Std.ReflOrd.compare_self, before]
      exact (CountEdit.buffered_add (-1) edits).symm
  | setRowCount count =>
      change (session.setRows status.table count).pending? status.table = _
      rw [Session.pending?_setRows, if_pos Std.ReflOrd.compare_self]
      rfl
  | truncate =>
      change (session.setRows status.table 0).pending? status.table = _
      rw [Session.pending?_setRows, if_pos Std.ReflOrd.compare_self]
      rfl

/-- A call buffers nothing for other tables. -/
theorem pending?_on_of_ne
    (made : CountCall)
    {status : TableStatus}
    (session : Session)
    {table : TableId}
    (other : table ≠ status.table) :
    (made.on status session).2.pending? table = session.pending? table := by
  cases status with
  | virtual status =>
      cases made <;> rfl
  | stored status =>
      have notIts : ¬ compare table status.table = .eq := by
        rw [Std.LawfulEqOrd.compare_eq_iff_eq]
        exact other
      cases made with
      | rowsWritten count =>
          exact (Session.pending?_addRows ..).trans (if_neg notIts)
      | rowDeleted =>
          exact (Session.pending?_addRows ..).trans (if_neg notIts)
      | setRowCount count =>
          exact (Session.pending?_setRows ..).trans (if_neg notIts)
      | truncate =>
          exact (Session.pending?_setRows ..).trans (if_neg notIts)

/-- No call changes the committed count by itself. -/
theorem stored_on
    (made : CountCall)
    (status : StoredStatus)
    (session : Session) :
    ∃ changed,
      (made.on (.stored status) session).1 = .stored changed ∧
        changed.table = status.table ∧
          changed.rowCount = status.rowCount := by
  cases made with
  | rowsWritten | rowDeleted | setRowCount =>
      exact ⟨status, rfl, rfl, rfl⟩
  | truncate =>
      exact ⟨_, rfl, rfl, rfl⟩

/-- The registry and the sessions hold of one table what the history says. -/
structure Recorded
    (handle : StatusHandle)
    (initial : StoredStatus)
    (history : History ι)
    (sharing : Sharing ι) :
    Prop where
  stocked : sharing.registry.Stocked
  status :
    ∃ status,
      sharing.registry.get? handle = some (.stored status) ∧
        status.table = initial.table ∧
          status.rowCount =
            committedCount handle initial.rowCount history
  sessions :
    ∀ who,
      (sharing.sessions who).pending? initial.table =
        CountEdit.buffered (unpublished who handle history)

theorem recorded_fresh
    {registry : StatusRegistry}
    (stocked : registry.Stocked)
    (ids : ι → String)
    {handle : StatusHandle}
    {initial : StoredStatus}
    (stored : registry.get? handle = some (.stored initial)) :
    Recorded handle initial [] (fresh registry ids) where
  stocked := stocked
  status := ⟨initial, stored, rfl, rfl⟩
  sessions := fun _ => rfl

section Steps

variable
  {handle : StatusHandle}
  {initial : StoredStatus}
  {history : History ι}
  {sharing : Sharing ι}

theorem Recorded.call
    (recorded : Recorded handle initial history sharing)
    (who : ι)
    (on : StatusHandle)
    (made : CountCall) :
    Recorded handle initial ((who, .call on made) :: history)
      (sharing.perform who (.call on made)) := by
  rcases recorded with ⟨stocked, ⟨status, behind, itsTable, itsCount⟩, sessions⟩
  rw [perform, turn, SessionAction.on]
  cases found : sharing.registry.get? on with
  | none =>
      have other : on ≠ handle := by
        rintro rfl
        rw [behind] at found
        cases found
      change Recorded handle initial _
        (sharing.withSession who (sharing.sessions who))
      rw [withSession_self]
      refine ⟨stocked, ⟨status, behind, itsTable, itsCount⟩, ?_⟩
      intro reader
      simp [sessions reader, unpublished, other]
  | some called =>
      dsimp only
      refine ⟨stocked.modify on fun status => made.table_on status _, ?_, ?_⟩
      · by_cases same : on = handle
        · subst same
          rw [behind] at found
          cases found
          rcases stored_on made status (sharing.sessions who) with
            ⟨changed, becomes, keptTable, keptCount⟩
          refine ⟨changed, ?_, keptTable.trans itsTable,
            keptCount.trans itsCount⟩
          simp [behind, becomes]
        · refine ⟨status, ?_, itsTable, itsCount⟩
          simp [same, behind]
      · intro reader
        rw [sessions_withSession]
        by_cases isReader : reader = who
        · subst isReader
          rw [if_pos rfl]
          by_cases same : on = handle
          · subst same
            rw [behind] at found
            cases found
            have before := sessions reader
            rw [← itsTable] at before ⊢
            simpa [unpublished] using pending?_on_table made before
          · have otherTable : initial.table ≠ called.table := by
              rw [← itsTable]
              intro sameTable
              have registered := stocked.registered on called found
              rw [← sameTable] at registered
              have itsHandle :=
                stocked.registered handle (.stored status) behind
              exact same (Option.some.inj (registered.symm.trans itsHandle))
            rw [pending?_on_of_ne made _ otherTable, sessions reader]
            simp [unpublished, same]
        · rw [if_neg isReader, sessions reader]
          simp [unpublished, Ne.symm isReader]

theorem Recorded.commit
    (recorded : Recorded handle initial history sharing)
    (who : ι) :
    Recorded handle initial ((who, .commit) :: history)
      (sharing.perform who .commit) := by
  rcases recorded with ⟨stocked, ⟨status, behind, itsTable, itsCount⟩, sessions⟩
  refine ⟨stocked.commit _, ?_, ?_⟩
  · have committed := stocked.get?_commit (sharing.sessions who) behind
    change _ = some (StatusRegistry.settle
      ((sharing.sessions who).pending? status.table) _) at committed
    rw [itsTable, sessions who, CountEdit.settle_buffered, itsCount] at committed
    exact ⟨_, committed, itsTable, rfl⟩
  · intro reader
    rw [perform, turn, sessions_withSession]
    by_cases isReader : reader = who
    · subst isReader
      simp [SessionAction.on, StatusRegistry.commit, unpublished,
        CountEdit.buffered]
    · rw [if_neg isReader, sessions reader]
      simp [unpublished, Ne.symm isReader]

theorem Recorded.rollback
    (recorded : Recorded handle initial history sharing)
    (who : ι) :
    Recorded handle initial ((who, .rollback) :: history)
      (sharing.perform who .rollback) := by
  rcases recorded with ⟨stocked, status, sessions⟩
  refine ⟨stocked, status, ?_⟩
  intro reader
  rw [perform, turn, sessions_withSession]
  by_cases isReader : reader = who
  · subst isReader
    simp [SessionAction.on, Session.rollback, unpublished,
      CountEdit.buffered]
  · rw [if_neg isReader, sessions reader]
    simp [unpublished, Ne.symm isReader]

/-- A step is recorded in the history that it makes longer. -/
theorem Recorded.perform
    (recorded : Recorded handle initial history sharing)
    (who : ι)
    (action : SessionAction) :
    Recorded handle initial ((who, action) :: history)
      (sharing.perform who action) := by
  cases action with
  | call on made =>
      exact recorded.call who on made
  | commit =>
      exact recorded.commit who
  | rollback =>
      exact recorded.rollback who

end Steps

/-- Whatever the sessions do, the registry and the sessions hold what the history says. -/
theorem recorded_after
    {registry : StatusRegistry}
    (stocked : registry.Stocked)
    (ids : ι → String)
    {handle : StatusHandle}
    {initial : StoredStatus}
    (stored : registry.get? handle = some (.stored initial))
    (history : History ι) :
    Recorded handle initial history ((fresh registry ids).after history) := by
  induction history with
  | nil =>
      exact recorded_fresh stocked ids stored
  | cons last earlier ih =>
      exact ih.perform last.1 last.2

/-! ## What is read -/

section Reading

variable
  {handle : StatusHandle}
  {initial : StoredStatus}
  {history : History ι}
  {sharing : Sharing ι}

theorem Recorded.approximate
    (recorded : Recorded handle initial history sharing)
    (sources : SourceRows) :
    sharing.approximate sources handle =
      some (committedCount handle initial.rowCount history) := by
  rcases recorded.status with ⟨status, behind, -, itsCount⟩
  rw [Sharing.approximate, behind, ← itsCount]
  rfl

/-- A session reads what its unpublished edits make of the committed count. -/
theorem Recorded.exact
    (recorded : Recorded handle initial history sharing)
    (sources : SourceRows)
    (who : ι) :
    sharing.exact sources who handle =
      some
        (CountEdit.applyAll (unpublished who handle history)
          (committedCount handle initial.rowCount history)) := by
  rcases recorded.status with ⟨status, behind, itsTable, itsCount⟩
  rw [Sharing.exact, behind, ← itsCount, ← CountEdit.resolve_buffered,
    ← recorded.sessions who, ← itsTable]
  rfl

end Reading

/-! ## What a history determines -/

/-- Taking the unpublished work of a session out of a history publishes the same. -/
theorem published_withoutUnpublished
    (other : ι)
    (handle : StatusHandle)
    (history : History ι) :
    (∀ who, who ≠ other →
        unpublished who handle (withoutUnpublished other history) =
          unpublished who handle history) ∧
      published handle (withoutUnpublished other history) =
        published handle history := by
  induction history with
  | nil =>
      exact ⟨fun _ _ => rfl, rfl⟩
  | cons last earlier ih =>
      rcases last with ⟨actor, action⟩
      rcases ih with ⟨sameWork, samePublished⟩
      by_cases isOther : actor = other
      · subst isOther
        cases action with
        | call on made =>
            constructor
            · intro who different
              simp [withoutUnpublished, unpublished, Ne.symm different,
                sameWork who different]
            · simpa [withoutUnpublished, published] using samePublished
        | commit | rollback =>
            simp [withoutUnpublished]
      · constructor
        · intro who different
          simp only [withoutUnpublished, if_neg isOther, unpublished,
            sameWork who different]
        · cases action with
          | commit =>
              simp [withoutUnpublished, isOther, published,
                sameWork actor isOther, samePublished]
          | call | rollback =>
              simpa [withoutUnpublished, isOther, published]
                using samePublished

/-- No session sets the count of any table. -/
def NeverSets (history : History ι) : Prop :=
  ∀ who on made, (who, SessionAction.call on made) ∈ history →
    ∀ count, made.edit ≠ .set count

omit [DecidableEq ι] in
theorem NeverSets.earlier
    {last : ι × SessionAction}
    {earlier : History ι}
    (neverSets : NeverSets (last :: earlier)) :
    NeverSets earlier :=
  fun who on made member =>
    neverSets who on made (List.mem_cons_of_mem last member)

theorem NeverSets.lastSet?_unpublished
    {history : History ι}
    (neverSets : NeverSets history)
    (who : ι)
    (handle : StatusHandle) :
    CountEdit.lastSet? (unpublished who handle history) = none := by
  induction history with
  | nil =>
      rfl
  | cons last earlier ih =>
      have before := ih neverSets.earlier
      rcases last with ⟨actor, action⟩
      unfold unpublished
      split
      · cases action with
        | commit | rollback =>
            rfl
        | call on made =>
            dsimp only
            split
            · cases edited : made.edit with
              | add count =>
                  exact before
              | set count =>
                  have impossible :=
                    neverSets actor on made List.mem_cons_self count
                  exact (impossible edited).elim
            · exact before
      · exact before

/-- If no count is ever set, the commits add up, in whatever order they came. -/
theorem NeverSets.committedCount_eq
    {history : History ι}
    (neverSets : NeverSets history)
    (handle : StatusHandle)
    (initial : Int64) :
    committedCount handle initial history =
      Int64.ofInt (initial.toInt + committedRows handle history) := by
  induction history with
  | nil =>
      exact (CountEdit.applyAll_nil initial).symm
  | cons last earlier ih =>
      have before := ih neverSets.earlier
      rcases last with ⟨who, action⟩
      cases action with
      | call | rollback =>
          exact before
      | commit =>
          have notSet :=
            neverSets.earlier.lastSet?_unpublished who handle
          change CountEdit.applyAll (unpublished who handle earlier)
            (committedCount handle initial earlier) = Int64.ofInt
              (initial.toInt + (committedRows handle earlier +
                CountEdit.added (unpublished who handle earlier)))
          rw [CountEdit.applyAll_of_not_set notSet, before,
            Int64.ofInt_add, Int64.ofInt_toInt, ← Int64.ofInt_add,
            Int.add_assoc]

/-! ## Isolation -/

/-- What sessions and commits make of the count of one table. -/
structure CountsAfter
    (start : Sharing ι)
    (handle : StatusHandle)
    (initial : Int64)
    (history : History ι) :
    Prop where
  /-- The committed count is what the commits, one after another, make of the first one. -/
  committed :
    ∀ sources,
      (start.after history).approximate sources handle =
        some (committedCount handle initial history)
  /-- A session reads the count that would be committed if it committed now. -/
  readsOwnCommit :
    ∀ sources who,
      (start.after history).exact sources who handle =
        ((start.after history).perform who .commit).approximate sources handle
  /-- What others have not committed makes no difference to a session. -/
  isolated :
    ∀ sources who other, who ≠ other →
      (start.after history).exact sources who handle =
        (start.after (withoutUnpublished other history)).exact sources who
          handle
  /-- A rollback leaves the committed count and what the other sessions read. -/
  rolledBack :
    ∀ sources who,
      let undone := (start.after history).perform who .rollback
      undone.approximate sources handle =
          (start.after history).approximate sources handle ∧
        ∀ reader, reader ≠ who →
          undone.exact sources reader handle =
            (start.after history).exact sources reader handle
  /-- A commit with nothing buffered leaves all that can be read. -/
  nothingCommitted :
    ∀ sources who,
      ((start.after history).sessions who).hasPendingChanges = false →
        let done := (start.after history).perform who .commit
        done.approximate sources handle =
            (start.after history).approximate sources handle ∧
          ∀ reader,
            done.exact sources reader handle =
              (start.after history).exact sources reader handle
  /-- If no count is ever set, all rows of all commits are in the count. -/
  nothingLost :
    NeverSets history →
      ∀ sources,
        (start.after history).approximate sources handle =
          some (Int64.ofInt (initial.toInt + committedRows handle history))

/--
Sessions over a stocked registry read their own work and no uncommitted work
of others, and each commit publishes just what its session reads.
-/
theorem countsAfter_fresh
    {registry : StatusRegistry}
    (stocked : registry.Stocked)
    (ids : ι → String)
    {handle : StatusHandle}
    {initial : StoredStatus}
    (stored : registry.get? handle = some (.stored initial))
    (history : History ι) :
    CountsAfter (fresh registry ids) handle initial.rowCount history := by
  have recorded := recorded_after stocked ids stored history
  constructor
  case committed =>
    exact recorded.approximate
  case readsOwnCommit =>
    intro sources who
    rw [recorded.exact, (recorded.commit who).approximate]
    rfl
  case isolated =>
    intro sources who other different
    have without :=
      recorded_after stocked ids stored (withoutUnpublished other history)
    rcases published_withoutUnpublished other handle history with
      ⟨sameWork, samePublished⟩
    rw [recorded.exact, without.exact, sameWork who different,
      committedCount, committedCount, samePublished]
  case rolledBack =>
    intro sources who
    refine ⟨rfl, ?_⟩
    intro reader different
    rw [(recorded.rollback who).exact, recorded.exact]
    simp [unpublished, Ne.symm different, committedCount, published]
  case nothingCommitted =>
    intro sources who nothing
    rw [perform_commit_of_nothing_pending nothing]
    exact ⟨rfl, fun _ => rfl⟩
  case nothingLost =>
    intro neverSets sources
    rw [recorded.approximate, neverSets.committedCount_eq]

/-- A registry of two stored tables; the first table's status is at handle 0. -/
def sampleRegistry : StatusRegistry :=
  let first := (({} : StatusRegistry).createStored ⟨1⟩).2.1
  (first.createStored ⟨2⟩).2.1

/--
Two sessions.  The one named `false` adds three rows and commits; the one named
`true` had set the count by then, and its commit overrides that.
-/
def sampleHistory : History Bool :=
  [ (true, .call ⟨0⟩ .rowDeleted),
    (false, .call ⟨1⟩ .truncate),
    (false, .call ⟨0⟩ (.rowsWritten 2)),
    (true, .commit),
    (false, .commit),
    (true, .call ⟨0⟩ (.rowsWritten 1)),
    (true, .call ⟨0⟩ (.setRowCount 10)),
    (false, .call ⟨0⟩ (.rowsWritten 3)) ]

/-- The law at a history with sets, commits and open work of both sessions. -/
theorem countsAfter_sampleHistory :
    let registry := sampleRegistry
    let ids := fun who : Bool => if who then "true" else "false"
    registry.Stocked ∧
      registry.get? ⟨0⟩ = some (.stored { table := ⟨1⟩ }) ∧
      CountsAfter (fresh registry ids) ⟨0⟩ 0 sampleHistory ∧
      committedCount ⟨0⟩ 0 sampleHistory = 11 ∧
      unpublished true ⟨0⟩ sampleHistory = [.add (-1)] ∧
      unpublished false ⟨0⟩ sampleHistory = [.add 2] := by
  intro registry ids
  have stocked : registry.Stocked :=
    (StatusRegistry.stocked_empty.createStored ⟨1⟩).createStored ⟨2⟩
  have stored : registry.get? ⟨0⟩ = some (.stored { table := ⟨1⟩ }) := by
    decide
  have law := countsAfter_fresh stocked ids stored sampleHistory
  refine ⟨stocked, stored, law, ?_, ?_, ?_⟩ <;> decide

end Sharing

end HierQuery
