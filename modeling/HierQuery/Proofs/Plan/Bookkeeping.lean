import HierQuery.Proofs.Plan.Accounting
import HierQuery.Proofs.Plan.Crowd
import HierQuery.Proofs.Plan.Tallying

/-!
# Counters, log and calls tell the same

All cursors of a query share its counters and its log, and so do all operators
of their trees, with the calls that they make on each other.  Whatever a crowd
of cursors goes through, what was counted is what was logged, and it is what
can be seen of the calls.
-/

namespace HierQuery

open CursorProtocol

variable {σ : Type}

/-! ## All cursors of a query -/

namespace Member

/-- The query before anything was seen. -/
abbrev unwatched (query : Query σ) : Query (σ × List Sight) :=
  query.mapStore fun store => (store, [])

/-- The call on the root, made on a tree that is watched. -/
def watch
    (member : Member σ)
    (made : CursorCall)
    (query : Query σ) :
    Outcome (member.plan.Cursor member.Storage) (Query (σ × List Sight))
      (Option Row) :=
  (member.plan.watched member.adapter).call made member.cursor
    (unwatched query)

/-- All calls within the tree that a call on the root leads to, itself included. -/
def sights
    (member : Member σ)
    (made : CursorCall)
    (query : Query σ) :
    List Sight :=
  (member.watch made query).world.store.2

/-- To watch a call makes no difference to it. -/
theorem watch_unseen
    (member : Member σ)
    (made : CursorCall)
    (query : Query σ) :
    (member.watch made query).mapWorld Query.unseen =
      member.call made query :=
  Plan.call_watched member.adapter made member.cursor (unwatched query)

/-- Of the calls that a call on the root leads to, it is the last one to be over. -/
theorem getLast?_sights
    (member : Member σ)
    (made : CursorCall)
    (query : Query σ) :
    (member.sights made query).getLast? =
      some ⟨member.plan, made, (member.call made query).answer⟩ := by
  rcases member.plan.exists_watched member.adapter with ⟨protocol, watched⟩
  rw [← member.watch_unseen made query, sights, watch, watched,
    protocol.call_watched]
  exact List.getLast?_concat

theorem tallies_call
    (member : Member σ)
    (made : CursorCall)
    (query : Query σ) :
    let after := (member.call made query).world.metrics
    after.cursorsOpened =
        query.metrics.cursorsOpened +
          (member.sights made query).countP Sight.isOpening ∧
      after.rowsProduced =
        query.metrics.rowsProduced +
          (member.sights made query).countP Sight.isRowOfLeaf := by
  have fresh : (unwatched query).Tallies query.metrics := ⟨rfl, rfl⟩
  have tallies :=
    (member.plan.frames_watched query.metrics member.adapter).call made
      member.cursor (unwatched query) fresh
  rw [← member.watch_unseen made query]
  exact ⟨tallies.openings, tallies.rows⟩

end Member

namespace Crowd

/-- All calls within its trees that an occurrence leads to. -/
def sightsOf (crowd : Crowd σ) : Occurrence σ → List Sight
  | .call number made =>
      match crowd.members[number]? with
      | none => []
      | some member => member.sights made crowd.query
  | .create _ _ | .cancel | .write _ => []

/-- All calls within its trees while one thing occurs after another. -/
def sights : Crowd σ → List (Occurrence σ) → List Sight
  | _, [] => []
  | crowd, occurrence :: occurrences =>
      crowd.sightsOf occurrence ++ (crowd.occur occurrence).sights occurrences

variable {crowd : Crowd σ} {earlier : Log}

theorem accounts_occur
    (accounts : crowd.query.Accounts earlier)
    (occurrence : Occurrence σ) :
    (crowd.occur occurrence).query.Accounts earlier := by
  cases occurrence with
  | create adapter plan =>
      rcases plan.newCursor_fromStore adapter crowd.query.store with
        ⟨answer, after, made⟩
      rw [occur, made crowd.query rfl]
      cases answer <;> exact accounts.stored after
  | call number made =>
      rw [occur]
      split
      · exact accounts
      next member _ =>
        exact Plan.accounts_call accounts member.adapter made member.cursor
  | cancel =>
      exact ⟨accounts.logging, accounts.lines⟩
  | write change =>
      exact accounts.stored _

theorem accounts_occurAll
    (accounts : crowd.query.Accounts earlier)
    (occurrences : List (Occurrence σ)) :
    (crowd.occurAll occurrences).query.Accounts earlier := by
  induction occurrences generalizing crowd with
  | nil =>
      exact accounts
  | cons occurrence occurrences ih =>
      exact ih (accounts_occur accounts occurrence)

theorem tallies_occur
    (crowd : Crowd σ)
    (occurrence : Occurrence σ) :
    let after := (crowd.occur occurrence).query.metrics
    after.cursorsOpened =
        crowd.query.metrics.cursorsOpened +
          (crowd.sightsOf occurrence).countP Sight.isOpening ∧
      after.rowsProduced =
        crowd.query.metrics.rowsProduced +
          (crowd.sightsOf occurrence).countP Sight.isRowOfLeaf := by
  cases occurrence with
  | create adapter plan =>
      rcases plan.newCursor_fromStore adapter crowd.query.store with
        ⟨answer, after, made⟩
      rw [occur, made crowd.query rfl]
      cases answer <;> exact ⟨rfl, rfl⟩
  | call number made =>
      rw [occur, sightsOf]
      cases crowd.members[number]? with
      | none =>
          exact ⟨rfl, rfl⟩
      | some member =>
          exact member.tallies_call made crowd.query
  | cancel | write change =>
      exact ⟨rfl, rfl⟩

theorem tallies_occurAll
    (crowd : Crowd σ)
    (occurrences : List (Occurrence σ)) :
    let after := (crowd.occurAll occurrences).query.metrics
    after.cursorsOpened =
        crowd.query.metrics.cursorsOpened +
          (crowd.sights occurrences).countP Sight.isOpening ∧
      after.rowsProduced =
        crowd.query.metrics.rowsProduced +
          (crowd.sights occurrences).countP Sight.isRowOfLeaf := by
  induction occurrences generalizing crowd with
  | nil =>
      exact ⟨rfl, rfl⟩
  | cons occurrence occurrences ih =>
      rcases crowd.tallies_occur occurrence with ⟨openings, rows⟩
      rcases ih (crowd.occur occurrence) with ⟨laterOpenings, laterRows⟩
      rw [sights, List.countP_append, List.countP_append, ← Nat.add_assoc,
        ← Nat.add_assoc, ← openings, ← rows]
      exact ⟨laterOpenings, laterRows⟩

/--
Whatever the cursors of a new query go through, over whatever stores: for each
event that is counted, the lines that were logged of it are as many as the
counter says.  Each opening of a cursor that succeeded within a tree was
counted once, and so was each row that a scan or a count handed out.  These are
told by watching the trees, which makes no difference to any call, and the last
call that is seen is the one that was made.
-/
theorem books_agree
    (query : Query σ)
    (new : query.metrics = {})
    (logging : query.config.logOperatorExecution = true)
    (occurrences : List (Occurrence σ)) :
    let start : Crowd σ := ⟨[], query⟩
    let now := (start.occurAll occurrences).query
    (∃ lines,
        now.log = query.log ++ lines ∧
          ∀ (event : Event) counter, event.counter? = some counter →
            (lines.countP fun record => record.event == event.render) =
              now.metrics.get counter) ∧
      now.metrics.cursorsOpened =
          (start.sights occurrences).countP Sight.isOpening ∧
        now.metrics.rowsProduced =
            (start.sights occurrences).countP Sight.isRowOfLeaf ∧
          ∀ (member : Member σ) (made : CursorCall) (query : Query σ),
            (member.watch made query).mapWorld Query.unseen =
                member.call made query ∧
              (member.sights made query).getLast? =
                some ⟨member.plan, made, (member.call made query).answer⟩ := by
  intro start now
  have accounts : query.Accounts query.log := by
    refine ⟨logging, [], (List.append_nil _).symm, ?_⟩
    intro event counter _
    rw [new]
    cases counter <;> rfl
  have tallies := start.tallies_occurAll occurrences
  rw [show start.query.metrics = {} from new] at tallies
  refine ⟨(accounts_occurAll accounts occurrences).lines, ?_, ?_, ?_⟩
  · exact tallies.1.trans (Nat.zero_add _)
  · exact tallies.2.trans (Nat.zero_add _)
  · intro member made query
    exact ⟨member.watch_unseen made query, member.getLast?_sights made query⟩

/-- What a loop goes through that is canceled after its second row, and then destroyed. -/
def sampleOccurrences : List (Occurrence MemoryStore) :=
  [.create (MemoryStore.adapter MemoryStore.Sample.sources) Plan.samplePlan,
    .call 0 (.openWith (.reserve 1)), .call 0 .next, .call 0 .next, .cancel,
    .call 0 .next, .call 0 .destroy]

/-- A query without cursors that logs each call. -/
def sampleStart : Crowd MemoryStore where
  members := []
  query := { Plan.sampleQuery with config := { logOperatorExecution := true } }

/-- The row of the outer scan counts as well, though the loop hands out two rows only. -/
theorem books_agree_of_canceled_loop :
    let now := (sampleStart.occurAll sampleOccurrences).query
    let sights := sampleStart.sights sampleOccurrences
    sampleStart.query.metrics = {} ∧
      sampleStart.query.config.logOperatorExecution = true ∧
        now.metrics =
            { cursorsOpened := 3, rowsProduced := 3, cursorsDestroyed := 3,
              rebinds := 1, cancellations := 1 } ∧
          sights.countP Sight.isOpening = 3 ∧
            sights.countP Sight.isRowOfLeaf = 3 := by
  have metrics :
      (sampleStart.occurAll sampleOccurrences).query.metrics =
        { cursorsOpened := 3, rowsProduced := 3, cursorsDestroyed := 3,
          rebinds := 1, cancellations := 1 } := by
    decide +kernel
  rcases books_agree sampleStart.query rfl rfl sampleOccurrences with
    ⟨-, openings, rows, -⟩
  refine ⟨rfl, rfl, metrics, ?_, ?_⟩
  · rw [show sampleStart = ⟨[], sampleStart.query⟩ from rfl, ← openings]
    exact congrArg Metrics.cursorsOpened metrics
  · rw [show sampleStart = ⟨[], sampleStart.query⟩ from rfl, ← rows]
    exact congrArg Metrics.rowsProduced metrics

end Crowd

end HierQuery
