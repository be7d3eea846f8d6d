import HierQuery.Proofs.Plan.Framing
import HierQuery.Proofs.Plan.Watching

/-!
# Counters and sights agree

Two counters of a query tell how often cursors were called with success: each
opening counts once, and so does each row of a scan or a count, but not the
same row again when loops pass it on.  That takes in the calls of loops on the
cursors below them, so it is compared with what is seen when a tree is watched.

An operator counts before its call is over and thus before it is seen.  Up to
that point nothing that it does touches the two counters, and the calls on the
cursors below it have been counted and seen.
-/

namespace HierQuery

open CursorProtocol

variable {κ σ ρ τ : Type}

/-! ## Sights and counters -/

/-- A query that has counted an opening for each one that was seen, and likewise the rows. -/
structure Query.Tallies
    (start : Metrics)
    (query : Query (σ × List Sight)) :
    Prop where
  openings :
    query.metrics.cursorsOpened =
      start.cursorsOpened + query.store.2.countP Sight.isOpening
  rows :
    query.metrics.rowsProduced =
      start.rowsProduced + query.store.2.countP Sight.isRowOfLeaf

/-- From one query to the other the counters keep up with the sights. -/
def KeepsTally
    (start : Metrics)
    (before after : Query (σ × List Sight)) :
    Prop :=
  before.Tallies start → after.Tallies start

variable
  {start : Metrics}
  {query : Query (σ × List Sight)}
  {plan : Plan}
  {made : CursorCall}
  {adapter : StoreAdapter κ σ}

theorem quiet_tally :
    Query.Quiet (KeepsTally start : Query (σ × List Sight) → _ → Prop) where
  refl := fun _ => id
  trans := fun earlier later tallies => later (earlier tallies)
  count := by
    intro query counter noProgress noOpening tallies
    cases counter with
    | cursorsOpened =>
        exact (noOpening rfl).elim
    | rowsProduced | rowCountReads | limitsReached =>
        cases noProgress
    | cursorsDestroyed | rebinds | cancellations =>
        exact ⟨tallies.openings, tallies.rows⟩
  logged := fun _ _ tallies => ⟨tallies.openings, tallies.rows⟩

/-- The store beside the sights does nothing to be seen or counted. -/
theorem frames_beside (adapter : StoreAdapter κ σ) :
    (adapter.beside (List Sight)).Frames (KeepsTally start) where
  opens := fun _ _ _ tallies => ⟨tallies.openings, tallies.rows⟩
  answers := fun _ _ tallies => ⟨tallies.openings, tallies.rows⟩
  closes := fun _ _ tallies => ⟨tallies.openings, tallies.rows⟩
  destroys := fun _ _ tallies => ⟨tallies.openings, tallies.rows⟩
  rebinds := fun _ _ _ tallies => ⟨tallies.openings, tallies.rows⟩
  counts := fun _ _ tallies => ⟨tallies.openings, tallies.rows⟩

/-- One more sight is what the counters may be ahead by. -/
theorem Query.tallies_sees
    {sight : Sight}
    (openings :
      query.metrics.cursorsOpened =
        start.cursorsOpened + query.store.2.countP Sight.isOpening +
          if sight.isOpening then 1 else 0)
    (rows :
      query.metrics.rowsProduced =
        start.rowsProduced + query.store.2.countP Sight.isRowOfLeaf +
          if sight.isRowOfLeaf then 1 else 0) :
    (query.sees sight).Tallies start := by
  have sights : (query.sees sight).store.2 = query.store.2 ++ [sight] := rfl
  constructor
  · rw [sights, List.countP_append, List.countP_singleton, ← Nat.add_assoc]
    exact openings
  · rw [sights, List.countP_append, List.countP_singleton, ← Nat.add_assoc]
    exact rows

/-- A sight of neither an opening nor a row needs no counting. -/
theorem Query.Tallies.sees
    (tallies : query.Tallies start)
    {sight : Sight}
    (noOpening : sight.isOpening = false)
    (noRow : sight.isRowOfLeaf = false) :
    (query.sees sight).Tallies start := by
  apply Query.tallies_sees
  · rw [noOpening]
    exact tallies.openings
  · rw [noRow]
    exact tallies.rows

/-- An opening is counted before it is seen. -/
theorem Query.Tallies.sees_opening
    (tallies : query.Tallies start)
    (operator detail : String)
    (plan : Plan)
    (bindings : Bindings) :
    (((query.count .cursorsOpened).trace .cursorOpen operator detail).sees
      ⟨plan, .openWith bindings, .ok none⟩).Tallies start := by
  have noRow :
      Sight.isRowOfLeaf ⟨plan, .openWith bindings, .ok none⟩ = false :=
    Bool.and_false _
  apply Query.tallies_sees
  · rw [Query.metrics_trace, Query.store_trace]
    exact congrArg (· + 1) tallies.openings
  · rw [Query.metrics_trace, Query.store_trace, noRow]
    exact tallies.rows

/-- The row of a scan or a count is counted before it is seen. -/
theorem Query.Tallies.sees_row
    (tallies : query.Tallies start)
    (operator detail : String)
    {plan : Plan}
    (leaf : plan.isLeaf = true)
    (row : Row) :
    (((query.count .rowsProduced).trace .rowYield operator detail).sees
      ⟨plan, .next, .ok (some row)⟩).Tallies start := by
  have isRow : Sight.isRowOfLeaf ⟨plan, .next, .ok (some row)⟩ = true := by
    rw [Sight.isRowOfLeaf, leaf]
    rfl
  apply Query.tallies_sees
  · rw [Query.metrics_trace, Query.store_trace]
    exact tallies.openings
  · rw [Query.metrics_trace, Query.store_trace, isRow]
    exact congrArg (· + 1) tallies.rows

/-! ## Calls that are seen -/

section Seen

variable
  {outcome : Outcome κ (Query (σ × List Sight)) ρ}
  {row? : ρ → Option Row}

/-- A call that failed is neither an opening nor a row. -/
theorem keepsTally_error
    (kept : KeepsTally start query outcome.world)
    {error : ExecError}
    (fails : outcome.answer = .error error) :
    KeepsTally start query (outcome.seen plan made row?).world := by
  intro tallies
  refine (kept tallies).sees ?_ ?_
  · rw [fails]
    cases made <;> rfl
  · rw [fails, Sight.isRowOfLeaf]
    cases made <;> exact Bool.and_false _

/-- A second step is seen if the first one succeeded. -/
theorem keepsTally_andThen
    {next : ρ → κ → Query (σ × List Sight) → Outcome κ _ τ}
    {last? : τ → Option Row}
    (first : KeepsTally start query outcome.world)
    (second :
      ∀ value cursor world,
        KeepsTally start world
          ((next value cursor world).seen plan made last?).world) :
    KeepsTally start query
      ((outcome.andThen next).seen plan made last?).world := by
  rcases outcome with ⟨answer, cursor, world⟩
  cases answer with
  | error error =>
      exact keepsTally_error first rfl
  | ok value =>
      exact fun tallies => second value cursor world (first tallies)

/-- What a leaf answers with, if it is not a row, needs no counting. -/
theorem keepsTally_next
    {outcome : Outcome κ (Query (σ × List Sight)) (Option Row)}
    (kept : KeepsTally start query outcome.world)
    (noRow : plan.isLeaf = true → ∀ row, outcome.answer ≠ .ok (some row)) :
    KeepsTally start query (outcome.seen plan .next id).world := by
  intro tallies
  refine (kept tallies).sees rfl ?_
  rw [Sight.isRowOfLeaf]
  cases leaf : plan.isLeaf with
  | false =>
      rfl
  | true =>
      rcases outcome with ⟨_ | _ | row, cursor, world⟩
      · rfl
      · rfl
      · exact (noRow leaf row rfl).elim

end Seen

/--
The calls on an operator keep the tally if its openings and rows do when they
are seen, and its other calls do of themselves.
-/
theorem CursorProtocol.frames_watched
    {protocol : CursorProtocol κ (Query (σ × List Sight))}
    (opens :
      ∀ bindings cursor query,
        KeepsTally start query
          ((protocol.watched plan).openWith bindings cursor query).world)
    (answers :
      ∀ cursor query,
        KeepsTally start query
          ((protocol.watched plan).next cursor query).world)
    (closes :
      ∀ cursor query,
        KeepsTally start query (protocol.close cursor query).world)
    (destroys :
      ∀ cursor query,
        KeepsTally start query (protocol.destroy cursor query).world) :
    (protocol.watched plan).Frames (KeepsTally start) where
  opens := opens
  answers := answers
  closes := fun cursor query tallies =>
    (closes cursor query tallies).sees rfl (Bool.and_false _)
  destroys := fun cursor query tallies =>
    (destroys cursor query tallies).sees rfl (Bool.and_false _)

namespace GroupScan

variable {scan : GroupScan}

theorem keepsTally_openWith
    (adapter : StoreAdapter κ σ)
    (bindings : Bindings)
    (cursor : Cursor κ)
    (query : Query (σ × List Sight)) :
    KeepsTally start query
      ((scan.openWith (adapter.beside (List Sight)) bindings cursor
        query).seen (.scan scan) (.openWith bindings) fun () => none).world := by
  have storage :
      (adapter.beside (List Sight)).Frames (KeepsTally start) :=
    frames_beside adapter
  rw [openWith]
  split
  · exact keepsTally_error (quiet_tally.refl query) rfl
  · refine keepsTally_andThen
      (keeps_position quiet_tally storage bindings cursor query) ?_
    intro _ cursor query
    rw [GroupScan.start]
    refine keepsTally_andThen
      (storage.opens bindings cursor.storage query) ?_
    intro _ cursor query tallies
    exact tallies.sees_opening operatorName _ _ bindings

/-- A finished scan answers with no row. -/
theorem finish_map_ne_row
    (adapter : StoreAdapter κ σ)
    (reason : Event)
    (cursor : Cursor κ)
    (query : Query σ)
    (row : Row) :
    ((finish adapter reason cursor query).map
      fun () => (none : Option Row)).answer ≠ .ok (some row) := by
  rw [Outcome.map]
  cases (finish adapter reason cursor query).answer <;> nofun

theorem keepsTally_offer
    (adapter : StoreAdapter κ σ)
    (row : Row)
    (cursor : Cursor κ)
    (query : Query (σ × List Sight)) :
    KeepsTally start query
      ((scan.offer (adapter.beside (List Sight)) row cursor query).seen
        (.scan scan) .next id).world := by
  have storage :
      (adapter.beside (List Sight)).Frames (KeepsTally start) :=
    frames_beside adapter
  rw [offer]
  split
  · split
    next tally _ =>
      have finished :=
        keeps_finish quiet_tally storage .limitReached { cursor with tally }
          (query.count .limitsReached)
      refine keepsTally_next ?_ fun _ => finish_map_ne_row _ _ _ _
      exact fun tallies => finished ⟨tallies.openings, tallies.rows⟩
    · exact fun tallies => tallies.sees_row operatorName _ rfl row
  · exact keepsTally_next
      (keeps_finish quiet_tally storage .endOfStream cursor query)
      fun _ => finish_map_ne_row _ _ _ _

theorem keepsTally_next
    (adapter : StoreAdapter κ σ)
    (cursor : Cursor κ)
    (query : Query (σ × List Sight)) :
    KeepsTally start query
      ((scan.next (adapter.beside (List Sight)) cursor query).seen
        (.scan scan) .next id).world := by
  have storage :
      (adapter.beside (List Sight)).Frames (KeepsTally start) :=
    frames_beside adapter
  have aborts
      (error : ExecError)
      (cursor : Cursor κ)
      (query : Query (σ × List Sight)) :
      KeepsTally start query
        ((abort (adapter.beside (List Sight)) error cursor query).seen
          (.scan scan) .next id).world :=
    keepsTally_error (storage.closes cursor.storage query) rfl
  rw [next]
  split
  · exact keepsTally_error (quiet_tally.refl query) rfl
  · rcases quiet_tally.checkCancellation query with
      ⟨-, error, checked, refused, kept⟩ | ⟨-, passed⟩
    · rw [refused]
      exact fun tallies => aborts error cursor checked (kept tallies)
    · rw [passed]
      have fetched := storage.answers cursor.storage query
      dsimp only
      split
      · exact fun tallies => aborts _ _ _ (fetched tallies)
      · exact HierQuery.keepsTally_next
          (quiet_tally.trans fetched
            (keeps_finish quiet_tally storage .endOfStream _ _))
          fun _ => finish_map_ne_row _ _ _ _
      · exact fun tallies => keepsTally_offer adapter _ _ _ (fetched tallies)

end GroupScan

namespace Count

variable {count : Count}

theorem keepsTally_openWith
    (bindings : Bindings)
    (cursor : Cursor)
    (query : Query (σ × List Sight)) :
    KeepsTally start query
      ((count.openWith bindings cursor query).seen (.count count)
        (.openWith bindings) fun () => none).world := by
  rw [openWith]
  split
  · exact keepsTally_error (quiet_tally.refl query) rfl
  · exact fun tallies => tallies.sees_opening operatorName _ _ bindings

theorem keepsTally_produce
    (adapter : StoreAdapter κ σ)
    (cursor : Cursor)
    (query : Query (σ × List Sight)) :
    KeepsTally start query
      ((count.produce (adapter.beside (List Sight)) cursor query).seen
        (.count count) .next id).world := by
  have asked :
      KeepsTally start query
        { query with
          store :=
            ((adapter.beside (List Sight)).rowCount count.tableType
              query.store).2 } :=
    (frames_beside adapter).counts count.tableType query
  rw [produce]
  generalize (adapter.beside (List Sight)).rowCount count.tableType
    query.store = answer at asked ⊢
  rcases answer with ⟨_ | number, store⟩
  · exact keepsTally_error asked rfl
  · intro tallies
    have read :
        (({ query with store } : Query _).count .rowCountReads).Tallies
          start :=
      ⟨(asked tallies).openings, (asked tallies).rows⟩
    exact read.sees_row operatorName _ rfl (count.row number)

theorem keepsTally_next
    (adapter : StoreAdapter κ σ)
    (cursor : Cursor)
    (query : Query (σ × List Sight)) :
    KeepsTally start query
      ((count.next (adapter.beside (List Sight)) cursor query).seen
        (.count count) .next id).world := by
  rw [next]
  split
  · exact keepsTally_error (quiet_tally.refl query) rfl
  · rcases quiet_tally.checkCancellation query with
      ⟨-, error, checked, refused, kept⟩ | ⟨-, passed⟩
    · rw [refused]
      exact keepsTally_error kept rfl
    · rw [passed]
      dsimp only
      split
      · exact keepsTally_produce adapter cursor query
      · apply HierQuery.keepsTally_next
          (quiet_tally.trace query .endOfStream operatorName _)
        intro _ row ended
        cases ended

end Count

theorem NestedLoop.keepsTally_openWith
    {α β : Type}
    {outer : CursorProtocol α (Query (σ × List Sight))}
    (outerFrames : outer.Frames (KeepsTally start))
    (slot : Nat)
    (bindings : Bindings)
    (cursor : Cursor α β)
    (query : Query (σ × List Sight)) :
    KeepsTally start query
      ((openWith outer slot bindings cursor query).seen plan
        (.openWith bindings) fun () => none).world := by
  rw [openWith]
  split
  · exact keepsTally_error (quiet_tally.refl query) rfl
  · split
    · refine keepsTally_andThen
        (outerFrames.opens bindings cursor.outer query) ?_
      intro _ cursor query tallies
      exact tallies.sees_opening operatorName _ _ bindings
    · exact keepsTally_error (quiet_tally.refl query) rfl

namespace Plan

/-- Whatever is called on a tree, the counters keep up with the sights. -/
theorem frames_watched
    (start : Metrics)
    (adapter : StoreAdapter κ σ)
    (plan : Plan) :
    (plan.watched adapter).Frames (KeepsTally start) := by
  induction plan with
  | scan leaf =>
      have storage :
          (adapter.beside (List Sight)).Frames (KeepsTally start) :=
        frames_beside adapter
      exact CursorProtocol.frames_watched
        (GroupScan.keepsTally_openWith adapter)
        (GroupScan.keepsTally_next adapter)
        (GroupScan.keeps_close quiet_tally storage)
        (GroupScan.keeps_destroy quiet_tally storage)
  | count leaf =>
      exact CursorProtocol.frames_watched Count.keepsTally_openWith
        (Count.keepsTally_next adapter) (Count.keeps_close quiet_tally leaf)
        (Count.keeps_destroy quiet_tally leaf)
  | nestedLoop outer inner slot outerFrames innerFrames =>
      refine CursorProtocol.frames_watched
        (NestedLoop.keepsTally_openWith outerFrames slot) ?_
        (NestedLoop.keeps_close quiet_tally outerFrames innerFrames)
        (NestedLoop.keeps_destroy quiet_tally outerFrames innerFrames)
      -- The row that a loop passes on was counted where it came from.
      intro cursor query
      exact keepsTally_next
        (NestedLoop.keeps_next quiet_tally outerFrames innerFrames cursor
          query)
        nofun

end Plan

end HierQuery
