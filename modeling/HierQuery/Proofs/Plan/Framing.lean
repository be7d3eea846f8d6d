import HierQuery.Plan.Basic
import HierQuery.Proofs.Cursor.Call

/-!
# What calls keep of a query

A call on a cursor counts, logs and has the store do its part.  A frame is a
relation between queries that all of this respects, so a query before a call
and after it are in the relation, whatever the plan is and however the call
ends.

A frame need not bear every counting.  What a query counts only for rows, it
does not count once it is canceled.  A call that neither opens a cursor nor
hands out a row counts less still, so a quiet relation is enough for it.
-/

namespace HierQuery

variable {κ σ ω ρ τ : Type}

/-- Whether the counter counts steps towards a row, which a canceled query takes no more. -/
def Metrics.Counter.ofProgress : Metrics.Counter → Bool
  | rowsProduced | rowCountReads | limitsReached => true
  | cursorsOpened | cursorsDestroyed | rebinds | cancellations => false

/-- A relation that logging respects, and counting as far as cancellation allows it. -/
structure Query.Frame (Keeps : Query σ → Query σ → Prop) : Prop where
  refl : ∀ query, Keeps query query
  trans :
    ∀ {first second third}, Keeps first second → Keeps second third →
      Keeps first third
  count :
    ∀ {query : Query σ} {counter : Metrics.Counter},
      (query.canceled = true → counter.ofProgress = false) →
        Keeps query (query.count counter)
  logged : ∀ query record, Keeps query (query.logged record)

/-- A relation that logging respects, and counting as far as it tells of no opening and no row. -/
structure Query.Quiet (Keeps : Query σ → Query σ → Prop) : Prop where
  refl : ∀ query, Keeps query query
  trans :
    ∀ {first second third}, Keeps first second → Keeps second third →
      Keeps first third
  count :
    ∀ (query : Query σ) (counter : Metrics.Counter),
      counter.ofProgress = false → counter ≠ .cursorsOpened →
        Keeps query (query.count counter)
  logged : ∀ query record, Keeps query (query.logged record)

theorem Query.Frame.quiet
    {Keeps : Query σ → Query σ → Prop}
    (frame : Query.Frame Keeps) :
    Query.Quiet Keeps where
  refl := frame.refl
  trans := frame.trans
  count := fun _ _ noProgress _ => frame.count fun _ => noProgress
  logged := frame.logged

namespace Query.Quiet

variable {Keeps : Query σ → Query σ → Prop}

theorem trace
    (quiet : Quiet Keeps)
    (query : Query σ)
    (event : Event)
    (operator detail : String) :
    Keeps query (query.trace event operator detail) := by
  rw [Query.trace]
  split
  · exact quiet.logged query _
  · exact quiet.refl query

/-- Counting what is neither an opening nor progress, and then logging a call. -/
theorem countTrace
    (quiet : Quiet Keeps)
    (query : Query σ)
    (counter : Metrics.Counter)
    (noProgress : counter.ofProgress = false)
    (noOpening : counter ≠ .cursorsOpened)
    (event : Event)
    (operator detail : String) :
    Keeps query ((query.count counter).trace event operator detail) :=
  quiet.trans (quiet.count query counter noProgress noOpening)
    (quiet.trace _ event operator detail)

/-- What asking for cancellation comes to, and that a quiet relation respects it. -/
theorem checkCancellation
    (quiet : Quiet Keeps)
    (query : Query σ) :
    (query.canceled = true ∧
        ∃ error checked,
          query.checkCancellation = (.error error, checked) ∧
            Keeps query checked) ∨
      (query.canceled = false ∧
        query.checkCancellation = (.ok (), query)) := by
  cases canceled : query.canceled with
  | false =>
      exact .inr ⟨rfl, Query.checkCancellation_of_not_canceled canceled⟩
  | true =>
      refine .inl ⟨rfl, _, _, if_pos canceled, ?_⟩
      exact quiet.trans (quiet.count query .cancellations rfl nofun)
        (quiet.logged _ _)

/-- Two steps of a call respect a quiet relation if both do. -/
theorem andThen
    (quiet : Quiet Keeps)
    {query : Query σ}
    {outcome : Outcome κ (Query σ) ρ}
    {next : ρ → κ → Query σ → Outcome κ (Query σ) τ}
    (first : Keeps query outcome.world)
    (second :
      ∀ value cursor world, Keeps world (next value cursor world).world) :
    Keeps query (outcome.andThen next).world := by
  rw [Outcome.andThen]
  split
  · exact quiet.trans first (second _ _ _)
  · exact first

end Query.Quiet

/-- Counting, if cancellation allows it, and then logging a call. -/
theorem Query.Frame.countTrace
    {Keeps : Query σ → Query σ → Prop}
    (frame : Query.Frame Keeps)
    (query : Query σ)
    {counter : Metrics.Counter}
    (allowed : query.canceled = true → counter.ofProgress = false)
    (event : Event)
    (operator detail : String) :
    Keeps query ((query.count counter).trace event operator detail) :=
  frame.trans (frame.count allowed)
    (frame.quiet.trace _ event operator detail)

/-- Every call on a cursor of the protocol respects the relation. -/
structure CursorProtocol.Frames
    (protocol : CursorProtocol κ ω)
    (Keeps : ω → ω → Prop) :
    Prop where
  opens :
    ∀ bindings cursor world,
      Keeps world (protocol.openWith bindings cursor world).world
  answers :
    ∀ cursor world, Keeps world (protocol.next cursor world).world
  closes :
    ∀ cursor world, Keeps world (protocol.close cursor world).world
  destroys :
    ∀ cursor world, Keeps world (protocol.destroy cursor world).world

/-- Every service of the store respects the relation. -/
structure StoreAdapter.Frames
    (adapter : StoreAdapter κ σ)
    (Keeps : Query σ → Query σ → Prop) :
    Prop where
  opens :
    ∀ bindings cursor (query : Query σ),
      Keeps query
        { query with
          store := (adapter.openWith bindings cursor query.store).world }
  answers :
    ∀ cursor (query : Query σ),
      Keeps query
        { query with store := (adapter.next cursor query.store).world }
  closes :
    ∀ cursor (query : Query σ),
      Keeps query
        { query with store := (adapter.close cursor query.store).world }
  destroys :
    ∀ cursor (query : Query σ),
      Keeps query
        { query with store := (adapter.destroy cursor query.store).world }
  rebinds :
    ∀ range cursor (query : Query σ),
      Keeps query
        { query with
          store := (adapter.rebind range cursor query.store).world }
  counts :
    ∀ rowType (query : Query σ),
      Keeps query
        { query with store := (adapter.rowCount rowType query.store).2 }

/-- A cursor that is closed if it is active respects what closing respects. -/
theorem CursorProtocol.keeps_closeActive
    {protocol : CursorProtocol κ ω}
    {Keeps : ω → ω → Prop}
    (refl : ∀ world, Keeps world world)
    (closes :
      ∀ cursor world, Keeps world (protocol.close cursor world).world)
    (cursor : κ)
    (world : ω) :
    Keeps world (protocol.closeActive cursor world).world := by
  rw [closeActive]
  split
  · exact closes cursor world
  · exact refl world

variable {Keeps : Query σ → Query σ → Prop}

namespace GroupScan

variable {adapter : StoreAdapter κ σ} {scan : GroupScan}

theorem keeps_closeActive
    (quiet : Query.Quiet Keeps)
    (storage : adapter.Frames Keeps)
    (cursor : Cursor κ)
    (query : Query σ) :
    Keeps query (cursor.onStorage adapter.closeActive query).world := by
  rw [Cursor.onStorage, CursorProtocol.closeActive]
  split
  · exact storage.closes cursor.storage query
  · exact quiet.refl query

theorem keeps_finish
    (quiet : Query.Quiet Keeps)
    (storage : adapter.Frames Keeps)
    (reason : Event)
    (cursor : Cursor κ)
    (query : Query σ) :
    Keeps query (finish adapter reason cursor query).world :=
  quiet.trans (keeps_closeActive quiet storage cursor query)
    (quiet.trace _ reason operatorName _)

theorem keeps_position
    (quiet : Query.Quiet Keeps)
    (storage : adapter.Frames Keeps)
    (bindings : Bindings)
    (cursor : Cursor κ)
    (query : Query σ) :
    Keeps query (scan.position adapter bindings cursor query).world := by
  rw [position]
  split
  · exact quiet.refl query
  · split
    · exact quiet.refl query
    next key _ =>
      refine quiet.andThen
        (storage.rebinds (.reaching _ key) cursor.storage query) ?_
      intro _ cursor query
      exact quiet.count query .rebinds rfl nofun

theorem keeps_close
    (quiet : Query.Quiet Keeps)
    (storage : adapter.Frames Keeps)
    (cursor : Cursor κ)
    (query : Query σ) :
    Keeps query (close adapter cursor query).world := by
  rw [close]
  split
  · exact quiet.refl query
  · split
    · exact keeps_finish quiet storage .cursorClose cursor query
    · exact quiet.refl query

theorem keeps_destroy
    (quiet : Query.Quiet Keeps)
    (storage : adapter.Frames Keeps)
    (cursor : Cursor κ)
    (query : Query σ) :
    Keeps query (destroy adapter cursor query).world := by
  rw [destroy]
  split
  · exact quiet.refl query
  · refine quiet.trans ?_ (storage.destroys cursor.storage _)
    exact quiet.countTrace query .cursorsDestroyed rfl nofun .cursorDestroy
      operatorName ""

theorem keeps_offer
    (frame : Query.Frame Keeps)
    (storage : adapter.Frames Keeps)
    (row : Row)
    (cursor : Cursor κ)
    {query : Query σ}
    (running : query.canceled = false) :
    Keeps query (scan.offer adapter row cursor query).world := by
  have allowed {counter : Metrics.Counter} :
      query.canceled = true → counter.ofProgress = false := by
    rw [running]
    exact nofun
  rw [offer]
  split
  · split
    · exact frame.trans (frame.count allowed)
        (keeps_finish frame.quiet storage .limitReached _ _)
    · exact frame.countTrace query allowed .rowYield operatorName row.render
  · exact keeps_finish frame.quiet storage .endOfStream cursor query

theorem keeps_next
    (frame : Query.Frame Keeps)
    (storage : adapter.Frames Keeps)
    (cursor : Cursor κ)
    (query : Query σ) :
    Keeps query (scan.next adapter cursor query).world := by
  rw [next]
  split
  · exact frame.refl query
  · rcases frame.quiet.checkCancellation query with
      ⟨-, error, checked, refused, kept⟩ | ⟨running, passed⟩
    · rw [refused]
      exact frame.trans kept (storage.closes cursor.storage checked)
    · rw [passed]
      have fetched := storage.answers cursor.storage query
      dsimp only
      split
      · exact frame.trans fetched (storage.closes _ _)
      · exact frame.trans fetched (keeps_finish frame.quiet storage _ _ _)
      · exact frame.trans fetched (keeps_offer frame storage _ _ running)

theorem keeps_openWith
    (frame : Query.Frame Keeps)
    (storage : adapter.Frames Keeps)
    (bindings : Bindings)
    (cursor : Cursor κ)
    (query : Query σ) :
    Keeps query (scan.openWith adapter bindings cursor query).world := by
  have starts (cursor : Cursor κ) (query : Query σ) :
      Keeps query (start adapter bindings cursor query).world := by
    rw [start]
    refine frame.quiet.andThen
      (storage.opens bindings cursor.storage query) ?_
    intro _ cursor query
    exact frame.countTrace query (fun _ => rfl) .cursorOpen operatorName _
  rw [openWith]
  split
  · exact frame.refl query
  · exact frame.quiet.andThen
      (keeps_position frame.quiet storage bindings cursor query)
      fun _ => starts

/-- All calls on a scan respect a frame that the store respects. -/
theorem frames
    (frame : Query.Frame Keeps)
    (storage : adapter.Frames Keeps)
    (scan : GroupScan) :
    (scan.protocol adapter).Frames Keeps where
  opens := keeps_openWith frame storage
  answers := keeps_next frame storage
  closes := keeps_close frame.quiet storage
  destroys := keeps_destroy frame.quiet storage

end GroupScan

namespace Count

variable {adapter : StoreAdapter κ σ}

theorem keeps_produce
    (frame : Query.Frame Keeps)
    (storage : adapter.Frames Keeps)
    (count : Count)
    (cursor : Cursor)
    {query : Query σ}
    (running : query.canceled = false) :
    Keeps query (count.produce adapter cursor query).world := by
  have allowed {counter : Metrics.Counter} :
      query.canceled = true → counter.ofProgress = false := by
    rw [running]
    exact nofun
  have asked := storage.counts count.tableType query
  rw [produce]
  generalize adapter.rowCount count.tableType query.store = answer at asked ⊢
  rcases answer with ⟨answer, store⟩
  cases answer with
  | error =>
      exact asked
  | ok number =>
      let answered : Query σ := { query with store }
      have read : Keeps answered (answered.count .rowCountReads) :=
        frame.count allowed
      refine frame.trans asked (frame.trans read ?_)
      exact frame.countTrace (answered.count .rowCountReads) allowed .rowYield
        operatorName _

theorem keeps_close
    (quiet : Query.Quiet Keeps)
    (count : Count)
    (cursor : Cursor)
    (query : Query σ) :
    Keeps query (count.close cursor query).world := by
  rw [close]
  split
  · exact quiet.refl query
  · split
    · exact quiet.trace query .cursorClose operatorName _
    · exact quiet.refl query

theorem keeps_destroy
    (quiet : Query.Quiet Keeps)
    (count : Count)
    (cursor : Cursor)
    (query : Query σ) :
    Keeps query (count.destroy cursor query).world := by
  rw [destroy]
  split
  · exact quiet.refl query
  · exact quiet.countTrace query .cursorsDestroyed rfl nofun .cursorDestroy
      operatorName _

/-- All calls on a count respect a frame that the store respects. -/
theorem frames
    (frame : Query.Frame Keeps)
    (storage : adapter.Frames Keeps)
    (count : Count) :
    (count.protocol adapter).Frames Keeps where
  opens := by
    intro bindings cursor query
    change Keeps query (count.openWith bindings cursor query).world
    rw [openWith]
    split
    · exact frame.refl query
    · exact frame.countTrace query (fun _ => rfl) .cursorOpen operatorName _
  answers := by
    intro cursor query
    change Keeps query (count.next adapter cursor query).world
    rw [next]
    split
    · exact frame.refl query
    · rcases frame.quiet.checkCancellation query with
        ⟨-, error, checked, refused, kept⟩ | ⟨running, passed⟩
      · rw [refused]
        exact kept
      · rw [passed]
        dsimp only
        split
        · exact keeps_produce frame storage count cursor running
        · exact frame.quiet.trace query .endOfStream operatorName _
  closes := keeps_close frame.quiet count
  destroys := keeps_destroy frame.quiet count

end Count

namespace NestedLoop

variable
  {α β : Type}
  {outer : CursorProtocol α (Query σ)}
  {inner : CursorProtocol β (Query σ)}
  {slot : Nat}

theorem keeps_release
    (quiet : Query.Quiet Keeps)
    (outerFrames : outer.Frames Keeps)
    (innerFrames : inner.Frames Keeps)
    (cursor : Cursor α β)
    (query : Query σ) :
    Keeps query (release outer inner cursor query).world :=
  quiet.trans
    (inner.keeps_closeActive quiet.refl innerFrames.closes cursor.inner query)
    (outerFrames.closes cursor.outer _)

theorem keeps_abort
    (quiet : Query.Quiet Keeps)
    (outerFrames : outer.Frames Keeps)
    (innerFrames : inner.Frames Keeps)
    (error : ExecError)
    (cursor : Cursor α β)
    (query : Query σ) :
    Keeps query
      (abort outer inner error cursor query : Outcome _ _ ρ).world :=
  quiet.trans
    (inner.keeps_closeActive quiet.refl innerFrames.closes cursor.inner query)
    (outer.keeps_closeActive quiet.refl outerFrames.closes cursor.outer _)

theorem keeps_startInner
    (quiet : Query.Quiet Keeps)
    (innerFrames : inner.Frames Keeps)
    (row : Row)
    (cursor : Cursor α β)
    (query : Query σ) :
    Keeps query (startInner inner slot row cursor query).world := by
  rw [startInner]
  split
  · exact quiet.refl query
  · split
    · exact quiet.refl query
    next bindings _ =>
      exact innerFrames.opens bindings cursor.inner query

theorem keeps_takeOuter
    (quiet : Query.Quiet Keeps)
    (outerFrames : outer.Frames Keeps)
    (innerFrames : inner.Frames Keeps)
    (cursor : Cursor α β)
    (query : Query σ) :
    Keeps query (takeOuter outer inner slot cursor query).world := by
  rw [takeOuter]
  refine quiet.andThen (outerFrames.answers cursor.outer query) ?_
  intro row? cursor query
  cases row? with
  | none =>
      exact quiet.refl query
  | some row =>
      exact keeps_startInner quiet innerFrames row cursor query

theorem keeps_round
    (quiet : Query.Quiet Keeps)
    (outerFrames : outer.Frames Keeps)
    (innerFrames : inner.Frames Keeps)
    (cursor : Cursor α β)
    (query : Query σ) :
    Keeps query (round outer inner slot cursor query).world := by
  rw [round]
  split
  · refine quiet.andThen (innerFrames.answers cursor.inner query) ?_
    intro row? cursor query
    cases row? with
    | some row =>
        exact quiet.refl query
    | none =>
        exact keeps_takeOuter quiet outerFrames innerFrames cursor query
  · exact keeps_takeOuter quiet outerFrames innerFrames cursor query

theorem keeps_advance
    (quiet : Query.Quiet Keeps)
    (outerFrames : outer.Frames Keeps)
    (innerFrames : inner.Frames Keeps)
    (rounds : Nat)
    (cursor : Cursor α β)
    (query : Query σ) :
    Keeps query (advance outer inner slot rounds cursor query).world := by
  induction rounds generalizing cursor query with
  | zero =>
      exact keeps_release quiet outerFrames innerFrames cursor query
  | succ rounds ih =>
      have gone :
          Keeps query (round outer inner slot cursor query).world :=
        keeps_round quiet outerFrames innerFrames cursor query
      rw [advance]
      split
      · exact quiet.trans gone (keeps_abort quiet outerFrames innerFrames _ _ _)
      · exact gone
      · exact quiet.trans gone (ih _ _)
      · exact quiet.trans gone (quiet.trace _ .endOfStream operatorName _)

theorem keeps_next
    (quiet : Query.Quiet Keeps)
    (outerFrames : outer.Frames Keeps)
    (innerFrames : inner.Frames Keeps)
    (cursor : Cursor α β)
    (query : Query σ) :
    Keeps query (next outer inner slot cursor query).world := by
  rw [next]
  split
  · exact quiet.refl query
  · rcases quiet.checkCancellation query with
      ⟨-, error, checked, refused, kept⟩ | ⟨-, passed⟩
    · rw [refused]
      exact quiet.trans kept
        (keeps_abort quiet outerFrames innerFrames error cursor checked)
    · rw [passed]
      exact keeps_advance quiet outerFrames innerFrames _ cursor query

theorem keeps_close
    (quiet : Query.Quiet Keeps)
    (outerFrames : outer.Frames Keeps)
    (innerFrames : inner.Frames Keeps)
    (cursor : Cursor α β)
    (query : Query σ) :
    Keeps query (close outer inner slot cursor query).world := by
  rw [close]
  split
  · exact quiet.refl query
  · split
    · exact quiet.trans
        (keeps_release quiet outerFrames innerFrames cursor query)
        (quiet.trace _ .cursorClose operatorName _)
    · exact quiet.refl query

theorem keeps_destroy
    (quiet : Query.Quiet Keeps)
    (outerFrames : outer.Frames Keeps)
    (innerFrames : inner.Frames Keeps)
    (cursor : Cursor α β)
    (query : Query σ) :
    Keeps query (destroy outer inner slot cursor query).world := by
  rw [destroy]
  split
  · exact quiet.refl query
  · refine quiet.trans (innerFrames.destroys cursor.inner query)
      (quiet.trans (outerFrames.destroys cursor.outer _) ?_)
    exact quiet.countTrace _ .cursorsDestroyed rfl nofun .cursorDestroy
      operatorName _

/-- All calls on a loop respect a frame that the calls on both of its cursors respect. -/
theorem frames
    (frame : Query.Frame Keeps)
    (outerFrames : outer.Frames Keeps)
    (innerFrames : inner.Frames Keeps)
    (slot : Nat) :
    (protocol outer inner slot).Frames Keeps where
  opens := by
    intro bindings cursor query
    change Keeps query (openWith outer slot bindings cursor query).world
    rw [openWith]
    split
    · exact frame.refl query
    · split
      · refine frame.quiet.andThen
          (outerFrames.opens bindings cursor.outer query) ?_
        intro _ cursor query
        exact frame.countTrace query (fun _ => rfl) .cursorOpen operatorName _
      · exact frame.refl query
  answers := keeps_next frame.quiet outerFrames innerFrames
  closes := keeps_close frame.quiet outerFrames innerFrames
  destroys := keeps_destroy frame.quiet outerFrames innerFrames

end NestedLoop

/-- All calls on the cursors of a plan respect a frame that the store respects. -/
theorem Plan.frames
    (frame : Query.Frame Keeps)
    {adapter : StoreAdapter κ σ}
    (storage : adapter.Frames Keeps)
    (plan : Plan) :
    (plan.protocol adapter).Frames Keeps := by
  induction plan with
  | scan leaf =>
      exact leaf.frames frame storage
  | count leaf =>
      exact leaf.frames frame storage
  | nestedLoop outer inner slot outerFrames innerFrames =>
      exact NestedLoop.frames frame outerFrames innerFrames slot

/-- Whatever is called, the query afterwards is in the frame. -/
theorem CursorProtocol.Frames.call
    {protocol : CursorProtocol κ ω}
    {Keeps : ω → ω → Prop}
    (frames : protocol.Frames Keeps)
    (made : CursorCall)
    (cursor : κ)
    (world : ω) :
    Keeps world (protocol.call made cursor world).world := by
  cases made with
  | openWith bindings =>
      exact frames.opens bindings cursor world
  | next =>
      exact frames.answers cursor world
  | close =>
      exact frames.closes cursor world
  | destroy =>
      exact frames.destroys cursor world

end HierQuery
