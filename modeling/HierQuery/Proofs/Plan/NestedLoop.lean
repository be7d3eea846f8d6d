import HierQuery.Plan.NestedLoop
import HierQuery.Proofs.Cursor.Service

/-!
# The service of a nested loop

If the services of the outer and the inner cursor of a loop are lawful, the
loop serves what is left of the present inner stream and after it the inner
streams for the outer rows that are left.  A round of the loop has a row or
goes on to the next outer row.  So there is at most one round more than there
are outer rows, and the bound on the rounds is never felt.
-/

namespace HierQuery.NestedLoop

variable {α β σ : Type}

/-- A cursor of a loop that may be opened. -/
structure Ready
    (outer : Service α σ)
    (inner : Service β σ)
    (cursor : Cursor α β) :
    Prop where
  state : cursor.state = .idle
  outer : outer.Ready cursor.outer
  inner : inner.Ready cursor.inner

/-- What an inner cursor still has to hand out; a ready one has nothing. -/
inductive InnerLeft (inner : Service β σ) : RowStream → β → Prop
  | ready
      {cursor : β}
      (ready : inner.Ready cursor) :
      InnerLeft inner ⟨[], none⟩ cursor
  | going
      {stream : RowStream}
      {cursor : β}
      (going : inner.Going stream cursor) :
      InnerLeft inner stream cursor

/-- A cursor of a loop under way, with the streams that its two cursors still serve. -/
structure Looping
    (outer : Service α σ)
    (inner : Service β σ)
    (slot : Nat)
    (outerStream innerStream : RowStream)
    (cursor : Cursor α β) :
    Prop where
  state : cursor.state = .active
  slotInside : slot < cursor.bindings.reserved
  roomy : inner.slots ≤ cursor.bindings.reserved
  outer : outer.Going outerStream cursor.outer
  inner : InnerLeft inner innerStream cursor.inner

/-- What a loop still has to hand out: the rest of an inner stream, then streams for outer rows. -/
def rest
    (inner : Service β σ)
    (slot : Nat)
    (outerStream innerStream : RowStream)
    (cursor : Cursor α β) :
    RowStream :=
  innerStream.followedBy
    (outerStream.forEach (body slot inner.meaning cursor.bindings))

/-- A nested loop serves the inner streams for all rows of the outer stream. -/
def service
    (outer : Service α σ)
    (inner : Service β σ)
    (slot : Nat) :
    Service (Cursor α β) σ where
  protocol := protocol outer.protocol inner.protocol slot
  slots := max (max (slot + 1) outer.slots) inner.slots
  meaning := fun bindings =>
    (outer.meaning bindings).forEach (body slot inner.meaning bindings)
  Ready := Ready outer inner
  Going := fun stream cursor =>
    ∃ outerStream innerStream,
      Looping outer inner slot outerStream innerStream cursor ∧
        stream = rest inner slot outerStream innerStream cursor

/-- The stream for an outer row does not depend on what the slot held before. -/
@[simp]
theorem body_withKey
    (slot : Nat)
    (meaning : Bindings → RowStream)
    (bindings : Bindings)
    (key : HKey) :
    body slot meaning (bindings.withKey slot key) =
      body slot meaning bindings := by
  funext row
  unfold body
  split
  · rfl
  · rw [Bindings.withKey_withKey]

variable
  {outer : Service α σ}
  {inner : Service β σ}
  {slot : Nat}
  {store : σ}
  {query : Query σ}

theorem InnerLeft.stands
    {stream : RowStream}
    {cursor : β}
    (left : InnerLeft inner stream cursor) :
    inner.Ready cursor ∨ ∃ stream, inner.Going stream cursor := by
  cases left with
  | ready ready =>
      exact .inl ready
  | going going =>
      exact .inr ⟨stream, going⟩

theorem InnerLeft.fits
    (innerLawful : inner.Lawful store)
    {stream : RowStream}
    {cursor : β}
    (left : InnerLeft inner stream cursor)
    (calm : Calm store query) :
    stream.Fits (inner.protocol.rowBound query) := by
  cases left with
  | ready ready =>
      exact RowStream.fits_nil _
  | going going =>
      exact innerLawful.goingFits going calm

theorem body_fits
    (innerLawful : inner.Lawful store)
    (slot : Nat)
    {bindings : Bindings}
    (roomy : inner.slots ≤ bindings.reserved)
    (calm : Calm store query)
    (row : Row) :
    (body slot inner.meaning bindings row).Fits
      (inner.protocol.rowBound query) := by
  rw [body]
  split
  · exact RowStream.fits_failed _ rfl
  · exact innerLawful.meaningFits
      ((Bindings.reserved_withKey _ _ _).symm ▸ roomy) calm

/-! ## Ends of a loop -/

/-- A loop that fails closes both cursors, and the failure stays. -/
theorem answers_abort
    (outerLawful : outer.Lawful store)
    (innerLawful : inner.Lawful store)
    {error : ExecError}
    (named : error.operator?.isSome = true)
    {cursor : Cursor α β}
    (active : cursor.state = .active)
    (outerStands :
      outer.Ready cursor.outer ∨ ∃ stream, outer.Going stream cursor.outer)
    (innerStands :
      inner.Ready cursor.inner ∨ ∃ stream, inner.Going stream cursor.inner)
    (calm : Calm store query) :
    (service outer inner slot).Answers store (.failed error)
      (abort outer.protocol inner.protocol error cursor query) := by
  rcases cursor with ⟨outerCursor, innerCursor, state, bindings⟩
  cases active
  have innerCloses := innerLawful.closesActive innerStands calm
  rw [abort, ExecError.within_eq_self named]
  rw [Cursor.onInner, Cursor.onOuter]
  dsimp only at innerCloses ⊢
  generalize inner.protocol.closeActive innerCursor query = innerOutcome
    at innerCloses ⊢
  cases innerCloses with
  | closed innerReady calm =>
      have outerCloses := outerLawful.closesActive outerStands calm
      dsimp only [Outcome.pure] at outerCloses ⊢
      generalize outer.protocol.closeActive outerCursor _ = outerOutcome
        at outerCloses ⊢
      cases outerCloses with
      | closed outerReady calm =>
          exact .failed ⟨rfl, outerReady, innerReady⟩ calm

/-- Closing a loop closes both cursors. -/
theorem closes_release
    (outerLawful : outer.Lawful store)
    (innerLawful : inner.Lawful store)
    {outerStream innerStream : RowStream}
    {cursor : Cursor α β}
    (looping : Looping outer inner slot outerStream innerStream cursor)
    (calm : Calm store query) :
    (service outer inner slot).Closes store
      (release outer.protocol inner.protocol cursor query) := by
  rcases looping with ⟨active, -, -, outerGoing, innerLeft⟩
  rcases cursor with ⟨outerCursor, innerCursor, state, bindings⟩
  cases active
  have innerCloses := innerLawful.closesActive innerLeft.stands calm
  rw [release, Cursor.onInner, Cursor.onOuter]
  dsimp only at innerCloses ⊢
  generalize inner.protocol.closeActive innerCursor query = innerOutcome
    at innerCloses ⊢
  cases innerCloses with
  | closed innerReady calm =>
      have outerCloses := outerLawful.closesGoing outerGoing calm
      dsimp only [Outcome.pure] at outerCloses ⊢
      generalize outer.protocol.close outerCursor _ = outerOutcome
        at outerCloses ⊢
      cases outerCloses with
      | closed outerReady calm =>
          exact .closed ⟨rfl, outerReady, innerReady⟩ calm

/-! ## Rounds -/

/-- A round that had a row, went on to the next outer row, or met the end or a failure. -/
inductive RoundAnswers
    (outer : Service α σ)
    (inner : Service β σ)
    (slot : Nat)
    (store : σ)
    (outerRows : Nat) :
    RowStream → Outcome (Cursor α β) (Query σ) Round → Prop
  | row
      {row : Row}
      {rows : List Row}
      {failure? : Option ExecError}
      {cursor : Cursor α β}
      {query : Query σ}
      (going : (service outer inner slot).Going ⟨rows, failure?⟩ cursor)
      (calm : Calm store query) :
      RoundAnswers outer inner slot store outerRows ⟨row :: rows, failure?⟩
        (.pure (.row row) cursor query)
  | opened
      {outerStream innerStream : RowStream}
      {cursor : Cursor α β}
      {query : Query σ}
      (looping : Looping outer inner slot outerStream innerStream cursor)
      (fewer : outerStream.rows.length < outerRows)
      (calm : Calm store query) :
      RoundAnswers outer inner slot store outerRows
        (rest inner slot outerStream innerStream cursor)
        (.pure .opened cursor query)
  | ended
      {cursor : Cursor α β}
      {query : Query σ}
      (ready : Ready outer inner cursor.settled)
      (calm : Calm store query) :
      RoundAnswers outer inner slot store outerRows ⟨[], none⟩
        (.pure .ended cursor query)
  | failed
      {error : ExecError}
      {cursor : Cursor α β}
      {query : Query σ}
      (named : error.operator?.isSome = true)
      (active : cursor.state = .active)
      (outerStands :
        outer.Ready cursor.outer ∨
          ∃ stream, outer.Going stream cursor.outer)
      (innerStands :
        inner.Ready cursor.inner ∨
          ∃ stream, inner.Going stream cursor.inner)
      (calm : Calm store query) :
      RoundAnswers outer inner slot store outerRows (.failed error)
        (.fail error cursor query)

/-- Binding the key of an outer row begins the inner stream for it. -/
theorem answers_startInner
    (innerLawful : inner.Lawful store)
    {outerCursor : α}
    {innerCursor : β}
    {bindings : Bindings}
    (slotInside : slot < bindings.reserved)
    (roomy : inner.slots ≤ bindings.reserved)
    {rows : List Row}
    {failure? : Option ExecError}
    (outerGoing : outer.Going ⟨rows, failure?⟩ outerCursor)
    (innerReady : inner.Ready innerCursor)
    (row : Row)
    (calm : Calm store query) :
    RoundAnswers outer inner slot store (rows.length + 1)
      (RowStream.forEach ⟨row :: rows, failure?⟩
        (body slot inner.meaning bindings))
      ((startInner inner.protocol slot row
        ⟨outerCursor, innerCursor, .active, bindings⟩ query).map fun () =>
          .opened) := by
  rw [RowStream.cons_forEach, body, startInner]
  cases row.key? with
  | none =>
      exact .failed rfl rfl (.inr ⟨_, outerGoing⟩) (.inl innerReady) calm
  | some key =>
      have wide : inner.slots ≤ (bindings.withKey slot key).reserved :=
        (Bindings.reserved_withKey _ _ _).symm ▸ roomy
      have fits := innerLawful.meaningFits wide calm
      have opened := innerLawful.opens wide innerReady calm
      dsimp only
      rw [Bindings.set_key_eq_ok slotInside]
      unfold Cursor.onInner
      dsimp only
      generalize inner.meaning (bindings.withKey slot key) = stream
        at fits opened ⊢
      generalize
        inner.protocol.openWith (bindings.withKey slot key) innerCursor
          query = outcome at opened ⊢
      cases opened with
      | refused innerReady calm =>
          exact .failed (fits.named _ rfl) rfl (.inr ⟨_, outerGoing⟩)
            (.inl innerReady) calm
      | @opened _ openedInner _ innerGoing calm =>
          have looping :
              Looping outer inner slot ⟨rows, failure?⟩ stream
                ⟨outerCursor, openedInner, .active,
                  bindings.withKey slot key⟩ := by
            refine ⟨rfl, ?_, wide, outerGoing, .going innerGoing⟩
            rw [Bindings.reserved_withKey]
            exact slotInside
          rw [← body_withKey slot inner.meaning bindings key]
          exact .opened looping (Nat.lt_succ_self _) calm

/-- Once the inner stream is used up, the next outer row begins another one. -/
theorem answers_takeOuter
    (outerLawful : outer.Lawful store)
    (innerLawful : inner.Lawful store)
    {outerStream : RowStream}
    {outerCursor : α}
    {innerCursor : β}
    {bindings : Bindings}
    (slotInside : slot < bindings.reserved)
    (roomy : inner.slots ≤ bindings.reserved)
    (outerGoing : outer.Going outerStream outerCursor)
    (innerReady : inner.Ready innerCursor)
    (calm : Calm store query) :
    RoundAnswers outer inner slot store outerStream.rows.length
      (outerStream.forEach (body slot inner.meaning bindings))
      (takeOuter outer.protocol inner.protocol slot
        ⟨outerCursor, innerCursor, .active, bindings⟩ query) := by
  have fits := outerLawful.goingFits outerGoing calm
  have step := outerLawful.answers outerGoing calm
  rw [takeOuter, Cursor.onOuter]
  dsimp only
  generalize outer.protocol.next outerCursor query = outcome at step ⊢
  cases step with
  | row nextGoing calm =>
      exact answers_startInner innerLawful slotInside roomy nextGoing
        innerReady _ calm
  | ended outerReady calm =>
      exact .ended ⟨rfl, outerReady, innerReady⟩ calm
  | failed outerReady calm =>
      exact .failed (fits.named _ rfl) rfl (.inl outerReady)
        (.inl innerReady) calm

/-- A round takes the next inner row, or else the next outer row. -/
theorem answers_round
    (outerLawful : outer.Lawful store)
    (innerLawful : inner.Lawful store)
    {outerStream innerStream : RowStream}
    {cursor : Cursor α β}
    (looping : Looping outer inner slot outerStream innerStream cursor)
    (calm : Calm store query) :
    RoundAnswers outer inner slot store outerStream.rows.length
      (rest inner slot outerStream innerStream cursor)
      (round outer.protocol inner.protocol slot cursor query) := by
  rcases looping with ⟨active, slotInside, roomy, outerGoing, innerLeft⟩
  rcases cursor with ⟨outerCursor, innerCursor, state, bindings⟩
  cases active
  cases innerLeft with
  | ready innerReady =>
      rw [round, innerLawful.idle innerReady]
      exact answers_takeOuter outerLawful innerLawful slotInside roomy
        outerGoing innerReady calm
  | going innerGoing =>
      have fits := innerLawful.goingFits innerGoing calm
      have step := innerLawful.answers innerGoing calm
      rw [round, innerLawful.active innerGoing]
      rw [Cursor.onInner]
      dsimp only at step ⊢
      generalize inner.protocol.next innerCursor query = outcome at step ⊢
      cases step with
      | @row row rows failure? nextInner _ nextGoing calm =>
          have looping :
              Looping outer inner slot outerStream ⟨rows, failure?⟩
                ⟨outerCursor, nextInner, .active, bindings⟩ :=
            ⟨rfl, slotInside, roomy, outerGoing, .going nextGoing⟩
          rw [rest, RowStream.cons_followedBy]
          exact .row ⟨outerStream, _, looping, rfl⟩ calm
      | ended innerReady calm =>
          exact answers_takeOuter outerLawful innerLawful slotInside roomy
            outerGoing innerReady calm
      | failed innerReady calm =>
          exact .failed (fits.named _ rfl) rfl (.inr ⟨_, outerGoing⟩)
            (.inl innerReady) calm

/-- More rounds than outer rows are enough to have the next row. -/
theorem answers_advance
    (outerLawful : outer.Lawful store)
    (innerLawful : inner.Lawful store)
    {rounds : Nat}
    {outerStream innerStream : RowStream}
    (enough : outerStream.rows.length < rounds)
    {cursor : Cursor α β}
    (looping : Looping outer inner slot outerStream innerStream cursor)
    (calm : Calm store query) :
    (service outer inner slot).Answers store
      (rest inner slot outerStream innerStream cursor)
      (advance outer.protocol inner.protocol slot rounds cursor query) := by
  induction rounds generalizing outerStream innerStream cursor query with
  | zero =>
      exact (Nat.not_lt_zero _ enough).elim
  | succ rounds ih =>
      have step := answers_round outerLawful innerLawful looping calm
      rw [advance]
      generalize
        round outer.protocol inner.protocol slot cursor query = outcome
        at step ⊢
      generalize rest inner slot outerStream innerStream cursor = stream
        at step ⊢
      cases step with
      | row going calm =>
          exact .row going calm
      | opened looping fewer calm =>
          exact ih (Nat.lt_of_lt_of_le fewer (Nat.le_of_lt_succ enough))
            looping calm
      | ended ready calm =>
          exact .ended ready (calm.trace _ _ _)
      | failed named active outerStands innerStands calm =>
          exact answers_abort outerLawful innerLawful named active
            outerStands innerStands calm

/-- Opening a loop opens its outer cursor. -/
theorem opens_openWith
    (outerLawful : outer.Lawful store)
    {bindings : Bindings}
    (roomy : (service outer inner slot).slots ≤ bindings.reserved)
    {cursor : Cursor α β}
    (ready : Ready outer inner cursor)
    (calm : Calm store query) :
    (service outer inner slot).Opens store
      ((service outer inner slot).meaning bindings)
      (openWith outer.protocol slot bindings cursor query) := by
  rcases Nat.max_le.1 roomy with ⟨slotsFit, innerFits⟩
  rcases Nat.max_le.1 slotsFit with ⟨inside, outerFits⟩
  have slotInside : slot < bindings.reserved := inside
  have opened := outerLawful.opens outerFits ready.outer calm
  rw [openWith, ready.state, CursorState.requireIdle_idle]
  dsimp only
  rw [if_pos slotInside]
  rw [Cursor.onOuter]
  change (service outer inner slot).Opens store
    ((outer.meaning bindings).forEach (body slot inner.meaning bindings)) _
  dsimp only
  generalize outer.meaning bindings = stream at opened ⊢
  generalize outer.protocol.openWith bindings cursor.outer query = outcome
    at opened ⊢
  cases opened with
  | refused outerReady calm =>
      exact .refused ⟨rfl, outerReady, ready.inner⟩ calm
  | opened outerGoing calm =>
      refine .opened ⟨stream, ⟨[], none⟩, ⟨rfl, slotInside, innerFits,
        outerGoing, .ready ready.inner⟩, rfl⟩ ?_
      exact (calm.count _).trace _ _ _

/-- The calls on the cursor of a loop serve what the loop means. -/
theorem lawful
    (outerLawful : outer.Lawful store)
    (innerLawful : inner.Lawful store)
    (slot : Nat) :
    (service outer inner slot).Lawful store where
  idle := fun ready => ready.state
  active := by
    rintro stream cursor ⟨_, _, looping, -⟩
    exact looping.state
  opens := fun roomy ready calm =>
    opens_openWith outerLawful roomy ready calm
  answers := by
    rintro stream cursor query ⟨outerStream, innerStream, looping, rfl⟩ calm
    change Service.Answers _ _ _
      (next outer.protocol inner.protocol slot cursor query)
    rw [next, looping.state, calm.checkCancellation]
    exact answers_advance outerLawful innerLawful
      (Nat.lt_succ_of_le (outerLawful.goingFits looping.outer calm).short)
      looping calm
  closesReady := by
    intro cursor query ready calm
    change Service.Closes _ _
      (close outer.protocol inner.protocol slot cursor query)
    rw [close, ready.state]
    exact .closed ready calm
  closesGoing := by
    rintro stream cursor query ⟨outerStream, innerStream, looping, -⟩ calm
    have closes := closes_release outerLawful innerLawful looping calm
    change Service.Closes _ _
      (close outer.protocol inner.protocol slot cursor query)
    rw [close, looping.state, CursorState.requireAlive_active]
    dsimp only
    rw [if_pos rfl]
    generalize release outer.protocol inner.protocol cursor query = outcome
      at closes ⊢
    cases closes with
    | closed ready calm =>
        exact .closed ready (calm.trace _ _ _)
  meaningFits := by
    intro bindings query roomy calm
    rcases Nat.max_le.1 roomy with ⟨slotsFit, innerFits⟩
    have outerFits := (Nat.max_le.1 slotsFit).2
    have fits :=
      (outerLawful.meaningFits outerFits calm).forEach
        (body_fits innerLawful slot innerFits calm)
    exact ⟨Nat.le_trans fits.short (Nat.mul_le_mul_right _ (Nat.le_succ _)),
      fits.named⟩
  goingFits := by
    rintro stream cursor query ⟨outerStream, innerStream, looping, rfl⟩ calm
    have fits :=
      (looping.inner.fits innerLawful calm).followedBy
        ((outerLawful.goingFits looping.outer calm).forEach
          (body_fits innerLawful slot looping.roomy calm))
    have bound :
        inner.protocol.rowBound query +
            outer.protocol.rowBound query * inner.protocol.rowBound query =
          (outer.protocol.rowBound query + 1) *
            inner.protocol.rowBound query := by
      rw [Nat.succ_mul, Nat.add_comm]
    exact ⟨Nat.le_trans fits.short (Nat.le_of_eq bound), fits.named⟩

end HierQuery.NestedLoop
