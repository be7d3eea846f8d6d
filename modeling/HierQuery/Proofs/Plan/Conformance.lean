import HierQuery.Plan.Basic
import HierQuery.Proofs.Cursor.Call
import HierQuery.Store.GroupCursor

/-!
# Conformant operators

Every operator keeps to the table of calls and states if the cursors below it
do.  What ties the states in a tree together is stated for each operator: a
scan is in the state of its storage cursor, and while a loop is active its
outer cursor is active and its inner cursor is not destroyed.

This holds of any store whose storage cursors are orderly, whether or not they
may fail.  An orderly cursor need not be conformant: if it fails to hand out a
row, it may stay active, and the scan closes it.
-/

namespace HierQuery

open CursorProtocol

variable {κ σ : Type}

/-- The storage cursors of a store keep to the table, and moving an idle one leaves it idle. -/
structure StoreAdapter.Conformant
    (adapter : StoreAdapter κ σ)
    (Sound : κ → Prop)
    (sure : Prop) :
    Prop where
  calls : adapter.toCursorProtocol.Conformant Sound sure
  rebinds :
    ∀ {range cursor store}, Sound cursor → adapter.state cursor = .idle →
      Sound (adapter.rebind range cursor store).cursor ∧
        adapter.state (adapter.rebind range cursor store).cursor = .idle
  creates :
    ∀ {group store cursor}, (adapter.newCursor group store).1 = .ok cursor →
      Sound cursor ∧ adapter.state cursor = .idle

/-- What asking an active storage cursor for a row may come to. -/
inductive StoreAdapter.AfterFetch
    (adapter : StoreAdapter κ σ)
    (Sound : κ → Prop) :
    Outcome κ σ (Option Row) → Prop
  | row
      {row : Row}
      {cursor : κ}
      {store : σ}
      (sound : Sound cursor)
      (active : adapter.state cursor = .active) :
      AfterFetch adapter Sound (.pure (some row) cursor store)
  | ended
      {cursor : κ}
      {store : σ}
      (sound : Sound cursor)
      (alive : adapter.state cursor ≠ .destroyed) :
      AfterFetch adapter Sound (.pure none cursor store)
  | failed
      {error : ExecError}
      {cursor : κ}
      {store : σ}
      (sound : Sound cursor)
      (alive : adapter.state cursor ≠ .destroyed) :
      AfterFetch adapter Sound (.fail error cursor store)

/-- Storage cursors that may fail anywhere: a failed opening or closing leaves them idle. -/
structure StoreAdapter.Orderly
    (adapter : StoreAdapter κ σ)
    (Sound : κ → Prop)
    (sure : Prop) :
    Prop where
  opens :
    ∀ {bindings cursor store}, Sound cursor → adapter.state cursor = .idle →
      AfterOpen adapter.toCursorProtocol Sound
        (adapter.openWith bindings cursor store)
  answers :
    ∀ {cursor store}, Sound cursor → adapter.state cursor = .active →
      adapter.AfterFetch Sound (adapter.next cursor store)
  closes :
    ∀ {cursor store}, Sound cursor → adapter.state cursor ≠ .destroyed →
      AfterEnd adapter.toCursorProtocol Sound sure .idle
        (adapter.close cursor store)
  destroys :
    ∀ {cursor store}, Sound cursor → adapter.state cursor ≠ .destroyed →
      AfterEnd adapter.toCursorProtocol Sound sure .destroyed
        (adapter.destroy cursor store)
  rebinds :
    ∀ {range cursor store}, Sound cursor → adapter.state cursor = .idle →
      Sound (adapter.rebind range cursor store).cursor ∧
        adapter.state (adapter.rebind range cursor store).cursor = .idle
  creates :
    ∀ {group store cursor}, (adapter.newCursor group store).1 = .ok cursor →
      Sound cursor ∧ adapter.state cursor = .idle

namespace StoreAdapter

variable
  {adapter : StoreAdapter κ σ}
  {Sound : κ → Prop}
  {sure : Prop}

theorem Conformant.orderly
    (conformant : adapter.Conformant Sound sure) :
    adapter.Orderly Sound sure where
  opens := conformant.calls.opens
  answers := by
    intro cursor store sound active
    have answers :
        AfterNext adapter.toCursorProtocol Sound (adapter.next cursor store) :=
      conformant.calls.answers sound active
    generalize adapter.next cursor store = outcome at answers ⊢
    cases answers with
    | row sound active =>
        exact .row sound active
    | ended sound idle =>
        exact .ended sound (CursorState.alive_of_idle idle)
    | failed sound idle =>
        exact .failed sound (CursorState.alive_of_idle idle)
  closes := conformant.calls.closes
  destroys := conformant.calls.destroys
  rebinds := conformant.rebinds
  creates := conformant.creates

theorem Orderly.closesActive
    (orderly : adapter.Orderly Sound sure)
    {cursor : κ}
    (sound : Sound cursor)
    (alive : adapter.state cursor ≠ .destroyed)
    (store : σ) :
    AfterEnd adapter.toCursorProtocol Sound sure .idle
      (adapter.closeActive cursor store) :=
  afterEnd_closeActive sound alive (orderly.closes sound alive)

end StoreAdapter

namespace GroupScan

/-- A scan is in the state of its storage cursor. -/
structure Sound
    (adapter : StoreAdapter κ σ)
    (StorageSound : κ → Prop)
    (cursor : Cursor κ) :
    Prop where
  storage : StorageSound cursor.storage
  state : adapter.state cursor.storage = cursor.state

variable
  {adapter : StoreAdapter κ σ}
  {StorageSound : κ → Prop}
  {sure : Prop}
  {scan : GroupScan}

theorem afterEnd_finish
    (orderly : adapter.Orderly StorageSound sure)
    (reason : Event)
    {cursor : Cursor κ}
    (active : cursor.state = .active)
    (sound : StorageSound cursor.storage)
    (alive : adapter.state cursor.storage ≠ .destroyed)
    (query : Query σ) :
    AfterEnd (scan.protocol adapter) (Sound adapter StorageSound) sure .idle
      (finish adapter reason cursor query) := by
  have closed := orderly.closesActive sound alive query.store
  rcases cursor with ⟨storage, state, range, tally⟩
  cases active
  refine ⟨⟨closed.sound, closed.state⟩, rfl, ?_⟩
  intro certain
  exact congrArg (Except.mapError _) (closed.succeeds certain)

theorem afterNext_abort
    (orderly : adapter.Orderly StorageSound sure)
    (error : ExecError)
    {cursor : Cursor κ}
    (active : cursor.state = .active)
    (sound : StorageSound cursor.storage)
    (alive : adapter.state cursor.storage ≠ .destroyed)
    (query : Query σ) :
    AfterNext (scan.protocol adapter) (Sound adapter StorageSound)
      (abort adapter error cursor query) := by
  have closed : AfterEnd _ _ _ _ (adapter.close cursor.storage query.store) :=
    orderly.closes sound alive
  rcases cursor with ⟨storage, state, range, tally⟩
  cases active
  exact .failed ⟨closed.sound, closed.state⟩ rfl

theorem afterNext_offer
    (orderly : adapter.Orderly StorageSound sure)
    (row : Row)
    {cursor : Cursor κ}
    (active : cursor.state = .active)
    (sound : StorageSound cursor.storage)
    (storageActive : adapter.state cursor.storage = .active)
    (query : Query σ) :
    AfterNext (scan.protocol adapter) (Sound adapter StorageSound)
      (scan.offer adapter row cursor query) := by
  have alive := CursorState.alive_of_active storageActive
  rw [offer]
  split
  · split
    · apply AfterEnd.afterNext
      apply afterEnd_finish orderly
      · exact active
      · exact sound
      · exact alive
    · exact .row ⟨sound, storageActive.trans active.symm⟩ active
  · exact (afterEnd_finish orderly .endOfStream active sound alive
      query).afterNext

theorem afterOpen_start
    (orderly : adapter.Orderly StorageSound sure)
    (bindings : Bindings)
    {cursor : Cursor κ}
    (idle : cursor.state = .idle)
    (sound : StorageSound cursor.storage)
    (storageIdle : adapter.state cursor.storage = .idle)
    (query : Query σ) :
    AfterOpen (scan.protocol adapter) (Sound adapter StorageSound)
      (start adapter bindings cursor query) := by
  have opened :
      AfterOpen _ _
        (adapter.openWith bindings cursor.storage query.store) :=
    orderly.opens sound storageIdle
  unfold start Cursor.onStorage
  dsimp only
  generalize adapter.openWith bindings cursor.storage query.store = outcome
    at opened ⊢
  cases opened with
  | opened sound storageActive =>
      exact .opened ⟨sound, storageActive⟩ rfl
  | failed sound storageIdle =>
      exact .failed ⟨sound, storageIdle.trans idle.symm⟩ idle

theorem afterOpen_openWith
    (orderly : adapter.Orderly StorageSound sure)
    (bindings : Bindings)
    {cursor : Cursor κ}
    (idle : cursor.state = .idle)
    (sound : Sound adapter StorageSound cursor)
    (query : Query σ) :
    AfterOpen (scan.protocol adapter) (Sound adapter StorageSound)
      (scan.openWith adapter bindings cursor query) := by
  have storageIdle := sound.state.trans idle
  rw [openWith, idle, CursorState.requireIdle_idle]
  dsimp only
  rw [position]
  split
  · exact afterOpen_start orderly bindings idle sound.storage storageIdle
      query
  next slot reach _ =>
    split
    next error _ =>
      exact .failed sound idle
    next key _ =>
      have rebound :=
        @orderly.rebinds (.reaching reach key) cursor.storage query.store
          sound.storage storageIdle
      unfold Cursor.onStorage
      dsimp only
      generalize
        adapter.rebind (.reaching reach key) cursor.storage query.store =
          outcome
        at rebound ⊢
      rcases outcome with ⟨answer, moved, store⟩
      rcases rebound with ⟨soundStorage, stillIdle⟩
      cases answer with
      | error error =>
          exact .failed ⟨soundStorage, stillIdle.trans idle.symm⟩ idle
      | ok =>
          apply afterOpen_start orderly bindings
          · exact idle
          · exact soundStorage
          · exact stillIdle

theorem afterNext_next
    (orderly : adapter.Orderly StorageSound sure)
    {cursor : Cursor κ}
    (active : cursor.state = .active)
    (sound : Sound adapter StorageSound cursor)
    (query : Query σ) :
    AfterNext (scan.protocol adapter) (Sound adapter StorageSound)
      (scan.next adapter cursor query) := by
  have storageActive := sound.state.trans active
  rw [next, active, CursorState.requireActive_active]
  dsimp only
  split
  next error query _ =>
    exact afterNext_abort orderly error active sound.storage
      (CursorState.alive_of_active storageActive) query
  next query _ =>
    have step :
        adapter.AfterFetch StorageSound
          (adapter.next cursor.storage query.store) :=
      orderly.answers sound.storage storageActive
    rw [Cursor.onStorage]
    dsimp only
    generalize adapter.next cursor.storage query.store = outcome at step ⊢
    cases step with
    | row sound storageActive =>
        apply afterNext_offer orderly
        · exact active
        · exact sound
        · exact storageActive
    | ended sound alive =>
        apply AfterEnd.afterNext
        apply afterEnd_finish orderly
        · exact active
        · exact sound
        · exact alive
    | failed sound alive =>
        apply afterNext_abort orderly
        · exact active
        · exact sound
        · exact alive

theorem afterEnd_destroy
    (orderly : adapter.Orderly StorageSound sure)
    {cursor : Cursor κ}
    (alive : cursor.state ≠ .destroyed)
    (sound : Sound adapter StorageSound cursor)
    (query : Query σ) :
    AfterEnd (scan.protocol adapter) (Sound adapter StorageSound) sure
      .destroyed (destroy adapter cursor query) := by
  have storageAlive : adapter.state cursor.storage ≠ .destroyed := by
    rw [sound.state]
    exact alive
  have gone :=
    @orderly.destroys cursor.storage query.store sound.storage
      storageAlive
  have logged :
      ((query.count .cursorsDestroyed).trace .cursorDestroy operatorName
        "").store = query.store :=
    Query.store_trace _ _ _ _
  rw [destroy, CursorState.requireAlive_of_ne alive]
  dsimp only [Cursor.onStorage]
  rw [logged]
  refine ⟨⟨gone.sound, gone.state⟩, rfl, ?_⟩
  intro certain
  exact congrArg (Except.mapError _) (gone.succeeds certain)

/-- A scan keeps to the table if its storage cursor is orderly. -/
theorem conformant
    (storage : adapter.Orderly StorageSound sure)
    (scan : GroupScan) :
    (scan.protocol adapter).Conformant (Sound adapter StorageSound)
      sure where
  opens := fun sound idle =>
    afterOpen_openWith storage _ idle sound _
  answers := fun sound active =>
    afterNext_next storage active sound _
  closes := by
    intro cursor query sound alive
    change AfterEnd _ _ _ _ (close adapter cursor query)
    change cursor.state ≠ .destroyed at alive
    rw [close, CursorState.requireAlive_of_ne alive]
    dsimp only
    split
    next active =>
      apply afterEnd_finish storage .cursorClose active sound.storage
      rw [sound.state]
      exact alive
    next notActive =>
      exact ⟨sound, CursorState.eq_idle_of_ne alive notActive, fun _ => rfl⟩
  destroys := fun sound alive =>
    afterEnd_destroy storage alive sound _

/-- A scan refuses what its state does not allow. -/
theorem guarded
    (scan : GroupScan)
    (adapter : StoreAdapter κ σ) :
    (scan.protocol adapter).Guarded operatorName where
  opens := by
    intro bindings cursor query notIdle
    change cursor.state ≠ .idle at notIdle
    change scan.openWith adapter bindings cursor query = _
    rw [openWith, CursorState.requireIdle_of_ne notIdle]
    rfl
  answers := by
    intro cursor query notActive
    change cursor.state ≠ .active at notActive
    change scan.next adapter cursor query = _
    rw [next, CursorState.requireActive_of_ne notActive]
    rfl
  closes := by
    intro cursor query destroyed
    change cursor.state = .destroyed at destroyed
    change close adapter cursor query = _
    rw [close, destroyed]
    rfl
  destroys := by
    intro cursor query destroyed
    change cursor.state = .destroyed at destroyed
    change destroy adapter cursor query = _
    rw [destroy, destroyed]
    rfl
  closesIdle := by
    intro cursor query idle
    change cursor.state = .idle at idle
    change close adapter cursor query = _
    rw [close, idle]
    rfl

end GroupScan

namespace Count

/-- A count keeps to the table, whatever its store does; there is nothing below it. -/
theorem conformant
    (count : Count)
    (adapter : StoreAdapter κ σ)
    (sure : Prop) :
    (count.protocol adapter).Conformant (fun _ => True) sure where
  opens := by
    intro bindings cursor query _ idle
    change cursor.state = .idle at idle
    change AfterOpen _ _ (count.openWith bindings cursor query)
    rw [openWith, idle, CursorState.requireIdle_idle]
    exact .opened trivial rfl
  answers := by
    intro cursor query _ active
    change cursor.state = .active at active
    have settled : cursor.settled.state = .idle := by
      rw [Cursor.settled, active]
      rfl
    change AfterNext _ _ (count.next adapter cursor query)
    rw [next, active, CursorState.requireActive_active]
    dsimp only
    split
    · exact .failed trivial settled
    · split
      · rw [produce]
        split
        · exact .failed trivial settled
        · exact .row trivial active
      · exact .ended trivial settled
  closes := by
    intro cursor query _ alive
    change cursor.state ≠ .destroyed at alive
    change AfterEnd _ _ _ _ (count.close cursor query)
    rw [close, CursorState.requireAlive_of_ne alive]
    dsimp only
    split
    next active =>
      refine ⟨trivial, ?_, fun _ => rfl⟩
      change cursor.state.deactivate = .idle
      rw [active]
      rfl
    next notActive =>
      refine ⟨trivial, ?_, fun _ => rfl⟩
      exact CursorState.eq_idle_of_ne alive notActive
  destroys := by
    intro cursor query _ alive
    change cursor.state ≠ .destroyed at alive
    change AfterEnd _ _ _ _ (count.destroy cursor query)
    rw [destroy, CursorState.requireAlive_of_ne alive]
    exact ⟨trivial, rfl, fun _ => rfl⟩

/-- A count refuses what its state does not allow. -/
theorem guarded
    (count : Count)
    (adapter : StoreAdapter κ σ) :
    (count.protocol adapter).Guarded operatorName where
  opens := by
    intro bindings cursor query notIdle
    change cursor.state ≠ .idle at notIdle
    change count.openWith bindings cursor query = _
    rw [openWith, CursorState.requireIdle_of_ne notIdle]
    rfl
  answers := by
    intro cursor query notActive
    change cursor.state ≠ .active at notActive
    change count.next adapter cursor query = _
    rw [next, CursorState.requireActive_of_ne notActive]
    rfl
  closes := by
    intro cursor query destroyed
    change cursor.state = .destroyed at destroyed
    change count.close cursor query = _
    rw [close, destroyed]
    rfl
  destroys := by
    intro cursor query destroyed
    change cursor.state = .destroyed at destroyed
    change count.destroy cursor query = _
    rw [destroy, destroyed]
    rfl
  closesIdle := by
    intro cursor query idle
    change cursor.state = .idle at idle
    change count.close cursor query = _
    rw [close, idle]
    rfl

end Count

namespace NestedLoop

variable {α β : Type}

/-- What the state of a loop says of the cursors below it. -/
structure Sound
    (outer : CursorProtocol α (Query σ))
    (inner : CursorProtocol β (Query σ))
    (OuterSound : α → Prop)
    (InnerSound : β → Prop)
    (cursor : Cursor α β) :
    Prop where
  outerSound : OuterSound cursor.outer
  innerSound : InnerSound cursor.inner
  idle :
    cursor.state = .idle →
      outer.state cursor.outer = .idle ∧ inner.state cursor.inner = .idle
  active :
    cursor.state = .active →
      outer.state cursor.outer = .active ∧
        inner.state cursor.inner ≠ .destroyed
  destroyed :
    cursor.state = .destroyed →
      outer.state cursor.outer = .destroyed ∧
        inner.state cursor.inner = .destroyed

/-- A loop under way, possibly with a failure in it, so that either cursor may be idle by now. -/
structure Living
    (outer : CursorProtocol α (Query σ))
    (inner : CursorProtocol β (Query σ))
    (OuterSound : α → Prop)
    (InnerSound : β → Prop)
    (cursor : Cursor α β) :
    Prop where
  state : cursor.state = .active
  outerSound : OuterSound cursor.outer
  innerSound : InnerSound cursor.inner
  outerAlive : outer.state cursor.outer ≠ .destroyed
  innerAlive : inner.state cursor.inner ≠ .destroyed

/-- What a round of a loop may come to. -/
inductive AfterRound
    (outer : CursorProtocol α (Query σ))
    (inner : CursorProtocol β (Query σ))
    (OuterSound : α → Prop)
    (InnerSound : β → Prop) :
    Outcome (Cursor α β) (Query σ) Round → Prop
  | goesOn
      {round : Round}
      {cursor : Cursor α β}
      {query : Query σ}
      (living : Living outer inner OuterSound InnerSound cursor)
      (outerActive : outer.state cursor.outer = .active)
      (notEnded : round ≠ .ended) :
      AfterRound outer inner OuterSound InnerSound
        (.pure round cursor query)
  | ended
      {cursor : Cursor α β}
      {query : Query σ}
      (living : Living outer inner OuterSound InnerSound cursor)
      (outerIdle : outer.state cursor.outer = .idle)
      (innerIdle : inner.state cursor.inner = .idle) :
      AfterRound outer inner OuterSound InnerSound
        (.pure .ended cursor query)
  | failed
      {error : ExecError}
      {cursor : Cursor α β}
      {query : Query σ}
      (living : Living outer inner OuterSound InnerSound cursor) :
      AfterRound outer inner OuterSound InnerSound
        (.fail error cursor query)

variable
  {outer : CursorProtocol α (Query σ)}
  {inner : CursorProtocol β (Query σ)}
  {OuterSound : α → Prop}
  {InnerSound : β → Prop}
  {sure : Prop}
  {slot : Nat}

theorem Sound.living
    {cursor : Cursor α β}
    (sound : Sound outer inner OuterSound InnerSound cursor)
    (active : cursor.state = .active) :
    Living outer inner OuterSound InnerSound cursor := by
  rcases sound.active active with ⟨outerActive, innerAlive⟩
  exact ⟨active, sound.outerSound, sound.innerSound,
    CursorState.alive_of_active outerActive, innerAlive⟩

theorem Living.sound
    {cursor : Cursor α β}
    (living : Living outer inner OuterSound InnerSound cursor)
    (outerActive : outer.state cursor.outer = .active) :
    Sound outer inner OuterSound InnerSound cursor where
  outerSound := living.outerSound
  innerSound := living.innerSound
  idle := by
    rw [living.state]
    exact nofun
  active := fun _ => ⟨outerActive, living.innerAlive⟩
  destroyed := by
    rw [living.state]
    exact nofun

/-- A loop that settles with both cursors idle is sound. -/
theorem Living.sound_settled
    {cursor : Cursor α β}
    (living : Living outer inner OuterSound InnerSound cursor)
    (outerIdle : outer.state cursor.outer = .idle)
    (innerIdle : inner.state cursor.inner = .idle) :
    Sound outer inner OuterSound InnerSound cursor.settled ∧
      cursor.settled.state = .idle := by
  rcases cursor with ⟨outerCursor, innerCursor, state, bindings⟩
  rcases living with ⟨active, outerSound, innerSound, -, -⟩
  cases active
  exact ⟨⟨outerSound, innerSound, fun _ => ⟨outerIdle, innerIdle⟩, nofun,
    nofun⟩, rfl⟩

/-- A loop that fails closes what is still active and stays with the failure. -/
theorem afterNext_abort
    (outerConformant : outer.Conformant OuterSound sure)
    (innerConformant : inner.Conformant InnerSound sure)
    (error : ExecError)
    {cursor : Cursor α β}
    (living : Living outer inner OuterSound InnerSound cursor)
    (query : Query σ) :
    AfterNext (protocol outer inner slot)
      (Sound outer inner OuterSound InnerSound)
      (abort outer inner error cursor query) := by
  have innerCloses :=
    innerConformant.closesActive living.innerSound living.innerAlive query
  have outerCloses :=
    outerConformant.closesActive living.outerSound living.outerAlive
      (inner.closeActive cursor.inner query).world
  have closed :
      Living outer inner OuterSound InnerSound
        { cursor with
          outer :=
            (outer.closeActive cursor.outer
              (inner.closeActive cursor.inner query).world).cursor
          inner := (inner.closeActive cursor.inner query).cursor } := by
    exact ⟨living.state, outerCloses.sound, innerCloses.sound,
      CursorState.alive_of_idle outerCloses.state,
      CursorState.alive_of_idle innerCloses.state⟩
  have settled :=
    closed.sound_settled outerCloses.state innerCloses.state
  exact .failed settled.1 settled.2

/-- A loop that is closed closes both cursors. -/
theorem afterEnd_release
    (outerConformant : outer.Conformant OuterSound sure)
    (innerConformant : inner.Conformant InnerSound sure)
    {cursor : Cursor α β}
    (living : Living outer inner OuterSound InnerSound cursor)
    (query : Query σ) :
    AfterEnd (protocol outer inner slot)
      (Sound outer inner OuterSound InnerSound) sure .idle
      (release outer inner cursor query) := by
  have innerCloses :=
    innerConformant.closesActive living.innerSound living.innerAlive query
  have outerCloses :=
    @outerConformant.closes cursor.outer
      (inner.closeActive cursor.inner query).world living.outerSound
      living.outerAlive
  have closed :
      Living outer inner OuterSound InnerSound
        { cursor with
          outer :=
            (outer.close cursor.outer
              (inner.closeActive cursor.inner query).world).cursor
          inner := (inner.closeActive cursor.inner query).cursor } := by
    exact ⟨living.state, outerCloses.sound, innerCloses.sound,
      CursorState.alive_of_idle outerCloses.state,
      CursorState.alive_of_idle innerCloses.state⟩
  have settled :=
    closed.sound_settled outerCloses.state innerCloses.state
  refine ⟨settled.1, settled.2, ?_⟩
  intro certain
  rw [release, Cursor.onInner, Cursor.onOuter]
  dsimp only
  rw [innerCloses.succeeds certain]
  exact outerCloses.succeeds certain

/-! ### Rounds -/

theorem afterRound_startInner
    (innerConformant : inner.Conformant InnerSound sure)
    (row : Row)
    {cursor : Cursor α β}
    (living : Living outer inner OuterSound InnerSound cursor)
    (outerActive : outer.state cursor.outer = .active)
    (innerIdle : inner.state cursor.inner = .idle)
    (query : Query σ) :
    AfterRound outer inner OuterSound InnerSound
      ((startInner inner slot row cursor query).map fun () => .opened) := by
  rw [startInner]
  split
  · exact .failed living
  next key _ =>
    split
    · exact .failed living
    next bindings _ =>
      have opens :=
        @innerConformant.opens bindings cursor.inner query living.innerSound
          innerIdle
      rcases living with ⟨active, outerSound, -, outerAlive, -⟩
      rw [Cursor.onInner]
      dsimp only
      generalize inner.openWith bindings cursor.inner query = outcome
        at opens ⊢
      cases opens with
      | opened innerSound innerActive =>
          apply AfterRound.goesOn
          · exact ⟨active, outerSound, innerSound, outerAlive,
              CursorState.alive_of_active innerActive⟩
          · exact outerActive
          · exact nofun
      | failed innerSound innerIdle =>
          exact .failed ⟨active, outerSound, innerSound, outerAlive,
            CursorState.alive_of_idle innerIdle⟩

theorem afterRound_takeOuter
    (outerConformant : outer.Conformant OuterSound sure)
    (innerConformant : inner.Conformant InnerSound sure)
    {cursor : Cursor α β}
    (living : Living outer inner OuterSound InnerSound cursor)
    (outerActive : outer.state cursor.outer = .active)
    (innerIdle : inner.state cursor.inner = .idle)
    (query : Query σ) :
    AfterRound outer inner OuterSound InnerSound
      (takeOuter outer inner slot cursor query) := by
  have answers :=
    @outerConformant.answers cursor.outer query living.outerSound outerActive
  rcases living with ⟨active, -, innerSound, -, innerAlive⟩
  unfold takeOuter Cursor.onOuter
  dsimp only
  generalize outer.next cursor.outer query = outcome at answers ⊢
  cases answers with
  | row outerSound outerActive =>
      apply afterRound_startInner innerConformant
      · exact ⟨active, outerSound, innerSound,
          CursorState.alive_of_active outerActive, innerAlive⟩
      · exact outerActive
      · exact innerIdle
  | ended outerSound outerIdle =>
      apply AfterRound.ended
      · exact ⟨active, outerSound, innerSound,
          CursorState.alive_of_idle outerIdle, innerAlive⟩
      · exact outerIdle
      · exact innerIdle
  | failed outerSound outerIdle =>
      exact .failed ⟨active, outerSound, innerSound,
        CursorState.alive_of_idle outerIdle, innerAlive⟩

/-- A round keeps the loop going unless the outer cursor is used up or something fails. -/
theorem afterRound_round
    (outerConformant : outer.Conformant OuterSound sure)
    (innerConformant : inner.Conformant InnerSound sure)
    {cursor : Cursor α β}
    (living : Living outer inner OuterSound InnerSound cursor)
    (outerActive : outer.state cursor.outer = .active)
    (query : Query σ) :
    AfterRound outer inner OuterSound InnerSound
      (round outer inner slot cursor query) := by
  rw [round]
  split
  next innerActive =>
    have answers :=
      @innerConformant.answers cursor.inner query living.innerSound
        innerActive
    rcases living with ⟨active, outerSound, -, outerAlive, -⟩
    unfold Cursor.onInner
    dsimp only
    generalize inner.next cursor.inner query = outcome at answers ⊢
    cases answers with
    | row innerSound innerActive =>
        apply AfterRound.goesOn
        · exact ⟨active, outerSound, innerSound, outerAlive,
            CursorState.alive_of_active innerActive⟩
        · exact outerActive
        · exact nofun
    | ended innerSound innerIdle =>
        apply afterRound_takeOuter outerConformant innerConformant
        · exact ⟨active, outerSound, innerSound, outerAlive,
            CursorState.alive_of_idle innerIdle⟩
        · exact outerActive
        · exact innerIdle
    | failed innerSound innerIdle =>
        exact .failed ⟨active, outerSound, innerSound, outerAlive,
          CursorState.alive_of_idle innerIdle⟩
  next innerNotActive =>
    exact afterRound_takeOuter outerConformant innerConformant living
      outerActive
      (CursorState.eq_idle_of_ne living.innerAlive innerNotActive) query

/-- However many rounds are left, the loop has a row or is over. -/
theorem afterNext_advance
    (outerConformant : outer.Conformant OuterSound sure)
    (innerConformant : inner.Conformant InnerSound sure)
    (rounds : Nat)
    {cursor : Cursor α β}
    (living : Living outer inner OuterSound InnerSound cursor)
    (outerActive : outer.state cursor.outer = .active)
    (query : Query σ) :
    AfterNext (protocol outer inner slot)
      (Sound outer inner OuterSound InnerSound)
      (advance outer inner slot rounds cursor query) := by
  induction rounds generalizing cursor query with
  | zero =>
      rw [advance]
      exact (afterEnd_release outerConformant innerConformant living
        query).afterNext
  | succ rounds ih =>
      have step :
          AfterRound outer inner OuterSound InnerSound
            (round outer inner slot cursor query) :=
        afterRound_round outerConformant innerConformant living outerActive
          query
      rw [advance]
      generalize round outer inner slot cursor query = outcome at step ⊢
      cases step with
      | @goesOn round cursor query living outerActive notEnded =>
          cases round with
          | row row =>
              exact .row (living.sound outerActive) living.state
          | opened =>
              exact ih living outerActive query
          | ended =>
              exact (notEnded rfl).elim
      | ended living outerIdle innerIdle =>
          have settled := living.sound_settled outerIdle innerIdle
          exact .ended settled.1 settled.2
      | failed living =>
          exact afterNext_abort outerConformant innerConformant _ living _

/-! ### Calls -/

theorem afterOpen_openWith
    (outerConformant : outer.Conformant OuterSound sure)
    (bindings : Bindings)
    {cursor : Cursor α β}
    (idle : cursor.state = .idle)
    (sound : Sound outer inner OuterSound InnerSound cursor)
    (query : Query σ) :
    AfterOpen (protocol outer inner slot)
      (Sound outer inner OuterSound InnerSound)
      (openWith outer slot bindings cursor query) := by
  rcases sound.idle idle with ⟨outerIdle, innerIdle⟩
  have opens :=
    @outerConformant.opens bindings cursor.outer query sound.outerSound
      outerIdle
  have innerSound := sound.innerSound
  rw [openWith, idle, CursorState.requireIdle_idle]
  dsimp only
  split
  · rw [Cursor.onOuter]
    dsimp only
    generalize outer.openWith bindings cursor.outer query = outcome
      at opens ⊢
    cases opens with
    | opened outerSound outerActive =>
        refine .opened ⟨outerSound, innerSound, nofun, ?_, nofun⟩ rfl
        exact fun _ => ⟨outerActive, CursorState.alive_of_idle innerIdle⟩
    | failed outerSound stillIdle =>
        rcases cursor with ⟨outerCursor, innerCursor, state, kept⟩
        cases idle
        refine .failed ⟨outerSound, innerSound, ?_, nofun, nofun⟩ rfl
        exact fun _ => ⟨stillIdle, innerIdle⟩
  · exact .failed sound idle

/-- Unless a sound loop is destroyed, neither of its cursors is. -/
theorem Sound.alive
    {cursor : Cursor α β}
    (sound : Sound outer inner OuterSound InnerSound cursor)
    (alive : cursor.state ≠ .destroyed) :
    outer.state cursor.outer ≠ .destroyed ∧
      inner.state cursor.inner ≠ .destroyed := by
  cases state : cursor.state with
  | idle =>
      rcases sound.idle state with ⟨outerIdle, innerIdle⟩
      exact ⟨CursorState.alive_of_idle outerIdle,
        CursorState.alive_of_idle innerIdle⟩
  | active =>
      rcases sound.active state with ⟨outerActive, innerAlive⟩
      exact ⟨CursorState.alive_of_active outerActive, innerAlive⟩
  | destroyed =>
      exact (alive state).elim

/-- A loop that is destroyed destroys both cursors. -/
theorem afterEnd_destroy
    (outerConformant : outer.Conformant OuterSound sure)
    (innerConformant : inner.Conformant InnerSound sure)
    {cursor : Cursor α β}
    (alive : cursor.state ≠ .destroyed)
    (sound : Sound outer inner OuterSound InnerSound cursor)
    (query : Query σ) :
    AfterEnd (protocol outer inner slot)
      (Sound outer inner OuterSound InnerSound) sure .destroyed
      (destroy outer inner slot cursor query) := by
  rcases sound.alive alive with ⟨outerAlive, innerAlive⟩
  have innerGone :=
    @innerConformant.destroys cursor.inner query sound.innerSound innerAlive
  have outerGone :=
    @outerConformant.destroys cursor.outer
      (inner.destroy cursor.inner query).world sound.outerSound outerAlive
  rw [destroy, CursorState.requireAlive_of_ne alive]
  dsimp only [Cursor.onInner, Cursor.onOuter]
  refine ⟨⟨outerGone.sound, innerGone.sound, nofun, nofun, ?_⟩, rfl, ?_⟩
  · exact fun _ => ⟨outerGone.state, innerGone.state⟩
  · intro certain
    dsimp only
    rw [innerGone.succeeds certain]
    exact outerGone.succeeds certain

/-- A loop keeps to the table if its two cursors do. -/
theorem conformant
    (outerConformant : outer.Conformant OuterSound sure)
    (innerConformant : inner.Conformant InnerSound sure)
    (slot : Nat) :
    (protocol outer inner slot).Conformant
      (Sound outer inner OuterSound InnerSound) sure where
  opens := fun sound idle =>
    afterOpen_openWith outerConformant _ idle sound _
  answers := by
    intro cursor query sound active
    change cursor.state = .active at active
    change AfterNext _ _ (next outer inner slot cursor query)
    rw [next, active, CursorState.requireActive_active]
    dsimp only
    split
    next error query _ =>
      exact afterNext_abort outerConformant innerConformant error
        (sound.living active) query
    next query _ =>
      exact afterNext_advance outerConformant innerConformant _
        (sound.living active) (sound.active active).1 query
  closes := by
    intro cursor query sound alive
    change cursor.state ≠ .destroyed at alive
    change AfterEnd _ _ _ _ (close outer inner slot cursor query)
    rw [close, CursorState.requireAlive_of_ne alive]
    dsimp only
    split
    next active =>
      have released :
          AfterEnd (protocol outer inner slot) _ sure .idle
            (release outer inner cursor query) :=
        afterEnd_release outerConformant innerConformant
          (sound.living active) query
      exact ⟨released.sound, released.state, released.succeeds⟩
    next notActive =>
      exact ⟨sound, CursorState.eq_idle_of_ne alive notActive, fun _ => rfl⟩
  destroys := fun sound alive =>
    afterEnd_destroy outerConformant innerConformant alive sound _

/-- A loop refuses what its state does not allow. -/
theorem guarded
    (outer : CursorProtocol α (Query σ))
    (inner : CursorProtocol β (Query σ))
    (slot : Nat) :
    (protocol outer inner slot).Guarded operatorName where
  opens := by
    intro bindings cursor query notIdle
    change cursor.state ≠ .idle at notIdle
    change openWith outer slot bindings cursor query = _
    rw [openWith, CursorState.requireIdle_of_ne notIdle]
    rfl
  answers := by
    intro cursor query notActive
    change cursor.state ≠ .active at notActive
    change next outer inner slot cursor query = _
    rw [next, CursorState.requireActive_of_ne notActive]
    rfl
  closes := by
    intro cursor query destroyed
    change cursor.state = .destroyed at destroyed
    change close outer inner slot cursor query = _
    rw [close, destroyed]
    rfl
  destroys := by
    intro cursor query destroyed
    change cursor.state = .destroyed at destroyed
    change destroy outer inner slot cursor query = _
    rw [destroy, destroyed]
    rfl
  closesIdle := by
    intro cursor query idle
    change cursor.state = .idle at idle
    change close outer inner slot cursor query = _
    rw [close, idle]
    rfl

end NestedLoop

end HierQuery
