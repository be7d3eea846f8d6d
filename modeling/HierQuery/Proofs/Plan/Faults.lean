import HierQuery.Proofs.Plan.Failures
import HierQuery.Proofs.Plan.Lifecycle

/-!
# Faults of a plan's own

A call on a tree of cursors may go wrong although the store does not fail.  The
bindings may not give a scan the key that it asks for, or have no slot for a
loop.  This shows when the tree is opened, or when a loop opens its inner plan
for an outer row, and then there is also a third fault: the row may have no key
to bind.  Beyond that a call on the root is only refused in a state that does
not allow it, or because the query is canceled.

The faults of a running tree depend on the bindings with which it was opened.
As each loop overwrites a slot in a copy of its own, the bindings below a loop
are those above it up to that slot, and this is an invariant of a tree that is
under way.
-/

namespace HierQuery

open CursorProtocol

variable {σ : Type}

/-! ## Slots without a key -/

namespace Bindings

/-- Why a slot gives no key: it does not exist, nothing is bound to it, or what is bound is none. -/
inductive NoKey (bindings : Bindings) (slot : Nat) : ExecError.Cause → Prop
  | outside (outside : bindings.reserved ≤ slot) :
      NoKey bindings slot (.bindingOutOfRange slot bindings.reserved)
  | unset (empty : bindings.slots[slot]? = some none) :
      NoKey bindings slot (.bindingUnset slot)
  | scalar
      {value : Value}
      (bound : bindings.slots[slot]? = some (some (.scalar value))) :
      NoKey bindings slot (.bindingType slot "hkey" "scalar")

variable {bindings bound : Bindings} {slot : Nat}

theorem NoKey.notStorage
    {cause : ExecError.Cause}
    (noKey : bindings.NoKey slot cause) :
    ∀ error, cause ≠ .storage error := by
  cases noKey <;> exact nofun

/-- Asking for a key fails exactly for these causes. -/
theorem getKey_eq_error_iff
    {cause : ExecError.Cause}
    {operator? : Option String} :
    bindings.getKey slot = .error ⟨cause, operator?⟩ ↔
      operator? = none ∧ bindings.NoKey slot cause := by
  constructor
  · intro fails
    rw [getKey, get] at fails
    cases held : bindings.slots[slot]? with
    | none =>
        rw [held] at fails
        cases fails
        exact ⟨rfl, .outside (List.getElem?_eq_none_iff.1 held)⟩
    | some value? =>
        rcases value? with _ | (key | value) <;> rw [held] at fails <;>
          cases fails
        · exact ⟨rfl, .unset held⟩
        · exact ⟨rfl, .scalar held⟩
  · rintro ⟨rfl, noKey⟩
    rw [getKey, get]
    cases noKey with
    | outside outside =>
        rw [List.getElem?_eq_none outside]
    | unset empty =>
        rw [empty]
    | scalar held =>
        rw [held]
        rfl

theorem set_of_lt
    (inside : slot < bindings.reserved)
    (value : BoundValue) :
    bindings.set slot value =
      .ok ⟨bindings.slots.set slot (some value)⟩ :=
  if_pos inside

/-- What is bound to a slot replaces what was bound to it before. -/
theorem set_set
    {first : BoundValue}
    (binds : bindings.set slot first = .ok bound)
    (second : BoundValue) :
    bound.set slot second = bindings.set slot second := by
  rw [set] at binds
  split at binds
  next inside =>
    cases binds
    rw [set_of_lt inside, set_of_lt (by simpa [reserved] using inside),
      List.set_set]
  next =>
    cases binds

end Bindings

/-! ## What may be at fault -/

/-- A positional scan is opened with bindings that do not give it its key. -/
inductive GroupScan.OpenFault
    (scan : GroupScan)
    (bindings : Bindings) :
    Fault → Prop
  | noKey
      {slot : Nat}
      {reach : Reach}
      {cause : ExecError.Cause}
      (positional : scan.mode = .positional slot reach)
      (noKey : bindings.NoKey slot cause) :
      OpenFault scan bindings ⟨cause, operatorName, noKey.notStorage⟩

namespace NestedLoop

/-- A loop is opened with bindings that lack its slot, or at which its outer plan is at fault. -/
inductive OpenFault
    (OuterOpening : Bindings → Fault → Prop)
    (slot : Nat)
    (bindings : Bindings) :
    Fault → Prop
  | outside (outside : bindings.reserved ≤ slot) :
      OpenFault OuterOpening slot bindings
        ⟨.bindingOutOfRange slot bindings.reserved, operatorName, nofun⟩
  | outer
      {fault : Fault}
      (inside : slot < bindings.reserved)
      (atFault : OuterOpening bindings fault) :
      OpenFault OuterOpening slot bindings fault

/-- The inner plan cannot be opened for an outer row. -/
inductive StartFault
    (InnerOpening : Bindings → Fault → Prop)
    (slot : Nat)
    (bindings : Bindings)
    (row : Row) :
    Fault → Prop
  | keyless (unplaced : row.key? = none) :
      StartFault InnerOpening slot bindings row
        ⟨.invalidArgument (.keylessOuterRow row.render), operatorName, nofun⟩
  | opening
      {key : HKey}
      {bound : Bindings}
      {fault : Fault}
      (placed : row.key? = some key)
      (binds : bindings.set slot (.key key) = .ok bound)
      (atFault : InnerOpening bound fault) :
      StartFault InnerOpening slot bindings row fault

/-- What goes wrong in a loop that was opened with the bindings, after some calls on the store. -/
inductive RunFault
    (OuterRunning : Bindings → OwnFaults)
    (InnerOpening : Bindings → Fault → Prop)
    (InnerRunning : Bindings → OwnFaults)
    (slot : Nat)
    (bindings : Bindings)
    (earlier : List Attempt)
    (fault : Fault) :
    Prop
  | outer (atFault : OuterRunning bindings earlier fault)
  /-- The store has just handed out the outer row, and nothing was called since. -/
  | start
      {row : Row}
      (hands : HandsLast row earlier)
      (atFault : StartFault InnerOpening slot bindings row fault)
  | inner
      {key : HKey}
      {bound : Bindings}
      (binds : bindings.set slot (.key key) = .ok bound)
      (atFault : InnerRunning bound earlier fault)

theorem follows_runFault
    {OuterRunning InnerRunning : Bindings → OwnFaults}
    (outerFollows :
      ∀ bindings before,
        (OuterRunning bindings).Follows (OuterRunning bindings) before)
    {InnerOpening : Bindings → Fault → Prop}
    (innerFollows :
      ∀ bindings before,
        (InnerRunning bindings).Follows (InnerRunning bindings) before)
    (slot : Nat)
    (bindings : Bindings)
    (before : List Attempt) :
    OwnFaults.Follows
      (RunFault OuterRunning InnerOpening InnerRunning slot bindings)
      (RunFault OuterRunning InnerOpening InnerRunning slot bindings)
      before := by
  intro earlier fault atFault
  cases atFault with
  | outer atFault =>
      exact .outer (outerFollows bindings before atFault)
  | start hands atFault =>
      exact .start (hands.after before) atFault
  | inner binds atFault =>
      exact .inner binds (innerFollows _ before atFault)

end NestedLoop

/-- The operator goes no further because the query is canceled. -/
def Query.stop (query : Query σ) (operator : String) : Fault :=
  ⟨.queryCanceled query.id, operator, nofun⟩

namespace Plan

/-- What may be at fault when a tree is opened. -/
def OpenFault : Plan → Bindings → Fault → Prop
  | scan leaf => leaf.OpenFault
  | count _ => fun _ _ => False
  | nestedLoop outer _ slot => NestedLoop.OpenFault outer.OpenFault slot

/-- What may be at fault when a tree that was opened with the bindings is asked for a row. -/
def RunFault : Plan → Bindings → OwnFaults
  | scan _ => fun _ => .nothing
  | count _ => fun _ => .nothing
  | nestedLoop outer inner slot =>
      NestedLoop.RunFault outer.RunFault inner.OpenFault inner.RunFault slot

/-- A running tree is only at fault once the store has handed out a row. -/
theorem not_runFault_nil
    {plan : Plan}
    {bindings : Bindings}
    {fault : Fault} :
    ¬ plan.RunFault bindings [] fault := by
  intro atFault
  induction plan generalizing bindings with
  | scan leaf | count leaf =>
      exact atFault
  | nestedLoop outer inner slot outerNot innerNot =>
      cases atFault with
      | outer atFault =>
          exact outerNot atFault
      | start hands _ =>
          rcases hands with ⟨earlier, attempt, none, -⟩
          exact List.append_ne_nil_of_right_ne_nil earlier
            (List.cons_ne_nil _ _) none.symm
      | inner _ atFault =>
          exact innerNot atFault

/--
When a call on the root of a tree has a fault of its own, after the given calls
on the store.  The tree is in the given state and was opened last with the given
bindings, if it ever was.
-/
inductive FailsItself
    (plan : Plan)
    (last? : Option Bindings)
    (state : CursorState)
    (query : Query σ) :
    CursorCall → OwnFaults
  | refused
      {made : CursorCall}
      (notAllowed : ¬ made.AllowedIn state) :
      FailsItself plan last? state query made []
        ⟨.lifecycleViolation made.expected state, plan.name, nofun⟩
  | canceled
      (active : state = .active)
      (canceled : query.canceled = true) :
      FailsItself plan last? state query .next [] (query.stop plan.name)
  | opening
      {bindings : Bindings}
      {fault : Fault}
      (idle : state = .idle)
      (atFault : plan.OpenFault bindings fault) :
      FailsItself plan last? state query (.openWith bindings) [] fault
  | running
      {bindings : Bindings}
      {earlier : List Attempt}
      {fault : Fault}
      (active : state = .active)
      (goesOn : query.canceled = false)
      (opened : last? = some bindings)
      (atFault : plan.RunFault bindings earlier fault) :
      FailsItself plan last? state query .next earlier fault

end Plan

/-! ## Openings at fault -/

namespace GroupScan

theorem answer_of_openFault
    {κ : Type}
    {scan : GroupScan}
    (adapter : StoreAdapter κ σ)
    {bindings : Bindings}
    {cursor : Cursor κ}
    (idle : cursor.state = .idle)
    {fault : Fault}
    (atFault : scan.OpenFault bindings fault)
    (query : Query σ) :
    (scan.openWith adapter bindings cursor query).answer =
      .error fault.error := by
  cases atFault with
  | noKey positional noKey =>
      rw [openWith, idle, CursorState.requireIdle_idle, position, positional]
      dsimp only
      rw [Bindings.getKey_eq_error_iff.2 ⟨rfl, noKey⟩]
      rfl

end GroupScan

theorem NestedLoop.answer_of_openFault
    {α β : Type}
    {outer : CursorProtocol α (Query σ)}
    {OuterOpening : Bindings → Fault → Prop}
    {slot : Nat}
    {bindings : Bindings}
    {cursor : Cursor α β}
    {query : Query σ}
    (outerFails :
      ∀ fault, OuterOpening bindings fault →
        (outer.openWith bindings cursor.outer query).answer =
          .error fault.error)
    (idle : cursor.state = .idle)
    {fault : Fault}
    (atFault : OpenFault OuterOpening slot bindings fault) :
    (openWith outer slot bindings cursor query).answer =
      .error fault.error := by
  rw [openWith, idle, CursorState.requireIdle_idle]
  cases atFault with
  | outside outside =>
      dsimp only
      rw [if_neg (Nat.not_lt.2 outside)]
      rfl
  | outer inside atFault =>
      dsimp only
      rw [if_pos inside, Outcome.andThen, Cursor.onOuter]
      dsimp only
      rw [outerFails fault atFault]
      rfl

/-- An opening that is at fault itself fails with just that fault. -/
theorem Plan.answer_of_openFault
    {κ : Type}
    {adapter : StoreAdapter κ σ}
    {StorageSound : κ → Prop}
    {plan : Plan}
    {bindings : Bindings}
    {cursor : plan.Cursor κ}
    (sound : plan.Sound adapter StorageSound cursor)
    (idle : (plan.protocol adapter).state cursor = .idle)
    {fault : Fault}
    (atFault : plan.OpenFault bindings fault)
    (query : Query σ) :
    ((plan.protocol adapter).openWith bindings cursor query).answer =
      .error fault.error := by
  induction plan generalizing fault with
  | scan leaf =>
      exact GroupScan.answer_of_openFault adapter idle atFault query
  | count leaf =>
      exact atFault.elim
  | nestedLoop outer inner slot outerFails _ =>
      have outerIdle := (sound.idle idle).1
      exact NestedLoop.answer_of_openFault
        (fun _ => outerFails sound.outerSound outerIdle) idle atFault

/-! ## The bindings of a tree under way -/

/--
Cursors that go on under the bindings with which they were opened, as long as
they hand out rows.
-/
structure CursorProtocol.GoesOnUnder
    {κ ω : Type}
    (protocol : CursorProtocol κ ω)
    (Sound : κ → Prop)
    (Under : Bindings → κ → Prop) :
    Prop where
  opens :
    ∀ {bindings cursor world}, Sound cursor →
      protocol.state cursor = .idle →
        (protocol.openWith bindings cursor world).answer = .ok () →
          Under bindings (protocol.openWith bindings cursor world).cursor
  answers :
    ∀ {bindings cursor world row}, Sound cursor →
      protocol.state cursor = .active → Under bindings cursor →
        (protocol.next cursor world).answer = .ok (some row) →
          Under bindings (protocol.next cursor world).cursor

namespace NestedLoop

variable {α β : Type}

/--
A loop under way that was opened with the bindings.  It has overwritten nothing
but its own slot, and its inner plan runs under what it has bound.
-/
structure Under
    (inner : CursorProtocol β (Query σ))
    (OuterUnder : Bindings → α → Prop)
    (InnerUnder : Bindings → β → Prop)
    (slot : Nat)
    (bindings : Bindings)
    (cursor : Cursor α β) :
    Prop where
  inside : slot < bindings.reserved
  rebinds : ∀ value, cursor.bindings.set slot value = bindings.set slot value
  outer : OuterUnder bindings cursor.outer
  inner :
    inner.state cursor.inner = .active →
      ∃ key,
        bindings.set slot (.key key) = .ok cursor.bindings ∧
          InnerUnder cursor.bindings cursor.inner

variable
  {outer : CursorProtocol α (Query σ)}
  {inner : CursorProtocol β (Query σ)}
  {OuterSound : α → Prop}
  {InnerSound : β → Prop}
  {OuterUnder : Bindings → α → Prop}
  {InnerUnder : Bindings → β → Prop}
  {sure : Prop}
  {slot : Nat}
  {bindings : Bindings}
  {cursor : Cursor α β}

/-- An inner cursor that is not active owes nothing to the bindings. -/
theorem Under.of_inner_idle
    (under : Under inner OuterUnder InnerUnder slot bindings cursor)
    {outerAfter : α}
    (outerUnder : OuterUnder bindings outerAfter)
    {innerAfter : β}
    (idle : inner.state innerAfter = .idle) :
    Under inner OuterUnder InnerUnder slot bindings
      { cursor with outer := outerAfter, inner := innerAfter } where
  inside := under.inside
  rebinds := under.rebinds
  outer := outerUnder
  inner := by
    intro active
    rw [idle] at active
    cases active

theorem under_startInner
    (innerGoesOn : inner.GoesOnUnder InnerSound InnerUnder)
    (row : Row)
    (innerSound : InnerSound cursor.inner)
    (innerIdle : inner.state cursor.inner = .idle)
    (under : Under inner OuterUnder InnerUnder slot bindings cursor)
    (query : Query σ)
    (opens : (startInner inner slot row cursor query).answer = .ok ()) :
    Under inner OuterUnder InnerUnder slot bindings
      (startInner inner slot row cursor query).cursor := by
  rw [startInner] at opens ⊢
  split at opens
  next =>
    cases opens
  next key _ =>
    cases binds : cursor.bindings.set slot (.key key) with
    | error error =>
        rw [binds] at opens
        cases opens
    | ok bound =>
        rw [binds] at opens
        have bindsFirst : bindings.set slot (.key key) = .ok bound :=
          (under.rebinds _).symm.trans binds
        exact
          { inside := under.inside
            rebinds := Bindings.set_set bindsFirst
            outer := under.outer
            inner := fun _ =>
              ⟨key, bindsFirst, innerGoesOn.opens innerSound innerIdle opens⟩ }

section

variable
  (outerConformant : outer.Conformant OuterSound sure)
  (innerConformant : inner.Conformant InnerSound sure)
  (outerGoesOn : outer.GoesOnUnder OuterSound OuterUnder)
  (innerGoesOn : inner.GoesOnUnder InnerSound InnerUnder)

include outerGoesOn innerGoesOn

/-- Unless the outer rows are used up, the loop goes on under the same bindings. -/
theorem under_takeOuter
    (living : Living outer inner OuterSound InnerSound cursor)
    (outerActive : outer.state cursor.outer = .active)
    (innerIdle : inner.state cursor.inner = .idle)
    (under : Under inner OuterUnder InnerUnder slot bindings cursor)
    (query : Query σ)
    {round : Round}
    (goesOn : (takeOuter outer inner slot cursor query).answer = .ok round)
    (notEnded : round ≠ .ended) :
    Under inner OuterUnder InnerUnder slot bindings
      (takeOuter outer inner slot cursor query).cursor := by
  have keeps (row : Row) :
      (outer.next cursor.outer query).answer = .ok (some row) →
        OuterUnder bindings (outer.next cursor.outer query).cursor :=
    outerGoesOn.answers living.outerSound outerActive under.outer
  unfold takeOuter Cursor.onOuter at goesOn ⊢
  dsimp only at goesOn ⊢
  generalize outer.next cursor.outer query = outcome at keeps goesOn ⊢
  rcases outcome with ⟨_ | _ | row, outerAfter, afterwards⟩
  · cases goesOn
  · cases goesOn
    exact (notEnded rfl).elim
  · have taken := under.of_inner_idle (keeps row rfl) innerIdle
    have started :
        (startInner inner slot row { cursor with outer := outerAfter }
          afterwards).answer = .ok () := by
      change Except.map _ _ = _ at goesOn
      generalize (startInner inner slot row _ afterwards).answer = answer
        at goesOn ⊢
      cases answer with
      | ok =>
          rfl
      | error =>
          cases goesOn
    apply under_startInner innerGoesOn row _ _ taken afterwards started
    · exact living.innerSound
    · exact innerIdle

include innerConformant

theorem under_round
    (living : Living outer inner OuterSound InnerSound cursor)
    (outerActive : outer.state cursor.outer = .active)
    (under : Under inner OuterUnder InnerUnder slot bindings cursor)
    (query : Query σ)
    {round : Round}
    (goesOn :
      (NestedLoop.round outer inner slot cursor query).answer = .ok round)
    (notEnded : round ≠ .ended) :
    Under inner OuterUnder InnerUnder slot bindings
      (NestedLoop.round outer inner slot cursor query).cursor := by
  rw [NestedLoop.round] at goesOn ⊢
  by_cases innerActive : inner.state cursor.inner = .active
  · rw [if_pos innerActive] at goesOn ⊢
    rcases under.inner innerActive with ⟨key, binds, innerUnder⟩
    have keeps (row : Row) :
        (inner.next cursor.inner query).answer = .ok (some row) →
          InnerUnder cursor.bindings (inner.next cursor.inner query).cursor :=
      innerGoesOn.answers living.innerSound innerActive innerUnder
    have answers :=
      @innerConformant.answers cursor.inner query living.innerSound
        innerActive
    rcases living with ⟨active, outerSound, -, outerAlive, -⟩
    unfold Cursor.onInner at goesOn ⊢
    dsimp only at goesOn ⊢
    generalize inner.next cursor.inner query = outcome
      at keeps answers goesOn ⊢
    cases answers with
    | row =>
        exact ⟨under.inside, under.rebinds, under.outer,
          fun _ => ⟨key, binds, keeps _ rfl⟩⟩
    | ended innerSound innerIdle =>
        have emptied := under.of_inner_idle under.outer innerIdle
        apply under_takeOuter outerGoesOn innerGoesOn _ _ _ emptied _ goesOn
          notEnded
        · exact ⟨active, outerSound, innerSound, outerAlive,
            CursorState.alive_of_idle innerIdle⟩
        · exact outerActive
        · exact innerIdle
    | failed =>
        cases goesOn
  · rw [if_neg innerActive] at goesOn ⊢
    exact under_takeOuter outerGoesOn innerGoesOn living outerActive
      (CursorState.eq_idle_of_ne living.innerAlive innerActive) under query
      goesOn notEnded

include outerConformant

theorem under_advance
    (rounds : Nat)
    (living : Living outer inner OuterSound InnerSound cursor)
    (outerActive : outer.state cursor.outer = .active)
    (under : Under inner OuterUnder InnerUnder slot bindings cursor)
    (query : Query σ)
    {row : Row}
    (handed :
      (advance outer inner slot rounds cursor query).answer =
        .ok (some row)) :
    Under inner OuterUnder InnerUnder slot bindings
      (advance outer inner slot rounds cursor query).cursor := by
  induction rounds generalizing cursor query with
  | zero =>
      exact (answer_map_none_ne handed).elim
  | succ rounds ih =>
      have step :
          AfterRound outer inner OuterSound InnerSound
            (NestedLoop.round outer inner slot cursor query) :=
        afterRound_round outerConformant innerConformant living outerActive
          query
      have keeps (round : Round) :
          (NestedLoop.round outer inner slot cursor query).answer =
              .ok round →
            round ≠ .ended →
              Under inner OuterUnder InnerUnder slot bindings
                (NestedLoop.round outer inner slot cursor query).cursor :=
        under_round innerConformant outerGoesOn innerGoesOn living outerActive
          under query
      rw [advance] at handed ⊢
      generalize NestedLoop.round outer inner slot cursor query = outcome
        at step keeps handed ⊢
      cases step with
      | @goesOn round cursor query living outerActive notEnded =>
          have under := keeps round rfl notEnded
          cases round with
          | row =>
              exact under
          | opened =>
              exact ih living outerActive under query handed
          | ended =>
              exact (notEnded rfl).elim
      | ended | failed =>
          cases handed

theorem goesOnUnder
    (slot : Nat) :
    (protocol outer inner slot).GoesOnUnder
      (Sound outer inner OuterSound InnerSound)
      (Under inner OuterUnder InnerUnder slot) where
  opens := by
    intro bindings cursor query sound idle opens
    change cursor.state = .idle at idle
    change (openWith outer slot bindings cursor query).answer = _ at opens
    change Under _ _ _ _ _ (openWith outer slot bindings cursor query).cursor
    rcases sound.idle idle with ⟨outerIdle, innerIdle⟩
    have outerUnder :
        (outer.openWith bindings cursor.outer query).answer = .ok () →
          OuterUnder bindings
            (outer.openWith bindings cursor.outer query).cursor :=
      outerGoesOn.opens sound.outerSound outerIdle
    rw [openWith, idle, CursorState.requireIdle_idle] at opens ⊢
    dsimp only at opens ⊢
    by_cases inside : slot < bindings.reserved
    · rw [if_pos inside] at opens ⊢
      unfold Cursor.onOuter at opens ⊢
      dsimp only at opens ⊢
      generalize outer.openWith bindings cursor.outer query = outcome
        at outerUnder opens ⊢
      rcases outcome with ⟨_ | _, outerAfter, afterwards⟩
      · cases opens
      · refine ⟨inside, fun _ => rfl, outerUnder rfl, ?_⟩
        intro innerActive
        change inner.state cursor.inner = .active at innerActive
        rw [innerIdle] at innerActive
        cases innerActive
    · rw [if_neg inside] at opens
      cases opens
  answers := by
    intro bindings cursor query row sound active under handed
    change cursor.state = .active at active
    change (next outer inner slot cursor query).answer = _ at handed
    change Under _ _ _ _ _ (next outer inner slot cursor query).cursor
    rw [next, active, CursorState.requireActive_active] at handed ⊢
    dsimp only at handed ⊢
    generalize query.checkCancellation = checks at handed ⊢
    rcases checks with ⟨_ | _, checked⟩
    · cases handed
    · exact under_advance outerConformant innerConformant outerGoesOn
        innerGoesOn _ (sound.living active) (sound.active active).1 under
        checked handed

end

end NestedLoop

namespace Plan

variable
  {κ : Type}
  {adapter : StoreAdapter κ σ}
  {StorageSound : κ → Prop}
  {sure : Prop}

/-- A tree under way that was opened with the bindings. -/
def Under
    (adapter : StoreAdapter κ σ) :
    (plan : Plan) → Bindings → plan.Cursor κ → Prop
  | scan _ => fun _ _ => True
  | count _ => fun _ _ => True
  | nestedLoop outer inner slot =>
      NestedLoop.Under (inner.protocol adapter) (outer.Under adapter)
        (inner.Under adapter) slot

/-- A tree goes on under the bindings with which its root was opened. -/
theorem goesOnUnder
    (orderly : adapter.Orderly StorageSound sure)
    (plan : Plan) :
    (plan.protocol adapter).GoesOnUnder (plan.Sound adapter StorageSound)
      (plan.Under adapter) := by
  induction plan with
  | scan leaf | count leaf =>
      exact ⟨fun _ _ _ => trivial, fun _ _ _ _ => trivial⟩
  | nestedLoop outer inner slot outerGoesOn innerGoesOn =>
      exact NestedLoop.goesOnUnder (outer.conformant_of_orderly orderly)
        (inner.conformant_of_orderly orderly) outerGoesOn innerGoesOn slot

end Plan

end HierQuery
