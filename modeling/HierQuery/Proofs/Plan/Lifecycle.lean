import HierQuery.Proofs.Plan.Conformance
import HierQuery.Proofs.Plan.Evaluation

/-!
# Lives of cursor trees

The cursors of a plan over a memory store live through calls on the root, in
any order and whether or not they are allowed.  Between calls the query may be
canceled and the store may be written to.

After any such life the next call keeps to the table of calls and states, and
the states of all cursors in the tree fit together.  One call keeps the tree
sound, and a life does so by induction on what happens.
-/

namespace HierQuery

open CursorProtocol

/-! ## Storage cursors of a memory store -/

namespace MemoryStore

/-- Storage cursors keep to the table, have nothing below them and never fail to close. -/
theorem calls_conformant (sources : SourceRows) :
    (adapter sources).toCursorProtocol.Conformant (fun _ => True) True where
  opens := by
    intro bindings cursor store _ idle
    change cursor.state = .idle at idle
    change AfterOpen _ _ (GroupCursor.openWith bindings cursor store)
    rw [GroupCursor.openWith, idle]
    exact .opened trivial rfl
  answers := by
    intro cursor store _ active
    change cursor.state = .active at active
    change AfterNext _ _ (GroupCursor.next cursor store)
    rw [GroupCursor.next, active, CursorState.requireActive_active]
    dsimp only
    split
    · exact .row trivial rfl
    · exact .ended trivial rfl
  closes := by
    intro cursor store _ alive
    change cursor.state ≠ .destroyed at alive
    change AfterEnd _ _ _ _ (GroupCursor.close cursor store)
    rw [GroupCursor.close, CursorState.requireAlive_of_ne alive]
    exact ⟨trivial, rfl, fun _ => rfl⟩
  destroys := by
    intro cursor store _ alive
    change cursor.state ≠ .destroyed at alive
    change AfterEnd _ _ _ _ (GroupCursor.destroy cursor store)
    rw [GroupCursor.destroy, CursorState.requireAlive_of_ne alive]
    exact ⟨trivial, rfl, fun _ => rfl⟩

theorem adapter_conformant (sources : SourceRows) :
    (adapter sources).Conformant (fun _ => True) True where
  calls := calls_conformant sources
  rebinds := by
    intro range cursor store _ idle
    change cursor.state = .idle at idle
    change True ∧ (GroupCursor.rebind range cursor store).cursor.state = .idle
    rw [GroupCursor.rebind, idle]
    exact ⟨trivial, rfl⟩
  creates := by
    intro group store cursor made
    change (store.rowsIn group.id).map _ = .ok cursor at made
    cases found : store.rowsIn group.id with
    | error error =>
        rw [found] at made
        cases made
    | ok rows =>
        rw [found] at made
        cases made
        exact ⟨trivial, rfl⟩

end MemoryStore

namespace Plan

variable {κ σ : Type}

/-! ## Trees of cursors -/

/-- The states of all cursors in a tree, those of storage cursors included; the root is first. -/
def states (adapter : StoreAdapter κ σ) :
    (plan : Plan) → plan.Cursor κ → List CursorState
  | scan _, (cursor : GroupScan.Cursor κ) =>
      [cursor.state, adapter.state cursor.storage]
  | count _, (cursor : Count.Cursor) => [cursor.state]
  | nestedLoop outer inner _,
      (cursor : NestedLoop.Cursor (outer.Cursor κ) (inner.Cursor κ)) =>
      cursor.state ::
        (outer.states adapter cursor.outer ++
          inner.states adapter cursor.inner)

/-- At each operator of a tree, its state fits with those of the cursors below it. -/
def Sound
    (adapter : StoreAdapter κ σ)
    (StorageSound : κ → Prop) :
    (plan : Plan) → plan.Cursor κ → Prop
  | scan _ => GroupScan.Sound adapter StorageSound
  | count _ => fun _ => True
  | nestedLoop outer inner _ =>
      NestedLoop.Sound (outer.protocol adapter) (inner.protocol adapter)
        (outer.Sound adapter StorageSound) (inner.Sound adapter StorageSound)

variable
  {adapter : StoreAdapter κ σ}
  {StorageSound : κ → Prop}
  {sure : Prop}

theorem conformant_of_orderly
    (storage : adapter.Orderly StorageSound sure)
    (plan : Plan) :
    (plan.protocol adapter).Conformant (plan.Sound adapter StorageSound)
      sure := by
  induction plan with
  | scan leaf =>
      exact leaf.conformant storage
  | count leaf =>
      exact leaf.conformant adapter sure
  | nestedLoop outer inner slot outerConformant innerConformant =>
      exact NestedLoop.conformant outerConformant innerConformant slot

theorem conformant
    (storage : adapter.Conformant StorageSound sure)
    (plan : Plan) :
    (plan.protocol adapter).Conformant (plan.Sound adapter StorageSound)
      sure :=
  plan.conformant_of_orderly storage.orderly

theorem guarded (adapter : StoreAdapter κ σ) (plan : Plan) :
    (plan.protocol adapter).Guarded plan.name := by
  cases plan with
  | scan leaf =>
      exact leaf.guarded adapter
  | count leaf =>
      exact leaf.guarded adapter
  | nestedLoop outer inner slot =>
      exact NestedLoop.guarded _ _ slot

/-- A fresh tree of cursors is sound and idle. -/
theorem sound_newCursor
    (storage : adapter.Orderly StorageSound sure)
    {plan : Plan}
    {query afterwards : Query σ}
    {cursor : plan.Cursor κ}
    (fresh : plan.newCursor adapter query = (.ok cursor, afterwards)) :
    plan.Sound adapter StorageSound cursor ∧
      (plan.protocol adapter).state cursor = .idle := by
  induction plan generalizing query afterwards with
  | scan leaf =>
      change leaf.newCursor adapter query = _ at fresh
      rw [GroupScan.newCursor] at fresh
      split at fresh
      next storageCursor store made =>
        cases fresh
        have created :=
          storage.creates (congrArg Prod.fst made)
        exact ⟨⟨created.1, created.2⟩, rfl⟩
      next =>
        cases fresh
  | count leaf =>
      cases fresh
      exact ⟨trivial, rfl⟩
  | nestedLoop outer inner slot outerFresh innerFresh =>
      rw [newCursor] at fresh
      split at fresh
      next =>
        cases fresh
      next outerCursor between outerMade =>
        split at fresh
        next =>
          cases fresh
        next innerCursor last innerMade =>
          cases fresh
          rcases outerFresh outerMade with ⟨outerSound, outerIdle⟩
          rcases innerFresh innerMade with ⟨innerSound, innerIdle⟩
          refine ⟨⟨outerSound, innerSound, ?_, ?_, ?_⟩, rfl⟩
          · exact fun _ => ⟨outerIdle, innerIdle⟩
          · intro active
            cases active
          · intro destroyed
            cases destroyed

/-- Unless the root of a sound tree is active, all of the tree is in its state. -/
theorem states_of_root
    {plan : Plan}
    {cursor : plan.Cursor κ}
    (sound : plan.Sound adapter StorageSound cursor)
    {state : CursorState}
    (notActive : state ≠ .active)
    (root : (plan.protocol adapter).state cursor = state) :
    ∀ below ∈ plan.states adapter cursor, below = state := by
  induction plan generalizing state with
  | scan leaf =>
      intro below member
      rcases List.mem_cons.1 member with rfl | stored
      · exact root
      · rw [List.mem_singleton.1 stored]
        exact sound.state.trans root
  | count leaf =>
      intro below member
      rw [List.mem_singleton.1 member]
      exact root
  | nestedLoop outer inner slot outerStates innerStates =>
      have children :
          (outer.protocol adapter).state cursor.outer = state ∧
            (inner.protocol adapter).state cursor.inner = state := by
        cases state with
        | idle =>
            exact sound.idle root
        | active =>
            exact (notActive rfl).elim
        | destroyed =>
            exact sound.destroyed root
      intro below member
      rcases List.mem_cons.1 member with rfl | lower
      · exact root
      · rcases List.mem_append.1 lower with ofOuter | ofInner
        · exact outerStates sound.outerSound notActive children.1 below
            ofOuter
        · exact innerStates sound.innerSound notActive children.2 below
            ofInner

/-! ## Lives -/

/-- What may happen to a tree of cursors and to its query. -/
inductive Happening
  | call (made : CursorCall)
  | cancel
  | write (action : MemoryStore.Action)

/-- The tree and its query after something happened. -/
def happen
    (sources : SourceRows)
    (plan : Plan)
    (life : plan.Cursor GroupCursor × Query MemoryStore) :
    Happening → plan.Cursor GroupCursor × Query MemoryStore
  | .call made =>
      let outcome :=
        (plan.protocol (MemoryStore.adapter sources)).call made life.1 life.2
      (outcome.cursor, outcome.world)
  | .cancel => (life.1, life.2.cancel)
  | .write action =>
      (life.1, { life.2 with store := life.2.store.perform action })

/-- The tree and its query after all that happened. -/
def live
    (sources : SourceRows)
    (plan : Plan)
    (life : plan.Cursor GroupCursor × Query MemoryStore)
    (happenings : List Happening) :
    plan.Cursor GroupCursor × Query MemoryStore :=
  happenings.foldl (plan.happen sources) life

/-- A tree over a memory store whose states fit together. -/
abbrev Tied
    (sources : SourceRows)
    (plan : Plan)
    (cursor : plan.Cursor GroupCursor) :
    Prop :=
  plan.Sound (MemoryStore.adapter sources) (fun _ => True) cursor

theorem Tied.happen
    {sources : SourceRows}
    {plan : Plan}
    {life : plan.Cursor GroupCursor × Query MemoryStore}
    (tied : plan.Tied sources life.1)
    (happening : Happening) :
    plan.Tied sources (plan.happen sources life happening).1 := by
  cases happening with
  | call made =>
      have conformant :=
        plan.conformant (MemoryStore.adapter_conformant sources)
      exact conformant.sound_call (plan.guarded _) made tied life.2
  | cancel | write action =>
      exact tied

theorem Tied.live
    {sources : SourceRows}
    {plan : Plan}
    {life : plan.Cursor GroupCursor × Query MemoryStore}
    (tied : plan.Tied sources life.1)
    (happenings : List Happening) :
    plan.Tied sources (plan.live sources life happenings).1 := by
  induction happenings generalizing life with
  | nil =>
      exact tied
  | cons happening happenings ih =>
      exact ih (tied.happen happening)

/-- The states in a tree fit together in all of its life. -/
theorem tied_live
    {sources : SourceRows}
    {plan : Plan}
    {query afterwards : Query MemoryStore}
    {cursor : plan.Cursor GroupCursor}
    (fresh :
      plan.newCursor (MemoryStore.adapter sources) query =
        (.ok cursor, afterwards))
    (happenings : List Happening) :
    plan.Tied sources
      (plan.live sources (cursor, afterwards) happenings).1 := by
  have storage := MemoryStore.adapter_conformant sources
  have born : plan.Tied sources cursor := (sound_newCursor storage.orderly fresh).1
  exact Tied.live born happenings

/--
Whatever happened to a tree of cursors since it was fresh, the states of its
cursors fit together, all of it is idle or destroyed if the root is, and the
next call keeps to the table.
-/
theorem conforms_live
    (sources : SourceRows)
    {plan : Plan}
    {query afterwards : Query MemoryStore}
    {cursor : plan.Cursor GroupCursor}
    (fresh :
      plan.newCursor (MemoryStore.adapter sources) query =
        (.ok cursor, afterwards))
    (happenings : List Happening) :
    let adapter := MemoryStore.adapter sources
    let protocol := plan.protocol adapter
    let life := plan.live sources (cursor, afterwards) happenings
    plan.Tied sources life.1 ∧
      (protocol.state life.1 = .idle →
          ∀ state ∈ plan.states adapter life.1, state = .idle) ∧
        (protocol.state life.1 = .destroyed →
            ∀ state ∈ plan.states adapter life.1, state = .destroyed) ∧
          ∀ made, protocol.Conforms plan.name made life.1 life.2 := by
  have storage := MemoryStore.adapter_conformant sources
  have tied := tied_live fresh happenings
  refine ⟨tied, ?_, ?_, ?_⟩
  · exact states_of_root tied nofun
  · exact states_of_root tied nofun
  · intro made
    exact (plan.conformant storage).conforms (plan.guarded _) made tied _

/-- A fresh tree of cursors of the sample plan. -/
def sampleCursor : samplePlan.Cursor GroupCursor :=
  let leaf : GroupScan.Cursor GroupCursor :=
    { storage := { group := MemoryStore.Sample.group.id } }
  (⟨leaf, leaf, .idle, .reserve 0⟩ :
    NestedLoop.Cursor (GroupScan.Cursor GroupCursor)
      (GroupScan.Cursor GroupCursor))

/-- A loop that is canceled after its first row refuses to go on, and all of it is idle then. -/
theorem conforms_canceled_loop :
    let adapter := MemoryStore.adapter MemoryStore.Sample.sources
    let protocol := samplePlan.protocol adapter
    let life happenings :=
      samplePlan.live MemoryStore.Sample.sources (sampleCursor, sampleQuery)
        happenings
    let canceled :=
      life [.call (.openWith (.reserve 1)), .call .next, .cancel]
    let stopped :=
      life [.call (.openWith (.reserve 1)), .call .next, .cancel, .call .next]
    samplePlan.newCursor adapter sampleQuery =
        (.ok sampleCursor, sampleQuery) ∧
      samplePlan.states adapter canceled.1 =
          [.active, .active, .active, .active, .active] ∧
        protocol.Conforms "NestedLoopMap" .next canceled.1 canceled.2 ∧
          ∀ state ∈ samplePlan.states adapter stopped.1, state = .idle := by
  have fresh :
      samplePlan.newCursor (MemoryStore.adapter MemoryStore.Sample.sources)
          sampleQuery =
        (.ok sampleCursor, sampleQuery) :=
    rfl
  refine ⟨fresh, rfl, ?_, ?_⟩
  · exact (conforms_live MemoryStore.Sample.sources fresh _).2.2.2 .next
  · exact (conforms_live MemoryStore.Sample.sources fresh _).2.1 rfl

end Plan

end HierQuery
