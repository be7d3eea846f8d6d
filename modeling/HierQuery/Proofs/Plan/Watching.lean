import HierQuery.Proofs.Cursor.Call
import HierQuery.Proofs.Plan.Erasure

/-!
# Watching the calls within a tree

A loop makes calls on the cursors below it that nobody sees from outside.  They
can be watched: beside the store there is a list of sights, and each operator
of the tree adds one for every call on its cursor, with the answer to it.

The operators do not look at the sights.  So a tree that is watched does what
it does when it is not, call by call, and what is told by the sights is told of
the tree itself.
-/

namespace HierQuery

variable {κ σ ω ρ : Type}

/-! ## Sights -/

/-- A call on the cursor of an operator, and the answer to it. -/
structure Sight where
  /-- The operator with all that is below it. -/
  plan : Plan
  made : CursorCall
  answer : Except ExecError (Option Row)

/-- Whether the plan is a single operator: a scan or a count. -/
def Plan.isLeaf : Plan → Bool
  | scan _ | count _ => true
  | nestedLoop _ _ _ => false

namespace Sight

/-- Whether a cursor was opened. -/
def isOpening (sight : Sight) : Bool :=
  match sight.made, sight.answer with
  | .openWith _, .ok _ => true
  | _, _ => false

/-- Whether a cursor was asked for a row and handed one out. -/
def isRow (sight : Sight) : Bool :=
  match sight.made, sight.answer with
  | .next, .ok (some _) => true
  | _, _ => false

/-- Whether a scan or a count handed out a row. -/
def isRowOfLeaf (sight : Sight) : Bool :=
  sight.plan.isLeaf && sight.isRow

end Sight

/-- The query after one more sight. -/
def Query.sees
    (query : Query (σ × List Sight))
    (sight : Sight) :
    Query (σ × List Sight) :=
  { query with store := (query.store.1, query.store.2 ++ [sight]) }

/-- A call that was seen, with the row that it answered with if it was asked for one. -/
def Outcome.seen
    (plan : Plan)
    (made : CursorCall)
    (row? : ρ → Option Row)
    (outcome : Outcome κ (Query (σ × List Sight)) ρ) :
    Outcome κ (Query (σ × List Sight)) ρ :=
  { outcome with
    world := outcome.world.sees ⟨plan, made, outcome.answer.map row?⟩ }

/-- The same calls, each of which is seen. -/
def CursorProtocol.watched
    (protocol : CursorProtocol κ (Query (σ × List Sight)))
    (plan : Plan) :
    CursorProtocol κ (Query (σ × List Sight)) where
  state := protocol.state
  openWith := fun bindings cursor query =>
    (protocol.openWith bindings cursor query).seen plan (.openWith bindings)
      fun () => none
  next := fun cursor query =>
    (protocol.next cursor query).seen plan .next id
  close := fun cursor query =>
    (protocol.close cursor query).seen plan .close fun () => none
  destroy := fun cursor query =>
    (protocol.destroy cursor query).seen plan .destroy fun () => none
  rowBound := protocol.rowBound

/-- The same store with something beside it, which no call looks at. -/
def StoreAdapter.beside
    (adapter : StoreAdapter κ σ)
    (τ : Type) :
    StoreAdapter κ (σ × τ) where
  state := adapter.state
  openWith := fun bindings cursor (store, kept) =>
    (adapter.openWith bindings cursor store).mapWorld (·, kept)
  next := fun cursor (store, kept) =>
    (adapter.next cursor store).mapWorld (·, kept)
  close := fun cursor (store, kept) =>
    (adapter.close cursor store).mapWorld (·, kept)
  destroy := fun cursor (store, kept) =>
    (adapter.destroy cursor store).mapWorld (·, kept)
  rowBound := fun (store, _) => adapter.rowBound store
  newCursor := fun group (store, kept) =>
    let (made, store) := adapter.newCursor group store
    (made, (store, kept))
  rebind := fun range cursor (store, kept) =>
    (adapter.rebind range cursor store).mapWorld (·, kept)
  rowCount := fun rowType (store, kept) =>
    let (answer, store) := adapter.rowCount rowType store
    (answer, (store, kept))

/-- The calls on the cursors of a plan, with those on each operator seen. -/
def Plan.watched
    (adapter : StoreAdapter κ σ) :
    (plan : Plan) →
      CursorProtocol (plan.Cursor κ) (Query (σ × List Sight))
  | scan leaf =>
      (leaf.protocol (adapter.beside (List Sight))).watched (scan leaf)
  | count leaf =>
      (leaf.protocol (adapter.beside (List Sight))).watched (count leaf)
  | nestedLoop outer inner slot =>
      (NestedLoop.protocol (outer.watched adapter) (inner.watched adapter)
        slot).watched (nestedLoop outer inner slot)

/-- The root of a tree is watched like all operators below it. -/
theorem Plan.exists_watched
    (adapter : StoreAdapter κ σ)
    (plan : Plan) :
    ∃ protocol : CursorProtocol (plan.Cursor κ) (Query (σ × List Sight)),
      plan.watched adapter = protocol.watched plan := by
  cases plan <;> exact ⟨_, rfl⟩

/-- A call that is seen is the last that was seen. -/
theorem CursorProtocol.call_watched
    (protocol : CursorProtocol κ (Query (σ × List Sight)))
    (plan : Plan)
    (made : CursorCall)
    (cursor : κ)
    (query : Query (σ × List Sight)) :
    let outcome := protocol.call made cursor query
    (protocol.watched plan).call made cursor query =
      { outcome with world := outcome.world.sees ⟨plan, made, outcome.answer⟩ } := by
  cases made with
  | openWith | close | destroy =>
      rfl
  | next =>
      change (protocol.next cursor query).seen plan .next id = _
      rw [Outcome.seen, Except.map_id]
      rfl

/-! ## Watching changes nothing -/

/-- The query without its sights. -/
abbrev Query.unseen (query : Query (σ × List Sight)) : Query σ :=
  query.mapStore Prod.fst

theorem StoreAdapter.erases_beside
    (adapter : StoreAdapter κ σ)
    (τ : Type) :
    (adapter.beside τ).Erases adapter Prod.fst where
  calls :=
    { state := fun _ => rfl
      openWith := fun _ _ _ => rfl
      next := fun _ _ => rfl
      close := fun _ _ => rfl
      rowBound := fun _ => rfl }
  rebind := fun _ _ _ => rfl
  rowCount := fun _ _ => rfl

theorem StoreAdapter.corresponds_beside
    (adapter : StoreAdapter κ σ)
    (τ : Type) :
    (adapter.beside τ).Corresponds adapter
      (fun store other => store.1 = other) (fun _ => True) .same where
  toRuns := (adapter.erases_beside τ).runs
  destroys := by
    rintro cursor _ store _ rfl rfl
    exact Outcome.corresponds_mapWorld Prod.fst _ fun _ => trivial

/-- A call that is seen comes to the same as if it was not. -/
theorem Outcome.Corresponds.seen
    {plan : Plan}
    {made : CursorCall}
    {row? : ρ → Option Row}
    {Failed : ExecError.Cause → Prop}
    {Handed : ρ → Prop}
    {outcome : Outcome κ (Query (σ × List Sight)) ρ}
    {other : Outcome κ (Query σ) ρ}
    (corresponds :
      outcome.Corresponds (fun query bare => query.unseen = bare) Failed Eq
        Handed other) :
    (outcome.seen plan made row?).Corresponds
      (fun query bare => query.unseen = bare) Failed Eq Handed other := by
  cases corresponds with
  | ok handed cursors worlds =>
      exact .ok handed cursors worlds
  | error failed cursors worlds =>
      exact .error failed cursors worlds

theorem CursorProtocol.Corresponds.watched
    {protocol : CursorProtocol κ (Query (σ × List Sight))}
    {bare : CursorProtocol κ (Query σ)}
    (corresponds :
      protocol.Corresponds bare (fun query other => query.unseen = other)
        (fun _ => True) .same)
    (plan : Plan) :
    (protocol.watched plan).Corresponds bare
      (fun query other => query.unseen = other) (fun _ => True) .same where
  state := corresponds.state
  opens := fun cursors given worlds =>
    (corresponds.opens cursors given worlds).seen
  answers := fun cursors worlds => (corresponds.answers cursors worlds).seen
  closes := fun cursors worlds => (corresponds.closes cursors worlds).seen
  rowBound := corresponds.rowBound
  destroys := fun cursors worlds =>
    (corresponds.destroys cursors worlds).seen

namespace Plan

/-- A tree that is watched does what it does unwatched. -/
theorem corresponds_watched
    (adapter : StoreAdapter κ σ)
    (plan : Plan) :
    (plan.watched adapter).Corresponds (plan.protocol adapter)
      (fun query other => query.unseen = other) (fun _ => True) .same := by
  have parallel := Query.parallel_mapStore (Prod.fst : σ × List Sight → σ)
  have leaf (plan : Plan) :=
    plan.corresponds_same parallel (adapter.corresponds_beside (List Sight))
  induction plan with
  | scan operator =>
      exact (leaf (scan operator)).watched (scan operator)
  | count operator =>
      exact (leaf (count operator)).watched (count operator)
  | nestedLoop outer inner slot outerSame innerSame =>
      exact
        (NestedLoop.corresponds_same parallel.toParallel outerSame innerSame
          slot).watched (nestedLoop outer inner slot)

/-- A call on a tree that is watched is the call on the tree, with what was seen beside it. -/
theorem call_watched
    (adapter : StoreAdapter κ σ)
    {plan : Plan}
    (made : CursorCall)
    (cursor : plan.Cursor κ)
    (query : Query (σ × List Sight)) :
    ((plan.watched adapter).call made cursor query).mapWorld Query.unseen =
      (plan.protocol adapter).call made cursor query.unseen :=
  ((plan.corresponds_watched adapter).call (made.paired_self fun _ => rfl)
    rfl rfl).mapWorld_eq

end Plan

end HierQuery
