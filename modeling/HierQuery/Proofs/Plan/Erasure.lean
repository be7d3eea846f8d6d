import HierQuery.Proofs.Plan.TreeCorrespondence

/-!
# Stores that carry more than they need

A store may carry more than its cursors look at, a record of all calls for
instance.  Erasing that leads to a smaller store.  If each call on a storage
cursor does the same on both stores, up to what is erased, then so does each
call on the cursors of a plan: operators do not look into the store, they only
pass it on.  To erase is a relation between queries that bears all that they do.

So whatever is recorded about a run of a plan is recorded about the run that
takes place without the record.
-/

namespace HierQuery

/-! ## Outcomes in another world -/

namespace Outcome

variable {κ ω ω' α : Type}

/-- The same outcome in another world. -/
def mapWorld (change : ω → ω') (outcome : Outcome κ ω α) : Outcome κ ω' α :=
  ⟨outcome.answer, outcome.cursor, change outcome.world⟩

/-- An outcome corresponds to the one in the other world. -/
theorem corresponds_mapWorld
    (change : ω → ω')
    (outcome : Outcome κ ω α)
    {Handed : α → Prop}
    (handed : ∀ value, Handed value) :
    outcome.Corresponds (fun world other => change world = other)
      (fun _ => True) Eq Handed (outcome.mapWorld change) := by
  rcases outcome with ⟨answer, cursor, world⟩
  cases answer with
  | ok value =>
      exact .ok (handed value) rfl rfl
  | error =>
      exact .error trivial rfl rfl

/-- There is only one outcome in the other world that corresponds. -/
theorem Corresponds.mapWorld_eq
    {change : ω → ω'}
    {Failed : ExecError.Cause → Prop}
    {Handed : α → Prop}
    {outcome : Outcome κ ω α}
    {other : Outcome κ ω' α}
    (corresponds :
      outcome.Corresponds (fun world other => change world = other) Failed Eq
        Handed other) :
    outcome.mapWorld change = other := by
  cases corresponds with
  | ok _ cursors worlds | error _ cursors worlds =>
      cases cursors
      cases worlds
      rfl

end Outcome

namespace Query

variable {σ τ : Type}

/-- The same query over another store. -/
def mapStore (change : σ → τ) (query : Query σ) : Query τ where
  id := query.id
  config := query.config
  canceled := query.canceled
  metrics := query.metrics
  log := query.log
  store := change query.store

theorem mapStore_trace
    (change : σ → τ)
    (query : Query σ)
    (event : Event)
    (operator detail : String) :
    (query.trace event operator detail).mapStore change =
      (query.mapStore change).trace event operator detail := by
  unfold trace
  change mapStore change (if query.config.logOperatorExecution then _ else _) =
    if query.config.logOperatorExecution then _ else _
  split <;> rfl

theorem checkCancellation_mapStore
    (change : σ → τ)
    (query : Query σ) :
    (query.mapStore change).checkCancellation =
      (query.checkCancellation.1,
        query.checkCancellation.2.mapStore change) := by
  unfold checkCancellation
  change (if query.canceled then _ else _) =
    ((if query.canceled then _ else _ : Except ExecError Unit × Query σ).1, _)
  cases query.canceled <;> rfl

/-- Erasing bears all that operators do to a query. -/
theorem parallel_mapStore (change : σ → τ) :
    ParallelOver (fun query other => query.mapStore change = other)
      (fun store other => change store = other) where
  booked := by
    rintro query _ rfl event - operator detail
    rw [booked, booked, mapStore_trace]
    congr 1
    rw [reckoned, reckoned]
    split <;> rfl
  checks := by
    rintro query _ rfl
    rw [checkCancellation_mapStore]
    exact ⟨rfl, rfl⟩
  stores := by
    rintro query _ rfl
    rfl
  stored := by
    rintro query _ store _ rfl rfl
    rfl
  counted := by
    rintro query _ rfl counter -
    rfl

end Query

/-! ## Erasing calls -/

/-- Each call does the same in both worlds, up to what is erased. -/
structure CursorProtocol.Erases
    {κ ω ω' : Type}
    (full : CursorProtocol κ ω)
    (bare : CursorProtocol κ ω')
    (erase : ω → ω') :
    Prop where
  state : ∀ cursor, full.state cursor = bare.state cursor
  openWith :
    ∀ bindings cursor world,
      (full.openWith bindings cursor world).mapWorld erase =
        bare.openWith bindings cursor (erase world)
  next :
    ∀ cursor world,
      (full.next cursor world).mapWorld erase =
        bare.next cursor (erase world)
  close :
    ∀ cursor world,
      (full.close cursor world).mapWorld erase =
        bare.close cursor (erase world)
  rowBound : ∀ world, full.rowBound world = bare.rowBound (erase world)

/-- Each call on a store does the same on a smaller store, up to what is erased. -/
structure StoreAdapter.Erases
    {κ σ τ : Type}
    (full : StoreAdapter κ σ)
    (bare : StoreAdapter κ τ)
    (erase : σ → τ) :
    Prop where
  calls : full.toCursorProtocol.Erases bare.toCursorProtocol erase
  rebind :
    ∀ range cursor store,
      (full.rebind range cursor store).mapWorld erase =
        bare.rebind range cursor (erase store)
  rowCount :
    ∀ rowType store,
      ((full.rowCount rowType store).1,
          erase (full.rowCount rowType store).2) =
        bare.rowCount rowType (erase store)

theorem CursorProtocol.Erases.runs
    {κ ω ω' : Type}
    {full : CursorProtocol κ ω}
    {bare : CursorProtocol κ ω'}
    {erase : ω → ω'}
    (erases : full.Erases bare erase) :
    full.Runs bare (fun world other => erase world = other) (fun _ => True)
      .same where
  state := by
    rintro cursor _ rfl
    exact erases.state cursor
  opens := by
    rintro cursor _ bindings _ world _ rfl rfl rfl
    rw [← erases.openWith]
    exact Outcome.corresponds_mapWorld erase _ fun _ => trivial
  answers := by
    rintro cursor _ world _ rfl rfl
    rw [← erases.next]
    exact Outcome.corresponds_mapWorld erase _ fun _ _ _ => trivial
  closes := by
    rintro cursor _ world _ rfl rfl
    rw [← erases.close]
    exact Outcome.corresponds_mapWorld erase _ fun _ => trivial
  rowBound := by
    rintro world _ rfl
    exact erases.rowBound world

theorem CursorProtocol.Runs.erases
    {κ ω ω' : Type}
    {full : CursorProtocol κ ω}
    {bare : CursorProtocol κ ω'}
    {erase : ω → ω'}
    (runs :
      full.Runs bare (fun world other => erase world = other)
        (fun _ => True) .same) :
    full.Erases bare erase where
  state := fun _ => runs.state rfl
  openWith := fun _ _ _ => (runs.opens rfl rfl rfl).mapWorld_eq
  next := fun _ _ => (runs.answers rfl rfl).mapWorld_eq
  close := fun _ _ => (runs.closes rfl rfl).mapWorld_eq
  rowBound := fun _ => runs.rowBound rfl

theorem StoreAdapter.Erases.runs
    {κ σ τ : Type}
    {full : StoreAdapter κ σ}
    {bare : StoreAdapter κ τ}
    {erase : σ → τ}
    (erases : full.Erases bare erase) :
    full.Runs bare (fun store other => erase store = other) (fun _ => True)
      .same where
  answer := by
    rintro store _ rowType rfl
    exact congrArg Prod.fst (erases.rowCount rowType store)
  failed := fun _ _ _ _ => trivial
  stores := by
    rintro store _ rowType rfl
    exact congrArg Prod.snd (erases.rowCount rowType store)
  calls := erases.calls.runs
  rebinds := by
    rintro cursor _ store _ range rfl rfl
    rw [← erases.rebind]
    exact Outcome.corresponds_mapWorld erase _ fun _ => trivial

/-- The cursors of a plan do the same over both stores. -/
theorem Plan.erases_protocol
    {κ σ τ : Type}
    {full : StoreAdapter κ σ}
    {bare : StoreAdapter κ τ}
    {erase : σ → τ}
    (erases : full.Erases bare erase)
    (plan : Plan) :
    (plan.protocol full).Erases (plan.protocol bare)
      (Query.mapStore erase) :=
  (plan.runs_same (Query.parallel_mapStore erase) erases.runs).erases

end HierQuery
