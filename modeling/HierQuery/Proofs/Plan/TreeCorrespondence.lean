import HierQuery.Proofs.Plan.LoopCorrespondence

/-!
# Corresponding trees

The trees of a plan do the same over stores that do the same, call by call, and
stay the same.  The queries that they run in need not be the same: each relation
between queries will do that bears what operators do to them.

A tree over one store is a case of this, and tells which relations a query
cannot leave.
-/

namespace HierQuery

variable {κ σ τ : Type}

theorem GroupScan.terms_same :
    GroupScan.terms (Terms.same : Terms κ κ) Eq = Terms.same := by
  have cursors :
      Bound (Eq : κ → κ → Prop) = (Eq : Cursor κ → Cursor κ → Prop) := by
    funext first second
    apply propext
    constructor
    · rintro ⟨storage, state, range, tally⟩
      cases first
      cases second
      cases storage
      cases state
      cases range
      cases tally
      rfl
    · rintro rfl
      exact ⟨rfl, rfl, rfl, rfl⟩
  exact congrArg (fun Cursors => Terms.mk Cursors Eq fun _ => True) cursors

theorem GroupScan.positions_same (scan : GroupScan) :
    scan.Positions (fun _ => True) (Terms.same : Terms κ κ) Eq where
  opens := id
  key := by
    rintro bindings _ slot reach rfl -
    exact ⟨rfl, fun _ _ => trivial⟩

namespace NestedLoop

variable {α β : Type}

theorem terms_same :
    terms Terms.same Terms.same Eq Eq Eq =
      (Terms.same : Terms (Cursor α β) (Cursor α β)) := by
  have cursors :
      Bound (Terms.same : Terms α α) (Terms.same : Terms β β) Eq Eq = Eq := by
    funext first second
    apply propext
    constructor
    · rintro ⟨outer, inner, state, bindings, -⟩
      cases first
      cases second
      cases outer
      cases inner
      cases state
      cases bindings
      rfl
    · rintro rfl
      exact ⟨rfl, rfl, rfl, rfl, fun _ => rfl⟩
  exact congrArg (fun Cursors => Terms.mk Cursors Eq fun _ => True) cursors

theorem binds_any (slot : Nat) :
    Binds slot (fun _ => True) (Terms.same : Terms α α)
      (Terms.same : Terms β β) Eq Eq Eq :=
  binds_same (fun _ => rfl) rfl rfl (fun _ _ => trivial) fun _ _ _ => trivial

variable
  {outer : CursorProtocol α (Query σ)}
  {otherOuter : CursorProtocol α (Query τ)}
  {inner : CursorProtocol β (Query σ)}
  {otherInner : CursorProtocol β (Query τ)}
  {Worlds : Query σ → Query τ → Prop}

theorem runs_same
    (parallel : Query.Parallel Worlds)
    (outerRuns : outer.Runs otherOuter Worlds (fun _ => True) .same)
    (innerRuns : inner.Runs otherInner Worlds (fun _ => True) .same)
    (slot : Nat) :
    (protocol outer inner slot).Runs (protocol otherOuter otherInner slot)
      Worlds (fun _ => True) .same := by
  rw [← terms_same]
  exact runs parallel ExecError.tolerates_any (binds_any slot) outerRuns
    innerRuns

/-- Loops do the same if the cursors below them do. -/
theorem corresponds_same
    (parallel : Query.Parallel Worlds)
    (outerSame : outer.Corresponds otherOuter Worlds (fun _ => True) .same)
    (innerSame : inner.Corresponds otherInner Worlds (fun _ => True) .same)
    (slot : Nat) :
    (protocol outer inner slot).Corresponds
      (protocol otherOuter otherInner slot) Worlds (fun _ => True) .same := by
  rw [← terms_same]
  exact corresponds parallel ExecError.tolerates_any (binds_any slot)
    outerSame innerSame

end NestedLoop

/-- A store does the same as itself. -/
theorem StoreAdapter.corresponds_refl (adapter : StoreAdapter κ σ) :
    adapter.Corresponds adapter Eq (fun _ => True) .same where
  answer := by
    rintro store _ rowType rfl
    rfl
  failed := fun _ _ _ _ => trivial
  stores := by
    rintro store _ rowType rfl
    rfl
  calls.state := congrArg adapter.state
  calls.opens := by
    rintro cursor _ bindings _ store _ rfl rfl rfl
    exact .refl _ fun _ => trivial
  calls.answers := by
    rintro cursor _ store _ rfl rfl
    exact .refl _ fun _ _ _ => trivial
  calls.closes := by
    rintro cursor _ store _ rfl rfl
    exact .refl _ fun _ => trivial
  calls.rowBound := congrArg adapter.rowBound
  rebinds := by
    rintro cursor _ store _ range rfl rfl
    exact .refl _ fun _ => trivial
  destroys := by
    rintro cursor _ store _ rfl rfl
    exact .refl _ fun _ => trivial

namespace Plan

variable
  {adapter : StoreAdapter κ σ}
  {otherAdapter : StoreAdapter κ τ}
  {Worlds : Query σ → Query τ → Prop}
  {Stores : σ → τ → Prop}

/-- Trees run in the same way over stores that do. -/
theorem runs_same
    (parallel : Query.ParallelOver Worlds Stores)
    (stores : adapter.Runs otherAdapter Stores (fun _ => True) .same)
    (plan : Plan) :
    (plan.protocol adapter).Runs (plan.protocol otherAdapter) Worlds
      (fun _ => True) .same := by
  have tolerates := ExecError.tolerates_any
  induction plan with
  | scan leaf =>
      have runs :=
        GroupScan.runs parallel tolerates leaf.positions_same stores
      rw [GroupScan.terms_same] at runs
      exact runs
  | count leaf =>
      exact
        (Count.corresponds parallel tolerates stores.toCounts
          fun _ => trivial).toRuns
  | nestedLoop outer inner slot outerRuns innerRuns =>
      exact NestedLoop.runs_same parallel.toParallel outerRuns innerRuns slot

/-- Trees do the same over stores that do. -/
theorem corresponds_same
    (parallel : Query.ParallelOver Worlds Stores)
    (stores : adapter.Corresponds otherAdapter Stores (fun _ => True) .same)
    (plan : Plan) :
    (plan.protocol adapter).Corresponds (plan.protocol otherAdapter) Worlds
      (fun _ => True) .same := by
  have tolerates := ExecError.tolerates_any
  induction plan with
  | scan leaf =>
      have corresponds :=
        GroupScan.corresponds parallel tolerates leaf.positions_same stores
      rw [GroupScan.terms_same] at corresponds
      exact corresponds
  | count leaf =>
      exact Count.corresponds parallel tolerates stores.toCounts
        fun _ => trivial
  | nestedLoop outer inner slot outerSame innerSame =>
      exact NestedLoop.corresponds_same parallel.toParallel outerSame
        innerSame slot

end Plan

end HierQuery
