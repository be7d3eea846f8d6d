import HierQuery.Plan.Basic
import HierQuery.Proofs.Plan.Count
import HierQuery.Proofs.Plan.GroupScan
import HierQuery.Proofs.Plan.NestedLoop
import HierQuery.Proofs.Store.Ledger

/-!
# Cursor trees compute the meaning of their plans

The service of a plan is put together from those of its operators, and it is
lawful because theirs are.  So collecting the rows of a fresh cursor gives the
answer of the stream that the plan means.  Over a store that was used only
through its actions, nothing can fail but a scan whose slot holds no key.
-/

namespace HierQuery

namespace Plan

/-- What the cursors of a plan serve over a store. -/
def service
    (sources : SourceRows)
    (store : MemoryStore) :
    (plan : Plan) → Service (plan.Cursor GroupCursor) MemoryStore
  | scan leaf => leaf.service sources store
  | count leaf => leaf.service sources store
  | nestedLoop outer inner slot =>
      NestedLoop.service (outer.service sources store)
        (inner.service sources store) slot

@[simp]
theorem protocol_service
    (sources : SourceRows)
    (store : MemoryStore)
    (plan : Plan) :
    (plan.service sources store).protocol =
      plan.protocol (MemoryStore.adapter sources) := by
  induction plan with
  | scan leaf =>
      rfl
  | count leaf =>
      rfl
  | nestedLoop outer inner slot outerSame innerSame =>
      change NestedLoop.protocol (outer.service sources store).protocol
        (inner.service sources store).protocol slot = _
      rw [outerSame, innerSame]
      rfl

@[simp]
theorem slots_service
    (sources : SourceRows)
    (store : MemoryStore)
    (plan : Plan) :
    (plan.service sources store).slots = plan.bindingSlots := by
  induction plan with
  | scan leaf =>
      rfl
  | count leaf =>
      rfl
  | nestedLoop outer inner slot outerSame innerSame =>
      change max (max (slot + 1) (outer.service sources store).slots)
        (inner.service sources store).slots = _
      rw [outerSame, innerSame]
      rfl

@[simp]
theorem meaning_service
    (sources : SourceRows)
    (store : MemoryStore)
    (plan : Plan) :
    (plan.service sources store).meaning = plan.eval sources store := by
  induction plan with
  | scan leaf =>
      rfl
  | count leaf =>
      rfl
  | nestedLoop outer inner slot outerSame innerSame =>
      funext bindings
      change ((outer.service sources store).meaning bindings).forEach
        (NestedLoop.body slot (inner.service sources store).meaning
          bindings) = _
      rw [outerSame, innerSame]
      rfl

/-- All calls on the cursors of a plan serve what the plan means. -/
theorem lawful
    (sources : SourceRows)
    {store : MemoryStore}
    (placed : store.Placed)
    (plan : Plan) :
    (plan.service sources store).Lawful store := by
  induction plan with
  | scan leaf =>
      exact leaf.lawful sources placed
  | count leaf =>
      exact leaf.lawful sources store
  | nestedLoop outer inner slot outerLawful innerLawful =>
      exact NestedLoop.lawful outerLawful innerLawful slot

/-! ## Plans over a schema -/

theorem nested_eq_ok
    {outer inner plan : Plan}
    {slot : Nat}
    (built : nested outer inner slot = .ok plan) :
    plan = nestedLoop outer inner slot ∧ outer.rowType.kind ≠ .values := by
  rw [nested] at built
  split at built
  next =>
    cases built
  next keyed =>
    cases built
    exact ⟨rfl, keyed⟩

theorem over_scan
    {schema : Schema}
    {leaf : GroupScan}
    (built : (scan leaf).Over schema) :
    ∃ group ∈ schema.groups, group.id = leaf.group.id := by
  cases built with
  | scan known =>
      exact known
  | nestedLoop _ _ built =>
      cases (nested_eq_ok built).1

theorem over_nestedLoop
    {schema : Schema}
    {outer inner : Plan}
    {slot : Nat}
    (built : (nestedLoop outer inner slot).Over schema) :
    outer.Over schema ∧ inner.Over schema ∧
      outer.rowType.kind ≠ .values := by
  generalize sought : nestedLoop outer inner slot = plan at built
  cases built with
  | scan =>
      cases sought
  | count =>
      cases sought
  | nestedLoop outerOver innerOver built =>
      rcases nested_eq_ok built with ⟨rfl, keyed⟩
      cases sought
      exact ⟨outerOver, innerOver, keyed⟩

/-- Over a schema of the store fresh cursors can be made, and they are ready. -/
theorem newCursor_eq_ok
    (sources : SourceRows)
    {query : Query MemoryStore}
    (placed : query.store.Placed)
    {plan : Plan}
    (built : plan.Over query.store.schema) :
    ∃ cursor,
      plan.newCursor (MemoryStore.adapter sources) query =
          (.ok cursor, query) ∧
        (plan.service sources query.store).Ready cursor := by
  induction plan with
  | scan leaf =>
      rcases over_scan built with ⟨group, member, sameId⟩
      have known := placed.groups group member
      rcases Option.isSome_iff_exists.1 known with ⟨rows, stored⟩
      refine ⟨({ storage := { group := leaf.group.id } } :
        GroupScan.Cursor GroupCursor), ?_, rfl, rfl, rfl,
        fun _ => ⟨rfl, rfl⟩⟩
      have made :
          (MemoryStore.adapter sources).newCursor leaf.group query.store =
            (.ok { group := leaf.group.id }, query.store) := by
        change ((query.store.rowsIn leaf.group.id).map _, query.store) = _
        rw [MemoryStore.rowsIn, ← sameId, stored]
        rfl
      rw [newCursor, GroupScan.newCursor, made]
      rfl
  | count leaf =>
      exact ⟨({} : Count.Cursor), rfl, rfl⟩
  | nestedLoop outer inner slot outerMade innerMade =>
      rcases over_nestedLoop built with ⟨outerOver, innerOver, -⟩
      rcases outerMade outerOver with ⟨outerCursor, outerNew, outerReady⟩
      rcases innerMade innerOver with ⟨innerCursor, innerNew, innerReady⟩
      refine ⟨(⟨outerCursor, innerCursor, .idle, .reserve 0⟩ :
        NestedLoop.Cursor (outer.Cursor GroupCursor)
          (inner.Cursor GroupCursor)), ?_, rfl, outerReady, innerReady⟩
      rw [newCursor, outerNew]
      dsimp only
      rw [innerNew]

/-! ## What the meaning of a plan is like -/

/-- A scan looks at the stored rows of its group with keys of the range. -/
theorem mem_rowsWithin
    {store : MemoryStore}
    {scan : GroupScan}
    {range : KeyRange}
    {row : Row} :
    row ∈ scan.rowsWithin store range ↔
      ∃ key,
        (key, row) ∈ (store.groupRows scan.group.id).entries ∧
          range.contains key = true := by
  simp [GroupScan.rowsWithin]

/-- The rows that a scan looks at are in the strict order of their keys. -/
theorem ascending_rowsWithin
    {store : MemoryStore}
    (placed : store.Placed)
    (scan : GroupScan)
    (range : KeyRange) :
    (scan.rowsWithin store range).Pairwise fun first second =>
      ∃ lower upper,
        first.key? = some lower ∧ second.key? = some upper ∧
          lower.before upper = true := by
  rw [GroupScan.rowsWithin, List.pairwise_map]
  refine (((store.groupRows scan.group.id).ascending.filter
    _).imp_of_mem ?_)
  intro first second inFirst inSecond below
  exact ⟨first.1, second.1,
    (placed.row (List.mem_filter.1 inFirst).1).itsKey,
    (placed.row (List.mem_filter.1 inSecond).1).itsKey,
    HKey.before_iff.2 below⟩

/-- The rows of a scan are in the strict order of their keys. -/
theorem ascending_eval_scan
    {store : MemoryStore}
    (placed : store.Placed)
    (scan : GroupScan)
    (bindings : Bindings) :
    (scan.eval store bindings).rows.Pairwise fun first second =>
      ∃ lower upper,
        first.key? = some lower ∧ second.key? = some upper ∧
          lower.before upper = true := by
  rw [GroupScan.eval]
  split
  · exact .nil
  · exact (ascending_rowsWithin placed scan _).sublist
      (scan.limit.cutAfter_prefix [] _).sublist

/-- Collecting the rows of a ready cursor gives what the plan means. -/
theorem collect_of_ready
    (sources : SourceRows)
    {plan : Plan}
    {bindings : Bindings}
    (roomy : plan.bindingSlots ≤ bindings.reserved)
    {query : Query MemoryStore}
    (running : query.canceled = false)
    (placed : query.store.Placed)
    {cursor : plan.Cursor GroupCursor}
    (ready : (plan.service sources query.store).Ready cursor) :
    let protocol := plan.protocol (MemoryStore.adapter sources)
    let collected := protocol.collect bindings cursor query
    collected.answer = (plan.eval sources query.store bindings).answer ∧
      protocol.state collected.cursor = .idle ∧
        collected.world.store = query.store := by
  have lawful := plan.lawful sources placed
  have enough :
      (plan.service sources query.store).slots ≤ bindings.reserved := by
    rw [slots_service]
    exact roomy
  rcases lawful.collect enough ready ⟨running, rfl⟩ with ⟨answer, ready, calm⟩
  have idle := lawful.idle ready
  rw [protocol_service, meaning_service] at answer
  rw [protocol_service] at idle calm
  exact ⟨answer, idle, calm.unchanged⟩

/-- The orders below the first customer, with the customer itself. -/
def samplePlan : Plan :=
  .nestedLoop
    (.scan ⟨MemoryStore.Sample.group, .full, .rows 1⟩)
    (.scan ⟨MemoryStore.Sample.group, .positional 0 .deep, .unlimited⟩) 0

/-- A query over a store in which a customer and an order of it were written. -/
def sampleQuery : Query MemoryStore where
  id := "sample"
  config := {}
  store :=
    (MemoryStore.create MemoryStore.Sample.schema {} "session"
      .exact).1.performAll
        [.write MemoryStore.Sample.orderRow,
          .write MemoryStore.Sample.customerRow, .commit]

end Plan

end HierQuery
