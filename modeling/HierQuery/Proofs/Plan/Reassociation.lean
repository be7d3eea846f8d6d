import HierQuery.Proofs.Plan.FreshRuns
import HierQuery.Proofs.Plan.Scoping
import HierQuery.Proofs.Plan.Streams

/-!
# Nested loops re-associate

Three plans can be put into two loops in two ways: the loop of the first two
may be the outer plan of the second loop, or the loop of the last two the inner
plan of the first one.  On the left the last plan runs beside the first loop
and does not see the slot that the loop binds; on the right it runs inside of
it.  Nothing else tells the two apart, so they run alike if the last plan does
not read that slot, or if the slot is bound anew before the last plan runs.

For the meanings this is the law of streams that going through the rows of
bodies is going through them body by body.  The meaning of a plan rests on its
free slots alone, so what is bound to another slot may be dropped.
-/

namespace HierQuery

namespace Bindings

/-- Keys may be bound to two different slots in any order. -/
theorem withKey_comm
    (bindings : Bindings)
    {slot other : Nat}
    (different : slot ≠ other)
    (first second : HKey) :
    (bindings.withKey slot first).withKey other second =
      (bindings.withKey other second).withKey slot first := by
  simp only [withKey]
  rw [List.set_comm _ _ different]

end Bindings

namespace Plan

/-! ## What the meaning of a plan rests on -/

section Meaning

variable
  {Unset Scalar : Nat → Prop}
  {plan : Plan}

/-- With bindings that agree on its free slots a plan means the same. -/
theorem Agree.eval_eq
    (sources : SourceRows)
    (store : MemoryStore)
    {bindings others : Bindings}
    (agree : plan.Agree Unset Scalar bindings others) :
    plan.eval sources store bindings = plan.eval sources store others := by
  induction plan generalizing bindings others with
  | scan leaf =>
      rw [eval, eval, GroupScan.eval, GroupScan.eval, GroupScan.rangeUnder,
        GroupScan.rangeUnder]
      cases mode : leaf.mode with
      | full =>
          rfl
      | positional slot reach =>
          dsimp only
          rw [Bindings.getKey, Bindings.getKey, agree.same slot (.scan mode)]
  | count leaf =>
      rfl
  | nestedLoop outer inner slot outerSame innerSame =>
      rcases bindingSlots_nestedLoop_le_iff.1 (Nat.le_refl _) with
        ⟨inside, -, smaller⟩
      rw [eval, eval, outerSame agree.ofOuter]
      apply RowStream.forEach_congr
      intro row _
      rw [NestedLoop.body, NestedLoop.body]
      cases row.key? with
      | none =>
          rfl
      | some key =>
          exact innerSame (agree.withKey key inside smaller fun _ => .inner)

/-- What is bound to a slot that is not free does not matter. -/
theorem eval_withKey_of_not_free
    (sources : SourceRows)
    (store : MemoryStore)
    {slot : Nat}
    (bound : ¬ plan.Free slot)
    {bindings : Bindings}
    (inside : slot < bindings.reserved)
    (roomy : plan.bindingSlots ≤ bindings.reserved)
    (key : HKey) :
    plan.eval sources store (bindings.withKey slot key) =
      plan.eval sources store bindings := by
  have agree :
      plan.Agree (fun _ => True) (fun _ => True)
        (bindings.withKey slot key) bindings := by
    refine ⟨?_, roomy, ?_, fun _ _ _ => trivial, fun _ _ _ _ => trivial⟩
    · rw [Bindings.reserved_withKey]
      exact roomy
    · intro other free
      rw [Bindings.get_withKey inside, if_neg]
      rintro rfl
      exact bound free
  exact agree.eval_eq sources store

end Meaning

/-! ## Two loops over three plans -/

/-- The loop of the first two plans is the outer plan of the second loop. -/
def nestedLeft
    (first second third : Plan)
    (slot next : Nat) :
    Except ExecError Plan :=
  (nested first second slot).bind fun loop => nested loop third next

/-- The loop of the last two plans is the inner plan of the first loop. -/
def nestedRight
    (first second third : Plan)
    (slot next : Nat) :
    Except ExecError Plan :=
  (nested second third next).bind fun loop => nested first loop slot

/-- The last of three plans does not see which key of the first one is bound. -/
def Separable (third : Plan) (slot next : Nat) : Prop :=
  next = slot ∨ ¬ third.Free slot

section Loops

variable
  {first second third plan : Plan}
  {slot next : Nat}

/-- The two loops are accepted just if the rows of the first two plans may have keys. -/
theorem nestedLeft_eq_ok_iff :
    nestedLeft first second third slot next = .ok plan ↔
      first.rowType.kind ≠ .values ∧ second.rowType.kind ≠ .values ∧
        plan = nestedLoop (nestedLoop first second slot) third next := by
  rw [nestedLeft, nested]
  by_cases keyless : first.rowType.kind = .values
  · simp [keyless, Except.bind]
  · by_cases alsoKeyless : second.rowType.kind = .values <;>
      simp [keyless, alsoKeyless, nested, rowType, Except.bind, eq_comm]

/-- The other way it takes the same. -/
theorem nestedRight_eq_ok_iff :
    nestedRight first second third slot next = .ok plan ↔
      first.rowType.kind ≠ .values ∧ second.rowType.kind ≠ .values ∧
        plan = nestedLoop first (nestedLoop second third next) slot := by
  rw [nestedRight, nested]
  by_cases keyless : second.rowType.kind = .values
  · simp [keyless, Except.bind]
  · by_cases alsoKeyless : first.rowType.kind = .values <;>
      simp [keyless, alsoKeyless, nested, Except.bind, eq_comm]

/-- Both ways need the same slots. -/
theorem bindingSlots_reassociated
    (first second third : Plan)
    (slot next : Nat) :
    (nestedLoop (nestedLoop first second slot) third next).bindingSlots =
      (nestedLoop first (nestedLoop second third next) slot).bindingSlots := by
  simp only [bindingSlots]
  omega

/-- Both ways the groups of the three plans are looked up in the same order. -/
theorem obstacle_reassociated
    (store : MemoryStore)
    (first second third : Plan)
    (slot next : Nat) :
    (nestedLoop (nestedLoop first second slot) third next).obstacle? store =
      (nestedLoop first (nestedLoop second third next) slot).obstacle?
        store := by
  simp only [obstacle?]
  rw [Option.or_assoc]

/-- If the last plan is separable, it does not matter that the first loop binds its slot. -/
theorem Separable.eval_withKey
    (separable : third.Separable slot next)
    (sources : SourceRows)
    (store : MemoryStore)
    {bindings : Bindings}
    (inside : slot < bindings.reserved)
    (roomy : third.bindingSlots ≤ bindings.reserved)
    (key nextKey : HKey) :
    third.eval sources store
        ((bindings.withKey slot key).withKey next nextKey) =
      third.eval sources store (bindings.withKey next nextKey) := by
  by_cases same : next = slot
  · subst same
    rw [Bindings.withKey_withKey]
  · have bound : ¬ third.Free slot := separable.resolve_left same
    rw [bindings.withKey_comm (Ne.symm same)]
    apply eval_withKey_of_not_free sources store bound
    · rw [Bindings.reserved_withKey]
      exact inside
    · rw [Bindings.reserved_withKey]
      exact roomy

/-- Both ways mean the same. -/
theorem Separable.eval_reassociated
    (separable : third.Separable slot next)
    (sources : SourceRows)
    (store : MemoryStore)
    (first second : Plan)
    {bindings : Bindings}
    (inside : slot < bindings.reserved)
    (roomy : third.bindingSlots ≤ bindings.reserved) :
    (nestedLoop (nestedLoop first second slot) third next).eval sources store
        bindings =
      (nestedLoop first (nestedLoop second third next) slot).eval sources
        store bindings := by
  rw [eval, eval, RowStream.forEach_forEach, eval]
  apply RowStream.forEach_congr
  intro row _
  rw [NestedLoop.body, NestedLoop.body]
  cases row.key? with
  | none =>
      rfl
  | some key =>
      dsimp only
      rw [eval]
      apply RowStream.forEach_congr
      intro between _
      rw [NestedLoop.body, NestedLoop.body]
      cases between.key? with
      | none =>
          rfl
      | some nextKey =>
          exact
            (separable.eval_withKey sources store inside roomy key
              nextKey).symm

end Loops

/--
Two loops over three plans are accepted one way just if they are accepted the
other way.  If the last plan is separable, both need the same slots, and with
so many the runs from fresh cursors give the same rows in the same order or
fail in the same way.
-/
theorem collectFresh_reassociated
    (sources : SourceRows)
    (first second third : Plan)
    {slot next : Nat}
    (separable : third.Separable slot next) :
    ((∃ left, nestedLeft first second third slot next = .ok left) ↔
        ∃ right, nestedRight first second third slot next = .ok right) ∧
      ∀ left right,
        nestedLeft first second third slot next = .ok left →
          nestedRight first second third slot next = .ok right →
            left.bindingSlots = right.bindingSlots ∧
              ∀ (schema : Schema) (query : Query MemoryStore)
                (bindings : Bindings),
                query.store.Reachable schema →
                  query.canceled = false →
                    left.bindingSlots ≤ bindings.reserved →
                      left.collectFresh sources bindings query =
                        right.collectFresh sources bindings query := by
  constructor
  · simp only [nestedLeft_eq_ok_iff, nestedRight_eq_ok_iff]
    constructor
    · rintro ⟨-, keyed, alsoKeyed, -⟩
      exact ⟨_, keyed, alsoKeyed, rfl⟩
    · rintro ⟨-, keyed, alsoKeyed, -⟩
      exact ⟨_, keyed, alsoKeyed, rfl⟩
  · intro left right madeLeft madeRight
    rcases nestedLeft_eq_ok_iff.1 madeLeft with ⟨-, -, rfl⟩
    rcases nestedRight_eq_ok_iff.1 madeRight with ⟨-, -, rfl⟩
    have slots := bindingSlots_reassociated first second third slot next
    refine ⟨slots, ?_⟩
    intro schema query bindings reachable running roomy
    rcases bindingSlots_nestedLoop_le_iff.1 roomy with
      ⟨-, loopRoomy, thirdRoomy⟩
    have inside := (bindingSlots_nestedLoop_le_iff.1 loopRoomy).1
    exact
      collectFresh_congr sources roomy (slots ▸ roomy) running
        reachable.placed
        (obstacle_reassociated query.store first second third slot next)
        fun _ =>
          separable.eval_reassociated sources query.store first second inside
            thirdRoomy

/-- Each row, the rows below it, and each of these once more. -/
theorem collectFresh_reassociated_of_three_scans :
    let group := MemoryStore.Sample.group
    let sources := MemoryStore.Sample.sources
    let all : Plan := .scan ⟨group, .full, .unlimited⟩
    let below : Plan := .scan ⟨group, .positional 0 .deep, .unlimited⟩
    let again : Plan := .scan ⟨group, .positional 1 .shallow, .unlimited⟩
    let left := nestedLoop (nestedLoop all below 0) again 1
    let right := nestedLoop all (nestedLoop below again 1) 0
    again.Separable 0 1 ∧
      nestedLeft all below again 0 1 = .ok left ∧
        nestedRight all below again 0 1 = .ok right ∧
          left.collectFresh sources (.reserve 2) sampleQuery =
              right.collectFresh sources (.reserve 2) sampleQuery ∧
            (left.collectFresh sources (.reserve 2) sampleQuery).toOption =
              some
                [MemoryStore.Sample.customerRow,
                  MemoryStore.Sample.orderRow,
                  MemoryStore.Sample.orderRow] := by
  intro group sources all below again left right
  have separable :
      Separable (.scan ⟨group, .positional 1 .shallow, .unlimited⟩) 0 1 := by
    refine .inr fun free => ?_
    cases free with
    | scan reads =>
        cases reads
  have law := collectFresh_reassociated sources all below again separable
  have same :=
    (law.2 left right rfl rfl).2 MemoryStore.Sample.schema sampleQuery
      (.reserve 2) reachable_sampleQuery rfl (by decide)
  exact ⟨separable, rfl, rfl, same, by decide +kernel⟩

end Plan

end HierQuery
