import HierQuery.Proofs.Plan.Framing
import HierQuery.Proofs.Plan.Likeness

/-!
# Reopening a cursor tree

An idle tree of cursors cannot be told apart from a fresh one of the same
plan, whatever it went through.  From then on both give the same answers, are
in the same states and leave the same query behind.

The trees are compared by a bisimulation put together from those of the
operators.  A life starts with a fresh tree, which is alike itself and stays
so.  This is how a used tree keeps what opening relies on, and it is why a
fresh tree can be made at any later time and is the one that could be made at
first.
-/

namespace HierQuery

open CursorProtocol MemoryStore

/-! ## Calls do not touch the store -/

namespace MemoryStore

/-- The relation between queries over the same store. -/
theorem frame_store {σ : Type} :
    Query.Frame fun before after : Query σ => after.store = before.store where
  refl := fun _ => rfl
  trans := fun earlier later => later.trans earlier
  count := fun _ => rfl
  logged := fun _ _ => rfl

theorem adapter_frames_store (sources : SourceRows) :
    (adapter sources).Frames fun before after =>
      after.store = before.store where
  opens := fun bindings cursor query =>
    (GroupScan.keepsPlace_openWith sources bindings cursor query.store).2.2
  answers := fun cursor query =>
    (GroupScan.keepsPlace_next sources cursor query.store).2.2
  closes := fun cursor query =>
    (GroupScan.keepsPlace_close sources cursor query.store).2.2
  destroys := by
    intro cursor query
    change (GroupCursor.destroy cursor query.store).world = query.store
    rw [GroupCursor.destroy]
    split <;> rfl
  rebinds := by
    intro range cursor query
    change (GroupCursor.rebind range cursor query.store).world = query.store
    rw [GroupCursor.rebind]
    split <;> rfl
  counts := fun _ _ => rfl

/-- An action leaves the store with the groups that it has. -/
theorem contains_perform
    {store : MemoryStore}
    {group : GroupId}
    (present : store.groups.contains group = true)
    (action : Action) :
    (store.perform action).groups.contains group = true := by
  rcases store.perform_cases action with
    ⟨sameGroups, -⟩ | ⟨key, spot, rows, count, replaced, -⟩
  · rw [sameGroups]
    exact present
  · rw [replaced, spot.groups_replace, SortedMap.contains_insert]
    exact .inr present

end MemoryStore

namespace Plan

/-! ## Trees that are alike -/

/-- Trees of cursors that are alike at each operator. -/
def Alike :
    (plan : Plan) → plan.Cursor GroupCursor → plan.Cursor GroupCursor → Prop
  | scan leaf => leaf.Alike
  | count _ => Count.Alike
  | nestedLoop outer inner _ => NestedLoop.Alike outer.Alike inner.Alike

/-- No call tells trees apart that are alike. -/
theorem bisimulation (sources : SourceRows) (plan : Plan) :
    (plan.protocol (adapter sources)).Bisimulation plan.Alike := by
  induction plan with
  | scan leaf =>
      exact leaf.bisimulation sources
  | count leaf =>
      exact leaf.bisimulation (adapter sources)
  | nestedLoop outer inner slot outerBisimulation innerBisimulation =>
      exact NestedLoop.bisimulation outerBisimulation innerBisimulation slot

theorem states_of_alike
    (sources : SourceRows)
    {plan : Plan}
    {first second : plan.Cursor GroupCursor}
    (alike : plan.Alike first second) :
    plan.states (adapter sources) first =
      plan.states (adapter sources) second := by
  induction plan with
  | scan leaf =>
      have storage : first.storage.state = second.storage.state :=
        alike.firstPaired.storage.trans
          (alike.state.trans alike.secondPaired.storage.symm)
      change
        [first.state, first.storage.state] =
          [second.state, second.storage.state]
      rw [alike.state, storage]
  | count leaf =>
      exact congrArg (fun root => [root]) alike.state
  | nestedLoop outer inner slot outerSame innerSame =>
      change
        first.state :: (outer.states _ first.outer ++ inner.states _ first.inner) =
          second.state ::
            (outer.states _ second.outer ++ inner.states _ second.inner)
      rw [alike.state, outerSame alike.outer, innerSame alike.inner]

/-! ## Fresh trees -/

section Fresh

variable
  {sources : SourceRows}
  {query afterwards : Query MemoryStore}

/-- A scan can be begun wherever its group is stored, and always in the same way. -/
theorem newCursor_scan_iff
    {leaf : GroupScan}
    {cursor : GroupScan.Cursor GroupCursor} :
    leaf.newCursor (adapter sources) query = (.ok cursor, afterwards) ↔
      query.store.groups.contains leaf.group.id = true ∧
        cursor = { storage := { group := leaf.group.id } } ∧
          afterwards = query := by
  have stored :
      (adapter sources).newCursor leaf.group query.store =
        ((query.store.rowsIn leaf.group.id).map fun _ =>
            { group := leaf.group.id },
          query.store) :=
    rfl
  rw [GroupScan.newCursor, stored, rowsIn, SortedMap.contains]
  cases query.store.groups.get? leaf.group.id with
  | none =>
      simp [Except.map]
  | some rows =>
      constructor
      · intro made
        cases made
        exact ⟨rfl, rfl, rfl⟩
      · rintro ⟨-, rfl, rfl⟩
        rfl

variable
  {plan : Plan}
  {cursor : plan.Cursor GroupCursor}

/-- A fresh tree is alike itself, and making it does not change the query. -/
theorem alike_newCursor
    (fresh :
      plan.newCursor (adapter sources) query = (.ok cursor, afterwards)) :
    plan.Alike cursor cursor ∧ afterwards = query := by
  induction plan generalizing query afterwards with
  | scan leaf =>
      rcases newCursor_scan_iff.1 fresh with ⟨-, rfl, same⟩
      have paired : leaf.Paired { storage := { group := leaf.group.id } } :=
        ⟨⟨rfl, fun _ => ⟨rfl, rfl⟩⟩, rfl⟩
      exact ⟨paired.alike, same⟩
  | count leaf =>
      cases fresh
      exact ⟨Count.alike_self _, rfl⟩
  | nestedLoop outer inner slot outerFresh innerFresh =>
      rw [newCursor] at fresh
      split at fresh
      next =>
        cases fresh
      next outerCursor between outerMade =>
        split at fresh
        next =>
          cases fresh
        next innerCursor last innerMade =>
          cases fresh
          rcases outerFresh outerMade with ⟨outerAlike, rfl⟩
          rcases innerFresh innerMade with ⟨innerAlike, rfl⟩
          exact ⟨⟨outerAlike, innerAlike, rfl, fun _ => rfl⟩, rfl⟩

/-- Where all groups are still stored, the same fresh tree can be made again. -/
theorem newCursor_again
    (fresh :
      plan.newCursor (adapter sources) query = (.ok cursor, afterwards))
    {later : Query MemoryStore}
    (kept :
      ∀ group, query.store.groups.contains group = true →
        later.store.groups.contains group = true) :
    plan.newCursor (adapter sources) later = (.ok cursor, later) := by
  induction plan generalizing query afterwards with
  | scan leaf =>
      rcases newCursor_scan_iff.1 fresh with ⟨present, same, -⟩
      exact newCursor_scan_iff.2 ⟨kept _ present, same, rfl⟩
  | count leaf =>
      cases fresh
      rfl
  | nestedLoop outer inner slot outerAgain innerAgain =>
      rw [newCursor] at fresh
      split at fresh
      next =>
        cases fresh
      next outerCursor between outerMade =>
        split at fresh
        next =>
          cases fresh
        next innerCursor last innerMade =>
          cases fresh
          cases (alike_newCursor outerMade).2
          rw [newCursor, outerAgain outerMade kept]
          dsimp only
          rw [innerAgain innerMade kept]

end Fresh

/-! ## Lives of trees that are alike -/

/-- What can be seen of a call: its answer, and the states that it leaves the cursors in. -/
structure Observation where
  answer : Except ExecError (Option Row)
  states : List CursorState

/-- What is seen of a happening, if it is a call. -/
def observe
    (sources : SourceRows)
    (plan : Plan)
    (life : plan.Cursor GroupCursor × Query MemoryStore) :
    Happening → Option Observation
  | .call made =>
      let outcome := (plan.protocol (adapter sources)).call made life.1 life.2
      some ⟨outcome.answer, plan.states (adapter sources) outcome.cursor⟩
  | .cancel | .write _ => none

/-- What is seen of all calls while one thing happens after another. -/
def transcript
    (sources : SourceRows)
    (plan : Plan) :
    plan.Cursor GroupCursor × Query MemoryStore → List Happening →
      List Observation
  | _, [] => []
  | life, happening :: happenings =>
      (plan.observe sources life happening).toList ++
        plan.transcript sources (plan.happen sources life happening)
          happenings

variable {plan : Plan}

/-- Trees that are alike go through a happening alike. -/
theorem alike_happen
    (sources : SourceRows)
    {first second : plan.Cursor GroupCursor}
    (alike : plan.Alike first second)
    (query : Query MemoryStore)
    (happening : Happening) :
    plan.observe sources (first, query) happening =
        plan.observe sources (second, query) happening ∧
      ∃ firstLeft secondLeft left,
        plan.happen sources (first, query) happening = (firstLeft, left) ∧
          plan.happen sources (second, query) happening =
              (secondLeft, left) ∧
            plan.Alike firstLeft secondLeft := by
  cases happening with
  | call made =>
      have agree := (plan.bisimulation sources).call made alike query
      rw [observe, observe, happen, happen]
      dsimp only
      generalize (plan.protocol (adapter sources)).call made first query =
        firstOutcome at agree ⊢
      generalize (plan.protocol (adapter sources)).call made second query =
        secondOutcome at agree ⊢
      cases agree with
      | same alike =>
          rw [states_of_alike sources alike]
          exact ⟨rfl, _, _, _, rfl, rfl, alike⟩
  | cancel | write action =>
      exact ⟨rfl, _, _, _, rfl, rfl, alike⟩

/-- Trees that are alike live alike: nothing that is seen of them differs, nor do their queries. -/
theorem alike_live
    (sources : SourceRows)
    {first second : plan.Cursor GroupCursor}
    (alike : plan.Alike first second)
    (query : Query MemoryStore)
    (happenings : List Happening) :
    plan.transcript sources (first, query) happenings =
        plan.transcript sources (second, query) happenings ∧
      (plan.live sources (first, query) happenings).2 =
          (plan.live sources (second, query) happenings).2 ∧
        plan.Alike (plan.live sources (first, query) happenings).1
          (plan.live sources (second, query) happenings).1 := by
  induction happenings generalizing first second query with
  | nil =>
      exact ⟨rfl, rfl, alike⟩
  | cons happening happenings ih =>
      rcases alike_happen sources alike query happening with
        ⟨seen, firstLeft, secondLeft, left, firstGoes, secondGoes, alike⟩
      rcases ih alike left with ⟨transcripts, queries, alike⟩
      rw [transcript, transcript, seen, firstGoes, secondGoes, transcripts]
      rw [live, live, List.foldl_cons, List.foldl_cons, firstGoes,
        secondGoes]
      exact ⟨rfl, queries, alike⟩

/-- What every action on a store keeps, a life keeps: its calls leave the store alone. -/
theorem store_live
    (kept : MemoryStore → Prop)
    (step : ∀ store action, kept store → kept (store.perform action))
    (sources : SourceRows)
    {life : plan.Cursor GroupCursor × Query MemoryStore}
    (start : kept life.2.store)
    (happenings : List Happening) :
    kept (plan.live sources life happenings).2.store := by
  induction happenings generalizing life with
  | nil =>
      exact start
  | cons happening happenings ih =>
      apply ih
      cases happening with
      | call made =>
          have untouched :=
            (plan.frames frame_store (adapter_frames_store sources)).call made
              life.1 life.2
          change
            kept
              ((plan.protocol (adapter sources)).call made life.1
                life.2).world.store
          rw [untouched]
          exact start
      | cancel =>
          exact start
      | write action =>
          exact step _ action start

/-- No life takes a group away from the store. -/
theorem contains_live
    (sources : SourceRows)
    (life : plan.Cursor GroupCursor × Query MemoryStore)
    (happenings : List Happening)
    {group : GroupId}
    (present : life.2.store.groups.contains group = true) :
    (plan.live sources life happenings).2.store.groups.contains group =
      true :=
  store_live (fun store => store.groups.contains group = true)
    (fun _ action present => contains_perform present action) sources present
    happenings

/-- An idle tree that is alike itself and tied is alike any fresh one. -/
theorem alike_of_idle
    {sources : SourceRows}
    {used fresh : plan.Cursor GroupCursor}
    (usedAlike : plan.Alike used used)
    (freshAlike : plan.Alike fresh fresh)
    (usedTied : plan.Tied sources used)
    (freshTied : plan.Tied sources fresh)
    (usedIdle : (plan.protocol (adapter sources)).state used = .idle)
    (freshIdle : (plan.protocol (adapter sources)).state fresh = .idle) :
    plan.Alike used fresh := by
  induction plan with
  | scan leaf =>
      refine ⟨usedAlike.firstPaired, freshAlike.firstPaired,
        usedIdle.trans freshIdle.symm, ?_⟩
      rw [show used.state = .idle from usedIdle]
      exact nofun
  | count leaf =>
      refine ⟨usedIdle.trans freshIdle.symm, ?_⟩
      rw [show used.state = .idle from usedIdle]
      exact nofun
  | nestedLoop outer inner slot outerAlike innerAlike =>
      rcases usedTied.idle usedIdle with ⟨outerUsed, innerUsed⟩
      rcases freshTied.idle freshIdle with ⟨outerFresh, innerFresh⟩
      refine ⟨?_, ?_, usedIdle.trans freshIdle.symm, ?_⟩
      · exact outerAlike usedAlike.outer freshAlike.outer usedTied.outerSound
          freshTied.outerSound outerUsed outerFresh
      · exact innerAlike usedAlike.inner freshAlike.inner usedTied.innerSound
          freshTied.innerSound innerUsed innerFresh
      · rw [show used.state = .idle from usedIdle]
        exact nofun

/--
Whatever a tree of cursors went through, once it is idle it is as good as new:
a fresh tree can be made, and from then on, whatever is called and written,
each call on the used tree answers as it does on the fresh one and leaves the
cursors in the same states, and both leave the same query behind.
-/
theorem indistinguishable_of_idle
    (sources : SourceRows)
    {plan : Plan}
    {query afterwards : Query MemoryStore}
    {cursor : plan.Cursor GroupCursor}
    (made :
      plan.newCursor (adapter sources) query = (.ok cursor, afterwards))
    (past : List Happening)
    (idle :
      (plan.protocol (adapter sources)).state
          (plan.live sources (cursor, afterwards) past).1 =
        .idle) :
    let used := plan.live sources (cursor, afterwards) past
    ∃ fresh,
      plan.newCursor (adapter sources) used.2 = (.ok fresh, used.2) ∧
        ∀ future,
          plan.transcript sources used future =
              plan.transcript sources (fresh, used.2) future ∧
            (plan.live sources used future).2 =
              (plan.live sources (fresh, used.2) future).2 := by
  intro used
  rcases alike_newCursor made with ⟨freshAlike, rfl⟩
  have usedAlike : plan.Alike used.1 used.1 :=
    (alike_live sources freshAlike afterwards past).2.2
  have usedTied : plan.Tied sources used.1 := tied_live made past
  have storage := adapter_conformant sources
  rcases sound_newCursor storage.orderly made with ⟨freshTied, freshIdle⟩
  have again : plan.newCursor (adapter sources) used.2 = (.ok cursor, used.2) :=
    newCursor_again made fun _ => contains_live sources (cursor, afterwards) past
  refine ⟨cursor, again, ?_⟩
  intro future
  have alike : plan.Alike used.1 cursor :=
    alike_of_idle usedAlike freshAlike usedTied freshTied idle freshIdle
  rcases alike_live sources alike used.2 future with ⟨transcripts, queries, -⟩
  exact ⟨transcripts, queries⟩

/-- A loop that was closed early still holds a key in its slot, and yet it is as good as new. -/
theorem indistinguishable_of_closed_loop :
    let sources := MemoryStore.Sample.sources
    let used :=
      samplePlan.live sources (sampleCursor, sampleQuery)
        [.call (.openWith (.reserve 1)), .call .next, .call .close,
          .write (.delete ((HKey.root ⟨1⟩ [.int 1]).child ⟨2⟩ [.int 7]))]
    let future : List Happening :=
      [.call (.openWith (.reserve 1)), .call .next,
        .write (.write MemoryStore.Sample.orderRow), .call .next, .call .next]
    samplePlan.newCursor (adapter sources) sampleQuery =
        (.ok sampleCursor, sampleQuery) ∧
      (samplePlan.protocol (adapter sources)).state used.1 = .idle ∧
        NestedLoop.Cursor.bindings used.1 =
            ⟨[some (.key (.root ⟨1⟩ [.int 1]))]⟩ ∧
          samplePlan.transcript sources used future =
            samplePlan.transcript sources (sampleCursor, used.2) future := by
  intro sources used future
  have made :
      samplePlan.newCursor (adapter sources) sampleQuery =
        (.ok sampleCursor, sampleQuery) :=
    rfl
  have idle :
      (samplePlan.protocol (adapter sources)).state used.1 = .idle := by
    decide +kernel
  rcases indistinguishable_of_idle sources made _ idle with
    ⟨fresh, again, same⟩
  have alsoAgain :
      samplePlan.newCursor (adapter sources) used.2 =
        (.ok sampleCursor, used.2) :=
    newCursor_again made fun _ =>
      contains_live sources (sampleCursor, sampleQuery) _
  have sameFresh : fresh = sampleCursor :=
    Except.ok.inj (congrArg Prod.fst (again.symm.trans alsoAgain))
  refine ⟨made, idle, by decide +kernel, ?_⟩
  rw [← sameFresh]
  exact (same future).1

end Plan

end HierQuery
