import HierQuery.Proofs.Plan.LoopCorrespondence
import HierQuery.Proofs.Plan.Reopening
import HierQuery.Proofs.Store.Correspondence

/-!
# Trees side by side

Two trees of one plan over one memory store are related operator by operator.
How they are may be chosen: which bindings are good for which plan, and which
rows a plan may hand out.  The cursors themselves differ at most in the
bindings that active loops hold.

A fresh tree stands in the relation to itself, and what happens to both trees
keeps them in it.
-/

namespace HierQuery

open CursorProtocol MemoryStore

namespace Plan

variable
  {Given : Plan → Bindings → Bindings → Prop}
  {Handed OtherHanded : Plan → Row → Prop}
  {Failed : ExecError.Cause → Prop}
  {plan : Plan}

/-- The terms of a tree over a memory store, given those for bindings and rows of each plan. -/
def terms
    (Given : Plan → Bindings → Bindings → Prop)
    (Handed : Plan → Row → Prop) :
    (plan : Plan) → Terms (plan.Cursor GroupCursor) (plan.Cursor GroupCursor)
  | scan leaf =>
      GroupScan.terms (cursorTerms leaf.group.id (Handed (scan leaf)))
        (Given (scan leaf))
  | count leaf => Count.terms (Given (count leaf)) (Handed (count leaf))
  | nestedLoop outer inner slot =>
      NestedLoop.terms (outer.terms Given Handed) (inner.terms Given Handed)
        (Given (nestedLoop outer inner slot))
        (Given (nestedLoop outer inner slot)) fun _ _ => True

theorem given_terms (plan : Plan) :
    (plan.terms Given Handed).Given = Given plan := by
  cases plan <;> rfl

/-- Which trees are related does not depend on the rows that they may hand out. -/
theorem cursors_terms
    {first second : plan.Cursor GroupCursor}
    (cursors : (plan.terms Given Handed).Cursors first second) :
    (plan.terms Given OtherHanded).Cursors first second := by
  induction plan with
  | scan leaf =>
      exact ⟨cursors.storage, cursors.state, cursors.range, cursors.tally⟩
  | count leaf =>
      exact cursors
  | nestedLoop outer inner slot outerSame innerSame =>
      exact ⟨outerSame cursors.outer, innerSame cursors.inner, cursors.state,
        trivial, cursors.active⟩

theorem states_of_terms
    (sources : SourceRows)
    {first second : plan.Cursor GroupCursor}
    (cursors : (plan.terms Given Handed).Cursors first second) :
    plan.states (adapter sources) first =
      plan.states (adapter sources) second := by
  induction plan with
  | scan leaf =>
      change
        [first.state, first.storage.state] =
          [second.state, second.storage.state]
      rw [cursors.state, cursors.storage.1]
  | count leaf =>
      exact congrArg (fun cursor : Count.Cursor => [cursor.state]) cursors
  | nestedLoop outer inner slot outerSame innerSame =>
      change
        first.state ::
            (outer.states _ first.outer ++ inner.states _ first.inner) =
          second.state ::
            (outer.states _ second.outer ++ inner.states _ second.inner)
      rw [cursors.state, outerSame cursors.outer, innerSame cursors.inner]

/-- A fresh tree is related to itself, as its loops are not active. -/
theorem terms_newCursor
    {sources : SourceRows}
    {query afterwards : Query MemoryStore}
    {cursor : plan.Cursor GroupCursor}
    (made :
      plan.newCursor (adapter sources) query = (.ok cursor, afterwards)) :
    (plan.terms Given Handed).Cursors cursor cursor := by
  induction plan generalizing query afterwards with
  | scan leaf =>
      rcases newCursor_scan_iff.1 made with ⟨-, rfl, -⟩
      exact ⟨⟨rfl, rfl⟩, rfl, rfl, rfl⟩
  | count leaf =>
      rfl
  | nestedLoop outer inner slot outerFresh innerFresh =>
      rw [newCursor] at made
      split at made
      next =>
        cases made
      next outerCursor between outerMade =>
        split at made
        next =>
          cases made
        next innerCursor last innerMade =>
          cases made
          refine ⟨outerFresh outerMade, innerFresh innerMade, rfl, trivial,
            ?_⟩
          intro active
          cases active

/-- One happening on both sides, where the bindings of an opening may differ. -/
inductive Happening.Paired
    (Given : Bindings → Bindings → Prop) :
    Happening → Happening → Prop
  | call {made also : CursorCall} (paired : made.Paired Given also) :
      Paired Given (.call made) (.call also)
  | cancel : Paired Given .cancel .cancel
  | write (action : MemoryStore.Action) :
      Paired Given (.write action) (.write action)

theorem Happening.paired_self
    {Given : Bindings → Bindings → Prop}
    (given : ∀ bindings, Given bindings bindings)
    (happening : Happening) :
    happening.Paired Given happening := by
  cases happening with
  | call made =>
      exact .call (made.paired_self given)
  | cancel =>
      exact .cancel
  | write action =>
      exact .write action

/-- What happens to both trees looks the same, keeps to the terms and keeps the trees related. -/
theorem happen_terms
    {sources : SourceRows}
    {query : Query MemoryStore}
    (corresponds :
      (plan.protocol (adapter sources)).Corresponds
        (plan.protocol (adapter sources)) (StillQuery query.store) Failed
        (plan.terms Given Handed))
    {cursor other : plan.Cursor GroupCursor}
    (cursors : (plan.terms Given Handed).Cursors cursor other)
    {happening also : Happening}
    (paired : happening.Paired (Given plan) also) :
    plan.observe sources (cursor, query) happening =
        plan.observe sources (other, query) also ∧
      (∀ observation,
          plan.observe sources (cursor, query) happening =
              some observation →
            (∀ row, observation.answer = .ok (some row) →
                (plan.terms Given Handed).Handed row) ∧
              ∀ error, observation.answer = .error error →
                Failed error.cause) ∧
        ∃ cursorLeft otherLeft left,
          plan.happen sources (cursor, query) happening =
              (cursorLeft, left) ∧
            plan.happen sources (other, query) also = (otherLeft, left) ∧
              (plan.terms Given Handed).Cursors cursorLeft otherLeft := by
  cases paired with
  | cancel | write =>
      refine ⟨rfl, ?_, _, _, _, rfl, rfl, cursors⟩
      rintro _ ⟨⟩
  | @call made madeAlso paired =>
      have given :
          made.Paired (plan.terms Given Handed).Given madeAlso := by
        rw [given_terms]
        exact paired
      have called :=
        corresponds.call given cursors
          (show StillQuery query.store query query from ⟨rfl, rfl⟩)
      rw [observe, observe, happen, happen]
      dsimp only
      generalize (plan.protocol (adapter sources)).call made cursor query =
        outcome at called ⊢
      generalize (plan.protocol (adapter sources)).call madeAlso other query =
        otherOutcome at called ⊢
      have sameStates := states_of_terms sources called.cursors
      rcases outcome with ⟨answer, cursorLeft, left⟩
      rcases otherOutcome with ⟨otherAnswer, otherLeft, alsoLeft⟩
      cases called.answer_eq
      cases called.worlds.1
      refine ⟨by rw [sameStates], ?_, _, _, _, rfl, rfl, called.cursors⟩
      rintro _ ⟨⟩
      constructor
      · intro row answered
        exact called.handed answered row rfl
      · intro error fails
        exact called.failed fails

end Plan

end HierQuery
