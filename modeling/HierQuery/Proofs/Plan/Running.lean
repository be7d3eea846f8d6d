import HierQuery.Execution
import HierQuery.Proofs.Plan.Lifecycle

/-!
# Running plans

An execution makes a cursor, collects its rows and destroys it.  Collecting is
made of calls, so it keeps the cursor sound, and what it leaves behind can be
destroyed.  Hence the execution answers what the plan means and nothing else.
-/

namespace HierQuery

namespace CursorProtocol

variable
  {κ ω : Type}
  {protocol : CursorProtocol κ ω}
  {Sound : κ → Prop}
  {sure : Prop}
  {operator : String}

theorem Conformant.sound_drain
    (conformant : protocol.Conformant Sound sure)
    (guarded : protocol.Guarded operator)
    (calls : Nat)
    {cursor : κ}
    (sound : Sound cursor)
    (world : ω) :
    Sound (protocol.drain calls cursor world).cursor := by
  induction calls generalizing cursor world with
  | zero =>
      exact sound
  | succ calls ih =>
      have soundNext : Sound (protocol.next cursor world).cursor :=
        conformant.sound_call guarded .next sound world
      rw [drain]
      generalize protocol.next cursor world = outcome at soundNext ⊢
      rcases outcome with ⟨error | row?, next, after⟩
      · exact soundNext
      · cases row? with
        | none =>
            exact soundNext
        | some row =>
            exact ih soundNext after

/-- Collecting the rows of a cursor keeps it sound. -/
theorem Conformant.sound_collect
    (conformant : protocol.Conformant Sound sure)
    (guarded : protocol.Guarded operator)
    (bindings : Bindings)
    {cursor : κ}
    (sound : Sound cursor)
    (world : ω) :
    Sound (protocol.collect bindings cursor world).cursor := by
  have soundOpen : Sound (protocol.openWith bindings cursor world).cursor :=
    conformant.sound_call guarded (.openWith bindings) sound world
  rw [collect]
  generalize protocol.openWith bindings cursor world = outcome
    at soundOpen ⊢
  rcases outcome with ⟨error | _, opened, after⟩
  · exact soundOpen
  · have soundClosed :=
      conformant.sound_call guarded .close
        (conformant.sound_drain guarded (protocol.rowBound after + 1)
          soundOpen after)
        (protocol.drain (protocol.rowBound after + 1) opened after).world
    rw [Outcome.andThen]
    dsimp only
    split <;> exact soundClosed

end CursorProtocol

namespace Execution

/-- An execution over a memory store answers with what the plan means. -/
theorem answer_run
    (sources : SourceRows)
    {plan : Plan}
    {bindings : Bindings}
    (roomy : plan.bindingSlots ≤ bindings.reserved)
    {query : Query MemoryStore}
    (running : query.canceled = false)
    (placed : query.store.Placed)
    (built : plan.Over query.store.schema) :
    (run (MemoryStore.adapter sources) plan bindings query).answer =
      (plan.eval sources query.store bindings).answer := by
  let adapter := MemoryStore.adapter sources
  let observed := query.logged (scopeOf plan query).started
  have placedThen : observed.store.Placed := placed
  have runningThen : observed.canceled = false := running
  have storage := MemoryStore.adapter_conformant sources
  have conformant := plan.conformant storage
  have guarded := plan.guarded adapter
  rcases Plan.newCursor_eq_ok sources placedThen built with
    ⟨cursor, made, ready⟩
  rcases Plan.collect_of_ready sources roomy runningThen placedThen ready with
    ⟨answer, idle, -⟩
  have sound : plan.Sound adapter (fun _ => True) cursor :=
    (Plan.sound_newCursor storage.orderly made).1
  have soundCollected :=
    conformant.sound_collect guarded bindings sound observed
  have alive :
      (plan.protocol adapter).state
          ((plan.protocol adapter).collect bindings cursor observed).cursor ≠
        .destroyed :=
    CursorState.alive_of_idle idle
  have destroyed :
      ((plan.protocol adapter).destroy
          ((plan.protocol adapter).collect bindings cursor observed).cursor
          ((plan.protocol adapter).collect bindings cursor
            observed).world).answer = .ok () :=
    (conformant.destroys soundCollected alive).succeeds trivial
  have driven :
      run adapter plan bindings query =
        drive (plan.protocol adapter) bindings (scopeOf plan query) cursor
          observed := by
    rw [run, runBy, made]
  rw [driven, drive, destroyed, ← show observed.store = query.store from rfl, ← answer]
  cases ((plan.protocol adapter).collect bindings cursor observed).answer <;>
    rfl

end Execution

end HierQuery
