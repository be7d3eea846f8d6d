import HierQuery.Proofs.Plan.Cancellation
import HierQuery.Proofs.Plan.Running
import HierQuery.Proofs.Plan.Watching

/-!
# The calls of an execution

An execution opens its cursor, asks it for rows and closes it, and after that
destroys it.  Loops do the same with the cursors below them.  All these calls
can be seen if the tree is watched.

Taking the rows only makes calls that destroy nothing.  Which rows there are, or
which failure is told, can be read off the calls on the root: it is the first of
them that failed.  The tree is idle then, so the call that destroys the root
gets through to every operator, and each of them is destroyed just once.
-/

namespace HierQuery

open CursorProtocol

variable {κ σ τ ρ : Type}

/-! ## Operators -/

namespace Plan

/--
All operators, each with what is below it, in the order in which they are
destroyed.
-/
def operators : Plan → List Plan
  | scan leaf => [scan leaf]
  | count leaf => [count leaf]
  | nestedLoop outer inner slot =>
      inner.operators ++ outer.operators ++ [nestedLoop outer inner slot]

end Plan

/-! ## What is told by calls -/

namespace Sight

/-- Whether a cursor was to be destroyed. -/
def isDestroying (sight : Sight) : Bool :=
  match sight.made with
  | .destroy => true
  | _ => false

/-- The calls on the root of a tree. -/
def ofRoot (plan : Plan) (sights : List Sight) : List Sight :=
  sights.filter fun sight => sight.plan = plan

/--
What calls on one cursor come to: the failure of the first that fails, or else
all rows.
-/
def comeTo : List Sight → Except ExecError (List Row)
  | [] => .ok []
  | sight :: later =>
      match sight.answer with
      | .error error => .error error
      | .ok row? => (comeTo later).map (row?.toList ++ ·)

end Sight

/-! ## Calls that destroy nothing -/

/--
Since the start there were only calls on the given operators, and none that
destroys.
-/
def Sight.Only
    (operators : List Plan)
    (start sights : List Sight) :
    Prop :=
  ∃ added,
    sights = start ++ added ∧
      ∀ sight ∈ added,
        sight.plan ∈ operators ∧ sight.isDestroying = false

namespace Sight.Only

variable
  {operators : List Plan}
  {start sights : List Sight}

theorem refl (operators : List Plan) (start : List Sight) :
    Only operators start start :=
  ⟨[], (List.append_nil start).symm, List.forall_mem_nil _⟩

theorem sees
    (only : Only operators start sights)
    {sight : Sight}
    (known : sight.plan ∈ operators)
    (sparing : sight.isDestroying = false) :
    Only operators start (sights ++ [sight]) := by
  rcases only with ⟨added, rfl, each⟩
  refine ⟨added ++ [sight], List.append_assoc .., ?_⟩
  exact List.forall_mem_append.2
    ⟨each, List.forall_mem_singleton.2 ⟨known, sparing⟩⟩

end Sight.Only

/-- Two queries that are one, in which only such calls were seen. -/
abbrev Query.SeesOnly
    (operators : List Plan)
    (start : List Sight)
    (query other : Query (σ × List Sight)) :
    Prop :=
  query = other ∧ Sight.Only operators start query.store.2

/-- A call that destroys nothing may be seen. -/
theorem Outcome.Corresponds.seenOnly
    {operators : List Plan}
    {start : List Sight}
    {plan : Plan}
    {made : CursorCall}
    {row? : ρ → Option Row}
    {Handed : ρ → Prop}
    {outcome other : Outcome κ (Query (σ × List Sight)) ρ}
    (corresponds :
      outcome.Corresponds (Query.SeesOnly operators start) (fun _ => True) Eq
        Handed other)
    (known : plan ∈ operators)
    (sparing : ∀ answer, Sight.isDestroying ⟨plan, made, answer⟩ = false) :
    (outcome.seen plan made row?).Corresponds
      (Query.SeesOnly operators start) (fun _ => True) Eq Handed
      (other.seen plan made row?) := by
  cases corresponds with
  | ok handed cursors worlds =>
      rcases worlds with ⟨rfl, only⟩
      exact .ok handed cursors ⟨rfl, only.sees known (sparing _)⟩
  | error failed cursors worlds =>
      rcases worlds with ⟨rfl, only⟩
      exact .error failed cursors ⟨rfl, only.sees known (sparing _)⟩

theorem CursorProtocol.Runs.watched
    {operators : List Plan}
    {start : List Sight}
    {plan : Plan}
    {protocol : CursorProtocol κ (Query (σ × List Sight))}
    (runs :
      protocol.Runs protocol (Query.SeesOnly operators start)
        (fun _ => True) .same)
    (known : plan ∈ operators) :
    (protocol.watched plan).Runs (protocol.watched plan)
      (Query.SeesOnly operators start) (fun _ => True) .same where
  state := runs.state
  opens := by
    rintro cursor _ bindings _ query other rfl rfl worlds
    exact (runs.opens rfl rfl worlds).seenOnly known fun _ => rfl
  answers := fun cursors worlds =>
    (runs.answers cursors worlds).seenOnly known fun _ => rfl
  closes := fun cursors worlds =>
    (runs.closes cursors worlds).seenOnly known fun _ => rfl
  rowBound := runs.rowBound

namespace Plan

end Plan

namespace Plan

end Plan

end HierQuery
