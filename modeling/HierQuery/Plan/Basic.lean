import HierQuery.Plan.Count
import HierQuery.Plan.GroupScan
import HierQuery.Plan.NestedLoop

/-!
# Plans

A plan is a tree of operators: scans and counts at the leaves, nested loops
inside.  A plan is plain data and never changes; running it goes through a
tree of cursors of the same shape, each with a state of its own.
-/

namespace HierQuery

/-- What a query is to compute. -/
inductive Plan
  | scan (scan : GroupScan)
  | count (count : Count)
  /-- Runs `inner` for each row of `outer`, with the key of the row in a slot. -/
  | nestedLoop (outer inner : Plan) (slot : Nat)
deriving DecidableEq

namespace Plan

/-- The type of the rows that the plan yields. -/
def rowType : Plan → RowType
  | scan leaf => leaf.group.rowType
  | count leaf => leaf.output
  | nestedLoop _ inner _ => inner.rowType

/-- The name of the operator at the root. -/
def name : Plan → String
  | scan _ => GroupScan.operatorName
  | count _ => Count.operatorName
  | nestedLoop _ _ _ => NestedLoop.operatorName

/-- The plan in one line. -/
def render : Plan → String
  | scan leaf => leaf.render
  | count leaf => leaf.render
  | nestedLoop outer inner slot =>
      NestedLoop.operatorName ++ "($" ++ Nat.repr slot ++ ", " ++
        outer.render ++ ", " ++ inner.render ++ ")"

/-- The number of binding slots that the plan needs. -/
def bindingSlots : Plan → Nat
  | scan leaf => leaf.mode.bindingSlots
  | count _ => 0
  | nestedLoop outer inner slot =>
      max (max (slot + 1) outer.bindingSlots) inner.bindingSlots

/-- The row types that counts of the plan introduce, from left to right. -/
def outputs : Plan → List RowType
  | scan _ => []
  | count leaf => [leaf.output]
  | nestedLoop outer inner _ => outer.outputs ++ inner.outputs

/-- The introduced row types, each once, in the order of their numbers. -/
def derivedTypes (plan : Plan) : List RowType :=
  plan.outputs.eraseDups.mergeSort fun first second =>
    first.typeId ≤ second.typeId

/-- A nested loop.  Its outer plan must yield rows that may have keys. -/
def nested (outer inner : Plan) (slot : Nat) : Except ExecError Plan :=
  if outer.rowType.kind = .values then
    .error (.argument NestedLoop.operatorName (.unboundOuter outer.rowType))
  else
    .ok (nestedLoop outer inner slot)

/-- Empty bindings with all slots that the plan needs. -/
def emptyBindings (plan : Plan) : Bindings :=
  .reserve plan.bindingSlots

/-- The cursors of a plan over storage cursors of type `κ`. -/
def Cursor (κ : Type) : Plan → Type
  | scan _ => GroupScan.Cursor κ
  | count _ => Count.Cursor
  | nestedLoop outer inner _ =>
      NestedLoop.Cursor (outer.Cursor κ) (inner.Cursor κ)

variable {κ σ : Type}

/-- A fresh tree of idle cursors; the cursors of the outer plan come first. -/
def newCursor
    (adapter : StoreAdapter κ σ) :
    (plan : Plan) → Query σ → Except ExecError (plan.Cursor κ) × Query σ
  | scan leaf, query => leaf.newCursor adapter query
  | count _, query => (.ok ({} : Count.Cursor), query)
  | nestedLoop outer inner _, query =>
      match outer.newCursor adapter query with
      | (.error error, query) => (.error error, query)
      | (.ok outerCursor, query) =>
          match inner.newCursor adapter query with
          | (.error error, query) => (.error error, query)
          | (.ok innerCursor, query) =>
              (.ok (⟨outerCursor, innerCursor, .idle, .reserve 0⟩ :
                NestedLoop.Cursor (outer.Cursor κ) (inner.Cursor κ)), query)

/-- The calls on the cursors of a plan. -/
def protocol
    (adapter : StoreAdapter κ σ) :
    (plan : Plan) → CursorProtocol (plan.Cursor κ) (Query σ)
  | scan leaf => leaf.protocol adapter
  | count leaf => leaf.protocol adapter
  | nestedLoop outer inner slot =>
      NestedLoop.protocol (outer.protocol adapter) (inner.protocol adapter) slot

end Plan

end HierQuery
