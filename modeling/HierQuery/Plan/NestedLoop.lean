import HierQuery.Cursor.Protocol
import HierQuery.Lifecycle
import HierQuery.Query

/-!
# Nested loops

A nested loop runs an inner plan once for each row of an outer plan.  The key
of the outer row is bound to a slot, from which the inner plan may read it;
the rows of the loop are those of all the inner runs, one after another.

The cursor works on bindings of its own, copied when it is opened, so the
caller does not see what the loop binds.  Everything in this module holds of
any two kinds of cursors, whatever plans they belong to.
-/

namespace HierQuery.NestedLoop

/-- The name of the operator in plans and failures. -/
def operatorName : String :=
  "NestedLoopMap"

/-- The cursor of a nested loop over an outer and an inner cursor. -/
structure Cursor (α β : Type) where
  outer : α
  inner : β
  state : CursorState := .idle
  /-- The bindings of the loop, with the key of the last outer row in its slot. -/
  bindings : Bindings := .reserve 0

variable {α β ω σ ρ : Type}

/-- Makes a call on the outer cursor. -/
def Cursor.onOuter
    (call : α → ω → Outcome α ω ρ)
    (cursor : Cursor α β)
    (world : ω) :
    Outcome (Cursor α β) ω ρ :=
  let outcome := call cursor.outer world
  ⟨outcome.answer, { cursor with outer := outcome.cursor }, outcome.world⟩

/-- Makes a call on the inner cursor. -/
def Cursor.onInner
    (call : β → ω → Outcome β ω ρ)
    (cursor : Cursor α β)
    (world : ω) :
    Outcome (Cursor α β) ω ρ :=
  let outcome := call cursor.inner world
  ⟨outcome.answer, { cursor with inner := outcome.cursor }, outcome.world⟩

/-- The cursor when its loop is over. -/
def Cursor.settled (cursor : Cursor α β) : Cursor α β :=
  { cursor with state := cursor.state.deactivate }

/-- Logs a call if the options ask for it. -/
def trace (slot : Nat) (event : Event) (query : Query σ) : Query σ :=
  query.trace event operatorName ("$" ++ Nat.repr slot)

variable
  (outer : CursorProtocol α (Query σ))
  (inner : CursorProtocol β (Query σ))
  (slot : Nat)

/-- Opens the outer cursor with a copy of the bindings, in which the slot must exist. -/
def openWith
    (bindings : Bindings)
    (cursor : Cursor α β)
    (query : Query σ) :
    Outcome (Cursor α β) (Query σ) Unit :=
  match cursor.state.requireIdle operatorName with
  | .error error => .fail error cursor query
  | .ok () =>
      if slot < bindings.reserved then
        (Cursor.onOuter (outer.openWith bindings) { cursor with bindings }
          query).andThen fun () cursor query =>
            .pure () { cursor with state := .active }
              (trace slot .cursorOpen (query.count .cursorsOpened))
      else
        .fail
          ⟨.bindingOutOfRange slot bindings.reserved, some operatorName⟩
          cursor query

/-- Closes both cursors after a failure, which stays the answer. -/
def abort
    (error : ExecError)
    (cursor : Cursor α β)
    (query : Query σ) :
    Outcome (Cursor α β) (Query σ) ρ :=
  let innerClosed := cursor.onInner inner.closeActive query
  let outerClosed :=
    innerClosed.cursor.onOuter outer.closeActive innerClosed.world
  .fail (error.within operatorName) outerClosed.cursor.settled outerClosed.world

/-- Closes both cursors; the failure of the inner one is told first. -/
def release
    (cursor : Cursor α β)
    (query : Query σ) :
    Outcome (Cursor α β) (Query σ) Unit :=
  let innerClosed := cursor.onInner inner.closeActive query
  let outerClosed := innerClosed.cursor.onOuter outer.close innerClosed.world
  ⟨innerClosed.answer.bind fun () => outerClosed.answer,
    outerClosed.cursor.settled, outerClosed.world⟩

/-- Binds the key of an outer row and opens the inner cursor. -/
def startInner
    (row : Row)
    (cursor : Cursor α β)
    (query : Query σ) :
    Outcome (Cursor α β) (Query σ) Unit :=
  match row.key? with
  | none =>
      .fail (.argument operatorName (.keylessOuterRow row.render)) cursor query
  | some key =>
      match cursor.bindings.set slot (.key key) with
      | .error error => .fail error cursor query
      | .ok bindings =>
          Cursor.onInner (inner.openWith bindings) { cursor with bindings } query

/-- What one round of the loop comes to. -/
inductive Round
  /-- The inner cursor had a row. -/
  | row (row : Row)
  /-- The inner cursor was opened for the next outer row. -/
  | opened
  /-- There are no more outer rows. -/
  | ended
deriving DecidableEq

/-- Takes the next outer row and opens the inner cursor for it. -/
def takeOuter
    (cursor : Cursor α β)
    (query : Query σ) :
    Outcome (Cursor α β) (Query σ) Round :=
  (cursor.onOuter outer.next query).andThen fun row? cursor query =>
    match row? with
    | none => .pure .ended cursor query
    | some row =>
        (startInner inner slot row cursor query).map fun () => .opened

/-- Takes the next inner row if the inner cursor is active, else the next outer row. -/
def round
    (cursor : Cursor α β)
    (query : Query σ) :
    Outcome (Cursor α β) (Query σ) Round :=
  if inner.state cursor.inner = .active then
    (cursor.onInner inner.next query).andThen fun row? cursor query =>
      match row? with
      | some row => .pure (.row row) cursor query
      | none => takeOuter outer inner slot cursor query
  else
    takeOuter outer inner slot cursor query

/--
Goes round until there is a row, the outer rows are used up or a round fails.
As each round but the last takes an outer row, the outer cursor's bound on its
rows is a bound on the rounds; a loop that exceeds it is closed.
-/
def advance :
    Nat → Cursor α β → Query σ → Outcome (Cursor α β) (Query σ) (Option Row)
  | 0, cursor, query =>
      (release outer inner cursor query).map fun () => none
  | rounds + 1, cursor, query =>
      let outcome := round outer inner slot cursor query
      match outcome.answer with
      | .error error => abort outer inner error outcome.cursor outcome.world
      | .ok (.row row) => .pure (some row) outcome.cursor outcome.world
      | .ok .opened => advance rounds outcome.cursor outcome.world
      | .ok .ended =>
          .pure none outcome.cursor.settled
            (trace slot .endOfStream outcome.world)

/-- The next row of an active loop. -/
def next
    (cursor : Cursor α β)
    (query : Query σ) :
    Outcome (Cursor α β) (Query σ) (Option Row) :=
  match cursor.state.requireActive operatorName with
  | .error error => .fail error cursor query
  | .ok () =>
      match query.checkCancellation with
      | (.error error, query) => abort outer inner error cursor query
      | (.ok (), query) =>
          advance outer inner slot (outer.rowBound query + 1) cursor query

/-- Ends an active loop; an idle one is left alone. -/
def close
    (cursor : Cursor α β)
    (query : Query σ) :
    Outcome (Cursor α β) (Query σ) Unit :=
  match cursor.state.requireAlive operatorName with
  | .error error => .fail error cursor query
  | .ok () =>
      if cursor.state = .active then
        let released := release outer inner cursor query
        { released with world := trace slot .cursorClose released.world }
      else
        .pure () cursor query

/-- Destroys both cursors and then the loop's own; the failure of the inner one is told first. -/
def destroy
    (cursor : Cursor α β)
    (query : Query σ) :
    Outcome (Cursor α β) (Query σ) Unit :=
  match cursor.state.requireAlive operatorName with
  | .error error => .fail error cursor query
  | .ok () =>
      let innerGone :=
        Cursor.onInner inner.destroy { cursor with state := .destroyed } query
      let outerGone := innerGone.cursor.onOuter outer.destroy innerGone.world
      ⟨innerGone.answer.bind fun () => outerGone.answer,
        outerGone.cursor,
        trace slot .cursorDestroy (outerGone.world.count .cursorsDestroyed)⟩

/-- The calls on the cursor of a nested loop. -/
def protocol : CursorProtocol (Cursor α β) (Query σ) where
  state := Cursor.state
  openWith := openWith outer slot
  next := next outer inner slot
  close := close outer inner slot
  destroy := destroy outer inner slot
  rowBound := fun query => (outer.rowBound query + 1) * inner.rowBound query

end HierQuery.NestedLoop
