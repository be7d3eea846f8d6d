import HierQuery.Bindings
import HierQuery.CursorState
import HierQuery.Row

/-!
# The cursor protocol

A cursor hands out the rows of a stream one at a time.  It is opened with
bindings, asked for rows until there are none, closed, and at last destroyed.

The calls on a kind of cursor are given as functions: a call takes the cursor
and the world around it, and answers with both as they are afterwards.  A call
that fails may still have changed them, so the answer and the changes stand
side by side.
-/

namespace HierQuery

/-- What a call on a cursor answers, and the cursor and the world after it. -/
structure Outcome (κ ω α : Type) where
  answer : Except ExecError α
  cursor : κ
  world : ω

namespace Outcome

variable {κ ω α β : Type}

/-- A call that succeeds and changes nothing more. -/
def pure (value : α) (cursor : κ) (world : ω) : Outcome κ ω α :=
  ⟨.ok value, cursor, world⟩

/-- A call that fails and changes nothing more. -/
def fail (error : ExecError) (cursor : κ) (world : ω) : Outcome κ ω α :=
  ⟨.error error, cursor, world⟩

/-- Goes on with a second call if the first one succeeded. -/
def andThen
    (outcome : Outcome κ ω α)
    (next : α → κ → ω → Outcome κ ω β) :
    Outcome κ ω β :=
  match outcome.answer with
  | .ok value => next value outcome.cursor outcome.world
  | .error error => fail error outcome.cursor outcome.world

/-- Changes the value of a call that succeeded. -/
def map (change : α → β) (outcome : Outcome κ ω α) : Outcome κ ω β :=
  ⟨outcome.answer.map change, outcome.cursor, outcome.world⟩

@[simp]
theorem andThen_pure
    (value : α)
    (cursor : κ)
    (world : ω)
    (next : α → κ → ω → Outcome κ ω β) :
    (pure value cursor world).andThen next = next value cursor world :=
  rfl

@[simp]
theorem andThen_fail
    (error : ExecError)
    (cursor : κ)
    (world : ω)
    (next : α → κ → ω → Outcome κ ω β) :
    (fail error cursor world).andThen next = fail error cursor world :=
  rfl

@[simp]
theorem map_pure
    (change : α → β)
    (value : α)
    (cursor : κ)
    (world : ω) :
    (pure value cursor world).map change = pure (change value) cursor world :=
  rfl

@[simp]
theorem map_fail
    (change : α → β)
    (error : ExecError)
    (cursor : κ)
    (world : ω) :
    (fail error cursor world).map change = fail error cursor world :=
  rfl

end Outcome

/-- The calls on one kind of cursor. -/
structure CursorProtocol (κ ω : Type) where
  /-- The state of a cursor. -/
  state : κ → CursorState
  /-- Positions an idle cursor before its first row. -/
  openWith : Bindings → κ → ω → Outcome κ ω Unit
  /-- The next row of an active cursor; after the last row nothing, and the cursor is idle. -/
  next : κ → ω → Outcome κ ω (Option Row)
  /-- Makes an active cursor idle again. -/
  close : κ → ω → Outcome κ ω Unit
  /-- Ends the life of a cursor. -/
  destroy : κ → ω → Outcome κ ω Unit
  /-- The most rows that a cursor still hands out in a world that nothing else changes. -/
  rowBound : ω → Nat

namespace CursorProtocol

variable {κ ω : Type}

/-- Closes a cursor if it is active. -/
def closeActive
    (protocol : CursorProtocol κ ω)
    (cursor : κ)
    (world : ω) :
    Outcome κ ω Unit :=
  if protocol.state cursor = .active then
    protocol.close cursor world
  else
    .pure () cursor world

/-- The rows of an active cursor up to its end, asked for at most the given number of times. -/
def drain
    (protocol : CursorProtocol κ ω) :
    Nat → κ → ω → Outcome κ ω (List Row)
  | 0, cursor, world => .pure [] cursor world
  | calls + 1, cursor, world =>
      (protocol.next cursor world).andThen fun row? cursor world =>
        match row? with
        | none => .pure [] cursor world
        | some row => (protocol.drain calls cursor world).map (row :: ·)

/--
Opens a cursor, takes all its rows and leaves it idle.  If a row cannot be
had, the cursor is closed and the failure is the answer, whatever closing
says.
-/
def collect
    (protocol : CursorProtocol κ ω)
    (bindings : Bindings)
    (cursor : κ)
    (world : ω) :
    Outcome κ ω (List Row) :=
  (protocol.openWith bindings cursor world).andThen fun () cursor world =>
    let drained := protocol.drain (protocol.rowBound world + 1) cursor world
    let closed := protocol.close drained.cursor drained.world
    match drained.answer with
    | .ok rows => closed.map fun () => rows
    | .error error => .fail error closed.cursor closed.world

end CursorProtocol

end HierQuery
