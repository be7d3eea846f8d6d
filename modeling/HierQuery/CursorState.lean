/-!
# States of a cursor

A cursor is idle until it is opened, active until its rows are used up or it
is closed, and destroyed for good at any time.
-/

namespace HierQuery

/-- The state of a cursor. -/
inductive CursorState
  | idle
  | active
  | destroyed
deriving DecidableEq, Inhabited

namespace CursorState

/-- All states in their fixed order. -/
def all : List CursorState :=
  [idle, active, destroyed]

/-- The name of the state in messages. -/
def render : CursorState → String
  | idle => "IDLE"
  | active => "ACTIVE"
  | destroyed => "DESTROYED"

/-- The state after the rows are used up or the cursor is closed. -/
def deactivate : CursorState → CursorState
  | active => idle
  | state => state

end CursorState

end HierQuery
