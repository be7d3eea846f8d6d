import HierQuery.ExecError

/-!
# Which calls a cursor allows

A cursor is opened only when idle, asked for rows only when active, and closed
or destroyed only while it is not destroyed.  A call in a wrong state fails
and names the operator.
-/

namespace HierQuery.CursorState

/-- Fails with the named expectation unless the state meets it. -/
def require
    (state : CursorState)
    (operator expected : String)
    (met : Bool) :
    Except ExecError Unit :=
  if met then
    .ok ()
  else
    .error ⟨.lifecycleViolation expected state, some operator⟩

/-- What opening asks for. -/
def requireIdle
    (state : CursorState)
    (operator : String) :
    Except ExecError Unit :=
  state.require operator "IDLE" (state == idle)

/-- What asking for a row asks for. -/
def requireActive
    (state : CursorState)
    (operator : String) :
    Except ExecError Unit :=
  state.require operator "ACTIVE" (state == active)

/-- What closing and destroying ask for. -/
def requireAlive
    (state : CursorState)
    (operator : String) :
    Except ExecError Unit :=
  state.require operator "IDLE or ACTIVE" (state != destroyed)

@[simp]
theorem requireIdle_idle (operator : String) :
    idle.requireIdle operator = .ok () :=
  rfl

@[simp]
theorem requireActive_active (operator : String) :
    active.requireActive operator = .ok () :=
  rfl

@[simp]
theorem requireAlive_idle (operator : String) :
    idle.requireAlive operator = .ok () :=
  rfl

@[simp]
theorem requireAlive_active (operator : String) :
    active.requireAlive operator = .ok () :=
  rfl

end HierQuery.CursorState
