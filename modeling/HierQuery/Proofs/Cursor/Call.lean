import HierQuery.Cursor.Protocol
import HierQuery.Lifecycle

/-!
# Calls in the life of a cursor

The four calls on a cursor are taken together, so that a life of a cursor is
a list of calls.  A table says for each call and each state what the call may
answer and in which state it leaves the cursor.

A protocol is conformant if its calls keep to the table wherever they are
allowed and keep its cursors sound.  What sound means is up to the protocol;
for a tree of cursors it ties the states of the cursors together.
-/

namespace HierQuery

namespace CursorState

theorem requireIdle_of_ne
    {state : CursorState}
    (notIdle : state ≠ idle)
    (operator : String) :
    state.requireIdle operator =
      .error ⟨.lifecycleViolation "IDLE" state, some operator⟩ := by
  cases state with
  | idle =>
      exact (notIdle rfl).elim
  | active | destroyed =>
      rfl

theorem requireActive_of_ne
    {state : CursorState}
    (notActive : state ≠ active)
    (operator : String) :
    state.requireActive operator =
      .error ⟨.lifecycleViolation "ACTIVE" state, some operator⟩ := by
  cases state with
  | active =>
      exact (notActive rfl).elim
  | idle | destroyed =>
      rfl

theorem requireAlive_of_ne
    {state : CursorState}
    (alive : state ≠ destroyed)
    (operator : String) :
    state.requireAlive operator = .ok () := by
  cases state with
  | idle | active =>
      rfl
  | destroyed =>
      exact (alive rfl).elim

theorem alive_of_idle
    {state : CursorState}
    (isIdle : state = idle) :
    state ≠ destroyed := by
  rw [isIdle]
  intro same
  cases same

theorem alive_of_active
    {state : CursorState}
    (isActive : state = active) :
    state ≠ destroyed := by
  rw [isActive]
  intro same
  cases same

theorem eq_idle_of_ne
    {state : CursorState}
    (alive : state ≠ destroyed)
    (notActive : state ≠ active) :
    state = idle := by
  cases state with
  | idle =>
      rfl
  | active =>
      exact (notActive rfl).elim
  | destroyed =>
      exact (alive rfl).elim

end CursorState

/-- A call on a cursor. -/
inductive CursorCall
  | openWith (bindings : Bindings)
  | next
  | close
  | destroy

namespace CursorCall

/-- The states in which a call is allowed, as refusals name them. -/
def expected : CursorCall → String
  | openWith _ => "IDLE"
  | next => "ACTIVE"
  | close | destroy => "IDLE or ACTIVE"

/-- The states in which a call is allowed. -/
def AllowedIn : CursorCall → CursorState → Prop
  | openWith _, state => state = .idle
  | next, state => state = .active
  | close, state | destroy, state => state ≠ .destroyed

/-- The failure of a call that the state of the cursor does not allow. -/
def refusal
    (made : CursorCall)
    (state : CursorState)
    (operator : String) :
    ExecError :=
  ⟨.lifecycleViolation made.expected state, some operator⟩

@[simp]
theorem render_code_refusal
    (made : CursorCall)
    (state : CursorState)
    (operator : String) :
    (made.refusal state operator).code.render = "HKX_LIFECYCLE_VIOLATION" :=
  rfl

end CursorCall

namespace CursorProtocol

variable {κ ω : Type}

/-- Makes a call; only a call for a row can answer with one. -/
def call
    (protocol : CursorProtocol κ ω)
    (call : CursorCall)
    (cursor : κ)
    (world : ω) :
    Outcome κ ω (Option Row) :=
  match call with
  | .openWith bindings =>
      (protocol.openWith bindings cursor world).map fun () => none
  | .next => protocol.next cursor world
  | .close => (protocol.close cursor world).map fun () => none
  | .destroy => (protocol.destroy cursor world).map fun () => none

/--
The table of calls and states.  A call that is not allowed is refused in the
name of the operator and changes nothing at all, and closing an idle cursor
changes nothing either.
-/
def Conforms
    (protocol : CursorProtocol κ ω)
    (operator : String)
    (made : CursorCall)
    (cursor : κ)
    (world : ω) :
    Prop :=
  let outcome := protocol.call made cursor world
  let after := protocol.state outcome.cursor
  match made, protocol.state cursor with
  | .openWith _, .idle =>
      outcome.answer = .ok none ∧ after = .active ∨
        (∃ error, outcome.answer = .error error) ∧ after = .idle
  | .next, .active =>
      (∃ row, outcome.answer = .ok (some row)) ∧ after = .active ∨
        (outcome.answer = .ok none ∨
            ∃ error, outcome.answer = .error error) ∧
          after = .idle
  | .close, .idle => outcome = .pure none cursor world
  | .close, .active => outcome.answer = .ok none ∧ after = .idle
  | .destroy, .idle | .destroy, .active =>
      outcome.answer = .ok none ∧ after = .destroyed
  | _, state => outcome = .fail (made.refusal state operator) cursor world

/-! ## Conformant protocols

Conforming to the table falls into two parts: what the allowed calls do, which
depends on the cursors below, and what is refused, which depends on the state
alone.
-/

/-- What opening an idle cursor may come to. -/
inductive AfterOpen
    (protocol : CursorProtocol κ ω)
    (Sound : κ → Prop) :
    Outcome κ ω Unit → Prop
  | opened
      {cursor : κ}
      {world : ω}
      (sound : Sound cursor)
      (active : protocol.state cursor = .active) :
      AfterOpen protocol Sound (.pure () cursor world)
  | failed
      {error : ExecError}
      {cursor : κ}
      {world : ω}
      (sound : Sound cursor)
      (idle : protocol.state cursor = .idle) :
      AfterOpen protocol Sound (.fail error cursor world)

/-- What asking an active cursor for a row may come to. -/
inductive AfterNext
    (protocol : CursorProtocol κ ω)
    (Sound : κ → Prop) :
    Outcome κ ω (Option Row) → Prop
  | row
      {row : Row}
      {cursor : κ}
      {world : ω}
      (sound : Sound cursor)
      (active : protocol.state cursor = .active) :
      AfterNext protocol Sound (.pure (some row) cursor world)
  | ended
      {cursor : κ}
      {world : ω}
      (sound : Sound cursor)
      (idle : protocol.state cursor = .idle) :
      AfterNext protocol Sound (.pure none cursor world)
  | failed
      {error : ExecError}
      {cursor : κ}
      {world : ω}
      (sound : Sound cursor)
      (idle : protocol.state cursor = .idle) :
      AfterNext protocol Sound (.fail error cursor world)

/-- A cursor that has no row any more is idle. -/
theorem AfterNext.idle_of_ended
    {protocol : CursorProtocol κ ω}
    {Sound : κ → Prop}
    {outcome : Outcome κ ω (Option Row)}
    (answers : AfterNext protocol Sound outcome)
    (ended : outcome.answer = .ok none) :
    Sound outcome.cursor ∧ protocol.state outcome.cursor = .idle := by
  cases answers with
  | row =>
      cases ended
  | ended sound idle =>
      exact ⟨sound, idle⟩
  | failed =>
      cases ended

/-- What closing or destroying a living cursor comes to; if the protocol is sure, it succeeds. -/
structure AfterEnd
    (protocol : CursorProtocol κ ω)
    (Sound : κ → Prop)
    (sure : Prop)
    (state : CursorState)
    (outcome : Outcome κ ω Unit) :
    Prop where
  sound : Sound outcome.cursor
  state : protocol.state outcome.cursor = state
  succeeds : sure → outcome.answer = .ok ()

/-- The allowed calls do what they should and keep cursors sound. -/
structure Conformant
    (protocol : CursorProtocol κ ω)
    (Sound : κ → Prop)
    (sure : Prop) :
    Prop where
  opens :
    ∀ {bindings cursor world}, Sound cursor →
      protocol.state cursor = .idle →
        AfterOpen protocol Sound (protocol.openWith bindings cursor world)
  answers :
    ∀ {cursor world}, Sound cursor → protocol.state cursor = .active →
      AfterNext protocol Sound (protocol.next cursor world)
  closes :
    ∀ {cursor world}, Sound cursor → protocol.state cursor ≠ .destroyed →
      AfterEnd protocol Sound sure .idle (protocol.close cursor world)
  destroys :
    ∀ {cursor world}, Sound cursor → protocol.state cursor ≠ .destroyed →
      AfterEnd protocol Sound sure .destroyed
        (protocol.destroy cursor world)

/--
Calls that are not allowed are refused in the name of the operator and change
nothing, and closing an idle cursor changes nothing either.
-/
structure Guarded
    (protocol : CursorProtocol κ ω)
    (operator : String) :
    Prop where
  opens :
    ∀ {bindings cursor world}, protocol.state cursor ≠ .idle →
      protocol.openWith bindings cursor world =
        .fail
          (CursorCall.refusal (.openWith bindings) (protocol.state cursor)
            operator)
          cursor world
  answers :
    ∀ {cursor world}, protocol.state cursor ≠ .active →
      protocol.next cursor world =
        .fail (CursorCall.refusal .next (protocol.state cursor) operator)
          cursor world
  closes :
    ∀ {cursor world}, protocol.state cursor = .destroyed →
      protocol.close cursor world =
        .fail (CursorCall.refusal .close .destroyed operator) cursor world
  destroys :
    ∀ {cursor world}, protocol.state cursor = .destroyed →
      protocol.destroy cursor world =
        .fail (CursorCall.refusal .destroy .destroyed operator) cursor world
  closesIdle :
    ∀ {cursor world}, protocol.state cursor = .idle →
      protocol.close cursor world = .pure () cursor world

theorem Guarded.call_of_not_allowed
    {protocol : CursorProtocol κ ω}
    {operator : String}
    (guarded : protocol.Guarded operator)
    {made : CursorCall}
    {cursor : κ}
    {world : ω}
    (notAllowed : ¬ made.AllowedIn (protocol.state cursor)) :
    protocol.call made cursor world =
      .fail (made.refusal (protocol.state cursor) operator) cursor world := by
  cases made with
  | openWith bindings =>
      rw [call, guarded.opens notAllowed]
      rfl
  | next =>
      exact guarded.answers notAllowed
  | close =>
      have destroyed := Decidable.not_not.1 notAllowed
      rw [call, guarded.closes destroyed, destroyed]
      rfl
  | destroy =>
      have destroyed := Decidable.not_not.1 notAllowed
      rw [call, guarded.destroys destroyed, destroyed]
      rfl

/-- A cursor that is closed when a row is wanted has no row any more. -/
theorem AfterEnd.afterNext
    {protocol : CursorProtocol κ ω}
    {Sound : κ → Prop}
    {sure : Prop}
    {outcome : Outcome κ ω Unit}
    (ends : AfterEnd protocol Sound sure .idle outcome) :
    AfterNext protocol Sound (outcome.map fun () => none) := by
  rcases outcome with ⟨answer, cursor, world⟩
  cases answer with
  | ok =>
      exact .ended ends.sound ends.state
  | error error =>
      exact .failed ends.sound ends.state

/-- A living cursor is idle once it was closed if it was active. -/
theorem afterEnd_closeActive
    {protocol : CursorProtocol κ ω}
    {Sound : κ → Prop}
    {sure : Prop}
    {cursor : κ}
    {world : ω}
    (sound : Sound cursor)
    (alive : protocol.state cursor ≠ .destroyed)
    (closes :
      AfterEnd protocol Sound sure .idle (protocol.close cursor world)) :
    AfterEnd protocol Sound sure .idle
      (protocol.closeActive cursor world) := by
  rw [closeActive]
  split
  next =>
    exact closes
  next notActive =>
    exact ⟨sound, CursorState.eq_idle_of_ne alive notActive, fun _ => rfl⟩

theorem Conformant.closesActive
    {protocol : CursorProtocol κ ω}
    {Sound : κ → Prop}
    {sure : Prop}
    (conformant : protocol.Conformant Sound sure)
    {cursor : κ}
    (sound : Sound cursor)
    (alive : protocol.state cursor ≠ .destroyed)
    (world : ω) :
    AfterEnd protocol Sound sure .idle
      (protocol.closeActive cursor world) :=
  afterEnd_closeActive sound alive (conformant.closes sound alive)

/-- A conformant protocol keeps its cursors sound, whatever is called. -/
theorem Conformant.sound_call
    {protocol : CursorProtocol κ ω}
    {Sound : κ → Prop}
    {sure : Prop}
    {operator : String}
    (conformant : protocol.Conformant Sound sure)
    (guarded : protocol.Guarded operator)
    (made : CursorCall)
    {cursor : κ}
    (sound : Sound cursor)
    (world : ω) :
    Sound (protocol.call made cursor world).cursor := by
  cases made with
  | openWith bindings =>
      change Sound (protocol.openWith bindings cursor world).cursor
      by_cases idle : protocol.state cursor = .idle
      · have opens :=
          @conformant.opens bindings cursor world sound idle
        generalize protocol.openWith bindings cursor world = outcome
          at opens ⊢
        cases opens with
        | opened sound | failed sound =>
            exact sound
      · rw [guarded.opens idle]
        exact sound
  | next =>
      change Sound (protocol.next cursor world).cursor
      by_cases active : protocol.state cursor = .active
      · have answers := @conformant.answers cursor world sound active
        generalize protocol.next cursor world = outcome at answers ⊢
        cases answers with
        | row sound | ended sound | failed sound =>
            exact sound
      · rw [guarded.answers active]
        exact sound
  | close =>
      change Sound (protocol.close cursor world).cursor
      by_cases destroyed : protocol.state cursor = .destroyed
      · rw [guarded.closes destroyed]
        exact sound
      · exact (conformant.closes sound destroyed).sound
  | destroy =>
      change Sound (protocol.destroy cursor world).cursor
      by_cases destroyed : protocol.state cursor = .destroyed
      · rw [guarded.destroys destroyed]
        exact sound
      · exact (conformant.destroys sound destroyed).sound

/-- A conformant protocol that refuses what is not allowed keeps to the table. -/
theorem Conformant.conforms
    {protocol : CursorProtocol κ ω}
    {Sound : κ → Prop}
    {operator : String}
    (conformant : protocol.Conformant Sound True)
    (guarded : protocol.Guarded operator)
    (made : CursorCall)
    {cursor : κ}
    (sound : Sound cursor)
    (world : ω) :
    protocol.Conforms operator made cursor world := by
  unfold Conforms
  have succeeds
      {outcome : Outcome κ ω Unit}
      {state : CursorState}
      (ends : AfterEnd protocol Sound True state outcome) :
      (outcome.map fun () => (none : Option Row)).answer = .ok none := by
    change outcome.answer.map (fun () => none) = .ok none
    rw [ends.succeeds trivial]
    rfl
  cases made with
  | openWith bindings =>
      cases state : protocol.state cursor with
      | idle =>
          have opens := @conformant.opens bindings cursor world sound state
          rw [call]
          dsimp only
          generalize protocol.openWith bindings cursor world = outcome
            at opens ⊢
          cases opens with
          | opened _ active =>
              exact .inl ⟨rfl, active⟩
          | failed _ idle =>
              exact .inr ⟨⟨_, rfl⟩, idle⟩
      | active | destroyed =>
          have refuses :=
            @guarded.opens bindings cursor world (state.symm ▸ nofun)
          rw [call, refuses, state]
          rfl
  | next =>
      cases state : protocol.state cursor with
      | active =>
          have answers := @conformant.answers cursor world sound state
          rw [call]
          dsimp only
          generalize protocol.next cursor world = outcome at answers ⊢
          cases answers with
          | row _ active =>
              exact .inl ⟨⟨_, rfl⟩, active⟩
          | ended _ idle =>
              exact .inr ⟨.inl rfl, idle⟩
          | failed _ idle =>
              exact .inr ⟨.inr ⟨_, rfl⟩, idle⟩
      | idle | destroyed =>
          have refuses := @guarded.answers cursor world (state.symm ▸ nofun)
          rw [call, refuses, state]
  | close =>
      cases state : protocol.state cursor with
      | idle =>
          rw [call, guarded.closesIdle state]
          rfl
      | active =>
          have ends :=
            @conformant.closes cursor world sound (state.symm ▸ nofun)
          exact ⟨succeeds ends, ends.state⟩
      | destroyed =>
          rw [call, guarded.closes state]
          rfl
  | destroy =>
      cases state : protocol.state cursor with
      | idle | active =>
          have ends :=
            @conformant.destroys cursor world sound (state.symm ▸ nofun)
          exact ⟨succeeds ends, ends.state⟩
      | destroyed =>
          rw [call, guarded.destroys state]
          rfl

end CursorProtocol

end HierQuery
