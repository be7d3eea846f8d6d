import HierQuery.Proofs.Cursor.Correspondence

/-!
# Cursors that cannot be told apart

A relation between cursors of one kind is a bisimulation if each call, made in
one world on two related cursors, has one answer, leaves one world behind and
keeps the cursors related.  Nobody who only calls the two cursors can ever tell
which is which, whatever is hidden in them.

Where a call is refused there is nothing to show, so it is enough to look at
the calls that the state of the cursors allows.
-/

namespace HierQuery

variable {κ ω ρ τ : Type}

/-- Two calls with one answer and one world, which left related cursors. -/
inductive Outcome.Agree
    (Alike : κ → κ → Prop) :
    Outcome κ ω ρ → Outcome κ ω ρ → Prop
  | same
      {answer : Except ExecError ρ}
      {first second : κ}
      {world : ω}
      (alike : Alike first second) :
      Agree Alike ⟨answer, first, world⟩ ⟨answer, second, world⟩

namespace Outcome.Agree

variable
  {Alike : κ → κ → Prop}
  {first second : Outcome κ ω ρ}

theorem map
    (agree : Agree Alike first second)
    (change : ρ → τ) :
    Agree Alike (first.map change) (second.map change) := by
  cases agree with
  | same alike =>
      exact .same alike

/-- Calls that agree correspond in one world. -/
theorem corresponds
    (agree : Agree Alike first second)
    {Handed : ρ → Prop}
    (handed : ∀ value, Handed value) :
    first.Corresponds Eq (fun _ => True) Alike Handed second := by
  cases agree with
  | @same answer _ _ _ alike =>
      cases answer with
      | ok value =>
          exact .ok (handed value) alike rfl
      | error =>
          exact .error trivial alike rfl

end Outcome.Agree

/-- Calls that correspond in one world agree. -/
theorem Outcome.Corresponds.agree
    {Failed : ExecError.Cause → Prop}
    {Cursors Alike : κ → κ → Prop}
    {Handed : ρ → Prop}
    {first second : Outcome κ ω ρ}
    (corresponds : first.Corresponds Eq Failed Cursors Handed second)
    (alike : ∀ {first second}, Cursors first second → Alike first second) :
    first.Agree Alike second := by
  cases corresponds with
  | ok _ cursors worlds | error _ cursors worlds =>
      cases worlds
      exact .same (alike cursors)

namespace CursorProtocol

/-- No call tells related cursors apart. -/
structure Bisimulation
    (protocol : CursorProtocol κ ω)
    (Alike : κ → κ → Prop) :
    Prop where
  state :
    ∀ {first second}, Alike first second →
      protocol.state first = protocol.state second
  opens :
    ∀ {first second}, Alike first second → ∀ bindings world,
      (protocol.openWith bindings first world).Agree Alike
        (protocol.openWith bindings second world)
  answers :
    ∀ {first second}, Alike first second → ∀ world,
      (protocol.next first world).Agree Alike (protocol.next second world)
  closes :
    ∀ {first second}, Alike first second → ∀ world,
      (protocol.close first world).Agree Alike (protocol.close second world)
  destroys :
    ∀ {first second}, Alike first second → ∀ world,
      (protocol.destroy first world).Agree Alike
        (protocol.destroy second world)

variable
  {protocol : CursorProtocol κ ω}
  {Alike : κ → κ → Prop}

/-- Only what the state of related cursors allows has to be looked at. -/
theorem Guarded.bisimulation
    {operator : String}
    (guarded : protocol.Guarded operator)
    (state :
      ∀ {first second}, Alike first second →
        protocol.state first = protocol.state second)
    (opens :
      ∀ {first second}, Alike first second →
        protocol.state first = .idle → ∀ bindings world,
          (protocol.openWith bindings first world).Agree Alike
            (protocol.openWith bindings second world))
    (answers :
      ∀ {first second}, Alike first second →
        protocol.state first = .active → ∀ world,
          (protocol.next first world).Agree Alike
            (protocol.next second world))
    (closes :
      ∀ {first second}, Alike first second →
        protocol.state first = .active → ∀ world,
          (protocol.close first world).Agree Alike
            (protocol.close second world))
    (destroys :
      ∀ {first second}, Alike first second →
        protocol.state first ≠ .destroyed → ∀ world,
          (protocol.destroy first world).Agree Alike
            (protocol.destroy second world)) :
    protocol.Bisimulation Alike where
  state := state
  opens := by
    intro first second alike bindings world
    by_cases idle : protocol.state first = .idle
    · exact opens alike idle bindings world
    · rw [guarded.opens idle, guarded.opens (state alike ▸ idle), state alike]
      exact .same alike
  answers := by
    intro first second alike world
    by_cases active : protocol.state first = .active
    · exact answers alike active world
    · rw [guarded.answers active, guarded.answers (state alike ▸ active),
        state alike]
      exact .same alike
  closes := by
    intro first second alike world
    cases stands : protocol.state first with
    | idle =>
        rw [guarded.closesIdle stands,
          guarded.closesIdle (state alike ▸ stands)]
        exact .same alike
    | active =>
        exact closes alike stands world
    | destroyed =>
        rw [guarded.closes stands, guarded.closes (state alike ▸ stands)]
        exact .same alike
  destroys := by
    intro first second alike world
    by_cases destroyed : protocol.state first = .destroyed
    · rw [guarded.destroys destroyed,
        guarded.destroys (state alike ▸ destroyed)]
      exact .same alike
    · exact destroys alike destroyed world

namespace Bisimulation

variable (bisimulation : protocol.Bisimulation Alike)

include bisimulation

/-- Cursors that no call tells apart correspond in one world. -/
theorem corresponds :
    protocol.Corresponds protocol Eq (fun _ => True)
      ⟨Alike, Eq, fun _ => True⟩ where
  state := bisimulation.state
  opens := by
    rintro first second bindings _ world _ alike rfl rfl
    exact (bisimulation.opens alike bindings world).corresponds
      fun _ => trivial
  answers := by
    rintro first second world _ alike rfl
    exact (bisimulation.answers alike world).corresponds fun _ _ _ => trivial
  closes := by
    rintro first second world _ alike rfl
    exact (bisimulation.closes alike world).corresponds fun _ => trivial
  rowBound := congrArg protocol.rowBound
  destroys := by
    rintro first second world _ alike rfl
    exact (bisimulation.destroys alike world).corresponds fun _ => trivial

/-- Whatever is called, related cursors answer alike and stay related. -/
theorem call
    (made : CursorCall)
    {first second : κ}
    (alike : Alike first second)
    (world : ω) :
    (protocol.call made first world).Agree Alike
      (protocol.call made second world) := by
  cases made with
  | openWith bindings =>
      exact (bisimulation.opens alike bindings world).map _
  | next =>
      exact bisimulation.answers alike world
  | close =>
      exact (bisimulation.closes alike world).map _
  | destroy =>
      exact (bisimulation.destroys alike world).map _

end Bisimulation

/-- Cursors that correspond in one world cannot be told apart. -/
theorem Corresponds.bisimulation
    {Failed : ExecError.Cause → Prop}
    {terms : Terms κ κ}
    (corresponds : protocol.Corresponds protocol Eq Failed terms)
    (given : ∀ bindings, terms.Given bindings bindings)
    (same :
      ∀ {first second}, Alike first second ↔ terms.Cursors first second) :
    protocol.Bisimulation Alike where
  state := fun alike => corresponds.state (same.1 alike)
  opens := fun alike bindings _ =>
    (corresponds.opens (same.1 alike) (given bindings) rfl).agree same.2
  answers := fun alike _ =>
    (corresponds.answers (same.1 alike) rfl).agree same.2
  closes := fun alike _ =>
    (corresponds.closes (same.1 alike) rfl).agree same.2
  destroys := fun alike _ =>
    (corresponds.destroys (same.1 alike) rfl).agree same.2

end CursorProtocol

end HierQuery
