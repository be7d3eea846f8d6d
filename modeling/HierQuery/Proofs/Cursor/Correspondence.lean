import HierQuery.Proofs.Cursor.Call

/-!
# Corresponding cursors

Two kinds of cursors, each in a world of its own, correspond if calls made on
related cursors in related worlds have one answer and leave both related.  The
bindings given to the two may differ as far as a relation allows it.  Besides,
the rows that are handed out and the causes of failures are held to what a
property of each says.

A kind of cursors that corresponds to itself, with every relation but equality
turned into a property, is one that keeps to all these properties.
-/

namespace HierQuery

/-- What is asked of related cursors: how they are opened and which rows they hand out. -/
structure Terms (κ κ' : Type) where
  Cursors : κ → κ' → Prop
  Given : Bindings → Bindings → Prop
  Handed : Row → Prop

/-- The terms of cursors that have to be the same, which may hand out any row. -/
def Terms.same {κ : Type} : Terms κ κ where
  Cursors := Eq
  Given := Eq
  Handed := fun _ => True

/-- If there is a row, it is one that may be handed out. -/
def Terms.Yields {κ κ' : Type} (terms : Terms κ κ') (row? : Option Row) : Prop :=
  ∀ row, row? = some row → terms.Handed row

/-- The cause of every failure that a cursor may have of itself, whatever is below it. -/
structure ExecError.Tolerates (Failed : ExecError.Cause → Prop) : Prop where
  lifecycle : ∀ expected actual, Failed (.lifecycleViolation expected actual)
  canceled : ∀ query, Failed (.queryCanceled query)

theorem ExecError.tolerates_any : Tolerates fun _ => True where
  lifecycle := fun _ _ => trivial
  canceled := fun _ => trivial

variable {κ κ' ω ω' ρ τ : Type}

/-- Two calls with one answer that left related cursors and related worlds. -/
inductive Outcome.Corresponds
    (Worlds : ω → ω' → Prop)
    (Failed : ExecError.Cause → Prop)
    (Cursors : κ → κ' → Prop)
    (Handed : ρ → Prop) :
    Outcome κ ω ρ → Outcome κ' ω' ρ → Prop
  | ok
      {value : ρ}
      {first : κ}
      {second : κ'}
      {world : ω}
      {other : ω'}
      (handed : Handed value)
      (cursors : Cursors first second)
      (worlds : Worlds world other) :
      Corresponds Worlds Failed Cursors Handed
        ⟨.ok value, first, world⟩ ⟨.ok value, second, other⟩
  | error
      {error : ExecError}
      {first : κ}
      {second : κ'}
      {world : ω}
      {other : ω'}
      (failed : Failed error.cause)
      (cursors : Cursors first second)
      (worlds : Worlds world other) :
      Corresponds Worlds Failed Cursors Handed
        ⟨.error error, first, world⟩ ⟨.error error, second, other⟩

namespace Outcome.Corresponds

variable
  {Worlds : ω → ω' → Prop}
  {Failed : ExecError.Cause → Prop}
  {Cursors : κ → κ' → Prop}
  {Handed : ρ → Prop}
  {first : Outcome κ ω ρ}
  {second : Outcome κ' ω' ρ}

theorem cursors
    (corresponds : first.Corresponds Worlds Failed Cursors Handed second) :
    Cursors first.cursor second.cursor := by
  cases corresponds with
  | ok _ cursors | error _ cursors =>
      exact cursors

theorem worlds
    (corresponds : first.Corresponds Worlds Failed Cursors Handed second) :
    Worlds first.world second.world := by
  cases corresponds with
  | ok _ _ worlds | error _ _ worlds =>
      exact worlds

theorem answer_eq
    (corresponds : first.Corresponds Worlds Failed Cursors Handed second) :
    first.answer = second.answer := by
  cases corresponds with
  | ok | error =>
      rfl

theorem failed
    (corresponds : first.Corresponds Worlds Failed Cursors Handed second)
    {error : ExecError}
    (fails : first.answer = .error error) :
    Failed error.cause := by
  cases corresponds with
  | ok =>
      cases fails
  | error failed =>
      cases fails
      exact failed

theorem handed
    (corresponds : first.Corresponds Worlds Failed Cursors Handed second)
    {value : ρ}
    (succeeds : first.answer = .ok value) :
    Handed value := by
  cases corresponds with
  | ok handed =>
      cases succeeds
      exact handed
  | error =>
      cases succeeds

/-- A call whose outcome is made twice corresponds to itself. -/
theorem refl
    (outcome : Outcome κ ω ρ)
    {Handed : ρ → Prop}
    (handed : ∀ value, Handed value) :
    outcome.Corresponds Eq (fun _ => True) Eq Handed outcome := by
  rcases outcome with ⟨answer, cursor, world⟩
  cases answer with
  | ok value =>
      exact .ok (handed value) rfl rfl
  | error =>
      exact .error trivial rfl rfl

/-- Cursors and values may be told of by looser relations as well. -/
theorem mono
    {Looser : κ → κ' → Prop}
    {Weaker : ρ → Prop}
    (corresponds : first.Corresponds Worlds Failed Cursors Handed second)
    (looser : ∀ first second, Cursors first second → Looser first second)
    (weaker : ∀ value, Handed value → Weaker value) :
    first.Corresponds Worlds Failed Looser Weaker second := by
  cases corresponds with
  | ok handed cursors worlds =>
      exact .ok (weaker _ handed) (looser _ _ cursors) worlds
  | error failed cursors worlds =>
      exact .error failed (looser _ _ cursors) worlds

theorem map
    {Changed : τ → Prop}
    (corresponds : first.Corresponds Worlds Failed Cursors Handed second)
    {change : ρ → τ}
    (changed : ∀ value, Handed value → Changed (change value)) :
    (first.map change).Corresponds Worlds Failed Cursors Changed
      (second.map change) := by
  cases corresponds with
  | ok handed cursors worlds =>
      exact .ok (changed _ handed) cursors worlds
  | error failed cursors worlds =>
      exact .error failed cursors worlds

/-- Two calls that correspond step by step correspond as a whole. -/
theorem andThen
    {Changed : τ → Prop}
    (corresponds : first.Corresponds Worlds Failed Cursors Handed second)
    {next : ρ → κ → ω → Outcome κ ω τ}
    {otherNext : ρ → κ' → ω' → Outcome κ' ω' τ}
    (nextCorresponds :
      ∀ value first second world other,
        Handed value → Cursors first second → Worlds world other →
          (next value first world).Corresponds Worlds Failed Cursors Changed
            (otherNext value second other)) :
    (first.andThen next).Corresponds Worlds Failed Cursors Changed
      (second.andThen otherNext) := by
  cases corresponds with
  | ok handed cursors worlds =>
      exact nextCorresponds _ _ _ _ _ handed cursors worlds
  | error failed cursors worlds =>
      exact .error failed cursors worlds

/-- The failure of the first of two ends is told first on both sides. -/
theorem bind_answers
    {α α' β β' : Type}
    {FirstCursors : α → α' → Prop}
    {LastCursors : β → β' → Prop}
    {FirstHanded LastHanded : Unit → Prop}
    {first : Outcome α ω Unit}
    {second : Outcome α' ω' Unit}
    {last : Outcome β ω Unit}
    {also : Outcome β' ω' Unit}
    (earlier :
      first.Corresponds Worlds Failed FirstCursors FirstHanded second)
    (later : last.Corresponds Worlds Failed LastCursors LastHanded also)
    {cursor : κ}
    {other : κ'}
    {world : ω}
    {elsewhere : ω'}
    (cursors : Cursors cursor other)
    (worlds : Worlds world elsewhere) :
    Outcome.Corresponds Worlds Failed Cursors (fun _ => True)
      ⟨first.answer.bind fun () => last.answer, cursor, world⟩
      ⟨second.answer.bind fun () => also.answer, other, elsewhere⟩ := by
  cases earlier with
  | error failed =>
      exact .error failed cursors worlds
  | ok =>
      cases later with
      | error failed =>
          exact .error failed cursors worlds
      | ok =>
          exact .ok trivial cursors worlds

end Outcome.Corresponds

/-- One call made on both sides, where bindings may differ as far as they are allowed to. -/
inductive CursorCall.Paired
    (Given : Bindings → Bindings → Prop) :
    CursorCall → CursorCall → Prop
  | openWith {bindings others : Bindings} (given : Given bindings others) :
      Paired Given (.openWith bindings) (.openWith others)
  | next : Paired Given .next .next
  | close : Paired Given .close .close
  | destroy : Paired Given .destroy .destroy

theorem CursorCall.paired_self
    {Given : Bindings → Bindings → Prop}
    (given : ∀ bindings, Given bindings bindings)
    (made : CursorCall) :
    made.Paired Given made := by
  cases made with
  | openWith bindings =>
      exact .openWith (given bindings)
  | next =>
      exact .next
  | close =>
      exact .close
  | destroy =>
      exact .destroy

namespace CursorProtocol

/-- Opening, asking and closing are the same on related cursors in related worlds. -/
structure Runs
    (first : CursorProtocol κ ω)
    (second : CursorProtocol κ' ω')
    (Worlds : ω → ω' → Prop)
    (Failed : ExecError.Cause → Prop)
    (terms : Terms κ κ') :
    Prop where
  state :
    ∀ {cursor other}, terms.Cursors cursor other →
      first.state cursor = second.state other
  opens :
    ∀ {cursor other bindings others world elsewhere},
      terms.Cursors cursor other → terms.Given bindings others →
        Worlds world elsewhere →
          (first.openWith bindings cursor world).Corresponds Worlds Failed
            terms.Cursors (fun _ => True)
            (second.openWith others other elsewhere)
  answers :
    ∀ {cursor other world elsewhere},
      terms.Cursors cursor other → Worlds world elsewhere →
        (first.next cursor world).Corresponds Worlds Failed terms.Cursors
          terms.Yields (second.next other elsewhere)
  closes :
    ∀ {cursor other world elsewhere},
      terms.Cursors cursor other → Worlds world elsewhere →
        (first.close cursor world).Corresponds Worlds Failed terms.Cursors
          (fun _ => True) (second.close other elsewhere)
  rowBound :
    ∀ {world elsewhere}, Worlds world elsewhere →
      first.rowBound world = second.rowBound elsewhere

/-- All calls are the same on related cursors in related worlds. -/
structure Corresponds
    (first : CursorProtocol κ ω)
    (second : CursorProtocol κ' ω')
    (Worlds : ω → ω' → Prop)
    (Failed : ExecError.Cause → Prop)
    (terms : Terms κ κ') :
    Prop extends Runs first second Worlds Failed terms where
  destroys :
    ∀ {cursor other world elsewhere},
      terms.Cursors cursor other → Worlds world elsewhere →
        (first.destroy cursor world).Corresponds Worlds Failed terms.Cursors
          (fun _ => True) (second.destroy other elsewhere)

variable
  {first : CursorProtocol κ ω}
  {second : CursorProtocol κ' ω'}
  {Worlds : ω → ω' → Prop}
  {Failed : ExecError.Cause → Prop}
  {terms : Terms κ κ'}
  {cursor : κ}
  {other : κ'}
  {world : ω}
  {elsewhere : ω'}

theorem Runs.closesActive
    (runs : first.Runs second Worlds Failed terms)
    (cursors : terms.Cursors cursor other)
    (worlds : Worlds world elsewhere) :
    (first.closeActive cursor world).Corresponds Worlds Failed terms.Cursors
      (fun _ => True) (second.closeActive other elsewhere) := by
  rw [closeActive, closeActive, ← runs.state cursors]
  split
  · exact runs.closes cursors worlds
  · exact .ok trivial cursors worlds

theorem Runs.drain
    (runs : first.Runs second Worlds Failed terms)
    (calls : Nat)
    (cursors : terms.Cursors cursor other)
    (worlds : Worlds world elsewhere) :
    (first.drain calls cursor world).Corresponds Worlds Failed terms.Cursors
      (fun rows => ∀ row ∈ rows, terms.Handed row)
      (second.drain calls other elsewhere) := by
  induction calls generalizing cursor other world elsewhere with
  | zero =>
      exact .ok (List.forall_mem_nil _) cursors worlds
  | succ calls ih =>
      refine (runs.answers cursors worlds).andThen ?_
      intro row? cursor other world elsewhere yields cursors worlds
      cases row? with
      | none =>
          exact .ok (List.forall_mem_nil _) cursors worlds
      | some row =>
          refine (ih cursors worlds).map ?_
          intro rows handed
          exact List.forall_mem_cons.2 ⟨yields row rfl, handed⟩

/-- Taking all rows is the same on related cursors, which are related afterwards. -/
theorem Runs.collect
    (runs : first.Runs second Worlds Failed terms)
    {bindings others : Bindings}
    (given : terms.Given bindings others)
    (cursors : terms.Cursors cursor other)
    (worlds : Worlds world elsewhere) :
    (first.collect bindings cursor world).Corresponds Worlds Failed
      terms.Cursors (fun rows => ∀ row ∈ rows, terms.Handed row)
      (second.collect others other elsewhere) := by
  refine (runs.opens cursors given worlds).andThen ?_
  intro _ cursor other world elsewhere _ cursors worlds
  have drained := runs.drain (first.rowBound world + 1) cursors worlds
  have closed := runs.closes drained.cursors drained.worlds
  rw [← runs.rowBound worlds]
  generalize first.drain (first.rowBound world + 1) cursor world = ours,
    second.drain (first.rowBound world + 1) other elsewhere = theirs
    at drained closed ⊢
  cases drained with
  | ok handed =>
      exact closed.map fun _ _ => handed
  | error failed =>
      exact .error failed closed.cursors closed.worlds

/-- Whatever is called, corresponding cursors answer alike and stay related. -/
theorem Corresponds.call
    (corresponds : first.Corresponds second Worlds Failed terms)
    {made also : CursorCall}
    (paired : made.Paired terms.Given also)
    (cursors : terms.Cursors cursor other)
    (worlds : Worlds world elsewhere) :
    (first.call made cursor world).Corresponds Worlds Failed terms.Cursors
      terms.Yields (second.call also other elsewhere) := by
  have nothing (_ : Unit) (_ : True) : terms.Yields none := nofun
  cases paired with
  | openWith given =>
      exact (corresponds.opens cursors given worlds).map nothing
  | next =>
      exact corresponds.answers cursors worlds
  | close =>
      exact (corresponds.closes cursors worlds).map nothing
  | destroy =>
      exact (corresponds.destroys cursors worlds).map nothing

end CursorProtocol

end HierQuery
