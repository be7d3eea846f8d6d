import HierQuery.Proofs.Plan.LeafCorrespondence

/-!
# Corresponding nested loops

A loop over corresponding cursors corresponds to one over the others.  It keeps
bindings of its own and writes into them, so what is asked of the bindings of
a loop has to last when the key of an outer row is bound, and has to be enough
for the inner cursor from then on.
-/

namespace HierQuery

variable {σ τ ρ : Type}

namespace NestedLoop

variable
  {α α' β β' : Type}
  {outer : CursorProtocol α (Query σ)}
  {otherOuter : CursorProtocol α' (Query τ)}
  {inner : CursorProtocol β (Query σ)}
  {otherInner : CursorProtocol β' (Query τ)}
  {Worlds : Query σ → Query τ → Prop}
  {Failed : ExecError.Cause → Prop}
  {outerTerms : Terms α α'}
  {innerTerms : Terms β β'}
  {Given Held Left : Bindings → Bindings → Prop}
  {slot : Nat}

/--
Loops over related cursors.  The bindings that they hold are related while they
are active; what remains of them later is held to less.
-/
structure Bound
    (outerTerms : Terms α α')
    (innerTerms : Terms β β')
    (Held Left : Bindings → Bindings → Prop)
    (first : Cursor α β)
    (second : Cursor α' β') :
    Prop where
  outer : outerTerms.Cursors first.outer second.outer
  inner : innerTerms.Cursors first.inner second.inner
  state : first.state = second.state
  bindings : Left first.bindings second.bindings
  active : first.state = .active → Held first.bindings second.bindings

/-- Loops under way, whose bindings are related in any case. -/
structure Running
    (outerTerms : Terms α α')
    (innerTerms : Terms β β')
    (Held : Bindings → Bindings → Prop)
    (first : Cursor α β)
    (second : Cursor α' β') :
    Prop where
  outer : outerTerms.Cursors first.outer second.outer
  inner : innerTerms.Cursors first.inner second.inner
  state : first.state = second.state
  bindings : Held first.bindings second.bindings

/-- The terms of a loop, whose rows are those of its inner cursor. -/
def terms
    (outerTerms : Terms α α')
    (innerTerms : Terms β β')
    (Given Held Left : Bindings → Bindings → Prop) :
    Terms (Cursor α β) (Cursor α' β') where
  Cursors := Bound outerTerms innerTerms Held Left
  Given := Given
  Handed := innerTerms.Handed

/--
How the bindings of a loop go with those of its cursors: its own are good for
the outer cursor, and with the key of an outer row in the slot they are good
for the inner cursor, or binding the key fails on both sides.
-/
structure Binds
    (slot : Nat)
    (Failed : ExecError.Cause → Prop)
    (outerTerms : Terms α α')
    (innerTerms : Terms β β')
    (Given Held Left : Bindings → Bindings → Prop) :
    Prop where
  leaves :
    ∀ {bindings others}, Held bindings others → Left bindings others
  opens :
    ∀ {bindings others}, Given bindings others →
      outerTerms.Given bindings others ∧ Held bindings others
  room :
    ∀ {bindings others}, Given bindings others →
      (slot < bindings.reserved ↔ slot < others.reserved) ∧
        (¬ slot < bindings.reserved →
          bindings.reserved = others.reserved ∧
            Failed (.bindingOutOfRange slot bindings.reserved))
  keyless :
    ∀ row, outerTerms.Handed row → row.key? = none →
      Failed (.invalidArgument (.keylessOuterRow row.render))
  sets :
    ∀ {bindings others} key, Held bindings others →
      (∃ bound otherBound,
        bindings.set slot (.key key) = .ok bound ∧
          others.set slot (.key key) = .ok otherBound ∧
            innerTerms.Given bound otherBound ∧ Held bound otherBound) ∨
        ∃ error,
          bindings.set slot (.key key) = .error error ∧
            others.set slot (.key key) = .error error ∧ Failed error.cause

variable
  {first : Cursor α β}
  {second : Cursor α' β'}
  {query : Query σ}
  {elsewhere : Query τ}

/-- Equal bindings go with each other, whatever slot is bound. -/
theorem binds_same
    (leaves : ∀ bindings, Left bindings bindings)
    (outerGiven : outerTerms.Given = Eq)
    (innerGiven : innerTerms.Given = Eq)
    (roomless : ∀ slot available, Failed (.bindingOutOfRange slot available))
    (keyless :
      ∀ row, outerTerms.Handed row → row.key? = none →
        Failed (.invalidArgument (.keylessOuterRow row.render))) :
    Binds slot Failed outerTerms innerTerms Eq Eq Left where
  leaves := by
    rintro bindings _ rfl
    exact leaves bindings
  opens := by
    rintro bindings _ rfl
    rw [outerGiven]
    exact ⟨rfl, rfl⟩
  room := by
    rintro bindings _ rfl
    exact ⟨.rfl, fun _ => ⟨rfl, roomless _ _⟩⟩
  keyless := keyless
  sets := by
    rintro bindings _ key rfl
    rw [innerGiven]
    cases set : bindings.set slot (.key key) with
    | ok bound =>
        exact .inl ⟨bound, bound, rfl, rfl, rfl, rfl⟩
    | error error =>
        refine .inr ⟨error, rfl, rfl, ?_⟩
        rw [Bindings.set] at set
        split at set <;> cases set
        exact roomless _ _

theorem Binds.bound
    (binds : Binds slot Failed outerTerms innerTerms Given Held Left)
    (running : Running outerTerms innerTerms Held first second) :
    Bound outerTerms innerTerms Held Left first second :=
  ⟨running.outer, running.inner, running.state,
    binds.leaves running.bindings, fun _ => running.bindings⟩

theorem Bound.running
    (bound : Bound outerTerms innerTerms Held Left first second)
    (active : first.state = .active) :
    Running outerTerms innerTerms Held first second :=
  ⟨bound.outer, bound.inner, bound.state, bound.active active⟩

theorem Running.settled
    (running : Running outerTerms innerTerms Held first second) :
    Running outerTerms innerTerms Held first.settled second.settled :=
  ⟨running.outer, running.inner,
    congrArg CursorState.deactivate running.state, running.bindings⟩

theorem Running.onOuter
    (running : Running outerTerms innerTerms Held first second)
    {Handed : ρ → Prop}
    {call : α → Query σ → Outcome α (Query σ) ρ}
    {otherCall : α' → Query τ → Outcome α' (Query τ) ρ}
    (corresponds :
      (call first.outer query).Corresponds Worlds Failed outerTerms.Cursors
        Handed (otherCall second.outer elsewhere)) :
    (first.onOuter call query).Corresponds Worlds Failed
      (Running outerTerms innerTerms Held) Handed
      (second.onOuter otherCall elsewhere) := by
  unfold Cursor.onOuter
  generalize call first.outer query = outcome at corresponds ⊢
  generalize otherCall second.outer elsewhere = otherOutcome
    at corresponds ⊢
  cases corresponds with
  | ok handed cursors worlds =>
      exact .ok handed
        ⟨cursors, running.inner, running.state, running.bindings⟩ worlds
  | error failed cursors worlds =>
      exact .error failed
        ⟨cursors, running.inner, running.state, running.bindings⟩ worlds

theorem Running.onInner
    (running : Running outerTerms innerTerms Held first second)
    {Handed : ρ → Prop}
    {call : β → Query σ → Outcome β (Query σ) ρ}
    {otherCall : β' → Query τ → Outcome β' (Query τ) ρ}
    (corresponds :
      (call first.inner query).Corresponds Worlds Failed innerTerms.Cursors
        Handed (otherCall second.inner elsewhere)) :
    (first.onInner call query).Corresponds Worlds Failed
      (Running outerTerms innerTerms Held) Handed
      (second.onInner otherCall elsewhere) := by
  unfold Cursor.onInner
  generalize call first.inner query = outcome at corresponds ⊢
  generalize otherCall second.inner elsewhere = otherOutcome
    at corresponds ⊢
  cases corresponds with
  | ok handed cursors worlds =>
      exact .ok handed
        ⟨running.outer, cursors, running.state, running.bindings⟩ worlds
  | error failed cursors worlds =>
      exact .error failed
        ⟨running.outer, cursors, running.state, running.bindings⟩ worlds

section

variable
  (binds : Binds slot Failed outerTerms innerTerms Given Held Left)
  (outerRuns : outer.Runs otherOuter Worlds Failed outerTerms)
  (innerRuns : inner.Runs otherInner Worlds Failed innerTerms)
  (running : Running outerTerms innerTerms Held first second)
  (worlds : Worlds query elsewhere)

include running worlds

include binds innerRuns in
theorem corresponds_startInner
    {row : Row}
    (handed : outerTerms.Handed row) :
    (startInner inner slot row first query).Corresponds Worlds Failed
      (Running outerTerms innerTerms Held) (fun _ => True)
      (startInner otherInner slot row second elsewhere) := by
  unfold startInner
  cases itsKey : row.key? with
  | none =>
      exact .error (binds.keyless row handed itsKey) running worlds
  | some key =>
      dsimp only
      rcases binds.sets key running.bindings with
        ⟨bound, otherBound, ok, otherOk, given, held⟩ |
          ⟨error, fails, otherFails, failed⟩
      · rw [ok, otherOk]
        have rebound :
            Running outerTerms innerTerms Held
              { first with bindings := bound }
              { second with bindings := otherBound } :=
          ⟨running.outer, running.inner, running.state, held⟩
        exact rebound.onInner (innerRuns.opens running.inner given worlds)
      · rw [fails, otherFails]
        exact .error failed running worlds

include outerRuns innerRuns

theorem corresponds_abort
    (Handed : ρ → Prop)
    {error : ExecError}
    (failed : Failed error.cause) :
    (abort outer inner error first query).Corresponds Worlds Failed
      (Running outerTerms innerTerms Held) Handed
      (abort otherOuter otherInner error second elsewhere) := by
  have innerCloses :=
    running.onInner (innerRuns.closesActive running.inner worlds)
  have outerCloses :=
    innerCloses.cursors.onOuter
      (outerRuns.closesActive innerCloses.cursors.outer innerCloses.worlds)
  exact .error failed outerCloses.cursors.settled outerCloses.worlds

theorem corresponds_release :
    (release outer inner first query).Corresponds Worlds Failed
      (Running outerTerms innerTerms Held) (fun _ => True)
      (release otherOuter otherInner second elsewhere) := by
  have innerCloses :=
    running.onInner (innerRuns.closesActive running.inner worlds)
  have outerCloses :=
    innerCloses.cursors.onOuter
      (outerRuns.closes innerCloses.cursors.outer innerCloses.worlds)
  exact innerCloses.bind_answers outerCloses outerCloses.cursors.settled
    outerCloses.worlds

include binds

theorem corresponds_takeOuter
    (Handed : Round → Prop)
    (opened : Handed .opened)
    (ended : Handed .ended) :
    (takeOuter outer inner slot first query).Corresponds Worlds Failed
      (Running outerTerms innerTerms Held) Handed
      (takeOuter otherOuter otherInner slot second elsewhere) := by
  rw [takeOuter, takeOuter]
  apply Outcome.Corresponds.andThen
  · exact running.onOuter (outerRuns.answers running.outer worlds)
  · intro row? first second query elsewhere yields running worlds
    cases row? with
    | none =>
        exact .ok ended running worlds
    | some row =>
        exact
          (corresponds_startInner binds innerRuns running worlds
            (yields row rfl)).map fun _ _ => opened

/-- The row of a round, if it has one, is a row of the inner cursor. -/
theorem corresponds_round :
    (round outer inner slot first query).Corresponds Worlds Failed
      (Running outerTerms innerTerms Held)
      (fun round => ∀ row, round = .row row → innerTerms.Handed row)
      (round otherOuter otherInner slot second elsewhere) := by
  rw [round, round, ← innerRuns.state running.inner]
  split
  · apply Outcome.Corresponds.andThen
    · exact running.onInner (innerRuns.answers running.inner worlds)
    · intro row? first second query elsewhere yields running worlds
      cases row? with
      | some row =>
          refine .ok ?_ running worlds
          rintro _ ⟨⟩
          exact yields row rfl
      | none =>
          exact corresponds_takeOuter binds outerRuns innerRuns running
            worlds _ nofun nofun
  · exact corresponds_takeOuter binds outerRuns innerRuns running worlds _
      nofun nofun

theorem corresponds_advance
    (parallel : Query.Parallel Worlds)
    (rounds : Nat) :
    (advance outer inner slot rounds first query).Corresponds Worlds Failed
      (Running outerTerms innerTerms Held)
      (terms outerTerms innerTerms Given Held Left).Yields
      (advance otherOuter otherInner slot rounds second elsewhere) := by
  induction rounds generalizing first second query elsewhere with
  | zero =>
      exact
        (corresponds_release outerRuns innerRuns running worlds).map
          fun _ _ => nofun
  | succ rounds ih =>
      have gone :=
        corresponds_round binds outerRuns innerRuns running worlds
      rw [advance, advance]
      generalize round outer inner slot first query = outcome at gone ⊢
      generalize round otherOuter otherInner slot second elsewhere =
        otherOutcome at gone ⊢
      cases gone with
      | error failed running worlds =>
          exact corresponds_abort outerRuns innerRuns running worlds _ failed
      | @ok round _ _ _ _ handed running worlds =>
          cases round with
          | row row =>
              refine .ok ?_ running worlds
              rintro _ ⟨⟩
              exact handed row rfl
          | opened =>
              exact ih running worlds
          | ended =>
              exact .ok nofun running.settled
                (parallel.booked worlds .endOfStream rfl operatorName _)

end

section

variable
  (parallel : Query.Parallel Worlds)
  (tolerates : ExecError.Tolerates Failed)
  (binds : Binds slot Failed outerTerms innerTerms Given Held Left)

include parallel tolerates binds

theorem corresponds_openWith
    (outerRuns : outer.Runs otherOuter Worlds Failed outerTerms)
    (bound : Bound outerTerms innerTerms Held Left first second)
    (worlds : Worlds query elsewhere)
    {bindings others : Bindings}
    (given : Given bindings others) :
    (openWith outer slot bindings first query).Corresponds Worlds Failed
      (Bound outerTerms innerTerms Held Left) (fun _ => True)
      (openWith otherOuter slot others second elsewhere) := by
  rw [openWith, openWith, ← bound.state]
  by_cases idle : first.state = .idle
  · rw [idle, CursorState.requireIdle_idle]
    dsimp only
    rcases binds.room given with ⟨room, roomless⟩
    by_cases enough : slot < bindings.reserved
    · rw [if_pos enough, if_pos (room.1 enough)]
      have rebound :
          Running outerTerms innerTerms Held
            { first with state := .idle, bindings }
            { second with state := .idle, bindings := others } :=
        ⟨bound.outer, bound.inner, rfl, (binds.opens given).2⟩
      have opened :=
        rebound.onOuter
          (outerRuns.opens bound.outer (binds.opens given).1 worlds)
      refine Outcome.Corresponds.mono ?_ (fun _ _ => binds.bound)
        fun _ => id
      refine opened.andThen ?_
      intro _ first second query elsewhere _ running worlds
      exact .ok trivial
        ⟨running.outer, running.inner, rfl, running.bindings⟩
        (parallel.booked worlds .cursorOpen rfl operatorName _)
    · rcases roomless enough with ⟨same, failed⟩
      rw [if_neg enough, if_neg (mt room.2 enough), ← same]
      exact .error failed bound worlds
  · rw [CursorState.requireIdle_of_ne idle]
    exact .error (tolerates.lifecycle _ _) bound worlds

theorem corresponds_next
    (outerRuns : outer.Runs otherOuter Worlds Failed outerTerms)
    (innerRuns : inner.Runs otherInner Worlds Failed innerTerms)
    (bound : Bound outerTerms innerTerms Held Left first second)
    (worlds : Worlds query elsewhere) :
    (next outer inner slot first query).Corresponds Worlds Failed
      (Bound outerTerms innerTerms Held Left)
      (terms outerTerms innerTerms Given Held Left).Yields
      (next otherOuter otherInner slot second elsewhere) := by
  rw [next, next, ← bound.state]
  by_cases active : first.state = .active
  · have running := bound.running active
    rw [active, CursorState.requireActive_active]
    dsimp only
    refine Outcome.Corresponds.mono ?_ (fun _ _ => binds.bound)
      fun _ => id
    rcases parallel.checkCancellation worlds with
      ⟨error, checked, otherChecked, refused, otherRefused, cause, worlds⟩ |
        ⟨passed, otherPassed⟩
    · rw [refused, otherRefused]
      exact corresponds_abort outerRuns innerRuns running worlds _
        (cause ▸ tolerates.canceled _)
    · rw [passed, otherPassed]
      dsimp only
      rw [← outerRuns.rowBound worlds]
      exact corresponds_advance binds outerRuns innerRuns running worlds
        parallel _
  · rw [CursorState.requireActive_of_ne active]
    exact .error (tolerates.lifecycle _ _) bound worlds

/-- Loops run alike if the cursors below them do. -/
theorem runs
    (outerRuns : outer.Runs otherOuter Worlds Failed outerTerms)
    (innerRuns : inner.Runs otherInner Worlds Failed innerTerms) :
    (protocol outer inner slot).Runs (protocol otherOuter otherInner slot)
      Worlds Failed (terms outerTerms innerTerms Given Held Left) where
  state := fun bound => bound.state
  opens := fun bound given worlds =>
    corresponds_openWith parallel tolerates binds outerRuns bound worlds given
  answers :=
    corresponds_next parallel tolerates binds outerRuns innerRuns
  closes := by
    intro first second query elsewhere bound worlds
    change (close outer inner slot first query).Corresponds Worlds Failed _ _
      (close otherOuter otherInner slot second elsewhere)
    rw [close, close, ← bound.state]
    cases state : first.state with
    | destroyed =>
        exact .error (tolerates.lifecycle _ _) bound worlds
    | idle =>
        exact .ok trivial bound worlds
    | active =>
        have released :=
          corresponds_release outerRuns innerRuns (bound.running state) worlds
        dsimp only [CursorState.requireAlive_active]
        rw [if_pos rfl, if_pos rfl]
        generalize release outer inner first query = outcome at released ⊢
        generalize release otherOuter otherInner second elsewhere =
          otherOutcome at released ⊢
        cases released with
        | ok handed running worlds =>
            exact .ok handed (binds.bound running)
              (parallel.booked worlds .cursorClose rfl operatorName _)
        | error failed running worlds =>
            exact .error failed (binds.bound running)
              (parallel.booked worlds .cursorClose rfl operatorName _)
  rowBound := by
    intro query elsewhere worlds
    change (outer.rowBound query + 1) * inner.rowBound query = _
    rw [outerRuns.rowBound worlds, innerRuns.rowBound worlds]
    rfl

/-- Loops correspond if the cursors below them do. -/
theorem corresponds
    (outerCorresponds :
      outer.Corresponds otherOuter Worlds Failed outerTerms)
    (innerCorresponds :
      inner.Corresponds otherInner Worlds Failed innerTerms) :
    (protocol outer inner slot).Corresponds
      (protocol otherOuter otherInner slot) Worlds Failed
      (terms outerTerms innerTerms Given Held Left) where
  toRuns :=
    runs parallel tolerates binds outerCorresponds.toRuns
      innerCorresponds.toRuns
  destroys := by
    intro first second query elsewhere bound worlds
    change (destroy outer inner slot first query).Corresponds Worlds Failed _
      _ (destroy otherOuter otherInner slot second elsewhere)
    rw [destroy, destroy, ← bound.state]
    by_cases destroyed : first.state = .destroyed
    · rw [destroyed]
      exact .error (tolerates.lifecycle _ _) bound worlds
    · rw [CursorState.requireAlive_of_ne destroyed]
      have innerGone := innerCorresponds.destroys bound.inner worlds
      have outerGone :=
        outerCorresponds.destroys bound.outer innerGone.worlds
      exact innerGone.bind_answers outerGone
        ⟨outerGone.cursors, innerGone.cursors, rfl, bound.bindings, nofun⟩
        (parallel.booked outerGone.worlds .cursorDestroy rfl operatorName _)

end

end NestedLoop

end HierQuery
