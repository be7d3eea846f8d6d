import HierQuery.Proofs.Cursor.Bisimulation
import HierQuery.Proofs.Plan.LoopCorrespondence
import HierQuery.Proofs.Plan.Stability

/-!
# Cursors that opening makes alike

A used cursor holds much that is left from its past: the range and the position
of a storage cursor, the tally of a limit, the bindings of a loop.  Opening it
makes all of that count for nothing.

Two cursors of an operator are alike if they are in the same state and agree
on what the next call depends on, which is nothing that opening sets anew
unless they are active.  For each operator this is a bisimulation.
-/

namespace HierQuery

open CursorProtocol MemoryStore

/-! ## Scans -/

namespace GroupScan

/-- A cursor of the scan whose storage cursor belongs to it and is in its state. -/
structure Paired (scan : GroupScan) (cursor : Cursor GroupCursor) : Prop where
  attached : scan.Attached cursor
  storage : cursor.storage.state = cursor.state

/-- Cursors of a scan that differ at most in what opening forgets. -/
structure Alike
    (scan : GroupScan)
    (first second : Cursor GroupCursor) :
    Prop where
  firstPaired : scan.Paired first
  secondPaired : scan.Paired second
  state : first.state = second.state
  active : first.state = .active → first = second

variable
  {scan : GroupScan}
  {sources : SourceRows}

theorem Paired.alike
    {cursor : Cursor GroupCursor}
    (paired : scan.Paired cursor) :
    scan.Alike cursor cursor :=
  ⟨paired, paired, rfl, fun _ => rfl⟩

theorem Paired.call
    {cursor : Cursor GroupCursor}
    (paired : scan.Paired cursor)
    (sources : SourceRows)
    (made : CursorCall)
    (query : Query MemoryStore) :
    scan.Paired
      ((scan.protocol (adapter sources)).call made cursor query).cursor := by
  have framed :
      scan.Framed query
        ((scan.protocol (adapter sources)).call made cursor query) :=
    framed_call made paired.attached
  have sound : Sound (adapter sources) (fun _ => True) cursor :=
    ⟨trivial, paired.storage⟩
  have conformant :=
    scan.conformant (adapter_conformant sources).orderly
  exact ⟨framed.attached,
    (conformant.sound_call (scan.guarded _) made sound query).state⟩

/-- The cursor of a scan that was just opened on a range. -/
def begun (scan : GroupScan) (range : KeyRange) : Cursor GroupCursor where
  storage := { group := scan.group.id, state := .active, range }
  state := .active
  range := range

/-- The query once a scan has found the range it visits. -/
def positioned (scan : GroupScan) (query : Query MemoryStore) : Query MemoryStore :=
  match scan.mode with
  | .full => query
  | .positional _ _ => query.count .rebinds

/-- What opening an idle scan comes to does not depend on the past of its cursor. -/
theorem openWith_of_paired
    {cursor : Cursor GroupCursor}
    (paired : scan.Paired cursor)
    (idle : cursor.state = .idle)
    (bindings : Bindings)
    (query : Query MemoryStore) :
    scan.openWith (adapter sources) bindings cursor query =
      match scan.rangeUnder bindings with
      | .error error => .fail error cursor query
      | .ok range =>
          .pure () (scan.begun range)
            (((scan.positioned query).count .cursorsOpened).trace .cursorOpen
              operatorName range.render) := by
  rcases cursor with
    ⟨⟨group, stored, storageRange, position?⟩, state, range, tally⟩
  rcases paired with ⟨⟨sameGroup, whole⟩, sameState⟩
  cases idle
  cases sameState
  cases sameGroup
  rw [openWith, CursorState.requireIdle_idle, rangeUnder, positioned]
  dsimp only
  rw [position]
  cases mode : scan.mode with
  | full =>
      rcases whole mode with ⟨wholeRange, wholeStorage⟩
      cases wholeRange
      cases wholeStorage
      rfl
  | positional slot reach =>
      dsimp only
      cases bindings.getKey slot <;> rfl

theorem paired_begun
    {bindings : Bindings}
    {range : KeyRange}
    (found : scan.rangeUnder bindings = .ok range) :
    scan.Paired (scan.begun range) := by
  refine ⟨⟨rfl, ?_⟩, rfl⟩
  intro full
  rw [rangeUnder, full] at found
  cases found
  exact ⟨rfl, rfl⟩

/-- No call tells cursors of a scan apart that differ in what opening forgets. -/
theorem bisimulation (scan : GroupScan) (sources : SourceRows) :
    (scan.protocol (adapter sources)).Bisimulation scan.Alike := by
  have same
      {κ : Type}
      {outcome : Outcome (Cursor GroupCursor) (Query MemoryStore) κ}
      (paired : scan.Paired outcome.cursor) :
      outcome.Agree scan.Alike outcome :=
    .same paired.alike
  refine (scan.guarded (adapter sources)).bisimulation ?state ?opens ?answers
    ?closes ?destroys
  case state =>
    exact fun alike => alike.state
  case opens =>
    intro first second alike idle bindings query
    change (scan.openWith _ bindings first query).Agree _
      (scan.openWith _ bindings second query)
    rw [openWith_of_paired alike.firstPaired idle,
      openWith_of_paired alike.secondPaired (alike.state.symm.trans idle)]
    split
    · exact .same alike
    next found =>
      exact .same (paired_begun found).alike
  case answers =>
    intro first second alike active query
    cases alike.active active
    exact same (alike.firstPaired.call sources .next query)
  case closes =>
    intro first second alike active query
    cases alike.active active
    exact same (alike.firstPaired.call sources .close query)
  case destroys =>
    intro first second alike alive query
    have firstGone := alike.firstPaired.call sources .destroy query
    have secondGone := alike.secondPaired.call sources .destroy query
    rcases first with
      ⟨⟨firstGroup, firstStored, firstRange, firstLast⟩, state, r, t⟩
    rcases second with
      ⟨⟨secondGroup, secondStored, secondRange, secondLast⟩, other, r', t'⟩
    cases alike.state
    cases alike.firstPaired.storage
    cases alike.secondPaired.storage
    cases state with
    | destroyed =>
        exact (alive rfl).elim
    | idle | active =>
        exact .same ⟨firstGone, secondGone, rfl, nofun⟩

end GroupScan

/-! ## Counts -/

namespace Count

/-- Cursors of a count of which an idle one may hold anything. -/
structure Alike (first second : Cursor) : Prop where
  state : first.state = second.state
  active : first.state = .active → first = second

theorem alike_self (cursor : Cursor) : Alike cursor cursor :=
  ⟨rfl, fun _ => rfl⟩

theorem bisimulation
    {κ σ : Type}
    (count : Count)
    (adapter : StoreAdapter κ σ) :
    (count.protocol adapter).Bisimulation Alike := by
  have same
      {ρ : Type}
      (outcome : Outcome Cursor (Query σ) ρ) :
      outcome.Agree Alike outcome :=
    .same (alike_self outcome.cursor)
  refine (count.guarded adapter).bisimulation ?state ?opens ?answers
    ?closes ?destroys
  case state =>
    exact fun alike => alike.state
  case opens =>
    intro first second alike idle bindings query
    change (count.openWith bindings first query).Agree _
      (count.openWith bindings second query)
    rw [openWith, openWith, ← alike.state, show first.state = .idle from idle]
    exact same _
  case answers =>
    intro first second alike active query
    cases alike.active active
    exact same _
  case closes =>
    intro first second alike active query
    cases alike.active active
    exact same _
  case destroys =>
    intro first second alike alive query
    change (count.destroy first query).Agree _ (count.destroy second query)
    rw [destroy, destroy, ← alike.state,
      CursorState.requireAlive_of_ne (show first.state ≠ .destroyed from alive)]
    exact same _

end Count

/-! ## Nested loops -/

namespace NestedLoop

variable {α β σ : Type}

/-- Loops whose cursors are alike, and their bindings the same while they are active. -/
structure Alike
    (OuterAlike : α → α → Prop)
    (InnerAlike : β → β → Prop)
    (first second : Cursor α β) :
    Prop where
  outer : OuterAlike first.outer second.outer
  inner : InnerAlike first.inner second.inner
  state : first.state = second.state
  active : first.state = .active → first.bindings = second.bindings

/-- No call tells loops apart if no call tells their cursors apart. -/
theorem bisimulation
    {outer : CursorProtocol α (Query σ)}
    {inner : CursorProtocol β (Query σ)}
    {OuterAlike : α → α → Prop}
    {InnerAlike : β → β → Prop}
    (outerBisimulation : outer.Bisimulation OuterAlike)
    (innerBisimulation : inner.Bisimulation InnerAlike)
    (slot : Nat) :
    (protocol outer inner slot).Bisimulation
      (Alike OuterAlike InnerAlike) := by
  have binds :
      Binds slot (fun _ => True) ⟨OuterAlike, Eq, fun _ => True⟩
        ⟨InnerAlike, Eq, fun _ => True⟩ Eq Eq fun _ _ => True :=
    binds_same (fun _ => trivial) rfl rfl (fun _ _ => trivial)
      fun _ _ _ => trivial
  have loops :=
    corresponds Query.parallel_eq ExecError.tolerates_any binds
      outerBisimulation.corresponds innerBisimulation.corresponds
  refine loops.bisimulation (fun _ => rfl) ?_
  intro first second
  constructor
  · intro alike
    exact ⟨alike.outer, alike.inner, alike.state, trivial, alike.active⟩
  · intro bound
    exact ⟨bound.outer, bound.inner, bound.state, bound.active⟩

end NestedLoop

end HierQuery
