import HierQuery.Proofs.Plan.Trees

/-!
# The scope of binding slots

A scan reads a slot, and a loop binds a slot for all that is inside of it.  So
the slots that a plan reads from the bindings it is opened with are those that
some scan reads without being inside of a loop that binds them.

Bindings with enough slots never fail a plan by their number, and whatever else
they hold, only the free slots matter.  The proof compares two trees whose
bindings agree on the free slots, and follows the slots down into the tree: the
copy of a loop keeps agreeing when a key is bound, and for the inner plan it
agrees on the bound slot as well.
-/

namespace HierQuery

open CursorProtocol MemoryStore

namespace Bindings

/-- What a slot holds once a key was bound to one. -/
theorem get_withKey
    {bindings : Bindings}
    {slot : Nat}
    (inside : slot < bindings.reserved)
    (key : HKey)
    (other : Nat) :
    (bindings.withKey slot key).get other =
      if other = slot then .ok (.key key) else bindings.get other := by
  split
  next same =>
    rw [same]
    exact get_set_same (set_key_eq_ok inside key)
  next different =>
    rw [get, get, reserved_withKey, withKey,
      List.getElem?_set_ne (Ne.symm different)]

end Bindings

namespace Plan

/-- A slot that a plan reads from the bindings it is opened with. -/
inductive Free : Plan → Nat → Prop
  | scan
      {leaf : GroupScan}
      {slot : Nat}
      {reach : Reach}
      (reads : leaf.mode = .positional slot reach) :
      Free (.scan leaf) slot
  | outer
      {outer inner : Plan}
      {bound slot : Nat}
      (free : Free outer slot) :
      Free (.nestedLoop outer inner bound) slot
  | inner
      {outer inner : Plan}
      {bound slot : Nat}
      (free : Free inner slot)
      (unbound : slot ≠ bound) :
      Free (.nestedLoop outer inner bound) slot

/--
Two bindings that are large enough for a plan and agree on its free slots.  The
free slots that hold nothing, or no key, are among those that are told.
-/
structure Agree
    (Unset Scalar : Nat → Prop)
    (plan : Plan)
    (first second : Bindings) :
    Prop where
  room : plan.bindingSlots ≤ first.reserved
  otherRoom : plan.bindingSlots ≤ second.reserved
  same : ∀ slot, plan.Free slot → first.get slot = second.get slot
  unset :
    ∀ slot, plan.Free slot →
      first.get slot = .error ⟨.bindingUnset slot, none⟩ → Unset slot
  scalar :
    ∀ slot value, plan.Free slot →
      first.get slot = .ok (.scalar value) → Scalar slot

/-- Why a plan with large enough bindings may fail: of the slots, only those told are to blame. -/
def Blames (Unset Scalar : Nat → Prop) : ExecError.Cause → Prop
  | .bindingOutOfRange _ _ => False
  | .bindingUnset slot => Unset slot
  | .bindingType slot _ _ => Scalar slot
  | _ => True

theorem tolerates_blames (Unset Scalar : Nat → Prop) :
    Tolerates (Blames Unset Scalar) where
  lifecycle := fun _ _ => trivial
  canceled := fun _ => trivial
  notTableType := fun _ => trivial
  storage := fun _ => trivial

/-- The slot to blame goes with the code under which a failure is reported. -/
theorem blames_of_code
    {Unset Scalar : Nat → Prop}
    {error : ExecError}
    (blames : Blames Unset Scalar error.cause) :
    error.code.render ≠ "HKX_BINDING_OUT_OF_RANGE" ∧
      (error.code.render = "HKX_BINDING_UNSET" →
        ∃ slot, error.cause = .bindingUnset slot ∧ Unset slot) ∧
        (error.code.render = "HKX_BINDING_TYPE" →
          ∃ slot expected actual,
            error.cause = .bindingType slot expected actual ∧
              Scalar slot) := by
  rcases error with ⟨cause, operator?⟩
  cases cause with
  | bindingOutOfRange =>
      exact blames.elim
  | bindingUnset slot =>
      exact ⟨by simp [ExecError.code, ExecError.Code.render],
        fun _ => ⟨slot, rfl, blames⟩,
        by simp [ExecError.code, ExecError.Code.render]⟩
  | bindingType slot expected actual =>
      exact ⟨by simp [ExecError.code, ExecError.Code.render],
        by simp [ExecError.code, ExecError.Code.render],
        fun _ => ⟨slot, expected, actual, rfl, blames⟩⟩
  | lifecycleViolation | invalidArgument | queryCanceled | storage =>
      simp [ExecError.code, ExecError.Code.render]

variable
  {Unset Scalar : Nat → Prop}
  {outer inner plan part : Plan}
  {slot : Nat}
  {first second : Bindings}

/-- Bindings that are large enough for a loop have its slot and do for both plans. -/
theorem bindingSlots_nestedLoop_le_iff {size : Nat} :
    (nestedLoop outer inner slot).bindingSlots ≤ size ↔
      slot < size ∧ outer.bindingSlots ≤ size ∧ inner.bindingSlots ≤ size := by
  rw [bindingSlots]
  omega

theorem Agree.ofOuter
    (agree : (nestedLoop outer inner slot).Agree Unset Scalar first second) :
    outer.Agree Unset Scalar first second where
  room := (bindingSlots_nestedLoop_le_iff.1 agree.room).2.1
  otherRoom := (bindingSlots_nestedLoop_le_iff.1 agree.otherRoom).2.1
  same := fun slot free => agree.same slot (.outer free)
  unset := fun slot free => agree.unset slot (.outer free)
  scalar := fun slot value free => agree.scalar slot value (.outer free)

/-- With a key bound to a slot, bindings agree for a part that is free in no other slots. -/
theorem Agree.withKey
    (agree : plan.Agree Unset Scalar first second)
    (key : HKey)
    (inside : slot < plan.bindingSlots)
    (smaller : part.bindingSlots ≤ plan.bindingSlots)
    (free : ∀ other, part.Free other → other ≠ slot → plan.Free other) :
    part.Agree Unset Scalar (first.withKey slot key)
      (second.withKey slot key) := by
  have insideFirst := Nat.lt_of_lt_of_le inside agree.room
  have insideSecond := Nat.lt_of_lt_of_le inside agree.otherRoom
  constructor
  case room =>
    rw [Bindings.reserved_withKey]
    exact Nat.le_trans smaller agree.room
  case otherRoom =>
    rw [Bindings.reserved_withKey]
    exact Nat.le_trans smaller agree.otherRoom
  case same =>
    intro other isFree
    rw [Bindings.get_withKey insideFirst, Bindings.get_withKey insideSecond]
    split
    · rfl
    next different =>
      exact agree.same other (free other isFree different)
  case unset =>
    intro other isFree holds
    rw [Bindings.get_withKey insideFirst] at holds
    split at holds
    · cases holds
    next different =>
      exact agree.unset other (free other isFree different) holds
  case scalar =>
    intro other value isFree holds
    rw [Bindings.get_withKey insideFirst] at holds
    split at holds
    · cases holds
    next different =>
      exact agree.scalar other value (free other isFree different) holds

/-- In a positional scan a failure to read the slot is to be blamed on it. -/
theorem Agree.blames_getKey
    {leaf : GroupScan}
    {reach : Reach}
    (agree : (scan leaf).Agree Unset Scalar first second)
    (reads : leaf.mode = .positional slot reach)
    {error : ExecError}
    (fails : first.getKey slot = .error error) :
    Blames Unset Scalar error.cause := by
  have free : (scan leaf).Free slot := .scan reads
  have inside : slot < first.slots.length := by
    have room := agree.room
    rw [bindingSlots, reads] at room
    exact room
  rw [Bindings.getKey] at fails
  cases holds : first.slots[slot] with
  | none =>
      have held : first.get slot = .error ⟨.bindingUnset slot, none⟩ := by
        rw [Bindings.get, List.getElem?_eq_getElem inside, holds]
      rw [held] at fails
      cases fails
      exact agree.unset slot free held
  | some value =>
      have held : first.get slot = .ok value := by
        rw [Bindings.get, List.getElem?_eq_getElem inside, holds]
      rw [held] at fails
      cases value with
      | key =>
          cases fails
      | scalar value =>
          cases fails
          exact agree.scalar slot value free held

/-! ## Trees whose bindings agree -/

/-- The terms of two trees of a plan that are opened with bindings that agree. -/
abbrev agreeing
    (Unset Scalar : Nat → Prop)
    (plan : Plan) :
    Terms (plan.Cursor GroupCursor) (plan.Cursor GroupCursor) :=
  plan.terms (Agree Unset Scalar) fun _ _ => True

/-- What agrees for a loop agrees for its cursors, also after keys were bound. -/
theorem binds_agreeing (outer inner : Plan) (slot : Nat) :
    NestedLoop.Binds slot (Blames Unset Scalar) (outer.agreeing Unset Scalar)
      (inner.agreeing Unset Scalar)
      ((nestedLoop outer inner slot).Agree Unset Scalar)
      ((nestedLoop outer inner slot).Agree Unset Scalar) fun _ _ => True := by
  rcases bindingSlots_nestedLoop_le_iff.1 (Nat.le_refl _) with
    ⟨inside, -, smaller⟩
  constructor
  case leaves =>
    exact fun _ => trivial
  case opens =>
    intro first second agree
    rw [given_terms]
    exact ⟨agree.ofOuter, agree⟩
  case room =>
    intro first second agree
    have room := Nat.lt_of_lt_of_le inside agree.room
    exact ⟨iff_of_true room (Nat.lt_of_lt_of_le inside agree.otherRoom),
      fun outside => (outside room).elim⟩
  case keyless =>
    exact fun _ _ _ => trivial
  case sets =>
    intro first second key agree
    refine .inl ⟨_, _,
      Bindings.set_key_eq_ok (Nat.lt_of_lt_of_le inside agree.room) key,
      Bindings.set_key_eq_ok (Nat.lt_of_lt_of_le inside agree.otherRoom) key,
      ?_, ?_⟩
    · rw [given_terms]
      exact agree.withKey key inside smaller fun _ => .inner
    · exact agree.withKey key inside (Nat.le_refl _) fun _ free _ => free

/-- No call tells two trees apart whose bindings agree. -/
theorem corresponds_agreeing
    (sources : SourceRows)
    (store : MemoryStore)
    (plan : Plan) :
    (plan.protocol (adapter sources)).Corresponds
      (plan.protocol (adapter sources)) (StillQuery store)
      (Blames Unset Scalar) (plan.agreeing Unset Scalar) := by
  have tolerates := tolerates_blames Unset Scalar
  induction plan with
  | scan leaf =>
      refine GroupScan.corresponds parallel_still tolerates.toTolerates ?_
        (corresponds_still tolerates fun _ _ _ => trivial)
      constructor
      case opens =>
        exact fun _ => trivial
      case key =>
        intro first second slot reach agree reads
        refine ⟨?_, fun _ => agree.blames_getKey reads⟩
        rw [Bindings.getKey, Bindings.getKey, agree.same slot (.scan reads)]
  | count leaf =>
      exact Count.corresponds parallel_still tolerates.toTolerates
        (counts_still tolerates) fun _ => trivial
  | nestedLoop outer inner slot outerCorresponds innerCorresponds =>
      exact NestedLoop.corresponds parallel_still.toParallel
        tolerates.toTolerates (binds_agreeing outer inner slot) outerCorresponds
        innerCorresponds

/-! ## Lives with bindings that agree -/

/-- The same happening, but if it opens the tree, then with the given bindings. -/
def Happening.openedWith (bindings : Bindings) : Happening → Happening
  | .call (.openWith _) => .call (.openWith bindings)
  | happening => happening

theorem Happening.paired_openedWith
    {Given : Bindings → Bindings → Prop}
    {bindings others : Bindings}
    (given : Given bindings others)
    (happening : Happening) :
    (happening.openedWith bindings).Paired Given
      (happening.openedWith others) := by
  cases happening with
  | cancel =>
      exact .cancel
  | write action =>
      exact .write action
  | call made =>
      cases made with
      | openWith =>
          exact .call (.openWith given)
      | next =>
          exact .call .next
      | close =>
          exact .call .close
      | destroy =>
          exact .call .destroy

/-- Trees whose bindings agree live alike, and only free slots are ever to blame. -/
theorem agreeing_live
    (sources : SourceRows)
    {cursor other : plan.Cursor GroupCursor}
    (cursors : (plan.agreeing Unset Scalar).Cursors cursor other)
    {bindings others : Bindings}
    (agree : plan.Agree Unset Scalar bindings others)
    (query : Query MemoryStore)
    (happenings : List Happening) :
    let under bindings := happenings.map (Happening.openedWith bindings)
    plan.transcript sources (cursor, query) (under bindings) =
        plan.transcript sources (other, query) (under others) ∧
      (plan.live sources (cursor, query) (under bindings)).2 =
          (plan.live sources (other, query) (under others)).2 ∧
        ∀ observation ∈
            plan.transcript sources (cursor, query) (under bindings),
          ∀ error, observation.answer = .error error →
            Blames Unset Scalar error.cause := by
  induction happenings generalizing cursor other query with
  | nil =>
      exact ⟨rfl, rfl, nofun⟩
  | cons happening happenings ih =>
      rcases happen_terms (plan.corresponds_agreeing sources query.store)
          cursors (happening.paired_openedWith agree) with
        ⟨seen, kept, cursorLeft, otherLeft, left, goes, otherGoes, cursors⟩
      rcases ih cursors left with ⟨transcripts, queries, later⟩
      dsimp only
      rw [List.map_cons, List.map_cons, transcript, transcript, live, live,
        List.foldl_cons, List.foldl_cons, ← seen, goes, otherGoes,
        transcripts]
      refine ⟨rfl, queries, ?_⟩
      intro observation listed error fails
      rcases List.mem_append.1 listed with now | after
      · exact (kept observation (Option.mem_toList.1 now)).2 error fails
      · rw [← transcripts] at after
        exact later observation after error fails

/--
A tree over a memory store that is always opened with the same bindings, large
enough for its plan, never fails because of their size.  If it fails for a slot
without a value or with a scalar, the slot is free in the plan, and this is
what the bindings hold there.  With other bindings of any sufficient size that
agree on the free slots, the same happenings give the same answers and leave
the same states and the same query, call by call.
-/
theorem scope_of_bindings
    (sources : SourceRows)
    {plan : Plan}
    {query afterwards : Query MemoryStore}
    {cursor : plan.Cursor GroupCursor}
    (made :
      plan.newCursor (adapter sources) query = (.ok cursor, afterwards))
    (bindings : Bindings)
    (enough : plan.bindingSlots ≤ bindings.reserved)
    (happenings : List Happening) :
    let life bindings := happenings.map (Happening.openedWith bindings)
    let seen bindings :=
      plan.transcript sources (cursor, afterwards) (life bindings)
    (∀ observation ∈ seen bindings, ∀ error,
        observation.answer = .error error →
          error.code.render ≠ "HKX_BINDING_OUT_OF_RANGE" ∧
            (error.code.render = "HKX_BINDING_UNSET" →
              ∃ slot,
                error.cause = .bindingUnset slot ∧
                  plan.Free slot ∧ bindings.slots[slot]? = some none) ∧
              (error.code.render = "HKX_BINDING_TYPE" →
                ∃ slot expected actual value,
                  error.cause = .bindingType slot expected actual ∧
                    plan.Free slot ∧
                      bindings.slots[slot]? = some (some (.scalar value)))) ∧
      ∀ others : Bindings,
        plan.bindingSlots ≤ others.reserved →
          (∀ slot, plan.Free slot → bindings.get slot = others.get slot) →
            seen bindings = seen others ∧
              (plan.live sources (cursor, afterwards) (life bindings)).2 =
                (plan.live sources (cursor, afterwards) (life others)).2 := by
  let Unset slot := plan.Free slot ∧ bindings.slots[slot]? = some none
  let Scalar slot :=
    plan.Free slot ∧
      ∃ value, bindings.slots[slot]? = some (some (.scalar value))
  have agrees
      (others : Bindings)
      (otherEnough : plan.bindingSlots ≤ others.reserved)
      (same : ∀ slot, plan.Free slot → bindings.get slot = others.get slot) :
      plan.Agree Unset Scalar bindings others := by
    refine ⟨enough, otherEnough, same, ?_, ?_⟩
    · intro slot free holds
      refine ⟨free, ?_⟩
      rw [Bindings.get] at holds
      split at holds <;> first | assumption | cases holds
    · intro slot value free holds
      refine ⟨free, value, ?_⟩
      rw [Bindings.get] at holds
      split at holds
      next => cases holds
      next => cases holds
      next held =>
        cases holds
        exact held
  have alike : (plan.agreeing Unset Scalar).Cursors cursor cursor :=
    terms_newCursor made
  intro life seen
  constructor
  · intro observation listed error fails
    have itself := agrees bindings enough fun _ _ => rfl
    have blames :=
      (agreeing_live sources alike itself afterwards happenings).2.2
        observation listed error fails
    rcases blames_of_code blames with ⟨inRange, unset, scalar⟩
    refine ⟨inRange, unset, ?_⟩
    intro reported
    rcases scalar reported with
      ⟨slot, expected, actual, cause, free, value, holds⟩
    exact ⟨slot, expected, actual, value, cause, free, holds⟩
  · intro others otherEnough same
    rcases agreeing_live sources alike (agrees others otherEnough same)
        afterwards happenings with
      ⟨transcripts, queries, -⟩
    exact ⟨transcripts, queries⟩

/-- A loop binds the slot of its inner scan, so it does not matter what the slot holds before. -/
theorem scope_of_bindings_of_loop :
    let sources := MemoryStore.Sample.sources
    let seen bindings :=
      samplePlan.transcript sources (sampleCursor, sampleQuery)
        ([.call (.openWith bindings), .call .next, .call .next,
            .call .next].map
          (Happening.openedWith bindings))
    samplePlan.newCursor (adapter sources) sampleQuery =
        (.ok sampleCursor, sampleQuery) ∧
      samplePlan.bindingSlots = 1 ∧
        (∀ slot, ¬ samplePlan.Free slot) ∧
          seen (.reserve 1) = seen ⟨[some (.scalar (.int 7)), none]⟩ ∧
            (seen (.reserve 1)).map (fun seen => seen.answer.toOption) =
              [some none, some (some MemoryStore.Sample.customerRow),
                some (some MemoryStore.Sample.orderRow), some none] := by
  intro sources seen
  have made :
      samplePlan.newCursor (adapter sources) sampleQuery =
        (.ok sampleCursor, sampleQuery) :=
    rfl
  have bound : ∀ slot, ¬ samplePlan.Free slot := by
    intro slot free
    cases free with
    | outer free =>
        cases free with
        | scan reads =>
            cases reads
    | inner free unbound =>
        cases free with
        | scan reads =>
            cases reads
            exact unbound rfl
  have scope :=
    scope_of_bindings sources made (.reserve 1) (Nat.le_refl 1)
      [.call (.openWith (.reserve 1)), .call .next, .call .next, .call .next]
  refine ⟨made, rfl, bound, ?_, by decide +kernel⟩
  exact (scope.2 ⟨[some (.scalar (.int 7)), none]⟩ (by decide)
    fun slot free => (bound slot free).elim).1

end Plan

end HierQuery
