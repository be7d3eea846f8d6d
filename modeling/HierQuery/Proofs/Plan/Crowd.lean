import HierQuery.Proofs.Plan.Cancellation

/-!
# All cursors of a query

A query may have any number of cursors at a time, of different plans and over
different stores.  They share its counters and the sign that it is canceled,
and calls on them may come in any order.  Others may write to the stores all
the while.

From the moment the query is canceled the crowd of its cursors hands out no
more rows.  One occurrence keeps each tree in order and stops progress if the
query is canceled, and so do all occurrences by induction.
-/

namespace HierQuery

open CursorProtocol

/-- A tree of cursors with its plan and the store adapter that it reads through. -/
structure Member (σ : Type) where
  Storage : Type
  adapter : StoreAdapter Storage σ
  plan : Plan
  cursor : plan.Cursor Storage

namespace Member

variable {σ : Type}

/-- The state of the root. -/
def state (member : Member σ) : CursorState :=
  (member.plan.protocol member.adapter).state member.cursor

/-- Makes a call on the root. -/
def call
    (member : Member σ)
    (made : CursorCall)
    (query : Query σ) :
    Outcome (member.plan.Cursor member.Storage) (Query σ) (Option Row) :=
  (member.plan.protocol member.adapter).call made member.cursor query

/--
The operators of the tree fit together, and if its storage cursors are orderly,
these fit in as well.
-/
structure Upright (member : Member σ) : Prop where
  fits : member.plan.Fitting member.adapter member.cursor
  sound :
    ∀ {StorageSound : member.Storage → Prop} {sure : Prop},
      member.adapter.Orderly StorageSound sure →
        member.plan.Sound member.adapter StorageSound member.cursor

theorem Upright.call
    {member : Member σ}
    (upright : member.Upright)
    (made : CursorCall)
    (query : Query σ) :
    Upright { member with cursor := (member.call made query).cursor } where
  fits :=
    (member.plan.conformant_of_any member.adapter).sound_call
      (member.plan.guarded member.adapter) made upright.fits query
  sound := fun storage =>
    (member.plan.conformant_of_orderly storage).sound_call
      (member.plan.guarded member.adapter) made (upright.sound storage) query

/-- What an active tree does when it is asked for a row after the query was canceled. -/
theorem Upright.refuses
    {member : Member σ}
    (upright : member.Upright)
    (active : member.state = .active)
    {query : Query σ}
    (canceled : query.canceled = true) :
    Refuses member.plan.name query (member.call .next query) ∧
      (∀ state ∈ member.plan.operatorStates (member.call .next query).cursor,
        state = .idle) ∧
        ∀ {StorageSound : member.Storage → Prop} {sure : Prop},
          member.adapter.Orderly StorageSound sure →
            ∀ state ∈
                member.plan.states member.adapter
                  (member.call .next query).cursor,
              state = .idle := by
  have refuses : Refuses member.plan.name query (member.call .next query) :=
    member.plan.refuses_next active canceled
  have after := upright.call .next query
  have idle :
      (member.plan.protocol member.adapter).state
        (member.call .next query).cursor = .idle := by
    have answers :
        AfterNext (member.plan.protocol member.adapter) _
          (member.call .next query) :=
      (member.plan.conformant_of_any member.adapter).answers upright.fits
        active
    have refused := refuses.answer
    generalize member.call .next query = outcome at answers refused ⊢
    cases answers with
    | row | ended =>
        cases refused
    | failed _ idle =>
        exact idle
  refine ⟨refuses, ?_, ?_⟩
  · exact Plan.operatorStates_of_idle after.fits idle
  · intro StorageSound sure storage
    exact Plan.states_of_root (after.sound storage) nofun idle

end Member

/-- All cursors of a query, in the order in which they were made. -/
structure Crowd (σ : Type) where
  members : List (Member σ)
  query : Query σ

namespace Crowd

variable {σ : Type}

/-- What may happen to a crowd. -/
inductive Occurrence (σ : Type)
  /-- Fresh cursors of a plan are made. -/
  | create {κ : Type} (adapter : StoreAdapter κ σ) (plan : Plan)
  /-- The tree with the given number is called, if there is one. -/
  | call (number : Nat) (made : CursorCall)
  | cancel
  /-- The stores are changed from outside. -/
  | write (change : σ → σ)

/-- The crowd after an occurrence. -/
def occur (crowd : Crowd σ) : Occurrence σ → Crowd σ
  | .create adapter plan =>
      match plan.newCursor adapter crowd.query with
      | (.ok cursor, query) =>
          ⟨crowd.members ++ [⟨_, adapter, plan, cursor⟩], query⟩
      | (.error _, query) => ⟨crowd.members, query⟩
  | .call number made =>
      match crowd.members[number]? with
      | none => crowd
      | some member =>
          let outcome := member.call made crowd.query
          ⟨crowd.members.set number { member with cursor := outcome.cursor },
            outcome.world⟩
  | .cancel => ⟨crowd.members, crowd.query.cancel⟩
  | .write change =>
      ⟨crowd.members,
        { crowd.query with store := change crowd.query.store }⟩

/-- The crowd after one occurrence after another. -/
def occurAll (crowd : Crowd σ) (occurrences : List (Occurrence σ)) : Crowd σ :=
  occurrences.foldl occur crowd

/-- Every tree of the crowd is in order. -/
def Upright (crowd : Crowd σ) : Prop :=
  ∀ member ∈ crowd.members, member.Upright

theorem Upright.occur
    {crowd : Crowd σ}
    (upright : crowd.Upright)
    (occurrence : Occurrence σ) :
    (crowd.occur occurrence).Upright := by
  cases occurrence with
  | create adapter plan =>
      rw [Crowd.occur]
      split
      next cursor query made =>
        intro member listed
        rcases List.mem_append.1 listed with old | new
        · exact upright member old
        · rw [List.mem_singleton.1 new]
          exact ⟨(Plan.fitting_newCursor made).1,
            fun storage => (Plan.sound_newCursor storage made).1⟩
      next =>
        exact upright
  | call number made =>
      rw [Crowd.occur]
      split
      next =>
        exact upright
      next called found =>
        intro member listed
        rcases List.mem_or_eq_of_mem_set listed with old | rfl
        · exact upright member old
        · exact (upright called (List.mem_of_getElem? found)).call made
            crowd.query
  | cancel | write change =>
      exact upright

theorem Upright.occurAll
    {crowd : Crowd σ}
    (upright : crowd.Upright)
    (occurrences : List (Occurrence σ)) :
    (crowd.occurAll occurrences).Upright := by
  induction occurrences generalizing crowd with
  | nil =>
      exact upright
  | cons occurrence occurrences ih =>
      exact ih (upright.occur occurrence)

/-- Nothing that occurs to a crowd makes a canceled query go on. -/
theorem stopped_occur
    {crowd : Crowd σ}
    (canceled : crowd.query.canceled = true)
    (occurrence : Occurrence σ) :
    crowd.query.Stopped (crowd.occur occurrence).query := by
  cases occurrence with
  | create adapter plan =>
      rcases plan.newCursor_fromStore adapter crowd.query.store with
        ⟨answer, after, made⟩
      rw [occur, made crowd.query rfl]
      cases answer <;> exact crowd.query.stopped_withStore after
  | call number made =>
      rw [occur]
      split
      · exact Query.frame_stopped.refl crowd.query
      next member _ =>
        exact (member.plan.frames Query.frame_stopped
          member.adapter.frames_stopped).call made member.cursor crowd.query
  | cancel =>
      exact ⟨canceled.symm, fun _ _ _ => rfl⟩
  | write change =>
      exact crowd.query.stopped_withStore _

theorem stopped_occurAll
    {crowd : Crowd σ}
    (canceled : crowd.query.canceled = true)
    (occurrences : List (Occurrence σ)) :
    crowd.query.Stopped (crowd.occurAll occurrences).query := by
  induction occurrences generalizing crowd with
  | nil =>
      exact Query.frame_stopped.refl crowd.query
  | cons occurrence occurrences ih =>
      have first := stopped_occur canceled occurrence
      exact Query.frame_stopped.trans first
        (ih (first.canceled.trans canceled))

/--
Whatever a query and its cursors went through, once it is canceled no cursor of
it ever hands out a row or an end of its rows.  An active tree that is asked
refuses as canceled, counts that once and nothing else, and leaves all its
operators idle, and its storage cursors too if these are orderly.  Any other
tree refuses because of its state and changes nothing.  The counters of rows,
of row counts read and of limits reached never move again.
-/
theorem canceled_for_good
    (query : Query σ)
    (before after : List (Occurrence σ)) :
    let crowd := (Crowd.mk [] query).occurAll before
    let canceled := crowd.occur .cancel
    let now := canceled.occurAll after
    (∀ counter ∈
        [Metrics.Counter.rowsProduced, .limitsReached, .rowCountReads],
      now.query.metrics.get counter = crowd.query.metrics.get counter) ∧
      ∀ member ∈ now.members,
        let asked := member.call .next now.query
        (∀ row?, asked.answer ≠ .ok row?) ∧
          (member.state = .active →
            (∃ error,
              asked.answer = .error error ∧
                error.code.render = "HKX_QUERY_CANCELED") ∧
              asked.world.metrics =
                  now.query.metrics.increment .cancellations ∧
                (∀ state ∈ member.plan.operatorStates asked.cursor,
                  state = .idle) ∧
                  ∀ StorageSound sure,
                    member.adapter.Orderly StorageSound sure →
                      ∀ state ∈
                          member.plan.states member.adapter asked.cursor,
                        state = .idle) ∧
            (member.state ≠ .active →
              ∃ error,
                error.code.render = "HKX_LIFECYCLE_VIOLATION" ∧
                  asked = .fail error member.cursor now.query) := by
  intro crowd canceled now
  have empty : (Crowd.mk [] query).Upright := fun _ none => nomatch none
  have upright : now.Upright :=
    ((empty.occurAll before).occur .cancel).occurAll after
  have stopped : canceled.query.Stopped now.query :=
    stopped_occurAll rfl after
  have isCanceled : now.query.canceled = true := stopped.canceled
  refine ⟨?_, ?_⟩
  · intro counter listed
    refine stopped.progress rfl counter ?_
    simp only [List.mem_cons, List.not_mem_nil, or_false] at listed
    rcases listed with rfl | rfl | rfl <;> rfl
  · intro member listed asked
    have refusesActive (active : member.state = .active) :=
      (upright member listed).refuses active isCanceled
    have refusesOther (notActive : member.state ≠ .active) :
        asked =
          .fail (CursorCall.refusal .next member.state member.plan.name)
            member.cursor now.query :=
      (member.plan.guarded member.adapter).answers notActive
    refine ⟨?_, ?_, ?_⟩
    · intro row? answered
      by_cases active : member.state = .active
      · cases answered.symm.trans (refusesActive active).1.answer
      · rw [refusesOther active] at answered
        cases answered
    · intro active
      rcases refusesActive active with ⟨refuses, operators, storage⟩
      exact ⟨⟨_, refuses.answer, rfl⟩, refuses.metrics, operators,
        fun _ _ orderly => storage orderly⟩
    · intro notActive
      exact ⟨_, rfl, refusesOther notActive⟩

/-- A loop that is asked after its query was canceled stops with all its operators. -/
theorem canceled_for_good_of_active_loop :
    let adapter := MemoryStore.adapter MemoryStore.Sample.sources
    let before : List (Occurrence MemoryStore) :=
      [.create adapter Plan.samplePlan,
        .call 0 (.openWith (.reserve 1)), .call 0 .next]
    let crowd := (Crowd.mk [] Plan.sampleQuery).occurAll before
    let now := (crowd.occur .cancel).occurAll []
    now.members.length = 1 ∧
      ∀ member ∈ now.members,
        let asked := member.call .next now.query
        member.state = .active ∧
          asked.world.metrics =
              now.query.metrics.increment .cancellations ∧
            ∀ state ∈ member.plan.operatorStates asked.cursor,
              state = .idle := by
  intro adapter before crowd now
  have allActive : ∀ member ∈ now.members, member.state = .active := by
    decide +kernel
  refine ⟨by decide +kernel, ?_⟩
  intro member listed asked
  have active := allActive member listed
  rcases ((canceled_for_good Plan.sampleQuery before []).2 member
    listed).2.1 active with ⟨-, metrics, operators, -⟩
  exact ⟨active, metrics, operators⟩

end Crowd

end HierQuery
