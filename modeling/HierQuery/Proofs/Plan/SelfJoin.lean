import HierQuery.Proofs.HKey.Interval
import HierQuery.Proofs.Plan.Counting
import HierQuery.Proofs.Plan.FreshRuns
import HierQuery.Proofs.Plan.Scoping
import HierQuery.Proofs.Plan.Streams
import HierQuery.Proofs.Plan.Typing
import Mathlib.Data.List.Nodup
import Mathlib.Data.List.Perm.Basic

/-!
# Joining a group with itself

A row of a group is found again by its own key.  So a loop that looks up each
row of a plan at its key, and nothing below it, gives back the rows of the plan
one by one, however often the plan repeats them.  All that it takes is that the
plan was accepted and tells the row type of the group.

With the rows below it the lookup gives the row and its stored descendants.  In
the loop over the whole group each row comes once for itself, and once for each
of its ancestors that is stored.  An ancestor that is missing does not count.
-/

namespace HierQuery

/-! ## The rows at and below a key -/

namespace MemoryStore

/-- The stored rows strictly below a key, in the order of their keys. -/
def rowsBelow
    (store : MemoryStore)
    (group : GroupId)
    (key : HKey) :
    List Row :=
  ((store.groupRows group).entries.filter fun entry =>
    key.isAncestorOf entry.1).map Prod.snd

section

variable
  {store : MemoryStore}
  {group : GroupId}
  {key : HKey}
  {row : Row}

/-- Of the rows of a group only one is at its key. -/
theorem rows_exactly
    (stored : (key, row) ∈ (store.groupRows group).entries) :
    ((store.groupRows group).entries.filter fun entry =>
        (KeyRange.exactly key).contains entry.1).map Prod.snd =
      [row] := by
  have alone :=
    (store.groupRows group).filter_eq_cons stored
      (fun entry => (KeyRange.exactly key).contains entry.1)
      (fun _ => false) (beq_self_eq_true key)
      (fun _ _ different => beq_eq_false_iff_ne.2 different)
      (fun _ _ isLater => by cases isLater)
  rw [alone, List.filter_false]
  rfl

/-- At and below the key of a stored row are the row itself and those strictly below it. -/
theorem rows_subtree
    (stored : (key, row) ∈ (store.groupRows group).entries) :
    ((store.groupRows group).entries.filter fun entry =>
        (KeyRange.subtree key).contains entry.1).map Prod.snd =
      row :: store.rowsBelow group key := by
  have first :=
    (store.groupRows group).filter_eq_cons stored
      (fun entry => (KeyRange.subtree key).contains entry.1)
      (fun entry => key.isAncestorOf entry.1) key.isPrefixOf_self
      (fun _ _ different => HKey.isPrefixOf_eq_isAncestorOf different)
      (fun _ _ isLater => HKey.before_of_isAncestorOf isLater)
  rw [first]
  rfl

/-- A stored row is below another key just if that key is an ancestor of its own. -/
theorem mem_rowsBelow
    (placed : store.Placed)
    (stored : (key, row) ∈ (store.groupRows group).entries)
    (upper : HKey) :
    row ∈ store.rowsBelow group upper ↔ upper.isAncestorOf key = true := by
  rw [rowsBelow, List.mem_map]
  constructor
  · rintro ⟨⟨other, _⟩, listed, rfl⟩
    rcases List.mem_filter.1 listed with ⟨alsoStored, below⟩
    have sameKey : other = key :=
      Option.some.inj
        ((placed.row alsoStored).itsKey.symm.trans (placed.row stored).itsKey)
    exact sameKey ▸ below
  · intro below
    exact ⟨(key, row), List.mem_filter.2 ⟨stored, below⟩, rfl⟩

theorem nodup_rows
    (placed : store.Placed)
    (group : GroupId) :
    ((store.groupRows group).entries.map Prod.snd).Nodup := by
  refine List.Nodup.map_on ?_ (SortedMap.nodup_entries _)
  rintro ⟨key, row⟩ stored ⟨other, _⟩ alsoStored rfl
  have sameKey : key = other :=
    Option.some.inj
      ((placed.row stored).itsKey.symm.trans (placed.row alsoStored).itsKey)
  rw [sameKey]

/-- Below a key a stored row comes once if that key is an ancestor, else not at all. -/
theorem count_rowsBelow
    (placed : store.Placed)
    (stored : (key, row) ∈ (store.groupRows group).entries)
    (upper : HKey) :
    (store.rowsBelow group upper).count row =
      if upper.isAncestorOf key then 1 else 0 := by
  have below := mem_rowsBelow placed stored upper
  split
  next above =>
    have distinct : (store.rowsBelow group upper).Nodup :=
      (nodup_rows placed group).sublist (List.filter_sublist.map Prod.snd)
    exact List.count_eq_one_of_mem distinct (below.2 above)
  next notAbove =>
    exact List.count_eq_zero.2 (mt below.1 notAbove)

/-- Each stored row, and after it those strictly below it. -/
def rowsWithDescendants
    (store : MemoryStore)
    (group : GroupId) :
    List Row :=
  (store.groupRows group).entries.flatMap fun entry =>
    entry.2 :: store.rowsBelow group entry.1

/-- A stored row comes once for itself, and once for each of its stored ancestors. -/
theorem count_rowsWithDescendants
    (placed : store.Placed)
    (stored : (key, row) ∈ (store.groupRows group).entries) :
    (store.rowsWithDescendants group).count row =
      1 +
        (store.groupRows group).entries.countP fun entry =>
          entry.1.isAncestorOf key := by
  have below (uppers : List (HKey × Row)) :
      (uppers.flatMap fun entry => store.rowsBelow group entry.1).count row =
        uppers.countP fun entry => entry.1.isAncestorOf key := by
    induction uppers with
    | nil =>
        rfl
    | cons upper uppers ih =>
        rw [List.flatMap_cons, List.count_append,
          count_rowsBelow placed stored, ih, List.countP_cons, Nat.add_comm]
  have itself :
      ((store.groupRows group).entries.map Prod.snd).count row = 1 :=
    List.count_eq_one_of_mem (nodup_rows placed group)
      (List.mem_map.2 ⟨_, stored, rfl⟩)
  rw [rowsWithDescendants,
    ← (List.map_append_flatMap_perm _ _ _).count_eq row, List.count_append,
    itself, below]

end

end MemoryStore

namespace Plan

/-! ## The rows of a group's type -/

/-- A plan that was accepted, with groups that were handed out. -/
inductive Accepted : Plan → Prop
  | scan
      {group : GroupTable}
      {mode : GroupScan.Mode}
      {limit : Limit}
      (issued : Schema.IssuedGroup group) :
      Accepted (.scan ⟨group, mode, limit⟩)
  | count {leaf : Count} :
      Accepted (.count leaf)
  | nestedLoop
      {outer inner plan : Plan}
      {slot : Nat}
      (outerAccepted : Accepted outer)
      (innerAccepted : Accepted inner)
      (made : nested outer inner slot = .ok plan) :
      Accepted plan

section

variable
  {plan : Plan}
  {id : GroupId}
  {store : MemoryStore}

/-- If nothing stands in the way of its cursors, the store knows the group. -/
theorem Accepted.contains_of_no_obstacle
    (accepted : plan.Accepted)
    (itsGroup : plan.rowType.kind = .group id)
    (clear : plan.obstacle? store = none) :
    store.groups.contains id = true := by
  induction accepted with
  | scan issued =>
      rw [rowType, issued.kind] at itsGroup
      cases itsGroup
      rw [obstacle?] at clear
      split at clear
      next known =>
        exact known
      next =>
        cases clear
  | @count leaf =>
      rw [rowType, leaf.singleInteger.1] at itsGroup
      cases itsGroup
  | nestedLoop _ _ made _ innerContains =>
      rcases nested_eq_ok made with ⟨rfl, -⟩
      exact innerContains itsGroup (Option.or_eq_none_iff.1 clear).2

/-- Its rows are stored in the group under their keys. -/
theorem Accepted.stored_of_mem_eval
    (accepted : plan.Accepted)
    (itsGroup : plan.rowType.kind = .group id)
    (sources : SourceRows)
    (placed : store.Placed)
    {bindings : Bindings}
    {row : Row}
    (member : row ∈ (plan.eval sources store bindings).rows) :
    ∃ key,
      row.key? = some key ∧ (key, row) ∈ (store.groupRows id).entries := by
  induction accepted generalizing bindings with
  | scan issued =>
      rw [rowType, issued.kind] at itsGroup
      cases itsGroup
      rw [eval, GroupScan.eval] at member
      split at member
      next =>
        cases member
      next range _ =>
        rcases mem_rowsWithin.1
            ((Limit.cutAfter_prefix _ [] _).subset member) with
          ⟨key, stored, -⟩
        exact ⟨key, (placed.row stored).itsKey, stored⟩
  | @count leaf =>
      rw [rowType, leaf.singleInteger.1] at itsGroup
      cases itsGroup
  | nestedLoop _ _ made _ innerStored =>
      rcases nested_eq_ok made with ⟨rfl, -⟩
      rcases RowStream.mem_rows_forEach member with ⟨source, -, inSource⟩
      rw [NestedLoop.body] at inSource
      split at inSource
      next =>
        cases inSource
      next =>
        exact innerStored itsGroup inSource

end

/-! ## Looking a row up at its key -/

/-- The rows of a group from the key in a slot. -/
def lookup (group : GroupTable) (slot : Nat) (reach : Reach) : Plan :=
  .scan ⟨group, .positional slot reach, .unlimited⟩

section

variable
  (sources : SourceRows)
  {store : MemoryStore}
  {group : GroupTable}
  {slot : Nat}

/-- The body of a lookup, for a row that has a key. -/
theorem body_lookup
    (reach : Reach)
    {bindings : Bindings}
    (inside : slot < bindings.reserved)
    {row : Row}
    {key : HKey}
    (itsKey : row.key? = some key) :
    NestedLoop.body slot ((lookup group slot reach).eval sources store)
        bindings row =
      ⟨((store.groupRows group.id).entries.filter fun entry =>
          (KeyRange.reaching reach key).contains entry.1).map Prod.snd,
        none⟩ := by
  have bound :
      (bindings.withKey slot key).getKey slot = .ok key := by
    rw [Bindings.getKey, Bindings.get_withKey inside, if_pos rfl]
  rw [NestedLoop.body, itsKey]
  dsimp only
  rw [lookup, eval, GroupScan.eval, GroupScan.rangeUnder]
  dsimp only
  rw [bound]
  dsimp only
  rw [Limit.cut_unlimited]
  rfl

/-- Nothing stands in the way of a lookup that does not stand in the way of the plan. -/
theorem Accepted.obstacle_loop
    {plan : Plan}
    (accepted : plan.Accepted)
    (itsGroup : plan.rowType.kind = .group group.id)
    (slot : Nat)
    (reach : Reach) :
    (Plan.nestedLoop plan (lookup group slot reach) slot).obstacle? store =
      plan.obstacle? store := by
  rw [obstacle?]
  cases clear : plan.obstacle? store with
  | some error =>
      rfl
  | none =>
      have known := accepted.contains_of_no_obstacle itsGroup clear
      rw [Option.none_or, lookup, obstacle?, if_pos known]

/-- Looking each row of a group's type up at its key gives the rows back. -/
theorem Accepted.eval_loop_shallow
    {plan : Plan}
    (accepted : plan.Accepted)
    (itsGroup : plan.rowType.kind = .group group.id)
    (placed : store.Placed)
    {bindings : Bindings}
    (inside : slot < bindings.reserved) :
    (Plan.nestedLoop plan (lookup group slot .shallow) slot).eval sources
        store bindings =
      plan.eval sources store bindings := by
  rw [eval]
  apply RowStream.forEach_self
  intro row member
  rcases accepted.stored_of_mem_eval itsGroup sources placed member with
    ⟨key, itsKey, stored⟩
  rw [body_lookup sources .shallow inside itsKey]
  exact congrArg (RowStream.mk · none) (MemoryStore.rows_exactly stored)

/-- Looking each row of a group up with those below it gives it and its descendants. -/
theorem eval_loop_deep
    (placed : store.Placed)
    {bindings : Bindings}
    (inside : slot < bindings.reserved) :
    (nestedLoop (fullScan group) (lookup group slot .deep) slot).eval sources
        store bindings =
      ⟨store.rowsWithDescendants group.id, none⟩ := by
  rw [eval, eval_fullScan]
  have bodies :
      ∀ row ∈ (store.groupRows group.id).entries.map Prod.snd,
        NestedLoop.body slot ((lookup group slot .deep).eval sources store)
            bindings row =
          ⟨row :: (row.key?.elim [] (store.rowsBelow group.id)), none⟩ := by
    intro row member
    rcases List.mem_map.1 member with ⟨⟨key, _⟩, stored, rfl⟩
    have itsKey := (placed.row stored).itsKey
    rw [body_lookup sources .deep inside itsKey, itsKey]
    exact congrArg (RowStream.mk · none) (MemoryStore.rows_subtree stored)
  rw [RowStream.forEach_of_unfailing bodies, MemoryStore.rowsWithDescendants]
  dsimp only
  rw [List.flatMap_map]
  congr 1
  apply List.flatMap_congr
  rintro ⟨key, row⟩ stored
  have itsKey : row.key? = some key := (placed.row stored).itsKey
  rw [itsKey]
  rfl

end

/--
If a plan was accepted and tells the row type of a group, its loop with a
lookup of each row at its key is accepted, and it runs like the plan.  The loop
over a whole group that also takes the rows below is accepted, and its run
gives each stored row with its stored descendants.  So a stored row comes once
more than it has ancestors that are stored.
-/
theorem collectFresh_selfJoined
    (sources : SourceRows)
    {group : GroupTable}
    (issued : Schema.IssuedGroup group)
    (slot : Nat)
    {schema : Schema}
    (query : Query MemoryStore)
    (reachable : query.store.Reachable schema)
    (running : query.canceled = false) :
    (∀ plan : Plan,
      plan.Accepted →
        plan.rowType = group.rowType →
          ∃ loop,
            nested plan (lookup group slot .shallow) slot = .ok loop ∧
              ∀ bindings,
                loop.bindingSlots ≤ bindings.reserved →
                  loop.collectFresh sources bindings query =
                    plan.collectFresh sources bindings query) ∧
      ∃ loop,
        nested (fullScan group) (lookup group slot .deep) slot = .ok loop ∧
          ((∃ known ∈ schema.groups, known.id = group.id) →
            ∀ bindings,
              loop.bindingSlots ≤ bindings.reserved →
                loop.collectFresh sources bindings query =
                  .ok (query.store.rowsWithDescendants group.id)) ∧
            ∀ key row,
              (key, row) ∈ (query.store.groupRows group.id).entries →
                (query.store.rowsWithDescendants group.id).count row =
                  1 +
                    (query.store.groupRows group.id).entries.countP
                      fun entry => entry.1.isAncestorOf key := by
  have placed := reachable.placed
  constructor
  · intro plan accepted itsType
    have itsGroup : plan.rowType.kind = .group group.id := by
      rw [itsType, issued.kind]
    refine ⟨nestedLoop plan (lookup group slot .shallow) slot, ?_, ?_⟩
    · rw [nested, itsGroup]
      rfl
    · intro bindings roomy
      rcases bindingSlots_nestedLoop_le_iff.1 roomy with
        ⟨inside, planRoomy, -⟩
      exact
        collectFresh_congr sources roomy planRoomy running placed
          (accepted.obstacle_loop itsGroup slot .shallow)
          fun _ => accepted.eval_loop_shallow sources itsGroup placed inside
  · refine ⟨nestedLoop (fullScan group) (lookup group slot .deep) slot, ?_, ?_,
      fun _ _ stored => MemoryStore.count_rowsWithDescendants placed stored⟩
    · rw [nested, fullScan, rowType, issued.kind]
      rfl
    · rintro ⟨known, listed, sameId⟩ bindings roomy
      have contained : query.store.groups.contains group.id = true := by
        rw [← sameId]
        exact placed.groups known (reachable.schema_eq ▸ listed)
      have clear :
          (nestedLoop (fullScan group) (lookup group slot .deep) slot).obstacle?
              query.store =
            none :=
        ((Accepted.scan issued).obstacle_loop issued.kind slot .deep).trans
          (if_pos contained)
      have inside := (bindingSlots_nestedLoop_le_iff.1 roomy).1
      rw [collectFresh_eq sources roomy running placed, clear]
      dsimp only
      rw [eval_loop_deep sources placed inside]
      rfl

/-- The order of the sample store comes once for itself and once for its customer. -/
theorem collectFresh_selfJoined_of_sample :
    let group := MemoryStore.Sample.group
    let sources := MemoryStore.Sample.sources
    let shallow := nestedLoop samplePlan (lookup group 0 .shallow) 0
    let deep := nestedLoop (fullScan group) (lookup group 0 .deep) 0
    let rows :=
      [MemoryStore.Sample.customerRow, MemoryStore.Sample.orderRow,
        MemoryStore.Sample.orderRow]
    Schema.IssuedGroup group ∧
      samplePlan.Accepted ∧
        shallow.collectFresh sources (.reserve 1) sampleQuery =
            samplePlan.collectFresh sources (.reserve 1) sampleQuery ∧
          deep.collectFresh sources (.reserve 1) sampleQuery = .ok rows ∧
            rows.count MemoryStore.Sample.orderRow = 2 := by
  intro group sources shallow deep rows
  have itsSchema :
      (Schema.Issuing.serveAll sampleTables).schema =
        MemoryStore.Sample.schema := by
    decide
  have listed : group ∈ MemoryStore.Sample.schema.groups :=
    List.mem_cons_self
  have issued : Schema.IssuedGroup group := ⟨sampleTables, itsSchema ▸ listed⟩
  have accepted : samplePlan.Accepted :=
    .nestedLoop (.scan issued) (.scan issued) rfl
  rcases collectFresh_selfJoined sources issued 0 sampleQuery
      reachable_sampleQuery rfl with
    ⟨again, loop, made, joined, counted⟩
  cases made
  have itsRows : sampleQuery.store.rowsWithDescendants group.id = rows := by
    decide +kernel
  refine ⟨issued, accepted, ?_, ?_, ?_⟩
  · rcases again samplePlan accepted rfl with ⟨loop, made, same⟩
    cases made
    exact same (.reserve 1) (by decide)
  · rw [← itsRows]
    exact joined ⟨group, listed, rfl⟩ (.reserve 1) (by decide)
  · rw [← itsRows]
    exact
      (counted ((HKey.root ⟨1⟩ [.int 1]).child ⟨2⟩ [.int 7])
        MemoryStore.Sample.orderRow (by decide +kernel)).trans
          (by decide +kernel)

end Plan

end HierQuery
