import HierQuery.Proofs.Plan.Trees
import HierQuery.Proofs.Schema.Issuing

/-!
# Rows fit the type of their plan

A plan tells the type of its rows before it runs.  For a plan that was put
together from the groups and tables of a schema, each row that comes is a row
of the told group, stored there under its key, or a computed row of the told
type.

So an outer row always has a key that can be bound.  Nothing of this is looked
at when rows pass: it rests on what was checked when the plan was built, and on
what a store keeps to whatever is written.
-/

namespace HierQuery

open CursorProtocol MemoryStore

/-! ## Rows -/

/-- A row that is stored in a group under its key, as a row of a member table. -/
structure MemoryStore.Holds
    (store : MemoryStore)
    (group : GroupTable)
    (row : Row)
    (key : HKey)
    (table : TableId) :
    Prop where
  itsKey : row.key? = some key
  stored : (key, row) ∈ (store.groupRows group.id).entries
  last : key.table? = some table
  isTable : row.rowType.isTable = true
  itsTable : row.rowType.table? = some table
  member : table ∈ group.tables
  arity : row.values.length = row.rowType.arity

/-- A row that a stream of the given type may have, as long as the store stays as it is. -/
def Row.Fits (store : MemoryStore) (rowType : RowType) (row : Row) : Prop :=
  match rowType.kind with
  | .group id =>
      ∃ group ∈ store.schema.groups,
        group.id = id ∧ group.rowType = rowType ∧
          ∃ key table, store.Holds group row key table
  | .values =>
      row.rowType = rowType ∧ row.key? = none ∧
        row.values.length = rowType.arity
  | .table _ => False

/-- The row of a group has a key that can be bound. -/
theorem Row.Fits.exists_key
    {store : MemoryStore}
    {rowType : RowType}
    {row : Row}
    (fits : row.Fits store rowType)
    (notComputed : rowType.kind ≠ .values) :
    ∃ key, row.key? = some key := by
  unfold Row.Fits at fits
  split at fits
  next =>
    rcases fits with ⟨group, -, -, -, key, table, holds⟩
    exact ⟨key, holds.itsKey⟩
  next computed =>
    exact (notComputed computed).elim
  next =>
    exact fits.elim

/-- What lies in a group of the store fits the type of the group. -/
theorem MemoryStore.fits_of_stored
    {store : MemoryStore}
    (placed : store.Placed)
    (arranged : store.schema.Arranged)
    {group : GroupTable}
    (known : group ∈ store.schema.groups)
    {key : HKey}
    {row : Row}
    (stored : (key, row) ∈ (store.groupRows group.id).entries) :
    row.Fits store group.rowType := by
  rcases placed.row stored with ⟨itsKey, table, home, last, itsHome, sameId⟩
  rcases Option.bind_eq_some_iff.1 itsHome with ⟨rowType, found, rest⟩
  rcases Option.bind_eq_some_iff.1 rest with ⟨place, itsPlace, isHome⟩
  have homeId : home.id = place.group := by
    simpa using List.find?_some isHome
  have itsNumber : rowType.table? = some table := by
    simpa using List.find?_some found
  rw [table?_of_placed itsPlace] at itsNumber
  have isPlace :=
    Schema.mem_places (List.mem_of_find?_eq_some found) itsPlace
  have member : table ∈ group.tables := by
    rw [← Option.some.inj itsNumber]
    exact (arranged.mem_tables_iff known isPlace).2 (homeId.symm.trans sameId)
  rcases row.placed key itsKey with ⟨isTable, sameTable⟩
  rw [Row.Fits, arranged.kinds group known]
  exact ⟨group, known, rfl, rfl, key, table,
    { itsKey, stored, last, isTable, member
      itsTable := sameTable.symm.trans last
      arity := row.arity }⟩

/-- The row of a count fits the type that the count was given. -/
theorem Count.fits_row
    (store : MemoryStore)
    (count : Count)
    (number : Int64) :
    (count.row number).Fits store count.output := by
  rw [Row.Fits, count.singleInteger.1]
  exact ⟨rfl, rfl, (count.row number).arity⟩

/-- The row of a count has as many values as it should, so making it is never refused. -/
theorem Count.computed_row (count : Count) (number : Int64) :
    Row.computed count.output [.int number] = .ok (count.row number) :=
  dif_pos (count.row number).arity

namespace Plan

/-! ## Plans that were put together from a schema -/

/-- A plan that was accepted with groups and tables of the schema. -/
inductive BuiltFrom (schema : Schema) : Plan → Prop
  | scan
      {group : GroupTable}
      {mode : GroupScan.Mode}
      {limit : Limit}
      (known : group ∈ schema.groups) :
      BuiltFrom schema (.scan ⟨group, mode, limit⟩)
  | count
      {tableType output : RowType}
      {leaf : Count}
      (known : tableType ∈ schema.tables)
      (made : Count.withOutput tableType output = .ok leaf) :
      BuiltFrom schema (.count leaf)
  | nestedLoop
      {outer inner plan : Plan}
      {slot : Nat}
      (outerBuilt : BuiltFrom schema outer)
      (innerBuilt : BuiltFrom schema inner)
      (made : nested outer inner slot = .ok plan) :
      BuiltFrom schema plan

theorem BuiltFrom.over
    {schema : Schema}
    {plan : Plan}
    (built : plan.BuiltFrom schema) :
    plan.Over schema := by
  induction built with
  | scan known =>
      exact .scan ⟨_, known, rfl⟩
  | @count tableType output leaf known made =>
      have same : leaf.tableType = tableType := by
        rw [Count.withOutput] at made
        split at made
        · split at made
          · cases made
            rfl
          · cases made
        · cases made
      have isTable := leaf.isTable
      rw [RowType.isTable, same] at isTable
      rcases Option.isSome_iff_exists.1 isTable with ⟨place, itsPlace⟩
      have itsTable := table?_of_placed itsPlace
      rcases Schema.exists_table?_of_mem known itsTable with ⟨_, found⟩
      exact .count (same ▸ itsTable) (Option.isSome_of_mem found)
  | nestedLoop _ _ made outerOver innerOver =>
      exact .nestedLoop outerOver innerOver made

/-- Every cause of a failure but an outer row without a key or a row of a wrong length. -/
def Unmistaken : ExecError.Cause → Prop
  | .invalidArgument (.keylessOuterRow _) => False
  | .invalidArgument (.wrongArity _ _) => False
  | _ => True

theorem tolerates_unmistaken : Tolerates Unmistaken where
  lifecycle := fun _ _ => trivial
  canceled := fun _ => trivial
  notTableType := fun _ => trivial
  storage := fun _ => trivial

/-- The terms of a tree whose rows fit the type of its plan. -/
abbrev typed
    (store : MemoryStore)
    (plan : Plan) :
    Terms (plan.Cursor GroupCursor) (plan.Cursor GroupCursor) :=
  plan.terms (fun _ => Eq) fun plan row => row.Fits store plan.rowType

theorem handed_typed (store : MemoryStore) (plan : Plan) :
    (plan.typed store).Handed = fun row => row.Fits store plan.rowType := by
  induction plan with
  | scan leaf | count leaf =>
      rfl
  | nestedLoop outer inner slot _ innerSame =>
      exact innerSame

/-- A failure to read or to write a slot is no mistake about rows. -/
theorem unmistaken_getKey
    {bindings : Bindings}
    {slot : Nat}
    {error : ExecError}
    (fails : bindings.getKey slot = .error error) :
    Unmistaken error.cause := by
  rw [Bindings.getKey] at fails
  split at fails
  next held =>
    cases fails
    rw [Bindings.get] at held
    split at held <;> cases held <;> trivial
  next =>
    cases fails
  next =>
    cases fails
    trivial

/-- The rows of an outer plan have keys, since the loop was accepted. -/
theorem binds_typed
    (store : MemoryStore)
    {outer : Plan}
    (keyed : outer.rowType.kind ≠ .values)
    (inner : Plan)
    (slot : Nat) :
    NestedLoop.Binds slot Unmistaken (outer.typed store) (inner.typed store)
      Eq Eq fun _ _ => True := by
  refine NestedLoop.binds_same (fun _ => trivial) (given_terms outer)
    (given_terms inner) (fun _ _ => trivial) ?_
  intro row handed keyless
  rw [handed_typed] at handed
  rcases handed.exists_key keyed with ⟨key, itsKey⟩
  cases keyless.symm.trans itsKey

/-- As long as the store stays as it is, no call on a tree hands out a row that does not fit. -/
theorem corresponds_typed
    (sources : SourceRows)
    {store : MemoryStore}
    (placed : store.Placed)
    (arranged : store.schema.Arranged)
    {plan : Plan}
    (built : plan.BuiltFrom store.schema) :
    (plan.protocol (adapter sources)).Corresponds
      (plan.protocol (adapter sources)) (StillQuery store) Unmistaken
      (plan.typed store) := by
  have tolerates := tolerates_unmistaken
  induction built with
  | @scan group mode limit known =>
      refine GroupScan.corresponds parallel_still tolerates.toTolerates ?_
        (corresponds_still tolerates fun _ _ stored =>
          fits_of_stored placed arranged known stored)
      constructor
      case opens =>
        exact fun _ => trivial
      case key =>
        rintro bindings _ slot reach rfl -
        exact ⟨rfl, fun _ => unmistaken_getKey⟩
  | @count _ _ leaf =>
      exact Count.corresponds parallel_still tolerates.toTolerates
        (counts_still tolerates) (leaf.fits_row store)
  | nestedLoop _ _ made outerCorresponds innerCorresponds =>
      rcases nested_eq_ok made with ⟨rfl, keyed⟩
      exact NestedLoop.corresponds parallel_still.toParallel
        tolerates.toTolerates (binds_typed store keyed _ _) outerCorresponds
        innerCorresponds

/-! ## Lives -/

/-- A tree over a store of the schema, neither of which got out of order. -/
structure Typed
    (schema : Schema)
    (plan : Plan)
    (life : plan.Cursor GroupCursor × Query MemoryStore) :
    Prop where
  placed : life.2.store.Placed
  itsSchema : life.2.store.schema = schema
  itself : (plan.typed life.2.store).Cursors life.1 life.1

section

variable
  {schema : Schema}
  {plan : Plan}
  {life : plan.Cursor GroupCursor × Query MemoryStore}

/-- What is seen of a tree that is in order: rows that fit, and no mistake about rows. -/
theorem Typed.happen
    (sources : SourceRows)
    (typed : plan.Typed schema life)
    (arranged : schema.Arranged)
    (built : plan.BuiltFrom schema)
    (happening : Happening) :
    plan.Typed schema (plan.happen sources life happening) ∧
      ∀ observation,
        plan.observe sources life happening = some observation →
          (∀ row, observation.answer = .ok (some row) →
              row.Fits life.2.store plan.rowType) ∧
            ∀ error, observation.answer = .error error →
              Unmistaken error.cause := by
  rcases typed with ⟨placed, rfl, itself⟩
  have kept :=
    store_live
      (fun store => store.Placed ∧ store.schema = life.2.store.schema)
      (fun _ action kept =>
        ⟨kept.1.perform action, (schema_perform _ action).trans kept.2⟩)
      sources ⟨placed, rfl⟩ [happening]
  rcases happen_terms (corresponds_typed sources placed arranged built) itself
      (happening.paired_self fun _ => rfl) with
    ⟨-, seen, cursorLeft, otherLeft, left, goes, alsoGoes, cursors⟩
  have same : cursorLeft = otherLeft :=
    congrArg Prod.fst (goes.symm.trans alsoGoes)
  subst same
  rw [handed_typed] at seen
  refine ⟨⟨kept.1, kept.2, ?_⟩, seen⟩
  rw [show plan.happen sources life happening = _ from goes]
  exact cursors_terms cursors

theorem Typed.live
    (sources : SourceRows)
    (typed : plan.Typed schema life)
    (arranged : schema.Arranged)
    (built : plan.BuiltFrom schema)
    (happenings : List Happening) :
    plan.Typed schema (plan.live sources life happenings) := by
  induction happenings generalizing life with
  | nil =>
      exact typed
  | cons happening happenings ih =>
      exact ih (typed.happen sources arranged built happening).1

end

/--
A plan that was put together from a schema can be run over any store of the
schema, whatever was written to it.  However its cursor is used, and whatever
is written meanwhile, each row that it returns fits the type that the plan
tells.  No outer row lacks a key, and no row has a wrong number of values.
-/
theorem rows_fit
    (requests : List Schema.Request)
    (few : (Schema.Issuing.serveAll requests).issued < UInt32.size)
    (statuses : StatusRegistry)
    (sessionId : String)
    (countMode : CountMode)
    (sources : SourceRows)
    (actions : List Action)
    {plan : Plan}
    (built : plan.BuiltFrom (Schema.Issuing.serveAll requests).schema)
    (query : Query MemoryStore)
    (used :
      query.store =
        (create (Schema.Issuing.serveAll requests).schema statuses sessionId
          countMode).1.performAll actions) :
    (∀ (leaf : Count) (number : Int64),
        Row.computed leaf.output [.int number] = .ok (leaf.row number)) ∧
      ∃ cursor,
        plan.newCursor (adapter sources) query = (.ok cursor, query) ∧
          ∀ happenings made,
            let life := plan.live sources (cursor, query) happenings
            let outcome :=
              (plan.protocol (adapter sources)).call made life.1 life.2
            life.2.store.schema =
                (Schema.Issuing.serveAll requests).schema ∧
              (∀ row, outcome.answer = .ok (some row) →
                  row.Fits life.2.store plan.rowType) ∧
                ∀ error, outcome.answer = .error error →
                  Unmistaken error.cause := by
  have arranged :=
    (Schema.Issuing.regular_serveAll requests few).arranged
  have placed : query.store.Placed := by
    rw [used]
    exact (placed_create _ statuses sessionId countMode).performAll actions
  have itsSchema :
      query.store.schema = (Schema.Issuing.serveAll requests).schema := by
    rw [used, schema_performAll]
    rfl
  rcases newCursor_eq_ok sources placed (itsSchema ▸ built).over with
    ⟨cursor, made, -⟩
  have fresh : plan.Typed _ (cursor, query) :=
    ⟨placed, itsSchema, terms_newCursor made⟩
  refine ⟨Count.computed_row, cursor, made, ?_⟩
  intro happenings made life outcome
  have typed := fresh.live sources arranged built happenings
  have seen := (typed.happen sources arranged built (.call made)).2 _ rfl
  exact ⟨typed.itsSchema, seen⟩

/-- What it takes for the schema of the sample store. -/
def sampleTables : List Schema.Request :=
  [.table "customer" [⟨"id", .int⟩] none,
    .table "order" [⟨"id", .int⟩] (some ⟨1⟩)]

/-- A tree of the sample plan that was opened and has handed out the customer. -/
def sampleLife : samplePlan.Cursor GroupCursor × Query MemoryStore :=
  samplePlan.live MemoryStore.Sample.sources (sampleCursor, sampleQuery)
    [.call (.openWith (.reserve 1)), .call .next]

theorem rows_fit_of_loop :
    let protocol := samplePlan.protocol (adapter MemoryStore.Sample.sources)
    let row := MemoryStore.Sample.orderRow
    samplePlan.rowType.kind = .group ⟨1⟩ ∧
      (protocol.call .next sampleLife.1 sampleLife.2).answer =
          .ok (some row) ∧
        row.Fits sampleLife.2.store samplePlan.rowType := by
  have itsSchema :
      (Schema.Issuing.serveAll sampleTables).schema =
        MemoryStore.Sample.schema := by
    decide
  have issued : (Schema.Issuing.serveAll sampleTables).issued = 6 := by
    decide
  have built :
      samplePlan.BuiltFrom (Schema.Issuing.serveAll sampleTables).schema := by
    rw [itsSchema]
    exact .nestedLoop (.scan List.mem_cons_self) (.scan List.mem_cons_self) rfl
  rcases rows_fit sampleTables (by rw [issued]; decide) {} "session" .exact
      MemoryStore.Sample.sources
      [.write MemoryStore.Sample.orderRow,
        .write MemoryStore.Sample.customerRow, .commit]
      built sampleQuery (by rw [itsSchema]; rfl) with
    ⟨-, cursor, made, runs⟩
  have fresh :
      samplePlan.newCursor (adapter MemoryStore.Sample.sources) sampleQuery =
        (.ok sampleCursor, sampleQuery) :=
    rfl
  have same : cursor = sampleCursor :=
    Except.ok.inj (congrArg Prod.fst (made.symm.trans fresh))
  subst same
  have answer :
      ((samplePlan.protocol (adapter MemoryStore.Sample.sources)).call .next
          sampleLife.1 sampleLife.2).answer =
        .ok (some MemoryStore.Sample.orderRow) := by
    rfl
  exact ⟨rfl, answer, (runs _ .next).2.1 _ answer⟩

end Plan

end HierQuery
