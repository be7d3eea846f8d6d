import HierQuery.Proofs.Fixture.Numbering
import Mathlib.Data.List.Nodup

/-!
# Schemas under requests

A schema is built by asking it for tables and for computed row types.  A
request may be refused, and a refused one may still use up a number.  This
module says once what a request can do, and derives from it what any sequence
of requests keeps as long as the numbers do not run out.

Where a table lies is recorded three times: in its row type, among the members
of its group, and in the root of the group.  The places of the tables, in the
order in which they were registered, are what the three are compared with.
-/

namespace HierQuery.Schema

/-! ## Requests -/

/-- What a schema may be asked for. -/
inductive Request
  | table (name : String) (columns : List Column) (parent? : Option TableId)
  | computed (name : String) (columns : List Column)
deriving DecidableEq

/-- The answer to a request, and the schema after it. -/
def answer (schema : Schema) : Request → Except ExecError RowType × Schema
  | .table name columns parent? => schema.newTable name columns parent?
  | .computed name columns =>
      let (rowType, schema) := schema.newValuesType name columns
      (.ok rowType, schema)

/-- The place of a table that others may be put below. -/
def place? (schema : Schema) (table : TableId) : Option Placement :=
  (schema.table? table).bind RowType.placement?

/-- How many numbers a request uses up: of row types, of tables and of groups together. -/
def cost (schema : Schema) : Request → Nat
  | .computed _ _ => 1
  | .table name _ parent? =>
      if (schema.tableNamed? name).isSome then
        0
      else
        match parent? with
        | none => 4
        | some parent =>
            if (schema.place? parent).isSome then 2 else 1

/-- The next table if it is a root table, whose group has taken a row type before it. -/
def nextRoot
    (schema : Schema)
    (name : String)
    (columns : List Column) :
    RowType :=
  ⟨schema.lastTypeId + 1 + 1, name, columns,
    .table ⟨⟨schema.lastTableId + 1⟩, none, ⟨schema.lastGroupId + 1⟩⟩⟩

/-- The next table if it has a parent. -/
def nextChild
    (schema : Schema)
    (name : String)
    (columns : List Column)
    (parent : TableId)
    (group : GroupId) :
    RowType :=
  ⟨schema.lastTypeId + 1, name, columns,
    .table ⟨⟨schema.lastTableId + 1⟩, some parent, group⟩⟩

/-- The group that the next root table starts. -/
def nextGroup (schema : Schema) (name : String) : GroupTable where
  id := ⟨schema.lastGroupId + 1⟩
  name := name ++ "_group"
  root := ⟨schema.lastTableId + 1⟩
  tables := [⟨schema.lastTableId + 1⟩]
  rowType :=
    ⟨schema.lastTypeId + 1, name ++ "_group", [],
      .group ⟨schema.lastGroupId + 1⟩⟩

/-- Everything that a request can come to, with the numbers that it uses up. -/
inductive Serves (schema : Schema) :
    Request → Except ExecError RowType → Schema → Nat → Prop
  | computed {name : String} {columns : List Column} :
      Serves schema (.computed name columns)
        (.ok ⟨schema.lastTypeId + 1, name, columns, .values⟩)
        { schema with lastTypeId := schema.lastTypeId + 1 }
        1
  /-- A name that is taken is refused before anything is issued. -/
  | taken
      {name : String}
      {columns : List Column}
      {parent? : Option TableId}
      (known : (schema.tableNamed? name).isSome = true) :
      Serves schema (.table name columns parent?)
        (.error (.argument operatorName (.tableExists name)))
        schema
        0
  /-- An unknown parent is refused when the table has its number. -/
  | orphan
      {name : String}
      {columns : List Column}
      {parent : TableId}
      (unknown : schema.place? parent = none) :
      Serves schema (.table name columns (some parent))
        (.error (.argument operatorName (.unknownParent parent)))
        { schema with lastTableId := schema.lastTableId + 1 }
        1
  /-- A root table starts a group of its own. -/
  | root
      {name : String}
      {columns : List Column}
      (free : schema.tableNamed? name = none) :
      Serves schema (.table name columns none)
        (.ok (schema.nextRoot name columns))
        { lastTypeId := schema.lastTypeId + 1 + 1
          lastTableId := schema.lastTableId + 1
          lastGroupId := schema.lastGroupId + 1
          tables := schema.tables ++ [schema.nextRoot name columns]
          groups := schema.groups ++ [schema.nextGroup name] }
        4
  /-- Any other table joins the group of its parent. -/
  | child
      {name : String}
      {columns : List Column}
      {parent : TableId}
      {place : Placement}
      (free : schema.tableNamed? name = none)
      (known : schema.place? parent = some place) :
      Serves schema (.table name columns (some parent))
        (.ok (schema.nextChild name columns parent place.group))
        { lastTypeId := schema.lastTypeId + 1
          lastTableId := schema.lastTableId + 1
          lastGroupId := schema.lastGroupId
          tables :=
            schema.tables ++
              [schema.nextChild name columns parent place.group]
          groups :=
            (schema.joinGroup place.group
              ⟨schema.lastTableId + 1⟩).groups }
        2

theorem serves (schema : Schema) (request : Request) :
    Serves schema request (schema.answer request).1 (schema.answer request).2
      (schema.cost request) := by
  cases request with
  | computed name columns =>
      exact .computed
  | table name columns parent? =>
      unfold answer newTable cost
      dsimp only
      split
      next known =>
        exact .taken known
      next unknown =>
        have free : schema.tableNamed? name = none := by
          simpa using unknown
        cases parent? with
        | none =>
            exact .root free
        | some parent =>
            have looked :
                (schema.issueTable.2.table? parent).bind RowType.placement? =
                  schema.place? parent :=
              rfl
            dsimp only
            rw [looked]
            cases found : schema.place? parent with
            | none =>
                exact .orphan found
            | some place =>
                exact .child free found

/-- A refused request leaves all tables and all groups alone. -/
theorem Serves.of_error
    {schema after : Schema}
    {request : Request}
    {error : ExecError}
    {numbers : Nat}
    (serves : Serves schema request (.error error) after numbers) :
    after.tables = schema.tables ∧ after.groups = schema.groups := by
  cases serves with
  | taken | orphan =>
      exact ⟨rfl, rfl⟩

/-! ## Where the tables lie -/

/-- The places of all tables in the order of registration. -/
def places (schema : Schema) : List Placement :=
  schema.tables.filterMap RowType.placement?

/-- The places of the tables of a group. -/
def placesIn (schema : Schema) (group : GroupId) : List Placement :=
  schema.places.filter fun place => place.group == group

/--
The numbers of tables ascend, and those of groups are different.  The members
of a group are the tables that lie in it, and the first of them is its root,
which alone has no parent.  A parent has a smaller number and lies in the same
group.
-/
structure Arranged (schema : Schema) : Prop where
  placed : ∀ rowType ∈ schema.tables, ∃ place, rowType.placement? = some place
  ascending :
    schema.places.Pairwise fun first second =>
      first.table.value < second.table.value
  issuedTables :
    ∀ place ∈ schema.places,
      place.table.value.toNat ≤ schema.lastTableId.toNat
  groups : (schema.groups.map GroupTable.id).Nodup
  issuedGroups :
    ∀ group ∈ schema.groups,
      group.id.value.toNat ≤ schema.lastGroupId.toNat
  kinds : ∀ group ∈ schema.groups, group.rowType.kind = .group group.id
  members :
    ∀ group ∈ schema.groups,
      group.tables = (schema.placesIn group.id).map Placement.table
  first :
    ∀ group ∈ schema.groups,
      (schema.placesIn group.id).head? = some ⟨group.root, none, group.id⟩
  homes :
    ∀ place ∈ schema.places, ∃ group ∈ schema.groups, group.id = place.group
  roots :
    ∀ place ∈ schema.places, place.parent? = none →
      ∃ group ∈ schema.groups,
        group.id = place.group ∧ group.root = place.table
  parents :
    ∀ place ∈ schema.places, ∀ parent, place.parent? = some parent →
      ∃ upper ∈ schema.places,
        upper.table = parent ∧ upper.group = place.group ∧
          parent.value < place.table.value

theorem arranged_empty : Arranged .empty where
  placed := nofun
  ascending := .nil
  issuedTables := nofun
  groups := .nil
  issuedGroups := nofun
  kinds := nofun
  members := nofun
  first := nofun
  homes := nofun
  roots := nofun
  parents := nofun

/-- A number that is issued next is greater than the last one, unless the numbers run out. -/
theorem toNat_succ
    {last : UInt32}
    (few : last.toNat + 1 < UInt32.size) :
    (last + 1).toNat = last.toNat + 1 := by
  rw [UInt32.toNat_add, UInt32.toNat_one]
  exact Nat.mod_eq_of_lt few

section

variable {schema after : Schema}

/-- Numbers that are used up for nothing change nothing. -/
theorem Arranged.of_same
    (arranged : schema.Arranged)
    (tables : after.tables = schema.tables)
    (groups : after.groups = schema.groups)
    (lastTable : schema.lastTableId.toNat ≤ after.lastTableId.toNat)
    (lastGroup : schema.lastGroupId.toNat ≤ after.lastGroupId.toNat) :
    after.Arranged := by
  have places : after.places = schema.places := by
    rw [Schema.places, tables, Schema.places]
  have placesIn : after.placesIn = schema.placesIn := by
    funext group
    rw [Schema.placesIn, places, Schema.placesIn]
  constructor
  case placed => exact tables ▸ arranged.placed
  case ascending => exact places ▸ arranged.ascending
  case issuedTables =>
    intro place listed
    exact Nat.le_trans (arranged.issuedTables place (places ▸ listed))
      lastTable
  case groups => exact groups ▸ arranged.groups
  case issuedGroups =>
    intro group listed
    exact Nat.le_trans (arranged.issuedGroups group (groups ▸ listed))
      lastGroup
  case kinds => exact groups ▸ arranged.kinds
  case members => exact groups ▸ placesIn ▸ arranged.members
  case first => exact groups ▸ placesIn ▸ arranged.first
  case homes => exact groups ▸ places ▸ arranged.homes
  case roots => exact groups ▸ places ▸ arranged.roots
  case parents => exact places ▸ arranged.parents

/-- The place of a new table comes after all others. -/
theorem places_of_tables
    {rowType : RowType}
    {place : Placement}
    (tables : after.tables = schema.tables ++ [rowType])
    (placed : rowType.placement? = some place) :
    after.places = schema.places ++ [place] := by
  rw [places, tables, List.filterMap_append, places]
  simp [placed]

theorem placesIn_of_tables
    {rowType : RowType}
    {place : Placement}
    (tables : after.tables = schema.tables ++ [rowType])
    (placed : rowType.placement? = some place)
    (group : GroupId) :
    after.placesIn group =
      schema.placesIn group ++ if place.group = group then [place] else [] := by
  rw [placesIn, places_of_tables tables placed, List.filter_append, placesIn]
  by_cases inside : place.group = group <;> simp [inside]

/-- No table lies in a group that is still to be started. -/
theorem Arranged.placesIn_unissued
    (arranged : schema.Arranged)
    {group : GroupId}
    (unissued : schema.lastGroupId.toNat < group.value.toNat) :
    schema.placesIn group = [] := by
  apply List.filter_eq_nil_iff.2
  intro place listed inside
  rcases arranged.homes place listed with ⟨home, known, itsId⟩
  have issued := arranged.issuedGroups home known
  rw [itsId, beq_iff_eq.1 inside] at issued
  exact Nat.not_lt.2 issued unissued

theorem Arranged.placed_snoc
    (arranged : schema.Arranged)
    {rowType : RowType}
    {place : Placement}
    (itsPlace : rowType.placement? = some place) :
    ∀ listed ∈ schema.tables ++ [rowType],
      ∃ place, listed.placement? = some place := by
  intro listed member
  rcases List.mem_append.1 member with former | last
  · exact arranged.placed listed former
  · exact ⟨place, List.mem_singleton.1 last ▸ itsPlace⟩

/-- The numbers of the tables still ascend when the next one is registered. -/
theorem Arranged.ascending_snoc
    (arranged : schema.Arranged)
    (few : schema.lastTableId.toNat + 1 < UInt32.size)
    {place : Placement}
    (itsNumber : place.table = ⟨schema.lastTableId + 1⟩) :
    (schema.places ++ [place]).Pairwise fun first second =>
      first.table.value < second.table.value := by
  refine List.pairwise_append.2
    ⟨arranged.ascending, List.pairwise_singleton _ _, ?_⟩
  intro former listed last isLast
  rw [List.mem_singleton.1 isLast, itsNumber, UInt32.lt_iff_toNat_lt,
    toNat_succ few]
  exact Nat.lt_succ_of_le (arranged.issuedTables former listed)

theorem Arranged.issuedTables_snoc
    (arranged : schema.Arranged)
    (few : schema.lastTableId.toNat + 1 < UInt32.size)
    {place : Placement}
    (itsNumber : place.table = ⟨schema.lastTableId + 1⟩) :
    ∀ listed ∈ schema.places ++ [place],
      listed.table.value.toNat ≤ (schema.lastTableId + 1).toNat := by
  intro listed member
  rw [toNat_succ few]
  rcases List.mem_append.1 member with former | last
  · exact Nat.le_succ_of_le (arranged.issuedTables listed former)
  · rw [List.mem_singleton.1 last, itsNumber]
    exact Nat.le_of_eq (toNat_succ few)

/-- A root table starts a group in which it is the first and only member. -/
theorem Arranged.root
    (arranged : schema.Arranged)
    (fewTables : schema.lastTableId.toNat + 1 < UInt32.size)
    (fewGroups : schema.lastGroupId.toNat + 1 < UInt32.size)
    {name : String}
    {columns : List Column}
    (tables : after.tables = schema.tables ++ [schema.nextRoot name columns])
    (groups : after.groups = schema.groups ++ [schema.nextGroup name])
    (lastTable : after.lastTableId = schema.lastTableId + 1)
    (lastGroup : after.lastGroupId = schema.lastGroupId + 1) :
    after.Arranged := by
  have places := places_of_tables tables rfl
  have placesIn := placesIn_of_tables tables rfl
  have newGroup :
      schema.lastGroupId.toNat < (schema.lastGroupId + 1).toNat := by
    rw [toNat_succ fewGroups]
    exact Nat.lt_succ_self _
  have oldGroup {group : GroupTable} (known : group ∈ schema.groups) :
      (⟨schema.lastGroupId + 1⟩ : GroupId) ≠ group.id := by
    intro same
    have issued := arranged.issuedGroups group known
    rw [← same] at issued
    exact Nat.not_lt.2 issued newGroup
  have ofOld {group : GroupTable} (known : group ∈ schema.groups) :
      after.placesIn group.id = schema.placesIn group.id := by
    rw [placesIn, if_neg (oldGroup known), List.append_nil]
  have ofNew :
      after.placesIn ⟨schema.lastGroupId + 1⟩ =
        [⟨⟨schema.lastTableId + 1⟩, none, ⟨schema.lastGroupId + 1⟩⟩] := by
    rw [placesIn, arranged.placesIn_unissued newGroup, List.nil_append]
    exact if_pos rfl
  have isNew : schema.nextGroup name ∈ after.groups := by
    rw [groups]
    exact List.mem_append_right _ (List.mem_singleton_self _)
  have stays {group : GroupTable} (known : group ∈ schema.groups) :
      group ∈ after.groups := by
    rw [groups]
    exact List.mem_append_left _ known
  have split {group : GroupTable} (listed : group ∈ after.groups) :
      group ∈ schema.groups ∨ group = schema.nextGroup name := by
    rw [groups] at listed
    exact (List.mem_append.1 listed).imp_right List.mem_singleton.1
  constructor
  case placed =>
    rw [tables]
    exact arranged.placed_snoc rfl
  case ascending =>
    rw [places]
    exact arranged.ascending_snoc fewTables rfl
  case issuedTables =>
    rw [places, lastTable]
    exact arranged.issuedTables_snoc fewTables rfl
  case groups =>
    rw [groups, List.map_append, List.map_singleton]
    refine List.nodup_append.2
      ⟨arranged.groups, List.nodup_singleton _, ?_⟩
    intro id old last isLast
    rcases List.mem_map.1 old with ⟨group, known, rfl⟩
    rw [List.mem_singleton.1 isLast]
    exact (oldGroup known).symm
  case issuedGroups =>
    intro group listed
    rw [lastGroup]
    rcases split listed with known | rfl
    · exact Nat.le_trans (arranged.issuedGroups group known)
        (Nat.le_of_lt newGroup)
    · exact Nat.le_refl _
  case kinds =>
    intro group listed
    rcases split listed with known | rfl
    · exact arranged.kinds group known
    · rfl
  case members =>
    intro group listed
    rcases split listed with known | rfl
    · rw [ofOld known]
      exact arranged.members group known
    · exact (congrArg (List.map Placement.table) ofNew).symm
  case first =>
    intro group listed
    rcases split listed with known | rfl
    · rw [ofOld known]
      exact arranged.first group known
    · exact congrArg List.head? ofNew
  case homes =>
    intro place listed
    rw [places] at listed
    rcases List.mem_append.1 listed with old | new
    · rcases arranged.homes place old with ⟨group, known, itsId⟩
      exact ⟨group, stays known, itsId⟩
    · rw [List.mem_singleton.1 new]
      exact ⟨_, isNew, rfl⟩
  case roots =>
    intro place listed parentless
    rw [places] at listed
    rcases List.mem_append.1 listed with old | new
    · rcases arranged.roots place old parentless with ⟨group, known, its⟩
      exact ⟨group, stays known, its⟩
    · rw [List.mem_singleton.1 new]
      exact ⟨_, isNew, rfl, rfl⟩
  case parents =>
    intro place listed parent isChild
    rw [places] at listed ⊢
    rcases List.mem_append.1 listed with old | new
    · rcases arranged.parents place old parent isChild with
        ⟨upper, known, its⟩
      exact ⟨upper, List.mem_append_left _ known, its⟩
    · rw [List.mem_singleton.1 new] at isChild
      cases isChild

/-- The groups after a table joined one of them are those before, one with a member more. -/
theorem exists_former
    {group : GroupId}
    {table : TableId}
    {grown : GroupTable}
    (listed : grown ∈ (schema.joinGroup group table).groups) :
    ∃ former ∈ schema.groups,
      grown.id = former.id ∧
        grown.root = former.root ∧
          grown.rowType = former.rowType ∧
            grown.tables =
              former.tables ++ if group = former.id then [table] else [] := by
  rcases List.mem_map.1 listed with ⟨former, known, rfl⟩
  refine ⟨former, known, ?_⟩
  by_cases joins : former.id = group
  · rw [if_pos (beq_iff_eq.2 joins), if_pos joins.symm]
    exact ⟨rfl, rfl, rfl, rfl⟩
  · rw [if_neg (mt beq_iff_eq.1 joins), if_neg (Ne.symm joins),
      List.append_nil]
    exact ⟨rfl, rfl, rfl, rfl⟩

theorem exists_grown
    {former : GroupTable}
    (known : former ∈ schema.groups)
    (group : GroupId)
    (table : TableId) :
    ∃ grown ∈ (schema.joinGroup group table).groups,
      grown.id = former.id ∧ grown.root = former.root := by
  refine ⟨_, List.mem_map_of_mem known, ?_⟩
  split <;> exact ⟨rfl, rfl⟩

/-- Another table joins the group of its parent as the last member. -/
theorem Arranged.child
    (arranged : schema.Arranged)
    (few : schema.lastTableId.toNat + 1 < UInt32.size)
    {name : String}
    {columns : List Column}
    {parent : TableId}
    {place : Placement}
    (above : schema.place? parent = some place)
    (tables :
      after.tables =
        schema.tables ++ [schema.nextChild name columns parent place.group])
    (groups :
      after.groups =
        (schema.joinGroup place.group ⟨schema.lastTableId + 1⟩).groups)
    (lastTable : after.lastTableId = schema.lastTableId + 1)
    (lastGroup : after.lastGroupId = schema.lastGroupId) :
    after.Arranged := by
  have places := places_of_tables tables rfl
  have placesIn := placesIn_of_tables tables rfl
  have upper : place ∈ schema.places ∧ place.table = parent := by
    rcases Option.bind_eq_some_iff.1 above with ⟨rowType, found, placed⟩
    have itsTable : rowType.table? = some parent := by
      simpa using List.find?_some found
    rw [table?_of_placed placed] at itsTable
    exact
      ⟨List.mem_filterMap.2
          ⟨rowType, List.mem_of_find?_eq_some found, placed⟩,
        Option.some.inj itsTable⟩
  have former {grown : GroupTable} (listed : grown ∈ after.groups) :=
    exists_former (groups ▸ listed)
  have grown {former : GroupTable} (known : former ∈ schema.groups) :
      ∃ grown ∈ after.groups,
        grown.id = former.id ∧ grown.root = former.root := by
    rw [groups]
    exact exists_grown known _ _
  constructor
  case placed =>
    rw [tables]
    exact arranged.placed_snoc rfl
  case ascending =>
    rw [places]
    exact arranged.ascending_snoc few rfl
  case issuedTables =>
    rw [places, lastTable]
    exact arranged.issuedTables_snoc few rfl
  case groups =>
    rw [groups, Fixture.ids_joinGroup]
    exact arranged.groups
  case issuedGroups =>
    intro group listed
    rcases former listed with ⟨group, known, itsId, -⟩
    rw [itsId, lastGroup]
    exact arranged.issuedGroups group known
  case kinds =>
    intro group listed
    rcases former listed with ⟨group, known, itsId, -, itsType, -⟩
    rw [itsId, itsType]
    exact arranged.kinds group known
  case members =>
    intro group listed
    rcases former listed with ⟨group, known, itsId, -, -, its⟩
    rw [its, itsId, placesIn, arranged.members group known, List.map_append]
    split <;> rfl
  case first =>
    intro group listed
    rcases former listed with ⟨group, known, itsId, itsRoot, -⟩
    rw [itsId, itsRoot, placesIn, List.head?_append,
      arranged.first group known, Option.some_or]
  case homes =>
    intro lower listed
    rw [places] at listed
    rcases List.mem_append.1 listed with old | new
    · rcases arranged.homes lower old with ⟨group, known, itsId⟩
      rcases grown known with ⟨group, isKnown, sameId, -⟩
      exact ⟨group, isKnown, sameId.trans itsId⟩
    · rcases arranged.homes place upper.1 with ⟨group, known, itsId⟩
      rcases grown known with ⟨group, isKnown, sameId, -⟩
      rw [List.mem_singleton.1 new]
      exact ⟨group, isKnown, sameId.trans itsId⟩
  case roots =>
    intro lower listed parentless
    rw [places] at listed
    rcases List.mem_append.1 listed with old | new
    · rcases arranged.roots lower old parentless with
        ⟨group, known, itsId, itsRoot⟩
      rcases grown known with ⟨group, isKnown, sameId, sameRoot⟩
      exact ⟨group, isKnown, sameId.trans itsId, sameRoot.trans itsRoot⟩
    · rw [List.mem_singleton.1 new] at parentless
      cases parentless
  case parents =>
    intro lower listed itsParent isChild
    rw [places] at listed ⊢
    rcases List.mem_append.1 listed with old | new
    · rcases arranged.parents lower old itsParent isChild with
        ⟨upper, known, its⟩
      exact ⟨upper, List.mem_append_left _ known, its⟩
    · rw [List.mem_singleton.1 new] at isChild ⊢
      cases isChild
      refine ⟨place, List.mem_append_left _ upper.1, upper.2, rfl, ?_⟩
      rw [← upper.2, UInt32.lt_iff_toNat_lt, toNat_succ few]
      exact Nat.lt_succ_of_le (arranged.issuedTables place upper.1)

/-! ## What an arranged schema says of a table and of a group -/

theorem mem_places
    {rowType : RowType}
    {place : Placement}
    (listed : rowType ∈ schema.tables)
    (itsPlace : rowType.placement? = some place) :
    place ∈ schema.places :=
  List.mem_filterMap.2 ⟨rowType, listed, itsPlace⟩

/-- As their numbers ascend, no two tables have the same. -/
theorem Arranged.distinct
    (arranged : schema.Arranged) :
    (schema.tables.map RowType.table?).Nodup := by
  have ascending := List.pairwise_filterMap.1 arranged.ascending
  rw [List.Nodup, List.pairwise_map]
  refine ascending.imp_of_mem ?_
  intro first second listed alsoListed below same
  rcases arranged.placed first listed with ⟨place, itsPlace⟩
  rcases arranged.placed second alsoListed with ⟨other, alsoItsPlace⟩
  rw [table?_of_placed itsPlace, table?_of_placed alsoItsPlace] at same
  have ascends := below place itsPlace other alsoItsPlace
  rw [Option.some.inj same] at ascends
  exact UInt32.lt_irrefl _ ascends

theorem Arranged.eq_of_table
    (arranged : schema.Arranged)
    {place other : Placement}
    (listed : place ∈ schema.places)
    (alsoListed : other ∈ schema.places)
    (same : place.table = other.table) :
    place = other := by
  rcases List.mem_filterMap.1 listed with ⟨rowType, inside, itsPlace⟩
  rcases List.mem_filterMap.1 alsoListed with
    ⟨otherType, alsoInside, alsoItsPlace⟩
  have sameType : rowType = otherType := by
    apply List.inj_on_of_nodup_map arranged.distinct inside alsoInside
    rw [table?_of_placed itsPlace, table?_of_placed alsoItsPlace, same]
  rw [sameType, alsoItsPlace] at itsPlace
  exact (Option.some.inj itsPlace).symm

/-- The members of a group are the tables that lie in it. -/
theorem Arranged.mem_tables_iff
    (arranged : schema.Arranged)
    {group : GroupTable}
    (known : group ∈ schema.groups)
    {place : Placement}
    (listed : place ∈ schema.places) :
    place.table ∈ group.tables ↔ place.group = group.id := by
  rw [arranged.members group known]
  constructor
  · intro inside
    rcases List.mem_map.1 inside with ⟨other, lies, sameTable⟩
    rcases List.mem_filter.1 lies with ⟨alsoListed, itsGroup⟩
    rw [← arranged.eq_of_table alsoListed listed sameTable]
    exact beq_iff_eq.1 itsGroup
  · intro itsGroup
    exact List.mem_map_of_mem
      (List.mem_filter.2 ⟨listed, beq_iff_eq.2 itsGroup⟩)

/-- In an arranged schema all numbers are different. -/
theorem Arranged.numbered
    (arranged : schema.Arranged) :
    Fixture.Numbered schema where
  tables := arranged.distinct
  groups := arranged.groups
  members group known rowType listed place itsPlace :=
    arranged.mem_tables_iff known (mem_places listed itsPlace)
  issuedTables rowType listed table itsTable := by
    rcases Option.map_eq_some_iff.1 itsTable with ⟨place, itsPlace, rfl⟩
    exact UInt32.le_iff_toNat_le.2
      (arranged.issuedTables place (mem_places listed itsPlace))
  issuedMembers group known table inside := by
    rw [arranged.members group known] at inside
    rcases List.mem_map.1 inside with ⟨place, lies, rfl⟩
    exact UInt32.le_iff_toNat_le.2
      (arranged.issuedTables place (List.mem_of_mem_filter lies))
  issuedGroups id listed := by
    rcases List.mem_map.1 listed with ⟨group, known, rfl⟩
    exact UInt32.le_iff_toNat_le.2 (arranged.issuedGroups group known)

/--
As a parent has a smaller number than the table below it, the way up from a
table ends, and it ends at the root of the group of the table.
-/
theorem Arranged.exists_line
    (arranged : schema.Arranged)
    {rowType : RowType}
    {place : Placement}
    {group : GroupTable}
    (listed : rowType ∈ schema.tables)
    (itsPlace : rowType.placement? = some place)
    (known : group ∈ schema.groups)
    (itsGroup : group.id = place.group) :
    ∃ line,
      schema.Descends rowType line ∧
        line.head?.bind RowType.table? = some group.root := by
  induction number : place.table.value.toNat using Nat.strongRecOn
      generalizing rowType place with
  | ind _ higher =>
      subst number
      have isPlace := mem_places listed itsPlace
      cases isChild : place.parent? with
      | none =>
          rcases arranged.roots place isPlace isChild with
            ⟨home, alsoKnown, homeGroup, root⟩
          have same : home = group :=
            List.inj_on_of_nodup_map arranged.groups alsoKnown known
              (homeGroup.trans itsGroup.symm)
          refine ⟨_, .root itsPlace isChild, ?_⟩
          rw [← same, root]
          exact table?_of_placed itsPlace
      | some parent =>
          rcases arranged.parents place isPlace parent isChild with
            ⟨upper, isUpper, sameTable, sameGroup, below⟩
          rcases List.mem_filterMap.1 isUpper with
            ⟨upperType, alsoListed, upperPlace⟩
          have found : schema.table? parent = some upperType :=
            arranged.numbered.table?_of_mem alsoListed
              (by rw [table?_of_placed upperPlace, sameTable])
          rw [← sameTable] at below
          rcases higher _ (UInt32.lt_iff_toNat_lt.1 below) alsoListed
              upperPlace (itsGroup.trans sameGroup.symm) rfl with
            ⟨line, descends, top⟩
          refine ⟨_, .step itsPlace isChild found descends, ?_⟩
          rcases descends.eq_concat with ⟨uppers, rfl⟩
          rw [← top]
          cases uppers <;> rfl

end

end HierQuery.Schema
