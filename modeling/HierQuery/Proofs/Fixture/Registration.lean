import HierQuery.Fixture.Basic

/-!
# Schemas that come from documents

The schema of a document is made by registering its tables one after another.
What one registration does to a schema is said once, and everything that such
schemas have in common follows by induction on the registered tables.

A table is registered if its name is free and its parent is known.  Then it
lies in a group, and the way from it up to its root ends.
-/

namespace HierQuery

/-! ## The way up -/

theorem table?_of_placed
    {rowType : RowType}
    {placement : Placement}
    (placed : rowType.placement? = some placement) :
    rowType.table? = some placement.table := by
  rw [RowType.table?, placed, Option.map_some]

namespace Schema

/-- A table with the tables above it, root first. -/
inductive Descends (schema : Schema) : RowType → List RowType → Prop
  | root {rowType : RowType} {placement : Placement} :
      rowType.placement? = some placement →
      placement.parent? = none →
      Descends schema rowType [rowType]
  | step
      {rowType upper : RowType}
      {placement : Placement}
      {parent : TableId}
      {line : List RowType} :
      rowType.placement? = some placement →
      placement.parent? = some parent →
      schema.table? parent = some upper →
      Descends schema upper line →
      Descends schema rowType (line ++ [rowType])

/-- The way from a table upwards goes on as it is when a schema has more tables. -/
theorem Descends.mono
    {schema larger : Schema}
    (kept :
      ∀ table rowType,
        schema.table? table = some rowType →
          larger.table? table = some rowType)
    {rowType : RowType}
    {line : List RowType}
    (descends : schema.Descends rowType line) :
    larger.Descends rowType line := by
  induction descends with
  | root placed parentless =>
      exact .root placed parentless
  | step placed parent found _ ih =>
      exact .step placed parent (kept _ _ found) ih

/-- The line of a table ends with it. -/
theorem Descends.eq_concat
    {schema : Schema}
    {rowType : RowType}
    {line : List RowType}
    (descends : schema.Descends rowType line) :
    ∃ uppers, line = uppers ++ [rowType] := by
  cases descends with
  | root =>
      exact ⟨[], rfl⟩
  | step =>
      exact ⟨_, rfl⟩

theorem Descends.placed
    {schema : Schema}
    {rowType : RowType}
    {line : List RowType}
    (descends : schema.Descends rowType line) :
    ∃ placement, rowType.placement? = some placement := by
  cases descends with
  | root placed | step placed =>
      exact ⟨_, placed⟩

theorem Descends.unique
    {schema : Schema}
    {rowType : RowType}
    {line other : List RowType}
    (descends : schema.Descends rowType line)
    (alsoDescends : schema.Descends rowType other) :
    line = other := by
  induction descends generalizing other with
  | root placed parentless =>
      cases alsoDescends with
      | root =>
          rfl
      | step alsoPlaced isChild =>
          cases Option.some.inj (placed.symm.trans alsoPlaced)
          rw [parentless] at isChild
          cases isChild
  | step placed isChild found _ ih =>
      cases alsoDescends with
      | root alsoPlaced parentless =>
          cases Option.some.inj (placed.symm.trans alsoPlaced)
          rw [parentless] at isChild
          cases isChild
      | step alsoPlaced alsoChild alsoFound higher =>
          cases Option.some.inj (placed.symm.trans alsoPlaced)
          cases Option.some.inj (isChild.symm.trans alsoChild)
          cases Option.some.inj (found.symm.trans alsoFound)
          rw [ih higher]

/-- Each table of the line of a table of the schema is one of the schema and has a number. -/
theorem Descends.mem_line
    {schema : Schema}
    {rowType : RowType}
    {line : List RowType}
    (descends : schema.Descends rowType line)
    (listed : rowType ∈ schema.tables) :
    ∀ upper ∈ line,
      upper ∈ schema.tables ∧ ∃ table, upper.table? = some table := by
  induction descends with
  | root placed =>
      intro upper inside
      rw [List.mem_singleton.1 inside]
      exact ⟨listed, _, table?_of_placed placed⟩
  | step placed _ found _ ih =>
      intro upper inside
      rcases List.mem_append.1 inside with above | itself
      · exact ih (List.mem_of_find?_eq_some found) upper above
      · rw [List.mem_singleton.1 itself]
        exact ⟨listed, _, table?_of_placed placed⟩

/-- Climbing collects the tables above a place if it may take that many steps. -/
theorem Descends.climb
    {schema : Schema}
    {rowType : RowType}
    {line : List RowType}
    (descends : schema.Descends rowType line)
    {placement : Placement}
    (placed : rowType.placement? = some placement)
    {steps : Nat}
    (enough : line.length ≤ steps + 1)
    (lower : List TableId) :
    lineage.climb schema steps placement lower =
      line.dropLast.filterMap RowType.table? ++ lower := by
  induction descends generalizing placement steps lower with
  | root itsPlace parentless =>
      cases Option.some.inj (placed.symm.trans itsPlace)
      cases steps with
      | zero =>
          rfl
      | succ steps =>
          simp [lineage.climb, parentless]
  | @step rowType upper itsPlacement parent line itsPlace itsParent found
      higher ih =>
      cases Option.some.inj (placed.symm.trans itsPlace)
      rcases higher.eq_concat with ⟨uppers, rfl⟩
      rcases higher.placed with ⟨upperPlacement, upperPlaced⟩
      cases steps with
      | zero =>
          simp at enough
      | succ steps =>
          have climbed :=
            ih upperPlaced (by simpa using enough)
              (upperPlacement.table :: lower)
          simpa [lineage.climb, itsParent, found, upperPlaced,
            RowType.table?] using climbed

/-- The lineage of a table is its line, unless there are too few tables to climb that far. -/
theorem Descends.lineage_eq
    {schema : Schema}
    {rowType : RowType}
    {line : List RowType}
    (descends : schema.Descends rowType line)
    {placement : Placement}
    (placed : rowType.placement? = some placement)
    (short : line.length ≤ schema.tables.length) :
    schema.lineage placement = line.filterMap RowType.table? := by
  rw [lineage, descends.climb placed (Nat.le_succ_of_le short)]
  rcases descends.eq_concat with ⟨uppers, rfl⟩
  simp [table?_of_placed placed]

/-- A table of the schema is found by its number, or another one with the same number is. -/
theorem exists_table?_of_mem
    {schema : Schema}
    {rowType : RowType}
    {table : TableId}
    (listed : rowType ∈ schema.tables)
    (itsTable : rowType.table? = some table) :
    ∃ found, schema.table? table = some found := by
  apply Option.isSome_iff_exists.1
  apply List.find?_isSome.2
  exact ⟨rowType, listed, by simp [itsTable]⟩

end Schema

namespace Fixture

open Schema

/-! ## One registration -/

/-- What the registration of a table makes of a schema. -/
inductive Registers (schema : Schema) (entry : TableEntry) : Schema → Prop
  /-- A root table starts a group of its own. -/
  | root {typeId : UInt32} {group : GroupTable} :
      entry.parent? = none →
      group.id = ⟨schema.lastGroupId + 1⟩ →
      group.root = ⟨schema.lastTableId + 1⟩ →
      group.tables = [⟨schema.lastTableId + 1⟩] →
      Registers schema entry
        { lastTypeId := typeId
          lastTableId := schema.lastTableId + 1
          lastGroupId := schema.lastGroupId + 1
          tables :=
            schema.tables ++
              [⟨typeId, entry.name, entry.columns,
                .table
                  ⟨⟨schema.lastTableId + 1⟩, none,
                    ⟨schema.lastGroupId + 1⟩⟩⟩]
          groups := schema.groups ++ [group] }
  /-- Any other table joins the group of its parent. -/
  | child
      {typeId : UInt32}
      {name : String}
      {named above : RowType}
      {parent : TableId}
      {place : Placement} :
      entry.parent? = some name →
      schema.tableNamed? name = some named →
      named.table? = some parent →
      schema.table? parent = some above →
      above.placement? = some place →
      Registers schema entry
        { lastTypeId := typeId
          lastTableId := schema.lastTableId + 1
          lastGroupId := schema.lastGroupId
          tables :=
            schema.tables ++
              [⟨typeId, entry.name, entry.columns,
                .table
                  ⟨⟨schema.lastTableId + 1⟩, some parent, place.group⟩⟩]
          groups :=
            (schema.joinGroup place.group
              ⟨schema.lastTableId + 1⟩).groups }

/-! ## When a table is registered -/

/-- The number of the parent of a table, which must be known, if it is to have one. -/
def parentOf
    (schema : Schema)
    (entry : TableEntry) :
    Except FixtureError (Option TableId) :=
  match entry.parent? with
  | some name => (tableNamed schema name).map RowType.table?
  | none => .ok none

section

variable {schema : Schema} {entry : TableEntry}

/-- A table is registered once it is known which table is its parent. -/
theorem addTable_eq_bind (schema : Schema) (entry : TableEntry) :
    addTable schema entry =
      parentOf schema entry >>= fun parent? =>
        match schema.newTable entry.name entry.columns parent? with
        | (.ok _, added) => .ok added
        | (.error error, _) => .error (.execution error) := by
  rw [addTable, parentOf]
  cases entry.parent? <;> rfl

/-- What the schema makes of a new table is what the registration comes to. -/
theorem addTable_eq_of_parent
    {parent? : Option TableId}
    (known : parentOf schema entry = .ok parent?) :
    addTable schema entry =
      match schema.newTable entry.name entry.columns parent? with
      | (.ok _, added) => .ok added
      | (.error error, _) => .error (.execution error) := by
  rw [addTable_eq_bind, known]
  rfl

theorem addTable_of_unknown_parent
    {name : String}
    (isChild : entry.parent? = some name)
    (unknown : schema.tableNamed? name = none) :
    addTable schema entry = .error (.unknownTable name) := by
  rw [addTable, isChild]
  dsimp only
  rw [tableNamed, unknown]
  rfl

theorem addTable_of_taken
    (parent? : Option TableId)
    (known : parentOf schema entry = .ok parent?)
    (taken : schema.tableNamed? entry.name ≠ none) :
    ∃ error, addTable schema entry = .error error := by
  have refused : (schema.tableNamed? entry.name).isSome = true :=
    Option.isSome_iff_ne_none.2 taken
  rw [addTable_eq_of_parent known, Schema.newTable, if_pos refused]
  exact ⟨_, rfl⟩

theorem registers_root
    (isRoot : entry.parent? = none)
    (free : schema.tableNamed? entry.name = none) :
    ∃ added, addTable schema entry = .ok added ∧ Registers schema entry added := by
  rw [addTable_eq_of_parent (by rw [parentOf, isRoot]), Schema.newTable, free]
  exact ⟨_, rfl, .root isRoot rfl rfl rfl⟩

theorem registers_child
    {name : String}
    {named above : RowType}
    {parent : TableId}
    {place : Placement}
    (isChild : entry.parent? = some name)
    (known : schema.tableNamed? name = some named)
    (itsTable : named.table? = some parent)
    (found : schema.table? parent = some above)
    (placed : above.placement? = some place)
    (free : schema.tableNamed? entry.name = none) :
    ∃ added, addTable schema entry = .ok added ∧ Registers schema entry added := by
  have parentKnown : parentOf schema entry = .ok (some parent) := by
    rw [parentOf, isChild]
    dsimp only
    rw [tableNamed, known, ← itsTable]
    rfl
  have issued : (schema.issueTable.2.table? parent) = some above := found
  rw [addTable_eq_of_parent parentKnown, Schema.newTable, free]
  dsimp only [Option.isSome_none]
  rw [issued, Option.bind_some, placed]
  exact ⟨_, rfl, .child isChild known itsTable found placed⟩

end

/-! ## What each registration keeps -/

section

variable {schema added : Schema} {entry : TableEntry}

/-- The new table comes last and takes the next number. -/
theorem Registers.tables
    (registers : Registers schema entry added) :
    ∃ typeId placement,
      placement.table = ⟨schema.lastTableId + 1⟩ ∧
        added.tables =
          schema.tables ++
            [⟨typeId, entry.name, entry.columns, .table placement⟩] := by
  cases registers with
  | root | child =>
      exact ⟨_, _, rfl, rfl⟩

theorem Registers.lastTableId
    (registers : Registers schema entry added) :
    added.lastTableId = schema.lastTableId + 1 := by
  cases registers with
  | root | child =>
      rfl

theorem Registers.table?_mono
    (registers : Registers schema entry added)
    {table : TableId}
    {rowType : RowType}
    (found : schema.table? table = some rowType) :
    added.table? table = some rowType := by
  rcases registers.tables with ⟨typeId, placement, -, tables⟩
  rw [Schema.table?] at found ⊢
  rw [tables, List.find?_append, found]
  rfl

/-- Joining a group does not change which groups there are. -/
theorem ids_joinGroup
    (schema : Schema)
    (group : GroupId)
    (table : TableId) :
    (schema.joinGroup group table).groups.map GroupTable.id =
      schema.groups.map GroupTable.id := by
  rw [Schema.joinGroup, List.map_map]
  apply List.map_congr_left
  intro candidate _
  rw [Function.comp_apply]
  split <;> rfl

theorem roots_joinGroup
    (schema : Schema)
    (group : GroupId)
    (table : TableId) :
    (schema.joinGroup group table).groups.map GroupTable.root =
      schema.groups.map GroupTable.root := by
  rw [Schema.joinGroup, List.map_map]
  apply List.map_congr_left
  intro candidate _
  rw [Function.comp_apply]
  split <;> rfl

/-- Groups may get members, but they keep their numbers and their roots. -/
theorem Registers.groups_mono
    (registers : Registers schema entry added)
    {group : GroupTable}
    (known : group ∈ schema.groups) :
    ∃ grown ∈ added.groups, grown.id = group.id ∧ grown.root = group.root := by
  cases registers with
  | root =>
      exact ⟨group, List.mem_append_left _ known, rfl, rfl⟩
  | child =>
      refine ⟨_, List.mem_map_of_mem known, ?_⟩
      split <;> exact ⟨rfl, rfl⟩

theorem Registers.ids
    (registers : Registers schema entry added) :
    added.groups.map GroupTable.id = schema.groups.map GroupTable.id ∧
        added.lastGroupId = schema.lastGroupId ∨
      added.groups.map GroupTable.id =
          schema.groups.map GroupTable.id ++ [⟨schema.lastGroupId + 1⟩] ∧
        added.lastGroupId = schema.lastGroupId + 1 := by
  cases registers with
  | root _ itsId =>
      exact .inr ⟨by simp [itsId], rfl⟩
  | child =>
      exact .inl ⟨ids_joinGroup _ _ _, rfl⟩

end

/-- A schema to which the given tables were registered in order. -/
inductive Registered : List TableEntry → Schema → Prop
  | nil : Registered [] .empty
  | snoc
      {entries : List TableEntry}
      {schema added : Schema}
      {entry : TableEntry} :
      Registered entries schema →
      schema.tableNamed? entry.name = none →
      Registers schema entry added →
      Registered (entries ++ [entry]) added

/--
Each table lies in a group, and the way from it upwards ends at the root of
that group.  The root of a group is a root table of the group, and the first
table is the root of the first group.
-/
structure Hierarchy (schema : Schema) : Prop where
  placed :
    ∀ rowType ∈ schema.tables,
      ∃ placement,
        rowType.placement? = some placement ∧
          placement.group ∈ schema.groups.map GroupTable.id
  descends :
    ∀ rowType ∈ schema.tables,
      ∃ line,
        schema.Descends rowType line ∧ line.length ≤ schema.tables.length
  headed :
    ∀ rowType ∈ schema.tables, ∀ line,
      schema.Descends rowType line →
        ∃ placement group,
          rowType.placement? = some placement ∧
            group ∈ schema.groups ∧
              group.id = placement.group ∧
                line.head?.bind RowType.table? = some group.root
  rooted :
    ∀ group ∈ schema.groups,
      ∃ rowType ∈ schema.tables,
        rowType.placement? = some ⟨group.root, none, group.id⟩
  first :
    (schema.groups.map GroupTable.root).head? =
      (schema.tables.filterMap RowType.table?).head?

theorem hierarchy_empty : Hierarchy .empty where
  placed := nofun
  descends := nofun
  headed := nofun
  rooted := nofun
  first := rfl

/-- The line of the new table is its own, or it goes on from that of its parent. -/
theorem Hierarchy.descends_new
    {schema added : Schema}
    {entry : TableEntry}
    (hierarchy : Hierarchy schema)
    (registers : Registers schema entry added)
    {rowType : RowType}
    (listed : rowType ∈ added.tables)
    (new : rowType ∉ schema.tables) :
    ∃ line, added.Descends rowType line ∧ line.length ≤ added.tables.length := by
  have kept : ∀ table rowType, schema.table? table = some rowType →
      added.table? table = some rowType :=
    fun _ _ found => registers.table?_mono found
  cases registers with
  | root =>
      rcases List.mem_append.1 listed with old | isNew
      · exact (new old).elim
      · rw [List.mem_singleton.1 isNew]
        exact ⟨_, .root rfl rfl, by simp⟩
  | child _ _ _ found =>
      rcases List.mem_append.1 listed with old | isNew
      · exact (new old).elim
      · rcases hierarchy.descends _ (List.mem_of_find?_eq_some found) with
          ⟨line, descends, short⟩
        rw [List.mem_singleton.1 isNew]
        exact
          ⟨_, .step rfl rfl (kept _ _ found) (descends.mono kept),
            by simpa using short⟩

theorem Hierarchy.headed_new
    {schema added : Schema}
    {entry : TableEntry}
    (hierarchy : Hierarchy schema)
    (registers : Registers schema entry added)
    {rowType : RowType}
    (listed : rowType ∈ added.tables)
    (new : rowType ∉ schema.tables)
    {line : List RowType}
    (descends : added.Descends rowType line) :
    ∃ placement group,
      rowType.placement? = some placement ∧
        group ∈ added.groups ∧
          group.id = placement.group ∧
            line.head?.bind RowType.table? = some group.root := by
  have kept : ∀ table rowType, schema.table? table = some rowType →
      added.table? table = some rowType :=
    fun _ _ found => registers.table?_mono found
  have grows {group : GroupTable} (known : group ∈ schema.groups) :=
    registers.groups_mono known
  cases registers with
  | @root _ group _ itsId itsRoot =>
      rcases List.mem_append.1 listed with old | isNew
      · exact (new old).elim
      · cases List.mem_singleton.1 isNew
        cases descends.unique (.root rfl rfl)
        exact ⟨_, group, rfl, List.mem_append_right _ List.mem_cons_self,
          itsId, by rw [itsRoot]; rfl⟩
  | child _ _ _ found placed =>
      rcases List.mem_append.1 listed with old | isNew
      · exact (new old).elim
      · cases List.mem_singleton.1 isNew
        have isAbove := List.mem_of_find?_eq_some found
        rcases hierarchy.descends _ isAbove with ⟨upper, higher, -⟩
        cases descends.unique
          (.step rfl rfl (kept _ _ found) (higher.mono kept))
        rcases hierarchy.headed _ isAbove upper higher with
          ⟨place, group, abovePlaced, known, itsId, top⟩
        cases Option.some.inj (placed.symm.trans abovePlaced)
        rcases grows known with ⟨grown, isKnown, sameId, sameRoot⟩
        refine ⟨_, grown, rfl, isKnown, sameId.trans itsId, ?_⟩
        rcases higher.eq_concat with ⟨uppers, rfl⟩
        rw [sameRoot, ← top]
        cases uppers <;> rfl

theorem Hierarchy.registers
    {schema added : Schema}
    {entry : TableEntry}
    (hierarchy : Hierarchy schema)
    (registers : Registers schema entry added) :
    Hierarchy added where
  placed := by
    intro rowType listed
    cases registers with
    | root _ itsId =>
        rcases List.mem_append.1 listed with old | new
        · rcases hierarchy.placed rowType old with ⟨placement, placed, inside⟩
          rw [List.map_append]
          exact ⟨placement, placed, List.mem_append_left _ inside⟩
        · rw [List.mem_singleton.1 new]
          exact ⟨_, rfl, by simp [itsId]⟩
    | child _ _ _ found placed =>
        rw [ids_joinGroup]
        rcases List.mem_append.1 listed with old | new
        · exact hierarchy.placed rowType old
        · rcases hierarchy.placed _ (List.mem_of_find?_eq_some found) with
            ⟨place, abovePlaced, inside⟩
          cases Option.some.inj (placed.symm.trans abovePlaced)
          rw [List.mem_singleton.1 new]
          exact ⟨_, rfl, inside⟩
  descends := by
    intro rowType listed
    by_cases old : rowType ∈ schema.tables
    · rcases hierarchy.descends rowType old with ⟨line, descends, short⟩
      rcases registers.tables with ⟨typeId, placement, -, tables⟩
      refine ⟨line, descends.mono fun _ _ => registers.table?_mono, ?_⟩
      rw [tables, List.length_append]
      omega
    · exact hierarchy.descends_new registers listed old
  headed := by
    intro rowType listed line descends
    by_cases old : rowType ∈ schema.tables
    · rcases hierarchy.descends rowType old with ⟨former, before, -⟩
      cases descends.unique (before.mono fun _ _ => registers.table?_mono)
      rcases hierarchy.headed rowType old line before with
        ⟨placement, group, placed, known, itsId, top⟩
      rcases registers.groups_mono known with ⟨grown, isKnown, sameId, sameRoot⟩
      exact ⟨placement, grown, placed, isKnown, sameId.trans itsId,
        sameRoot ▸ top⟩
    · exact hierarchy.headed_new registers listed old descends
  rooted := by
    have old (former : GroupTable) (known : former ∈ schema.groups) :
        ∃ rowType ∈ added.tables,
          rowType.placement? = some ⟨former.root, none, former.id⟩ := by
      rcases hierarchy.rooted former known with ⟨rowType, listed, placed⟩
      rcases registers.tables with ⟨typeId, placement, -, tables⟩
      rw [tables]
      exact ⟨rowType, List.mem_append_left _ listed, placed⟩
    intro group listed
    cases registers with
    | root _ itsId itsRoot =>
        rcases List.mem_append.1 listed with known | new
        · exact old group known
        · rw [List.mem_singleton.1 new, itsId, itsRoot]
          exact ⟨_, List.mem_append_right _ List.mem_cons_self, rfl⟩
    | child =>
        rcases List.mem_map.1 listed with ⟨former, known, rfl⟩
        split <;> exact old former known
  first := by
    cases registers with
    | root _ _ itsRoot =>
        rw [List.map_append, List.filterMap_append, List.head?_append,
          List.head?_append, hierarchy.first, List.map_singleton, itsRoot]
        rfl
    | child _ known itsTable =>
        have parent :=
          List.mem_filterMap.2
            ⟨_, List.mem_of_find?_eq_some known, itsTable⟩
        rw [roots_joinGroup, List.filterMap_append, List.head?_append,
          hierarchy.first, List.head?_eq_some_head (List.ne_nil_of_mem parent)]
        rfl

theorem Registered.hierarchy
    {entries : List TableEntry}
    {schema : Schema}
    (registered : Registered entries schema) :
    Hierarchy schema := by
  induction registered with
  | nil =>
      exact hierarchy_empty
  | snoc _ _ registers ih =>
      exact ih.registers registers

/-- Under the number of a table there is one with a place, though it need not be the same. -/
theorem Hierarchy.exists_placed
    {schema : Schema}
    (hierarchy : Hierarchy schema)
    {rowType : RowType}
    (listed : rowType ∈ schema.tables) :
    ∃ table found placement,
      rowType.table? = some table ∧
        schema.table? table = some found ∧
          found.placement? = some placement ∧
            placement.group ∈ schema.groups.map GroupTable.id := by
  rcases hierarchy.placed rowType listed with ⟨itsPlacement, itsPlaced, -⟩
  have itsTable := table?_of_placed itsPlaced
  rcases exists_table?_of_mem listed itsTable with ⟨found, isFound⟩
  rcases hierarchy.placed found (List.mem_of_find?_eq_some isFound) with
    ⟨placement, placed, inside⟩
  exact ⟨_, found, placement, itsTable, isFound, placed, inside⟩

/-- A table is registered if its name is free and its parent is known, and else refused. -/
theorem Hierarchy.addTable_cases
    {schema : Schema}
    (hierarchy : Hierarchy schema)
    (entry : TableEntry) :
    (∃ added,
      addTable schema entry = .ok added ∧
        schema.tableNamed? entry.name = none ∧
          Registers schema entry added ∧
            ∀ name,
              entry.parent? = some name → schema.tableNamed? name ≠ none) ∨
      (∃ error, addTable schema entry = .error error) ∧
        (schema.tableNamed? entry.name ≠ none ∨
          ∃ name, entry.parent? = some name ∧ schema.tableNamed? name = none) := by
  cases parentName : entry.parent? with
  | none =>
      by_cases free : schema.tableNamed? entry.name = none
      · rcases registers_root parentName free with ⟨added, ok, registers⟩
        exact .inl ⟨added, ok, free, registers, nofun⟩
      · exact .inr
          ⟨addTable_of_taken none (by rw [parentOf, parentName]) free,
            .inl free⟩
  | some name =>
      cases known : schema.tableNamed? name with
      | none =>
          exact .inr
            ⟨⟨_, addTable_of_unknown_parent parentName known⟩,
              .inr ⟨name, rfl, known⟩⟩
      | some named =>
          by_cases free : schema.tableNamed? entry.name = none
          · rcases hierarchy.exists_placed (List.mem_of_find?_eq_some known)
              with ⟨table, above, place, itsTable, found, abovePlaced, -⟩
            rcases registers_child parentName known itsTable found abovePlaced
              free with ⟨added, ok, registers⟩
            refine .inl ⟨added, ok, free, registers, ?_⟩
            rintro _ ⟨⟩
            rw [known]
            exact nofun
          · refine .inr ⟨addTable_of_taken named.table? ?_ free, .inl free⟩
            rw [parentOf, parentName]
            dsimp only
            rw [tableNamed, known]
            rfl

/-- The root of the first group is the first table. -/
theorem Hierarchy.table?_first
    {schema : Schema}
    (hierarchy : Hierarchy schema) :
    (schema.groups.head?.bind fun group => schema.table? group.root) =
      schema.tables.head? := by
  have sameRoot := hierarchy.first
  rw [List.head?_map] at sameRoot
  cases tables : schema.tables with
  | nil =>
      rw [tables] at sameRoot
      rw [Option.map_eq_none_iff.1 sameRoot]
      rfl
  | cons head others =>
      rcases hierarchy.placed head (by rw [tables]; exact List.mem_cons_self)
        with ⟨placement, placed, -⟩
      have itsTable := table?_of_placed placed
      rw [tables, List.filterMap_cons_some itsTable] at sameRoot
      rcases Option.map_eq_some_iff.1 sameRoot with ⟨group, isFirst, root⟩
      rw [isFirst, Option.bind_some, Schema.table?, tables, root]
      exact List.find?_cons_of_pos (by simp [itsTable])

/-- Each table has a number and lies in a group. -/
theorem Hierarchy.homed
    {schema : Schema}
    (hierarchy : Hierarchy schema)
    {rowType : RowType}
    (listed : rowType ∈ schema.tables) :
    ∃ table group,
      rowType.table? = some table ∧ schema.groupOf? table = some group := by
  rcases hierarchy.exists_placed listed with
    ⟨table, found, placement, itsTable, isFound, placed, inside⟩
  rcases List.mem_map.1 inside with ⟨group, known, itsId⟩
  have isKnown : (schema.group? placement.group).isSome :=
    List.find?_isSome.2 ⟨group, known, by simp [itsId]⟩
  rcases Option.isSome_iff_exists.1 isKnown with ⟨itsGroup, its⟩
  exact ⟨table, itsGroup, itsTable,
    by simp [Schema.groupOf?, isFound, placed, its]⟩

end Fixture

end HierQuery
