import HierQuery.Proofs.Fixture.Numbering
import Mathlib.Data.List.Forall2
import Mathlib.Data.List.Induction

/-!
# Well-formed documents

A document is well-formed if the names of its tables are all different, each
parent is declared before its children, and each row has a value for each
column of its table and a level for each table on the path to it.  Paths are
those of names in the document; they know nothing of numbers or schemas.
-/

namespace HierQuery.Fixture

open Schema

/-! ## What a document is to be like -/

/-- The path to a table: its own name after those of the tables above it, root first. -/
inductive Path (tables : List TableEntry) : String → List String → Prop
  | root {entry : TableEntry} :
      entry ∈ tables →
      entry.parent? = none →
      Path tables entry.name [entry.name]
  | child {entry : TableEntry} {parent : String} {path : List String} :
      entry ∈ tables →
      entry.parent? = some parent →
      Path tables parent path →
      Path tables entry.name (path ++ [entry.name])

/-- The names of the tables are all different, and each parent is the name of an earlier table. -/
structure Declared (tables : List TableEntry) : Prop where
  distinct : (tables.map TableEntry.name).Nodup
  earlier :
    ∀ before entry after parent,
      tables = before ++ entry :: after →
        entry.parent? = some parent →
          parent ∈ before.map TableEntry.name

/-- The values that a column of the type may hold. -/
inductive Holds : ColumnType → Value → Prop
  | null {columnType : ColumnType} : Holds columnType .null
  | int (number : Int64) : Holds .int (.int number)
  | text (text : String) : Holds .text (.text text)
  | bool (truth : Bool) : Holds .bool (.bool truth)

/-- The row has a value for each column of its table and a level for each table on the path. -/
structure Fits (tables : List TableEntry) (row : RowEntry) : Prop where
  values :
    ∃ entry ∈ tables,
      entry.name = row.table ∧
        List.Forall₂ (fun column value => Holds column.columnType value)
          entry.columns row.values
  levels :
    ∃ path, Path tables row.table path ∧ row.levels.length = path.length

/-- The tables and the rows of the document fit together. -/
structure Document.WellFormed (document : Document) : Prop where
  tables : Declared document.tables
  rows : ∀ row ∈ document.rows, Fits document.tables row

/-! ## Paths -/

section

variable {tables : List TableEntry}

/-- The table that a path leads to, and the path to its parent. -/
theorem Path.inversion
    {name : String}
    {path : List String}
    (leads : Path tables name path) :
    ∃ entry ∈ tables,
      entry.name = name ∧
        (entry.parent? = none ∧ path = [name] ∨
          ∃ parent above,
            entry.parent? = some parent ∧
              Path tables parent above ∧ path = above ++ [name]) := by
  cases leads with
  | root listed parentless =>
      exact ⟨_, listed, rfl, .inl ⟨parentless, rfl⟩⟩
  | child listed parent above =>
      exact ⟨_, listed, rfl, .inr ⟨_, _, parent, above, rfl⟩⟩

theorem Path.unique
    (distinct : (tables.map TableEntry.name).Nodup)
    {name : String}
    {path other : List String}
    (leads : Path tables name path)
    (alsoLeads : Path tables name other) :
    path = other := by
  induction leads generalizing other with
  | root listed parentless =>
      rcases alsoLeads.inversion with
        ⟨entry, alsoListed, sameName, ⟨-, rfl⟩ | ⟨parent, above, isChild, -⟩⟩
      · rfl
      · cases List.inj_on_of_nodup_map distinct alsoListed listed sameName
        rw [parentless] at isChild
        cases isChild
  | child listed isChild _ ih =>
      rcases alsoLeads.inversion with
        ⟨entry, alsoListed, sameName,
          ⟨parentless, -⟩ | ⟨parent, above, alsoChild, higher, rfl⟩⟩
      · cases List.inj_on_of_nodup_map distinct alsoListed listed sameName
        rw [parentless] at isChild
        cases isChild
      · cases List.inj_on_of_nodup_map distinct alsoListed listed sameName
        cases Option.some.inj (isChild.symm.trans alsoChild)
        rw [ih higher]

/-! ## Declarations -/

theorem declared_nil : Declared [] where
  distinct := .nil
  earlier := by
    intro before entry after parent parts
    cases before <;> cases parts

/-- The last table may be declared if its name is new and its parent is known. -/
theorem declared_concat_iff
    {entry : TableEntry} :
    Declared (tables ++ [entry]) ↔
      Declared tables ∧ entry.name ∉ tables.map TableEntry.name ∧
        ∀ parent, entry.parent? = some parent →
          parent ∈ tables.map TableEntry.name := by
  have distinctConcat :
      ((tables ++ [entry]).map TableEntry.name).Nodup ↔
        (tables.map TableEntry.name).Nodup ∧
          entry.name ∉ tables.map TableEntry.name := by
    rw [List.map_append, List.map_singleton, ← List.concat_eq_append,
      List.nodup_concat, and_comm]
  constructor
  · intro declared
    rcases distinctConcat.1 declared.distinct with ⟨distinct, new⟩
    refine ⟨⟨distinct, ?_⟩, new, ?_⟩
    · rintro before entry' after parent rfl isChild
      exact declared.earlier before entry' (after ++ [entry]) parent (by simp)
        isChild
    · exact fun parent => declared.earlier tables entry [] parent rfl
  · rintro ⟨declared, new, known⟩
    refine ⟨distinctConcat.2 ⟨declared.distinct, new⟩, ?_⟩
    intro before entry' after parent parts isChild
    rcases after.eq_nil_or_concat with rfl | ⟨between, last, rfl⟩
    · rcases List.append_inj' parts rfl with ⟨rfl, same⟩
      cases same
      exact known parent isChild
    · rw [List.concat_eq_append, ← List.cons_append,
        ← List.append_assoc] at parts
      rcases List.append_inj' parts rfl with ⟨rfl, -⟩
      exact declared.earlier before entry' between parent rfl isChild

/-! ## Schemas and the tables they were made of -/

/-- The entry of a table of a schema. -/
structure Describes
    (schema : Schema)
    (entry : TableEntry)
    (rowType : RowType) :
    Prop where
  name : entry.name = rowType.name
  columns : entry.columns = rowType.columns
  parent :
    ∃ placement,
      rowType.placement? = some placement ∧
        (placement.parent? = none ∧ entry.parent? = none ∨
          ∃ parent upper,
            placement.parent? = some parent ∧
              schema.table? parent = some upper ∧
                entry.parent? = some upper.name)

/-- The schema has the given tables under their names, and each below its parent. -/
structure Represents (tables : List TableEntry) (schema : Schema) : Prop where
  distinct : (tables.map TableEntry.name).Nodup
  names : schema.tables.map RowType.name = tables.map TableEntry.name
  described :
    ∀ rowType ∈ schema.tables, ∃ entry ∈ tables, Describes schema entry rowType

theorem Represents.tableNamed?_eq_none_iff
    {schema : Schema}
    (represents : Represents tables schema)
    {name : String} :
    schema.tableNamed? name = none ↔ name ∉ tables.map TableEntry.name := by
  rw [← represents.names, Schema.tableNamed?, List.find?_eq_none]
  simp

theorem Describes.registers
    {schema added : Schema}
    {entry new : TableEntry}
    {rowType : RowType}
    (describes : Describes schema entry rowType)
    (registers : Registers schema new added) :
    Describes added entry rowType where
  name := describes.name
  columns := describes.columns
  parent := by
    rcases describes.parent with
      ⟨placement, placed, isRoot | ⟨parent, upper, isChild, found, named⟩⟩
    · exact ⟨placement, placed, .inl isRoot⟩
    · exact ⟨placement, placed,
        .inr ⟨parent, upper, isChild, registers.table?_mono found, named⟩⟩

/-- The new table of a schema is as its entry says. -/
theorem Numbered.describes_new
    {schema added : Schema}
    {entry : TableEntry}
    (numbered : Numbered schema)
    (registers : Registers schema entry added) :
    ∃ rowType,
      added.tables = schema.tables ++ [rowType] ∧
        Describes added entry rowType := by
  have kept {table : TableId} {rowType : RowType} :
      schema.table? table = some rowType →
        added.table? table = some rowType :=
    registers.table?_mono
  cases registers with
  | root parentless =>
      exact ⟨_, rfl, rfl, rfl, _, rfl, .inl ⟨rfl, parentless⟩⟩
  | @child _ name named above parent _ isChild known itsTable found =>
      have sameName : named.name = name := by
        simpa using List.find?_some known
      have same : above = named := by
        have alsoFound :=
          numbered.table?_of_mem (List.mem_of_find?_eq_some known) itsTable
        exact Option.some.inj (found.symm.trans alsoFound)
      refine ⟨_, rfl, rfl, rfl, _, rfl,
        .inr ⟨parent, above, rfl, kept found, ?_⟩⟩
      rw [isChild, same, sameName]

theorem Registered.represents
    {schema : Schema}
    (registered : Registered tables schema)
    (few : tables.length < UInt32.size) :
    Represents tables schema := by
  induction registered with
  | nil =>
      exact ⟨.nil, rfl, nofun⟩
  | @snoc tables schema added entry before free registers ih =>
      rw [List.length_append, List.length_singleton] at few
      have represents := ih (Nat.lt_of_succ_lt few)
      have numbered := before.numbered (Nat.lt_of_succ_lt few)
      rcases numbered.describes_new registers with
        ⟨rowType, addedTables, describes⟩
      refine ⟨?_, ?_, ?_⟩
      · rw [List.map_append, List.map_singleton, ← List.concat_eq_append,
          List.nodup_concat]
        exact ⟨represents.tableNamed?_eq_none_iff.1 free, represents.distinct⟩
      · rw [addedTables, List.map_append, List.map_append, represents.names,
          List.map_singleton, List.map_singleton, describes.name]
      · intro other listed
        rw [addedTables] at listed
        rcases List.mem_append.1 listed with old | new
        · rcases represents.described other old with
            ⟨entry', known, describes'⟩
          exact ⟨entry', List.mem_append_left _ known,
            describes'.registers registers⟩
        · rw [List.mem_singleton.1 new]
          exact ⟨entry, List.mem_append_right _ List.mem_cons_self, describes⟩

/-- A table that is found by its name is described by the entry of that name. -/
theorem Represents.described_of_named
    {schema : Schema}
    (represents : Represents tables schema)
    {entry : TableEntry}
    (listed : entry ∈ tables)
    {rowType : RowType}
    (known : schema.tableNamed? entry.name = some rowType) :
    Describes schema entry rowType := by
  have sameName : rowType.name = entry.name := by
    simpa using List.find?_some known
  rcases represents.described rowType (List.mem_of_find?_eq_some known) with
    ⟨described, alsoListed, describes⟩
  cases List.inj_on_of_nodup_map represents.distinct alsoListed listed
    (describes.name.trans sameName)
  exact describes

/-- The names in the line of a table are the path to it. -/
theorem Represents.path
    {schema : Schema}
    (represents : Represents tables schema)
    {rowType : RowType}
    {line : List RowType}
    (descends : schema.Descends rowType line)
    (listed : rowType ∈ schema.tables) :
    Path tables rowType.name (line.map RowType.name) := by
  induction descends with
  | root placed parentless =>
      rcases represents.described _ listed with ⟨entry, known, describes⟩
      rcases describes.parent with
        ⟨placement, itsPlace, ⟨-, isRoot⟩ | ⟨parent, upper, isChild, -⟩⟩
      · rw [List.map_singleton, ← describes.name]
        exact .root known isRoot
      · cases Option.some.inj (placed.symm.trans itsPlace)
        rw [parentless] at isChild
        cases isChild
  | step placed isChild found _ ih =>
      rcases represents.described _ listed with ⟨entry, known, describes⟩
      rcases describes.parent with
        ⟨placement, itsPlace,
          ⟨parentless, -⟩ | ⟨parent, upper, alsoChild, alsoFound, named⟩⟩
      · cases Option.some.inj (placed.symm.trans itsPlace)
        rw [parentless] at isChild
        cases isChild
      · cases Option.some.inj (placed.symm.trans itsPlace)
        cases Option.some.inj (isChild.symm.trans alsoChild)
        cases Option.some.inj (found.symm.trans alsoFound)
        rw [List.map_append, List.map_singleton, ← describes.name]
        exact .child known named (ih (List.mem_of_find?_eq_some found))

/-! ## Groups -/

/-- The members of a group are the tables whose path begins with the given name. -/
def Gathers
    (tables : List TableEntry)
    (schema : Schema)
    (group : GroupTable)
    (root : String) :
    Prop :=
  ∀ rowType ∈ schema.tables, ∀ path,
    Path tables rowType.name path →
      (rowType.table?.any group.contains = true ↔ path.head? = some root)

theorem Represents.gathers
    {schema : Schema}
    (represents : Represents tables schema)
    (hierarchy : Hierarchy schema)
    (numbered : Numbered schema)
    {group : GroupTable}
    (known : group ∈ schema.groups)
    {root : RowType}
    (isListed : root ∈ schema.tables)
    (isRoot : root.placement? = some ⟨group.root, none, group.id⟩) :
    Gathers tables schema group root.name := by
  intro rowType listed path leads
  rcases hierarchy.descends rowType listed with ⟨line, descends, -⟩
  cases leads.unique represents.distinct (represents.path descends listed)
  rcases hierarchy.headed rowType listed line descends with
    ⟨placement, itsGroup, placed, itsKnown, itsId, head⟩
  rcases Option.bind_eq_some_iff.1 head with ⟨top, isTop, topTable⟩
  have topListed := (descends.mem_line listed top (List.mem_of_head? isTop)).1
  have inGroup :
      rowType.table?.any group.contains = true ↔ itsGroup.id = group.id := by
    rw [table?_of_placed placed, itsId,
      ← numbered.members group known rowType listed placement placed]
    exact List.contains_iff_mem
  have inPath :
      (line.map RowType.name).head? = some root.name ↔
        top.name = root.name := by
    rw [List.head?_map, isTop]
    exact Option.some_inj
  rw [inGroup, inPath]
  have rootTable : root.table? = some group.root := table?_of_placed isRoot
  constructor
  · intro sameId
    cases List.inj_on_of_nodup_map numbered.groups itsKnown known sameId
    rw [List.inj_on_of_nodup_map numbered.tables topListed isListed
      (topTable.trans rootTable.symm)]
  · intro sameName
    have distinctNames : (schema.tables.map RowType.name).Nodup :=
      represents.names ▸ represents.distinct
    cases List.inj_on_of_nodup_map distinctNames topListed isListed sameName
    rcases hierarchy.rooted itsGroup itsKnown with
      ⟨other, otherListed, otherRoot⟩
    have otherTable : other.table? = some itsGroup.root :=
      table?_of_placed otherRoot
    cases List.inj_on_of_nodup_map numbered.tables otherListed isListed
      (otherTable.trans topTable.symm)
    exact congrArg Placement.group
      (Option.some.inj (otherRoot.symm.trans isRoot))

/-- Each group gathers the tables below a root table, and each root table has such a group. -/
structure Grouped (tables : List TableEntry) (schema : Schema) : Prop where
  roots :
    ∀ group ∈ schema.groups,
      ∃ root ∈ tables,
        root.parent? = none ∧ Gathers tables schema group root.name
  groups :
    ∀ root ∈ tables,
      root.parent? = none →
        ∃ group ∈ schema.groups, Gathers tables schema group root.name

theorem Represents.exists_root
    {schema : Schema}
    (represents : Represents tables schema)
    (hierarchy : Hierarchy schema)
    (numbered : Numbered schema)
    {group : GroupTable}
    (known : group ∈ schema.groups) :
    ∃ root ∈ tables,
      root.parent? = none ∧ Gathers tables schema group root.name := by
  rcases hierarchy.rooted group known with ⟨rowType, listed, isRoot⟩
  rcases represents.described rowType listed with ⟨root, isListed, describes⟩
  refine ⟨root, isListed, ?_, ?_⟩
  · rcases describes.parent with
      ⟨placement, placed, ⟨-, parentless⟩ | ⟨parent, upper, isChild, -⟩⟩
    · exact parentless
    · cases Option.some.inj (isRoot.symm.trans placed)
      cases isChild
  · rw [describes.name]
    exact represents.gathers hierarchy numbered known listed isRoot

theorem Represents.exists_group
    {schema : Schema}
    (represents : Represents tables schema)
    (hierarchy : Hierarchy schema)
    (numbered : Numbered schema)
    {root : TableEntry}
    (isListed : root ∈ tables)
    (parentless : root.parent? = none) :
    ∃ group ∈ schema.groups, Gathers tables schema group root.name := by
  have named : root.name ∈ schema.tables.map RowType.name := by
    rw [represents.names]
    exact List.mem_map_of_mem isListed
  rcases List.mem_map.1 named with ⟨rowType, listed, sameName⟩
  rcases hierarchy.descends rowType listed with ⟨line, descends, -⟩
  rcases hierarchy.headed rowType listed line descends with
    ⟨placement, group, placed, known, itsId, -⟩
  rcases represents.exists_root hierarchy numbered known with
    ⟨other, -, -, gathers⟩
  have leads : Path tables rowType.name [root.name] := by
    rw [sameName]
    exact .root isListed parentless
  have inside : rowType.table?.any group.contains = true := by
    rw [table?_of_placed placed]
    exact List.contains_iff_mem.2
      ((numbered.members group known rowType listed placement placed).2
        itsId.symm)
  have sameRoot : root.name = other.name :=
    Option.some.inj ((gathers rowType listed _ leads).1 inside)
  exact ⟨group, known, sameRoot ▸ gathers⟩

theorem Represents.grouped
    {schema : Schema}
    (represents : Represents tables schema)
    (hierarchy : Hierarchy schema)
    (numbered : Numbered schema) :
    Grouped tables schema where
  roots := fun _ known => represents.exists_root hierarchy numbered known
  groups := fun _ listed parentless =>
    represents.exists_group hierarchy numbered listed parentless

/-! ## Which tables are accepted -/

theorem foldlM_concat
    (entry : TableEntry)
    (schema : Schema) :
    (tables ++ [entry]).foldlM addTable schema =
      tables.foldlM addTable schema >>= fun former =>
        addTable former entry := by
  rw [List.foldlM_append]
  simp

theorem registered_of_foldlM
    {schema : Schema}
    (ok : tables.foldlM addTable .empty = .ok schema) :
    Registered tables schema := by
  induction tables using List.reverseRecOn generalizing schema with
  | nil =>
      cases ok
      exact .nil
  | append_singleton tables entry ih =>
      rw [foldlM_concat] at ok
      cases before : tables.foldlM addTable .empty with
      | error error =>
          rw [before] at ok
          cases ok
      | ok former =>
          rw [before] at ok
          have registered := ih before
          rcases registered.hierarchy.addTable_cases entry with
            ⟨added, okToo, free, registers, -⟩ | ⟨⟨error, refused⟩, -⟩
          · cases okToo.symm.trans ok
            exact .snoc registered free registers
          · cases refused.symm.trans ok

/-- The tables of a document are accepted exactly if they are declared properly. -/
theorem exists_foldlM_iff
    (few : tables.length < UInt32.size) :
    (∃ schema, tables.foldlM addTable .empty = .ok schema) ↔
      Declared tables := by
  induction tables using List.reverseRecOn with
  | nil =>
      exact iff_of_true ⟨_, rfl⟩ declared_nil
  | append_singleton tables entry ih =>
      rw [List.length_append, List.length_singleton] at few
      have fewBefore := Nat.lt_of_succ_lt few
      rw [declared_concat_iff, ← ih fewBefore]
      cases before : tables.foldlM addTable .empty with
      | error error =>
          simp [before, bind, Except.bind]
      | ok former =>
          have registered := registered_of_foldlM before
          have represents := registered.represents fewBefore
          have known (name : String) :
              name ∈ tables.map TableEntry.name ↔
                former.tableNamed? name ≠ none := by
            rw [ne_eq, represents.tableNamed?_eq_none_iff, not_not]
          have lastOnly :
              (∃ schema,
                  (tables ++ [entry]).foldlM addTable .empty = .ok schema) ↔
                ∃ schema, addTable former entry = .ok schema := by
            rw [foldlM_concat, before]
            rfl
          rw [lastOnly, known, not_not]
          rcases registered.hierarchy.addTable_cases entry with
            ⟨added, ok, free, registers, parentKnown⟩ |
              ⟨⟨error, refused⟩, taken | ⟨name, isChild, unknown⟩⟩
          · refine iff_of_true ⟨added, ok⟩ ⟨⟨former, rfl⟩, free, ?_⟩
            exact fun parent isChild =>
              (known parent).2 (parentKnown parent isChild)
          · refine iff_of_false ?_ fun ⟨_, free, _⟩ => taken free
            rintro ⟨schema, ok⟩
            cases refused.symm.trans ok
          · refine iff_of_false ?_ fun ⟨_, _, all⟩ =>
              (known name).1 (all name isChild) unknown
            rintro ⟨schema, ok⟩
            cases refused.symm.trans ok

end

end HierQuery.Fixture
