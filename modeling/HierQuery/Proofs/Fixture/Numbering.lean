import HierQuery.Proofs.Fixture.Registration
import Mathlib.Data.List.Nodup

/-!
# The numbers of tables and groups

Tables and groups are numbered with 32 bits.  As long as these do not run out
all numbers are different.  Then each table is found by its number, and the
members of a group are exactly the tables that lie in it.
-/

namespace HierQuery.Fixture

open Schema

/--
All numbers are different, and the members of a group are the tables that lie
in it.  Numbers that were not issued yet are above all others.
-/
structure Numbered (schema : Schema) : Prop where
  tables : (schema.tables.map RowType.table?).Nodup
  groups : (schema.groups.map GroupTable.id).Nodup
  members :
    ∀ group ∈ schema.groups, ∀ rowType ∈ schema.tables, ∀ placement,
      rowType.placement? = some placement →
        (placement.table ∈ group.tables ↔ placement.group = group.id)
  issuedTables :
    ∀ rowType ∈ schema.tables, ∀ table,
      rowType.table? = some table → table.value ≤ schema.lastTableId
  issuedMembers :
    ∀ group ∈ schema.groups, ∀ table ∈ group.tables,
      table.value ≤ schema.lastTableId
  issuedGroups :
    ∀ group ∈ schema.groups.map GroupTable.id,
      group.value ≤ schema.lastGroupId

/-- How far the numbers have got after so many registrations. -/
structure Issued (schema : Schema) (registered : Nat) : Prop where
  tables : schema.lastTableId.toNat = registered
  groups : schema.lastGroupId.toNat ≤ registered

theorem Issued.registers
    {schema added : Schema}
    {entry : TableEntry}
    {registered : Nat}
    (issued : Issued schema registered)
    (few : registered + 1 < UInt32.size)
    (registers : Registers schema entry added) :
    Issued added (registered + 1) := by
  have next : (schema.lastTableId + 1).toNat = registered + 1 := by
    rw [UInt32.toNat_add, issued.tables]
    exact Nat.mod_eq_of_lt few
  have nextGroup :
      (schema.lastGroupId + 1).toNat = schema.lastGroupId.toNat + 1 := by
    rw [UInt32.toNat_add]
    exact Nat.mod_eq_of_lt
      (Nat.lt_of_le_of_lt (Nat.succ_le_succ issued.groups) few)
  cases registers with
  | root =>
      exact ⟨next, by rw [nextGroup]; exact Nat.succ_le_succ issued.groups⟩
  | child =>
      exact ⟨next, Nat.le_succ_of_le issued.groups⟩

section

variable
  {schema added : Schema}
  {entry : TableEntry}
  {registered : Nat}

/-- As long as they do not run out, the next numbers are above all issued ones. -/
theorem Issued.above
    (issued : Issued schema registered)
    (few : registered + 1 < UInt32.size) :
    schema.lastTableId < schema.lastTableId + 1 ∧
      schema.lastGroupId < schema.lastGroupId + 1 := by
  have tables := issued.tables
  have groups := issued.groups
  have size : UInt32.size = 4294967296 := rfl
  constructor <;>
  · rw [UInt32.lt_iff_toNat_lt, UInt32.toNat_add, UInt32.toNat_one]
    omega

theorem Numbered.unissued_table
    (numbered : Numbered schema)
    (above : schema.lastTableId < schema.lastTableId + 1)
    {rowType : RowType}
    (listed : rowType ∈ schema.tables) :
    rowType.table? ≠ some ⟨schema.lastTableId + 1⟩ := by
  intro itsTable
  exact UInt32.not_lt.2
    (numbered.issuedTables rowType listed _ itsTable) above

theorem Numbered.unissued_member
    (numbered : Numbered schema)
    (above : schema.lastTableId < schema.lastTableId + 1)
    {group : GroupTable}
    (listed : group ∈ schema.groups) :
    (⟨schema.lastTableId + 1⟩ : TableId) ∉ group.tables := by
  intro inside
  exact UInt32.not_lt.2 (numbered.issuedMembers group listed _ inside) above

theorem Numbered.unissued_group
    (numbered : Numbered schema)
    (above : schema.lastGroupId < schema.lastGroupId + 1)
    {group : GroupId}
    (listed : group ∈ schema.groups.map GroupTable.id) :
    group ≠ ⟨schema.lastGroupId + 1⟩ := by
  rintro rfl
  exact UInt32.not_lt.2 (numbered.issuedGroups _ listed) above

/-- A table with a new number lies in no group that was there before. -/
theorem Numbered.members_registers
    (numbered : Numbered schema)
    (hierarchy : Hierarchy schema)
    (aboveTables : schema.lastTableId < schema.lastTableId + 1)
    (aboveGroups : schema.lastGroupId < schema.lastGroupId + 1)
    (registers : Registers schema entry added) :
    ∀ group ∈ added.groups, ∀ rowType ∈ added.tables, ∀ placement,
      rowType.placement? = some placement →
        (placement.table ∈ group.tables ↔ placement.group = group.id) := by
  have oldTable {rowType : RowType} {placement : Placement}
      (listed : rowType ∈ schema.tables)
      (placed : rowType.placement? = some placement) :
      placement.table ≠ ⟨schema.lastTableId + 1⟩ := by
    intro same
    apply numbered.unissued_table aboveTables listed
    rw [table?_of_placed placed, same]
  intro group groupListed rowType listed placement placed
  cases registers with
  | root _ itsId _ itsTables =>
      rcases List.mem_append.1 groupListed with oldGroup | newGroup <;>
        rcases List.mem_append.1 listed with old | new
      · exact numbered.members group oldGroup rowType old placement placed
      · rw [List.mem_singleton.1 new] at placed
        cases placed
        refine iff_of_false
          (numbered.unissued_member aboveTables oldGroup) ?_
        exact (numbered.unissued_group aboveGroups
          (List.mem_map_of_mem oldGroup)).symm
      · rw [List.mem_singleton.1 newGroup, itsId, itsTables]
        refine iff_of_false ?_ ?_
        · rw [List.mem_singleton]
          exact oldTable old placed
        · rcases hierarchy.placed rowType old with ⟨place, itsPlace, inside⟩
          cases Option.some.inj (placed.symm.trans itsPlace)
          exact numbered.unissued_group aboveGroups inside
      · rw [List.mem_singleton.1 new] at placed
        cases placed
        rw [List.mem_singleton.1 newGroup, itsId, itsTables]
        simp
  | @child _ _ _ _ _ place =>
      rcases List.mem_map.1 groupListed with ⟨former, known, rfl⟩
      rcases List.mem_append.1 listed with old | new
      · have before :=
          numbered.members former known rowType old placement placed
        split
        · simpa [oldTable old placed] using before
        · exact before
      · rw [List.mem_singleton.1 new] at placed
        cases placed
        split
        next same =>
          simp [(beq_iff_eq.1 same).symm]
        next other =>
          refine iff_of_false (numbered.unissued_member aboveTables known) ?_
          intro same
          exact other (beq_iff_eq.2 same.symm)

theorem Numbered.registers
    (numbered : Numbered schema)
    (hierarchy : Hierarchy schema)
    (aboveTables : schema.lastTableId < schema.lastTableId + 1)
    (aboveGroups : schema.lastGroupId < schema.lastGroupId + 1)
    (registers : Registers schema entry added) :
    Numbered added where
  tables := by
    rcases registers.tables with ⟨typeId, placement, itsNumber, tables⟩
    rw [tables, List.map_append, List.map_singleton]
    refine List.nodup_append.2
      ⟨numbered.tables, List.nodup_singleton _, ?_⟩
    intro table listed other new
    rcases List.mem_map.1 listed with ⟨rowType, inside, rfl⟩
    rw [List.mem_singleton.1 new]
    change rowType.table? ≠ some placement.table
    rw [itsNumber]
    exact numbered.unissued_table aboveTables inside
  groups := by
    rcases registers.ids with ⟨same, -⟩ | ⟨more, -⟩
    · rw [same]
      exact numbered.groups
    · rw [more]
      refine List.nodup_append.2
        ⟨numbered.groups, List.nodup_singleton _, ?_⟩
      intro group listed other new
      rw [List.mem_singleton.1 new]
      exact numbered.unissued_group aboveGroups listed
  members :=
    numbered.members_registers hierarchy aboveTables aboveGroups registers
  issuedTables := by
    rcases registers.tables with ⟨typeId, placement, itsNumber, tables⟩
    intro rowType listed table itsTable
    rw [registers.lastTableId]
    rw [tables] at listed
    rcases List.mem_append.1 listed with old | new
    · exact UInt32.le_trans (numbered.issuedTables rowType old table itsTable)
        (UInt32.le_of_lt aboveTables)
    · rw [List.mem_singleton.1 new] at itsTable
      cases itsTable
      rw [itsNumber]
      exact UInt32.le_refl _
  issuedMembers := by
    have old (group : GroupTable) (known : group ∈ schema.groups)
        (table : TableId) (inside : table ∈ group.tables) :
        table.value ≤ schema.lastTableId + 1 :=
      UInt32.le_trans (numbered.issuedMembers group known table inside)
        (UInt32.le_of_lt aboveTables)
    intro group listed table inside
    rw [registers.lastTableId]
    cases registers with
    | root _ _ _ itsTables =>
        rcases List.mem_append.1 listed with known | new
        · exact old group known table inside
        · rw [List.mem_singleton.1 new, itsTables] at inside
          rw [List.mem_singleton.1 inside]
          exact UInt32.le_refl _
    | child =>
        rcases List.mem_map.1 listed with ⟨former, known, rfl⟩
        split at inside
        · rcases List.mem_append.1 inside with before | new
          · exact old former known table before
          · rw [List.mem_singleton.1 new]
            exact UInt32.le_refl _
        · exact old former known table inside
  issuedGroups := by
    rcases registers.ids with ⟨same, last⟩ | ⟨more, last⟩
    · rw [same, last]
      exact numbered.issuedGroups
    · rw [more, last]
      intro group listed
      rcases List.mem_append.1 listed with known | new
      · exact UInt32.le_trans (numbered.issuedGroups group known)
          (UInt32.le_of_lt aboveGroups)
      · rw [List.mem_singleton.1 new]
        exact UInt32.le_refl _

end

theorem numbered_empty : Numbered .empty where
  tables := .nil
  groups := .nil
  members := nofun
  issuedTables := nofun
  issuedMembers := nofun
  issuedGroups := nofun

theorem Registered.issued
    {entries : List TableEntry}
    {schema : Schema}
    (registered : Registered entries schema)
    (few : entries.length < UInt32.size) :
    Issued schema entries.length := by
  induction registered with
  | nil =>
      exact ⟨rfl, Nat.le_refl 0⟩
  | snoc _ _ registers ih =>
      rw [List.length_append, List.length_singleton] at few ⊢
      exact (ih (Nat.lt_of_succ_lt few)).registers few registers

theorem Registered.numbered
    {entries : List TableEntry}
    {schema : Schema}
    (registered : Registered entries schema)
    (few : entries.length < UInt32.size) :
    Numbered schema := by
  induction registered with
  | nil =>
      exact numbered_empty
  | snoc before _ registers ih =>
      rw [List.length_append, List.length_singleton] at few
      have fewBefore := Nat.lt_of_succ_lt few
      rcases (before.issued fewBefore).above few with ⟨tables, groups⟩
      exact (ih fewBefore).registers before.hierarchy tables groups registers

/-! ## Looking tables and groups up -/

theorem Numbered.table?_of_mem
    {schema : Schema}
    (numbered : Numbered schema)
    {rowType : RowType}
    {table : TableId}
    (listed : rowType ∈ schema.tables)
    (itsTable : rowType.table? = some table) :
    schema.table? table = some rowType := by
  rcases Schema.exists_table?_of_mem listed itsTable with ⟨found, isFound⟩
  have alsoIts : found.table? = some table := by
    simpa using List.find?_some isFound
  have same : found = rowType :=
    List.inj_on_of_nodup_map numbered.tables
      (List.mem_of_find?_eq_some isFound) listed (alsoIts.trans itsTable.symm)
  rw [isFound, same]

theorem Numbered.group?_of_mem
    {schema : Schema}
    (numbered : Numbered schema)
    {group : GroupTable}
    (listed : group ∈ schema.groups) :
    schema.group? group.id = some group := by
  have isFound : (schema.group? group.id).isSome :=
    List.find?_isSome.2 ⟨group, listed, by simp⟩
  rcases Option.isSome_iff_exists.1 isFound with ⟨found, itsGroup⟩
  have sameId : found.id = group.id := by
    simpa using List.find?_some itsGroup
  have same : found = group :=
    List.inj_on_of_nodup_map numbered.groups
      (List.mem_of_find?_eq_some itsGroup) listed sameId
  rw [itsGroup, same]

/-- The group of a table is the one that has the table as a member. -/
theorem Numbered.groupOf?_eq_some_iff
    {schema : Schema}
    (numbered : Numbered schema)
    {rowType : RowType}
    {table : TableId}
    (listed : rowType ∈ schema.tables)
    (itsTable : rowType.table? = some table)
    {group : GroupTable}
    (known : group ∈ schema.groups) :
    schema.groupOf? table = some group ↔ group.contains table = true := by
  rcases Option.map_eq_some_iff.1 itsTable with ⟨placement, placed, rfl⟩
  have itsGroup :
      schema.groupOf? placement.table = schema.group? placement.group := by
    simp [Schema.groupOf?, numbered.table?_of_mem listed itsTable, placed]
  rw [itsGroup, GroupTable.contains, List.contains_iff_mem,
    numbered.members group known rowType listed placement placed]
  constructor
  · intro found
    have sameId : group.id = placement.group := by
      simpa using List.find?_some found
    exact sameId.symm
  · intro sameId
    rw [sameId, numbered.group?_of_mem known]

end HierQuery.Fixture
