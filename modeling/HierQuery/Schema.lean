import HierQuery.ExecError

/-!
# Schemas

A schema registers tables and issues row types.  A table without a parent
starts a group table of its own; any other table joins the group of its
parent.  Tables and groups are numbered in the order of registration, so the
lists of a schema are in the order of the numbers.

A refused table may use up a number, but it leaves no other trace.

A schema is meant for fewer than 2^32 numbers of each kind, so that each of them
names one table or group.  After that many the numbers would begin anew, and the
lists, in which the first entry is found, no longer tell what a later one replaces.
-/

namespace HierQuery

/-- The storage unit of a root table and all its descendants. -/
structure GroupTable where
  id : GroupId
  name : String
  root : TableId
  /-- The member tables in the order of registration, root first. -/
  tables : List TableId
  /-- The type of the rows of a scan over the whole group. -/
  rowType : RowType
deriving DecidableEq, Inhabited

/-- Whether a table is a member of the group. -/
def GroupTable.contains (group : GroupTable) (table : TableId) : Bool :=
  group.tables.contains table

/-- The registered tables and groups, and the numbers issued last. -/
structure Schema where
  lastTypeId : UInt32 := 0
  lastTableId : UInt32 := 0
  lastGroupId : UInt32 := 0
  tables : List RowType := []
  groups : List GroupTable := []
deriving DecidableEq, Inhabited

namespace Schema

/-- The name under which refused tables are reported. -/
def operatorName : String :=
  "Schema"

/-- The schema without tables. -/
def empty : Schema :=
  {}

/-- The row type of a table. -/
def table? (schema : Schema) (table : TableId) : Option RowType :=
  schema.tables.find? fun rowType => rowType.table? == some table

/-- The row type of the table with the given name. -/
def tableNamed? (schema : Schema) (name : String) : Option RowType :=
  schema.tables.find? fun rowType => rowType.name == name

/-- The group with the given number. -/
def group? (schema : Schema) (group : GroupId) : Option GroupTable :=
  schema.groups.find? fun candidate => candidate.id == group

/-- The group that a table belongs to. -/
def groupOf? (schema : Schema) (table : TableId) : Option GroupTable := do
  let rowType ← schema.table? table
  let placement ← rowType.placement?
  schema.group? placement.group

/-- Issues the number of the next row type. -/
def issueType (schema : Schema) : UInt32 × Schema :=
  let number := schema.lastTypeId + 1
  (number, { schema with lastTypeId := number })

/-- Issues the number of the next table. -/
def issueTable (schema : Schema) : TableId × Schema :=
  let number := schema.lastTableId + 1
  (⟨number⟩, { schema with lastTableId := number })

/-- Issues the number of the next group. -/
def issueGroup (schema : Schema) : GroupId × Schema :=
  let number := schema.lastGroupId + 1
  (⟨number⟩, { schema with lastGroupId := number })

/-- A group whose only member is its root table, under a number that no group has yet. -/
def startGroup
    (schema : Schema)
    (name : String)
    (root : TableId) :
    GroupId × Schema :=
  let (group, schema) := schema.issueGroup
  let (typeId, schema) := schema.issueType
  let groupName := name ++ "_group"
  let rowType : RowType := ⟨typeId, groupName, [], .group group⟩
  (group,
    { schema with
      groups := schema.groups ++ [⟨group, groupName, root, [root], rowType⟩] })

/-- Adds a table at the end of its group's members. -/
def joinGroup
    (schema : Schema)
    (group : GroupId)
    (table : TableId) :
    Schema :=
  { schema with
    groups := schema.groups.map fun candidate =>
      if candidate.id == group then
        { candidate with tables := candidate.tables ++ [table] }
      else
        candidate }

/--
Registers the table itself once its number and its group are known.  No table has
this number yet.
-/
def addTable
    (schema : Schema)
    (name : String)
    (columns : List Column)
    (placement : Placement) :
    RowType × Schema :=
  let (typeId, schema) := schema.issueType
  let rowType : RowType := ⟨typeId, name, columns, .table placement⟩
  (rowType, { schema with tables := schema.tables ++ [rowType] })

/--
Registers a table.  A name that is taken is refused before anything else; an
unknown parent is refused after the table's number was issued.
-/
def newTable
    (schema : Schema)
    (name : String)
    (columns : List Column)
    (parent? : Option TableId) :
    Except ExecError RowType × Schema :=
  if (schema.tableNamed? name).isSome then
    (.error (.argument operatorName (.tableExists name)), schema)
  else
    let (table, issued) := schema.issueTable
    match parent? with
    | none =>
        let (group, started) := issued.startGroup name table
        let (rowType, added) := started.addTable name columns ⟨table, none, group⟩
        (.ok rowType, added)
    | some parent =>
        match (issued.table? parent).bind RowType.placement? with
        | none =>
            (.error (.argument operatorName (.unknownParent parent)), issued)
        | some placement =>
            let joined := issued.joinGroup placement.group table
            let (rowType, added) :=
              joined.addTable name columns ⟨table, some parent, placement.group⟩
            (.ok rowType, added)

/-- Issues a row type for computed rows. -/
def newValuesType
    (schema : Schema)
    (name : String)
    (columns : List Column) :
    RowType × Schema :=
  let (typeId, schema) := schema.issueType
  (⟨typeId, name, columns, .values⟩, schema)

end Schema

end HierQuery
