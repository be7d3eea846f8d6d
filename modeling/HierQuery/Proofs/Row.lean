import HierQuery.Proofs.Schema.Keys

/-!
# What the JSON object of a row keeps

The members of a row's object are put into it one after another, and a later
member takes the place of an earlier one with the same name.  The names of the
columns are free, as no schema refuses any.  So the object keeps everything
about every row of a table exactly if the names of the columns differ from one
another and from the names of the members that each object begins with.
-/

namespace HierQuery

/-! ## Objects -/

namespace Json

theorem compare_some_eq_iff {key : String} {other : Text} :
    compare (some key) other = .eq ↔ other = some key := by
  cases other with
  | none =>
      exact ⟨nofun, nofun⟩
  | some name =>
      change compare key name = .eq ↔ _
      rw [Std.LawfulEqOrd.compare_eq_iff_eq, Option.some.injEq, eq_comm]

theorem lookup_cons_eq_ite
    {κ : Type}
    [BEq κ]
    [LawfulBEq κ]
    [DecidableEq κ]
    (key : κ)
    (member : κ × Json)
    (members : List (κ × Json)) :
    (member :: members).lookup key =
      if key = member.1 then some member.2 else members.lookup key := by
  rcases member with ⟨name, value⟩
  rw [List.lookup_cons]
  by_cases same : key = name
  · simp [same]
  · simp [same, beq_eq_false_iff_ne.2 same]

/-- A member that is put among others is found under its name, and the others as before. -/
theorem lookup_insertMember
    (key : String)
    (other : Text)
    (value : Json)
    (members : List (Text × Json)) :
    (insertMember (some key) value members).lookup other =
      if other = some key then some value else members.lookup other := by
  induction members with
  | nil =>
      exact lookup_cons_eq_ite other (some key, value) []
  | cons member members ih =>
      rw [insertMember]
      split
      next =>
        exact lookup_cons_eq_ite other (some key, value) (member :: members)
      next equal =>
        rw [lookup_cons_eq_ite, lookup_cons_eq_ite,
          compare_some_eq_iff.1 equal]
        by_cases same : other = some key <;> simp [same]
      next above =>
        have differs : member.1 ≠ some key := by
          intro same
          rw [compare_some_eq_iff.2 same] at above
          cases above
        rw [lookup_cons_eq_ite, lookup_cons_eq_ite, ih]
        by_cases same : other = some key
        · rw [if_pos same, if_pos same, same, if_neg (Ne.symm differs)]
        · rw [if_neg same, if_neg same]

/-- In an object with ascending names the last of several members with one name is found. -/
theorem get?_sortedObject
    (members : List (String × Json))
    (key : String) :
    (sortedObject (members.map fun member => (some member.1, member.2))).get?
        key =
      members.reverse.lookup key := by
  rw [sortedObject, get?]
  induction members using List.reverseRecOn with
  | nil =>
      rfl
  | append_singleton members member ih =>
      rw [List.map_append, List.foldl_append, List.reverse_append]
      refine (lookup_insertMember member.1 (some key) member.2 _).trans ?_
      change _ = (member :: members.reverse).lookup key
      rw [ih, lookup_cons_eq_ite]
      simp only [Option.some.injEq]

end Json

/-! ## Rows -/

namespace Row

variable {row : Row}

/-- The object of a row has under each name the last member with the name. -/
theorem get?_toJson (row : Row) (name : String) :
    row.toJson.get? name = row.jsonMembers.reverse.lookup name :=
  Json.get?_sortedObject row.jsonMembers name

/-- A member is found unless a later one has its name. -/
theorem get?_toJson_of_last
    {before after : List (String × Json)}
    {name : String}
    {value : Json}
    (split : row.jsonMembers = before ++ (name, value) :: after)
    (last : name ∉ after.map Prod.fst) :
    row.toJson.get? name = some value := by
  rw [get?_toJson, List.lookup_eq_some_iff, split]
  refine ⟨after.reverse, before.reverse, by simp, ?_⟩
  intro other later
  rw [bne_iff_ne]
  intro same
  exact last
    (List.mem_map.2 ⟨other, List.mem_reverse.1 later, same.symm⟩)

/-- No member is lost if the names of all members differ. -/
theorem get?_toJson_of_mem
    (distinct : (row.jsonMembers.map Prod.fst).Nodup)
    {name : String}
    {value : Json}
    (member : (name, value) ∈ row.jsonMembers) :
    row.toJson.get? name = some value := by
  rcases List.append_of_mem member with ⟨before, after, split⟩
  rw [split, List.map_append, List.map_cons] at distinct
  exact get?_toJson_of_last split
    (List.nodup_cons.1 (List.nodup_append.1 distinct).2.1).1

/-- The object has the name of the type, the key, and each value under the name of its column. -/
structure KeptInJson (row : Row) : Prop where
  type : row.toJson.get? "_type" = some (.text row.rowType.name)
  key :
    ∀ key, row.key? = some key →
      row.toJson.get? "_hkey" = some (.text key.render)
  columns :
    ∀ column value,
      (column, value) ∈ row.rowType.columns.zip row.values →
        row.toJson.get? column.name = some value.toJson

end Row

namespace RowType

/-- The names of the columns differ from one another and from those of the other members. -/
structure NamesApart (rowType : RowType) : Prop where
  distinct : (rowType.columns.map Column.name).Nodup
  notType : "_type" ∉ rowType.columns.map Column.name
  notKey : "_hkey" ∉ rowType.columns.map Column.name

end RowType

namespace Row

variable {row : Row}

/-- The members that stand for the columns, by their names. -/
theorem names_columns (row : Row) :
    ((row.rowType.columns.zip row.values).map fun (column, value) =>
        (column.name, value.toJson)).map Prod.fst =
      row.rowType.columns.map Column.name := by
  have columns :
      (row.rowType.columns.zip row.values).map Prod.fst =
        row.rowType.columns :=
    List.map_fst_zip (Nat.le_of_eq row.arity.symm)
  conv_rhs => rw [← columns, List.map_map]
  rw [List.map_map]
  rfl

/-- The names of the members, in the order in which they are put into the object. -/
theorem names_jsonMembers (row : Row) :
    row.jsonMembers.map Prod.fst =
      "_type" :: ((row.key?.map fun _ => "_hkey").toList ++
        row.rowType.columns.map Column.name) := by
  rw [jsonMembers, List.map_cons, List.map_append, names_columns]
  cases row.key? <;> rfl

/-- The key of a row is found in its object unless a column has the name of that member. -/
theorem get?_toJson_key
    {key : HKey}
    (itsKey : row.key? = some key)
    (free : "_hkey" ∉ row.rowType.columns.map Column.name) :
    row.toJson.get? "_hkey" = some (.text key.render) := by
  rw [← names_columns] at free
  have split :
      row.jsonMembers =
        [("_type", .text row.rowType.name)] ++
          ("_hkey", .text key.render) ::
            (row.rowType.columns.zip row.values).map fun (column, value) =>
              (column.name, value.toJson) := by
    rw [jsonMembers, itsKey]
    rfl
  exact get?_toJson_of_last split free

theorem nodup_jsonMembers (apart : row.rowType.NamesApart) :
    (row.jsonMembers.map Prod.fst).Nodup := by
  rw [names_jsonMembers]
  cases row.key? with
  | none =>
      exact List.nodup_cons.2 ⟨apart.notType, apart.distinct⟩
  | some key =>
      refine List.nodup_cons.2 ⟨?_, List.nodup_cons.2 ⟨apart.notKey, apart.distinct⟩⟩
      intro inside
      rcases List.mem_cons.1 inside with same | column
      · simp at same
      · exact apart.notType column

/-- A row whose columns have names of their own is kept in its object. -/
theorem keptInJson_of_namesApart
    (apart : row.rowType.NamesApart) :
    row.KeptInJson where
  type := get?_toJson_of_mem (nodup_jsonMembers apart) List.mem_cons_self
  key := by
    intro key itsKey
    refine get?_toJson_of_mem (nodup_jsonMembers apart) ?_
    rw [jsonMembers, itsKey]
    exact List.mem_cons_of_mem _ List.mem_cons_self
  columns := by
    intro column value its
    refine get?_toJson_of_mem (nodup_jsonMembers apart) ?_
    exact List.mem_cons_of_mem _
      (List.mem_append_right _ (List.mem_map.2 ⟨_, its, rfl⟩))

end Row

/-! ## Rows that lose something -/

/-- A value that a column of the type may hold, beside the absent one. -/
def ColumnType.present : ColumnType → Value
  | int => .int 0
  | text => .text ""
  | bool => .bool false

theorem ColumnType.holds_present (columnType : ColumnType) :
    Fixture.Holds columnType columnType.present := by
  cases columnType with
  | int => exact .int 0
  | text => exact .text ""
  | bool => exact .bool false

theorem ColumnType.toJson_present (columnType : ColumnType) :
    columnType.present.toJson ≠ Value.null.toJson := by
  cases columnType <;> exact nofun

namespace RowType

variable {rowType : RowType}

/-- The values of a row that has a value in one column only. -/
def valuesAt (rowType : RowType) (marked : Nat) : List Value :=
  rowType.columns.mapIdx fun index column =>
    if index = marked then column.columnType.present else .null

@[simp]
theorem length_valuesAt (rowType : RowType) (marked : Nat) :
    (rowType.valuesAt marked).length = rowType.columns.length :=
  List.length_mapIdx

theorem mem_zip_valuesAt
    (marked : Nat)
    {index : Nat}
    (inside : index < rowType.columns.length) :
    (rowType.columns[index],
        if index = marked then
          rowType.columns[index].columnType.present
        else
          .null) ∈
      rowType.columns.zip (rowType.valuesAt marked) := by
  have here :=
    List.getElem_mem
      (show index < (rowType.columns.zip (rowType.valuesAt marked)).length by
        simpa using inside)
  simpa [valuesAt] using here

/-- Such values fit the columns. -/
theorem checkValues_valuesAt (rowType : RowType) (marked : Nat) :
    Fixture.checkValues rowType (rowType.valuesAt marked) = .ok () := by
  rw [Fixture.checkValues_eq_ok_iff (rowType.length_valuesAt marked),
    List.forall₂_iff_zip]
  refine ⟨(rowType.length_valuesAt marked).symm, fun {column value} listed => ?_⟩
  rcases List.mem_iff_getElem.1 listed with ⟨index, inside, same⟩
  simp only [List.getElem_zip, valuesAt, List.getElem_mapIdx,
    Prod.mk.injEq] at same
  rw [← same.1, ← same.2]
  split
  · exact ColumnType.holds_present _
  · exact .null

/-- A row of a table with a value in one column only. -/
theorem exists_row_valuesAt
    (isTable : rowType.isTable = true)
    (marked : Nat) :
    ∃ row : Row,
      row.rowType = rowType ∧
        row.key?.isSome = true ∧ row.values = rowType.valuesAt marked := by
  rcases Option.isSome_iff_exists.1 isTable with ⟨place, placed⟩
  have itsTable : rowType.table? = some place.table := by
    rw [table?, placed]
    rfl
  refine
    ⟨{ rowType := rowType
       key? := some ⟨[⟨place.table, []⟩]⟩
       values := rowType.valuesAt marked
       arity := rowType.length_valuesAt marked
       placed := ?_ }, rfl, rfl, rfl⟩
  rintro key ⟨⟩
  exact ⟨isTable, itsTable.symm⟩

/-- If all rows of a table are kept, then no name is there twice. -/
theorem namesApart_of_kept
    (isTable : rowType.isTable = true)
    (kept :
      ∀ row : Row,
        row.rowType = rowType →
          row.key?.isSome = true →
            Fixture.checkValues rowType row.values = .ok () →
              row.KeptInJson) :
    rowType.NamesApart := by
  have keptAt (marked : Nat) :
      ∃ row : Row,
        row.rowType = rowType ∧
          row.key?.isSome = true ∧
            row.KeptInJson ∧
              ∀ index (inside : index < rowType.columns.length),
                row.toJson.get? rowType.columns[index].name =
                  some
                    (if index = marked then
                      rowType.columns[index].columnType.present
                    else
                      Value.null).toJson := by
    rcases exists_row_valuesAt isTable marked with ⟨row, rfl, hasKey, values⟩
    have isKept :=
      kept row rfl hasKey (values ▸ row.rowType.checkValues_valuesAt marked)
    refine ⟨row, rfl, hasKey, isKept, fun index inside => ?_⟩
    exact isKept.columns _ _ (values ▸ mem_zip_valuesAt marked inside)
  -- a column of one of the two names would hide the member, be it absent
  have nowhere
      {name : String}
      (hidden :
        ∀ row : Row,
          row.rowType = rowType →
            row.key?.isSome = true →
              row.KeptInJson →
                ∃ content, row.toJson.get? name = some (.text content)) :
      name ∉ rowType.columns.map Column.name := by
    intro listed
    rcases List.mem_map.1 listed with ⟨column, isColumn, rfl⟩
    rcases List.mem_iff_getElem.1 isColumn with ⟨index, inside, rfl⟩
    rcases keptAt rowType.columns.length with
      ⟨row, isRow, hasKey, isKept, values⟩
    rcases hidden row isRow hasKey isKept with ⟨content, found⟩
    rw [values index inside, if_neg (Nat.ne_of_lt inside)] at found
    cases found
  refine ⟨?_, nowhere ?_, nowhere ?_⟩
  · -- the row that has a value in the first of two columns with one name
    rw [List.Nodup, List.pairwise_iff_getElem]
    intro first second firstInside secondInside before same
    rw [List.length_map] at firstInside secondInside
    rw [List.getElem_map, List.getElem_map] at same
    rcases keptAt first with ⟨row, -, -, -, values⟩
    have found := values first firstInside
    rw [same, values second secondInside, if_pos rfl,
      if_neg (Nat.ne_of_gt before)] at found
    exact ColumnType.toJson_present _ (Option.some.inj found).symm
  · intro row isRow hasKey isKept
    exact ⟨_, isKept.type⟩
  · intro row isRow hasKey isKept
    rcases Option.isSome_iff_exists.1 hasKey with ⟨key, itsKey⟩
    exact ⟨_, isKept.key key itsKey⟩

/-- What the objects of the rows of a table tell. -/
structure TellsJson (rowType : RowType) : Prop where
  /-- Under each name there is the last member with that name. -/
  last :
    ∀ row : Row,
      row.rowType = rowType →
        ∀ name,
          row.toJson.get? name = row.jsonMembers.reverse.lookup name
  kept :
    rowType.NamesApart →
      ∀ row : Row, row.rowType = rowType → row.KeptInJson
  /-- If a name is there twice, some stored row loses something, and its values fit the columns. -/
  lost :
    ¬ rowType.NamesApart →
      ∃ row : Row,
        row.rowType = rowType ∧
          row.key?.isSome = true ∧
            Fixture.checkValues rowType row.values = .ok () ∧
              ¬ row.KeptInJson

theorem tellsJson_of_isTable
    (isTable : rowType.isTable = true) :
    rowType.TellsJson where
  last := fun row _ => row.get?_toJson
  kept := by
    rintro apart row rfl
    exact row.keptInJson_of_namesApart apart
  lost := by
    intro notApart
    by_contra none
    push Not at none
    exact notApart (namesApart_of_kept isTable none)

end RowType

/-! ## Rows of the tables of a schema -/

namespace Schema

theorem Rooted.isTable
    {schema : Schema}
    (rooted : schema.Rooted)
    {rowType : RowType}
    (listed : rowType ∈ schema.tables) :
    rowType.isTable = true := by
  rcases rooted rowType listed with ⟨line, descends, -⟩
  cases descends with
  | root placed | step placed =>
      rw [RowType.isTable, placed]
      rfl

end Schema

namespace Fixture

/-- The schema of a fixture is one that was asked for the tables of its document. -/
theorem exists_serveAll_of_foldlM
    {tables : List TableEntry}
    {schema : Schema}
    (ok : tables.foldlM addTable .empty = .ok schema) :
    ∃ requests, (Schema.Issuing.serveAll requests).schema = schema := by
  induction tables using List.reverseRecOn generalizing schema with
  | nil =>
      cases ok
      exact ⟨[], rfl⟩
  | append_singleton tables entry ih =>
      rw [foldlM_concat] at ok
      rcases bind_eq_ok_iff.1 ok with ⟨former, before, added⟩
      rcases ih before with ⟨requests, rfl⟩
      rw [addTable_eq_bind] at added
      rcases bind_eq_ok_iff.1 added with ⟨parent?, -, registered⟩
      refine ⟨requests ++ [.table entry.name entry.columns parent?], ?_⟩
      rw [Schema.Issuing.serveAll_snoc]
      change ((Schema.Issuing.serveAll requests).schema.newTable entry.name
        entry.columns parent?).2 = schema
      split at registered
      next answered =>
        rw [answered]
        cases registered
        rfl
      next =>
        cases registered

end Fixture

namespace Row

/--
The objects of the rows of a table keep all of every row exactly if the names
of its columns differ from one another and from `_type` and `_hkey`.  No
schema, and no fixture, sees to that.
-/
theorem tellsJson_serveAll
    (requests : List Schema.Request)
    (text : String) :
    (∀ rowType ∈ (Schema.Issuing.serveAll requests).schema.tables,
        rowType.TellsJson) ∧
      ∀ fixture,
        Fixture.read text = .ok fixture →
          ∀ rowType ∈ fixture.schema.tables, rowType.TellsJson := by
  have ofRequests (requests : List Schema.Request) :
      ∀ rowType ∈ (Schema.Issuing.serveAll requests).schema.tables,
        rowType.TellsJson := fun rowType listed =>
    RowType.tellsJson_of_isTable
      ((Schema.rooted_serveAll requests).isTable listed)
  refine ⟨ofRequests requests, fun fixture accepted => ?_⟩
  rw [Fixture.read] at accepted
  split at accepted
  next document _ =>
    rcases Fixture.ofDocument_eq_ok_iff.1 accepted with ⟨tables, -⟩
    rcases Fixture.exists_serveAll_of_foldlM tables with ⟨requests, same⟩
    rw [← same]
    exact ofRequests requests
  next =>
    cases accepted

/-- A column that is named like the member with the name of the table hides it. -/
theorem type_hidden_by_column :
    let rowType :=
      (Schema.Issuing.serveAll
        [.table "t" [⟨"_type", .int⟩] none]).schema.tables.head?
    ∃ table row,
      rowType = some table ∧
        Row.stored table ⟨[⟨⟨1⟩, [.int 1]⟩]⟩ [.int 7] = .ok row ∧
          row.toJson.get? "_type" = some (.int 7) ∧
            row.toJson.get? "_type" ≠ some (.text table.name) := by
  refine ⟨_, _, rfl, rfl, rfl, ?_⟩
  exact nofun

end Row

end HierQuery
