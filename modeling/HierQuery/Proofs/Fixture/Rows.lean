import HierQuery.Proofs.Fixture.WellFormed
import Mathlib.Data.List.Perm.Basic

/-!
# The rows of a document

A row is built from its entry if the entry fits the tables.  The row is then
one of the named table, it has the values of the entry, and its key has a
segment for each table on the path with the values of that level.
-/

namespace HierQuery.Fixture

open Schema

/-! ## Checks of one row -/

theorem holds_iff_admits
    {columnType : ColumnType}
    {value : Value} :
    Holds columnType value ↔ columnType.admits value = true := by
  constructor
  · intro holds
    cases holds with
    | null =>
        cases columnType <;> rfl
    | int | text | bool =>
        rfl
  · intro admits
    cases value with
    | null =>
        exact .null
    | bool flag =>
        cases columnType with
        | bool => exact .bool flag
        | int | text => cases admits
    | int number =>
        cases columnType with
        | int => exact .int number
        | text | bool => cases admits
    | text content =>
        cases columnType with
        | text => exact .text content
        | int | bool => cases admits

/-- As many values as columns pass the check exactly if each column may hold its own. -/
theorem checkValues_eq_ok_iff
    {rowType : RowType}
    {values : List Value}
    (arity : values.length = rowType.arity) :
    checkValues rowType values = .ok () ↔
      List.Forall₂ (fun column value => Holds column.columnType value)
        rowType.columns values := by
  rw [List.forall₂_iff_zip, checkValues]
  dsimp only
  split
  next column value misfit =>
    refine iff_of_false nofun ?_
    rintro ⟨-, all⟩
    have inside := List.mem_of_find?_eq_some misfit
    have refused := List.find?_some misfit
    rw [holds_iff_admits.1 (all inside)] at refused
    cases refused
  next none =>
    refine iff_of_true rfl ⟨arity.symm, ?_⟩
    intro column value inside
    have admitted := List.find?_eq_none.1 none _ inside
    exact holds_iff_admits.2 (by simpa using admitted)

/-- What the key of a row is for a table with the given line. -/
def keyOf (line : List RowType) (levels : List (List Value)) : HKey :=
  ⟨(line.filterMap RowType.table?).zipWith HKey.Segment.mk levels⟩

section

variable
  {schema : Schema}
  {rowType : RowType}
  {line : List RowType}
  {levels : List (List Value)}

theorem length_filterMap_line
    (listed : rowType ∈ schema.tables)
    (descends : schema.Descends rowType line) :
    (line.filterMap RowType.table?).length = line.length := by
  apply List.filterMap_length_eq_length.2
  intro upper inside
  exact Option.isSome_iff_exists.2 (descends.mem_line listed upper inside).2

/-- The key of a row of a table needs a level for each table of its line. -/
theorem placeKey_of_descends
    (listed : rowType ∈ schema.tables)
    (descends : schema.Descends rowType line)
    (short : line.length ≤ schema.tables.length)
    (levels : List (List Value)) :
    placeKey schema rowType levels =
      if line.length = levels.length then
        .ok (keyOf line levels)
      else
        .error (.keyDepth rowType.name line.length levels.length) := by
  rcases descends.placed with ⟨placement, placed⟩
  have lineage := descends.lineage_eq placed short
  simp only [placeKey, placed, Option.map_some, Option.getD_some, lineage,
    length_filterMap_line listed descends, keyOf]

theorem Hierarchy.placeKey_eq
    (hierarchy : Hierarchy schema)
    (listed : rowType ∈ schema.tables)
    (descends : schema.Descends rowType line)
    (levels : List (List Value)) :
    placeKey schema rowType levels =
      if line.length = levels.length then
        .ok (keyOf line levels)
      else
        .error (.keyDepth rowType.name line.length levels.length) := by
  rcases hierarchy.descends rowType listed with ⟨other, alsoDescends, short⟩
  cases descends.unique alsoDescends
  exact placeKey_of_descends listed descends short levels

/-- A key has the levels that it was made of. -/
theorem values_keyOf
    (listed : rowType ∈ schema.tables)
    (descends : schema.Descends rowType line)
    (asMany : line.length = levels.length) :
    (keyOf line levels).segments.map HKey.Segment.values = levels := by
  have sameLength := length_filterMap_line listed descends
  rw [keyOf, ← List.map_uncurry_zip_eq_zipWith, List.map_map]
  change List.map Prod.snd _ = _
  exact List.map_snd_zip (by omega)

/-- A key has a segment for each table of the line. -/
theorem tables_keyOf
    (listed : rowType ∈ schema.tables)
    (descends : schema.Descends rowType line)
    (asMany : line.length = levels.length) :
    (keyOf line levels).segments.map HKey.Segment.table =
      line.filterMap RowType.table? := by
  have sameLength := length_filterMap_line listed descends
  rw [keyOf, ← List.map_uncurry_zip_eq_zipWith, List.map_map]
  change List.map Prod.fst _ = _
  exact List.map_fst_zip (by omega)

theorem table?_keyOf
    (listed : rowType ∈ schema.tables)
    (descends : schema.Descends rowType line)
    (asMany : line.length = levels.length) :
    (keyOf line levels).table? = rowType.table? := by
  have tables := tables_keyOf listed descends asMany
  rcases descends.eq_concat with ⟨uppers, rfl⟩
  rcases (descends.mem_line listed rowType (by simp)).2 with ⟨table, itsTable⟩
  rw [HKey.table?, ← List.getLast?_map, tables, List.filterMap_append]
  simp [itsTable]

/-- The names of the tables in a key are those of the line. -/
theorem names_keyOf
    (numbered : Numbered schema)
    (listed : rowType ∈ schema.tables)
    (descends : schema.Descends rowType line)
    (asMany : line.length = levels.length) :
    ((keyOf line levels).segments.map fun segment =>
        (schema.table? segment.table).map RowType.name) =
      (line.map RowType.name).map some := by
  have inSchema := descends.mem_line listed
  have tables := tables_keyOf listed descends asMany
  have named :
      ((line.filterMap RowType.table?).map fun table =>
          (schema.table? table).map RowType.name) =
        (line.map RowType.name).map some := by
    clear tables asMany descends listed
    induction line with
    | nil =>
        rfl
    | cons upper line ih =>
        rcases inSchema upper List.mem_cons_self with ⟨known, table, itsTable⟩
        have rest := ih fun other inside =>
          inSchema other (List.mem_cons_of_mem _ inside)
        rw [List.filterMap_cons_some itsTable, List.map_cons, rest,
          numbered.table?_of_mem known itsTable]
        rfl
  rw [← named, ← tables, List.map_map]
  rfl

end

/-! ## Building a row -/

/-- How a row renders an entry, in a schema for the given tables. -/
structure Renders
    (tables : List TableEntry)
    (schema : Schema)
    (entry : RowEntry)
    (row : Row) :
    Prop where
  rowType : schema.tableNamed? entry.table = some row.rowType
  values : row.values = entry.values
  /-- The key has the levels of the entry, one for each table on the path. -/
  key :
    ∃ key path,
      row.key? = some key ∧
        Path tables entry.table path ∧
          key.segments.map HKey.Segment.values = entry.levels ∧
            (key.segments.map fun segment =>
                (schema.table? segment.table).map RowType.name) =
              path.map some

theorem stored_eq_ok
    {rowType : RowType}
    {key : HKey}
    {values : List Value}
    {row : Row}
    (ok : Row.stored rowType key values = .ok row) :
    row.rowType = rowType ∧ row.key? = some key ∧ row.values = values := by
  rw [Row.stored] at ok
  split at ok
  · split at ok
    · split at ok
      · cases ok
        exact ⟨rfl, rfl, rfl⟩
      · cases ok
    · cases ok
  · cases ok

/-- One step after another succeeds if both do. -/
theorem bind_eq_ok_iff
    {ε α β : Type}
    {first : Except ε α}
    {next : α → Except ε β}
    {result : β} :
    first >>= next = .ok result ↔
      ∃ value, first = .ok value ∧ next value = .ok result := by
  cases first <;> simp [bind, Except.bind]

/-- A row is built exactly if each of its parts can be had. -/
theorem buildRow_eq_ok_iff
    {schema : Schema}
    {entry : RowEntry}
    {row : Row} :
    buildRow schema entry = .ok row ↔
      ∃ rowType key,
        schema.tableNamed? entry.table = some rowType ∧
          checkValues rowType entry.values = .ok () ∧
            placeKey schema rowType entry.levels = .ok key ∧
              Row.stored rowType key entry.values = .ok row := by
  have found (rowType : RowType) :
      tableNamed schema entry.table = .ok rowType ↔
        schema.tableNamed? entry.table = some rowType := by
    rw [tableNamed]
    cases schema.tableNamed? entry.table <;> simp
  have stored (rowType : RowType) (key : HKey) :
      (Row.stored rowType key entry.values).mapError
            FixtureError.execution = .ok row ↔
        Row.stored rowType key entry.values = .ok row := by
    cases Row.stored rowType key entry.values <;> simp [Except.mapError]
  simp only [buildRow, bind_eq_ok_iff, found, stored]
  constructor
  · rintro ⟨rowType, known, _, checked, key, placed, isRow⟩
    exact ⟨rowType, key, known, checked, placed, isRow⟩
  · rintro ⟨rowType, key, known, checked, placed, isRow⟩
    exact ⟨rowType, known, (), checked, key, placed, isRow⟩

/-- A row that was built renders its entry, which fits. -/
theorem Represents.renders
    {tables : List TableEntry}
    {schema : Schema}
    (represents : Represents tables schema)
    (hierarchy : Hierarchy schema)
    (numbered : Numbered schema)
    {entry : RowEntry}
    {row : Row}
    (built : buildRow schema entry = .ok row) :
    Fits tables entry ∧ Renders tables schema entry row := by
  rcases buildRow_eq_ok_iff.1 built with
    ⟨rowType, key, known, checked, placed, stored⟩
  have listed := List.mem_of_find?_eq_some known
  have sameName : rowType.name = entry.table := by
    simpa using List.find?_some known
  rcases hierarchy.descends rowType listed with ⟨line, descends, -⟩
  rcases stored_eq_ok stored with ⟨rfl, itsKey, values⟩
  have leads : Path tables entry.table (line.map RowType.name) :=
    sameName ▸ represents.path descends listed
  rw [hierarchy.placeKey_eq listed descends] at placed
  split at placed
  next asMany =>
    cases placed
    have arity : entry.values.length = row.rowType.arity := by
      rw [← values]
      exact row.arity
    rcases represents.described _ listed with ⟨table, declared, describes⟩
    constructor
    · refine ⟨⟨table, declared, describes.name.trans sameName, ?_⟩,
        _, leads, ?_⟩
      · rw [describes.columns]
        exact (checkValues_eq_ok_iff arity).1 checked
      · rw [List.length_map, asMany]
    · exact ⟨known, values, _, _, itsKey, leads,
        values_keyOf listed descends asMany,
        names_keyOf numbered listed descends asMany⟩
  next =>
    cases placed

/-- A row whose entry fits can be built. -/
theorem Represents.exists_buildRow
    {tables : List TableEntry}
    {schema : Schema}
    (represents : Represents tables schema)
    (hierarchy : Hierarchy schema)
    {entry : RowEntry}
    (fits : Fits tables entry) :
    ∃ row, buildRow schema entry = .ok row := by
  rcases fits.values with ⟨table, declared, sameName, holds⟩
  have isKnown : schema.tableNamed? entry.table ≠ none := by
    rw [ne_eq, represents.tableNamed?_eq_none_iff, not_not, ← sameName]
    exact List.mem_map_of_mem declared
  rcases Option.ne_none_iff_exists'.1 isKnown with ⟨rowType, known⟩
  have describes : Describes schema table rowType :=
    represents.described_of_named declared (sameName ▸ known)
  have listed := List.mem_of_find?_eq_some known
  rcases hierarchy.descends rowType listed with ⟨line, descends, -⟩
  rw [describes.columns] at holds
  have arity : entry.values.length = rowType.arity := holds.length_eq.symm
  have asMany : line.length = entry.levels.length := by
    rcases fits.levels with ⟨path, leads, sameLength⟩
    have alsoLeads := represents.path descends listed
    rw [← describes.name, sameName] at alsoLeads
    rw [sameLength, leads.unique represents.distinct alsoLeads,
      List.length_map]
  have placed : placeKey schema rowType entry.levels = .ok (keyOf line entry.levels) := by
    rw [hierarchy.placeKey_eq listed descends, if_pos asMany]
  have isTable : rowType.isTable = true := by
    rcases hierarchy.placed rowType listed with ⟨placement, placed, -⟩
    rw [RowType.isTable, placed]
    rfl
  have sameTable := table?_keyOf listed descends asMany
  have stored :
      ∃ row,
        Row.stored rowType (keyOf line entry.levels) entry.values =
          .ok row := by
    rw [Row.stored, dif_pos isTable, dif_pos sameTable, dif_pos arity]
    exact ⟨_, rfl⟩
  rcases stored with ⟨row, stored⟩
  exact ⟨row, buildRow_eq_ok_iff.2
    ⟨rowType, _, known, (checkValues_eq_ok_iff arity).2 holds, placed,
      stored⟩⟩

/-! ## Building the document -/

theorem mapM_eq_ok_iff
    {ε α β : Type}
    {build : α → Except ε β}
    {entries : List α}
    {built : List β} :
    entries.mapM build = .ok built ↔
      List.Forall₂ (fun entry item => build entry = .ok item) entries
        built := by
  induction entries generalizing built with
  | nil =>
      cases built <;> simp [pure, Except.pure]
  | cons entry entries ih =>
      simp only [List.mapM_cons, bind_eq_ok_iff, ih, List.forall₂_cons_left_iff]
      constructor
      · rintro ⟨item, first, items, rest, same⟩
        cases same
        exact ⟨item, items, first, rest, rfl⟩
      · rintro ⟨item, items, first, rest, rfl⟩
        exact ⟨item, first, items, rest, rfl⟩

/-- What the fixture of a document is made of. -/
theorem ofDocument_eq_ok_iff
    {document : Document}
    {fixture : Fixture} :
    ofDocument document = .ok fixture ↔
      document.tables.foldlM addTable .empty = .ok fixture.schema ∧
        List.Forall₂
            (fun entry row => buildRow fixture.schema entry = .ok row)
            document.rows fixture.rows ∧
          fixture.commit = document.commit := by
  simp only [ofDocument, bind_eq_ok_iff, mapM_eq_ok_iff]
  constructor
  · rintro ⟨schema, tables, rows, built, same⟩
    cases same
    exact ⟨tables, built, rfl⟩
  · rcases fixture with ⟨schema, rows, commit⟩
    rintro ⟨tables, built, sameCommit⟩
    exact ⟨schema, tables, rows, built, by rw [← sameCommit]⟩

theorem exists_forall₂_iff
    {α β : Type}
    {related : α → β → Prop}
    {entries : List α} :
    (∃ items, List.Forall₂ related entries items) ↔
      ∀ entry ∈ entries, ∃ item, related entry item := by
  induction entries with
  | nil =>
      simp
  | cons entry entries ih =>
      simp only [List.forall₂_cons_left_iff, List.forall_mem_cons, ← ih]
      constructor
      · rintro ⟨_, item, items, first, rest, rfl⟩
        exact ⟨⟨item, first⟩, items, rest⟩
      · rintro ⟨⟨item, first⟩, items, rest⟩
        exact ⟨_, item, items, first, rest, rfl⟩

/-- A document makes a fixture exactly if it is well-formed. -/
theorem exists_ofDocument_iff
    {document : Document}
    (few : document.tables.length < UInt32.size) :
    (∃ fixture, ofDocument document = .ok fixture) ↔ document.WellFormed := by
  constructor
  · rintro ⟨fixture, ok⟩
    rcases ofDocument_eq_ok_iff.1 ok with ⟨tables, built, -⟩
    have registered := registered_of_foldlM tables
    refine ⟨(exists_foldlM_iff few).1 ⟨_, tables⟩, ?_⟩
    intro entry listed
    rcases exists_forall₂_iff.1 ⟨_, built⟩ entry listed with ⟨row, builds⟩
    exact ((registered.represents few).renders registered.hierarchy
      (registered.numbered few) builds).1
  · intro wellFormed
    rcases (exists_foldlM_iff few).2 wellFormed.tables with ⟨schema, tables⟩
    have registered := registered_of_foldlM tables
    have builds (entry : RowEntry) (listed : entry ∈ document.rows) :
        ∃ row, buildRow schema entry = .ok row :=
      (registered.represents few).exists_buildRow registered.hierarchy
        (wellFormed.rows entry listed)
    rcases exists_forall₂_iff.2 builds with ⟨rows, built⟩
    exact ⟨⟨schema, rows, document.commit⟩,
      ofDocument_eq_ok_iff.2 ⟨tables, built, rfl⟩⟩

/-- The groups of a fixture are those of its document, and the rows of both are the same. -/
theorem renders_of_ofDocument
    {document : Document}
    (few : document.tables.length < UInt32.size)
    {fixture : Fixture}
    (ok : ofDocument document = .ok fixture) :
    Grouped document.tables fixture.schema ∧
      List.Forall₂ (Renders document.tables fixture.schema) document.rows
        fixture.rows := by
  rcases ofDocument_eq_ok_iff.1 ok with ⟨tables, built, -⟩
  have registered := registered_of_foldlM tables
  have represents := registered.represents few
  have numbered := registered.numbered few
  exact ⟨represents.grouped registered.hierarchy numbered,
    built.imp fun _ _ builds =>
      (represents.renders registered.hierarchy numbered builds).2⟩

/-- A document with its rows in another order makes a fixture with its rows in another order. -/
theorem ofDocument_perm
    {document : Document}
    {rows : List RowEntry}
    (reordered : rows.Perm document.rows)
    {fixture : Fixture}
    (ok : ofDocument document = .ok fixture) :
    ∃ built,
      ofDocument { document with rows } =
          .ok { fixture with rows := built } ∧
        built.Perm fixture.rows := by
  rcases ofDocument_eq_ok_iff.1 ok with ⟨tables, builds, sameCommit⟩
  rcases List.perm_comp_forall₂ reordered builds with
    ⟨built, buildsToo, sameRows⟩
  exact ⟨built, ofDocument_eq_ok_iff.2 ⟨tables, buildsToo, sameCommit⟩,
    sameRows⟩

end HierQuery.Fixture
