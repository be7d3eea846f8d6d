import HierQuery.Proofs.Fixture.Rows
import HierQuery.Proofs.Schema.Issuing

/-!
# Keys and the hierarchy of tables

The key of a row has one segment for each table on the way from the root of
its group down to its own table.  A table is only ever put below one that is
there already, and what a number finds stays found as long as the numbers last.
So the way up from a table ends, whatever was asked of the schema with fewer than
2^32 numbers used up.

The keys of two tables are then compared by comparing the ways down to them:
one key is a prefix of another if its table lies on the way to the table of the
other, and its values are the first ones of the other.
-/

namespace HierQuery.Schema

open Fixture

/-! ## The way up ends -/

/-- The way up from each table ends, and there are enough tables for it. -/
def Rooted (schema : Schema) : Prop :=
  ∀ rowType ∈ schema.tables,
    ∃ line,
      schema.Descends rowType line ∧ line.length ≤ schema.tables.length

section

variable
  {schema larger : Schema}
  {table : TableId}
  {rowType : RowType}

/-- A table is found as before if others come after it. -/
theorem table?_of_append
    {added : List RowType}
    (grown : larger.tables = schema.tables ++ added)
    (found : schema.table? table = some rowType) :
    larger.table? table = some rowType := by
  rw [table?] at found ⊢
  rw [grown, List.find?_append, found]
  rfl

theorem table?_eq_of_found
    (found : schema.table? table = some rowType) :
    rowType.table? = some table := by
  simpa using List.find?_some found

/-- A request leaves the way up from each table as it is, and that from a new one ends too. -/
theorem Rooted.serves
    {request : Request}
    {answer : Except ExecError RowType}
    {numbers : Nat}
    (rooted : schema.Rooted)
    (serves : Serves schema request answer larger numbers) :
    larger.Rooted := by
  have grown := serves.tables_eq
  have kept {line : List RowType} {upper : RowType}
      (descends : schema.Descends upper line) :
      larger.Descends upper line :=
    descends.mono fun _ _ => table?_of_append grown
  have old (known : RowType) (listed : known ∈ schema.tables) :
      ∃ line,
        larger.Descends known line ∧ line.length ≤ larger.tables.length := by
    rcases rooted known listed with ⟨line, descends, short⟩
    refine ⟨line, kept descends, ?_⟩
    rw [grown, List.length_append]
    omega
  intro known listed
  cases serves with
  | computed | taken | orphan =>
      exact old known listed
  | root =>
      rcases List.mem_append.1 listed with before | new
      · exact old known before
      · rw [List.mem_singleton.1 new]
        exact ⟨_, .root rfl rfl, by simp⟩
  | @child _ _ parent place _ isPlace =>
      rcases List.mem_append.1 listed with before | new
      · exact old known before
      · rcases Option.bind_eq_some_iff.1 isPlace with ⟨upper, found, -⟩
        rcases rooted upper (List.mem_of_find?_eq_some found) with
          ⟨line, descends, short⟩
        rw [List.mem_singleton.1 new]
        exact
          ⟨_, .step rfl rfl (table?_of_append grown found) (kept descends),
            by simpa using short⟩

theorem rooted_serveAll (requests : List Request) :
    (Issuing.serveAll requests).schema.Rooted := by
  induction requests using List.reverseRecOn with
  | nil =>
      exact nofun
  | append_singleton requests request ih =>
      rw [Issuing.serveAll_snoc]
      exact ih.serves ((Issuing.serveAll requests).schema.serves request)

end

/-! ## Tables on the way -/

section

variable
  {schema : Schema}
  {table otherTable : TableId}
  {rowType other : RowType}
  {line otherLine : List RowType}

/-- A table that is found by its number has none but found ones above it. -/
theorem Descends.found_of_mem
    (descends : schema.Descends rowType line)
    (found : schema.table? table = some rowType) :
    ∀ upper ∈ line,
      ∃ number,
        upper.table? = some number ∧ schema.table? number = some upper := by
  have itself {number : TableId} {own : RowType}
      (isOwn : schema.table? number = some own) :
      ∃ number, own.table? = some number ∧ schema.table? number = some own :=
    ⟨number, table?_eq_of_found isOwn, isOwn⟩
  induction descends generalizing table with
  | root =>
      intro upper inside
      rw [List.mem_singleton.1 inside]
      exact itself found
  | step _ _ above _ ih =>
      intro upper inside
      rcases List.mem_append.1 inside with higher | last
      · exact ih above upper higher
      · rw [List.mem_singleton.1 last]
        exact itself found

/-- The way to a table goes on from the way to each table on it. -/
theorem Descends.isPrefix_of_mem
    (otherDescends : schema.Descends other otherLine)
    (descends : schema.Descends rowType line)
    (inside : rowType ∈ otherLine) :
    line <+: otherLine := by
  induction otherDescends with
  | root placed parentless =>
      rw [List.mem_singleton.1 inside] at descends
      cases descends.unique (.root placed parentless)
      exact List.prefix_refl _
  | step placed isChild above higher ih =>
      rcases List.mem_append.1 inside with upper | last
      · exact (ih upper).trans (List.prefix_append _ _)
      · rw [List.mem_singleton.1 last] at descends
        cases descends.unique (.step placed isChild above higher)
        exact List.prefix_refl _

/-- One table lies on the way to another if the numbers on the way to it are the first there. -/
theorem Descends.isPrefix_iff_mem
    (descends : schema.Descends rowType line)
    (found : schema.table? table = some rowType)
    (otherDescends : schema.Descends other otherLine)
    (otherFound : schema.table? otherTable = some other) :
    line.filterMap RowType.table? <+: otherLine.filterMap RowType.table? ↔
      rowType ∈ otherLine := by
  constructor
  · intro before
    rcases descends.eq_concat with ⟨uppers, rfl⟩
    have itsTable := table?_eq_of_found found
    have inside : table ∈ (uppers ++ [rowType]).filterMap RowType.table? :=
      List.mem_filterMap.2 ⟨rowType, by simp, itsTable⟩
    rcases List.mem_filterMap.1 (before.mem inside) with
      ⟨upper, onTheWay, sameTable⟩
    -- both are found under one number, so they are one table
    rcases otherDescends.found_of_mem otherFound upper onTheWay with
      ⟨number, itsNumber, isFound⟩
    rw [sameTable] at itsNumber
    cases itsNumber
    rw [found] at isFound
    cases isFound
    exact onTheWay
  · intro inside
    exact (otherDescends.isPrefix_of_mem descends inside).filterMap _

/-- The keys of two tables compare as the ways down to them and their levels do. -/
theorem isPrefixOf_keyOf_iff
    (descends : schema.Descends rowType line)
    (found : schema.table? table = some rowType)
    (otherDescends : schema.Descends other otherLine)
    (otherFound : schema.table? otherTable = some other)
    {levels otherLevels : List (List Value)}
    (asMany : line.length = levels.length)
    (alsoAsMany : otherLine.length = otherLevels.length) :
    (keyOf line levels).isPrefixOf (keyOf otherLine otherLevels) = true ↔
      rowType ∈ otherLine ∧ levels = otherLevels.take line.length := by
  have listed := List.mem_of_find?_eq_some found
  have otherListed := List.mem_of_find?_eq_some otherFound
  rw [HKey.isPrefixOf_iff,
    ← descends.isPrefix_iff_mem found otherDescends otherFound]
  constructor
  · intro before
    have tables := before.map HKey.Segment.table
    have values := before.map HKey.Segment.values
    rw [tables_keyOf listed descends asMany,
      tables_keyOf otherListed otherDescends alsoAsMany] at tables
    rw [values_keyOf listed descends asMany,
      values_keyOf otherListed otherDescends alsoAsMany] at values
    rw [asMany]
    exact ⟨tables, List.prefix_iff_eq_take.1 values⟩
  · rintro ⟨before, levelsBefore⟩
    have tablesBefore := List.prefix_iff_eq_take.1 before
    rw [length_filterMap_line listed descends] at tablesBefore
    rw [keyOf, keyOf, tablesBefore, levelsBefore, ← List.take_zipWith]
    exact List.take_prefix _ _

end

/-! ## Keys that are built -/

/--
The way from the root down to a table, and what the keys of its rows have to do
with it.  A key is built from one list of values for each table on the way; its
segments carry these tables and these lists, and it is a key for a row of the
table.
-/
structure Mirrors
    (schema : Schema)
    (rowType : RowType)
    (line : List RowType) :
    Prop where
  descends : schema.Descends rowType line
  known :
    ∀ upper ∈ line,
      ∃ number,
        upper.table? = some number ∧ schema.table? number = some upper
  /-- The search for the tables above comes to an end by itself. -/
  ends :
    ∀ place, rowType.placement? = some place →
      ∀ steps, line.length ≤ steps →
        lineage.climb schema steps place [place.table] =
          line.filterMap RowType.table?
  accepted :
    ∀ levels,
      (∃ key, placeKey schema rowType levels = .ok key) ↔
        levels.length = line.length
  refused :
    ∀ levels, levels.length ≠ line.length →
      placeKey schema rowType levels =
        .error (.keyDepth rowType.name line.length levels.length)
  segments :
    ∀ levels key, placeKey schema rowType levels = .ok key →
      key.segments.map HKey.Segment.table = line.filterMap RowType.table? ∧
        key.segments.map HKey.Segment.values = levels ∧
          key.table? = rowType.table?
  /-- A row with such a key is refused for the number of its values only. -/
  stored :
    ∀ levels key, placeKey schema rowType levels = .ok key →
      ∀ values,
        if values.length = rowType.arity then
          ∃ row, Row.stored rowType key values = .ok row
        else
          Row.stored rowType key values =
            .error
              (.argument Row.operatorName
                (.wrongArity rowType values.length))

/-- The keys of a schema mirror its tables, and they are compared as the tables are. -/
structure Mirrored (schema : Schema) : Prop where
  tables :
    ∀ table rowType, schema.table? table = some rowType →
      ∃ line, schema.Mirrors rowType line
  prefixes :
    ∀ table rowType line levels key,
      schema.table? table = some rowType →
        schema.Descends rowType line →
          placeKey schema rowType levels = .ok key →
            ∀ otherTable other otherLine otherLevels otherKey,
              schema.table? otherTable = some other →
                schema.Descends other otherLine →
                  placeKey schema other otherLevels = .ok otherKey →
                    (key.isPrefixOf otherKey = true ↔
                      rowType ∈ otherLine ∧
                        levels = otherLevels.take line.length)

section

variable
  {schema : Schema}
  {table : TableId}
  {rowType : RowType}
  {line : List RowType}
  {levels : List (List Value)}
  {key : HKey}

theorem Rooted.placeKey_eq
    (rooted : schema.Rooted)
    (listed : rowType ∈ schema.tables)
    (descends : schema.Descends rowType line)
    (levels : List (List Value)) :
    placeKey schema rowType levels =
      if line.length = levels.length then
        .ok (keyOf line levels)
      else
        .error (.keyDepth rowType.name line.length levels.length) := by
  rcases rooted rowType listed with ⟨other, alsoDescends, short⟩
  cases descends.unique alsoDescends
  exact placeKey_of_descends listed descends short levels

/-- A key that was built is the one for the line, which has as many tables as there are levels. -/
theorem Rooted.eq_keyOf
    (rooted : schema.Rooted)
    (listed : rowType ∈ schema.tables)
    (descends : schema.Descends rowType line)
    (built : placeKey schema rowType levels = .ok key) :
    line.length = levels.length ∧ key = keyOf line levels := by
  rw [rooted.placeKey_eq listed descends] at built
  split at built
  next asMany =>
    cases built
    exact ⟨asMany, rfl⟩
  next =>
    cases built

theorem stored_of_sameTable
    {place : Placement}
    (placed : rowType.placement? = some place)
    (sameTable : key.table? = rowType.table?)
    (values : List Value) :
    if values.length = rowType.arity then
      ∃ row, Row.stored rowType key values = .ok row
    else
      Row.stored rowType key values =
        .error
          (.argument Row.operatorName (.wrongArity rowType values.length)) := by
  have isTable : rowType.isTable = true := by
    rw [RowType.isTable, placed]
    rfl
  rw [Row.stored, dif_pos isTable, dif_pos sameTable]
  split
  · exact ⟨_, rfl⟩
  · rfl

theorem Rooted.mirrors
    (rooted : schema.Rooted)
    (found : schema.table? table = some rowType) :
    ∃ line, schema.Mirrors rowType line := by
  have listed := List.mem_of_find?_eq_some found
  rcases rooted rowType listed with ⟨line, descends, -⟩
  have placeKey_eq := rooted.placeKey_eq listed descends
  refine ⟨line, ?_⟩
  constructor
  case descends => exact descends
  case known => exact descends.found_of_mem found
  case ends =>
    intro place placed steps enough
    rw [descends.climb placed (Nat.le_succ_of_le enough)]
    rcases descends.eq_concat with ⟨uppers, rfl⟩
    simp [table?_of_placed placed]
  case accepted =>
    intro levels
    rw [placeKey_eq]
    by_cases asMany : line.length = levels.length
    · simp [asMany]
    · simp [asMany, Ne.symm asMany]
  case refused =>
    intro levels others
    rw [placeKey_eq, if_neg (Ne.symm others)]
  case segments =>
    intro levels key built
    rcases rooted.eq_keyOf listed descends built with ⟨asMany, rfl⟩
    exact ⟨tables_keyOf listed descends asMany,
      values_keyOf listed descends asMany,
      table?_keyOf listed descends asMany⟩
  case stored =>
    intro levels key built values
    rcases rooted.eq_keyOf listed descends built with ⟨asMany, rfl⟩
    rcases descends.placed with ⟨place, placed⟩
    exact stored_of_sameTable placed (table?_keyOf listed descends asMany)
      values

theorem Rooted.mirrored (rooted : schema.Rooted) : schema.Mirrored where
  tables := fun _ _ => rooted.mirrors
  prefixes := by
    intro table rowType line levels key found descends built
      otherTable other otherLine otherLevels otherKey otherFound otherDescends
      otherBuilt
    rcases rooted.eq_keyOf (List.mem_of_find?_eq_some found) descends
        built with ⟨asMany, rfl⟩
    rcases rooted.eq_keyOf (List.mem_of_find?_eq_some otherFound)
        otherDescends otherBuilt with ⟨alsoAsMany, rfl⟩
    exact isPrefixOf_keyOf_iff descends found otherDescends otherFound asMany
      alsoAsMany

end

/--
As long as the numbers last, keys mirror the tables of a schema whatever is asked
of it, and each of its tables is found.
-/
theorem mirrored_serveAll
    (requests : List Request)
    (few : (Issuing.serveAll requests).issued < UInt32.size) :
    (Issuing.serveAll requests).schema.Mirrored ∧
      ∀ rowType ∈ (Issuing.serveAll requests).schema.tables,
        ∃ table,
          (Issuing.serveAll requests).schema.table? table = some rowType := by
  refine ⟨(rooted_serveAll requests).mirrored, ?_⟩
  intro rowType listed
  rcases (Issuing.regular_serveAll requests few).arranged.liesIn listed with
    ⟨place, _, -, lies⟩
  exact ⟨place.table, lies.found⟩

/-- The items of the sample schema lie two levels below the root of their group. -/
theorem mirrored_sampleRequests :
    let schema := (Issuing.serveAll sampleRequests).schema
    (Issuing.serveAll sampleRequests).issued = 14 ∧
      schema.Mirrored ∧
        ∃ item line,
          schema.table? ⟨4⟩ = some item ∧
            schema.Mirrors item line ∧
              line.map RowType.name = ["customer", "order", "item"] := by
  intro schema
  have issued : (Issuing.serveAll sampleRequests).issued = 14 := by
    decide
  have mirrored : schema.Mirrored :=
    (mirrored_serveAll sampleRequests (by rw [issued]; decide)).1
  let item : RowType := ⟨5, "item", [], .table ⟨⟨4⟩, some ⟨2⟩, ⟨1⟩⟩⟩
  have found : schema.table? ⟨4⟩ = some item := by
    decide
  obtain ⟨way, descends, names⟩ :
      ∃ way,
        schema.Descends item way ∧
          way.map RowType.name = ["customer", "order", "item"] :=
    ⟨_, .step rfl rfl rfl (.step rfl rfl rfl (.root rfl rfl)), rfl⟩
  rcases mirrored.tables ⟨4⟩ item found with ⟨line, mirrors⟩
  cases mirrors.descends.unique descends
  exact ⟨issued, mirrored, item, way, found, mirrors, names⟩

example :
    let schema := (Issuing.serveAll sampleRequests).schema
    (schema.tableNamed? "item").bind (fun item =>
        (placeKey schema item [[.int 1], [.int 2], []]).toOption) =
      some ⟨[⟨⟨1⟩, [.int 1]⟩, ⟨⟨2⟩, [.int 2]⟩, ⟨⟨4⟩, []⟩]⟩ := by
  decide

end HierQuery.Schema
