import HierQuery.Proofs.Fixture.Loading
import HierQuery.Proofs.HKey.Writing
import HierQuery.Proofs.Row

/-!
# Rows by their written keys

No two rows of a loaded store have the same key.  Their keys are written
differently too if they are legible, and then the objects of the rows differ in
the member with the key, unless a column hides it.  Keys that are not legible
may be written alike, and both may be keys of one loaded store.
-/

namespace HierQuery

namespace MemoryStore

/-- Whether a row is stored in one of the groups. -/
def Stores (store : MemoryStore) (row : Row) : Prop :=
  ∃ group key, (key, row) ∈ (store.groupRows group).entries

/-- Each row has a key, and no two rows of a store have the same. -/
theorem Placed.exists_keys
    {store : MemoryStore}
    (placed : store.Placed)
    {first second : Row}
    (isStored : store.Stores first)
    (alsoStored : store.Stores second)
    (distinct : first ≠ second) :
    ∃ key other,
      first.key? = some key ∧ second.key? = some other ∧ key ≠ other := by
  rcases isStored with ⟨group, key, inside⟩
  rcases alsoStored with ⟨otherGroup, other, alsoInside⟩
  have lies := placed.row inside
  have alsoLies := placed.row alsoInside
  refine ⟨key, other, lies.itsKey, alsoLies.itsKey, ?_⟩
  rintro rfl
  -- the table of the key tells the group, and there the key tells the row
  rcases lies.itsGroup with ⟨table, home, itsTable, itsHome, rfl⟩
  rcases alsoLies.itsGroup with ⟨sameTable, sameHome, alsoTable, alsoHome, rfl⟩
  cases itsTable.symm.trans alsoTable
  cases itsHome.symm.trans alsoHome
  exact distinct
    (Option.some.inj
      ((SortedMap.get?_eq_some_iff.2 inside).symm.trans
        (SortedMap.get?_eq_some_iff.2 alsoInside)))

end MemoryStore

namespace Fixture

/-- Two rows whose keys differ, and are written differently if both are legible. -/
structure NamedApart (first second : Row) (key other : HKey) : Prop where
  itsKey : first.key? = some key
  alsoItsKey : second.key? = some other
  distinct : key ≠ other
  written : key.Legible → other.Legible → key.render ≠ other.render
  /-- The objects of the rows hold the written keys, if no column hides them. -/
  printed :
    "_hkey" ∉ first.rowType.columns.map Column.name →
      "_hkey" ∉ second.rowType.columns.map Column.name →
        first.toJson.get? "_hkey" = some (.text key.render) ∧
          second.toJson.get? "_hkey" = some (.text other.render) ∧
            (key.Legible →
              other.Legible →
                first.toJson.get? "_hkey" ≠ second.toJson.get? "_hkey")

/--
Any two rows of a loaded store whose keys are legible can be told apart by
their written keys.
-/
theorem namedApart_of_load
    {fixture : Fixture}
    {sessionId : String}
    {countMode : CountMode}
    {store : MemoryStore}
    (loaded : (fixture.load sessionId countMode).1 = .ok store)
    {first second : Row}
    (isStored : store.Stores first)
    (alsoStored : store.Stores second)
    (distinct : first ≠ second) :
    ∃ key other, NamedApart first second key other := by
  rcases (placed_load loaded).exists_keys isStored alsoStored distinct with
    ⟨key, other, itsKey, alsoItsKey, keysDiffer⟩
  have written (legible : key.Legible) (alsoLegible : other.Legible) :
      key.render ≠ other.render := fun same =>
    keysDiffer (legible.eq_of_render alsoLegible same)
  refine ⟨key, other, itsKey, alsoItsKey, keysDiffer, written, ?_⟩
  intro free alsoFree
  have found := Row.get?_toJson_key itsKey free
  have alsoFound := Row.get?_toJson_key alsoItsKey alsoFree
  refine ⟨found, alsoFound, fun legible alsoLegible same => ?_⟩
  rw [found, alsoFound] at same
  exact written legible alsoLegible
    (Option.some.inj (Json.string.inj (Option.some.inj same)))

/-! ## Keys that are written alike -/

namespace Sample

/-- The row of a table without columns, with a key of one level. -/
def keyRow (values : List Value) : Row where
  rowType := ⟨2, "t", [], .table ⟨⟨1⟩, none, ⟨1⟩⟩⟩
  key? := some (.root ⟨1⟩ values)
  values := []
  arity := rfl
  placed := by
    rintro key ⟨⟩
    exact ⟨rfl, rfl⟩

/-- The values of keys: the first two are written alike, and so are the others. -/
def levels : List (List Value) :=
  [[.int 1, .int 11], [.int 111], [.text "x\x27\x27y"],
    [.text "x", .text "y"]]

/-- A document with a row for each of the keys. -/
def keysText : String :=
  (Json.record
    [("tables",
        .array [.record [("name", .text "t"), ("columns", .array [])]]),
      ("rows",
        .array
          (levels.map fun values =>
            .record
              [("table", .text "t"),
                ("hkey", .array [.array (values.map Value.toJson)]),
                ("values", .array [])]))]).render

/-- The fixture of the document. -/
def keys : Fixture where
  schema := (Schema.empty.newTable "t" [] none).2
  rows := levels.map keyRow
  commit := true

theorem read_keysText : Fixture.read keysText = .ok keys := by
  have decoded :
      Document.read? keysText =
        some
          { tables := [⟨"t", none, []⟩]
            rows := levels.map fun values => ⟨"t", [values], []⟩
            commit := true } := by
    rw [Document.read?, Json.read, keysText, Json.toList_render]
    decide +kernel
  rw [Fixture.read, decoded]
  rfl

/-- The loaded store holds a row for each key. -/
theorem load_keys :
    ∃ store,
      (keys.load "session" .exact).1 = .ok store ∧
        ∀ values ∈ levels, store.Stores (keyRow values) := by
  refine ⟨_, rfl, ?_⟩
  intro values listed
  refine ⟨⟨1⟩, .root ⟨1⟩ values, ?_⟩
  revert values
  decide

end Sample

/-- A key of integers and one of texts are written differently. -/
theorem namedApart_of_sample :
    ∃ store first second key other,
      Fixture.read Sample.keysText = .ok Sample.keys ∧
        (Sample.keys.load "session" .exact).1 = .ok store ∧
          first ≠ second ∧
            NamedApart first second key other ∧
              key.Legible ∧ other.Legible := by
  rcases Sample.load_keys with ⟨store, loaded, holds⟩
  have distinct :
      Sample.keyRow [.text "x", .text "y"] ≠
        Sample.keyRow [.int 111] := by
    decide
  rcases namedApart_of_load loaded
      (holds [.text "x", .text "y"] (by decide))
      (holds [.int 111] (by decide)) distinct with
    ⟨key, other, apart⟩
  have itsKey := apart.itsKey
  have alsoItsKey := apart.alsoItsKey
  cases itsKey
  cases alsoItsKey
  refine ⟨store, _, _, _, _, Sample.read_keysText, loaded, distinct, apart, ?_, ?_⟩
  · intro segment inside
    rw [List.mem_singleton.1 inside]
    exact ⟨by decide, by decide⟩
  · intro segment inside
    rw [List.mem_singleton.1 inside]
    exact ⟨by decide, by decide⟩

/--
Rows of one store whose keys are written alike, as are the members with the
keys: once integers run together, and once a quote is taken for an end.
-/
theorem written_alike :
    ∃ store,
      Fixture.read Sample.keysText = .ok Sample.keys ∧
        (Sample.keys.load "session" .exact).1 = .ok store ∧
          ∀ pair ∈
              [(Sample.keyRow [.int 1, .int 11], Sample.keyRow [.int 111]),
                (Sample.keyRow [.text "x\x27\x27y"],
                  Sample.keyRow [.text "x", .text "y"])],
            store.Stores pair.1 ∧
              store.Stores pair.2 ∧
                pair.1 ≠ pair.2 ∧
                  pair.1.key?.map HKey.render =
                      pair.2.key?.map HKey.render ∧
                    pair.1.toJson.get? "_hkey" =
                      pair.2.toJson.get? "_hkey" := by
  rcases Sample.load_keys with ⟨store, loaded, holds⟩
  refine ⟨store, Sample.read_keysText, loaded, ?_⟩
  intro pair listed
  rcases List.mem_pair.1 listed with rfl | rfl
  · exact ⟨holds _ (by decide), holds _ (by decide), by decide, by decide, rfl⟩
  · exact ⟨holds _ (by decide), holds _ (by decide), by decide, by decide, rfl⟩

end Fixture

end HierQuery
