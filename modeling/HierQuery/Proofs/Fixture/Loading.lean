import HierQuery.Proofs.Fixture.Rows
import HierQuery.Proofs.Plan.Counting
import HierQuery.Proofs.Plan.Running
import HierQuery.Proofs.Store.Loading

/-!
# Loading fixtures

A well-formed document makes a fixture, and the fixture can be loaded if the
keys of its rows are all different.  The store then has the rows of each
group, in the order of their keys, and counts them for their tables.  The
order of the rows in the document does not matter to any of this.
-/

namespace HierQuery.Fixture

open MemoryStore Schema

/-! ## What is loaded -/

/-- The schema of a fixture is a hierarchy, and its rows are keyed rows of tables of the schema. -/
structure Coherent (fixture : Fixture) : Prop where
  hierarchy : Hierarchy fixture.schema
  rows :
    ∀ row ∈ fixture.rows,
      row.rowType ∈ fixture.schema.tables ∧ ∃ key, row.key? = some key

theorem coherent_of_ofDocument
    {document : Document}
    {fixture : Fixture}
    (ok : ofDocument document = .ok fixture) :
    fixture.Coherent := by
  rcases ofDocument_eq_ok_iff.1 ok with ⟨tables, built, -⟩
  refine ⟨(registered_of_foldlM tables).hierarchy, ?_⟩
  intro row listed
  rcases exists_forall₂_iff.1 ⟨_, built.flip⟩ row listed with ⟨entry, builds⟩
  rcases buildRow_eq_ok_iff.1 builds with
    ⟨rowType, key, known, -, -, stored⟩
  rcases stored_eq_ok stored with ⟨rfl, itsKey, -⟩
  exact ⟨List.mem_of_find?_eq_some known, key, itsKey⟩

section

variable
  {fixture : Fixture}
  {sessionId : String}
  {countMode : CountMode}
  {store : MemoryStore}

theorem Coherent.homed
    (coherent : fixture.Coherent) :
    ∀ row ∈ fixture.rows,
      ∃ group key, PlacedRow fixture.schema group key row := by
  intro row listed
  rcases coherent.rows row listed with ⟨inSchema, key, itsKey⟩
  rcases coherent.hierarchy.homed inSchema with
    ⟨table, group, itsTable, itsGroup⟩
  exact ⟨group.id, key, itsKey, table, group,
    (row.placed key itsKey).2.trans itsTable, itsGroup, rfl⟩

/-- What is done with a new store when the fixture is loaded. -/
def actions (fixture : Fixture) : List Action :=
  fixture.rows.map .write ++ if fixture.commit then [.commit] else []

theorem load_fst
    (fixture : Fixture)
    (sessionId : String)
    (countMode : CountMode) :
    (fixture.load sessionId countMode).1 =
      match
          (MemoryStore.create fixture.schema {} sessionId
            countMode).1.writeRows fixture.rows with
      | (.error error, _) => .error (.execution error)
      | (.ok (), written) =>
          .ok (if fixture.commit then written.commit.1 else written) := by
  rw [load]
  dsimp only
  rcases (MemoryStore.create fixture.schema {} sessionId
    countMode).1.writeRows fixture.rows with ⟨error | _, written⟩
  · rfl
  · cases fixture.commit <;> rfl

theorem load_eq_ok_iff :
    (fixture.load sessionId countMode).1 = .ok store ↔
      ∃ written,
        (MemoryStore.create fixture.schema {} sessionId
            countMode).1.writeRows fixture.rows = (.ok (), written) ∧
          store = if fixture.commit then written.commit.1 else written := by
  rw [load_fst]
  rcases (MemoryStore.create fixture.schema {} sessionId
    countMode).1.writeRows fixture.rows with ⟨error | _, written⟩
  · exact iff_of_false nofun nofun
  · constructor
    · intro same
      cases same
      exact ⟨written, rfl, rfl⟩
    · rintro ⟨other, same, rfl⟩
      cases same
      rfl

/-- A loaded store is what its actions make of a new one. -/
theorem performAll_actions
    (ok : (fixture.load sessionId countMode).1 = .ok store) :
    (MemoryStore.create fixture.schema {} sessionId countMode).1.performAll
        fixture.actions =
      store := by
  rcases load_eq_ok_iff.1 ok with ⟨written, stored, rfl⟩
  rw [actions, performAll_append, performAll_of_writeRows stored]
  split <;> rfl

/-- A fixture is loaded if the keys of its rows differ; else the first repeated one is told. -/
theorem Coherent.load_cases
    (coherent : fixture.Coherent)
    (sessionId : String)
    (countMode : CountMode) :
    (fixture.rows.map Row.key?).Nodup ∧
        (∃ store, (fixture.load sessionId countMode).1 = .ok store) ∨
      ∃ key,
        FirstRepeat fixture.rows key ∧
          (fixture.load sessionId countMode).1 =
            .error
              (.execution (.ofStorage (.duplicateKey key.render))) := by
  rw [load_fst]
  rcases writeRows_create_cases coherent.homed with
    ⟨distinct, written, ok⟩ | ⟨key, reached, repeated, refused⟩
  · rw [ok]
    exact .inl ⟨distinct, _, rfl⟩
  · rw [refused]
    exact .inr ⟨key, repeated, rfl⟩

/-- A group of a loaded store has the rows of the fixture that lie in it. -/
theorem perm_groupRows_load
    (ok : (fixture.load sessionId countMode).1 = .ok store)
    (group : GroupId) :
    ((store.groupRows group).entries.map Prod.snd).Perm
      (fixture.rows.filter (keeps fixture.schema group)) := by
  rcases load_eq_ok_iff.1 ok with ⟨written, stored, rfl⟩
  have sameRows :
      (if fixture.commit then written.commit.1 else written).groupRows group =
        written.groupRows group := by
    split <;> rfl
  rw [sameRows]
  exact perm_groupRows_writeRows stored group

theorem schema_load
    (ok : (fixture.load sessionId countMode).1 = .ok store) :
    store.schema = fixture.schema := by
  rw [← performAll_actions ok, schema_performAll]
  rfl

theorem placed_load
    (ok : (fixture.load sessionId countMode).1 = .ok store) :
    store.Placed := by
  rw [← performAll_actions ok]
  exact (placed_create fixture.schema {} sessionId countMode).performAll _

theorem tracked_load
    (ok : (fixture.load sessionId countMode).1 = .ok store) :
    store.Tracked := by
  rw [← performAll_actions ok]
  exact (tracked_create fixture.schema sessionId countMode).performAll _

/-- A loaded store holds as many rows of a table as the fixture. -/
theorem storedRows_load
    (ok : (fixture.load sessionId countMode).1 = .ok store)
    {table : TableId}
    {group : GroupTable}
    (itsGroup : fixture.schema.groupOf? table = some group) :
    store.storedRows table =
      fixture.rows.countP fun row => row.rowType.table? == some table := by
  have itsGroupThen : store.schema.groupOf? table = some group := by
    rw [schema_load ok]
    exact itsGroup
  rw [← Plan.countP_rowsWithin_whole (placed_load ok) itsGroupThen .full
      .unlimited, GroupScan.rowsWithin_whole,
    (perm_groupRows_load ok group.id).countP_eq, List.countP_filter]
  apply List.countP_congr
  intro row _
  rw [Bool.and_eq_true, and_iff_left_iff_imp]
  intro inTable
  rw [keeps, beq_iff_eq.1 inTable, Option.bind_some, itsGroup]
  exact beq_self_eq_true group.id

/-- A load without a commit commits nothing, and one with a commit commits all. -/
theorem committedRows_load
    (ok : (fixture.load sessionId countMode).1 = .ok store)
    {table : TableId}
    (known : (fixture.schema.table? table).isSome) :
    store.committedRows table =
      if fixture.commit then store.exactRows table else 0 := by
  have performed := performAll_actions ok
  have fresh := tracked_create fixture.schema sessionId countMode
  rw [actions] at performed
  cases commits : fixture.commit with
  | false =>
      rw [commits] at performed
      have noCommit : Action.commit ∉ fixture.rows.map Action.write ++ [] := by
        simp
      rw [← performed]
      exact (fresh.committedRows_performAll known noCommit).trans
        (committedRows_create fixture.schema sessionId countMode known)
  | true =>
      rw [commits, performAll_append] at performed
      rw [← performed]
      -- A commit empties the session, so the exact count is the committed one.
      exact (Int64.add_zero _).symm

/-- The counts of a loaded store: the exact ones are those of its rows, the others are committed. -/
theorem rowCount_load
    (ok : (fixture.load sessionId countMode).1 = .ok store)
    {rowType : RowType}
    {table : TableId}
    (known : fixture.schema.table? table = some rowType)
    {group : GroupTable}
    (itsGroup : fixture.schema.groupOf? table = some group)
    (sources : SourceRows) :
    let rows :=
      fixture.rows.countP fun row => row.rowType.table? == some table
    (store.counting .exact).rowCount sources rowType =
        .ok (Int64.ofInt rows) ∧
      (store.counting .approximate).rowCount sources rowType =
        .ok (if fixture.commit then Int64.ofInt rows else 0) := by
  intro rows
  have itsTable := table_of_known known
  have inFixture : (fixture.schema.table? table).isSome := by
    rw [known]
    rfl
  have inStore : (store.schema.table? table).isSome := by
    rw [schema_load ok]
    exact inFixture
  have tracked := tracked_load ok
  have noRollback : Action.rollback ∉ fixture.actions := by
    rw [actions]
    split <;> simp
  have balanced :=
    (balanced_create fixture.schema sessionId countMode inFixture).performAll
      (tracked_create fixture.schema sessionId countMode) inFixture
      fixture.actions
  rw [performAll_actions ok, discarded_eq_zero noRollback] at balanced
  have exactly : store.exactRows table = Int64.ofInt rows := by
    rw [balanced.counted, storedRows_load ok itsGroup]
    simp [rows]
  rw [tracked.rowCount_counting itsTable inStore .exact sources,
    tracked.rowCount_counting itsTable inStore .approximate sources]
  dsimp only
  rw [committedRows_load ok inFixture, exactly]
  exact ⟨rfl, rfl⟩

/-- Rows in another order are loaded exactly if they are in the first order, into the same store. -/
theorem load_perm
    {rows : List Row}
    (reordered : rows.Perm fixture.rows) :
    (({ fixture with rows } : Fixture).load sessionId countMode).1 =
        .ok store ↔
      (fixture.load sessionId countMode).1 = .ok store := by
  have tracked := tracked_create fixture.schema sessionId countMode
  rw [load_eq_ok_iff, load_eq_ok_iff]
  constructor
  · rintro ⟨written, ok, sameStore⟩
    exact ⟨written, tracked.writeRows_perm reordered ok, sameStore⟩
  · rintro ⟨written, ok, sameStore⟩
    exact ⟨written, tracked.writeRows_perm reordered.symm ok, sameStore⟩

end

/-! ## What a loaded store shows -/

/-- What scans and counts over a store show of a fixture and of the document that it was made of. -/
structure Shows
    (document : Document)
    (fixture : Fixture)
    (store : MemoryStore) :
    Prop where
  /-- A full scan of a group yields the rows of its tables in the order of their keys. -/
  scans :
    ∀ group ∈ fixture.schema.groups,
      ∀ (sources : SourceRows) (query : Query MemoryStore)
        (bindings : Bindings),
        query.store = store →
          query.canceled = false →
            ∃ rows,
              (Plan.fullScan group).Collects sources bindings query rows ∧
                rows.Perm
                    (fixture.rows.filter fun row =>
                      row.rowType.table?.any group.contains) ∧
                  rows.Pairwise fun first second =>
                    ∃ lower upper,
                      first.key? = some lower ∧
                        second.key? = some upper ∧
                          lower.before upper = true
  /-- The counts of a table are the number of its rows, as a 64-bit number. -/
  counts :
    ∀ entry ∈ document.tables,
      ∃ rowType,
        fixture.schema.tableNamed? entry.name = some rowType ∧
          let rows :=
            document.rows.countP fun row => row.table == entry.name
          ∀ sources : SourceRows,
            (store.counting .exact).rowCount sources rowType =
                .ok (Int64.ofInt rows) ∧
              (store.counting .approximate).rowCount sources rowType =
                .ok (if document.commit then Int64.ofInt rows else 0)

/-- A row lies in a group exactly if its table is a member. -/
theorem Coherent.keeps_eq
    {fixture : Fixture}
    (coherent : fixture.Coherent)
    (numbered : Numbered fixture.schema)
    {group : GroupTable}
    (known : group ∈ fixture.schema.groups)
    {row : Row}
    (listed : row ∈ fixture.rows) :
    keeps fixture.schema group.id row =
      row.rowType.table?.any group.contains := by
  rcases coherent.rows row listed with ⟨inSchema, -⟩
  rcases coherent.hierarchy.homed inSchema with
    ⟨table, itsGroup, itsTable, found⟩
  have isMember := numbered.groupOf?_eq_some_iff inSchema itsTable known
  rw [found, Option.some_inj] at isMember
  rw [keeps, itsTable, Option.bind_some, found, Bool.eq_iff_iff, beq_iff_eq,
    Option.any_some, ← isMember]
  constructor
  · exact List.inj_on_of_nodup_map numbered.groups
      (mem_groups_of_groupOf? found) known
  · exact congrArg GroupTable.id

/-- What a full scan of a group of a loaded store yields. -/
theorem Coherent.collects_group
    {fixture : Fixture}
    (coherent : fixture.Coherent)
    (numbered : Numbered fixture.schema)
    {sessionId : String}
    {countMode : CountMode}
    {store : MemoryStore}
    (ok : (fixture.load sessionId countMode).1 = .ok store)
    {group : GroupTable}
    (known : group ∈ fixture.schema.groups)
    (sources : SourceRows)
    {query : Query MemoryStore}
    (isStore : query.store = store)
    (running : query.canceled = false)
    (bindings : Bindings) :
    ∃ rows,
      (Plan.fullScan group).Collects sources bindings query rows ∧
        rows.Perm
            (fixture.rows.filter fun row =>
              row.rowType.table?.any group.contains) ∧
          rows.Pairwise fun first second =>
            ∃ lower upper,
              first.key? = some lower ∧
                second.key? = some upper ∧ lower.before upper = true := by
  subst isStore
  have placed := placed_load ok
  have built : (Plan.fullScan group).Over query.store.schema := by
    rw [schema_load ok]
    exact .scan ⟨group, known, rfl⟩
  have roomy : (Plan.fullScan group).bindingSlots ≤ bindings.reserved :=
    Nat.zero_le _
  rcases Plan.newCursor_eq_ok sources placed built with ⟨cursor, made, ready⟩
  rcases Plan.collect_of_ready sources roomy running placed ready with
    ⟨answer, -⟩
  refine
    ⟨(GroupScan.eval ⟨group, .full, .unlimited⟩ query.store bindings).rows,
      ⟨cursor, made, answer.trans rfl⟩, ?_,
      Plan.ascending_eval_scan placed ⟨group, .full, .unlimited⟩ bindings⟩
  have means :
      (GroupScan.eval ⟨group, .full, .unlimited⟩ query.store bindings).rows =
        (query.store.groupRows group.id).entries.map Prod.snd :=
    congrArg RowStream.rows
      (Plan.eval_fullScan sources query.store group bindings)
  rw [means]
  refine (perm_groupRows_load ok group.id).trans (.of_eq ?_)
  exact List.filter_congr fun row listed =>
    coherent.keeps_eq numbered known listed

theorem countP_eq_of_forall₂
    {α β : Type}
    {related : α → β → Prop}
    {first : α → Bool}
    {second : β → Bool}
    (same : ∀ entry item, related entry item → first entry = second item)
    {entries : List α}
    {items : List β}
    (pairs : List.Forall₂ related entries items) :
    entries.countP first = items.countP second := by
  induction pairs with
  | nil =>
      rfl
  | cons pair _ ih =>
      rw [List.countP_cons, List.countP_cons, ih, same _ _ pair]

/-- As many rows of a fixture are of a table as entries name it. -/
theorem Numbered.countP_rows
    {tables : List TableEntry}
    {schema : Schema}
    (numbered : Numbered schema)
    {name : String}
    {rowType : RowType}
    (named : schema.tableNamed? name = some rowType)
    {table : TableId}
    (itsTable : rowType.table? = some table)
    {entries : List RowEntry}
    {rows : List Row}
    (renders : List.Forall₂ (Renders tables schema) entries rows) :
    (entries.countP fun entry => entry.table == name) =
      rows.countP fun row => row.rowType.table? == some table := by
  refine countP_eq_of_forall₂ ?_ renders
  intro entry row rendered
  have known := rendered.rowType
  rw [Bool.eq_iff_iff, beq_iff_eq, beq_iff_eq]
  constructor
  · rintro rfl
    cases Option.some.inj (named.symm.trans known)
    exact itsTable
  · intro sameTable
    have same : row.rowType = rowType :=
      List.inj_on_of_nodup_map numbered.tables
        (List.mem_of_find?_eq_some known) (List.mem_of_find?_eq_some named)
        (sameTable.trans itsTable.symm)
    have entryName : row.rowType.name = entry.table := by
      simpa using List.find?_some known
    have itsName : rowType.name = name := by
      simpa using List.find?_some named
    rw [← entryName, same, itsName]

theorem shows_of_load
    {document : Document}
    (few : document.tables.length < UInt32.size)
    {fixture : Fixture}
    (made : ofDocument document = .ok fixture)
    {sessionId : String}
    {countMode : CountMode}
    {store : MemoryStore}
    (ok : (fixture.load sessionId countMode).1 = .ok store) :
    Shows document fixture store := by
  have coherent := coherent_of_ofDocument made
  rcases ofDocument_eq_ok_iff.1 made with ⟨tables, -, sameCommit⟩
  have registered := registered_of_foldlM tables
  have numbered := registered.numbered few
  have represents := registered.represents few
  constructor
  · intro group known sources query bindings isStore running
    exact coherent.collects_group numbered ok known sources isStore running
      bindings
  · intro entry declared
    have isNamed : fixture.schema.tableNamed? entry.name ≠ none := by
      rw [ne_eq, represents.tableNamed?_eq_none_iff, not_not]
      exact List.mem_map_of_mem declared
    rcases Option.ne_none_iff_exists'.1 isNamed with ⟨rowType, named⟩
    have inSchema := List.mem_of_find?_eq_some named
    rcases coherent.hierarchy.homed inSchema with
      ⟨table, group, itsTable, itsGroup⟩
    refine ⟨rowType, named, ?_⟩
    rw [numbered.countP_rows named itsTable (renders_of_ofDocument few made).2,
      ← sameCommit]
    exact rowCount_load ok (numbered.table?_of_mem inSchema itsTable) itsGroup

/--
A document makes a fixture exactly if it is well-formed, and the fixture can be
loaded exactly if the keys of its rows are all different.  A loaded store shows
the rows of each group in the order of their keys and counts them table by
table.  With its rows in another order a document is accepted and loaded just
as well, and it leaves the very same store behind.

Tables are numbered with 32 bits, so a document must have fewer of them than
there are numbers.
-/
theorem loads_in_any_order
    (document : Document)
    (few : document.tables.length < UInt32.size)
    (sessionId : String)
    (countMode : CountMode) :
    ((∃ fixture, ofDocument document = .ok fixture) ↔
      document.WellFormed) ∧
      (∀ fixture,
        ofDocument document = .ok fixture →
          (Grouped document.tables fixture.schema ∧
              List.Forall₂ (Renders document.tables fixture.schema)
                document.rows fixture.rows) ∧
            ((∃ store, (fixture.load sessionId countMode).1 = .ok store) ↔
                (fixture.rows.map Row.key?).Nodup) ∧
              ∀ store,
                (fixture.load sessionId countMode).1 = .ok store →
                  Shows document fixture store) ∧
        ∀ rows, rows.Perm document.rows →
          let reordered := { document with rows }
          ((∃ fixture, ofDocument reordered = .ok fixture) ↔
            ∃ fixture, ofDocument document = .ok fixture) ∧
            ∀ fixture other,
              ofDocument document = .ok fixture →
                ofDocument reordered = .ok other →
                  ∀ store,
                    (other.load sessionId countMode).1 = .ok store ↔
                      (fixture.load sessionId countMode).1 = .ok store := by
  refine ⟨exists_ofDocument_iff few, ?_, ?_⟩
  · intro fixture made
    refine ⟨renders_of_ofDocument few made, ?_, ?_⟩
    · rcases (coherent_of_ofDocument made).load_cases sessionId countMode with
        ⟨distinct, loaded⟩ | ⟨key, repeated, refused⟩
      · exact iff_of_true loaded distinct
      · refine iff_of_false ?_ repeated.not_nodup
        rintro ⟨store, ok⟩
        cases refused.symm.trans ok
    · exact fun store ok => shows_of_load few made ok
  · intro rows sameRows reordered
    constructor
    · constructor
      · rintro ⟨other, made⟩
        rcases ofDocument_perm sameRows.symm made with ⟨built, madeToo, -⟩
        exact ⟨_, madeToo⟩
      · rintro ⟨fixture, made⟩
        rcases ofDocument_perm sameRows made with ⟨built, madeToo, -⟩
        exact ⟨_, madeToo⟩
    · intro fixture other made madeToo store
      rcases ofDocument_perm sameRows made with ⟨built, isOther, sameBuilt⟩
      cases isOther.symm.trans madeToo
      exact load_perm sameBuilt

namespace Sample

/-- Customers with their orders, an order written before its customer. -/
def document : Document where
  tables :=
    [⟨"customer", none, [⟨"id", .int⟩]⟩,
      ⟨"order", some "customer", [⟨"id", .int⟩]⟩]
  rows :=
    [⟨"order", [[.int 1], [.int 7]], [.int 7]⟩,
      ⟨"customer", [[.int 1]], [.int 1]⟩]
  commit := true

/-- The fixture of the customers and orders. -/
def fixture : Fixture where
  schema := MemoryStore.Sample.schema
  rows := [MemoryStore.Sample.orderRow, MemoryStore.Sample.customerRow]
  commit := true

end Sample

/-- The customer may be written before its order as well. -/
theorem loads_in_any_order_of_sample :
    let rows := Sample.document.rows.reverse
    let fixture :=
      { Sample.fixture with rows := Sample.fixture.rows.reverse }
    Sample.document.WellFormed ∧
      ofDocument { Sample.document with rows } = .ok fixture ∧
        ∃ store,
          (Sample.fixture.load "session" .exact).1 = .ok store ∧
            Shows Sample.document Sample.fixture store ∧
              (fixture.load "session" .exact).1 = .ok store := by
  intro rows fixture
  have made : ofDocument Sample.document = .ok Sample.fixture := rfl
  have madeToo : ofDocument { Sample.document with rows } = .ok fixture := rfl
  rcases loads_in_any_order Sample.document (by decide) "session" .exact with
    ⟨accepted, loads, reorders⟩
  rcases loads Sample.fixture made with ⟨-, loaded, shows⟩
  rcases loaded.2 (by decide) with ⟨store, ok⟩
  have same :=
    (reorders rows (List.reverse_perm _)).2 Sample.fixture fixture made madeToo
  exact ⟨accepted.1 ⟨_, made⟩, madeToo, store, ok, shows store ok,
    (same store).2 ok⟩

end HierQuery.Fixture
