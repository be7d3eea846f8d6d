import HierQuery.Proofs.Schema.Requests
import Mathlib.Data.List.Induction

/-!
# What schemas hand out

All that a schema ever handed out is set against what it knows in the end.
Every request adds what it hands out to the list, and to the count the numbers
that it used up, whether it was refused or not.

As long as the count stays below the size of the numbers, no number is issued
twice.  Then the names and the numbers of row types, tables and groups tell
them apart, and the places of the tables agree with the members of the groups.
-/

namespace HierQuery.Schema

/-! ## One request -/

/-- The row type that was handed out, if any. -/
def handed : Except ExecError RowType → List RowType
  | .ok rowType => [rowType]
  | .error _ => []

/-- How many numbers were issued, if none was issued twice. -/
def total (schema : Schema) : Nat :=
  schema.lastTypeId.toNat + schema.lastTableId.toNat +
    schema.lastGroupId.toNat

theorem rowTypes_joinGroup
    (schema : Schema)
    (group : GroupId)
    (table : TableId) :
    (schema.joinGroup group table).groups.map GroupTable.rowType =
      schema.groups.map GroupTable.rowType := by
  rw [Schema.joinGroup, List.map_map]
  apply List.map_congr_left
  intro candidate _
  rw [Function.comp_apply]
  split <;> rfl

section

variable
  {schema after : Schema}
  {request : Request}
  {answer : Except ExecError RowType}
  {numbers : Nat}

/-- The numbers of a request are what it adds to those that were issued. -/
theorem Serves.total_eq
    (serves : Serves schema request answer after numbers)
    (few : schema.total + numbers < UInt32.size) :
    after.total = schema.total + numbers := by
  unfold total at few ⊢
  cases serves with
  | taken =>
      rfl
  | computed | orphan =>
      dsimp only
      rw [toNat_succ (by omega)]
      omega
  | root =>
      have first :
          (schema.lastTypeId + 1).toNat = schema.lastTypeId.toNat + 1 :=
        toNat_succ (by omega)
      have second :
          (schema.lastTypeId + 1 + 1).toNat =
            (schema.lastTypeId + 1).toNat + 1 :=
        toNat_succ (by omega)
      rw [second, first, toNat_succ (by omega), toNat_succ (by omega)]
      omega
  | child =>
      dsimp only
      rw [toNat_succ (by omega), toNat_succ (by omega)]
      omega

/-- The tables of a schema are the table types that it handed out. -/
theorem Serves.tables_eq
    (serves : Serves schema request answer after numbers) :
    after.tables =
      schema.tables ++ (handed answer).filter RowType.isTable := by
  cases serves with
  | computed | taken | orphan =>
      exact (List.append_nil _).symm
  | root | child =>
      rfl

/-- A table is registered under a name that was free. -/
theorem Serves.names_nodup
    (serves : Serves schema request answer after numbers)
    (distinct : (schema.tables.map RowType.name).Nodup) :
    (after.tables.map RowType.name).Nodup := by
  have snoc
      {name : String}
      {rowType : RowType}
      (free : schema.tableNamed? name = none)
      (itsName : rowType.name = name) :
      ((schema.tables ++ [rowType]).map RowType.name).Nodup := by
    rw [List.map_append, List.map_singleton]
    refine List.nodup_append.2 ⟨distinct, List.nodup_singleton _, ?_⟩
    intro other listed last isLast same
    rcases List.mem_map.1 listed with ⟨table, known, rfl⟩
    rw [List.mem_singleton.1 isLast, itsName] at same
    exact List.find?_eq_none.1 free table known (beq_iff_eq.2 same)
  cases serves with
  | computed | taken | orphan =>
      exact distinct
  | root free | child free =>
      exact snoc free rfl

/-- The row types that a request issues, its group's among them, have numbers not issued before. -/
theorem Serves.exists_fresh
    (serves : Serves schema request answer after numbers)
    (few : schema.total + numbers < UInt32.size) :
    ∃ fresh : List RowType,
      (handed answer ++ after.groups.map GroupTable.rowType).Perm
          (fresh ++ schema.groups.map GroupTable.rowType) ∧
        (fresh.map RowType.typeId).Nodup ∧
          (∀ rowType ∈ fresh,
            schema.lastTypeId.toNat < rowType.typeId.toNat ∧
              rowType.typeId.toNat ≤ after.lastTypeId.toNat) ∧
            schema.lastTypeId.toNat ≤ after.lastTypeId.toNat := by
  unfold total at few
  cases serves with
  | taken | orphan =>
      exact ⟨[], .refl _, .nil, nofun, Nat.le_refl _⟩
  | computed =>
      have next :
          (schema.lastTypeId + 1).toNat = schema.lastTypeId.toNat + 1 :=
        toNat_succ (by omega)
      refine
        ⟨[⟨schema.lastTypeId + 1, _, _, .values⟩], .refl _,
          List.nodup_singleton _, ?_, by dsimp only; omega⟩
      intro rowType isNew
      rw [List.mem_singleton.1 isNew]
      exact ⟨by dsimp only; omega, Nat.le_refl _⟩
  | @child name columns parent place =>
      have next :
          (schema.lastTypeId + 1).toNat = schema.lastTypeId.toNat + 1 :=
        toNat_succ (by omega)
      refine
        ⟨[schema.nextChild name columns parent place.group], ?_,
          List.nodup_singleton _, ?_, by dsimp only; omega⟩
      · rw [rowTypes_joinGroup]
        exact .refl _
      · intro rowType isNew
        rw [List.mem_singleton.1 isNew]
        exact ⟨by dsimp only [nextChild]; omega, Nat.le_refl _⟩
  | @root name columns =>
      have next :
          (schema.lastTypeId + 1).toNat = schema.lastTypeId.toNat + 1 :=
        toNat_succ (by omega)
      have afterNext :
          (schema.lastTypeId + 1 + 1).toNat =
            (schema.lastTypeId + 1).toNat + 1 :=
        toNat_succ (by omega)
      refine
        ⟨[schema.nextRoot name columns, (schema.nextGroup name).rowType], ?_,
          ?_, ?_, by dsimp only; omega⟩
      · rw [List.map_append, List.map_singleton]
        exact
          (List.perm_append_singleton (schema.nextGroup name).rowType _).cons
            (schema.nextRoot name columns)
      · refine List.nodup_cons.2 ⟨?_, List.nodup_singleton _⟩
        intro same
        have sameNumber :=
          congrArg UInt32.toNat (List.mem_singleton.1 same)
        dsimp only [nextRoot, nextGroup] at sameNumber
        omega
      · intro rowType isNew
        rcases List.mem_cons.1 isNew with rfl | isGroup
        · exact ⟨by dsimp only [nextRoot]; omega, Nat.le_refl _⟩
        · rw [List.mem_singleton.1 isGroup]
          dsimp only [nextGroup]
          omega

theorem Arranged.serves
    (arranged : schema.Arranged)
    (serves : Serves schema request answer after numbers)
    (few : schema.total + numbers < UInt32.size) :
    after.Arranged := by
  unfold total at few
  cases serves with
  | taken =>
      exact arranged
  | computed =>
      exact arranged.of_same rfl rfl (Nat.le_refl _) (Nat.le_refl _)
  | orphan =>
      refine arranged.of_same rfl rfl ?_ (Nat.le_refl _)
      rw [toNat_succ (by omega)]
      exact Nat.le_succ _
  | root =>
      exact arranged.root (by omega) (by omega) rfl rfl rfl rfl
  | child _ known =>
      exact arranged.child (by omega) known rfl rfl rfl rfl

/-- A refused request leaves every table and every group to be found as before. -/
theorem Serves.lookups_of_error
    {error : ExecError}
    (serves : Serves schema request (.error error) after numbers) :
    after.table? = schema.table? ∧
      after.tableNamed? = schema.tableNamed? ∧
        after.group? = schema.group? ∧
          after.groupOf? = schema.groupOf? := by
  rcases serves.of_error with ⟨tables, groups⟩
  have table? : after.table? = schema.table? := by
    funext table
    rw [Schema.table?, tables, Schema.table?]
  have group? : after.group? = schema.group? := by
    funext group
    rw [Schema.group?, groups, Schema.group?]
  refine ⟨table?, ?_, group?, ?_⟩
  · funext name
    rw [tableNamed?, tables, tableNamed?]
  · funext table
    rw [groupOf?, table?, group?, groupOf?]

end

/-! ## Any number of requests -/

/-- A schema with all row types that it handed out and the count of its numbers. -/
structure Issuing where
  schema : Schema := .empty
  /-- The row types of the requests that were not refused, in order. -/
  handedOut : List RowType := []
  issued : Nat := 0

namespace Issuing

/-- What one more request makes of it. -/
def serve (issuing : Issuing) (request : Request) : Issuing where
  schema := (issuing.schema.answer request).2
  handedOut := issuing.handedOut ++ handed (issuing.schema.answer request).1
  issued := issuing.issued + issuing.schema.cost request

/-- A new schema after the given requests. -/
def serveAll (requests : List Request) : Issuing :=
  requests.foldl serve {}

/-- All row types that were issued: of tables and computed rows, and of groups. -/
def types (issuing : Issuing) : List RowType :=
  issuing.handedOut ++ issuing.schema.groups.map GroupTable.rowType

/-- What the numbers and the tables keep to while the numbers last. -/
structure Regular (issuing : Issuing) : Prop where
  total : issuing.schema.total = issuing.issued
  distinct : (issuing.types.map RowType.typeId).Nodup
  issuedTypes :
    ∀ rowType ∈ issuing.types,
      rowType.typeId.toNat ≤ issuing.schema.lastTypeId.toNat
  tables : issuing.schema.tables = issuing.handedOut.filter RowType.isTable
  names : (issuing.schema.tables.map RowType.name).Nodup
  arranged : issuing.schema.Arranged

theorem regular_empty : Regular {} where
  total := rfl
  distinct := .nil
  issuedTypes := nofun
  tables := rfl
  names := .nil
  arranged := arranged_empty

/-- What is issued next differs from all that was issued before. -/
theorem Regular.types_serve
    {issuing : Issuing}
    (regular : issuing.Regular)
    (request : Request)
    (few : (issuing.serve request).issued < UInt32.size) :
    ((issuing.serve request).types.map RowType.typeId).Nodup ∧
      ∀ rowType ∈ (issuing.serve request).types,
        rowType.typeId.toNat ≤
          (issuing.serve request).schema.lastTypeId.toNat := by
  rcases (issuing.schema.serves request).exists_fresh
      (by rw [regular.total]; exact few) with
    ⟨fresh, perm, distinct, next, grows⟩
  have issuedNow : (issuing.serve request).types.Perm (fresh ++ issuing.types) := by
    rw [types, types, serve, List.append_assoc]
    exact (perm.append_left _).trans (List.perm_append_comm_assoc _ _ _)
  constructor
  · rw [(issuedNow.map RowType.typeId).nodup_iff, List.map_append]
    refine List.nodup_append.2 ⟨distinct, regular.distinct, ?_⟩
    intro number isNew other isOld same
    rcases List.mem_map.1 isNew with ⟨newType, new, rfl⟩
    rcases List.mem_map.1 isOld with ⟨oldType, old, rfl⟩
    have above := (next newType new).1
    rw [same] at above
    exact Nat.not_lt.2 (regular.issuedTypes oldType old) above
  · intro rowType listed
    rcases List.mem_append.1 (issuedNow.mem_iff.1 listed) with new | old
    · exact (next rowType new).2
    · exact Nat.le_trans (regular.issuedTypes rowType old) grows

theorem Regular.serve
    {issuing : Issuing}
    (regular : issuing.Regular)
    (request : Request)
    (few : (issuing.serve request).issued < UInt32.size) :
    (issuing.serve request).Regular := by
  have serves := issuing.schema.serves request
  have enough :
      issuing.schema.total + issuing.schema.cost request < UInt32.size := by
    rw [regular.total]
    exact few
  have types := regular.types_serve request few
  exact
    { total :=
        (serves.total_eq enough).trans
          (congrArg (· + issuing.schema.cost request) regular.total)
      distinct := types.1
      issuedTypes := types.2
      tables := by
        rw [Issuing.serve, serves.tables_eq, regular.tables,
          List.filter_append]
      names := serves.names_nodup regular.names
      arranged := regular.arranged.serves serves enough }

theorem serveAll_snoc (requests : List Request) (request : Request) :
    serveAll (requests ++ [request]) = (serveAll requests).serve request :=
  List.foldl_append

theorem regular_serveAll
    (requests : List Request)
    (few : (serveAll requests).issued < UInt32.size) :
    (serveAll requests).Regular := by
  induction requests using List.reverseRecOn with
  | nil =>
      exact regular_empty
  | append_singleton requests request ih =>
      rw [serveAll_snoc] at few ⊢
      exact
        (ih (Nat.lt_of_le_of_lt (Nat.le_add_right _ _) few)).serve request few

end Issuing

/-! ## The groups -/

/-- The row types of the groups tell the numbers of the groups. -/
def TellsGroups (schema : Schema) : Prop :=
  ∀ group ∈ schema.groups, group.rowType.kind = .group group.id

theorem TellsGroups.serves
    {schema after : Schema}
    {request : Request}
    {answer : Except ExecError RowType}
    {numbers : Nat}
    (tells : schema.TellsGroups)
    (serves : Serves schema request answer after numbers) :
    after.TellsGroups := by
  intro group listed
  cases serves with
  | computed | taken | orphan =>
      exact tells group listed
  | root =>
      rcases List.mem_append.1 listed with old | new
      · exact tells group old
      · rw [List.mem_singleton.1 new]
        rfl
  | child =>
      rcases exists_former listed with ⟨former, known, sameId, -, sameType, -⟩
      rw [sameId, sameType]
      exact tells former known

/-- They do even if the numbers run over. -/
theorem tellsGroups_serveAll (requests : List Request) :
    (Issuing.serveAll requests).schema.TellsGroups := by
  induction requests using List.reverseRecOn with
  | nil =>
      exact nofun
  | append_singleton requests request ih =>
      rw [Issuing.serveAll_snoc]
      exact ih.serves ((Issuing.serveAll requests).schema.serves request)

/-- A group of some schema, whatever was asked of the schema. -/
def IssuedGroup (group : GroupTable) : Prop :=
  ∃ requests, group ∈ (Issuing.serveAll requests).schema.groups

theorem IssuedGroup.kind
    {group : GroupTable}
    (issued : IssuedGroup group) :
    group.rowType.kind = .group group.id := by
  rcases issued with ⟨requests, listed⟩
  exact tellsGroups_serveAll requests group listed

/-! ## What can be looked up -/

/--
Everything that says where a table lies says the same: its own place, the group
that is found for it and the only group that lists it.  Its parent is a table
of that group with a smaller number, and the way up ends at the group's root.
-/
structure LiesIn
    (schema : Schema)
    (rowType : RowType)
    (place : Placement)
    (group : GroupTable) :
    Prop where
  placed : rowType.placement? = some place
  found : schema.table? place.table = some rowType
  home : schema.groupOf? place.table = some group
  named : group.id = place.group
  only :
    ∀ other ∈ schema.groups,
      place.table ∈ other.tables ↔ other = group
  parent :
    ∀ parent, place.parent? = some parent →
      parent.value < place.table.value ∧
        ∃ upper upperPlace,
          schema.table? parent = some upper ∧
            upper.placement? = some upperPlace ∧
              upperPlace.group = place.group
  line :
    ∃ line,
      schema.Descends rowType line ∧
        line.head?.bind RowType.table? = some group.root

/--
A group lists the tables that lie in it in the order of registration and each
of them once.  Its root is the first of them and alone has no parent.
-/
structure Lists (schema : Schema) (group : GroupTable) : Prop where
  found : schema.group? group.id = some group
  kind : group.rowType.kind = .group group.id
  members : group.tables = (schema.placesIn group.id).map Placement.table
  distinct : group.tables.Nodup
  head : group.tables.head? = some group.root
  root :
    ∀ place ∈ schema.placesIn group.id,
      place.parent? = none ↔ place.table = group.root

theorem Arranged.group?_of_mem
    {schema : Schema}
    (arranged : schema.Arranged)
    {group : GroupTable}
    (known : group ∈ schema.groups) :
    schema.group? group.id = some group :=
  arranged.numbered.group?_of_mem known

theorem Arranged.liesIn
    {schema : Schema}
    (arranged : schema.Arranged)
    {rowType : RowType}
    (listed : rowType ∈ schema.tables) :
    ∃ place, ∃ group ∈ schema.groups, LiesIn schema rowType place group := by
  rcases arranged.placed rowType listed with ⟨place, itsPlace⟩
  have isPlace := mem_places listed itsPlace
  have found :=
    arranged.numbered.table?_of_mem listed (table?_of_placed itsPlace)
  rcases arranged.homes place isPlace with ⟨group, known, itsId⟩
  refine ⟨place, group, known, ?_⟩
  constructor
  case placed => exact itsPlace
  case found => exact found
  case home =>
    simp [groupOf?, found, itsPlace, ← itsId, arranged.group?_of_mem known]
  case named => exact itsId
  case only =>
    intro other alsoKnown
    rw [arranged.mem_tables_iff alsoKnown isPlace, ← itsId]
    constructor
    · intro same
      exact List.inj_on_of_nodup_map arranged.groups alsoKnown known same.symm
    · rintro rfl
      rfl
  case parent =>
    intro parent isChild
    rcases arranged.parents place isPlace parent isChild with
      ⟨upperPlace, isUpper, sameTable, sameGroup, below⟩
    rcases List.mem_filterMap.1 isUpper with ⟨upper, alsoListed, upperPlaced⟩
    refine ⟨below, upper, upperPlace, ?_, upperPlaced, sameGroup⟩
    exact arranged.numbered.table?_of_mem alsoListed
      (by rw [table?_of_placed upperPlaced, sameTable])
  case line => exact arranged.exists_line listed itsPlace known itsId

theorem Arranged.lists
    {schema : Schema}
    (arranged : schema.Arranged)
    {group : GroupTable}
    (known : group ∈ schema.groups) :
    Lists schema group := by
  have first := arranged.first group known
  have isFirst : ⟨group.root, none, group.id⟩ ∈ schema.placesIn group.id :=
    List.mem_of_head? first
  constructor
  case found => exact arranged.group?_of_mem known
  case kind => exact arranged.kinds group known
  case members => exact arranged.members group known
  case distinct =>
    rw [arranged.members group known, List.Nodup, List.pairwise_map]
    refine (arranged.ascending.filter _).imp ?_
    intro lower higher below same
    rw [same] at below
    exact UInt32.lt_irrefl _ below
  case head =>
    rw [arranged.members group known, List.head?_map, first, Option.map_some]
  case root =>
    intro place lies
    rcases List.mem_filter.1 lies with ⟨isPlace, itsGroup⟩
    constructor
    · intro parentless
      rcases arranged.roots place isPlace parentless with
        ⟨home, alsoKnown, homeId, root⟩
      have same : home = group :=
        List.inj_on_of_nodup_map arranged.groups alsoKnown known
          (homeId.trans (beq_iff_eq.1 itsGroup))
      rw [← same, root]
    · intro isRoot
      rw [arranged.eq_of_table isPlace (List.mem_of_mem_filter isFirst) isRoot]

/--
All row types that were ever issued have different numbers, and the table types
among those handed out are the tables of the schema.  A name finds the only
table that has it.  Tables and groups agree, and a refused request leaves
everything that can be looked up as it was.
-/
structure Orderly (issuing : Issuing) : Prop where
  total : issuing.schema.total = issuing.issued
  typeIds : (issuing.types.map RowType.typeId).Nodup
  tables : issuing.schema.tables = issuing.handedOut.filter RowType.isTable
  names : (issuing.schema.tables.map RowType.name).Nodup
  named :
    ∀ name rowType,
      issuing.schema.tableNamed? name = some rowType ↔
        rowType ∈ issuing.schema.tables ∧ rowType.name = name
  placed :
    ∀ rowType ∈ issuing.schema.tables,
      ∃ place, ∃ group ∈ issuing.schema.groups,
        LiesIn issuing.schema rowType place group
  lists : ∀ group ∈ issuing.schema.groups, Lists issuing.schema group
  refused :
    ∀ request error after,
      issuing.schema.answer request = (.error error, after) →
        after.tables = issuing.schema.tables ∧
          after.groups = issuing.schema.groups ∧
            after.table? = issuing.schema.table? ∧
              after.tableNamed? = issuing.schema.tableNamed? ∧
                after.group? = issuing.schema.group? ∧
                  after.groupOf? = issuing.schema.groupOf?

/-- A name finds a table if and only if it is the name of that table. -/
theorem Issuing.Regular.tableNamed?_eq_some_iff
    {issuing : Issuing}
    (regular : issuing.Regular)
    (name : String)
    (rowType : RowType) :
    issuing.schema.tableNamed? name = some rowType ↔
      rowType ∈ issuing.schema.tables ∧ rowType.name = name := by
  have sound {other : RowType}
      (found : issuing.schema.tableNamed? name = some other) :
      other ∈ issuing.schema.tables ∧ other.name = name :=
    ⟨List.mem_of_find?_eq_some found, by simpa using List.find?_some found⟩
  constructor
  · exact sound
  · rintro ⟨listed, itsName⟩
    have isFound : (issuing.schema.tableNamed? name).isSome :=
      List.find?_isSome.2 ⟨rowType, listed, beq_iff_eq.2 itsName⟩
    rcases Option.isSome_iff_exists.1 isFound with ⟨other, found⟩
    rw [found, List.inj_on_of_nodup_map regular.names (sound found).1 listed
      ((sound found).2.trans itsName.symm)]

/-- As long as the numbers last, a schema stays in order whatever is asked of it. -/
theorem orderly_serveAll
    (requests : List Request)
    (few : (Issuing.serveAll requests).issued < UInt32.size) :
    Orderly (Issuing.serveAll requests) := by
  have regular := Issuing.regular_serveAll requests few
  constructor
  case total => exact regular.total
  case typeIds => exact regular.distinct
  case tables => exact regular.tables
  case names => exact regular.names
  case named => exact regular.tableNamed?_eq_some_iff
  case placed => exact fun _ listed => regular.arranged.liesIn listed
  case lists => exact fun _ known => regular.arranged.lists known
  case refused =>
    intro request error after refusal
    have serves := (Issuing.serveAll requests).schema.serves request
    rw [refusal] at serves
    rcases serves.of_error with ⟨tables, groups⟩
    exact ⟨tables, groups, serves.lookups_of_error⟩

/-- Two groups, a taken name, an unknown parent and a computed row type. -/
def sampleRequests : List Request :=
  [.table "customer" [] none,
    .computed "total" [⟨"n", .int⟩],
    .table "order" [⟨"id", .int⟩] (some ⟨1⟩),
    .table "order" [] none,
    .table "item" [] (some ⟨9⟩),
    .table "item" [] (some ⟨2⟩),
    .table "note" [] none]

theorem orderly_sampleRequests :
    (Issuing.serveAll sampleRequests).issued = 14 ∧
      Orderly (Issuing.serveAll sampleRequests) := by
  have issued : (Issuing.serveAll sampleRequests).issued = 14 := by
    decide
  exact ⟨issued, orderly_serveAll sampleRequests (by rw [issued]; decide)⟩

end HierQuery.Schema
