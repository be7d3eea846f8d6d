import HierQuery.Cli.Run
import HierQuery.Proofs.Fixture.Loading

/-!
# Planning scans

The request of a scan gives texts: the options, the fixture, the name of a
table and a key.  If each makes sense, the request has an aim and a plan is
made for it.  Else the request is refused, and the failure is that of the first
text which makes no sense.  There is no third way.
-/

namespace HierQuery.Cli

open Fixture Schema

/-! ## Options and fixtures -/

/-- A text is read from a file that has its bytes. -/
theorem Surroundings.readText_eq_ok
    {surroundings : Surroundings}
    {path text : String}
    (file : surroundings.file path = .ok text.toUTF8) :
    surroundings.readText path = .ok text := by
  have decoded : String.fromUTF8? text.toUTF8 = some text :=
    dif_pos text.isValidUTF8
  rw [readText, file]
  dsimp only
  rw [decoded]

section

variable (surroundings : Surroundings)

/-- The options that a request has: the default ones or valid ones that a file spells. -/
inductive Configures : Option String → Config → Prop
  | default : Configures none {}
  | spelled
      {path text : String}
      {config : Config}
      (readable : surroundings.readText path = .ok text)
      (decoded : (Json.read text).bind Config.ofJson? = some config)
      (someRows : config.maxRows ≠ some 0) :
      Configures (some path) config

/-- Why a file does not give options. -/
inductive Misconfigures : Option String → Error → Prop
  | unreadable
      {path report : String}
      (refused : surroundings.readText path = .error report) :
      Misconfigures (some path) (.ofConfig (.read path report))
  | undecoded
      {path text : String}
      (readable : surroundings.readText path = .ok text)
      (noOptions : (Json.read text).bind Config.ofJson? = none) :
      Misconfigures (some path) (.ofConfig .parse)
  | noRows
      {path text : String}
      {config : Config}
      (readable : surroundings.readText path = .ok text)
      (decoded : (Json.read text).bind Config.ofJson? = some config)
      (zero : config.maxRows = some 0) :
      Misconfigures (some path) (.ofConfig (.invalid "max_rows must be > 0"))

/-- The fixture that the document in a file makes. -/
inductive Supplies (path : String) : Fixture → Prop
  | made
      {text : String}
      {document : Document}
      {fixture : Fixture}
      (readable : surroundings.readText path = .ok text)
      (decoded : Document.read? text = some document)
      (accepted : ofDocument document = .ok fixture) :
      Supplies path fixture

/-- Why a file does not give a fixture. -/
inductive Withholds (path : String) : Error → Prop
  | unreadable
      {report : String}
      (refused : surroundings.readText path = .error report) :
      Withholds path (.ofFixture (.read path report))
  | undecoded
      {text : String}
      (readable : surroundings.readText path = .ok text)
      (noDocument : Document.read? text = none) :
      Withholds path (.ofFixture .parse)
  | unaccepted
      {text : String}
      {document : Document}
      {error : FixtureError}
      (readable : surroundings.readText path = .ok text)
      (decoded : Document.read? text = some document)
      (refused : ofDocument document = .error error) :
      Withholds path (.ofFixture error)

end

section

variable {surroundings : Surroundings}

theorem Configures.loadConfig
    {path? : Option String}
    {config : Config}
    (configures : Configures surroundings path? config) :
    loadConfig surroundings path? = .ok config := by
  cases configures with
  | default =>
      rfl
  | spelled readable decoded someRows =>
      simp [Cli.loadConfig, readable, Config.read, decoded, Config.validate,
        someRows, Except.mapError]

theorem Misconfigures.loadConfig
    {path? : Option String}
    {error : Error}
    (misconfigures : Misconfigures surroundings path? error) :
    loadConfig surroundings path? = .error error := by
  cases misconfigures with
  | unreadable refused =>
      simp [Cli.loadConfig, refused]
  | undecoded readable noOptions =>
      simp [Cli.loadConfig, readable, Config.read, noOptions, Except.mapError]
  | noRows readable decoded zero =>
      simp [Cli.loadConfig, readable, Config.read, decoded, Config.validate,
        zero, Except.mapError]

theorem configures_or_misconfigures
    (surroundings : Surroundings)
    (path? : Option String) :
    (∃ config, Configures surroundings path? config) ∨
      ∃ error, Misconfigures surroundings path? error := by
  cases path? with
  | none =>
      exact .inl ⟨_, .default⟩
  | some path =>
      cases readable : surroundings.readText path with
      | error report =>
          exact .inr ⟨_, .unreadable readable⟩
      | ok text =>
          cases decoded : (Json.read text).bind Config.ofJson? with
          | none =>
              exact .inr ⟨_, .undecoded readable decoded⟩
          | some config =>
              by_cases zero : config.maxRows = some 0
              · exact .inr ⟨_, .noRows readable decoded zero⟩
              · exact .inl ⟨_, .spelled readable decoded zero⟩

theorem Supplies.loadFixture
    {path : String}
    {fixture : Fixture}
    (supplies : Supplies surroundings path fixture) :
    loadFixture surroundings path = .ok fixture := by
  rcases supplies with ⟨readable, decoded, accepted⟩
  simp [Cli.loadFixture, readable, Fixture.read, decoded, accepted,
    Except.mapError]

theorem Withholds.loadFixture
    {path : String}
    {error : Error}
    (withholds : Withholds surroundings path error) :
    loadFixture surroundings path = .error error := by
  cases withholds with
  | unreadable refused =>
      simp [Cli.loadFixture, refused]
  | undecoded readable noDocument =>
      simp [Cli.loadFixture, readable, Fixture.read, noDocument,
        Except.mapError]
  | unaccepted readable decoded refused =>
      simp [Cli.loadFixture, readable, Fixture.read, decoded, refused,
        Except.mapError]

theorem supplies_or_withholds
    (surroundings : Surroundings)
    (path : String) :
    (∃ fixture, Supplies surroundings path fixture) ∨
      ∃ error, Withholds surroundings path error := by
  cases readable : surroundings.readText path with
  | error report =>
      exact .inr ⟨_, .unreadable readable⟩
  | ok text =>
      cases decoded : Document.read? text with
      | none =>
          exact .inr ⟨_, .undecoded readable decoded⟩
      | some document =>
          cases made : ofDocument document with
          | error error =>
              exact .inr ⟨_, .unaccepted readable decoded made⟩
          | ok fixture =>
              exact .inl ⟨_, .made readable decoded made⟩

theorem Supplies.coherent
    {path : String}
    {fixture : Fixture}
    (supplies : Supplies surroundings path fixture) :
    fixture.Coherent := by
  rcases supplies with ⟨-, -, accepted⟩
  exact coherent_of_ofDocument accepted

end

/-! ## Tables and keys -/

/-- The table that a request names; a request without a name means the first one. -/
inductive Selects (schema : Schema) : Option String → RowType → Prop
  | named
      {name : String}
      {rowType : RowType}
      (known : schema.tableNamed? name = some rowType) :
      Selects schema (some name) rowType
  | first
      {rowType : RowType}
      (heads : schema.tables.head? = some rowType) :
      Selects schema none rowType

/-- Why a request means no table. -/
inductive SelectsNone (schema : Schema) : Option String → Error → Prop
  | unknown
      {name : String}
      (unknown : schema.tableNamed? name = none) :
      SelectsNone schema (some name) (.unknownTable name)
  | noTables
      (empty : schema.tables = []) :
      SelectsNone schema none .noTables

/-- The values that the text of a key spells, level by level. -/
def levelsOfText? (text : String) : Option (List (List Value)) :=
  (Json.read text).bind levelsOfJson?

/--
The key to start a scan at, if the request has one: its text has a list of
values for each table from the root down to the table of the request.
-/
inductive Starts
    (schema : Schema)
    (rowType : RowType) :
    Option String → Option HKey → Prop
  | anywhere : Starts schema rowType none none
  | spelled
      {text : String}
      {levels : List (List Value)}
      {line : List RowType}
      (decoded : levelsOfText? text = some levels)
      (descends : schema.Descends rowType line)
      (asMany : line.length = levels.length) :
      Starts schema rowType (some text) (some (keyOf line levels))

/-- Why the text of a key is none of a row of the table. -/
inductive Misplaces
    (schema : Schema)
    (rowType : RowType) :
    Option String → Error → Prop
  | malformed
      {text : String}
      (noLevels : levelsOfText? text = none) :
      Misplaces schema rowType (some text) .malformedKey
  | depth
      {text : String}
      {levels : List (List Value)}
      {line : List RowType}
      (decoded : levelsOfText? text = some levels)
      (descends : schema.Descends rowType line)
      (others : line.length ≠ levels.length) :
      Misplaces schema rowType (some text)
        (.ofFixture (.keyDepth rowType.name line.length levels.length))

section

variable
  {fixture : Fixture}
  {rowType : RowType}

theorem Selects.mem
    {schema : Schema}
    {name? : Option String}
    (selects : Selects schema name? rowType) :
    rowType ∈ schema.tables := by
  cases selects with
  | named known =>
      exact List.mem_of_find?_eq_some known
  | first heads =>
      exact List.mem_of_mem_head? (Option.mem_def.2 heads)

theorem Selects.scannedTable
    {name? : Option String}
    (hierarchy : Hierarchy fixture.schema)
    (selects : Selects fixture.schema name? rowType) :
    Job.scannedTable fixture name? = .ok rowType := by
  cases selects with
  | named known =>
      simp [Job.scannedTable, Job.tableNamed, known]
  | first heads =>
      simp [Job.scannedTable, hierarchy.table?_first, heads]

theorem SelectsNone.scannedTable
    {name? : Option String}
    {error : Error}
    (hierarchy : Hierarchy fixture.schema)
    (selectsNone : SelectsNone fixture.schema name? error) :
    Job.scannedTable fixture name? = .error error := by
  cases selectsNone with
  | unknown unknown =>
      simp [Job.scannedTable, Job.tableNamed, unknown]
  | noTables empty =>
      simp [Job.scannedTable, hierarchy.table?_first, empty]

theorem selects_or_selectsNone
    (schema : Schema)
    (name? : Option String) :
    (∃ rowType, Selects schema name? rowType) ∨
      ∃ error, SelectsNone schema name? error := by
  cases name? with
  | none =>
      cases heads : schema.tables.head? with
      | none =>
          exact .inr ⟨_, .noTables (List.head?_eq_none_iff.1 heads)⟩
      | some rowType =>
          exact .inl ⟨rowType, .first heads⟩
  | some name =>
      cases known : schema.tableNamed? name with
      | none =>
          exact .inr ⟨_, .unknown known⟩
      | some rowType =>
          exact .inl ⟨rowType, .named known⟩

theorem starts_or_misplaces
    {schema : Schema}
    (hierarchy : Hierarchy schema)
    (listed : rowType ∈ schema.tables)
    (text? : Option String) :
    (∃ start?, Starts schema rowType text? start?) ∨
      ∃ error, Misplaces schema rowType text? error := by
  cases text? with
  | none =>
      exact .inl ⟨none, .anywhere⟩
  | some text =>
      cases decoded : levelsOfText? text with
      | none =>
          exact .inr ⟨_, .malformed decoded⟩
      | some levels =>
          rcases hierarchy.descends rowType listed with ⟨line, descends, -⟩
          by_cases asMany : line.length = levels.length
          · exact .inl ⟨_, .spelled decoded descends asMany⟩
          · exact .inr ⟨_, .depth decoded descends asMany⟩

theorem Misplaces.scanMode
    (hierarchy : Hierarchy fixture.schema)
    (listed : rowType ∈ fixture.schema.tables)
    {request : ScanRequest}
    {error : Error}
    (misplaces : Misplaces fixture.schema rowType request.key? error) :
    Job.scanMode fixture rowType request = .error error := by
  rw [Job.scanMode]
  generalize request.key? = text? at misplaces ⊢
  cases misplaces with
  | malformed noLevels =>
      rw [levelsOfText?] at noLevels
      simp only [Job.readKey, noLevels]
      rfl
  | depth decoded descends others =>
      rw [levelsOfText?] at decoded
      simp only [Job.readKey, decoded,
        hierarchy.placeKey_eq listed descends, if_neg others]
      rfl

end

/-! ## Aims -/

/-- What a scan is to do. -/
structure Aim where
  config : Config
  fixture : Fixture
  rowType : RowType
  /-- The key to start at, if not all rows are to be visited. -/
  start? : Option HKey
  reach : Reach

namespace Aim

/-- The mode of the scan. -/
def mode (aim : Aim) : GroupScan.Mode :=
  match aim.start? with
  | none => .full
  | some _ => .positional 0 aim.reach

/-- The bindings to open the scan with. -/
def bindings (aim : Aim) : Bindings :=
  match aim.start? with
  | none => .reserve 0
  | some key => ⟨[some (.key key)]⟩

/-- The limit of the scan. -/
def limit (aim : Aim) : Limit :=
  match aim.config.maxRows with
  | none => .unlimited
  | some most => .rows most

/-- The scan of a group. -/
def scan (aim : Aim) (group : GroupTable) : GroupScan :=
  { group, mode := aim.mode, limit := aim.limit }

/-- The scan with all that it takes to run it. -/
def job (aim : Aim) (group : GroupTable) : Job where
  fixture := aim.fixture
  plan := .scan (aim.scan group)
  bindings := aim.bindings

/-- The keys that the scan visits. -/
def range (aim : Aim) : KeyRange :=
  match aim.start? with
  | none => .whole
  | some key => .reaching aim.reach key

/-- The group in which the table of the aim lies. -/
def Within (aim : Aim) (group : GroupTable) : Prop :=
  aim.rowType.table?.bind aim.fixture.schema.groupOf? = some group

end Aim

section

variable (surroundings : Surroundings)

/-- A request comes down to an aim. -/
structure Aims (request : ScanRequest) (aim : Aim) : Prop where
  config : Configures surroundings request.config? aim.config
  fixture : Supplies surroundings request.fixture aim.fixture
  selects : Selects aim.fixture.schema request.table? aim.rowType
  starts : Starts aim.fixture.schema aim.rowType request.key? aim.start?
  reach : aim.reach = request.reach?.getD .deep

/-- Why a request has no aim.  What comes before the reason is as it should be. -/
inductive Refused (request : ScanRequest) : Error → Prop
  | config
      {error : Error}
      (misconfigures : Misconfigures surroundings request.config? error) :
      Refused request error
  | fixture
      {config : Config}
      {error : Error}
      (configures : Configures surroundings request.config? config)
      (withholds : Withholds surroundings request.fixture error) :
      Refused request error
  | table
      {config : Config}
      {fixture : Fixture}
      {error : Error}
      (configures : Configures surroundings request.config? config)
      (supplies : Supplies surroundings request.fixture fixture)
      (selectsNone : SelectsNone fixture.schema request.table? error) :
      Refused request error
  | key
      {config : Config}
      {fixture : Fixture}
      {rowType : RowType}
      {error : Error}
      (configures : Configures surroundings request.config? config)
      (supplies : Supplies surroundings request.fixture fixture)
      (selects : Selects fixture.schema request.table? rowType)
      (misplaces : Misplaces fixture.schema rowType request.key? error) :
      Refused request error

end

section

variable
  {surroundings : Surroundings}
  {request : ScanRequest}

/-- A request has an aim or is refused. -/
theorem aims_or_refused
    (surroundings : Surroundings)
    (request : ScanRequest) :
    (∃ aim, Aims surroundings request aim) ∨
      ∃ error, Refused surroundings request error := by
  rcases configures_or_misconfigures surroundings request.config? with
    ⟨config, configures⟩ | ⟨error, misconfigures⟩
  case inr => exact .inr ⟨error, .config misconfigures⟩
  rcases supplies_or_withholds surroundings request.fixture with
    ⟨fixture, supplies⟩ | ⟨error, withholds⟩
  case inr => exact .inr ⟨error, .fixture configures withholds⟩
  rcases selects_or_selectsNone fixture.schema request.table? with
    ⟨rowType, selects⟩ | ⟨error, selectsNone⟩
  case inr => exact .inr ⟨error, .table configures supplies selectsNone⟩
  rcases starts_or_misplaces supplies.coherent.hierarchy selects.mem
      request.key? with
    ⟨start?, starts⟩ | ⟨error, misplaces⟩
  case inr => exact .inr ⟨error, .key configures supplies selects misplaces⟩
  exact .inl
    ⟨⟨config, fixture, rowType, start?, request.reach?.getD .deep⟩,
      configures, supplies, selects, starts, rfl⟩

/-- No kind of refusal is a failure of the query. -/
theorem Refused.code
    {error : Error}
    (refused : Refused surroundings request error) :
    error.code = .config ∨ error.code = .fixture ∨ error.code = .argument := by
  cases refused with
  | config misconfigures =>
      generalize request.config? = path? at misconfigures
      cases misconfigures <;> exact .inl rfl
  | fixture _ withholds =>
      cases withholds <;> exact .inr (.inl rfl)
  | table _ _ selectsNone =>
      generalize request.table? = name? at selectsNone
      cases selectsNone <;> exact .inr (.inr rfl)
  | key _ _ _ misplaces =>
      generalize request.key? = text? at misplaces
      cases misplaces with
      | malformed =>
          exact .inr (.inr rfl)
      | depth =>
          exact .inr (.inl rfl)

theorem Aims.exists_group
    {aim : Aim}
    (aims : Aims surroundings request aim) :
    ∃ group, aim.Within group := by
  rcases aims.fixture.coherent.hierarchy.homed aims.selects.mem with
    ⟨table, group, itsTable, itsGroup⟩
  exact ⟨group, by rw [Aim.Within, itsTable, Option.bind_some, itsGroup]⟩

theorem Aims.scanMode
    {aim : Aim}
    (aims : Aims surroundings request aim) :
    Job.scanMode aim.fixture aim.rowType request =
      .ok (aim.mode, aim.bindings) := by
  rcases aim with ⟨config, fixture, rowType, start?, reach⟩
  rcases aims with ⟨-, supplies, selects, starts, rfl⟩
  dsimp only at supplies selects starts ⊢
  rw [Job.scanMode]
  generalize request.key? = text? at starts ⊢
  cases starts with
  | anywhere =>
      rfl
  | spelled decoded descends asMany =>
      rw [levelsOfText?] at decoded
      simp only [Job.readKey, decoded,
        supplies.coherent.hierarchy.placeKey_eq selects.mem descends,
        if_pos asMany]
      rfl

/-- The plan of a scan is made for its aim. -/
theorem Aims.ofScan
    {aim : Aim}
    (aims : Aims surroundings request aim)
    {group : GroupTable}
    (within : aim.Within group) :
    Job.ofScan aim.config aim.fixture request = .ok (aim.job group) := by
  have selected :=
    aims.selects.scannedTable aims.fixture.coherent.hierarchy
  rw [Aim.Within] at within
  simp only [Job.ofScan, selected, Job.groupOf, within, aims.scanMode, bind,
    Except.bind, Aim.job, Aim.scan, Aim.limit]
  cases aim.config.maxRows <;> rfl

/-- A refused request fails where the reason lies, before there is a plan. -/
theorem Refused.stops
    {error : Error}
    (refused : Refused surroundings request error) :
    loadConfig surroundings request.config? = .error error ∨
      ∃ config,
        loadConfig surroundings request.config? = .ok config ∧
          Command.prepare surroundings config (.scan request) =
            .error error := by
  cases refused with
  | config misconfigures =>
      exact .inl misconfigures.loadConfig
  | fixture configures withholds =>
      refine .inr ⟨_, configures.loadConfig, ?_⟩
      simp only [Command.prepare, Command.fixture, withholds.loadFixture, bind,
        Except.bind]
  | table configures supplies selectsNone =>
      refine .inr ⟨_, configures.loadConfig, ?_⟩
      simp only [Command.prepare, Command.fixture, supplies.loadFixture, bind,
        Except.bind, Job.ofCommand, Job.ofScan,
        selectsNone.scannedTable supplies.coherent.hierarchy]
  | key configures supplies selects misplaces =>
      refine .inr ⟨_, configures.loadConfig, ?_⟩
      have hierarchy := supplies.coherent.hierarchy
      rcases hierarchy.homed selects.mem with
        ⟨table, group, itsTable, itsGroup⟩
      have refusedMode := misplaces.scanMode hierarchy selects.mem
      simp only [Command.prepare, Command.fixture, supplies.loadFixture, bind,
        Except.bind, Job.ofCommand, Job.ofScan, selects.scannedTable hierarchy,
        Job.groupOf, itsTable, Option.bind_some, itsGroup, refusedMode]

end

/-! ## A sample -/

namespace Sample

/-- The entry of a table with one column. -/
def table (name : String) (parent : List (String × Json)) : Json :=
  let column := .record [("name", .text "id"), ("column_type", .text "int")]
  .record ([("name", .text name), ("columns", .array [column])] ++ parent)

/-- The entry of a row whose value is the last one of its key. -/
def row (name : String) (values : List Nat) : Json :=
  .record
    [("table", .text name),
      ("hkey", .array (values.map fun value => .array [.nat value])),
      ("values", .array (values.getLast?.toList.map .nat))]

/-- The text of a fixture with rows of customers and orders. -/
def text (rows : List Json) : String :=
  let tables :=
    [table "customer" [], table "order" [("parent", .text "customer")]]
  (Json.record [("tables", .array tables), ("rows", .array rows)]).render

/-- An order and its customer. -/
def shop : String :=
  text [row "order" [1, 7], row "customer" [1]]

/-- A customer that is given twice. -/
def twins : String :=
  text [row "customer" [1], row "customer" [1]]

/-- The files with the two fixtures. -/
def surroundings : Surroundings where
  file := fun path =>
    .ok (if path = "twins.json" then twins else shop).toUTF8
  sessionId := "session"
  queryId := "query"

/-- A request for a customer of a fixture and all that belongs to it. -/
def request (path : String) : ScanRequest where
  fixture := path
  config? := none
  table? := some "customer"
  key? := some "[[1]]"
  reach? := none

/-- A request whose key is a number and no list. -/
def misplaced : ScanRequest :=
  { request "shop.json" with key? := some "1" }

/-- What the request comes down to for given rows. -/
def aim (rows : List Row) : Aim where
  config := {}
  fixture := { Fixture.Sample.fixture with rows }
  rowType := MemoryStore.Sample.customer
  start? := some (.root ⟨1⟩ [.int 1])
  reach := .deep

/-- What it comes down to for an order and its customer. -/
def aimOfShop : Aim :=
  aim Fixture.Sample.fixture.rows

/-- What it comes down to for a customer that is given twice. -/
def aimOfTwins : Aim :=
  aim [MemoryStore.Sample.customerRow, MemoryStore.Sample.customerRow]

theorem selects (rows : List Row) :
    Selects (aim rows).fixture.schema (some "customer")
      MemoryStore.Sample.customer :=
  .named rfl

theorem starts (rows : List Row) :
    Starts (aim rows).fixture.schema (aim rows).rowType (some "[[1]]")
      (aim rows).start? := by
  have decoded : levelsOfText? "[[1]]" = some [[.int 1]] := by
    decide +kernel
  exact .spelled decoded (.root rfl rfl) rfl

theorem supplies_shop :
    Supplies surroundings "shop.json" Fixture.Sample.fixture := by
  have file : surroundings.file "shop.json" = .ok shop.toUTF8 := rfl
  have decoded : Document.read? shop = some Fixture.Sample.document := by
    rw [Document.read?, Json.read, shop, text, Json.toList_render]
    decide +kernel
  exact .made (Surroundings.readText_eq_ok file) decoded rfl

theorem supplies_twins :
    Supplies surroundings "twins.json" aimOfTwins.fixture := by
  have file : surroundings.file "twins.json" = .ok twins.toUTF8 := rfl
  have decoded :
      Document.read? twins =
        some { Fixture.Sample.document with
          rows := [⟨"customer", [[.int 1]], [.int 1]⟩,
            ⟨"customer", [[.int 1]], [.int 1]⟩] } := by
    rw [Document.read?, Json.read, twins, text, Json.toList_render]
    decide +kernel
  exact .made (Surroundings.readText_eq_ok file) decoded rfl

theorem aims_shop : Aims surroundings (request "shop.json") aimOfShop :=
  ⟨.default, supplies_shop, selects _, starts _, rfl⟩

theorem aims_twins : Aims surroundings (request "twins.json") aimOfTwins :=
  ⟨.default, supplies_twins, selects _, starts _, rfl⟩

theorem refused : Refused surroundings misplaced .malformedKey :=
  .key .default supplies_shop (selects Fixture.Sample.fixture.rows)
    (.malformed (by decide +kernel))

end Sample

end HierQuery.Cli
