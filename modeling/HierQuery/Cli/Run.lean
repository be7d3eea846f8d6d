import HierQuery.Cli.Arguments
import HierQuery.Cli.Output
import HierQuery.Execution
import HierQuery.Fixture.Load
import HierQuery.Store.GroupCursor

/-!
# Running commands

Each command reads its options and its fixture and makes a plan.  Explaining
stops there and shows the plan; the other commands load the fixture into a
memory store, run the plan and write the rows.

What a command takes from outside is given to it: the contents of files and
the names of the session and of the query.
-/

namespace HierQuery.Cli

/-- What a command takes from outside. -/
structure Surroundings where
  /-- The bytes of a file, or the system's report why they could not be had. -/
  file : String → Except String ByteArray
  sessionId : String
  queryId : String

/-- The text of a file, which must be UTF-8. -/
def Surroundings.readText
    (surroundings : Surroundings)
    (path : String) :
    Except String String :=
  match surroundings.file path with
  | .error report => .error report
  | .ok bytes =>
      match String.fromUTF8? bytes with
      | some text => .ok text
      | none => .error "stream did not contain valid UTF-8"

/-- What a command did. -/
structure Report where
  result : Except Error Unit
  output : Sink
  /-- All that was logged but what the query's scope did since its start. -/
  log : Log
  /-- The scope of the query after it was left, if one was run. -/
  scope? : Option Scope := none

/-- The whole log, given the time that the query took, in milliseconds. -/
def Report.fullLog (report : Report) (elapsed : String) : Log :=
  match report.scope? with
  | none => report.log
  | some scope => report.log ++ scope.log elapsed

/-- The options at a path, or the default ones. -/
def loadConfig
    (surroundings : Surroundings)
    (path? : Option String) :
    Except Error Config :=
  match path? with
  | none => .ok {}
  | some path =>
      match surroundings.readText path with
      | .error report => .error (.ofConfig (.read path report))
      | .ok text => (Config.read text).mapError .ofConfig

/-- The fixture at a path. -/
def loadFixture
    (surroundings : Surroundings)
    (path : String) :
    Except Error Fixture :=
  match surroundings.readText path with
  | .error report => .error (.ofFixture (.read path report))
  | .ok text => (Fixture.read text).mapError .ofFixture

/-- The log record of options that were read. -/
def configRecord (config : Config) : Log.Record :=
  Event.configLoaded.record
    [("log_operator_execution",
        if config.logOperatorExecution then "true" else "false"),
      ("row_count_mode", config.countMode.render)]

/-- A plan that is ready to run on the store of a fixture. -/
structure Job where
  fixture : Fixture
  plan : Plan
  bindings : Bindings

namespace Job

/-- The table with a name. -/
def tableNamed
    (fixture : Fixture)
    (name : String) :
    Except Error RowType :=
  match fixture.schema.tableNamed? name with
  | some rowType => .ok rowType
  | none => .error (.unknownTable name)

/-- The table of a scan: the named one, or else the root of the first group. -/
def scannedTable
    (fixture : Fixture)
    (name? : Option String) :
    Except Error RowType :=
  match name? with
  | some name => tableNamed fixture name
  | none =>
      match fixture.schema.groups.head?.bind fun group =>
          fixture.schema.table? group.root with
      | some rowType => .ok rowType
      | none => .error .noTables

/-- The group of a table. -/
def groupOf
    (fixture : Fixture)
    (rowType : RowType) :
    Except Error GroupTable :=
  match rowType.table?.bind fixture.schema.groupOf? with
  | some group => .ok group
  | none => .error ⟨.argument, "no group for table '" ++ rowType.name ++ "'"⟩

/-- The key that a text spells level by level, for a row of the given table. -/
def readKey
    (fixture : Fixture)
    (rowType : RowType)
    (text : String) :
    Except Error HKey :=
  match (Json.read text).bind Fixture.levelsOfJson? with
  | none => .error .malformedKey
  | some levels =>
      (Fixture.placeKey fixture.schema rowType levels).mapError .ofFixture

/-- The rows to visit and the bindings to open the scan with. -/
def scanMode
    (fixture : Fixture)
    (rowType : RowType)
    (request : ScanRequest) :
    Except Error (GroupScan.Mode × Bindings) :=
  match request.key? with
  | none => .ok (.full, .reserve 0)
  | some text =>
      (readKey fixture rowType text).map fun key =>
        (.positional 0 (request.reach?.getD .deep), ⟨[some (.key key)]⟩)

/-- The plan of a scan. -/
def ofScan
    (config : Config)
    (fixture : Fixture)
    (request : ScanRequest) :
    Except Error Job := do
  let rowType ← scannedTable fixture request.table?
  let group ← groupOf fixture rowType
  let (mode, bindings) ← scanMode fixture rowType request
  let limit :=
    match config.maxRows with
    | some most => .rows most
    | none => .unlimited
  .ok { fixture, bindings, plan := .scan { group, mode, limit } }

/-- The plan of a count, whose row type is issued by the fixture's schema. -/
def ofCount
    (fixture : Fixture)
    (request : CountRequest) :
    Except Error Job := do
  let rowType ← tableNamed fixture request.table
  match Count.ofSchema fixture.schema rowType with
  | (.error error, _) => .error (.ofExecution error)
  | (.ok count, schema) =>
      .ok {
        fixture := { fixture with schema }
        plan := .count count
        bindings := .reserve 0 }

/-- The plan of a command. -/
def ofCommand
    (config : Config)
    (fixture : Fixture) :
    Command → Except Error Job
  | .scan request | .explain request => ofScan config fixture request
  | .count request => ofCount fixture request

/-- What is shown of the plan and its bindings. -/
def explanation (job : Job) : Json :=
  .record
    [("plan", .text job.plan.render),
      ("row_type", .text job.plan.rowType.render),
      ("binding_slots", .nat job.plan.bindingSlots),
      ("bindings", .text job.bindings.render)]

/-- Loads the fixture, runs the plan and writes the rows. -/
def run
    (job : Job)
    (surroundings : Surroundings)
    (config : Config)
    (output : Sink)
    (log : Log) :
    Report :=
  match job.fixture.load surroundings.sessionId config.countMode with
  | (.error error, loading) =>
      { result := .error (.ofFixture error), output, log := log ++ loading }
  | (.ok store, loading) =>
      let execution :=
        Execution.run (MemoryStore.adapter fun _ => 0) job.plan job.bindings
          { id := surroundings.queryId, config, store, log := log ++ loading }
      let (result, output) :=
        match execution.answer with
        | .error error => (.error (.ofExecution error), output)
        | .ok rows => writeRows output (rows.map Row.toJson)
      { result, output
        log := execution.query.log
        scope? := some execution.scope }

end Job

namespace Command

/-- Prepares the plan of a command; the options are known already. -/
def prepare
    (surroundings : Surroundings)
    (config : Config)
    (command : Command) :
    Except Error Job := do
  let fixture ← loadFixture surroundings command.fixture
  Job.ofCommand config fixture command

/-- Runs a command, whose output goes to a sink. -/
def run
    (surroundings : Surroundings)
    (output : Sink)
    (command : Command) :
    Report :=
  match loadConfig surroundings command.config? with
  | .error error => { result := .error error, output, log := [] }
  | .ok config =>
      let log := [configRecord config]
      match prepare surroundings config command, command with
      | .error error, _ => { result := .error error, output, log }
      | .ok job, .explain _ =>
          let (result, output) :=
            output.putLines [resultDocument job.explanation]
          { result, output, log }
      | .ok job, _ => job.run surroundings config output log

/-- Runs a command; a failure is also written to the output, as far as that is possible. -/
def runReporting
    (surroundings : Surroundings)
    (output : Sink)
    (command : Command) :
    Report :=
  let report := command.run surroundings output
  match report.result with
  | .ok () => report
  | .error error =>
      let document := failureDocument error.code.render error.message
      { report with output := (report.output.putLines [document]).2 }

end Command

end HierQuery.Cli
