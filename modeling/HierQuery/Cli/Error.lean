import HierQuery.Config
import HierQuery.ExecError
import HierQuery.Fixture.Error

/-!
# Failures of a command

A failed command reports a code, by which a caller can tell the kinds of
failures apart, and a message.
-/

namespace HierQuery.Cli

/-- The kind of a failure. -/
inductive ErrorCode
  | config
  | fixture
  | argument
  | execution
  | canceled
  /-- The output could not be written. -/
  | output
deriving DecidableEq, Inhabited

/-- The code in its written form. -/
def ErrorCode.render : ErrorCode → String
  | config => "HKX_CLI_CONFIG_ERROR"
  | fixture => "HKX_CLI_FIXTURE_ERROR"
  | argument => "HKX_CLI_INVALID_ARGUMENT"
  | execution => "HKX_CLI_EXECUTION_FAILED"
  | canceled => "HKX_CLI_CANCELED"
  | output => "HKX_CLI_IO_ERROR"

/-- A failed command. -/
structure Error where
  code : ErrorCode
  message : String
deriving DecidableEq, Inhabited

namespace Error

/-- Code and message in one line. -/
def render (error : Error) : String :=
  error.code.render ++ ": " ++ error.message

/-- The options could not be had. -/
def ofConfig (error : ConfigError) : Error :=
  ⟨.config, error.render⟩

/-- The fixture could not be loaded. -/
def ofFixture (error : FixtureError) : Error :=
  ⟨.fixture, error.render⟩

/-- The query failed or was canceled. -/
def ofExecution (error : ExecError) : Error :=
  ⟨if error.isCancellation then .canceled else .execution, error.render⟩

/-- The system refused output for the given reason. -/
def ofReport (reason : String) : Error :=
  ⟨.output, reason⟩

/-- The system refused a part of a JSON document for the given reason. -/
def ofDocumentReport (reason : String) : Error :=
  ⟨.output, "JSON error: " ++ reason⟩

/-- A table was asked for that the fixture does not have. -/
def unknownTable (name : String) : Error :=
  ⟨.argument, "unknown table '" ++ name ++ "'"⟩

/-- No table was asked for, and there is none. -/
def noTables : Error :=
  ⟨.argument, "fixture defines no tables"⟩

/-- The text of a key is no JSON list of lists of values. -/
def malformedKey : Error :=
  ⟨.argument, "--hkey is not a list of key lists"⟩

end Error

end HierQuery.Cli
