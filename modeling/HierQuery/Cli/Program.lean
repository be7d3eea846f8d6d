import HierQuery.Cli.Run

/-!
# The program as a whole

A run of the program ends with an exit status, has written bytes to its
standard output and messages to its standard error.  The log goes to standard
error, one record a line, and so does a failure, which standard output reports
as a document.  The words of a failure may quote a text with line breaks.
-/

namespace HierQuery.Cli

/-- What a run of the program leaves behind. -/
structure Ending where
  status : UInt32
  output : List UInt8
  /-- The messages in order, each followed by a line break when it is written. -/
  messages : List String
deriving DecidableEq, Inhabited

/-- The command lines that the program understands. -/
def usage : List String :=
  ["usage: hkeyexec scan --fixture <path> [--config <path>] [--table <name>]",
    "                     [--hkey <json> [--deep | --shallow]]",
    "       hkeyexec explain  with the options of scan",
    "       hkeyexec count --fixture <path> [--config <path>] --table <name>",
    "       hkeyexec --help | --version"]

/-- The name and the version of the program. -/
def versionLine : String :=
  "hkeyexec 0.1.0"

/-- Lines as bytes, each with its line break. -/
def lineBytes (lines : List String) : List UInt8 :=
  lines.flatMap fun line => (line ++ "\n").toUTF8.toList

/-- How the program ends if it runs no command. -/
def UsageError.ending : UsageError → Ending
  | .help => ⟨0, lineBytes usage, []⟩
  | .version => ⟨0, lineBytes [versionLine], []⟩
  | error => ⟨2, [], ("error: " ++ error.render) :: usage⟩

/-- How the program ends after a command, given the time that its query took. -/
def Report.ending (report : Report) (elapsed : String) : Ending :=
  let log := (report.fullLog elapsed).map Log.Record.line
  match report.result with
  | .ok () => ⟨0, report.output.accepted, log⟩
  | .error error => ⟨1, report.output.accepted, log ++ [error.render]⟩

end HierQuery.Cli
