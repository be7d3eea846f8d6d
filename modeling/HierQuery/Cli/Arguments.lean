import HierQuery.HKey.Range

/-!
# Command lines

A command line names a command and gives its options.  An option with a value
is written `--name value` or `--name=value`; a value that stands by itself
must not begin with a dash, unless it is a single dash.

An option is checked only once it is complete: when the next known option or
the end is reached.  Hence a word that is not understood is refused before an
incomplete option in front of it.
-/

namespace HierQuery.Cli

/-- Why a command line is not run as it stands. -/
inductive UsageError
  /-- An option is absent that the command needs. -/
  | missingRequired
  /-- Two options exclude each other, or one is given twice. -/
  | conflict
  | unknownArgument
  | invalidSubcommand
  /-- An option has no value, or an empty path. -/
  | invalidValue
  /-- A value is given to an option that takes none. -/
  | tooManyValues
  | help
  | version
  /-- There is no command at all. -/
  | noCommand
deriving DecidableEq, Inhabited

/-- The name of the kind of error. -/
def UsageError.render : UsageError → String
  | missingRequired => "MissingRequiredArgument"
  | conflict => "ArgumentConflict"
  | unknownArgument => "UnknownArgument"
  | invalidSubcommand => "InvalidSubcommand"
  | invalidValue => "InvalidValue"
  | tooManyValues => "TooManyValues"
  | help => "DisplayHelp"
  | version => "DisplayVersion"
  | noCommand => "DisplayHelpOnMissingArgumentOrSubcommand"

/-- What a scan is asked for. -/
structure ScanRequest where
  fixture : String
  config? : Option String
  table? : Option String
  /-- The text of the key to start at. -/
  key? : Option String
  /-- How far to go from the key, if that is said. -/
  reach? : Option Reach
deriving DecidableEq, Inhabited

/-- What a count is asked for. -/
structure CountRequest where
  fixture : String
  config? : Option String
  table : String
deriving DecidableEq, Inhabited

/-- A command with its options. -/
inductive Command
  | scan (request : ScanRequest)
  | count (request : CountRequest)
  /-- Shows the plan of a scan. -/
  | explain (request : ScanRequest)
deriving DecidableEq, Inhabited

/-- The options that take a value. -/
inductive OptionName
  | fixture
  | config
  | table
  | key
deriving DecidableEq, Inhabited

/-- The word for an option after its two dashes. -/
def OptionName.word : OptionName → String
  | fixture => "fixture"
  | config => "config"
  | table => "table"
  | key => "hkey"

/-- Whether the value of an option is a path; a path must not be empty. -/
def OptionName.isPath : OptionName → Bool
  | fixture | config => true
  | table | key => false

/-- One word of a command line, other than two dashes alone, by its form. -/
inductive Word
  | long (name : String) (value? : Option String)
  /-- A single dash and a letter, and whatever follows them. -/
  | short (letter : Char)
  | plain (text : String)
deriving DecidableEq

/-- The form of a word.  A value begins after the first equals sign. -/
def Word.ofString (text : String) : Word :=
  match text.toList with
  | '-' :: '-' :: rest =>
      let name := String.ofList (rest.takeWhile (· != '='))
      match rest.dropWhile (· != '=') with
      | _ :: value => long name (some (String.ofList value))
      | [] => long name none
  | '-' :: letter :: _ => short letter
  | _ => plain text

/-- The options of a command as far as they are read. -/
structure Options where
  values : List (OptionName × String) := []
  reaches : List Reach := []
  /-- The option read last, which is not checked yet, with its value if it has one. -/
  open? : Option (OptionName × Option String) := none
deriving DecidableEq, Inhabited

namespace Options

/-- Takes a complete option. -/
def take
    (options : Options)
    (name : OptionName)
    (value : String) :
    Except UsageError Options :=
  if (options.values.lookup name).isSome then
    .error .conflict
  else if name.isPath && value.isEmpty then
    .error .invalidValue
  else
    .ok { options with values := options.values ++ [(name, value)] }

/-- Completes the option read last. -/
def settle (options : Options) : Except UsageError Options :=
  match options.open? with
  | none => .ok options
  | some (_, none) => .error .invalidValue
  | some (name, some value) => { options with open? := none }.take name value

/-- Takes a flag that says how far a scan goes. -/
def takeReach
    (options : Options)
    (reach : Reach) :
    Except UsageError Options :=
  if options.reaches.contains reach then
    .error .conflict
  else
    .ok { options with reaches := options.reaches ++ [reach] }

/-- The flag with the given word. -/
def reachOfWord? : String → Option Reach
  | "deep" => some .deep
  | "shallow" => some .shallow
  | _ => none

/-- Reads a word with two dashes.  A command has the given options, and flags if it scans. -/
def readLong
    (known : List OptionName)
    (scans : Bool)
    (options : Options)
    (name : String)
    (value? : Option String) :
    Except UsageError Options :=
  match known.find? fun option => option.word == name, value? with
  | some option, some value => do (← options.settle).take option value
  | some option, none => do
      .ok { (← options.settle) with open? := some (option, none) }
  | none, _ =>
      match if scans then reachOfWord? name else none, value? with
      | some _, some _ => .error .tooManyValues
      | some reach, none => do (← options.settle).takeReach reach
      | none, some _ =>
          .error (if name = "help" then .tooManyValues else .unknownArgument)
      | none, none => do
          if name = "help" then
            let _ ← options.settle
            .error .help
          else
            .error .unknownArgument

/-- Reads one word after the command. -/
def readWord
    (known : List OptionName)
    (scans : Bool)
    (options : Options) :
    Word → Except UsageError Options
  | .long name value? => options.readLong known scans name value?
  | .short letter => do
      if letter = 'h' then
        let _ ← options.settle
        .error .help
      else
        .error .unknownArgument
  | .plain text =>
      match options.open? with
      | some (name, none) => .ok { options with open? := some (name, some text) }
      | _ => .error .unknownArgument

/-- Reads all words after the command.  Nothing may follow two dashes alone. -/
def read
    (known : List OptionName)
    (scans : Bool)
    (options : Options) :
    List String → Except UsageError Options
  | [] | ["--"] => options.settle
  | "--" :: _ => .error .unknownArgument
  | text :: texts => do
      (← options.readWord known scans (.ofString text)).read known scans texts

/-- The value of an option that must be given. -/
def required
    (options : Options)
    (name : OptionName) :
    Except UsageError String :=
  match options.values.lookup name with
  | some value => .ok value
  | none => .error .missingRequired

/-- What the options ask of a scan.  The flags need a key and exclude each other. -/
def scanRequest (options : Options) : Except UsageError ScanRequest := do
  if options.reaches.length > 1 then
    .error .conflict
  let fixture ← options.required .fixture
  let key? := options.values.lookup .key
  if !options.reaches.isEmpty && key?.isNone then
    .error .missingRequired
  .ok {
    fixture, key?
    config? := options.values.lookup .config
    table? := options.values.lookup .table
    reach? := options.reaches.head? }

/-- What the options ask of a count. -/
def countRequest (options : Options) : Except UsageError CountRequest := do
  let fixture ← options.required .fixture
  let table ← options.required .table
  .ok { fixture, table, config? := options.values.lookup .config }

end Options

namespace Command

/-- Reads the options of a scan. -/
def readScan (texts : List String) : Except UsageError ScanRequest := do
  (← Options.read [.fixture, .config, .table, .key] true {} texts).scanRequest

/-- Reads the options of a count. -/
def readCount (texts : List String) : Except UsageError CountRequest := do
  (← Options.read [.fixture, .config, .table] false {} texts).countRequest

/-- The words that name a command, help included. -/
def words : List String :=
  ["scan", "count", "explain", "help"]

/-- Reads the words after two dashes in place of a command: none is a command there. -/
def readEscaped : List String → UsageError
  | [] => .noCommand
  | text :: _ =>
      if words.contains text then .unknownArgument else .invalidSubcommand

/-- Reads the words after `help`: at most one, the name of a command. -/
def readHelp : List String → UsageError
  | [] => .help
  | [text] => if words.contains text then .help else .invalidSubcommand
  | _ => .invalidSubcommand

/-- Reads a word that stands in place of a command and names none. -/
def readOther (text : String) : UsageError :=
  match Word.ofString text with
  | .short 'h' => .help
  | .short 'V' => .version
  | .short _ => .unknownArgument
  | .long name value? =>
      if name = "help" || name = "version" then
        if value?.isSome then
          .tooManyValues
        else if name = "help" then
          .help
        else
          .version
      else
        .unknownArgument
  | .plain _ => .invalidSubcommand

/-- Reads a command line without the name of the program. -/
def read : List String → Except UsageError Command
  | [] => .error .noCommand
  | "scan" :: texts => (readScan texts).map scan
  | "count" :: texts => (readCount texts).map count
  | "explain" :: texts => (readScan texts).map explain
  | "help" :: texts => .error (readHelp texts)
  | "--" :: texts => .error (readEscaped texts)
  | text :: _ => .error (readOther text)

/-- The path of the fixture. -/
def fixture : Command → String
  | scan request | explain request => request.fixture
  | count request => request.fixture

/-- The path of the options, if there is one. -/
def config? : Command → Option String
  | scan request | explain request => request.config?
  | count request => request.config?

end Command

end HierQuery.Cli
