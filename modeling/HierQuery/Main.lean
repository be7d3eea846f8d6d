import HierQuery.Cli.Program

/-!
# The command line program

Reads the files that a command names, runs the command and prints what it
wrote and logged.  Everything else is done by pure functions.
-/

open HierQuery.Cli

/-- The system's words for a failed call, with its number. -/
def systemReport : IO.Error → String
  | .alreadyExists _ code details
  | .interrupted _ code details
  | .noFileOrDirectory _ code details
  | .invalidArgument _ code details
  | .permissionDenied _ code details
  | .resourceExhausted _ code details
  | .inappropriateType _ code details
  | .noSuchThing _ code details
  | .otherError code details
  | .resourceBusy code details
  | .resourceVanished code details
  | .unsupportedOperation code details
  | .hardwareFault code details
  | .unsatisfiedConstraints code details
  | .illegalOperation code details
  | .protocolError code details
  | .timeExpired code details =>
      details ++ " (os error " ++ Nat.repr code.toNat ++ ")"
  | error => toString error

/-- The bytes of a file, or the system's report. -/
def readBytes (path : String) : IO (Except String ByteArray) := do
  try
    return .ok (← IO.FS.readBinFile path)
  catch error =>
    return .error (systemReport error)

/-- A fresh random identifier in groups of hexadecimal digits. -/
def freshId : IO String := do
  let bytes := (← IO.getRandomBytes 16).toList
  let digits := bytes.zipIdx.flatMap fun (byte, index) =>
    let byte :=
      if index = 6 then 0x40 ||| (byte &&& 0x0f)
      else if index = 8 then 0x80 ||| (byte &&& 0x3f)
      else byte
    let number := byte.toNat
    let pair := [Nat.digitChar (number / 16), Nat.digitChar (number % 16)]
    if [4, 6, 8, 10].contains index then '-' :: pair else pair
  return String.ofList digits

/-- The files of a command, read once, and fresh names. -/
def gather (command : Command) : IO Surroundings := do
  let paths := command.config?.toList ++ [command.fixture]
  let files ← paths.mapM fun path => return (path, ← readBytes path)
  return {
    file := fun path => (files.lookup path).getD (.error "")
    sessionId := ← freshId
    queryId := ← freshId }

/-- Prints what a run of the program leaves behind. -/
def conclude (ending : Ending) : IO UInt32 := do
  let stdout ← IO.getStdout
  stdout.write ⟨ending.output.toArray⟩
  stdout.flush
  for message in ending.messages do
    IO.eprintln message
  return ending.status

/-- Runs the command that the words name. -/
def main (words : List String) : IO UInt32 := do
  match Command.read words with
  | .error error => conclude error.ending
  | .ok command =>
      let surroundings ← gather command
      let begun ← IO.monoMsNow
      let report ← IO.lazyPure fun () => command.runReporting surroundings {}
      let elapsed := (← IO.monoMsNow) - begun
      conclude (report.ending (Nat.repr elapsed))
