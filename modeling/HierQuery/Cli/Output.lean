import HierQuery.Cli.Error
import HierQuery.Json.Printer

/-!
# Output of commands

Rows are written as JSON documents, one for each line.  Any other result is
one line with a status, and so is a failure.

Output goes to a sink, which takes bytes in order and may run full.  A sink
that runs full has taken all the bytes that fit.
-/

namespace HierQuery.Cli

/-- A place for output. -/
structure Sink where
  /-- The bytes taken so far. -/
  accepted : List UInt8 := []
  /-- How many bytes still fit; without a bound all do. -/
  room? : Option Nat := none
  /-- Whether the bytes taken can be passed on. -/
  flushes : Bool := true
deriving DecidableEq, Inhabited

namespace Sink

/-- What the system says of a sink that ran full. -/
def fullReport : String :=
  "disk full"

/-- What the system says of a sink whose bytes cannot be passed on. -/
def flushReport : String :=
  "flush failed"

/-- Takes the bytes that fit, and tells whether all did. -/
def putBytes (sink : Sink) (bytes : List UInt8) : Bool × Sink :=
  match sink.room? with
  | none => (true, { sink with accepted := sink.accepted ++ bytes })
  | some room =>
      (decide (bytes.length ≤ room),
        { sink with
          accepted := sink.accepted ++ bytes.take room
          room? := some (room - bytes.length) })

/-- Takes the UTF-8 bytes of a text as far as they fit. -/
def put (sink : Sink) (text : String) : Bool × Sink :=
  sink.putBytes text.toUTF8.toList

/-- Passes the bytes on. -/
def flush (sink : Sink) : Except Error Unit :=
  if sink.flushes then
    .ok ()
  else
    .error (.ofReport flushReport)

/-- Writes a document and a line break. -/
def putLine (sink : Sink) (document : Json) : Except Error Unit × Sink :=
  match sink.put document.render with
  | (false, sink) => (.error (.ofDocumentReport fullReport), sink)
  | (true, sink) =>
      match sink.put "\n" with
      | (false, sink) => (.error (.ofReport fullReport), sink)
      | (true, sink) => (.ok (), sink)

/-- Writes each document on a line of its own and passes all on. -/
def putLines (sink : Sink) : List Json → Except Error Unit × Sink
  | [] => (sink.flush, sink)
  | document :: documents =>
      match sink.putLine document with
      | (.error error, sink) => (.error error, sink)
      | (.ok (), sink) => sink.putLines documents

end Sink

/-- Writes rows, the members of each in the order of their keys. -/
def writeRows (sink : Sink) (rows : List Json) : Except Error Unit × Sink :=
  sink.putLines (rows.map Json.canonical)

/-- The document of a result. -/
def resultDocument (data : Json) : Json :=
  .canonical (.record [("status", .text "ok"), ("data", data)])

/-- The document of a failure. -/
def failureDocument (code message : String) : Json :=
  .canonical
    (.record
      [("status", .text "error"),
        ("code", .text code),
        ("message", .text message)])

end HierQuery.Cli
