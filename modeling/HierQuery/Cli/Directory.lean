import HierQuery.Cli.Run

/-!
# Working directories

A working directory that holds nothing but plain files, with what the system
says of the paths that a command reads in it.  So a run of a command can be
stated and looked at without a system around it.

A path is walked part by part.  A part that is empty or a single dot stays
where it is, and two dots lead to a directory of which nothing is known but
that it is one.  A walk that has come to a file cannot go on, not even with an
empty part, so a path to a file does not end in a slash.
-/

namespace HierQuery.Cli

/-- A working directory, as the list of its files. -/
structure Directory where
  files : List (String × ByteArray)

namespace Directory

/-- Where a walk along a path has come to. -/
inductive Place
  | working
  /-- Some other directory. -/
  | elsewhere
  | file (bytes : ByteArray)

/-- Why the system refuses to read what a path leads to. -/
inductive Refusal
  | absent
  /-- The path goes on behind a file. -/
  | notDirectory
  | isDirectory
  | nameTooLong
  /-- The path has the character with which the system ends a path. -/
  | malformed
deriving DecidableEq, Inhabited

/-- The system's words for a refusal. -/
def Refusal.report : Refusal → String
  | absent => "No such file or directory (os error 2)"
  | notDirectory => "Not a directory (os error 20)"
  | isDirectory => "Is a directory (os error 21)"
  | nameTooLong => "File name too long (os error 36)"
  | malformed => "file name contained an unexpected NUL byte"

/-- The most bytes of a name in a path. -/
def longestName : Nat :=
  255

/-- The most bytes of a path. -/
def longestPath : Nat :=
  4095

/-- The file with the given name in a place.  Of other directories no file is known. -/
def fileIn?
    (directory : Directory)
    (name : String) :
    Place → Option ByteArray
  | .working => directory.files.lookup name
  | .elsewhere | .file _ => none

/-- Takes one part of a path. -/
def step
    (directory : Directory)
    (place : Place)
    (part : String) :
    Except Refusal Place :=
  match place with
  | .file _ => .error .notDirectory
  | .working | .elsewhere =>
      if part = "" ∨ part = "." then
        .ok place
      else if part = ".." then
        .ok .elsewhere
      else if longestName < part.utf8ByteSize then
        .error .nameTooLong
      else
        match directory.fileIn? part place with
        | some bytes => .ok (.file bytes)
        | none => .error .absent

/-- Where the walk along a path begins. -/
def origin (path : String) : Place :=
  if path.startsWith "/" then .elsewhere else .working

/-- Walks along a path. -/
def walk (directory : Directory) (path : String) : Except Refusal Place :=
  if path.toList.contains '\x00' then
    .error .malformed
  else if path.isEmpty then
    .error .absent
  else if longestPath < path.utf8ByteSize then
    .error .nameTooLong
  else
    (path.splitOn "/").foldlM directory.step (origin path)

/-- The bytes of the file that a path leads to. -/
def read (directory : Directory) (path : String) : Except Refusal ByteArray :=
  match directory.walk path with
  | .error refusal => .error refusal
  | .ok (.file bytes) => .ok bytes
  | .ok .working | .ok .elsewhere => .error .isDirectory

/-- What a command that runs in the directory takes from outside. -/
def surroundings
    (directory : Directory)
    (sessionId queryId : String) :
    Surroundings where
  file := fun path => (directory.read path).mapError Refusal.report
  sessionId := sessionId
  queryId := queryId

@[simp]
theorem step_file
    (directory : Directory)
    (bytes : ByteArray)
    (part : String) :
    directory.step (.file bytes) part = .error .notDirectory :=
  rfl

@[simp]
theorem step_dot (directory : Directory) :
    directory.step .working "." = .ok .working :=
  rfl

end Directory

end HierQuery.Cli
