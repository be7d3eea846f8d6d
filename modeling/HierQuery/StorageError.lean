import HierQuery.Ident

/-!
# Failures of a store

The execution of a query passes these failures on as they are.
-/

namespace HierQuery

/-- Why a store could not do what it was asked. -/
inductive StorageError
  /-- The medium failed; `cause` is its own report. -/
  | io (text cause : String)
  | unknownGroup (group : GroupId)
  /-- The table has no status. -/
  | unknownTable (table : TableId)
  /-- Something is stored under `key` already. -/
  | duplicateKey (key : String)
  /-- Shared state was left unusable by a crash. -/
  | lockPoisoned (what : String)
deriving DecidableEq, Inhabited

namespace StorageError

/-- The code under which the failure is reported. -/
def code : StorageError → String
  | io _ _ => "HKX_STORAGE_IO_ERROR"
  | unknownGroup _ => "HKX_STORAGE_UNKNOWN_GROUP"
  | unknownTable _ => "HKX_STORAGE_UNKNOWN_TABLE"
  | duplicateKey _ => "HKX_STORAGE_DUPLICATE_KEY"
  | lockPoisoned _ => "HKX_STORAGE_LOCK_POISONED"

/-- What went wrong, in words. -/
def message : StorageError → String
  | io text _ => text
  | unknownGroup group => "unknown group table " ++ group.render
  | unknownTable table => "no table status for table " ++ table.render
  | duplicateKey key => "row with hkey " ++ key ++ " already exists"
  | lockPoisoned what => what ++ " lock poisoned"

/-- The report of the medium behind the failure. -/
def cause? : StorageError → Option String
  | io _ cause => some cause
  | _ => none

/-- Code, message and cause in one line. -/
def render (error : StorageError) : String :=
  error.code ++ ": " ++ error.message ++
    match error.cause? with
    | some cause => " (caused by: " ++ cause ++ ")"
    | none => ""

end StorageError

end HierQuery
