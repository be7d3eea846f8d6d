import HierQuery.CursorState
import HierQuery.HKey.Basic
import HierQuery.Log.Severity
import HierQuery.RowType
import HierQuery.StorageError

/-!
# Failures of an execution

A failure has a cause and, once it is known, the operator in which it arose.
Broken contracts are fatal to the query; a canceled query and a failed store
are not.
-/

namespace HierQuery

/-- Why an argument was refused. -/
inductive ArgumentFault
  | notTableType (rowType : RowType)
  /-- The key names a row of another table. -/
  | foreignKey (key : HKey) (rowType : RowType)
  /-- The row has a wrong number of fields. -/
  | wrongArity (rowType : RowType) (actual : Nat)
  | tableExists (name : String)
  | unknownParent (table : TableId)
  | notSingleInteger (rowType : RowType)
  /-- The outer plan of a nested loop yields rows without keys. -/
  | unboundOuter (rowType : RowType)
  /-- An outer row, given in its written form, has no key. -/
  | keylessOuterRow (row : String)
  | notTableRow (rowType : RowType)
  | emptyKey
  | other (reason : String)
deriving DecidableEq, Inhabited

/-- What is wrong with the argument, in words. -/
def ArgumentFault.message : ArgumentFault → String
  | notTableType rowType =>
      rowType.render ++ " is not a table row type"
  | foreignKey key rowType =>
      "hkey " ++ key.render ++ " does not identify a row of " ++ rowType.render
  | wrongArity rowType actual =>
      rowType.render ++ " expects " ++ Nat.repr rowType.arity ++
        " fields, got " ++ Nat.repr actual
  | tableExists name =>
      "table '" ++ name ++ "' already exists"
  | unknownParent table =>
      "unknown parent table " ++ table.render
  | notSingleInteger rowType =>
      rowType.render ++ " is not a single integer values row type"
  | unboundOuter rowType =>
      "outer produces " ++ rowType.render ++ ", which has no hkey to bind"
  | keylessOuterRow row =>
      "outer row " ++ row ++ " has no hkey"
  | notTableRow rowType =>
      rowType.render ++ " is not a table row"
  | emptyKey =>
      "cannot delete the empty hkey"
  | other reason =>
      reason

/-- How an execution can fail. -/
inductive ExecError.Cause
  /-- A cursor was called in a state that does not allow the call. -/
  | lifecycleViolation (expected : String) (actual : CursorState)
  | invalidArgument (fault : ArgumentFault)
  /-- A slot was read before anything was bound to it. -/
  | bindingUnset (slot : Nat)
  | bindingOutOfRange (slot reserved : Nat)
  | bindingType (slot : Nat) (expected actual : String)
  | queryCanceled (query : String)
  | storage (error : StorageError)
deriving DecidableEq, Inhabited

/-- A failed execution. -/
structure ExecError where
  cause : ExecError.Cause
  operator? : Option String := none
deriving DecidableEq, Inhabited

namespace ExecError

/-- The code under which a failure is reported. -/
inductive Code
  | lifecycleViolation
  | invalidArgument
  | bindingUnset
  | bindingOutOfRange
  | bindingType
  | queryCanceled
  | storageFailure
deriving DecidableEq, Inhabited

/-- What the caller is told about a failure. -/
inductive Class
  /-- A wrong call, binding or argument. -/
  | contractViolation
  /-- A deliberate end, not a failure. -/
  | canceled
  | storage
deriving DecidableEq, Inhabited

namespace Code

/-- All codes in their fixed order. -/
def all : List Code :=
  [lifecycleViolation, invalidArgument, bindingUnset, bindingOutOfRange,
    bindingType, queryCanceled, storageFailure]

/-- The code in its written form. -/
def render : Code → String
  | lifecycleViolation => "HKX_LIFECYCLE_VIOLATION"
  | invalidArgument => "HKX_INVALID_ARGUMENT"
  | bindingUnset => "HKX_BINDING_UNSET"
  | bindingOutOfRange => "HKX_BINDING_OUT_OF_RANGE"
  | bindingType => "HKX_BINDING_TYPE"
  | queryCanceled => "HKX_QUERY_CANCELED"
  | storageFailure => "HKX_STORAGE_FAILURE"

/-- The class of the code. -/
def errorClass : Code → Class
  | queryCanceled => .canceled
  | storageFailure => .storage
  | _ => .contractViolation

/-- Broken contracts are fatal, all other failures are errors. -/
def severity (code : Code) : Severity :=
  match code.errorClass with
  | .contractViolation => .fatal
  | .canceled | .storage => .error

end Code

/-- The code of the failure. -/
def code (error : ExecError) : Code :=
  match error.cause with
  | .lifecycleViolation _ _ => .lifecycleViolation
  | .invalidArgument _ => .invalidArgument
  | .bindingUnset _ => .bindingUnset
  | .bindingOutOfRange _ _ => .bindingOutOfRange
  | .bindingType _ _ _ => .bindingType
  | .queryCanceled _ => .queryCanceled
  | .storage _ => .storageFailure

/-- What went wrong, in words. -/
def message (error : ExecError) : String :=
  match error.cause with
  | .lifecycleViolation expected actual =>
      "expected cursor " ++ expected ++ ", but it is " ++ actual.render
  | .invalidArgument fault =>
      fault.message
  | .bindingUnset slot =>
      "binding slot " ++ Nat.repr slot ++ " read before being written"
  | .bindingOutOfRange slot reserved =>
      "binding slot " ++ Nat.repr slot ++
        " outside reserved range 0.." ++ Nat.repr reserved
  | .bindingType slot expected actual =>
      "binding slot " ++ Nat.repr slot ++ " holds " ++ actual ++
        ", expected " ++ expected
  | .queryCanceled query =>
      "query " ++ query ++ " canceled"
  | .storage error =>
      error.message

/-- The failure of the store behind this one. -/
def storageError? (error : ExecError) : Option StorageError :=
  match error.cause with
  | .storage error => some error
  | _ => none

/-- The class of the failure. -/
def errorClass (error : ExecError) : Class :=
  error.code.errorClass

/-- The severity of the failure. -/
def severity (error : ExecError) : Severity :=
  error.code.severity

/-- Whether the query was canceled. -/
def isCancellation (error : ExecError) : Bool :=
  error.errorClass == .canceled

/-- Whether a contract was broken. -/
def isContractViolation (error : ExecError) : Bool :=
  error.errorClass == .contractViolation

/-- Whether the failure is fatal to the query. -/
def isFatal (error : ExecError) : Bool :=
  error.severity == .fatal

/-- Names the operator in which the failure arose, unless one is named already. -/
def within (error : ExecError) (operator : String) : ExecError :=
  { error with operator? := error.operator? <|> some operator }

/-- A refused argument of the named operator. -/
def argument (operator : String) (fault : ArgumentFault) : ExecError :=
  ⟨.invalidArgument fault, some operator⟩

/-- A failure of the store, with no operator named yet. -/
def ofStorage (error : StorageError) : ExecError :=
  ⟨.storage error, none⟩

/-- Severity, code, message and operator in one line. -/
def render (error : ExecError) : String :=
  "[" ++ error.severity.render ++ "] " ++ error.code.render ++ ": " ++
    error.message ++
      match error.operator? with
      | some operator => " (operator: " ++ operator ++ ")"
      | none => ""

/-- The chain of failures behind this one, nearest first. -/
def sources (error : ExecError) : List String :=
  match error.storageError? with
  | some storage => storage.render :: storage.cause?.toList
  | none => []

@[simp]
theorem cause_within (error : ExecError) (operator : String) :
    (error.within operator).cause = error.cause :=
  rfl

@[simp]
theorem within_within (error : ExecError) (inner outer : String) :
    (error.within inner).within outer = error.within inner := by
  cases error with
  | mk cause operator? =>
      cases operator? <;> rfl

end ExecError

end HierQuery
