import HierQuery.ExecError

/-!
# Failures of a fixture
-/

namespace HierQuery

/-- Why a fixture could not be loaded. -/
inductive FixtureError
  /-- The document could not be read; `reason` is the system's report. -/
  | read (path reason : String)
  /-- The text is no JSON document of a fixture. -/
  | parse
  | unknownTable (name : String)
  /-- A key has a wrong number of levels for its table. -/
  | keyDepth (table : String) (expected actual : Nat)
  /-- A value does not fit its column. -/
  | valueType (table column : String) (expected : ColumnType) (value : Value)
  /-- A table or a row was refused. -/
  | execution (error : ExecError)
deriving DecidableEq, Inhabited

/-- What is wrong with the fixture, in words. -/
def FixtureError.render : FixtureError → String
  | read path reason =>
      "failed to read fixture " ++ path ++ ": " ++ reason
  | parse =>
      "invalid fixture JSON"
  | unknownTable name =>
      "unknown table '" ++ name ++ "'"
  | keyDepth table expected actual =>
      "hkey for table '" ++ table ++ "' needs " ++ Nat.repr expected ++
        " levels, got " ++ Nat.repr actual
  | valueType table column expected value =>
      "column '" ++ column ++ "' of table '" ++ table ++ "' expects " ++
        expected.title ++ ", got " ++ value.render
  | execution error =>
      error.render

end HierQuery
