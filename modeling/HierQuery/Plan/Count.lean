import HierQuery.Lifecycle
import HierQuery.Query
import HierQuery.Store.Adapter

/-!
# Counting the rows of a table

A count yields one computed row with the number of rows of a table.  It asks
the store when the row is wanted and visits no rows, so whether the number is
exact is up to the store.
-/

namespace HierQuery

/-- A count of one table. -/
structure Count where
  tableType : RowType
  /-- The type of the row that holds the number. -/
  output : RowType
  isTable : tableType.isTable = true
  singleInteger :
    output.kind = .values ∧
      output.columns.map Column.columnType = [.int]
deriving DecidableEq

namespace Count

/-- The name of the operator in plans and failures. -/
def operatorName : String :=
  "Count"

/-- A count into a row type that was issued before. -/
def withOutput (tableType output : RowType) : Except ExecError Count :=
  if isTable : tableType.isTable = true then
    if singleInteger :
        output.kind = .values ∧
          output.columns.map Column.columnType = [.int] then
      .ok { tableType, output, isTable, singleInteger }
    else
      .error (.argument operatorName (.notSingleInteger output))
  else
    .error (.argument operatorName (.notTableType tableType))

/-- A count into a row type of its own, which the schema issues for it. -/
def ofSchema
    (schema : Schema)
    (tableType : RowType) :
    Except ExecError Count × Schema :=
  if tableType.isTable then
    let (output, schema) :=
      schema.newValuesType ("count(" ++ tableType.name ++ ")") [⟨"count", .int⟩]
    (withOutput tableType output, schema)
  else
    (.error (.argument operatorName (.notTableType tableType)), schema)

/-- The count in a plan description. -/
def render (count : Count) : String :=
  operatorName ++ "(" ++ count.tableType.name ++ ")"

/-- The row that holds a number. -/
def row (count : Count) (number : Int64) : Row where
  rowType := count.output
  key? := none
  values := [.int number]
  arity := by
    have single := congrArg List.length count.singleInteger.2
    simpa [RowType.arity] using single.symm
  placed := by
    intro key impossible
    cases impossible

/-- The row has the type that the count hands out, no key, and the number as its only value. -/
structure Holds (count : Count) (number : Int64) (row : Row) : Prop where
  rowType : row.rowType = count.output
  unplaced : row.key? = none
  values : row.values = [.int number]

theorem holds_row (count : Count) (number : Int64) :
    count.Holds number (count.row number) :=
  ⟨rfl, rfl, rfl⟩

/-- The cursor of a count. -/
structure Cursor where
  state : CursorState := .idle
  /-- Whether the row is still to be handed out. -/
  pending : Bool := false
deriving DecidableEq, Inhabited

/-- The cursor once it has nothing more to hand out. -/
def Cursor.settled (cursor : Cursor) : Cursor :=
  { state := cursor.state.deactivate }

variable {κ σ : Type}

/-- Logs a call if the options ask for it. -/
def trace
    (count : Count)
    (event : Event)
    (query : Query σ) :
    Query σ :=
  query.trace event operatorName count.tableType.name

/-- Opens the cursor, with its row to be handed out. -/
def openWith
    (count : Count)
    (_ : Bindings)
    (cursor : Cursor)
    (query : Query σ) :
    Outcome Cursor (Query σ) Unit :=
  match cursor.state.requireIdle operatorName with
  | .error error => .fail error cursor query
  | .ok () =>
      .pure () { state := .active, pending := true }
        (count.trace .cursorOpen (query.count .cursorsOpened))

/-- Asks the store for the number and hands the row out. -/
def produce
    (count : Count)
    (adapter : StoreAdapter κ σ)
    (cursor : Cursor)
    (query : Query σ) :
    Outcome Cursor (Query σ) (Option Row) :=
  match adapter.rowCount count.tableType query.store with
  | (.error error, store) =>
      .fail (error.within operatorName) cursor.settled { query with store }
  | (.ok number, store) =>
      let row := count.row number
      let read := ({ query with store }).count .rowCountReads
      .pure (some row) { cursor with pending := false }
        ((read.count .rowsProduced).trace .rowYield operatorName row.render)

/-- The row of an active cursor, and nothing after it. -/
def next
    (count : Count)
    (adapter : StoreAdapter κ σ)
    (cursor : Cursor)
    (query : Query σ) :
    Outcome Cursor (Query σ) (Option Row) :=
  match cursor.state.requireActive operatorName with
  | .error error => .fail error cursor query
  | .ok () =>
      match query.checkCancellation with
      | (.error error, query) =>
          .fail (error.within operatorName) cursor.settled query
      | (.ok (), query) =>
          if cursor.pending then
            count.produce adapter cursor query
          else
            .pure none cursor.settled (count.trace .endOfStream query)

/-- Ends an active cursor; an idle one is left alone. -/
def close
    (count : Count)
    (cursor : Cursor)
    (query : Query σ) :
    Outcome Cursor (Query σ) Unit :=
  match cursor.state.requireAlive operatorName with
  | .error error => .fail error cursor query
  | .ok () =>
      if cursor.state = .active then
        .pure () cursor.settled (count.trace .cursorClose query)
      else
        .pure () cursor query

/-- Destroys the cursor. -/
def destroy
    (count : Count)
    (cursor : Cursor)
    (query : Query σ) :
    Outcome Cursor (Query σ) Unit :=
  match cursor.state.requireAlive operatorName with
  | .error error => .fail error cursor query
  | .ok () =>
      .pure () { state := .destroyed }
        (count.trace .cursorDestroy (query.count .cursorsDestroyed))

/-- The calls on the cursor of a count. -/
def protocol
    (count : Count)
    (adapter : StoreAdapter κ σ) :
    CursorProtocol Cursor (Query σ) where
  state := Cursor.state
  openWith := count.openWith
  next := count.next adapter
  close := count.close
  destroy := count.destroy
  rowBound := fun _ => 1

end Count

end HierQuery
