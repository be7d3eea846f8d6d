import HierQuery.Lifecycle
import HierQuery.Limit
import HierQuery.Query
import HierQuery.Store.Adapter

/-!
# Scans of group tables

A scan hands out the rows of a group table in the order of their keys: all of
them, or those which a key bound to a slot reaches.  A limit may cut it short;
the row above the limit is dropped and ends the scan.

The cursor of a scan drives one storage cursor.  Rows outside of the range end
the scan as well, so a store that ignores the range is noticed.
-/

namespace HierQuery

/-- Which rows of its group a scan visits. -/
inductive GroupScan.Mode
  | full
  /-- The rows that the key in a slot reaches. -/
  | positional (slot : Nat) (reach : Reach)
deriving DecidableEq, Inhabited

/-- A scan of one group table. -/
structure GroupScan where
  group : GroupTable
  mode : GroupScan.Mode
  limit : Limit := .unlimited
deriving DecidableEq, Inhabited

namespace GroupScan

/-- The name of the operator in plans and failures. -/
def operatorName : String :=
  "GroupScan"

/-- The mode in a plan description. -/
def Mode.render : Mode → String
  | full => "full"
  | positional slot reach => reach.render ++ " $" ++ Nat.repr slot

/-- The number of binding slots that the mode needs. -/
def Mode.bindingSlots : Mode → Nat
  | full => 0
  | positional slot _ => slot + 1

/-- The scan in a plan description; a limit is shown if there is one. -/
def render (scan : GroupScan) : String :=
  let limit := if scan.limit.isUnlimited then "" else ", " ++ scan.limit.render
  operatorName ++ "(" ++ scan.group.name ++ ", " ++ scan.mode.render ++ limit ++ ")"

/-- The cursor of a scan. -/
structure Cursor (κ : Type) where
  storage : κ
  state : CursorState := .idle
  /-- The keys that the scan was opened for last. -/
  range : KeyRange := .whole
  /-- The rows tallied since the scan was opened. -/
  tally : Limit.Tally := {}

variable {κ σ α : Type}

/-- Makes a call on the storage cursor; a failure is told as one of this operator. -/
def Cursor.onStorage
    (call : κ → σ → Outcome κ σ α)
    (cursor : Cursor κ)
    (query : Query σ) :
    Outcome (Cursor κ) (Query σ) α :=
  let outcome := call cursor.storage query.store
  ⟨outcome.answer.mapError fun error => error.within operatorName,
    { cursor with storage := outcome.cursor },
    { query with store := outcome.world }⟩

/-- A fresh, idle cursor. -/
def newCursor
    (scan : GroupScan)
    (adapter : StoreAdapter κ σ)
    (query : Query σ) :
    Except ExecError (Cursor κ) × Query σ :=
  match adapter.newCursor scan.group query.store with
  | (.ok storage, store) => (.ok { storage }, { query with store })
  | (.error error, store) =>
      (.error (error.within operatorName), { query with store })

/-- Moves the storage cursor to the rows that the bound key reaches. -/
def position
    (scan : GroupScan)
    (adapter : StoreAdapter κ σ)
    (bindings : Bindings)
    (cursor : Cursor κ)
    (query : Query σ) :
    Outcome (Cursor κ) (Query σ) Unit :=
  match scan.mode with
  | .full => .pure () cursor query
  | .positional slot reach =>
      match bindings.getKey slot with
      | .error error => .fail (error.within operatorName) cursor query
      | .ok key =>
          let range := KeyRange.reaching reach key
          (cursor.onStorage (adapter.rebind range) query).andThen
            fun () cursor query =>
              .pure () { cursor with range } (query.count .rebinds)

/-- Opens the storage cursor and starts the tally anew. -/
def start
    (adapter : StoreAdapter κ σ)
    (bindings : Bindings)
    (cursor : Cursor κ)
    (query : Query σ) :
    Outcome (Cursor κ) (Query σ) Unit :=
  (cursor.onStorage (adapter.openWith bindings) query).andThen
    fun () cursor query =>
      .pure () { cursor with state := .active, tally := {} }
        ((query.count .cursorsOpened).trace .cursorOpen operatorName
          cursor.range.render)

/-- Opens a scan.  A bound range stays even if the storage cursor cannot be opened. -/
def openWith
    (scan : GroupScan)
    (adapter : StoreAdapter κ σ)
    (bindings : Bindings)
    (cursor : Cursor κ)
    (query : Query σ) :
    Outcome (Cursor κ) (Query σ) Unit :=
  match cursor.state.requireIdle operatorName with
  | .error error => .fail error cursor query
  | .ok () =>
      (scan.position adapter bindings cursor query).andThen
        fun () cursor query => start adapter bindings cursor query

/-- Closes the storage cursor if it is active.  The scan is idle then, even if that fails. -/
def release
    (adapter : StoreAdapter κ σ)
    (cursor : Cursor κ)
    (query : Query σ) :
    Outcome (Cursor κ) (Query σ) Unit :=
  let closed := cursor.onStorage adapter.closeActive query
  { closed with
    cursor := { closed.cursor with state := closed.cursor.state.deactivate } }

/-- Ends a scan for the given reason. -/
def finish
    (adapter : StoreAdapter κ σ)
    (reason : Event)
    (cursor : Cursor κ)
    (query : Query σ) :
    Outcome (Cursor κ) (Query σ) Unit :=
  let released := release adapter cursor query
  { released with
    world :=
      released.world.trace reason operatorName released.cursor.range.render }

/-- Closes the storage cursor after a failure, which stays the answer. -/
def abort
    (adapter : StoreAdapter κ σ)
    (error : ExecError)
    (cursor : Cursor κ)
    (query : Query σ) :
    Outcome (Cursor κ) (Query σ) α :=
  let closed := cursor.onStorage adapter.close query
  .fail (error.within operatorName)
    { closed.cursor with state := closed.cursor.state.deactivate }
    closed.world

/-- Hands a row out, unless it is outside of the range or above the limit. -/
def offer
    (scan : GroupScan)
    (adapter : StoreAdapter κ σ)
    (row : Row)
    (cursor : Cursor κ)
    (query : Query σ) :
    Outcome (Cursor κ) (Query σ) (Option Row) :=
  if cursor.range.admits row.key? then
    match scan.limit.reached cursor.tally row with
    | (true, tally) =>
        (finish adapter .limitReached { cursor with tally }
          (query.count .limitsReached)).map fun () => none
    | (false, tally) =>
        .pure (some row) { cursor with tally }
          ((query.count .rowsProduced).trace .rowYield operatorName row.render)
  else
    (finish adapter .endOfStream cursor query).map fun () => none

/-- The next row of an active scan. -/
def next
    (scan : GroupScan)
    (adapter : StoreAdapter κ σ)
    (cursor : Cursor κ)
    (query : Query σ) :
    Outcome (Cursor κ) (Query σ) (Option Row) :=
  match cursor.state.requireActive operatorName with
  | .error error => .fail error cursor query
  | .ok () =>
      match query.checkCancellation with
      | (.error error, query) => abort adapter error cursor query
      | (.ok (), query) =>
          let fetched := cursor.onStorage adapter.next query
          match fetched.answer with
          | .error error => abort adapter error fetched.cursor fetched.world
          | .ok none =>
              (finish adapter .endOfStream fetched.cursor fetched.world).map
                fun () => none
          | .ok (some row) =>
              scan.offer adapter row fetched.cursor fetched.world

/-- Ends an active scan; an idle one is left alone. -/
def close
    (adapter : StoreAdapter κ σ)
    (cursor : Cursor κ)
    (query : Query σ) :
    Outcome (Cursor κ) (Query σ) Unit :=
  match cursor.state.requireAlive operatorName with
  | .error error => .fail error cursor query
  | .ok () =>
      if cursor.state = .active then
        finish adapter .cursorClose cursor query
      else
        .pure () cursor query

/-- Destroys the scan's cursor and the storage cursor with it. -/
def destroy
    (adapter : StoreAdapter κ σ)
    (cursor : Cursor κ)
    (query : Query σ) :
    Outcome (Cursor κ) (Query σ) Unit :=
  match cursor.state.requireAlive operatorName with
  | .error error => .fail error cursor query
  | .ok () =>
      Cursor.onStorage adapter.destroy
        { cursor with state := .destroyed, range := .whole }
        ((query.count .cursorsDestroyed).trace .cursorDestroy operatorName "")

/-- The calls on the cursor of a scan. -/
def protocol
    (scan : GroupScan)
    (adapter : StoreAdapter κ σ) :
    CursorProtocol (Cursor κ) (Query σ) where
  state := Cursor.state
  openWith := scan.openWith adapter
  next := scan.next adapter
  close := close adapter
  destroy := destroy adapter
  rowBound := fun query => adapter.rowBound query.store

end GroupScan

end HierQuery
