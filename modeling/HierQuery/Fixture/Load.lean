import HierQuery.Fixture.Basic
import HierQuery.Store.Memory

/-!
# Loading a fixture

A fixture is loaded into a fresh memory store: first the statuses of its
tables, then its rows in order, then the counts are committed if the fixture
says so.  Loading stops at the first row whose key is taken.
-/

namespace HierQuery

/-- Stores rows in order, up to the first one that is refused. -/
def MemoryStore.writeRows
    (store : MemoryStore) :
    List Row → Except ExecError Unit × MemoryStore
  | [] => (.ok (), store)
  | row :: rows =>
      match store.writeRow row with
      | (.ok (), written) => written.writeRows rows
      | (.error error, stopped) => (.error error, stopped)

namespace Fixture

/-- The log record of a loaded fixture. -/
def loadedRecord (fixture : Fixture) : Log.Record :=
  Event.fixtureLoaded.record
    [("committed", if fixture.commit then "true" else "false"),
      ("rows", Nat.repr fixture.rows.length),
      ("tables", Nat.repr fixture.schema.tables.length)]

/-- A fresh store with all rows of the fixture. -/
def load
    (fixture : Fixture)
    (sessionId : String)
    (countMode : CountMode) :
    Except FixtureError MemoryStore × Log :=
  let (created, creation) :=
    MemoryStore.create fixture.schema {} sessionId countMode
  match created.writeRows fixture.rows with
  | (.error error, _) => (.error (.execution error), creation)
  | (.ok (), written) =>
      let (store, commitment) :=
        if fixture.commit then written.commit else (written, [])
      (.ok store, creation ++ commitment ++ [fixture.loadedRecord])

end Fixture

end HierQuery
