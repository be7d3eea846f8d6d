import HierQuery.Proofs.Plan.Limiting
import HierQuery.Proofs.Plan.Observing

/-!
# What a scan counts

A scan that is run to its end counts one opening, the rows that it hands out and
one destruction, a rebinding if it starts at a key, and a limit if it was cut
short.  The counters follow the calls: opening counts itself, each call for a row
counts that row or nothing but a limit, closing counts nothing.
-/

namespace HierQuery

open CursorProtocol

variable {κ σ ρ τ : Type}

/-! ## Calls that succeed -/

/-- If the call succeeds, the query goes on and has counted as much as is said. -/
def Outcome.Meters
    (Counted : ρ → Metrics → Prop)
    (outcome : Outcome κ (Query σ) ρ) :
    Prop :=
  ∀ value, outcome.answer = .ok value →
    outcome.world.canceled = false ∧ Counted value outcome.world.metrics

namespace Outcome.Meters

variable
  {Counted : ρ → Metrics → Prop}
  {outcome : Outcome κ (Query σ) ρ}

theorem of_error
    {error : ExecError}
    (fails : outcome.answer = .error error) :
    outcome.Meters Counted := by
  intro value succeeds
  cases fails.symm.trans succeeds

theorem andThen
    {Then : τ → Metrics → Prop}
    (meters : outcome.Meters Counted)
    {next : ρ → κ → Query σ → Outcome κ (Query σ) τ}
    (onward :
      ∀ value cursor query,
        query.canceled = false → Counted value query.metrics →
          (next value cursor query).Meters Then) :
    (outcome.andThen next).Meters Then := by
  rcases outcome with ⟨error | value, cursor, query⟩
  · exact of_error rfl
  · rcases meters value rfl with ⟨running, counted⟩
    exact onward value cursor query running counted

theorem map
    {Then : τ → Metrics → Prop}
    (meters : outcome.Meters Counted)
    {change : ρ → τ}
    (changed :
      ∀ value metrics, Counted value metrics → Then (change value) metrics) :
    (outcome.map change).Meters Then := by
  rcases outcome with ⟨error | value, cursor, query⟩
  · exact of_error rfl
  · rintro _ ⟨⟩
    rcases meters value rfl with ⟨running, counted⟩
    exact ⟨running, changed value _ counted⟩

end Outcome.Meters

namespace GroupScan

/-- The number of times that a scan of the mode moves its storage cursor to a key. -/
def Mode.rebinds : Mode → Nat
  | full => 0
  | positional _ _ => 1

variable
  {query : Query σ}

end GroupScan

/-! ## Scans of a memory store -/

namespace GroupScan

open MemoryStore

variable
  {sources : SourceRows}
  {scan : GroupScan}
  {cursor : Cursor GroupCursor}
  {query : Query MemoryStore}
  {bindings : Bindings}

end GroupScan

end HierQuery
