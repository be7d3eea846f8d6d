import HierQuery.Row
import HierQuery.SortedMap

/-!
# Limits of a scan

A limit caps the rows of a scan, either all of them together or those of
single tables.  Every row is tallied before it is tested, so the first row
above a cap is the one that is refused.
-/

namespace HierQuery

/-- The most rows that a scan hands out. -/
inductive Limit
  | unlimited
  | rows (most : Nat)
  /-- Caps on the listed tables; other tables have none. -/
  | perTable (caps : SortedMap TableId Nat)
deriving DecidableEq, Inhabited

namespace Limit

/-- Whether nothing is capped. -/
def isUnlimited : Limit → Bool
  | unlimited => true
  | _ => false

/-- The written form in plan descriptions. -/
def render : Limit → String
  | unlimited => "NoLimit"
  | rows most => "RowLimit(" ++ Nat.repr most ++ ")"
  | perTable caps =>
      "PerTableRowLimit(" ++
        ", ".intercalate
          (caps.entries.map fun (table, most) =>
            "t" ++ table.render ++ ": " ++ Nat.repr most) ++ ")"

/-- The rows tallied since a scan was opened. -/
structure Tally where
  total : Nat := 0
  perTable : SortedMap TableId Nat := .empty
deriving DecidableEq, Inhabited

/-- The rows tallied for one table. -/
def Tally.of (tally : Tally) (table : TableId) : Nat :=
  (tally.perTable.get? table).getD 0

/-- The tally with one more row of a table. -/
def Tally.add (tally : Tally) (table : TableId) : Tally :=
  { tally with
    perTable := tally.perTable.insert table (tally.of table + 1) }

/-- Tallies a row and tells whether it is above a cap. -/
def reached (limit : Limit) (tally : Tally) (row : Row) : Bool × Tally :=
  match limit with
  | unlimited => (false, tally)
  | rows most =>
      let tally := { tally with total := tally.total + 1 }
      (decide (most < tally.total), tally)
  | perTable caps =>
      match row.rowType.table? with
      | none => (false, tally)
      | some table =>
          match caps.get? table with
          | none => (false, tally)
          | some most =>
              let tally := tally.add table
              (decide (most < tally.of table), tally)

@[simp]
theorem Tally.of_add_self (tally : Tally) (table : TableId) :
    (tally.add table).of table = tally.of table + 1 := by
  simp [Tally.of, Tally.add]

theorem Tally.of_add_of_ne
    (tally : Tally)
    {table other : TableId}
    (different : other ≠ table) :
    (tally.add table).of other = tally.of other := by
  have notEqual : ¬ compare other table = .eq :=
    fun same => different (Std.LawfulEqOrd.eq_of_compare same)
  simp [Tally.of, Tally.add, notEqual]

end Limit

end HierQuery
