import HierQuery.Ident
import HierQuery.Value

/-!
# Hierarchical keys

A hierarchical key, *hkey* for short, names the place of a row in its group
table: one segment for each level, from the root table down to the row's own
table, and in each segment the key values of that level.

A key is a *prefix* of the keys of the rows below it.  The strict prefixes of
a key are its ancestors.
-/

namespace HierQuery

/-- One level of an hkey: the table at that level and its key values. -/
structure HKey.Segment where
  table : TableId
  values : List Value
deriving DecidableEq, Inhabited

/-- The segments of a row's place, root level first. -/
structure HKey where
  segments : List HKey.Segment
deriving DecidableEq, Inhabited

namespace HKey

/-- The table number in parentheses, then the values with nothing between them. -/
def Segment.render (segment : Segment) : String :=
  "(" ++ segment.table.render ++ ")" ++
    String.join (segment.values.map Value.render)

/-- The key of a row of a root table. -/
def root
    (table : TableId)
    (values : List Value) :
    HKey :=
  ⟨[⟨table, values⟩]⟩

/-- The key of a row one level below the row at `key`. -/
def child
    (key : HKey)
    (table : TableId)
    (values : List Value) :
    HKey :=
  ⟨key.segments ++ [⟨table, values⟩]⟩

/-- The number of levels. -/
def depth (key : HKey) : Nat :=
  key.segments.length

/-- The table of the row that the key names; the empty key names none. -/
def table? (key : HKey) : Option TableId :=
  key.segments.getLast?.map Segment.table

/-- The key one level up.  A root row and the empty key have none. -/
def parent? (key : HKey) : Option HKey :=
  if key.depth ≤ 1 then
    none
  else
    some ⟨key.segments.dropLast⟩

/-- Whether `lower` is `upper` or lies below it. -/
def isPrefixOf (upper lower : HKey) : Bool :=
  upper.segments.isPrefixOf lower.segments

/-- Whether `lower` lies strictly below `upper`. -/
def isAncestorOf (upper lower : HKey) : Bool :=
  upper.depth < lower.depth && upper.isPrefixOf lower

/-- The segments in braces, separated by commas. -/
def render (key : HKey) : String :=
  "\x7b" ++ ",".intercalate (key.segments.map Segment.render) ++ "\x7d"

@[simp]
theorem depth_root
    (table : TableId)
    (values : List Value) :
    (root table values).depth = 1 :=
  rfl

@[simp]
theorem depth_child
    (key : HKey)
    (table : TableId)
    (values : List Value) :
    (key.child table values).depth = key.depth + 1 := by
  simp [depth, child]

@[simp]
theorem table?_child
    (key : HKey)
    (table : TableId)
    (values : List Value) :
    (key.child table values).table? = some table := by
  simp [table?, child]

theorem isPrefixOf_iff
    {upper lower : HKey} :
    upper.isPrefixOf lower = true ↔
      upper.segments <+: lower.segments := by
  simp [isPrefixOf]

theorem isAncestorOf_iff
    {upper lower : HKey} :
    upper.isAncestorOf lower = true ↔
      upper.depth < lower.depth ∧ upper.isPrefixOf lower = true := by
  simp [isAncestorOf]

end HKey

end HierQuery
