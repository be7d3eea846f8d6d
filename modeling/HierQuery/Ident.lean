/-!
# Identities of tables and group tables

A table and a group table are named by 32-bit numbers which the schema
issues.  The two kinds of number are kept apart by their types, and both are
ordered as numbers.
-/

namespace HierQuery

/-- The number that names a table. -/
structure TableId where
  value : UInt32
deriving DecidableEq, Inhabited

namespace TableId

/-- The number of the table in decimal. -/
def render (table : TableId) : String :=
  Nat.repr table.value.toNat

instance : Ord TableId :=
  ⟨compareOn TableId.value⟩

instance : Std.TransOrd TableId :=
  inferInstanceAs (Std.TransCmp (compareOn TableId.value))

instance : Std.LawfulEqOrd TableId where
  eq_of_compare := by
    intro first second equal
    have values : first.value = second.value :=
      Std.LawfulEqOrd.eq_of_compare equal
    cases first
    cases second
    simp_all

end TableId

/-- The number that names a group table: a root table with all its descendants. -/
structure GroupId where
  value : UInt32
deriving DecidableEq, Inhabited

namespace GroupId

/-- The number of the group table in decimal. -/
def render (group : GroupId) : String :=
  Nat.repr group.value.toNat

instance : Ord GroupId :=
  ⟨compareOn GroupId.value⟩

instance : Std.TransOrd GroupId :=
  inferInstanceAs (Std.TransCmp (compareOn GroupId.value))

instance : Std.LawfulEqOrd GroupId where
  eq_of_compare := by
    intro first second equal
    have values : first.value = second.value :=
      Std.LawfulEqOrd.eq_of_compare equal
    cases first
    cases second
    simp_all

end GroupId

end HierQuery
