import HierQuery.HKey.Basic

/-!
# The order of hierarchical keys

Keys are compared segment by segment from the root: first by table, then by
key values.  A key comes before all keys that extend it.  The order is total
and tells two keys apart unless they are equal, so it can order the rows of a
group table.
-/

namespace HierQuery.HKey

instance : Ord Segment :=
  ⟨compareLex (compareOn Segment.table) (compareOn Segment.values)⟩

instance : Std.TransOrd Segment :=
  inferInstanceAs
    (Std.TransCmp
      (compareLex (compareOn Segment.table) (compareOn Segment.values)))

instance : Std.LawfulEqOrd Segment where
  eq_of_compare := by
    intro first second equal
    have parts :
        compare first.table second.table = .eq ∧
          compare first.values second.values = .eq :=
      Ordering.then_eq_eq.1 equal
    have tables : first.table = second.table :=
      Std.LawfulEqOrd.eq_of_compare parts.1
    have values : first.values = second.values :=
      Std.LawfulEqOrd.eq_of_compare parts.2
    cases first
    cases second
    simp_all

instance : Ord HKey :=
  ⟨compareOn HKey.segments⟩

instance : Std.TransOrd HKey :=
  inferInstanceAs (Std.TransCmp (compareOn HKey.segments))

instance : Std.LawfulEqOrd HKey where
  eq_of_compare := by
    intro first second equal
    have segments : first.segments = second.segments :=
      Std.LawfulEqOrd.eq_of_compare equal
    cases first
    cases second
    simp_all

/-- Whether `first` comes strictly before `second`. -/
def before (first second : HKey) : Bool :=
  (compare first second).isLT

theorem before_iff
    {first second : HKey} :
    first.before second = true ↔ compare first second = .lt := by
  simp [before, Ordering.isLT_iff_eq_lt]

theorem before_trans
    {first second third : HKey}
    (lower : first.before second)
    (upper : second.before third) :
    first.before third := by
  rw [before_iff] at *
  exact Std.TransCmp.lt_trans lower upper

theorem before_irrefl (key : HKey) :
    key.before key = false := by
  simp [before]

end HierQuery.HKey
