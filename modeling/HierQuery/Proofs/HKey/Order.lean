import HierQuery.Proofs.HKey.Interval
import HierQuery.Proofs.Text.Bytes

/-!
# What the order of keys compares

Values, segments and keys are each ordered by a rule: values of two kinds by
the kinds and values of one kind by what they hold, text by its bytes; segments
by their tables and then by their values; keys by their segments, where a key
comes before those that go on.  The comparisons decide these rules, and each
rule is a total order.  In the order of the keys, the keys at and below one are
an interval that starts with it.
-/

namespace HierQuery

/-! ## Comparisons -/

/-- A comparison tells of any two things which one comes first, in an order that is total. -/
structure Orders {α : Type} [Ord α] (Before : α → α → Prop) : Prop where
  lower : ∀ first second : α, compare first second = .lt ↔ Before first second
  same : ∀ first second : α, compare first second = .eq ↔ first = second
  upper : ∀ first second : α, compare first second = .gt ↔ Before second first
  total :
    ∀ first second : α,
      (compare first second).isLE ∨ (compare second first).isLE
  antisymmetric :
    ∀ first second : α,
      (compare first second).isLE →
        (compare second first).isLE → first = second
  transitive :
    ∀ first second third : α,
      (compare first second).isLE →
        (compare second third).isLE → (compare first third).isLE

/-- The laws of a lawful comparison follow from what it says of the things that come first. -/
theorem orders_of_lower
    {α : Type}
    [Ord α]
    [Std.TransOrd α]
    [Std.LawfulEqOrd α]
    {Before : α → α → Prop}
    (lower :
      ∀ first second : α, compare first second = .lt ↔ Before first second) :
    Orders Before where
  lower := lower
  same _ _ := Std.compare_eq_iff_eq
  upper first second := by
    rw [Std.OrientedCmp.gt_iff_lt, lower]
  total first second := by
    have swapped : compare second first = (compare first second).swap :=
      Std.OrientedOrd.eq_swap
    rw [swapped]
    cases compare first second <;> simp
  antisymmetric _ _ before after :=
    Std.LawfulEqOrd.eq_of_compare (Std.OrientedCmp.isLE_antisymm before after)
  transitive _ _ _ := Std.TransCmp.isLE_trans

/-- Lists are compared by the first place at which they differ. -/
theorem compare_list_eq_lt_iff
    {α : Type}
    [Ord α]
    [Std.LawfulEqOrd α]
    {Before : α → α → Prop}
    (lower :
      ∀ first second, compare first second = .lt ↔ Before first second)
    (first second : List α) :
    compare first second = .lt ↔ List.Lex Before first second := by
  induction first generalizing second with
  | nil =>
      cases second <;> simp
  | cons head tail ih =>
      cases second with
      | nil =>
          simp
      | cons other others =>
          simp [List.cons_lex_cons_iff, Ordering.then_eq_lt, lower, ih]

/-! ## Values, segments and keys -/

/--
Absence before all else, then truth values, integers and texts; values of one
kind by what they hold.
-/
inductive Value.Before : Value → Value → Prop
  | absent
      {second : Value}
      (present : second ≠ .null) :
      Before .null second
  | bools : Before (.bool false) (.bool true)
  | bool_int (flag : Bool) (number : Int64) :
      Before (.bool flag) (.int number)
  | bool_text (flag : Bool) (content : String) :
      Before (.bool flag) (.text content)
  | ints
      {first second : Int64}
      (lower : first.toInt < second.toInt) :
      Before (.int first) (.int second)
  | int_text (number : Int64) (content : String) :
      Before (.int number) (.text content)
  | texts
      {first second : String}
      (lower : Text.bytes first < Text.bytes second) :
      Before (.text first) (.text second)

theorem Value.compare_eq_lt_iff (first second : Value) :
    compare first second = .lt ↔ first.Before second := by
  change order first second = .lt ↔ _
  constructor
  · intro lower
    cases first <;> cases second <;> simp only [order] at lower
    case bool.bool flag other =>
      cases flag <;> cases other <;> first | exact .bools | cases lower
    case int.int number other =>
      exact .ints (Int64.lt_iff_toInt_lt.1 (Std.compare_eq_lt.1 lower))
    case text.text content other =>
      apply Before.texts
      rw [Text.bytes_lt_bytes_iff]
      exact compare_lt_iff_lt.1 lower
    all_goals cases lower
    · exact .absent nofun
    · exact .absent nofun
    · exact .absent nofun
    · exact .bool_int _ _
    · exact .bool_text _ _
    · exact .int_text _ _
  · intro before
    cases before with
    | @absent second present =>
        cases second <;> first | rfl | exact (present rfl).elim
    | bools | bool_int _ _ | bool_text _ _ | int_text _ _ =>
        rfl
    | ints lower =>
        exact Std.compare_eq_lt.2 (Int64.lt_iff_toInt_lt.2 lower)
    | texts lower =>
        exact compare_lt_iff_lt.2 (Text.bytes_lt_bytes_iff.1 lower)

namespace HKey

/-- Segments by their tables, and segments of one table by their values. -/
inductive Segment.Before : Segment → Segment → Prop
  | tables
      {first second : Segment}
      (lower : first.table.value.toNat < second.table.value.toNat) :
      Before first second
  | values
      {first second : Segment}
      (sameTable : first.table = second.table)
      (lower : List.Lex Value.Before first.values second.values) :
      Before first second

theorem Segment.compare_eq_lt_iff (first second : Segment) :
    compare first second = .lt ↔ first.Before second := by
  change
    (compare first.table.value second.table.value).then
        (compare first.values second.values) = .lt ↔ _
  rw [Ordering.then_eq_lt, Std.compare_eq_lt, UInt32.lt_iff_toNat_lt,
    compare_list_eq_lt_iff Value.compare_eq_lt_iff]
  constructor
  · rintro (lower | ⟨same, lower⟩)
    · exact .tables lower
    · apply Segment.Before.values _ lower
      exact Std.LawfulEqOrd.eq_of_compare same
  · rintro (lower | ⟨same, lower⟩)
    · exact .inl lower
    · refine .inr ⟨?_, lower⟩
      rw [same]
      exact Std.ReflOrd.compare_self

/-- Keys by their segments; a key comes before those that go on. -/
def Before (first second : HKey) : Prop :=
  List.Lex Segment.Before first.segments second.segments

theorem compare_eq_lt_iff (first second : HKey) :
    compare first second = .lt ↔ first.Before second :=
  compare_list_eq_lt_iff Segment.compare_eq_lt_iff _ _

/--
The comparisons of values, segments and keys decide total orders.  A key does
not come after those that it begins, and between it and one of them there are
only keys that it begins.
-/
theorem ordered_in_intervals :
    Orders Value.Before ∧
      Orders Segment.Before ∧
        Orders HKey.Before ∧
          (∀ upper lower : HKey,
            upper.isPrefixOf lower → (compare upper lower).isLE) ∧
            ∀ top middle lower : HKey,
              (compare top middle).isLE →
                (compare middle lower).isLE →
                  top.isPrefixOf lower → top.isPrefixOf middle := by
  refine ⟨?_, ?_, ?_, ?_, ?_⟩
  · exact orders_of_lower Value.compare_eq_lt_iff
  · exact orders_of_lower Segment.compare_eq_lt_iff
  · exact orders_of_lower compare_eq_lt_iff
  · intro upper lower above
    exact isLE_of_isPrefixOf above
  · intro top middle lower after before above
    exact isPrefixOf_of_between after before above

/-- Between a row and one two levels below it lies the row between them. -/
theorem ordered_in_intervals_of_line :
    let top := HKey.root ⟨1⟩ [.int 1]
    let middle := top.child ⟨2⟩ [.text "a"]
    let lower := middle.child ⟨3⟩ [.null, .bool true]
    (compare top middle).isLE ∧
      (compare middle lower).isLE ∧
        top.isPrefixOf lower ∧ top.isPrefixOf middle := by
  intro top middle lower
  have after : (compare top middle).isLE :=
    ordered_in_intervals.2.2.2.1 top middle (by decide)
  have before : (compare middle lower).isLE :=
    ordered_in_intervals.2.2.2.1 middle lower (by decide)
  have above : top.isPrefixOf lower := by
    decide
  refine ⟨after, before, above, ?_⟩
  exact ordered_in_intervals.2.2.2.2 top middle lower after before above

end HKey

end HierQuery
