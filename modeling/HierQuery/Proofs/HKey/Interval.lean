import HierQuery.HKey.Order
import HierQuery.HKey.Range

/-!
# Ranges of keys are intervals

A key comes before all keys that extend it, and between a key and its
extension there are only extensions of the key.  So each range which a scan
may visit is an interval in the order of the keys: once the keys have left
the range, they do not come back to it.
-/

namespace HierQuery

section Lists

variable {α : Type} [Ord α]

/-- A list does not come after the lists that it begins. -/
theorem isLE_compare_of_prefix
    [Std.ReflOrd α]
    {upper lower : List α}
    (begins : upper <+: lower) :
    (compare upper lower).isLE := by
  rcases begins with ⟨rest, rfl⟩
  rw [List.compare_eq_compareLex]
  induction upper with
  | nil =>
      exact List.isLE_compareLex_nil_left
  | cons head tail ih =>
      rw [List.cons_append, List.compareLex_cons_cons,
        Std.ReflOrd.compare_self]
      exact ih

/-- Between a list and one that it begins there are only lists that it begins. -/
theorem prefix_of_compare_between
    [Std.TransOrd α]
    [Std.LawfulEqOrd α]
    {top middle lower : List α}
    (after : (compare top middle).isLE)
    (before : (compare middle lower).isLE)
    (begins : top <+: lower) :
    top <+: middle := by
  rw [List.compare_eq_compareLex] at after before
  rcases begins with ⟨rest, rfl⟩
  induction top generalizing middle with
  | nil =>
      exact List.nil_prefix
  | cons head tail ih =>
      cases middle with
      | nil =>
          simp [List.compareLex_cons_nil] at after
      | cons first others =>
          rw [List.compareLex_cons_cons] at after
          rw [List.cons_append, List.compareLex_cons_cons] at before
          have sameHead : head = first :=
            Std.LawfulEqOrd.eq_of_compare
              (Std.OrientedCmp.isLE_antisymm
                (Ordering.isLE_left_of_isLE_then after)
                (Ordering.isLE_left_of_isLE_then before))
          subst sameHead
          rw [Std.ReflOrd.compare_self] at after before
          exact List.cons_prefix_cons.2 ⟨rfl, ih after before⟩

end Lists

namespace HKey

/-- A key does not come after the keys below it. -/
theorem isLE_of_isPrefixOf
    {upper lower : HKey}
    (above : upper.isPrefixOf lower) :
    (compare upper lower).isLE :=
  isLE_compare_of_prefix (isPrefixOf_iff.1 above)

/-- The keys at and below a key are an interval that starts at the key. -/
theorem isPrefixOf_of_between
    {top middle lower : HKey}
    (after : (compare top middle).isLE)
    (before : (compare middle lower).isLE)
    (above : top.isPrefixOf lower) :
    top.isPrefixOf middle :=
  isPrefixOf_iff.2
    (prefix_of_compare_between after before (isPrefixOf_iff.1 above))

/-- Of the keys below which another one lies, it is the only one that is no ancestor. -/
theorem isPrefixOf_eq_isAncestorOf
    {upper lower : HKey}
    (different : upper ≠ lower) :
    upper.isPrefixOf lower = upper.isAncestorOf lower := by
  cases above : upper.isPrefixOf lower with
  | false =>
      rw [isAncestorOf, above, Bool.and_false]
  | true =>
      have begins := isPrefixOf_iff.1 above
      have shorter : upper.depth < lower.depth := by
        refine Nat.lt_of_le_of_ne begins.length_le fun sameDepth => ?_
        apply different
        cases upper
        cases lower
        exact congrArg HKey.mk (begins.eq_of_length sameDepth)
      rw [isAncestorOf, above, Bool.and_true, decide_eq_true shorter]

@[simp]
theorem isPrefixOf_self (key : HKey) : key.isPrefixOf key = true :=
  isPrefixOf_iff.2 (List.prefix_refl _)

@[simp]
theorem isAncestorOf_self (key : HKey) : key.isAncestorOf key = false := by
  rw [isAncestorOf, decide_eq_false (Nat.lt_irrefl _), Bool.false_and]

/-- The ancestors of a key come before it. -/
theorem before_of_isAncestorOf
    {upper lower : HKey}
    (above : upper.isAncestorOf lower = true) :
    compare upper lower = .lt := by
  rcases isAncestorOf_iff.1 above with ⟨-, begins⟩
  refine (Ordering.isLE_iff_eq_lt_or_eq_eq.1
    (isLE_of_isPrefixOf begins)).resolve_right fun same => ?_
  rw [Std.LawfulEqOrd.eq_of_compare same, isAncestorOf_self] at above
  cases above

end HKey

namespace KeyRange

/-- The keys of a range do not come before its start. -/
theorem isLE_of_contains
    {range : KeyRange}
    {start key : HKey}
    (starts : range.start? = some start)
    (inside : range.contains key) :
    (compare start key).isLE := by
  cases range with
  | whole =>
      cases starts
  | subtree top =>
      cases starts
      exact HKey.isLE_of_isPrefixOf inside
  | exactly bound =>
      cases starts
      have same : start = key := by
        simpa [contains] using inside
      rw [same]
      exact Std.ReflOrd.isLE_rfl

/-- All keys from the start of a range up to a key of the range belong to it. -/
theorem contains_of_between
    {range : KeyRange}
    {middle last : HKey}
    (after :
      ∀ start, range.start? = some start →
        (compare start middle).isLE)
    (before : (compare middle last).isLE)
    (inside : range.contains last) :
    range.contains middle := by
  cases range with
  | whole =>
      rfl
  | subtree top =>
      exact HKey.isPrefixOf_of_between (after top rfl) before inside
  | exactly bound =>
      have same : bound = last := by
        simpa [contains] using inside
      subst same
      have equal : bound = middle :=
        Std.LawfulEqOrd.eq_of_compare
          (Std.OrientedCmp.isLE_antisymm (after bound rfl) before)
      simpa [contains] using equal

end KeyRange

end HierQuery
