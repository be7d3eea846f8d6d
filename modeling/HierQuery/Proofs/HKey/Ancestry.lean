import HierQuery.Proofs.HKey.Interval
import Mathlib.Data.List.Induction
import Mathlib.Data.List.Infix
import Mathlib.Logic.Relation

/-!
# Ancestors

A key is an ancestor of the longer keys that it begins.  The key one level up is
found by taking the last level away, and the key of a root row has none above
it.  So the ancestors of a key are those that are reached by going up from it,
and the empty key besides: it begins all other keys, but it is one level above
none of them.

The two are compared level by level.  A key is empty or that of a child, and
what lies above the child is its parent or lies above the parent.
-/

namespace HierQuery.HKey

/-- The key without any level.  It is the key of no row. -/
def empty : HKey :=
  ⟨[]⟩

/-- `upper` is the key one level above `lower`. -/
def IsParentOf (upper lower : HKey) : Prop :=
  lower.parent? = some upper

/-- Each key is empty or lies one level below another one. -/
@[elab_as_elim]
theorem induct
    {motive : HKey → Prop}
    (empty : motive empty)
    (child :
      ∀ key table values,
        motive key → motive (key.child table values))
    (key : HKey) :
    motive key := by
  rcases key with ⟨segments⟩
  induction segments using List.reverseRecOn with
  | nil =>
      exact empty
  | append_singleton segments last ih =>
      exact child ⟨segments⟩ last.table last.values ih

section

variable
  {upper middle lower key first second : HKey}
  {table : TableId}
  {values : List Value}

/-! ## Prefixes -/

theorem isPrefixOf_trans
    (higher : upper.isPrefixOf middle)
    (above : middle.isPrefixOf lower) :
    upper.isPrefixOf lower :=
  isPrefixOf_iff.2
    ((isPrefixOf_iff.1 higher).trans (isPrefixOf_iff.1 above))

/-- The keys that begin one key are a line. -/
theorem isPrefixOf_or_isPrefixOf
    (firstAbove : first.isPrefixOf lower)
    (secondAbove : second.isPrefixOf lower) :
    first.isPrefixOf second ∨ second.isPrefixOf first := by
  simp only [isPrefixOf_iff] at *
  exact List.prefix_or_prefix_of_prefix firstAbove secondAbove

theorem isPrefixOf_child_iff :
    upper.isPrefixOf (key.child table values) ↔
      upper = key.child table values ∨ upper.isPrefixOf key := by
  cases upper
  simp only [isPrefixOf_iff, child, List.prefix_concat_iff, mk.injEq]

/-! ## Ancestors -/

theorem isAncestorOf_trans
    (higher : upper.isAncestorOf middle)
    (above : middle.isAncestorOf lower) :
    upper.isAncestorOf lower := by
  rw [isAncestorOf_iff] at *
  exact ⟨higher.1.trans above.1, isPrefixOf_trans higher.2 above.2⟩

theorem isPrefixOf_iff_eq_or_isAncestorOf :
    upper.isPrefixOf lower ↔ upper = lower ∨ upper.isAncestorOf lower := by
  rcases eq_or_ne upper lower with rfl | different
  · simp
  · simp [isPrefixOf_eq_isAncestorOf different, different]

/-- What lies above a child is its parent or lies above the parent. -/
theorem isAncestorOf_child_iff :
    upper.isAncestorOf (key.child table values) ↔ upper.isPrefixOf key := by
  rw [isAncestorOf_iff, isPrefixOf_child_iff]
  constructor
  · rintro ⟨shorter, same | begins⟩
    · rw [same] at shorter
      exact (Nat.lt_irrefl _ shorter).elim
    · exact begins
  · intro begins
    refine ⟨?_, .inr begins⟩
    rw [depth_child, Nat.lt_succ_iff]
    exact (isPrefixOf_iff.1 begins).length_le

theorem not_isAncestorOf_empty : ¬ upper.isAncestorOf empty := by
  intro above
  exact Nat.not_lt_zero _ (isAncestorOf_iff.1 above).1

/-! ## Going up -/

theorem child_ne_empty : key.child table values ≠ empty := by
  simp [child, empty]

theorem parent?_child (named : key ≠ empty) :
    (key.child table values).parent? = some key := by
  have deep : ¬ key.depth + 1 ≤ 1 := by
    intro shallow
    apply named
    cases key
    simpa [depth, empty] using shallow
  rw [parent?, depth_child, if_neg deep, child, List.dropLast_concat]

/-- The child of a row lies one level below it; a root row lies below none. -/
theorem isParentOf_child_iff :
    IsParentOf upper (key.child table values) ↔ key ≠ empty ∧ upper = key := by
  rcases eq_or_ne key empty with rfl | named
  · simp [IsParentOf, parent?, empty, child, depth]
  · simp [IsParentOf, parent?_child named, named, eq_comm]

theorem not_climbs_empty : ¬ Relation.TransGen IsParentOf upper empty := by
  intro climbs
  rcases Relation.TransGen.tail'_iff.1 climbs with ⟨_, -, isParent⟩
  cases isParent

/-- The way up from a child leads to its parent first. -/
theorem climbs_child_iff :
    Relation.TransGen IsParentOf upper (key.child table values) ↔
      key ≠ empty ∧
        (upper = key ∨ Relation.TransGen IsParentOf upper key) := by
  simp only [Relation.TransGen.tail'_iff (c := key.child table values),
    isParentOf_child_iff, Relation.reflTransGen_iff_eq_or_transGen]
  constructor
  · rintro ⟨_, climbs, named, rfl⟩
    exact ⟨named, climbs.imp_left Eq.symm⟩
  · rintro ⟨named, climbs⟩
    exact ⟨key, climbs.imp_left Eq.symm, named, rfl⟩

/-- The ancestors of a key are those that are reached by going up from it, and the empty key. -/
theorem isAncestorOf_iff_climbs :
    upper.isAncestorOf lower ↔
      Relation.TransGen IsParentOf upper lower ∨
        upper = empty ∧ lower ≠ empty := by
  induction lower using induct with
  | empty =>
      simp [not_isAncestorOf_empty, not_climbs_empty]
  | child key table values ih =>
      rw [isAncestorOf_child_iff, isPrefixOf_iff_eq_or_isAncestorOf, ih,
        climbs_child_iff]
      rcases eq_or_ne key empty with rfl | named
      · -- A root row: the empty key lies above it, but is not reached.
        simp [not_climbs_empty, child_ne_empty]
      · simp [named, child_ne_empty, or_assoc]

end

/--
To be an ancestor is a strict order that agrees with the order of the keys, and
the ancestors of one key are a line.  They are the keys that are reached from it
by going up once or more, and the empty key if it is not the key itself.  Going
up from a child leads back to the row that it was put below, unless that was the
empty key, and what lies below the child lies below that row too.
-/
theorem ancestry_closes_parent :
    (∀ key : HKey, ¬ key.isAncestorOf key) ∧
      (∀ upper middle lower : HKey,
        upper.isAncestorOf middle →
          middle.isAncestorOf lower → upper.isAncestorOf lower) ∧
        (∀ upper lower : HKey,
          upper.isAncestorOf lower → compare upper lower = .lt) ∧
          (∀ first second lower : HKey,
            first.isAncestorOf lower →
              second.isAncestorOf lower →
                first.isPrefixOf second ∨ second.isPrefixOf first) ∧
            (∀ upper lower : HKey,
              upper.isAncestorOf lower ↔
                Relation.TransGen IsParentOf upper lower ∨
                  upper = empty ∧ lower ≠ empty) ∧
              ∀ (key : HKey) (table : TableId) (values : List Value),
                ((key.child table values).parent? = some key ↔ key ≠ empty) ∧
                  ∀ lower,
                    (key.child table values).isAncestorOf lower →
                      key.isAncestorOf lower := by
  refine ⟨?_, ?_, ?_, ?_, ?_, ?_⟩
  · intro key
    simp
  · intro upper middle lower
    exact isAncestorOf_trans
  · intro upper lower
    exact before_of_isAncestorOf
  · intro first second lower firstAbove secondAbove
    exact isPrefixOf_or_isPrefixOf
      (isAncestorOf_iff.1 firstAbove).2 (isAncestorOf_iff.1 secondAbove).2
  · intro upper lower
    exact isAncestorOf_iff_climbs
  · intro key table values
    constructor
    · exact isParentOf_child_iff.trans (and_iff_left rfl)
    · intro lower above
      have isChild : key.isAncestorOf (key.child table values) :=
        isAncestorOf_child_iff.2 key.isPrefixOf_self
      exact isAncestorOf_trans isChild above

/-- A root row, a row below it and one below that, with the empty key above them. -/
theorem ancestry_closes_parent_of_line :
    let top := HKey.root ⟨1⟩ [.int 1]
    let middle := top.child ⟨2⟩ [.text "a"]
    let lower := middle.child ⟨3⟩ [.null, .bool true]
    top.isAncestorOf middle ∧
      middle.isAncestorOf lower ∧
        top.isAncestorOf lower ∧
          compare top lower = .lt ∧
            (top.isPrefixOf middle ∨ middle.isPrefixOf top) ∧
              Relation.TransGen IsParentOf top lower ∧
                lower.parent? = some middle ∧ empty.isAncestorOf middle := by
  intro top middle lower
  rcases ancestry_closes_parent with
    ⟨-, transitive, agrees, line, closure, children⟩
  have topMiddle : top.isAncestorOf middle := by
    decide
  have middleLower : middle.isAncestorOf lower := by
    decide
  have topLower : top.isAncestorOf lower :=
    transitive top middle lower topMiddle middleLower
  have named : top ≠ empty := by
    decide
  refine
    ⟨topMiddle, middleLower, topLower, agrees top lower topLower, ?_, ?_, ?_, ?_⟩
  · exact line top middle lower topLower middleLower
  · exact ((closure top lower).1 topLower).resolve_right (named ·.1)
  · exact (children middle ⟨3⟩ [.null, .bool true]).1.2 child_ne_empty
  · exact (children empty ⟨1⟩ [.int 1]).2 middle topMiddle

end HierQuery.HKey
