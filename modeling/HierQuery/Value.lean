/-!
# Scalar values

A value fills a column of a row or one position of a hierarchical key.
Values of different kinds are comparable: absence comes first, then truth
values, then integers, then text.  Text is ordered by code points, which is
the order of its UTF-8 bytes.
-/

namespace HierQuery

/-- A single column or key value. -/
inductive Value
  | null
  | bool (flag : Bool)
  | int (number : Int64)
  | text (content : String)
deriving DecidableEq, Inhabited

namespace Value

/-- The integer inside, if the value is one. -/
def asInt? : Value → Option Int64
  | int number => some number
  | _ => none

/-- The text inside, if the value is one. -/
def asText? : Value → Option String
  | text content => some content
  | _ => none

/-- Whether the value is the absent one. -/
def isNull : Value → Bool
  | null => true
  | _ => false

/-- The text that messages and plans show.  Text is quoted, but a quote inside it is not marked. -/
def render : Value → String
  | null => "NULL"
  | bool true => "true"
  | bool false => "false"
  | int number => Int.repr number.toInt
  | text content => "'" ++ content ++ "'"

/-- The place of the value's kind among the kinds. -/
def rank : Value → Nat
  | null => 0
  | bool _ => 1
  | int _ => 2
  | text _ => 3

/-- Values of one kind by their contents, values of two kinds by the kinds. -/
def order : Value → Value → Ordering
  | null, null => .eq
  | bool first, bool second => compare first second
  | int first, int second => compare first second
  | text first, text second => compare first second
  | first, second => compare first.rank second.rank

instance : Ord Value :=
  ⟨order⟩

instance : Std.OrientedOrd Value where
  eq_swap := by
    intro first second
    change order first second = (order second first).swap
    cases first <;> cases second <;> simp only [order, rank]
    · rfl
    all_goals exact Std.OrientedOrd.eq_swap

instance : Std.TransOrd Value where
  isLE_trans := by
    intro first second third
    change (order first second).isLE → (order second third).isLE →
      (order first third).isLE
    intro lower upper
    cases first <;> cases second <;> cases third <;>
      simp only [order, rank] at *
    all_goals first
      | exact Std.TransOrd.isLE_trans lower upper
      | contradiction
      | rfl

instance : Std.LawfulEqOrd Value where
  compare_self := by
    intro value
    change order value value = .eq
    cases value <;> simp [order]
  eq_of_compare := by
    intro first second
    change order first second = .eq → first = second
    cases first <;> cases second <;> simp [order, rank]

end Value

end HierQuery
