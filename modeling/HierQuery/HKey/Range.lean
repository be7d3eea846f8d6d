import HierQuery.HKey.Basic

/-!
# Ranges of hierarchical keys

A scan of a group table visits all keys, the keys at and below a given one,
or a given key alone.
-/

namespace HierQuery

/-- How far a scan reaches from the key it starts at. -/
inductive Reach
  /-- The row at the key and all rows below it. -/
  | deep
  /-- The row at the key alone. -/
  | shallow
deriving DecidableEq, Inhabited

/-- The name of the reach in plan descriptions. -/
def Reach.render : Reach → String
  | .deep => "deep"
  | .shallow => "shallow"

/-- A set of keys which a scan visits. -/
inductive KeyRange
  | whole
  | subtree (top : HKey)
  | exactly (key : HKey)
deriving DecidableEq, Inhabited

namespace KeyRange

/-- The keys that a scan from `key` with the given reach visits. -/
def reaching (reach : Reach) (key : HKey) : KeyRange :=
  match reach with
  | .deep => subtree key
  | .shallow => exactly key

/-- Whether a key lies in the range. -/
def contains : KeyRange → HKey → Bool
  | whole, _ => true
  | subtree top, key => top.isPrefixOf key
  | exactly bound, key => bound == key

/-- The key at which the range starts; the whole range has none. -/
def start? : KeyRange → Option HKey
  | whole => none
  | subtree top => some top
  | exactly key => some key

/-- Whether a row with the given key, or without any, belongs to a scan of the range. -/
def admits (range : KeyRange) : Option HKey → Bool
  | some key => range.contains key
  | none => range == whole

/-- The starting key, or `full` for the whole range. -/
def render (range : KeyRange) : String :=
  match range.start? with
  | some key => key.render
  | none => "full"

@[simp]
theorem start?_reaching (reach : Reach) (key : HKey) :
    (reaching reach key).start? = some key := by
  cases reach <;> rfl

@[simp]
theorem admits_some (range : KeyRange) (key : HKey) :
    range.admits (some key) = range.contains key :=
  rfl

end KeyRange

end HierQuery
