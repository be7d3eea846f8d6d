import HierQuery.ExecError

/-!
# Bindings

Bindings carry values from an outer plan into an inner one.  The number of
slots is fixed when they are made; a slot is empty until something is bound to
it, and a later binding replaces an earlier one.
-/

namespace HierQuery

/-- What a slot may hold. -/
inductive BoundValue
  | key (place : HKey)
  | scalar (value : Value)
deriving DecidableEq, Inhabited

/-- The word for the kind of a bound value. -/
def BoundValue.kind : BoundValue → String
  | key _ => "hkey"
  | scalar _ => "scalar"

/-- The written form of a bound value. -/
def BoundValue.render : BoundValue → String
  | key place => place.render
  | scalar value => value.render

/-- A fixed number of slots. -/
structure Bindings where
  slots : List (Option BoundValue)
deriving DecidableEq, Inhabited

namespace Bindings

/-- The given number of empty slots. -/
def reserve (count : Nat) : Bindings :=
  ⟨List.replicate count none⟩

/-- The number of slots. -/
def reserved (bindings : Bindings) : Nat :=
  bindings.slots.length

/-- Binds a value to a slot, which has to exist. -/
def set
    (bindings : Bindings)
    (slot : Nat)
    (value : BoundValue) :
    Except ExecError Bindings :=
  if slot < bindings.reserved then
    .ok ⟨bindings.slots.set slot (some value)⟩
  else
    .error ⟨.bindingOutOfRange slot bindings.reserved, none⟩

/-- The value of a slot, which has to exist and to be bound. -/
def get (bindings : Bindings) (slot : Nat) : Except ExecError BoundValue :=
  match bindings.slots[slot]? with
  | none => .error ⟨.bindingOutOfRange slot bindings.reserved, none⟩
  | some none => .error ⟨.bindingUnset slot, none⟩
  | some (some value) => .ok value

/-- The key bound to a slot. -/
def getKey (bindings : Bindings) (slot : Nat) : Except ExecError HKey :=
  match bindings.get slot with
  | .error error => .error error
  | .ok (.key key) => .ok key
  | .ok other => .error ⟨.bindingType slot "hkey" other.kind, none⟩

/-- The scalar bound to a slot. -/
def getScalar (bindings : Bindings) (slot : Nat) : Except ExecError Value :=
  match bindings.get slot with
  | .error error => .error error
  | .ok (.scalar value) => .ok value
  | .ok other => .error ⟨.bindingType slot "scalar" other.kind, none⟩

/-- Whether a slot exists and is bound. -/
def isSet (bindings : Bindings) (slot : Nat) : Bool :=
  bindings.slots[slot]?.join.isSome

/-- One slot with its number; a dash stands for an empty slot. -/
def renderSlot (slot : Option BoundValue) (number : Nat) : String :=
  Nat.repr number ++ ": " ++
    match slot with
    | some value => value.render
    | none => "-"

/-- All slots in order. -/
def render (bindings : Bindings) : String :=
  "Bindings(" ++
    ", ".intercalate
      (bindings.slots.zipIdx.map fun (slot, number) =>
        renderSlot slot number) ++ ")"

@[simp]
theorem reserved_reserve (count : Nat) :
    (reserve count).reserved = count := by
  simp [reserve, reserved]

theorem get_set_same
    {bindings updated : Bindings}
    {slot : Nat}
    {value : BoundValue}
    (succeeds : bindings.set slot value = .ok updated) :
    updated.get slot = .ok value := by
  unfold set at succeeds
  split at succeeds
  case isTrue inside =>
    cases succeeds
    simp_all [get, reserved]
  case isFalse =>
    cases succeeds

end Bindings

end HierQuery
