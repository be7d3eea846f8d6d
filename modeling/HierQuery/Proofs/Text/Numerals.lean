import Mathlib.Data.List.Basic

/-!
# Written numbers

A number is written in decimal, without leading zeros and with a minus sign if
it is negative.  Where it ends can be told from what follows: it goes on as long
as there are digits.
-/

namespace HierQuery

/-- A text that does not go on with a digit. -/
def Undigited (rest : List Char) : Prop :=
  ∀ character ∈ rest.head?, character.isDigit = false

theorem toDigits_inj {first second : Nat} :
    Nat.toDigits 10 first = Nat.toDigits 10 second ↔ first = second := by
  constructor
  · intro same
    rw [← Nat.ofDigitChars_toDigits (n := first) (b := 10) (by decide) (by decide), same,
      Nat.ofDigitChars_toDigits (by decide) (by decide)]
  · rintro rfl
    rfl

/-- No number but zero begins with a zero. -/
theorem head?_toDigits_ne_zero
    {number : Nat}
    (positive : number ≠ 0) :
    (Nat.toDigits 10 number).head? ≠ some '0' := by
  induction number using Nat.strongRecOn with
  | ind number ih =>
      rw [Nat.toDigits_eq_if (by decide)]
      split
      next small =>
        have digits : ∀ digit < 10, digit ≠ 0 → digit.digitChar ≠ '0' := by
          decide
        simpa using digits number small positive
      next large =>
        rw [List.head?_append_of_ne_nil _ Nat.toDigits_ne_nil]
        exact ih (number / 10) (by omega) (by omega)

theorem takeWhile_toDigits
    (number : Nat)
    {rest : List Char}
    (ends : Undigited rest) :
    (Nat.toDigits 10 number ++ rest).takeWhile Char.isDigit =
      Nat.toDigits 10 number := by
  rw [List.takeWhile_append_of_pos fun character inside =>
    Nat.isDigit_of_mem_toDigits (by decide) (by decide) inside]
  cases rest with
  | nil =>
      simp
  | cons character rest =>
      have noDigit : character.isDigit = false := ends character rfl
      simp [noDigit]

/-- Where a number ends can be told, as a zero stands alone and after others comes no digit. -/
theorem toDigits_append_inj
    {first second : Nat}
    {rest other : List Char}
    (ends : first ≠ 0 → Undigited rest)
    (alsoEnds : second ≠ 0 → Undigited other)
    (same :
      Nat.toDigits 10 first ++ rest = Nat.toDigits 10 second ++ other) :
    first = second ∧ rest = other := by
  have sameNumber : first = second := by
    have heads := congrArg List.head? same
    rw [List.head?_append_of_ne_nil _ Nat.toDigits_ne_nil,
      List.head?_append_of_ne_nil _ Nat.toDigits_ne_nil] at heads
    by_cases isZero : first = 0
    · by_cases alsoZero : second = 0
      · rw [isZero, alsoZero]
      · subst isZero
        exact (head?_toDigits_ne_zero alsoZero heads.symm).elim
    · by_cases alsoZero : second = 0
      · subst alsoZero
        exact (head?_toDigits_ne_zero isZero heads).elim
      · have digits := congrArg (List.takeWhile Char.isDigit) same
        rw [takeWhile_toDigits first (ends isZero),
          takeWhile_toDigits second (alsoEnds alsoZero)] at digits
        exact toDigits_inj.1 digits
  subst sameNumber
  exact ⟨rfl, List.append_cancel_left same⟩

theorem toList_repr_int (number : Int) :
    (Int.repr number).toList =
      if 0 ≤ number then
        Nat.toDigits 10 number.toNat
      else
        '-' :: Nat.toDigits 10 (-number).toNat := by
  rw [Int.repr_eq_if]
  split
  · exact Nat.toList_repr
  · rw [String.toList_append, Nat.toList_repr]
    rfl

/-- The same of numbers with a sign. -/
theorem repr_int_append_inj
    {first second : Int}
    {rest other : List Char}
    (ends : first ≠ 0 → Undigited rest)
    (alsoEnds : second ≠ 0 → Undigited other)
    (same :
      (Int.repr first).toList ++ rest = (Int.repr second).toList ++ other) :
    first = second ∧ rest = other := by
  have noSign (number : Nat) (rest : List Char) :
      (Nat.toDigits 10 number ++ rest).head? ≠ some '-' := by
    rw [List.head?_append_of_ne_nil _ Nat.toDigits_ne_nil]
    intro sign
    have isDigit :=
      Nat.isDigit_of_mem_toDigits (b := 10) (by decide) (by decide)
        (List.mem_of_mem_head? sign)
    cases isDigit
  rw [toList_repr_int, toList_repr_int] at same
  split at same <;> split at same
  next natural alsoNatural =>
    rcases toDigits_append_inj (fun positive => ends (by omega))
        (fun positive => alsoEnds (by omega)) same with
      ⟨sameNumber, sameRest⟩
    exact ⟨by omega, sameRest⟩
  next natural negative =>
    exact (noSign _ _ (congrArg List.head? same)).elim
  next negative natural =>
    exact (noSign _ _ (congrArg List.head? same).symm).elim
  next negative alsoNegative =>
    rw [List.cons_append, List.cons_append] at same
    rcases toDigits_append_inj (fun _ => ends (by omega))
        (fun _ => alsoEnds (by omega)) (List.cons.inj same).2 with
      ⟨sameNumber, sameRest⟩
    exact ⟨by omega, sameRest⟩

end HierQuery
