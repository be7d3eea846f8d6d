import HierQuery.Limit
import HierQuery.Proofs.SortedMap

/-!
# What a limit lets through

A limit allows some lists of rows and forbids others.  A scan under a limit
hands out the longest beginning of its rows which the limit allows.  The
tally that the scan keeps is all it needs to know of the rows before.
-/

namespace HierQuery.Limit

/-- The number of rows of a table. -/
def countOf (table : TableId) (rows : List Row) : Nat :=
  rows.countP fun row => row.rowType.table? == some table

/-- Whether no cap is exceeded. -/
def allows : Limit → List Row → Bool
  | unlimited, _ => true
  | rows most, taken => decide (taken.length ≤ most)
  | perTable caps, taken =>
      caps.entries.all fun cap => decide (countOf cap.1 taken ≤ cap.2)

/-- The beginning of the rows that is allowed after those which were taken before. -/
def cutAfter (limit : Limit) (taken : List Row) : List Row → List Row
  | [] => []
  | row :: rest =>
      if limit.allows (taken ++ [row]) then
        row :: limit.cutAfter (taken ++ [row]) rest
      else
        []

/-- The beginning of the rows that is allowed. -/
def cut (limit : Limit) (rows : List Row) : List Row :=
  limit.cutAfter [] rows

theorem countOf_append_singleton
    (table : TableId)
    (taken : List Row)
    (row : Row) :
    countOf table (taken ++ [row]) =
      countOf table taken +
        if row.rowType.table? = some table then 1 else 0 := by
  simp [countOf, List.countP_append, List.countP_singleton]

theorem allows_nil (limit : Limit) : limit.allows [] = true := by
  cases limit <;> simp [allows, countOf]

/-- A limit that allows rows allows each beginning of them. -/
theorem allows_of_prefix
    {limit : Limit}
    {first taken : List Row}
    (begins : first <+: taken)
    (allowed : limit.allows taken = true) :
    limit.allows first = true := by
  cases limit with
  | unlimited =>
      rfl
  | rows most =>
      have shorter := begins.length_le
      simp only [allows, decide_eq_true_eq] at allowed ⊢
      omega
  | perTable caps =>
      simp only [allows, List.all_eq_true, decide_eq_true_eq] at allowed ⊢
      intro cap member
      exact Nat.le_trans (begins.sublist.countP_le)
        (allowed cap member)

theorem cutAfter_prefix
    (limit : Limit)
    (taken rows : List Row) :
    limit.cutAfter taken rows <+: rows := by
  induction rows generalizing taken with
  | nil =>
      exact List.nil_prefix
  | cons row rest ih =>
      rw [cutAfter]
      split
      · exact List.cons_prefix_cons.2 ⟨rfl, ih _⟩
      · exact List.nil_prefix

theorem allows_cutAfter
    {limit : Limit}
    {taken : List Row}
    (allowed : limit.allows taken = true)
    (rows : List Row) :
    limit.allows (taken ++ limit.cutAfter taken rows) = true := by
  induction rows generalizing taken with
  | nil =>
      simpa [cutAfter] using allowed
  | cons row rest ih =>
      rw [cutAfter]
      split
      next allowedRow =>
        simpa using ih allowedRow
      next =>
        simpa using allowed

theorem prefix_cutAfter
    {limit : Limit}
    {taken rows first : List Row}
    (begins : first <+: rows)
    (allowed : limit.allows (taken ++ first) = true) :
    first <+: limit.cutAfter taken rows := by
  induction rows generalizing taken first with
  | nil =>
      rw [List.prefix_nil.1 begins]
      exact List.nil_prefix
  | cons row rest ih =>
      cases first with
      | nil =>
          exact List.nil_prefix
      | cons head first =>
          rcases List.cons_prefix_cons.1 begins with ⟨rfl, others⟩
          rw [List.append_cons] at allowed
          have allowedHead : limit.allows (taken ++ [head]) = true :=
            allows_of_prefix (List.prefix_append _ _) allowed
          rw [cutAfter, if_pos allowedHead]
          exact List.cons_prefix_cons.2 ⟨rfl, ih others allowed⟩

/-- What a limit lets through is the longest beginning of the rows that it allows. -/
theorem cut_longest
    (limit : Limit)
    (rows : List Row) :
    limit.cut rows <+: rows ∧
      limit.allows (limit.cut rows) = true ∧
        ∀ first, first <+: rows → limit.allows first = true →
          first <+: limit.cut rows :=
  ⟨limit.cutAfter_prefix [] rows, allows_cutAfter limit.allows_nil rows,
    fun _ begins allowed => prefix_cutAfter begins allowed⟩

@[simp]
theorem cut_unlimited (taken : List Row) : unlimited.cut taken = taken := by
  rcases unlimited.cut_longest taken with ⟨begins, -, longest⟩
  exact begins.eq_of_length_le
    (longest taken (List.prefix_refl _) rfl).length_le

/-- A limit on the number of rows lets that many rows through. -/
theorem cut_rows (most : Nat) (taken : List Row) :
    (rows most).cut taken = taken.take most := by
  rcases (rows most).cut_longest taken with ⟨begins, allowed, longest⟩
  have few : ((rows most).cut taken).length ≤ most := of_decide_eq_true allowed
  have inside : (rows most).cut taken <+: taken.take most :=
    List.prefix_take_iff.2 ⟨begins, few⟩
  have around : taken.take most <+: (rows most).cut taken :=
    longest _ (List.take_prefix most taken)
      (decide_eq_true (List.length_take_le most taken))
  exact inside.eq_of_length
    (Nat.le_antisymm inside.length_le around.length_le)

/-! ## Tallies -/

/-- A tally of the rows taken so far, as far as the limit is concerned. -/
def Tallies (limit : Limit) (taken : List Row) (tally : Tally) : Prop :=
  match limit with
  | unlimited => True
  | rows _ => tally.total = taken.length
  | perTable caps =>
      ∀ table most, caps.get? table = some most →
        tally.of table = countOf table taken

theorem tallies_nil (limit : Limit) : limit.Tallies [] {} := by
  cases limit with
  | unlimited =>
      trivial
  | rows most =>
      rfl
  | perTable caps =>
      intro table most capped
      rfl

/-- After allowed rows only the cap on the table of the next row matters. -/
theorem allows_perTable_append_iff
    {caps : SortedMap TableId Nat}
    {taken : List Row}
    (allowed : (perTable caps).allows taken = true)
    (row : Row) :
    (perTable caps).allows (taken ++ [row]) = true ↔
      ∀ table, row.rowType.table? = some table →
        ∀ most, caps.get? table = some most →
          countOf table taken < most := by
  simp only [allows, List.all_eq_true, decide_eq_true_eq,
    countOf_append_singleton] at allowed ⊢
  constructor
  · intro below table named most capped
    have atMost := below (table, most) (SortedMap.get?_eq_some_iff.1 capped)
    rw [if_pos named] at atMost
    exact atMost
  · rintro below ⟨table, most⟩ member
    split
    next named =>
      exact below table named most (SortedMap.get?_eq_some_iff.2 member)
    next =>
      exact allowed (table, most) member

/-- A row is let through exactly if the limit allows it after the rows taken so far. -/
theorem reached_eq_false_iff
    {limit : Limit}
    {taken : List Row}
    {tally : Tally}
    (allowed : limit.allows taken = true)
    (tallies : limit.Tallies taken tally)
    (row : Row) :
    (limit.reached tally row).1 = false ↔
      limit.allows (taken ++ [row]) = true := by
  cases limit with
  | unlimited =>
      exact ⟨fun _ => rfl, fun _ => rfl⟩
  | rows most =>
      have total : tally.total = taken.length := tallies
      simp [reached, allows, total]
  | perTable caps =>
      rw [allows_perTable_append_iff allowed, reached]
      split
      next noTable =>
        simp [noTable]
      next table named =>
        split
        next uncapped =>
          simp [named, uncapped]
        next most capped =>
          have before : tally.of table = countOf table taken :=
            tallies table most capped
          simp only [named, capped, before, Tally.of_add_self,
            Option.some.injEq, forall_eq', decide_eq_false_iff_not,
            Nat.not_lt]
          exact Nat.succ_le_iff

theorem tallies_reached
    {limit : Limit}
    {taken : List Row}
    {tally : Tally}
    (tallies : limit.Tallies taken tally)
    (row : Row) :
    limit.Tallies (taken ++ [row]) (limit.reached tally row).2 := by
  cases limit with
  | unlimited =>
      trivial
  | rows most =>
      change tally.total + 1 = (taken ++ [row]).length
      rw [show tally.total = taken.length from tallies, List.length_append,
        List.length_singleton]
  | perTable caps =>
      intro table most capped
      have before : tally.of table = countOf table taken :=
        tallies table most capped
      rw [countOf_append_singleton, reached]
      split
      next noTable =>
        rw [if_neg (by simp [noTable]), before, Nat.add_zero]
      next itsTable named =>
        split
        next uncapped =>
          rw [if_neg, before, Nat.add_zero]
          rintro same
          rw [named, Option.some_inj] at same
          rw [same, capped] at uncapped
          cases uncapped
        next itsMost itsCap =>
          by_cases same : itsTable = table
          · subst same
            rw [if_pos named, Tally.of_add_self, before]
          · rw [if_neg (by simpa [named] using same),
              tally.of_add_of_ne (Ne.symm same), before, Nat.add_zero]

end HierQuery.Limit
