import HierQuery.Proofs.HKey.Interval
import HierQuery.Proofs.SortedMap
import HierQuery.Store.GroupCursor

/-!
# The row that comes next

A storage cursor looks only at the first entry after its position and stops
if that entry is outside of its range.  As ranges are intervals, nothing is
missed: the entry found is the first one of all entries of the range that are
still to come, whatever was written or deleted since the last row.
-/

namespace HierQuery

/-- Whether a key of the range is still to come after the given position. -/
def KeyRange.upcoming
    (range : KeyRange)
    (position? : Option HKey)
    (key : HKey) :
    Bool :=
  range.contains key && position?.all fun last => last.before key

namespace GroupRows

/-- The entries of a range that are still to come after the given position. -/
def remaining
    (rows : GroupRows)
    (range : KeyRange)
    (position? : Option HKey) :
    List (HKey × Row) :=
  rows.entries.filter fun entry => range.upcoming position? entry.1

/-- Whether the search for the next row may stop at a key. -/
def searched
    (range : KeyRange)
    (position? : Option HKey)
    (key : HKey) :
    Bool :=
  match position?, range.start? with
  | some last, _ => compare last key == .lt
  | none, some start => (compare start key).isLE
  | none, none => true

theorem following?_eq_filter_find?
    (rows : GroupRows)
    (range : KeyRange)
    (position? : Option HKey) :
    rows.following? range position? =
      (rows.entries.find? fun entry =>
        searched range position? entry.1).filter fun entry =>
          range.contains entry.1 := by
  unfold following? searched
  cases position? with
  | some last =>
      rfl
  | none =>
      cases range.start? with
      | some start =>
          rfl
      | none =>
          cases rows with
          | mk entries ascending =>
              cases entries <;> rfl

/-- Entries of the range are never hidden behind one at which the search stops. -/
theorem contains_of_searched
    {range : KeyRange}
    {position? : Option HKey}
    (inside : ∀ last, position? = some last → range.contains last)
    {first later : HKey}
    (found : searched range position? first)
    (before : compare first later = .lt)
    (belongs : range.contains later) :
    range.contains first := by
  refine KeyRange.contains_of_between ?_ (Ordering.isLE_of_eq_lt before)
    belongs
  intro start starts
  cases position? with
  | some last =>
      have afterLast : compare last first = .lt := by
        simpa [searched] using found
      exact Std.TransCmp.isLE_trans
        (KeyRange.isLE_of_contains starts (inside last rfl))
        (Ordering.isLE_of_eq_lt afterLast)
  | none =>
      simpa [searched, starts] using found

theorem upcoming_eq_searched_and_contains
    (range : KeyRange)
    (position? : Option HKey)
    (key : HKey) :
    range.upcoming position? key =
      (searched range position? key && range.contains key) := by
  rw [KeyRange.upcoming, Bool.and_comm]
  cases inside : range.contains key with
  | false =>
      simp
  | true =>
      cases position? with
      | some last =>
          simp [searched, HKey.before, Ordering.isLT_eq_beq_lt]
      | none =>
          cases starts : range.start? with
          | some start =>
              simp [searched, starts, KeyRange.isLE_of_contains starts inside]
          | none =>
              simp [searched, starts]

/-- Among ascending entries, filtering what a search found is searching for both at once. -/
theorem filter_find?_of_interval
    {reach inside : HKey → Bool}
    (interval :
      ∀ first later, reach first → compare first later = .lt →
        inside later → inside first)
    {entries : List (HKey × Row)}
    (ascending :
      entries.Pairwise fun first second =>
        compare first.1 second.1 = .lt) :
    ((entries.find? fun entry => reach entry.1).filter fun entry =>
        inside entry.1) =
      entries.find? fun entry => reach entry.1 && inside entry.1 := by
  induction entries with
  | nil =>
      rfl
  | cons head tail ih =>
      rcases List.pairwise_cons.1 ascending with ⟨above, rest⟩
      cases reached : reach head.1 with
      | false =>
          simpa [reached] using ih rest
      | true =>
          cases belongs : inside head.1 with
          | true =>
              simp [reached, belongs]
          | false =>
              have noneLater :
                  ∀ entry ∈ tail, inside entry.1 = false := by
                intro entry member
                cases other : inside entry.1 with
                | false =>
                    rfl
                | true =>
                    have inHead :=
                      interval head.1 entry.1 reached (above entry member) other
                    rw [belongs] at inHead
                    cases inHead
              have noneFound :
                  (tail.find? fun entry => reach entry.1 && inside entry.1) =
                    none := by
                apply List.find?_eq_none.2
                intro entry member
                simp [noneLater entry member]
              simp [reached, belongs, noneFound]

/-- The next row is the first one of those that are still to come. -/
theorem following?_eq_head?
    (rows : GroupRows)
    {range : KeyRange}
    {position? : Option HKey}
    (inside : ∀ last, position? = some last → range.contains last) :
    rows.following? range position? =
      (rows.remaining range position?).head? := by
  rw [following?_eq_filter_find?,
    filter_find?_of_interval
      (fun _ _ => contains_of_searched inside) rows.ascending,
    remaining, List.head?_filter]
  simp only [upcoming_eq_searched_and_contains]

theorem mem_remaining
    {rows : GroupRows}
    {range : KeyRange}
    {position? : Option HKey}
    {entry : HKey × Row} :
    entry ∈ rows.remaining range position? ↔
      entry ∈ rows.entries ∧ range.upcoming position? entry.1 := by
  rw [remaining, List.mem_filter]

theorem ascending_remaining
    (rows : GroupRows)
    (range : KeyRange)
    (position? : Option HKey) :
    (rows.remaining range position?).Pairwise fun first second =>
      compare first.1 second.1 = .lt :=
  rows.ascending.filter _

/-- After a position that was still to come, less is still to come. -/
theorem upcoming_of_upcoming
    {range : KeyRange}
    {position? : Option HKey}
    {last : HKey}
    (fresh : range.upcoming position? last)
    (key : HKey) :
    range.upcoming (some last) key =
      (range.upcoming position? key && last.before key) := by
  cases later : last.before key with
  | false =>
      simp [KeyRange.upcoming, later]
  | true =>
      cases position? with
      | none =>
          simp [KeyRange.upcoming, later]
      | some earlier =>
          have lastLater : earlier.before last := by
            simpa [KeyRange.upcoming] using (Bool.and_eq_true_iff.1 fresh).2
          simp [KeyRange.upcoming, later, HKey.before_trans lastLater later]

/-- Once the first of the remaining entries was handed out, the others remain. -/
theorem remaining_of_cons
    {rows : GroupRows}
    {range : KeyRange}
    {position? : Option HKey}
    {key : HKey}
    {row : Row}
    {rest : List (HKey × Row)}
    (remains : rows.remaining range position? = (key, row) :: rest) :
    rows.remaining range (some key) = rest := by
  have fresh : range.upcoming position? key :=
    (mem_remaining.1 (remains ▸ List.mem_cons_self)).2
  have above : ∀ entry ∈ rest, compare key entry.1 = .lt :=
    (List.pairwise_cons.1 (remains ▸ ascending_remaining rows range position?)).1
  calc
    rows.remaining range (some key) =
        (rows.remaining range position?).filter fun entry =>
          key.before entry.1 := by
      rw [remaining, remaining, List.filter_filter]
      simp only [upcoming_of_upcoming fresh, Bool.and_comm]
    _ = ((key, row) :: rest).filter fun entry => key.before entry.1 := by
      rw [remains]
    _ = rest.filter fun entry => key.before entry.1 := by
      simp [HKey.before_irrefl]
    _ = rest := by
      apply List.filter_eq_self.2
      intro entry member
      exact HKey.before_iff.2 (above entry member)

/-- Before the first row all entries of the range remain. -/
theorem remaining_none
    (rows : GroupRows)
    (range : KeyRange) :
    rows.remaining range none =
      rows.entries.filter fun entry => range.contains entry.1 := by
  simp [remaining, KeyRange.upcoming]

theorem length_remaining_le
    (rows : GroupRows)
    (range : KeyRange)
    (position? : Option HKey) :
    (rows.remaining range position?).length ≤ rows.size :=
  List.length_filter_le _ _

end GroupRows

end HierQuery
