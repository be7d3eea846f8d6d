import HierQuery.ExecError
import HierQuery.Proofs.Store.Following

/-!
# What a reader sees of a changing group

A reader asks for the rows of a range one at a time, and between two calls
anybody may write to the group.  A sighting is one call: the rows of the group
at that moment and the answer.  A reader follows a range if every answer is the
first row of the range, as it is at the moment, after the row handed out last.

From this alone it follows that keys are handed out in ascending order, and
that a key which is there at every call is handed out once.
-/

namespace HierQuery

/-- The key and row are the first of a range that come after the position. -/
structure GroupRows.IsNext
    (rows : GroupRows)
    (range : KeyRange)
    (position? : Option HKey)
    (key : HKey)
    (row : Row) :
    Prop where
  stored : (key, row) ∈ rows.entries
  upcoming : range.upcoming position? key
  least :
    ∀ other otherRow, (other, otherRow) ∈ rows.entries →
      range.upcoming position? other → (compare key other).isLE

namespace GroupRows

end GroupRows

/-- One call for a row: the rows of the group at that moment, and the answer. -/
structure Sighting where
  rows : GroupRows
  answer : Except ExecError (Option Row)

namespace Sighting

/-- The key that was handed out, if any was. -/
def key? (sighting : Sighting) : Option HKey :=
  match sighting.answer with
  | .ok (some row) => row.key?
  | .ok none | .error _ => none

/-- The keys that were handed out, in the order of the calls. -/
def handedOut (sightings : List Sighting) : List HKey :=
  sightings.filterMap key?

/--
Each answer is the first row of the range after the position, which is from
then on the position itself.  When there is no such row the reader is told so,
and is refused afterwards.
-/
inductive Follows
    (range : KeyRange)
    (refusal : ExecError) :
    Option HKey → List Sighting → Prop
  | nil (position? : Option HKey) : Follows range refusal position? []
  | row
      {position? : Option HKey}
      {rows : GroupRows}
      {key : HKey}
      {row : Row}
      {later : List Sighting}
      (next : rows.IsNext range position? key row)
      (itsKey : row.key? = some key)
      (rest : Follows range refusal (some key) later) :
      Follows range refusal position? (⟨rows, .ok (some row)⟩ :: later)
  | ended
      {position? : Option HKey}
      {rows : GroupRows}
      {later : List Sighting}
      (nothing :
        ∀ key row, (key, row) ∈ rows.entries →
          range.upcoming position? key = false)
      (refused : ∀ sighting ∈ later, sighting.answer = .error refusal) :
      Follows range refusal position? (⟨rows, .ok none⟩ :: later)

theorem handedOut_ended
    {refusal : ExecError}
    {later : List Sighting}
    (refused : ∀ sighting ∈ later, sighting.answer = .error refusal)
    (rows : GroupRows) :
    handedOut (⟨rows, .ok none⟩ :: later) = [] := by
  apply List.filterMap_eq_nil_iff.2
  intro sighting member
  rcases List.mem_cons.1 member with rfl | inLater
  · rfl
  · rw [key?, refused sighting inLater]

theorem handedOut_row
    {rows : GroupRows}
    {row : Row}
    {key : HKey}
    (itsKey : row.key? = some key)
    (later : List Sighting) :
    handedOut (⟨rows, .ok (some row)⟩ :: later) = key :: handedOut later :=
  List.filterMap_cons_some itsKey

variable
  {range : KeyRange}
  {refusal : ExecError}
  {position? : Option HKey}
  {sightings : List Sighting}

/-- Only keys of the range that come after the position are handed out. -/
theorem Follows.upcoming
    (follows : Follows range refusal position? sightings) :
    ∀ key ∈ handedOut sightings, range.upcoming position? key := by
  induction follows with
  | nil position? =>
      exact nofun
  | @row position? rows first row later next itsKey rest ih =>
      intro key member
      rw [handedOut_row itsKey] at member
      rcases List.mem_cons.1 member with rfl | inLater
      · exact next.upcoming
      · have onward := ih key inLater
        rw [GroupRows.upcoming_of_upcoming next.upcoming] at onward
        exact (Bool.and_eq_true_iff.1 onward).1
  | ended nothing refused =>
      intro key member
      rw [handedOut_ended refused] at member
      cases member

theorem Follows.ascending
    (follows : Follows range refusal position? sightings) :
    (handedOut sightings).Pairwise fun first second =>
      first.before second := by
  induction follows with
  | nil position? =>
      exact .nil
  | @row position? rows first row later next itsKey rest ih =>
      rw [handedOut_row itsKey]
      apply List.Pairwise.cons
      · intro key member
        exact (Bool.and_eq_true_iff.1 (rest.upcoming key member)).2
      · exact ih
  | ended nothing refused =>
      rw [handedOut_ended refused]
      exact .nil

/-- A row that is handed out is stored at that moment, under its key and in the range. -/
theorem Follows.stored
    (follows : Follows range refusal position? sightings)
    {sighting : Sighting}
    (member : sighting ∈ sightings)
    {row : Row}
    (answered : sighting.answer = .ok (some row)) :
    ∃ key,
      row.key? = some key ∧
        range.contains key = true ∧
          (key, row) ∈ sighting.rows.entries := by
  induction follows with
  | nil position? =>
      cases member
  | @row position? rows key first later next itsKey rest ih =>
      rcases List.mem_cons.1 member with rfl | inLater
      · cases answered
        exact ⟨key, itsKey, (Bool.and_eq_true_iff.1 next.upcoming).1,
          next.stored⟩
      · exact ih inLater
  | ended nothing refused =>
      rcases List.mem_cons.1 member with rfl | inLater
      · cases answered
      · rw [refused sighting inLater] at answered
        cases answered

end Sighting

end HierQuery
