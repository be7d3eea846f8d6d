import HierQuery.Proofs.Plan.Meaning

/-!
# The algebra of streams

Streams that follow one another, and a stream for each row of another one,
obey the laws of lists: the order of grouping does not matter.  A failure is
the end of everything, so what would come after it may be put in or left out.

If the body has rows and no failure for each row of a stream, its rows take the
place of that row and the failure of the stream stays where it is.
-/

namespace HierQuery.RowStream

variable {stream first second third : RowStream}

/-- Nothing comes after a failure. -/
theorem followedBy_of_failed
    {error : ExecError}
    (fails : first.failure? = some error)
    (second : RowStream) :
    first.followedBy second = first := by
  rw [followedBy, fails]

/-- What comes after a stream that just ends is added to its rows. -/
theorem followedBy_of_ended
    (ends : first.failure? = none)
    (second : RowStream) :
    first.followedBy second =
      ⟨first.rows ++ second.rows, second.failure?⟩ := by
  rw [followedBy, ends]

theorem followedBy_assoc (first second third : RowStream) :
    (first.followedBy second).followedBy third =
      first.followedBy (second.followedBy third) := by
  cases ending : first.failure? with
  | some error =>
      rw [followedBy_of_failed ending, followedBy_of_failed ending,
        followedBy_of_failed ending]
  | none =>
      rw [followedBy_of_ended ending, followedBy_of_ended ending]
      cases later : second.failure? with
      | some error =>
          rw [followedBy_of_failed rfl, followedBy_of_failed later, later]
      | none =>
          rw [followedBy_of_ended rfl, followedBy_of_ended later,
            List.append_assoc]

section Bodies

variable {body other : Row → RowStream}

/-- A stream for each row of two streams is one for the first and then one for the second. -/
theorem forEach_followedBy
    (first second : RowStream)
    (body : Row → RowStream) :
    (first.followedBy second).forEach body =
      (first.forEach body).followedBy (second.forEach body) := by
  rcases first with ⟨rows, failure?⟩
  induction rows with
  | nil =>
      cases failure? <;> rfl
  | cons row rows ih =>
      rw [cons_followedBy, cons_forEach, cons_forEach, followedBy_assoc, ← ih]

/-- Going through the rows of bodies is going through them body by body. -/
theorem forEach_forEach
    (stream : RowStream)
    (body other : Row → RowStream) :
    (stream.forEach body).forEach other =
      stream.forEach fun row => (body row).forEach other := by
  rcases stream with ⟨rows, failure?⟩
  induction rows with
  | nil =>
      rfl
  | cons row rows ih =>
      rw [cons_forEach, cons_forEach, forEach_followedBy, ih]

/-- Only what the body is for rows of the stream matters. -/
theorem forEach_congr
    (same : ∀ row ∈ stream.rows, body row = other row) :
    stream.forEach body = stream.forEach other := by
  rcases stream with ⟨rows, failure?⟩
  induction rows with
  | nil =>
      rfl
  | cons row rows ih =>
      rw [cons_forEach, cons_forEach, same row List.mem_cons_self,
        ih fun later member => same later (List.mem_cons_of_mem _ member)]

/-- Bodies that do not fail put their rows in the place of each row. -/
theorem forEach_of_unfailing
    {rowsOf : Row → List Row}
    (unfailing : ∀ row ∈ stream.rows, body row = ⟨rowsOf row, none⟩) :
    stream.forEach body =
      ⟨stream.rows.flatMap rowsOf, stream.failure?⟩ := by
  rcases stream with ⟨rows, failure?⟩
  induction rows with
  | nil =>
      rfl
  | cons row rows ih =>
      rw [cons_forEach, unfailing row List.mem_cons_self,
        ih fun later member => unfailing later (List.mem_cons_of_mem _ member)]
      rfl

/-- A body that only gives each row back changes nothing. -/
theorem forEach_self
    (same : ∀ row ∈ stream.rows, body row = ⟨[row], none⟩) :
    stream.forEach body = stream := by
  rw [forEach_of_unfailing same, List.flatMap_singleton']

end Bodies

end HierQuery.RowStream
