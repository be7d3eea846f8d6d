import HierQuery.Plan.Basic
import HierQuery.Proofs.Limit
import HierQuery.Proofs.Store.Run

/-!
# The meaning of a plan

A plan means a stream for each choice of bindings: some rows, and after them
either the end or a failure.  The meaning is a function of the plan, the rows
of the store and the bindings.  It knows nothing of cursors.

A scan means the rows of its range up to its limit, a count means one row,
and a nested loop means the streams of its inner plan for all rows of its
outer plan, one after another.  A failure ends the stream that it is in.
-/

namespace HierQuery

/-- Some rows and, if they do not just end, the failure after the last of them. -/
structure RowStream where
  rows : List Row
  failure? : Option ExecError
deriving DecidableEq

namespace RowStream

/-- No rows, only a failure. -/
def failed (error : ExecError) : RowStream :=
  ⟨[], some error⟩

/-- A second stream begins where the first one ends, unless that fails. -/
def followedBy (first second : RowStream) : RowStream :=
  match first.failure? with
  | some _ => first
  | none => ⟨first.rows ++ second.rows, second.failure?⟩

/-- A stream for each of the rows, one after another. -/
def forEach (stream : RowStream) (body : Row → RowStream) : RowStream :=
  stream.rows.foldr (fun row rest => (body row).followedBy rest)
    ⟨[], stream.failure?⟩

/-- All rows of the stream, or its failure. -/
def answer (stream : RowStream) : Except ExecError (List Row) :=
  match stream.failure? with
  | some error => .error error
  | none => .ok stream.rows

@[simp]
theorem nil_followedBy (stream : RowStream) :
    followedBy ⟨[], none⟩ stream = stream :=
  rfl

@[simp]
theorem failed_followedBy (error : ExecError) (stream : RowStream) :
    (failed error).followedBy stream = failed error :=
  rfl

theorem cons_followedBy
    (row : Row)
    (rows : List Row)
    (failure? : Option ExecError)
    (stream : RowStream) :
    followedBy ⟨row :: rows, failure?⟩ stream =
      ⟨row :: (followedBy ⟨rows, failure?⟩ stream).rows,
        (followedBy ⟨rows, failure?⟩ stream).failure?⟩ := by
  cases failure? <;> rfl

@[simp]
theorem nil_forEach
    (failure? : Option ExecError)
    (body : Row → RowStream) :
    forEach ⟨[], failure?⟩ body = ⟨[], failure?⟩ :=
  rfl

@[simp]
theorem cons_forEach
    (row : Row)
    (rows : List Row)
    (failure? : Option ExecError)
    (body : Row → RowStream) :
    forEach ⟨row :: rows, failure?⟩ body =
      (body row).followedBy (forEach ⟨rows, failure?⟩ body) :=
  rfl

/-- A row of two streams comes from one of them. -/
theorem mem_rows_followedBy
    {first second : RowStream}
    {row : Row}
    (member : row ∈ (first.followedBy second).rows) :
    row ∈ first.rows ∨ row ∈ second.rows := by
  rw [followedBy] at member
  split at member
  · exact .inl member
  · exact List.mem_append.1 member

/-- A row that a stream has for each of some rows is in the stream for one of them. -/
theorem mem_rows_forEach
    {stream : RowStream}
    {body : Row → RowStream}
    {row : Row}
    (member : row ∈ (stream.forEach body).rows) :
    ∃ source ∈ stream.rows, row ∈ (body source).rows := by
  rcases stream with ⟨rows, failure?⟩
  induction rows with
  | nil =>
      cases member
  | cons head rows ih =>
      rcases mem_rows_followedBy member with inHead | inRest
      · exact ⟨head, List.mem_cons_self, inHead⟩
      · rcases ih inRest with ⟨source, later, inSource⟩
        exact ⟨source, List.mem_cons_of_mem _ later, inSource⟩

/-- The failure of two streams is one of theirs. -/
theorem failure_followedBy
    {first second : RowStream}
    {error : ExecError}
    (fails : (first.followedBy second).failure? = some error) :
    first.failure? = some error ∨ second.failure? = some error := by
  rw [followedBy] at fails
  split at fails
  · exact .inl fails
  · exact .inr fails

/-- A stream for each of some rows fails where one of them fails, or after the last row. -/
theorem failure_forEach
    {stream : RowStream}
    {body : Row → RowStream}
    {error : ExecError}
    (fails : (stream.forEach body).failure? = some error) :
    stream.failure? = some error ∨
      ∃ source ∈ stream.rows, (body source).failure? = some error := by
  rcases stream with ⟨rows, failure?⟩
  induction rows with
  | nil =>
      exact .inl fails
  | cons head rows ih =>
      rcases failure_followedBy fails with inHead | inRest
      · exact .inr ⟨head, List.mem_cons_self, inHead⟩
      · rcases ih inRest with atEnd | ⟨source, later, inSource⟩
        · exact .inl atEnd
        · exact .inr ⟨source, List.mem_cons_of_mem _ later, inSource⟩

/-- A stream has so many rows at most, and its failure names an operator. -/
structure Fits (bound : Nat) (stream : RowStream) : Prop where
  short : stream.rows.length ≤ bound
  named :
    ∀ error, stream.failure? = some error → error.operator?.isSome = true

theorem fits_nil (bound : Nat) : Fits bound ⟨[], none⟩ where
  short := Nat.zero_le bound
  named := nofun

theorem fits_failed
    (bound : Nat)
    {error : ExecError}
    (named : error.operator?.isSome = true) :
    (failed error).Fits bound where
  short := Nat.zero_le bound
  named := by
    intro other same
    cases same
    exact named

theorem Fits.followedBy
    {first second : RowStream}
    {firstBound secondBound : Nat}
    (firstFits : first.Fits firstBound)
    (secondFits : second.Fits secondBound) :
    (first.followedBy second).Fits (firstBound + secondBound) where
  short := by
    have firstShort := firstFits.short
    have secondShort := secondFits.short
    rw [RowStream.followedBy]
    split
    · omega
    · rw [List.length_append]
      omega
  named := by
    intro error fails
    rcases failure_followedBy fails with inFirst | inSecond
    · exact firstFits.named error inFirst
    · exact secondFits.named error inSecond

theorem Fits.forEach
    {stream : RowStream}
    {body : Row → RowStream}
    {bound each : Nat}
    (fits : stream.Fits bound)
    (bodyFits : ∀ row, (body row).Fits each) :
    (stream.forEach body).Fits (bound * each) where
  short := by
    have atMost :
        (stream.forEach body).rows.length ≤ stream.rows.length * each := by
      rcases stream with ⟨rows, failure?⟩
      clear fits
      induction rows with
      | nil =>
          exact Nat.zero_le _
      | cons row rows ih =>
          have headShort := (bodyFits row).short
          dsimp only at ih
          rw [cons_forEach, RowStream.followedBy]
          split
          · rw [List.length_cons, Nat.succ_mul]
            omega
          · rw [List.length_append, List.length_cons, Nat.succ_mul]
            omega
    exact Nat.le_trans atMost (Nat.mul_le_mul_right each fits.short)
  named := by
    intro error fails
    rcases failure_forEach fails with atEnd | ⟨row, -, inRow⟩
    · exact fits.named error atEnd
    · exact (bodyFits row).named error inRow

end RowStream

namespace ExecError

/-- A failure that names an operator is not named anew. -/
theorem within_eq_self
    {error : ExecError}
    (named : error.operator?.isSome = true)
    (operator : String) :
    error.within operator = error := by
  rcases error with ⟨cause, operator?⟩
  cases operator? with
  | some known =>
      rfl
  | none =>
      cases named

theorem isSome_operator_within
    (error : ExecError)
    (operator : String) :
    (error.within operator).operator?.isSome = true := by
  rcases error with ⟨cause, operator?⟩
  cases operator? <;> rfl

end ExecError

namespace Bindings

/-- The bindings with a key in a slot. -/
def withKey (bindings : Bindings) (slot : Nat) (key : HKey) : Bindings :=
  ⟨bindings.slots.set slot (some (.key key))⟩

@[simp]
theorem reserved_withKey
    (bindings : Bindings)
    (slot : Nat)
    (key : HKey) :
    (bindings.withKey slot key).reserved = bindings.reserved := by
  simp [withKey, reserved]

@[simp]
theorem withKey_withKey
    (bindings : Bindings)
    (slot : Nat)
    (first second : HKey) :
    (bindings.withKey slot first).withKey slot second =
      bindings.withKey slot second := by
  simp [withKey]

theorem set_key_eq_ok
    {bindings : Bindings}
    {slot : Nat}
    (inside : slot < bindings.reserved)
    (key : HKey) :
    bindings.set slot (.key key) = .ok (bindings.withKey slot key) :=
  if_pos inside

end Bindings

namespace GroupScan

/-- The keys that the scan visits under given bindings. -/
def rangeUnder
    (scan : GroupScan)
    (bindings : Bindings) :
    Except ExecError KeyRange :=
  match scan.mode with
  | .full => .ok .whole
  | .positional slot reach =>
      match bindings.getKey slot with
      | .error error => .error (error.within operatorName)
      | .ok key => .ok (.reaching reach key)

/-- The rows of the scan's group with keys of a range, in the order of their keys. -/
def rowsWithin
    (scan : GroupScan)
    (store : MemoryStore)
    (range : KeyRange) :
    List Row :=
  ((store.groupRows scan.group.id).entries.filter fun entry =>
    range.contains entry.1).map Prod.snd

/-- A scan of the whole range visits all rows of its group. -/
theorem rowsWithin_whole
    (scan : GroupScan)
    (store : MemoryStore) :
    scan.rowsWithin store .whole =
      (store.groupRows scan.group.id).entries.map Prod.snd := by
  rw [rowsWithin, List.filter_eq_self.2]
  exact fun _ _ => rfl

/-- What the scan means. -/
def eval
    (scan : GroupScan)
    (store : MemoryStore)
    (bindings : Bindings) :
    RowStream :=
  match scan.rangeUnder bindings with
  | .error error => .failed error
  | .ok range => ⟨scan.limit.cut (scan.rowsWithin store range), none⟩

end GroupScan

/-- What a count means: a row without a key whose only value is the number. -/
def Count.eval
    (count : Count)
    (sources : SourceRows)
    (store : MemoryStore) :
    RowStream :=
  match store.rowCount sources count.tableType with
  | .error error => .failed (error.within operatorName)
  | .ok number =>
      ⟨[{ rowType := count.output
          key? := none
          values := [.int number]
          arity := (count.row number).arity
          placed := (count.row number).placed }],
        none⟩

/-- The stream of an inner plan for an outer row, whose key is bound to a slot. -/
def NestedLoop.body
    (slot : Nat)
    (inner : Bindings → RowStream)
    (bindings : Bindings)
    (row : Row) :
    RowStream :=
  match row.key? with
  | none => .failed (.argument operatorName (.keylessOuterRow row.render))
  | some key => inner (bindings.withKey slot key)

namespace Plan

/-- What a plan means over the rows of a store. -/
def eval
    (sources : SourceRows)
    (store : MemoryStore) :
    Plan → Bindings → RowStream
  | scan leaf, bindings => leaf.eval store bindings
  | count leaf, _ => leaf.eval sources store
  | nestedLoop outer inner slot, bindings =>
      (outer.eval sources store bindings).forEach
        (NestedLoop.body slot (inner.eval sources store) bindings)

/-- A plan that was built over the groups and tables of a schema. -/
inductive Over (schema : Schema) : Plan → Prop
  | scan
      {leaf : GroupScan}
      (known : ∃ group ∈ schema.groups, group.id = leaf.group.id) :
      Over schema (.scan leaf)
  | count
      {leaf : Count}
      {table : TableId}
      (itsTable : leaf.tableType.table? = some table)
      (known : (schema.table? table).isSome) :
      Over schema (.count leaf)
  | nestedLoop
      {outer inner plan : Plan}
      {slot : Nat}
      (outerOver : Over schema outer)
      (innerOver : Over schema inner)
      (built : nested outer inner slot = .ok plan) :
      Over schema plan

end Plan

end HierQuery
