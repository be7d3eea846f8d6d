import HierQuery.Log.Record
import HierQuery.Proofs.Json.Documents
import HierQuery.Proofs.Text.Bytes

/-!
# Lines of the log

A written log record is one line.  It is a JSON object that is read back member
by member: the event, the severity and then the fields in the order of the bytes
of their keys, where fields with one key stay as they were given.  So the order
in which fields with different keys are given cannot be seen, and a line tells
everything else about its record.
-/

namespace HierQuery

theorem Severity.render_inj {first second : Severity} :
    first.render = second.render ↔ first = second := by
  cases first <;> cases second <;> simp [render]

namespace Log.Record

variable (record : Record)

/-! ## The order of the fields -/

theorem perm_sortedFields : record.sortedFields.Perm record.fields :=
  List.mergeSort_perm _ _

/-- The comparison by which the fields are sorted is total. -/
theorem isLE_or_isLE (first second : Field) :
    ((compare first.1 second.1).isLE || (compare second.1 first.1).isLE) =
      true := by
  have swapped : compare second.1 first.1 = (compare first.1 second.1).swap :=
    Std.OrientedOrd.eq_swap
  rw [swapped]
  cases compare first.1 second.1 <;> rfl

theorem pairwise_sortedFields :
    record.sortedFields.Pairwise fun first second =>
      (compare first.1 second.1).isLE = true := by
  apply List.pairwise_mergeSort
  · intro first second third
    exact Std.TransCmp.isLE_trans
  · exact isLE_or_isLE

/-- The bytes of the keys do not descend. -/
theorem ascending_sortedFields :
    record.sortedFields.Pairwise fun first second =>
      ¬ Text.bytes second.1 < Text.bytes first.1 := by
  apply record.pairwise_sortedFields.imp
  intro first second inOrder descends
  have lower : compare second.1 first.1 = .lt :=
    compare_lt_iff_lt.2 (Text.bytes_lt_bytes_iff.1 descends)
  have upper : compare first.1 second.1 = .gt :=
    Std.OrientedCmp.gt_of_lt lower
  simp [upper] at inOrder

/-- Fields with one key stay in the order in which they were given. -/
theorem filter_sortedFields (key : String) :
    record.sortedFields.filter (·.1 = key) =
      record.fields.filter (·.1 = key) := by
  symm
  have sorted :
      (record.fields.filter (·.1 = key)).Pairwise fun first second =>
        (compare first.1 second.1).isLE = true := by
    apply List.pairwise_of_forall_mem_list
    intro first isFirst second isSecond
    simp only [List.mem_filter, decide_eq_true_eq] at isFirst isSecond
    simp [isFirst.2, isSecond.2]
  have kept :
      (record.fields.filter (·.1 = key)).Sublist record.sortedFields := by
    apply List.sublist_mergeSort _ isLE_or_isLE sorted List.filter_sublist
    intro first second third
    exact Std.TransCmp.isLE_trans
  apply List.Sublist.eq_of_length
  · simpa using kept.filter (·.1 = key)
  · exact (record.perm_sortedFields.filter _).length_eq.symm

/-- Fields in another order, if no key is given twice. -/
theorem sortedFields_eq_of_perm
    {first second : Record}
    (sameFields : first.fields.Perm second.fields)
    (distinct : (first.fields.map Prod.fst).Nodup) :
    first.sortedFields = second.sortedFields := by
  have firstPerm := first.perm_sortedFields
  have secondPerm := second.perm_sortedFields
  apply (firstPerm.trans (sameFields.trans secondPerm.symm)).eq_of_pairwise
  · intro field other isIn isOther before after
    have sameKey : field.1 = other.1 :=
      Std.LawfulEqOrd.eq_of_compare (Std.OrientedCmp.isLE_antisymm before after)
    apply List.inj_on_of_nodup_map distinct
    · exact firstPerm.mem_iff.1 isIn
    · exact sameFields.mem_iff.2 (secondPerm.mem_iff.1 isOther)
    · exact sameKey
  · exact first.pairwise_sortedFields
  · exact second.pairwise_sortedFields

/-! ## The object that a line spells -/

/-- The event, the severity and the fields in their order. -/
def toJson : Json :=
  .record
    (("event", .text record.event) ::
      ("severity", .text record.severity.render) ::
        record.sortedFields.map fun field => (field.1, .text field.2))

/-- Members whose values are texts are written like fields of a record. -/
theorem memberChars_map (field : Field) (fields : List Field) :
    ',' :: Json.memberChars
        ((field :: fields).map fun field =>
          (some field.1, Json.text field.2)) =
      (field :: fields).flatMap fieldChars := by
  induction fields generalizing field with
  | nil =>
      simp [Json.memberChars, fieldChars, Json.text, Json.chars, Json.textChars]
  | cons next fields ih =>
      have others := ih next
      simp only [List.map_cons] at others ⊢
      simp only [Json.memberChars, others]
      simp [fieldChars, Json.text, Json.chars, Json.textChars]

theorem chars_toJson : record.toJson.chars = record.chars := by
  have written :=
    memberChars_map ("event", record.event)
      (("severity", record.severity.render) :: record.sortedFields)
  have event : Json.quoteChars "event".toList = "\"event\"".toList := by
    rfl
  have severity : Json.quoteChars "severity".toList = "\"severity\"".toList := by
    rfl
  simp only [List.map_cons, List.flatMap_cons, fieldChars, event, severity,
    List.cons_append, List.cons.injEq, true_and] at written
  have opens :
      "\x7b\"event\":".toList = '\x7b' :: ("\"event\"".toList ++ [':']) := by
    rfl
  have follows :
      ",\"severity\":".toList = ',' :: ("\"severity\"".toList ++ [':']) := by
    rfl
  unfold chars
  simp only [toJson, Json.record, Json.chars, List.map_cons, List.map_map,
    Function.comp_def, written, opens, follows, List.append_assoc,
    List.cons_append, List.nil_append]

/-- A record is read back from its line. -/
theorem read_render : Json.read record.render = some record.toJson := by
  have back : Json.readChars (record.toJson.chars ++ ['\n']) = some record.toJson :=
    Json.readChars_chars _ (by simp [Json.isBlank])
  simpa [Json.read, render, chars_toJson] using back

theorem lineBreak_not_mem_chars : '\n' ∉ record.chars := by
  rw [← chars_toJson]
  exact Json.lineBreak_not_mem_chars _

/-- A line tells the event, the severity and the sorted fields of its record. -/
theorem render_eq_iff {first second : Record} :
    first.render = second.render ↔
      first.severity = second.severity ∧
        first.event = second.event ∧
          first.sortedFields = second.sortedFields := by
  constructor
  · intro same
    have read : some first.toJson = some second.toJson := by
      simp only [← read_render, same]
    have pairs :
        Function.Injective fun field : Field =>
          (some field.1, Json.text field.2) := by
      intro field other
      simp [Json.text, Prod.ext_iff]
    simp only [toJson, Json.record, Json.text, List.map_cons, List.map_map,
      Function.comp_def, Option.some.injEq, Json.object.injEq,
      List.cons.injEq, Prod.mk.injEq, Json.string.injEq, true_and,
      Severity.render_inj] at read
    exact ⟨read.2.1, read.1, pairs.list_map read.2.2⟩
  · rintro ⟨severity, event, fields⟩
    have same : first.toJson = second.toJson := by
      simp [toJson, severity, event, fields]
    simp [render, ← chars_toJson, same]

/-! ## Canonical lines -/

/-- The record is written as one line, and read back as what was given. -/
structure Canonical : Prop where
  /-- The only line break is the last character. -/
  oneLine : ∃ body, record.render.toList = body ++ ['\n'] ∧ '\n' ∉ body
  decoded : Json.read record.render = some record.toJson
  given : record.sortedFields.Perm record.fields
  ascending :
    record.sortedFields.Pairwise fun first second =>
      ¬ Text.bytes second.1 < Text.bytes first.1
  stable :
    ∀ key,
      record.sortedFields.filter (·.1 = key) =
        record.fields.filter (·.1 = key)

theorem canonical : record.Canonical where
  oneLine := ⟨record.chars, by simp [render], record.lineBreak_not_mem_chars⟩
  decoded := record.read_render
  given := record.perm_sortedFields
  ascending := record.ascending_sortedFields
  stable := record.filter_sortedFields

/--
Every record is written as a canonical line.  The order in which fields with
different keys are given does not change the line, and lines are the same only
for the same event, severity and sorted fields.
-/
theorem canonical_lines :
    (∀ record : Record, record.Canonical) ∧
      (∀ first second : Record,
        first.severity = second.severity →
          first.event = second.event →
            first.fields.Perm second.fields →
              (first.fields.map Prod.fst).Nodup →
                first.render = second.render) ∧
        ∀ first second : Record,
          first.render = second.render ↔
            first.severity = second.severity ∧
              first.event = second.event ∧
                first.sortedFields = second.sortedFields := by
  refine ⟨canonical, ?_, ?_⟩
  · intro first second severity event sameFields distinct
    apply render_eq_iff.2
    exact ⟨severity, event, sortedFields_eq_of_perm sameFields distinct⟩
  · intro first second
    exact render_eq_iff

/-- Two fields the other way round. -/
theorem canonical_lines_of_swapped :
    let first : Record := ⟨.trace, "E", [("zeta", "1"), ("alpha", "2\n")]⟩
    let second : Record := ⟨.trace, "E", [("alpha", "2\n"), ("zeta", "1")]⟩
    first.fields.Perm second.fields ∧
      (first.fields.map Prod.fst).Nodup ∧ first.render = second.render := by
  intro first second
  have sameFields : first.fields.Perm second.fields :=
    List.Perm.swap _ _ _
  have distinct : (first.fields.map Prod.fst).Nodup := by
    decide
  refine ⟨sameFields, distinct, ?_⟩
  exact canonical_lines.2.1 first second rfl rfl sameFields distinct

end Log.Record

end HierQuery
