import HierQuery.Cli.Output
import HierQuery.Proofs.Json.Canonical
import HierQuery.Proofs.Text.Bytes

/-!
# Rows that are written as lines

Bytes that are put into a sink one after another are taken like the same bytes
put into it at once: the first ones are, as many as there is room for.  So of a
list of rows a sink has the first bytes of their lines, and the command is told
if they are not all of them.  As no document has a line break inside, the lines
that came to their end are the lines of the first rows, and each is read back.
-/

namespace HierQuery.Cli

/-! ## What a sink takes -/

namespace Sink

variable (sink : Sink)

/-- The first of the bytes, as many as there is room for. -/
def fitting (bytes : List UInt8) : List UInt8 :=
  match sink.room? with
  | none => bytes
  | some room => bytes.take room

/-- The sink after bytes were put into it. -/
def after (bytes : List UInt8) : Sink :=
  { sink with
    accepted := sink.accepted ++ sink.fitting bytes
    room? := sink.room?.map (· - bytes.length) }

/-- There is room for all of the bytes. -/
def Fits (bytes : List UInt8) : Prop :=
  sink.fitting bytes = bytes

theorem fitting_isPrefix (bytes : List UInt8) : sink.fitting bytes <+: bytes := by
  cases bound : sink.room? with
  | none => simp [fitting, bound]
  | some room => simp [fitting, bound, List.take_prefix]

theorem putBytes_of_fits
    {bytes : List UInt8}
    (fits : sink.Fits bytes) :
    sink.putBytes bytes = (true, sink.after bytes) := by
  cases bound : sink.room? with
  | none =>
      simp [putBytes, after, fitting, bound]
  | some room =>
      have short : bytes.length ≤ room := by
        simpa [Fits, fitting, bound, List.take_eq_self_iff] using fits
      simp [putBytes, after, fitting, bound, short]

theorem putBytes_of_not_fits
    {bytes : List UInt8}
    (overflows : ¬ sink.Fits bytes) :
    sink.putBytes bytes = (false, sink.after bytes) := by
  cases bound : sink.room? with
  | none =>
      simp [Fits, fitting, bound] at overflows
  | some room =>
      have long : room < bytes.length := by
        simpa [Fits, fitting, bound, List.take_eq_self_iff] using overflows
      simp [putBytes, after, fitting, bound, long]

/-- Bytes put in one after another are taken like the same bytes put in at once. -/
theorem after_append (first second : List UInt8) :
    sink.after (first ++ second) = (sink.after first).after second := by
  cases bound : sink.room? with
  | none =>
      simp [after, fitting, bound]
  | some room =>
      simp [after, fitting, bound, List.take_append, Nat.sub_add_eq]

theorem fits_append_iff {first second : List UInt8} :
    sink.Fits (first ++ second) ↔
      sink.Fits first ∧ (sink.after first).Fits second := by
  cases bound : sink.room? with
  | none =>
      simp [Fits, after, fitting, bound]
  | some room =>
      simp only [Fits, after, fitting, bound, Option.map_some,
        List.take_eq_self_iff, List.length_append]
      omega

/-- A sink that ran full takes nothing more. -/
theorem after_of_not_fits
    {first : List UInt8}
    (overflows : ¬ sink.Fits first)
    (second : List UInt8) :
    sink.after (first ++ second) = sink.after first := by
  cases bound : sink.room? with
  | none =>
      simp [Fits, fitting, bound] at overflows
  | some room =>
      have long : room < first.length := by
        simpa [Fits, fitting, bound, List.take_eq_self_iff] using overflows
      have full : room - (first.length + second.length) = 0 := by
        omega
      simp [after, fitting, bound, full, Nat.le_of_lt long]

end Sink

/-! ## Lines -/

/-- The bytes of the line on which a document is written. -/
def documentBytes (document : Json) : List UInt8 :=
  Text.bytes document.render ++ [10]

/--
What came of writing a page: the sink has the first bytes of it, as many as there
was room for.  That is a success if these are all and can be passed on, and else a
failure of the output.
-/
structure Sink.Writes
    (sink : Sink)
    (page : List UInt8)
    (result : Except Error Unit)
    (written : Sink) :
    Prop where
  accepted : written.accepted = sink.accepted ++ sink.fitting page
  succeeds_iff :
    result = .ok () ↔ sink.fitting page = page ∧ sink.flushes = true
  code : ∀ error, result = .error error → error.code = .output

/-- A sink without bounds that can be passed on has all of a page. -/
theorem Sink.Writes.all_of_roomy
    {sink written : Sink}
    {page : List UInt8}
    {result : Except Error Unit}
    (writes : sink.Writes page result written)
    (roomy : sink.room? = none)
    (flushes : sink.flushes = true) :
    result = .ok () ∧ written.accepted = sink.accepted ++ page := by
  have whole : sink.fitting page = page := by
    rw [fitting, roomy]
  refine ⟨writes.succeeds_iff.2 ⟨whole, flushes⟩, ?_⟩
  rw [writes.accepted, whole]

theorem lineBreak_not_mem_render (document : Json) :
    10 ∉ Text.bytes document.render := by
  simp [Text.lineBreak_mem_bytes_iff, Json.lineBreak_not_mem_chars]

namespace Sink

/-- A line is written if it fits. -/
theorem putLine_cases (sink : Sink) (document : Json) :
    (sink.Fits (documentBytes document) ∧
        sink.putLine document = (.ok (), sink.after (documentBytes document))) ∨
      ¬ sink.Fits (documentBytes document) ∧
        ∃ error,
          error.code = .output ∧
            sink.putLine document =
              (.error error, sink.after (documentBytes document)) := by
  have text : sink.put document.render = sink.putBytes (Text.bytes document.render) :=
    rfl
  have lineBreak (sink : Sink) : sink.put "\n" = sink.putBytes [10] := by
    rw [put, ← Text.bytes_lineBreak, Text.bytes]
  rw [documentBytes, fits_append_iff, putLine, text]
  by_cases fits : sink.Fits (Text.bytes document.render)
  · rw [after_append, sink.putBytes_of_fits fits]
    simp only [lineBreak]
    by_cases alsoFits : (sink.after (Text.bytes document.render)).Fits [10]
    · rw [putBytes_of_fits _ alsoFits]
      exact .inl ⟨⟨fits, alsoFits⟩, rfl⟩
    · rw [putBytes_of_not_fits _ alsoFits]
      exact .inr ⟨fun both => alsoFits both.2, _, rfl, rfl⟩
  · rw [sink.after_of_not_fits fits, sink.putBytes_of_not_fits fits]
    exact .inr ⟨fun both => fits both.1, _, rfl, rfl⟩

/-- Lines are written if all of them fit and can be passed on. -/
theorem putLines_cases (sink : Sink) (documents : List Json) :
    let page := documents.flatMap documentBytes
    ((sink.Fits page ∧ sink.flushes = true) ∧
        sink.putLines documents = (.ok (), sink.after page)) ∨
      ¬ (sink.Fits page ∧ sink.flushes = true) ∧
        ∃ error,
          error.code = .output ∧
            sink.putLines documents = (.error error, sink.after page) := by
  induction documents generalizing sink with
  | nil =>
      have nothing : sink.fitting [] = [] :=
        List.prefix_nil.1 (sink.fitting_isPrefix [])
      have same : sink.after [] = sink := by
        cases bound : sink.room? <;> cases sink <;> simp_all [after, fitting]
      by_cases flushes : sink.flushes = true
      · simp [putLines, flush, Fits, flushes, nothing, same]
      · right
        refine ⟨fun both => flushes both.2, .ofReport flushReport, rfl, ?_⟩
        simp [putLines, flush, flushes, same]
  | cons document documents ih =>
      simp only [List.flatMap_cons, fits_append_iff]
      rcases sink.putLine_cases document with
        ⟨fits, written⟩ | ⟨overflows, error, code, written⟩
      · have others := ih (sink.after (documentBytes document))
        have sameFlush :
            (sink.after (documentBytes document)).flushes = sink.flushes :=
          rfl
        simpa [putLines, written, fits, after_append, sameFlush] using others
      · right
        refine ⟨fun all => overflows all.1.1, error, code, ?_⟩
        rw [putLines, written, sink.after_of_not_fits overflows]

theorem writes_putLines (sink : Sink) (documents : List Json) :
    sink.Writes (documents.flatMap documentBytes) (sink.putLines documents).1
      (sink.putLines documents).2 := by
  rcases sink.putLines_cases documents with
    ⟨complete, all⟩ | ⟨incomplete, error, code, cut⟩
  · rw [all]
    exact ⟨rfl, iff_of_true rfl complete, nofun⟩
  · rw [cut]
    refine ⟨rfl, iff_of_false nofun incomplete, ?_⟩
    rintro _ ⟨⟩
    exact code

end Sink

/-- The lines in a row of bytes that come to their end, without their line breaks. -/
def completeLines : List UInt8 → List (List UInt8)
  | [] => []
  | byte :: bytes =>
      if byte = 10 then
        [] :: completeLines bytes
      else
        match completeLines bytes with
        | [] => []
        | line :: lines => (byte :: line) :: lines

theorem completeLines_of_not_mem
    {bytes : List UInt8}
    (unbroken : 10 ∉ bytes) :
    completeLines bytes = [] := by
  induction bytes with
  | nil =>
      simp [completeLines]
  | cons byte bytes ih =>
      simp only [List.mem_cons, not_or] at unbroken
      simp [completeLines, Ne.symm unbroken.1, ih unbroken.2]

theorem completeLines_append
    {line : List UInt8}
    (unbroken : 10 ∉ line)
    (rest : List UInt8) :
    completeLines (line ++ 10 :: rest) = line :: completeLines rest := by
  induction line with
  | nil =>
      simp [completeLines]
  | cons byte line ih =>
      simp only [List.mem_cons, not_or] at unbroken
      simp [completeLines, Ne.symm unbroken.1, ih unbroken.2]

/-- What ends before a line is complete is the beginning of the line. -/
theorem isPrefix_of_cut
    {line rest taken : List UInt8}
    (isPrefix : taken <+: (line ++ [10]) ++ rest)
    (cut : ¬ line ++ [10] <+: taken) :
    taken <+: line := by
  rcases List.prefix_or_prefix_of_prefix isPrefix
      (List.prefix_append (line ++ [10]) rest) with shorter | longer
  · rcases List.prefix_concat_iff.1 shorter with same | within
    · exact (cut (by simp [same])).elim
    · exact within
  · exact (cut longer).elim

/-- The complete lines among the first bytes of a page are its first lines. -/
theorem exists_completeLines
    {lines : List (List UInt8)}
    (unbroken : ∀ line ∈ lines, 10 ∉ line)
    {taken : List UInt8}
    (isPrefix : taken <+: lines.flatMap (· ++ [10])) :
    ∃ count ≤ lines.length,
      completeLines taken = lines.take count ∧
        ∀ more ≤ lines.length,
          more ≤ count ↔ (lines.take more).flatMap (· ++ [10]) <+: taken := by
  induction lines generalizing taken with
  | nil =>
      refine ⟨0, Nat.le_refl _, ?_, ?_⟩
      · simp_all [completeLines]
      · simp
  | cons line lines ih =>
      rw [List.flatMap_cons] at isPrefix
      by_cases whole : line ++ [10] <+: taken
      · rcases whole with ⟨rest, rfl⟩
        have others : rest <+: lines.flatMap (· ++ [10]) := by
          simpa using isPrefix
        rcases ih (fun other inside => unbroken other (by simp [inside])) others
          with ⟨count, bound, complete, maximal⟩
        refine ⟨count + 1, by simpa using bound, ?_, ?_⟩
        · have split :=
            completeLines_append (unbroken line (by simp)) rest
          simpa [complete] using split
        · intro more within
          cases more with
          | zero =>
              simp
          | succ more =>
              have others := maximal more (by simpa using within)
              simpa using others
      · refine ⟨0, Nat.zero_le _, ?_, ?_⟩
        · have free : 10 ∉ taken := fun isIn =>
            unbroken line (by simp)
              ((isPrefix_of_cut isPrefix whole).subset isIn)
          simp [completeLines_of_not_mem free]
        · intro more _
          cases more with
          | zero =>
              simp
          | succ more =>
              have notWhole :
                  ¬ ((line :: lines).take (more + 1)).flatMap (· ++ [10]) <+:
                    taken := by
                intro longer
                apply whole
                apply List.IsPrefix.trans _ longer
                simp
              simp only [notWhole]
              simp

/-! ## Rows -/

/-- The bytes of the lines on which rows are written. -/
def rowBytes (rows : List Json) : List UInt8 :=
  (rows.map Json.canonical).flatMap documentBytes

/-- The document that the bytes of a line spell. -/
def readLine? (line : List UInt8) : Option Json :=
  (Text.ofBytes? line).bind Json.read

@[simp]
theorem readLine?_bytes (document : Json) :
    readLine? (Text.bytes document.render) = some document := by
  simp [readLine?, Text.ofBytes?_bytes]

/-- Of the rows, the first `count` have their whole lines among the bytes. -/
structure Holds (taken : List UInt8) (rows : List Json) (count : Nat) : Prop where
  within : count ≤ rows.length
  lines :
    completeLines taken =
      (rows.take count).map fun row => Text.bytes row.canonical.render
  readBack :
    (completeLines taken).map readLine? =
      (rows.take count).map fun row => some row.canonical
  maximal :
    ∀ more ≤ rows.length,
      more ≤ count ↔ rowBytes (rows.take more) <+: taken

theorem exists_holds
    {rows : List Json}
    {taken : List UInt8}
    (isPrefix : taken <+: rowBytes rows) :
    ∃ count, Holds taken rows count := by
  have unbroken :
      ∀ line ∈ rows.map fun row => Text.bytes row.canonical.render,
        10 ∉ line := by
    simp [lineBreak_not_mem_render]
  have page (rows : List Json) :
      (rows.map fun row => Text.bytes row.canonical.render).flatMap (· ++ [10]) =
        rowBytes rows := by
    simp [rowBytes, documentBytes, List.flatMap_map]
  rw [← page] at isPrefix
  rcases exists_completeLines unbroken isPrefix with
    ⟨count, within, complete, maximal⟩
  simp only [List.length_map, ← List.map_take, page] at within complete maximal
  refine ⟨count, within, complete, ?_, maximal⟩
  simp [complete, Function.comp_def]

theorem writes_writeRows (sink : Sink) (rows : List Json) :
    sink.Writes (rowBytes rows) (writeRows sink rows).1 (writeRows sink rows).2 :=
  sink.writes_putLines (rows.map Json.canonical)

/--
Of the lines of the rows a sink takes the first bytes, as many as there is room
for.  The rows are written if these are all and can be passed on, otherwise the
output has failed.  The lines that came to their end are those of the first
rows, and each is read back as the canonical form of its row, which is the row
itself if its keys ascend.
-/
theorem rows_written_as_lines (sink : Sink) (rows : List Json) :
    let taken := sink.fitting (rowBytes rows)
    let written := writeRows sink rows
    written.2.accepted = sink.accepted ++ taken ∧
      (written.1 = .ok () ∧ taken = rowBytes rows ∧ sink.flushes = true ∨
        (∃ error,
          written.1 = .error error ∧
            error.code.render = "HKX_CLI_IO_ERROR") ∧
          ¬ (taken = rowBytes rows ∧ sink.flushes = true)) ∧
        (∃ count, Holds taken rows count) ∧
          (∀ row : Json, row.canonical.Ascending) ∧
            ∀ row : Json, row.Ascending → row.canonical = row := by
  intro taken written
  have lines : ∃ count, Holds taken rows count :=
    exists_holds (sink.fitting_isPrefix _)
  have forms (row : Json) : row.Ascending → row.canonical = row :=
    Json.Ascending.canonical_eq
  have writes : sink.Writes (rowBytes rows) written.1 written.2 :=
    writes_writeRows sink rows
  refine ⟨writes.accepted, ?_, lines, Json.ascending_canonical, forms⟩
  cases ended : written.1 with
  | ok =>
      exact .inl ⟨rfl, writes.succeeds_iff.1 ended⟩
  | error error =>
      have named : error.code.render = "HKX_CLI_IO_ERROR" := by
        simp [writes.code error ended, ErrorCode.render]
      refine .inr ⟨⟨error, rfl, named⟩, fun complete => ?_⟩
      cases ended.symm.trans (writes.succeeds_iff.2 complete)

/-- A sink that runs full right after the first of two rows. -/
theorem rows_written_as_lines_of_cut :
    let row := Json.record [("a", .bool true)]
    let sink : Sink := ⟨[], some 11, true⟩
    row.Ascending ∧
      row.canonical = row ∧
        Holds (sink.fitting (rowBytes [row, row])) [row, row] 1 := by
  intro row sink
  have ascending : row.Ascending :=
    .object (by simp [Json.KeysAscend]) (by simpa using .bool true)
  have line :
      rowBytes [row] = [123, 34, 97, 34, 58, 116, 114, 117, 101, 125, 10] := by
    simp [rowBytes, documentBytes, Text.bytes_eq_flatMap, row]
    decide
  have both : rowBytes [row, row] = rowBytes [row] ++ rowBytes [row] := by
    simp [rowBytes]
  have taken : sink.fitting (rowBytes [row, row]) = rowBytes [row] := by
    simp [both, line, sink, Sink.fitting]
  rcases rows_written_as_lines sink [row, row] with
    ⟨-, -, ⟨count, holds⟩, -, forms⟩
  have first : 1 ≤ count ↔ rowBytes [row] <+: rowBytes [row] := by
    simpa [taken] using holds.maximal 1 (by simp)
  have second : 2 ≤ count ↔ rowBytes [row, row] <+: rowBytes [row] := by
    simpa [taken] using holds.maximal 2 (by simp)
  have one : count = 1 := by
    simp [both, line] at first second
    omega
  exact ⟨ascending, forms row ascending, one ▸ holds⟩

end HierQuery.Cli
