import HierQuery.HKey.Basic
import HierQuery.Proofs.Text.Numerals
import Mathlib.Data.List.Chain

/-!
# Written keys

A written key has a comma between its levels and nothing between the values of
a level, and in a text a quote is not marked.  So two keys may be written
alike: the integers of a level run together, and a quote inside a text can be
taken for the one that ends it.

A key is legible if neither can happen.  A legible key is read from left to
right: the first character of a value tells its kind, an integer ends where its
digits end, and a text ends at the first quote that something can follow.
Hence legible keys that are written alike are the same.
-/

namespace HierQuery

/-! ## Texts -/

namespace Value

/-- Whether a value can begin so. -/
def mayBegin (character : Char) : Bool :=
  character.isDigit || ['\x27', '-', 'N', 't', 'f'].contains character

/-- Whether what comes after a value can begin so: another value, or the end of the level. -/
def mayFollow (character : Char) : Bool :=
  mayBegin character || [',', '\x7d'].contains character

/-- A text that goes on as it can after a value. -/
def GoesOn (rest : List Char) : Prop :=
  ∃ character ∈ rest.head?, mayFollow character = true

/-- Whether no quote in a text can be taken for its end. -/
def clearText : List Char → Bool
  | [] => true
  | [last] => last != '\x27'
  | character :: next :: rest =>
      (character != '\x27' || !mayFollow next) && clearText (next :: rest)

theorem clearText_tail
    {character : Char}
    {rest : List Char}
    (clear : clearText (character :: rest) = true) :
    clearText rest = true := by
  cases rest with
  | nil =>
      rfl
  | cons next rest =>
      rw [clearText, Bool.and_eq_true] at clear
      exact clear.2

/-- A clear text does not begin with what is left when a text has ended. -/
theorem not_ended_of_clearText
    {character : Char}
    {content rest other : List Char}
    (clear : clearText (character :: content) = true)
    (goesOn : GoesOn rest) :
    '\x27' :: rest ≠ character :: content ++ '\x27' :: other := by
  intro same
  rw [List.cons_append] at same
  rcases List.cons.inj same with ⟨isQuote, after⟩
  subst isQuote
  rcases goesOn with ⟨next, isNext, follows⟩
  cases content with
  | nil =>
      cases clear
  | cons first content =>
      rw [after] at isNext
      cases isNext
      simp [clearText, follows] at clear

/-- Where a clear text ends can be told. -/
theorem text_append_inj
    {first second rest other : List Char}
    (clear : clearText first = true)
    (alsoClear : clearText second = true)
    (goesOn : GoesOn rest)
    (alsoGoesOn : GoesOn other)
    (same : first ++ '\x27' :: rest = second ++ '\x27' :: other) :
    first = second ∧ rest = other := by
  induction first generalizing second with
  | nil =>
      cases second with
      | nil =>
          exact ⟨rfl, (List.cons.inj same).2⟩
      | cons character content =>
          exact (not_ended_of_clearText alsoClear goesOn same).elim
  | cons character content ih =>
      cases second with
      | nil =>
          exact (not_ended_of_clearText clear alsoGoesOn same.symm).elim
      | cons next contents =>
          rcases List.cons.inj same with ⟨rfl, tails⟩
          rcases ih (clearText_tail clear) (clearText_tail alsoClear) tails
            with ⟨rfl, sameRest⟩
          exact ⟨rfl, sameRest⟩

/-! ## Values -/

/-- A value that ends where it seems to. -/
def Clear : Value → Prop
  | text content => clearText content.toList = true
  | _ => True

/-- Two values of a level that do not run together. -/
def Apart : Value → Value → Prop
  | int first, int second => first.toInt = 0 ∨ second.toInt < 0
  | _, _ => True

instance : DecidablePred Clear
  | null | bool _ | int _ => inferInstanceAs (Decidable True)
  | text content =>
      inferInstanceAs (Decidable (clearText content.toList = true))

instance : DecidableRel Apart
  | int first, int second =>
      inferInstanceAs (Decidable (first.toInt = 0 ∨ second.toInt < 0))
  | null, _ | bool _, _ | text _, _ => inferInstanceAs (Decidable True)
  | int _, null | int _, bool _ | int _, text _ =>
      inferInstanceAs (Decidable True)

/-- The kind of a value by the character that it begins with. -/
def rankOf (character : Char) : Nat :=
  if character.isDigit || character == '-' then
    2
  else if character == '\x27' then
    3
  else if character == 'N' then
    0
  else
    1

theorem head_render (value : Value) :
    ∃ character ∈ value.render.toList.head?,
      rankOf character = value.rank ∧ mayBegin character = true := by
  rcases value with _ | (_ | _) | number | content
  · exact ⟨'N', rfl, rfl, rfl⟩
  · exact ⟨'f', rfl, rfl, rfl⟩
  · exact ⟨'t', rfl, rfl, rfl⟩
  · rw [render, toList_repr_int]
    split
    · cases digits : Nat.toDigits 10 number.toInt.toNat with
      | nil =>
          exact (Nat.toDigits_ne_nil digits).elim
      | cons character rest =>
          have isDigit : character.isDigit = true :=
            Nat.isDigit_of_mem_toDigits (b := 10)
              (n := number.toInt.toNat) (by decide) (by decide)
              (by rw [digits]; exact List.mem_cons_self)
          exact ⟨character, rfl, by simp [rankOf, isDigit, rank],
            by simp [mayBegin, isDigit]⟩
    · exact ⟨'-', rfl, rfl, rfl⟩
  · refine ⟨'\x27', ?_, rfl, rfl⟩
    simp [render]

/-- Two clear values are read off alike texts, if numbers end where their digits do. -/
theorem render_append_inj
    {first second : Value}
    {rest other : List Char}
    (clear : first.Clear)
    (alsoClear : second.Clear)
    (goesOn : GoesOn rest)
    (alsoGoesOn : GoesOn other)
    (ends :
      ∀ number, first = .int number → number.toInt ≠ 0 → Undigited rest)
    (alsoEnds :
      ∀ number, second = .int number → number.toInt ≠ 0 → Undigited other)
    (same :
      first.render.toList ++ rest = second.render.toList ++ other) :
    first = second ∧ rest = other := by
  have sameRank : first.rank = second.rank := by
    rcases first.head_render with ⟨character, isHead, its, -⟩
    rcases second.head_render with ⟨next, alsoHead, alsoIts, -⟩
    have heads := congrArg List.head? same
    rw [List.head?_append, List.head?_append, isHead, alsoHead] at heads
    cases heads
    exact its.symm.trans alsoIts
  cases first <;> cases second <;> cases sameRank
  case null =>
    exact ⟨rfl, List.append_cancel_left same⟩
  case bool flag otherFlag =>
    have sameFlag : flag = otherFlag := by
      cases flag <;> cases otherFlag <;>
        first
          | rfl
          | exact absurd (congrArg List.head? same) (by simp [render])
    subst sameFlag
    exact ⟨rfl, List.append_cancel_left same⟩
  case int number otherNumber =>
    rcases repr_int_append_inj (ends number rfl) (alsoEnds otherNumber rfl)
        same with
      ⟨sameNumber, sameRest⟩
    exact ⟨congrArg int (Int64.toInt_inj.1 sameNumber), sameRest⟩
  case text content otherContent =>
    simp only [render, String.toList_append, List.append_assoc] at same
    rcases text_append_inj clear alsoClear goesOn alsoGoesOn
        (List.cons.inj same).2 with
      ⟨sameContent, sameRest⟩
    exact ⟨congrArg text (String.toList_inj.1 sameContent), sameRest⟩

end Value

/-! ## Levels -/

namespace HKey

/-- A level whose values can be told from one another. -/
structure Segment.Legible (segment : Segment) : Prop where
  clear : ∀ value ∈ segment.values, value.Clear
  apart : segment.values.IsChain Value.Apart

/-- A key whose levels are legible. -/
def Legible (key : HKey) : Prop :=
  ∀ segment ∈ key.segments, segment.Legible

/-- What is left of a written key when a level has ended. -/
def Closes (rest : List Char) : Prop :=
  rest.head? = some ',' ∨ rest.head? = some '}'

theorem Closes.goesOn
    {rest : List Char}
    (closes : Closes rest) :
    Value.GoesOn rest := by
  rcases closes with next | last
  · exact ⟨',', next, rfl⟩
  · exact ⟨'}', last, rfl⟩

/-- The values of a level one after another. -/
def written (values : List Value) : List Char :=
  values.flatMap fun value => value.render.toList

theorem goesOn_written
    (values : List Value)
    {rest : List Char}
    (closes : Closes rest) :
    Value.GoesOn (written values ++ rest) := by
  cases values with
  | nil =>
      exact closes.goesOn
  | cons value values =>
      rcases value.head_render with ⟨character, isHead, -, begins⟩
      refine ⟨character, ?_, by rw [Value.mayFollow, begins]; rfl⟩
      rw [written, List.flatMap_cons, List.append_assoc, List.head?_append,
        isHead]
      rfl

/-- After an integer that is not zero no digit comes in a legible level. -/
theorem undigited_written
    {number : Int64}
    {values : List Value}
    {rest : List Char}
    (apart : (Value.int number :: values).IsChain Value.Apart)
    (positive : number.toInt ≠ 0)
    (closes : Closes rest) :
    Undigited (written values ++ rest) := by
  intro character isHead
  cases values with
  | nil =>
      rcases closes with next | last
      · rw [written, List.flatMap_nil, List.nil_append, next] at isHead
        cases isHead
        rfl
      · rw [written, List.flatMap_nil, List.nil_append, last] at isHead
        cases isHead
        rfl
  | cons value values =>
      have isApart := (List.isChain_cons_cons.1 apart).1
      rw [written, List.flatMap_cons, List.append_assoc, List.head?_append]
        at isHead
      rcases value with _ | (_ | _) | next | content
      · cases isHead
        rfl
      · cases isHead
        rfl
      · cases isHead
        rfl
      · have negative : ¬ 0 ≤ next.toInt := by
          rcases isApart with zero | below
          · exact (positive zero).elim
          · omega
        rw [Value.render, toList_repr_int, if_neg negative] at isHead
        cases isHead
        rfl
      · simp [Value.render] at isHead
        rw [← isHead]
        rfl

/-- No value begins like what comes after a level. -/
theorem closes_ne_written
    {value : Value}
    {values : List Value}
    {rest other : List Char}
    (closes : Closes rest) :
    rest ≠ written (value :: values) ++ other := by
  intro same
  rcases value.head_render with ⟨character, isHead, -, begins⟩
  have heads := congrArg List.head? same
  rw [written, List.flatMap_cons, List.append_assoc, List.head?_append,
    isHead] at heads
  rcases closes with next | last
  · rw [next] at heads
    cases heads
    cases begins
  · rw [last] at heads
    cases heads
    cases begins

/-- The values of a legible level are read off what is written. -/
theorem written_append_inj
    {first second : List Value}
    {rest other : List Char}
    (clear : ∀ value ∈ first, value.Clear)
    (apart : first.IsChain Value.Apart)
    (alsoClear : ∀ value ∈ second, value.Clear)
    (alsoApart : second.IsChain Value.Apart)
    (closes : Closes rest)
    (alsoCloses : Closes other)
    (same : written first ++ rest = written second ++ other) :
    first = second ∧ rest = other := by
  induction first generalizing second with
  | nil =>
      cases second with
      | nil =>
          exact ⟨rfl, same⟩
      | cons value values =>
          exact (closes_ne_written closes same).elim
  | cons value values ih =>
      cases second with
      | nil =>
          exact (closes_ne_written alsoCloses same.symm).elim
      | cons next others =>
          rw [written, written, List.flatMap_cons, List.flatMap_cons,
            List.append_assoc, List.append_assoc] at same
          rcases Value.render_append_inj
              (clear value List.mem_cons_self)
              (alsoClear next List.mem_cons_self)
              (goesOn_written values closes)
              (goesOn_written others alsoCloses)
              (fun number isInt positive =>
                undigited_written (isInt ▸ apart) positive closes)
              (fun number isInt positive =>
                undigited_written (isInt ▸ alsoApart) positive alsoCloses)
              same with
            ⟨rfl, left⟩
          rcases ih (fun value inside => clear value (List.mem_cons_of_mem _ inside))
              (List.isChain_cons.1 apart).2
              (fun value inside => alsoClear value (List.mem_cons_of_mem _ inside))
              (List.isChain_cons.1 alsoApart).2 left with
            ⟨rfl, sameRest⟩
          exact ⟨rfl, sameRest⟩

/-! ## Keys -/

theorem toList_render_segment (segment : Segment) :
    segment.render.toList =
      '(' ::
        (Nat.toDigits 10 segment.table.value.toNat ++
          ')' :: written segment.values) := by
  simp only [Segment.render, TableId.render, String.toList_append,
    String.toList_join, List.flatMap_map, Nat.toList_repr, List.append_assoc]
  rfl

/-- The levels of a key below the first one, each after a comma. -/
def writtenBelow (segments : List Segment) : List Char :=
  segments.flatMap fun segment => ',' :: segment.render.toList

theorem toList_render (key : HKey) :
    key.render.toList =
      match key.segments with
      | [] => ['\x7b', '\x7d']
      | first :: below =>
          '\x7b' :: (first.render.toList ++ (writtenBelow below ++ ['\x7d'])) := by
  simp only [render, String.toList_append, String.toList_intercalate,
    List.map_map]
  rcases key.segments with _ | ⟨first, below⟩
  · rfl
  · have joined :
        ",".toList.intercalate
            ((first :: below).map (String.toList ∘ Segment.render)) =
          first.render.toList ++ writtenBelow below := by
      induction below generalizing first with
      | nil =>
          simp [writtenBelow]
      | cons next below ih =>
          rw [List.map_cons, List.map_cons, List.intercalate_cons_cons,
            ← List.map_cons, ih next]
          simp [writtenBelow]
    rw [joined]
    simp

theorem closes_writtenBelow (below : List Segment) :
    Closes (writtenBelow below ++ ['\x7d']) := by
  cases below with
  | nil =>
      exact .inr rfl
  | cons segment below =>
      exact .inl rfl

/-- A legible level is read off what is written. -/
theorem segment_append_inj
    {first second : Segment}
    {rest other : List Char}
    (legible : first.Legible)
    (alsoLegible : second.Legible)
    (closes : Closes rest)
    (alsoCloses : Closes other)
    (same :
      first.render.toList ++ rest = second.render.toList ++ other) :
    first = second ∧ rest = other := by
  have undigited (values : List Value) (rest : List Char) :
      Undigited (')' :: written values ++ rest) := by
    rintro _ ⟨⟩
    rfl
  rw [toList_render_segment, toList_render_segment, List.cons_append,
    List.cons_append, List.append_assoc, List.append_assoc] at same
  rcases toDigits_append_inj (fun _ => undigited _ _)
      (fun _ => undigited _ _) (List.cons.inj same).2 with
    ⟨sameTable, sameValues⟩
  rcases written_append_inj legible.clear legible.apart alsoLegible.clear
      alsoLegible.apart closes alsoCloses (List.cons.inj sameValues).2 with
    ⟨values, sameRest⟩
  rcases first with ⟨⟨table⟩, firstValues⟩
  rcases second with ⟨⟨otherTable⟩, otherValues⟩
  have tables : table = otherTable := UInt32.toNat_inj.1 sameTable
  subst tables
  subst values
  exact ⟨rfl, sameRest⟩

/-- The levels below the first one are read off what is written. -/
theorem writtenBelow_inj
    {first second : List Segment}
    (legible : ∀ segment ∈ first, segment.Legible)
    (alsoLegible : ∀ segment ∈ second, segment.Legible)
    (same :
      writtenBelow first ++ ['\x7d'] = writtenBelow second ++ ['\x7d']) :
    first = second := by
  induction first generalizing second with
  | nil =>
      cases second with
      | nil =>
          rfl
      | cons segment below =>
          cases (List.cons.inj same).1
  | cons segment below ih =>
      cases second with
      | nil =>
          cases (List.cons.inj same).1
      | cons other others =>
          rw [writtenBelow, writtenBelow, List.flatMap_cons,
            List.flatMap_cons, List.append_assoc, List.append_assoc] at same
          rcases segment_append_inj
              (legible segment List.mem_cons_self)
              (alsoLegible other List.mem_cons_self)
              (closes_writtenBelow below) (closes_writtenBelow others)
              (List.cons.inj same).2 with
            ⟨rfl, left⟩
          rw [ih (fun lower inside => legible lower (List.mem_cons_of_mem _ inside))
            (fun lower inside => alsoLegible lower (List.mem_cons_of_mem _ inside))
            left]

/-- Legible keys that are written alike are the same. -/
theorem Legible.eq_of_render
    {first second : HKey}
    (legible : first.Legible)
    (alsoLegible : second.Legible)
    (same : first.render = second.render) :
    first = second := by
  have letters := congrArg String.toList same
  rw [toList_render, toList_render] at letters
  rcases first with ⟨_ | ⟨top, below⟩⟩ <;>
    rcases second with ⟨_ | ⟨other, others⟩⟩
  · rfl
  · simp [toList_render_segment] at letters
  · simp [toList_render_segment] at letters
  · rcases segment_append_inj
        (legible top List.mem_cons_self)
        (alsoLegible other List.mem_cons_self)
        (closes_writtenBelow below) (closes_writtenBelow others)
        (List.cons.inj letters).2 with
      ⟨rfl, left⟩
    rw [writtenBelow_inj
      (fun lower inside => legible lower (List.mem_cons_of_mem _ inside))
      (fun lower inside => alsoLegible lower (List.mem_cons_of_mem _ inside))
      left]

end HKey

end HierQuery
