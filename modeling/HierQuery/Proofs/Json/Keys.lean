import HierQuery.Json.Keys
import HierQuery.Proofs.Json.Documents

/-!
# JSON forms that are read back

The written forms of a list of values and of a key are read back, whatever
texts, numbers and levels they have.  The kind of a value is told by the shape
of its document alone: each of the four leaves denotes a value of its kind, and
every other document is refused.

The literal `-0` has neither a fraction nor an exponent and is no integer all the
same, since an integer has no negative zero.  It is read as a decimal number, and
so it denotes no value.
-/

namespace HierQuery

namespace Json

/-- A list is read back if its items are. -/
theorem asList?_map
    {α : Type}
    {write : α → Json}
    {item? : Json → Option α}
    (back : ∀ item, item? (write item) = some item)
    (items : List α) :
    asList? item? (array (items.map write)) = some items := by
  rw [asList?]
  induction items with
  | nil =>
      rfl
  | cons item items ih =>
      simp [back, ih]

theorem Fields.required_of_lookup
    {α : Type}
    {fields : Fields}
    {name : String}
    {document : Json}
    (given : fields.lookup name = some document)
    (value? : Json → Option α) :
    fields.required name value? = value? document := by
  rw [required, given, Option.bind_some]

end Json

/-! ## Values -/

namespace Value

/-- A leaf denotes a value of its kind. -/
inductive Denotes : Json → Value → Prop
  | null : Denotes .null .null
  | bool (flag : Bool) : Denotes (.bool flag) (.bool flag)
  | int (number : Int64) : Denotes (.int number.toInt) (.int number)
  | text (content : String) : Denotes (.text content) (.text content)

/-- A document that denotes no value. -/
inductive Refused : Json → Prop
  | wide
      {number : Int}
      (outside :
        number < -9223372036854775808 ∨ 9223372036854775807 < number) :
      Refused (.int number)
  /-- A literal with a fraction or an exponent, or the literal `-0`. -/
  | decimal (mantissa exponent : Int) : Refused (.decimal mantissa exponent)
  /-- A literal with half of a surrogate pair has no text. -/
  | unpaired : Refused (.string none)
  | array (items : List Json) : Refused (.array items)
  | object (members : List (Json.Text × Json)) : Refused (.object members)

theorem ofJson?_toJson (value : Value) : ofJson? value.toJson = some value := by
  cases value with
  | int number =>
      have fits :
          -9223372036854775808 ≤ number.toInt ∧
            number.toInt < 9223372036854775808 :=
        ⟨number.le_toInt, number.toInt_lt⟩
      simp [toJson, ofJson?, Json.asInt64?, fits]
  | null | bool _ | text _ =>
      rfl

/-- A document is read as the value that it denotes, and as no other. -/
theorem ofJson?_eq_some_iff {document : Json} {value : Value} :
    ofJson? document = some value ↔ Denotes document value := by
  constructor
  · intro read
    cases document with
    | null =>
        cases read
        exact .null
    | bool flag =>
        cases read
        exact .bool flag
    | int number =>
        simp only [ofJson?, Json.asInt64?] at read
        split at read
        next fits =>
          cases read
          have same : (Int64.ofInt number).toInt = number :=
            Int64.toInt_ofInt_of_le fits.1 fits.2
          simpa only [same] using Denotes.int (Int64.ofInt number)
        next =>
          cases read
    | string text =>
        cases text with
        | none =>
            cases read
        | some content =>
            cases read
            exact .text content
    | decimal _ _ | array _ | object _ =>
        cases read
  · intro denotes
    cases denotes with
    | null =>
        exact ofJson?_toJson .null
    | bool flag =>
        exact ofJson?_toJson (.bool flag)
    | int number =>
        exact ofJson?_toJson (.int number)
    | text content =>
        exact ofJson?_toJson (.text content)

theorem ofJson?_eq_none_iff {document : Json} :
    ofJson? document = none ↔ Refused document := by
  constructor
  · intro unread
    cases document with
    | null | bool _ =>
        cases unread
    | int number =>
        apply Refused.wide
        by_contra inside
        have fits :
            -9223372036854775808 ≤ number ∧ number < 9223372036854775808 := by
          omega
        simp [ofJson?, Json.asInt64?, fits] at unread
    | string text =>
        cases text with
        | none =>
            exact .unpaired
        | some content =>
            cases unread
    | decimal mantissa exponent =>
        exact .decimal mantissa exponent
    | array items =>
        exact .array items
    | object members =>
        exact .object members
  · intro refused
    cases refused with
    | wide outside =>
        simp [ofJson?, Json.asInt64?]
        omega
    | decimal _ _ | unpaired | array _ | object _ =>
        rfl

/--
The number that a literal has as a value, given the parts of the literal: whether
it begins with a minus sign, its digits, its fraction and its exponent.
-/
structure OfLiteral
    (negative : Bool)
    (whole : List Char)
    (fraction? : Option (List Char))
    (exponent? : Option Int)
    (number : Int64) :
    Prop where
  noFraction : fraction? = none
  noExponent : exponent? = none
  /-- The literal is not `-0`. -/
  noNegativeZero : negative = true → Json.digitsValue whole ≠ 0
  same :
    number.toInt =
      if negative then -(Json.digitsValue whole : Int)
      else Json.digitsValue whole

/-- Which literals are read as numbers that denote a value, and which value that is. -/
theorem ofJson?_numberOfParts_iff
    {negative : Bool}
    {whole : List Char}
    {fraction? : Option (List Char)}
    {exponent? : Option Int}
    {value : Value} :
    ofJson? (Json.numberOfParts negative whole fraction? exponent?) =
        some value ↔
      ∃ number,
        value = .int number ∧
          OfLiteral negative whole fraction? exponent? number := by
  rw [ofJson?_eq_some_iff]
  constructor
  · intro denotes
    match fraction?, exponent? with
    | some _, _ | none, some _ =>
        cases denotes
    | none, none =>
        rw [Json.numberOfParts] at denotes
        split at denotes
        next =>
          cases denotes
        next nonzero =>
          generalize spelled : Json.signed _ _ = spelling at denotes
          cases denotes with
          | int number =>
              refine ⟨number, rfl, rfl, rfl, ?_, spelled.symm⟩
              rintro rfl zero
              exact nonzero (by simp [zero])
  · rintro ⟨number, rfl, rfl, rfl, nonzero, same⟩
    have integer :
        Json.numberOfParts negative whole none none = .int number.toInt := by
      rw [Json.numberOfParts, same]
      cases negative with
      | false => rfl
      | true => simp [nonzero rfl, Json.signed]
    rw [integer]
    exact .int number

end Value

/-! ## Keys -/

namespace HKey

theorem tableOfJson?_nat (table : TableId) :
    tableOfJson? (.nat table.value.toNat) = some table := by
  have fits : (table.value.toNat : Int) < UInt32.size :=
    Int.ofNat_lt.2 table.value.toNat_lt
  simp only [tableOfJson?, Json.nat, Json.asNatBelow?, fits]
  simp

/-- A segment is read from its fields. -/
theorem Segment.ofJson?_of_fields
    {document : Json}
    {fields : Json.Fields}
    {segment : Segment}
    (given :
      Json.Shape.fields? ⟨["table_id", "values"], false⟩ document =
        some fields)
    (table :
      fields.required "table_id" tableOfJson? = some segment.table)
    (values :
      fields.required "values" (Json.asList? Value.ofJson?) =
        some segment.values) :
    Segment.ofJson? document = some segment := by
  simp [Segment.ofJson?, given, table, values]

theorem Segment.ofJson?_toJson (segment : Segment) :
    Segment.ofJson? segment.toJson = some segment := by
  apply Segment.ofJson?_of_fields
  · simp [toJson, Json.record, Json.Shape.fields?, Json.Shape.known?]
    rfl
  · rw [Json.Fields.required_of_lookup rfl, tableOfJson?_nat]
  · rw [Json.Fields.required_of_lookup rfl,
      Json.asList?_map Value.ofJson?_toJson]

theorem ofJson?_toJson (key : HKey) : ofJson? key.toJson = some key := by
  have segments := Json.asList?_map Segment.ofJson?_toJson key.segments
  simp [ofJson?, toJson, Json.record, Json.Shape.fields?,
    Json.Shape.known?, Json.Fields.required, segments]

/--
Every written document is read back; so are the written forms of a list of
values and of a key.  A document is read as the value that it denotes, and the
documents that denote none are those that are refused.  A number denotes a value if
its literal is an integer in range without fraction and exponent that is not `-0`.
-/
theorem forms_read_back :
    (∀ document : Json, Json.read document.render = some document) ∧
      (∀ values : List Value,
        Value.readList? (Json.array (values.map Value.toJson)).render =
          some values) ∧
        (∀ key : HKey, HKey.read? key.toJson.render = some key) ∧
          (∀ document : Json,
            (∀ value,
              Value.ofJson? document = some value ↔
                Value.Denotes document value) ∧
              (Value.ofJson? document = none ↔ Value.Refused document)) ∧
            ∀ negative whole fraction? exponent? value,
              Value.ofJson?
                    (Json.numberOfParts negative whole fraction? exponent?) =
                  some value ↔
                ∃ number,
                  value = .int number ∧
                    Value.OfLiteral negative whole fraction? exponent?
                      number := by
  refine ⟨Json.read_render, ?_, ?_, ?_, ?_⟩
  · intro values
    simp [Value.readList?, Json.asList?_map Value.ofJson?_toJson]
  · intro key
    simp [HKey.read?, ofJson?_toJson]
  · intro document
    exact ⟨fun _ => Value.ofJson?_eq_some_iff, Value.ofJson?_eq_none_iff⟩
  · intro _ _ _ _ _
    exact Value.ofJson?_numberOfParts_iff

/-- The literal `-0` is no integer, and a list that has it is no list of values. -/
theorem negative_zero_unread :
    Json.read "-0" = some (.decimal 0 0) ∧
      Value.readList? "[-0]" = none ∧
        Value.readList? "[0]" = some [.int 0] := by
  refine ⟨?_, ?_, ?_⟩
  · rfl
  · decide +kernel
  · decide +kernel

end HKey

end HierQuery
