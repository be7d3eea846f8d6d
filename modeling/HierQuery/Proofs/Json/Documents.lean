import HierQuery.Proofs.Json.Literals
import Mathlib.Data.List.TakeWhile

/-!
# Documents that are written and read

A written document is read back, whatever comes after it as long as it does not
go on with a number.  So a text spells at most one document of which it is the
written form, and two documents are written alike only if they are the same.
A written document has no control characters, hence it is one line.
-/

namespace HierQuery.Json

/-- A property of all documents, by the parts that a document is made of. -/
@[elab_as_elim]
theorem induct
    {motive : Json → Prop}
    (null : motive null)
    (bool : ∀ flag, motive (bool flag))
    (int : ∀ number, motive (int number))
    (decimal : ∀ mantissa exponent, motive (decimal mantissa exponent))
    (string : ∀ text, motive (string text))
    (array : ∀ items, (∀ item ∈ items, motive item) → motive (array items))
    (object :
      ∀ members, (∀ member ∈ members, motive member.2) →
        motive (object members)) :
    ∀ document, motive document
  | .null => null
  | .bool flag => bool flag
  | .int number => int number
  | .decimal mantissa exponent => decimal mantissa exponent
  | .string text => string text
  | .array items =>
      array items fun item _inside =>
        induct null bool int decimal string array object item
  | .object members =>
      object members fun member _inside =>
        induct null bool int decimal string array object member.2
termination_by document => sizeOf document
decreasing_by
  · simp
    exact Nat.lt_add_left 1 (List.sizeOf_lt_of_mem _inside)
  · have smaller := List.sizeOf_lt_of_mem _inside
    cases member
    simp at smaller ⊢
    omega

/-! ## How a document begins -/

/-- A written document begins neither with a blank nor like the end of a list. -/
theorem exists_head_chars (document : Json) :
    ∃ character ∈ document.chars.head?,
      isBlank character = false ∧ character ≠ ']' := by
  have number (number : Int) :
      ∃ character ∈ (intChars number).head?,
        isBlank character = false ∧ character ≠ ']' := by
    by_cases negative : number < 0
    · exact ⟨'-', by simp [intChars_of_neg negative], rfl, by decide⟩
    · rcases exists_toDigits number.natAbs with ⟨digit, digits, written, isDigit⟩
      refine ⟨digit, ?_, ?_⟩
      · simp [intChars_of_nonneg (show 0 ≤ number by omega), written]
      · have differs (other : Char) (noDigit : other.isDigit = false) :
            digit ≠ other := by
          rintro rfl
          cases isDigit.symm.trans noDigit
        simp [isBlank, differs ' ' rfl, differs '\t' rfl, differs '\n' rfl,
          differs '\r' rfl, differs ']' rfl]
  cases document with
  | null =>
      exact ⟨'n', rfl, rfl, by decide⟩
  | bool flag =>
      cases flag
      · exact ⟨'f', rfl, rfl, by decide⟩
      · exact ⟨'t', rfl, rfl, by decide⟩
  | int value =>
      exact number value
  | decimal mantissa exponent =>
      rcases number mantissa with ⟨character, isHead, notBlank⟩
      refine ⟨character, ?_, notBlank⟩
      simp [chars, Option.mem_def.1 isHead]
  | string text =>
      cases text <;> exact ⟨'"', rfl, rfl, by decide⟩
  | array items =>
      exact ⟨'[', rfl, rfl, by decide⟩
  | object members =>
      exact ⟨'\x7b', rfl, rfl, by decide⟩

theorem exists_itemChars (item : Json) (items : List Json) :
    ∃ first others,
      itemChars (item :: items) = first :: others ∧
        isBlank first = false ∧ first ≠ ']' := by
  rcases item.exists_head_chars with ⟨first, isHead, begins⟩
  rcases List.head?_eq_some_iff.1 isHead with ⟨others, written⟩
  cases items with
  | nil =>
      exact ⟨first, others, written, begins⟩
  | cons next items =>
      exact ⟨first, others ++ ',' :: itemChars (next :: items),
        by simp [itemChars, written], begins⟩

theorem exists_memberChars (member : Text × Json) (members : List (Text × Json)) :
    ∃ others, memberChars (member :: members) = '"' :: others := by
  rcases member with ⟨key, value⟩
  rcases readText_textChars key with ⟨body, written, -⟩
  cases members <;> simp [memberChars, written]

theorem skipBlanks_of_head
    {text : List Char}
    {character : Char}
    (isHead : text.head? = some character)
    (notBlank : isBlank character = false) :
    skipBlanks text = text := by
  cases text with
  | nil =>
      rfl
  | cons first rest =>
      cases isHead
      simp [skipBlanks, notBlank]

theorem skipBlanks_chars (document : Json) (rest : List Char) :
    skipBlanks (document.chars ++ rest) = document.chars ++ rest := by
  rcases document.exists_head_chars with ⟨character, isHead, notBlank, -⟩
  apply skipBlanks_of_head _ notBlank
  simp [Option.mem_def.1 isHead]

theorem chars_length_pos (document : Json) : 0 < document.chars.length := by
  rcases document.exists_head_chars with ⟨character, isHead, -⟩
  exact List.length_pos_of_mem (List.mem_of_mem_head? isHead)

/-! ## Reading back -/

/-- A document is read back if there is fuel for its characters and it cannot go on. -/
def ReadsBack (document : Json) : Prop :=
  ∀ fuel rest,
    document.chars.length ≤ fuel →
      Delimited rest →
        readValue fuel (document.chars ++ rest) = some (document, rest)

/-- A document has a character, so there is fuel to begin with. -/
theorem readsBack_of_succ
    {document : Json}
    (back :
      ∀ fuel rest,
        document.chars.length ≤ fuel + 1 →
          Delimited rest →
            readValue (fuel + 1) (document.chars ++ rest) =
              some (document, rest)) :
    ReadsBack document := by
  intro fuel rest enough delimited
  obtain ⟨fuel, rfl⟩ : ∃ less, fuel = less + 1 :=
    Nat.exists_eq_add_one.2
      (Nat.lt_of_lt_of_le document.chars_length_pos enough)
  exact back fuel rest enough delimited

/-- What does not begin like another document is read as a number. -/
theorem readValue_intChars
    (number : Int)
    (fuel : Nat)
    (rest : List Char) :
    readValue (fuel + 1) (intChars number ++ rest) =
      readNumber (intChars number ++ rest) := by
  have blanks := skipBlanks_chars (int number) rest
  rw [chars] at blanks
  rw [readValue, blanks]
  by_cases negative : number < 0
  · simp [intChars_of_neg negative]
  · rcases exists_toDigits number.natAbs with ⟨digit, digits, written, isDigit⟩
    rw [intChars_of_nonneg (by omega), written]
    split <;> simp_all [Char.isDigit]

theorem readsBack_string (text : Text) : ReadsBack (string text) := by
  apply readsBack_of_succ
  intro fuel rest _ _
  rcases readText_textChars text with ⟨body, written, read⟩
  simp [chars, written, readValue, skipBlanks, isBlank, read]

/-- The items of a list are read back up to its end. -/
theorem readItems_itemChars
    {items : List Json}
    (each : ∀ item ∈ items, ReadsBack item)
    (some : items ≠ [])
    (fuel : Nat)
    (enough : (itemChars items).length < fuel)
    (rest : List Char) :
    readItems fuel (itemChars items ++ ']' :: rest) =
      .some (items, rest) := by
  induction items generalizing fuel with
  | nil =>
      exact (some rfl).elim
  | cons item items ih =>
      have readItem := each item (by simp)
      have others : ∀ other ∈ items, ReadsBack other := fun other inside =>
        each other (List.mem_cons_of_mem _ inside)
      obtain ⟨fuel, rfl⟩ : ∃ less, fuel = less + 1 :=
        Nat.exists_eq_add_one.2 (by omega)
      cases items with
      | nil =>
          simp only [itemChars] at enough ⊢
          have readLast :=
            readItem fuel (']' :: rest) (by omega) (delimited_cons rfl)
          simp [readItems, skipBlanks, isBlank, readLast]
      | cons next items =>
          simp only [itemChars, List.append_assoc, List.cons_append,
            List.length_append, List.length_cons] at enough ⊢
          have readFirst :=
            readItem fuel (',' :: (itemChars (next :: items) ++ ']' :: rest))
              (by omega) (delimited_cons rfl)
          have readOthers := ih others (by simp) fuel (by omega)
          simp [readItems, skipBlanks, isBlank, readFirst, readOthers]

/-- The members of an object are read back up to its end. -/
theorem readMembers_memberChars
    {members : List (Text × Json)}
    (each : ∀ member ∈ members, ReadsBack member.2)
    (some : members ≠ [])
    (fuel : Nat)
    (enough : (memberChars members).length < fuel)
    (rest : List Char) :
    readMembers fuel (memberChars members ++ '\x7d' :: rest) =
      .some (members, rest) := by
  induction members generalizing fuel with
  | nil =>
      exact (some rfl).elim
  | cons member members ih =>
      rcases member with ⟨key, value⟩
      have readMember : ReadsBack value := each (key, value) (by simp)
      have others : ∀ other ∈ members, ReadsBack other.2 :=
        fun other inside => each other (List.mem_cons_of_mem _ inside)
      rcases readText_textChars key with ⟨body, written, readKey⟩
      obtain ⟨fuel, rfl⟩ : ∃ less, fuel = less + 1 :=
        Nat.exists_eq_add_one.2 (by omega)
      cases members with
      | nil =>
          simp only [memberChars, written, List.append_assoc, List.cons_append,
            List.length_append, List.length_cons] at enough ⊢
          have readLast :=
            readMember fuel ('\x7d' :: rest) (by omega) (delimited_cons rfl)
          simp [readMembers, skipBlanks, isBlank, readKey, readLast]
      | cons next members =>
          simp only [memberChars, written, List.append_assoc, List.cons_append,
            List.length_append, List.length_cons] at enough ⊢
          have readFirst :=
            readMember fuel
              (',' :: (memberChars (next :: members) ++ '\x7d' :: rest))
              (by omega) (delimited_cons rfl)
          have readOthers := ih others (by simp) fuel (by omega)
          simp [readMembers, skipBlanks, isBlank, readKey, readFirst, readOthers]

theorem readsBack_array
    {items : List Json}
    (each : ∀ item ∈ items, ReadsBack item) :
    ReadsBack (array items) := by
  apply readsBack_of_succ
  intro fuel rest enough _
  simp only [chars, List.length_cons, List.length_append, List.length_nil,
    List.cons_append, List.append_assoc, List.nil_append] at enough ⊢
  cases items with
  | nil =>
      simp [readValue, itemChars, skipBlanks, isBlank]
  | cons item items =>
      have read :=
        readItems_itemChars each (by simp) fuel (by omega) rest
      rcases exists_itemChars item items with
        ⟨first, others, written, notBlank, notEnd⟩
      rw [written, List.cons_append] at read ⊢
      have opens (text : List Char) : skipBlanks ('[' :: text) = '[' :: text :=
        rfl
      have follows (text : List Char) :
          skipBlanks (first :: text) = first :: text :=
        skipBlanks_of_head rfl notBlank
      simp [readValue, opens, follows, notEnd, read]

theorem readsBack_object
    {members : List (Text × Json)}
    (each : ∀ member ∈ members, ReadsBack member.2) :
    ReadsBack (object members) := by
  apply readsBack_of_succ
  intro fuel rest enough _
  simp only [chars, List.length_cons, List.length_append, List.length_nil,
    List.cons_append, List.append_assoc, List.nil_append] at enough ⊢
  cases members with
  | nil =>
      simp [readValue, memberChars, skipBlanks, isBlank]
  | cons member members =>
      have read :=
        readMembers_memberChars each (by simp) fuel (by omega) rest
      rcases exists_memberChars member members with ⟨others, written⟩
      rw [written, List.cons_append] at read ⊢
      simp [readValue, skipBlanks, isBlank, read]

/-- Every document is read back. -/
theorem readsBack (document : Json) : ReadsBack document := by
  induction document using induct with
  | null =>
      apply readsBack_of_succ
      intro fuel rest _ _
      simp [chars, readValue, skipBlanks, isBlank]
  | bool flag =>
      apply readsBack_of_succ
      intro fuel rest _ _
      cases flag <;> simp [chars, readValue, skipBlanks, isBlank]
  | int number =>
      apply readsBack_of_succ
      intro fuel rest _ delimited
      rw [chars, readValue_intChars, readNumber_int number delimited]
  | decimal mantissa exponent =>
      apply readsBack_of_succ
      intro fuel rest _ delimited
      rw [chars, List.append_assoc, List.cons_append, readValue_intChars,
        readNumber_decimal mantissa exponent delimited]
  | string text =>
      exact readsBack_string text
  | array items each =>
      exact readsBack_array each
  | object members each =>
      exact readsBack_object each

/-- A written document is read back, also if blanks follow it. -/
theorem readChars_chars
    (document : Json)
    {rest : List Char}
    (blank : ∀ character ∈ rest, isBlank character = true) :
    readChars (document.chars ++ rest) = some document := by
  have delimited : Delimited rest := by
    intro character isHead
    have isIn := blank character (List.mem_of_mem_head? isHead)
    simp only [isBlank, Bool.or_eq_true, decide_eq_true_eq] at isIn
    rcases isIn with ((rfl | rfl) | rfl) | rfl <;> rfl
  have nothing : skipBlanks rest = [] :=
    List.dropWhile_eq_nil_iff.2 blank
  have fuel :
      document.chars.length ≤ 2 * (document.chars ++ rest).length + 2 := by
    simp
    omega
  simp only [readChars, readsBack document _ rest fuel delimited,
    Option.bind_eq_bind, Option.bind_some, nothing]

@[simp]
theorem read_render (document : Json) : read document.render = some document := by
  have back : readChars (document.chars ++ []) = some document :=
    readChars_chars document (by simp)
  simpa [read] using back

/-- Documents that are written alike are the same. -/
theorem render_inj {first second : Json} :
    first.render = second.render ↔ first = second := by
  constructor
  · intro same
    have read := congrArg read same
    simpa using read
  · rintro rfl
    rfl

/-! ## One line -/

/-- Whether a character is no control character. -/
def isVisible (character : Char) : Bool :=
  0x20 ≤ character.toNat

theorem all_isVisible_escapeChar (character : Char) :
    (escapeChar character).all isVisible = true := by
  have digits : ∀ digit < 16, isVisible (Nat.digitChar digit) = true := by
    decide
  unfold escapeChar
  split_ifs with quote backslash backspace formFeed lineFeed carriage tab
    control
  on_goal 9 => simpa [isVisible] using control
  on_goal 8 =>
    have upper := digits (character.toNat / 16) (by omega)
    have lower := digits (character.toNat % 16) (by omega)
    simp [upper, lower]
    decide
  all_goals decide

theorem all_isVisible_textChars (text : Text) :
    (textChars text).all isVisible = true := by
  cases text with
  | none =>
      rfl
  | some content =>
      have quote : isVisible '"' = true := rfl
      simp only [textChars, quoteChars, List.all_cons, List.all_append,
        List.all_flatMap, quote]
      simp [all_isVisible_escapeChar]

theorem all_isVisible_intChars (number : Int) :
    (intChars number).all isVisible = true := by
  have digits : (Nat.toDigits 10 number.natAbs).all isVisible = true := by
    simp only [List.all_eq_true]
    intro digit inside
    have isDigit :=
      Nat.isDigit_of_mem_toDigits (b := 10) (by decide) (by decide) inside
    have above : 48 ≤ digit.toNat := by
      simp [Char.isDigit, UInt32.le_iff_toNat_le] at isDigit
      exact isDigit.1
    simp [isVisible]
    omega
  by_cases negative : number < 0
  · simp only [intChars_of_neg negative, List.all_cons, digits]
    rfl
  · rw [intChars_of_nonneg (by omega), digits]

theorem all_isVisible_itemChars
    {items : List Json}
    (each : ∀ item ∈ items, item.chars.all isVisible = true) :
    (itemChars items).all isVisible = true := by
  have comma : isVisible ',' = true := rfl
  induction items with
  | nil =>
      rfl
  | cons item items ih =>
      have others := ih fun other inside =>
        each other (List.mem_cons_of_mem _ inside)
      cases items <;>
        simp [-List.all_eq_true, itemChars, each item, comma, others]

theorem all_isVisible_memberChars
    {members : List (Text × Json)}
    (each : ∀ member ∈ members, member.2.chars.all isVisible = true) :
    (memberChars members).all isVisible = true := by
  have comma : isVisible ',' = true := rfl
  have colon : isVisible ':' = true := rfl
  induction members with
  | nil =>
      rfl
  | cons member members ih =>
      rcases member with ⟨key, value⟩
      have others := ih fun other inside =>
        each other (List.mem_cons_of_mem _ inside)
      have its : value.chars.all isVisible = true := each (key, value) (by simp)
      cases members <;>
        simp [-List.all_eq_true, memberChars, all_isVisible_textChars, its,
          comma, colon, others]

/-- A written document has no control characters. -/
theorem all_isVisible_chars (document : Json) :
    document.chars.all isVisible = true := by
  induction document using induct with
  | null => rfl
  | bool flag => cases flag <;> rfl
  | int number => exact all_isVisible_intChars number
  | decimal mantissa exponent =>
      have letter : isVisible 'e' = true := rfl
      simp [-List.all_eq_true, chars, all_isVisible_intChars, letter]
  | string text => exact all_isVisible_textChars text
  | array items each =>
      have opens : isVisible '[' = true := rfl
      have ends : isVisible ']' = true := rfl
      simp [-List.all_eq_true, chars, all_isVisible_itemChars each, opens, ends]
  | object members each =>
      have opens : isVisible '\x7b' = true := rfl
      have ends : isVisible '\x7d' = true := rfl
      simp [-List.all_eq_true, chars, all_isVisible_memberChars each, opens, ends]

/-- A written document is one line. -/
theorem lineBreak_not_mem_chars (document : Json) :
    '\n' ∉ document.chars := by
  intro inside
  cases List.all_eq_true.1 document.all_isVisible_chars '\n' inside

end HierQuery.Json
