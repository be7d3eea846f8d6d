import Mathlib.Data.List.Lex
import Mathlib.Data.String.Basic
import Mathlib.Data.UInt

/-!
# The bytes of a text

A text is sent and compared as its UTF-8 bytes.  The encoding of a character
begins with a byte that grows with the number of bytes, and the bits of the
character follow from the highest to the lowest.  So texts are ordered by their
characters as their bytes are, and as only characters of one byte have small
bytes, a line break is a byte of its own.
-/

namespace HierQuery.Text

/-- The UTF-8 bytes of a text. -/
def bytes (text : String) : List UInt8 :=
  text.toUTF8.toList

/-- The text that has the given bytes, if there is one. -/
def ofBytes? (bytes : List UInt8) : Option String :=
  String.fromUTF8? ⟨bytes.toArray⟩

/-! ## Characters one after another -/

theorem toList_loop
    (array : ByteArray)
    (index : Nat)
    (taken : List UInt8) :
    ByteArray.toList.loop array index taken =
      taken.reverse ++ array.data.toList.drop index := by
  fun_induction ByteArray.toList.loop array index taken with
  | case1 index taken inside ih =>
      have within : index < array.data.toList.length := by
        simpa using inside
      have next : array.get! index = array.data.toList[index] := by
        cases array
        exact getElem!_pos _ index inside
      rw [ih, List.drop_eq_getElem_cons within, next]
      simp
  | case2 index taken outside =>
      have nothing : array.data.toList.length ≤ index := by
        simpa using outside
      simp [List.drop_eq_nil_of_le nothing]

theorem bytes_eq_flatMap (text : String) :
    bytes text = text.toList.flatMap String.utf8EncodeChar := by
  have encoded :
      text.toUTF8 = (text.toList.flatMap String.utf8EncodeChar).toByteArray := by
    rw [String.toUTF8_eq_toByteArray, ← String.utf8Encode_toList, List.utf8Encode]
  rw [bytes, encoded, ByteArray.toList, toList_loop]
  simp

theorem bytes_lineBreak : bytes "\n" = [10] := by
  simp [bytes_eq_flatMap, String.utf8EncodeChar]

/-- A text is read off its bytes. -/
theorem ofBytes?_bytes (text : String) :
    ofBytes? (bytes text) = some text := by
  have same : (⟨(bytes text).toArray⟩ : ByteArray) = text.toUTF8 := by
    rw [bytes, ByteArray.toList, toList_loop]
    simp
  rw [ofBytes?, same]
  exact dif_pos text.isValidUTF8

/-! ## Line breaks -/

theorem toNat_lt (character : Char) : character.toNat < 1114112 := by
  rcases character.valid with low | ⟨-, high⟩
  · exact Nat.lt_trans low (by decide)
  · exact high

/-- No byte of another character is a line break. -/
theorem lineBreak_mem_encode_iff {character : Char} :
    10 ∈ String.utf8EncodeChar character ↔ character = '\n' := by
  constructor
  · intro inside
    have bound := toNat_lt character
    apply Char.ext
    apply UInt32.toNat_inj.1
    revert inside
    simp only [String.utf8EncodeChar, Char.toNat_val]
    split_ifs <;> simp [← UInt8.toNat_inj] <;> omega
  · rintro rfl
    decide

/-- Only a line break has the byte of a line break. -/
theorem lineBreak_mem_bytes_iff {text : String} :
    10 ∈ bytes text ↔ '\n' ∈ text.toList := by
  simp [bytes_eq_flatMap, lineBreak_mem_encode_iff]

/-! ## Order -/

theorem ofNat_cons_lt_iff
    {first second : Nat}
    (fits : first < 256)
    (alsoFits : second < 256)
    {rest other : List UInt8} :
    UInt8.ofNat first :: rest < UInt8.ofNat second :: other ↔
      first < second ∨ first = second ∧ rest < other := by
  simp [List.cons_lt_cons_iff, UInt8.lt_iff_toNat_lt, ← UInt8.toNat_inj,
    Nat.mod_eq_of_lt fits, Nat.mod_eq_of_lt alsoFits]

/-- The bytes of a character come before those of a later one, whatever follows them. -/
theorem encode_append_lt
    {first second : Char}
    (lower : first < second)
    (rest other : List UInt8) :
    String.utf8EncodeChar first ++ rest <
      String.utf8EncodeChar second ++ other := by
  have below : first.toNat < second.toNat := lower
  have bound := toNat_lt second
  simp only [String.utf8EncodeChar, Char.toNat_val]
  -- each byte after the first has six bits, the lowest last
  have twelve (number : Nat) : number / 4096 = number / 64 / 64 := by
    omega
  have eighteen (number : Nat) : number / 262144 = number / 64 / 64 / 64 := by
    omega
  split_ifs <;>
    simp (disch := omega) only
      [List.cons_append, ofNat_cons_lt_iff, twelve, eighteen] <;>
    omega

theorem flatMap_encode_lt
    {first second : List Char}
    (lower : first < second) :
    first.flatMap String.utf8EncodeChar <
      second.flatMap String.utf8EncodeChar := by
  induction lower with
  | @nil character rest =>
      simp only [List.flatMap_cons, List.flatMap_nil]
      cases encoded : String.utf8EncodeChar character with
      | nil =>
          exact (String.utf8EncodeChar_ne_nil encoded).elim
      | cons byte bytes =>
          exact List.Lex.nil
  | rel lower =>
      exact encode_append_lt lower _ _
  | cons _ ih =>
      exact List.Lex.append_left _ ih _

/-- Texts are ordered by their characters as by their bytes. -/
theorem bytes_lt_bytes_iff {first second : String} :
    bytes first < bytes second ↔ first < second := by
  simp only [bytes_eq_flatMap]
  refine ⟨fun lower => ?_, flatMap_encode_lt⟩
  rcases lt_trichotomy first second with below | same | above
  · exact below
  · subst same
    exact (List.lt_irrefl _ lower).elim
  · exact (List.lt_asymm lower (flatMap_encode_lt above)).elim

end HierQuery.Text
