import TenderPhase1.Foundation.PyInt

/-!
# Integers under the limit of the interpreter

The interpreter converts no number of more than 4300 digits. The limit holds for `int` of a
text and for `str` of an integer, so that what is written can be read.
-/

namespace TenderPhase1.PyText

/-- `sys.int_info.default_max_str_digits` -/
def maxStrDigits : ℕ := 4300

/-- `int(text)`, nothing where it raises `ValueError` -/
def readInt (text : String) : Option ℤ :=
  if maxStrDigits < (stripIntSpaces (text.toList.map asciiDecimal)).countP Char.isDigit then none else intOfText text

/-- `str(number)`, nothing where it raises `ValueError` -/
def writeInt (number : ℤ) : Option String :=
  if maxStrDigits < (Nat.toDigits 10 number.natAbs).length then none else some (textOfInt number)

theorem isSome_writeInt_iff {number : ℤ} : (writeInt number).isSome ↔ number.natAbs < 10 ^ maxStrDigits := by
  rw [← Nat.length_toDigits_le_iff (by decide) (by decide), ← not_lt]
  unfold writeInt
  split <;> simp [*]

/-- What is smaller than a number that can be written can be written. -/
theorem isSome_writeInt_of_le {small large : ℕ} (hle : small ≤ large) (hlarge : (writeInt large).isSome) :
    (writeInt small).isSome := by
  rw [isSome_writeInt_iff, Int.natAbs_natCast] at *
  exact lt_of_le_of_lt hle hlarge

/-- A text without digits is no number. -/
theorem readInt_empty : readInt "" = none := by decide +kernel

/-- A text of ASCII digits is read unless it is too long. -/
theorem readInt_digits {digits : List Char} (hne : digits ≠ []) (h : ∀ c ∈ digits, c.isDigit) :
    readInt (String.ofList digits) =
      if maxStrDigits < digits.length then none else some (Nat.ofDigitChars 10 digits 0 : ℤ) := by
  have hascii : digits.map asciiDecimal = digits := by
    calc digits.map asciiDecimal = digits.map id := List.map_congr_left fun c hc ↦ asciiDecimal_of_isDigit (h c hc)
      _ = digits := List.map_id _
  have hchars : stripIntSpaces ((String.ofList digits).toList.map asciiDecimal) = digits := by
    rw [String.toList_ofList, hascii, stripIntSpaces_of_forall fun c hc ↦
      isIntSpace_eq_false (isSpace_of_isDigit (h c hc))]
  have hcount : digits.countP Char.isDigit = digits.length := List.countP_eq_length.mpr h
  rw [readInt, intOfText, hchars, hcount, readSigned_of_forall_isDigit hne h]

/-- What `str` writes, `int` reads. -/
theorem readInt_writeInt {number : ℤ} {text : String} (h : writeInt number = some text) :
    text = textOfInt number ∧ readInt text = some number := by
  unfold writeInt at h
  split at h
  · cases h
  · rename_i hlimit
    obtain rfl := Option.some.inj h
    refine ⟨rfl, ?_⟩
    have hcount : (textOfInt number).toList.countP Char.isDigit ≤ maxStrDigits := by
      rw [toList_textOfInt, List.countP_append]
      have hsign : (if number < 0 then ['-'] else []).countP Char.isDigit = 0 := by
        split <;> rfl
      have hdigits := List.countP_le_length (p := Char.isDigit) (l := Nat.toDigits 10 number.natAbs)
      omega
    rw [readInt, stripIntSpaces_textOfInt, if_neg (by omega), intOfText_textOfInt]

/-- A number that can be written is read back. -/
theorem readInt_textOfInt {number : ℤ} (h : (writeInt number).isSome) : readInt (textOfInt number) = some number := by
  obtain ⟨text, htext⟩ := Option.isSome_iff_exists.mp h
  obtain ⟨rfl, hread⟩ := readInt_writeInt htext
  exact hread

end TenderPhase1.PyText
