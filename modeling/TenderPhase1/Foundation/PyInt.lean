import TenderPhase1.Foundation.StrptimeTexts

/-!
# Integers as texts

`int(text)` and `str(number)`. The conversion accepts white space around the number,
a sign, leading zeros, a single underscore between two digits, and the decimal digits of
any script. An integer that was turned into a text is read back unchanged. The interpreter's
limit on the number of digits is left to `readInt`.
-/

namespace TenderPhase1.PyText

open StrptimeTexts

def readDigits (value : ℕ) : List Char → Option ℕ
  | [] => some value
  | '_' :: c :: chars =>
      if c.isDigit then readDigits (10 * value + (c.toNat - '0'.toNat)) chars else none
  | c :: chars => if c.isDigit then readDigits (10 * value + (c.toNat - '0'.toNat)) chars else none

def readNat : List Char → Option ℕ
  | [] => none
  | c :: chars => if c.isDigit then readDigits (c.toNat - '0'.toNat) chars else none

/-- The ASCII digit for a decimal digit of another script; other characters stay. -/
def asciiDecimal (c : Char) : Char :=
  match decimal c with
  | some n => Char.ofNat ('0'.toNat + n)
  | none => c

/-- The white space that `int` skips: what `str.isspace` takes, without the four ASCII separators. -/
def isIntSpace (c : Char) : Bool := isSpace c && !(0x1C ≤ c.toNat && c.toNat ≤ 0x1F)

def stripIntSpaces (chars : List Char) : List Char :=
  ((chars.dropWhile isIntSpace).reverse.dropWhile isIntSpace).reverse

/-- A sign and digits, as `PyLong_FromString` reads them. -/
def readSigned : List Char → Option ℤ
  | '-' :: digits => (readNat digits).map fun n ↦ -Int.ofNat n
  | '+' :: digits => (readNat digits).map Int.ofNat
  | digits => (readNat digits).map Int.ofNat

/-- `int(text)` whatever the number of digits, nothing where it raises `ValueError` -/
def intOfText (text : String) : Option ℤ := readSigned (stripIntSpaces (text.toList.map asciiDecimal))

/-- `str(number)` -/
def textOfInt (number : ℤ) : String := toString number

theorem isSpace_of_isDigit {c : Char} (h : c.isDigit) : isSpace c = false := by
  simp only [Char.isDigit, Bool.and_eq_true, decide_eq_true_eq, UInt32.le_iff_toNat_le] at h
  simp only [isSpace, Char.toNat]
  grind

theorem readDigits_of_forall_isDigit {chars : List Char} (h : ∀ c ∈ chars, c.isDigit) (value : ℕ) :
    readDigits value chars = some (Nat.ofDigitChars 10 chars value) := by
  induction chars generalizing value with
  | nil => rfl
  | cons c chars ih =>
    have hc : c.isDigit := h c List.mem_cons_self
    have hrest := ih (fun other hother ↦ h other (List.mem_cons_of_mem c hother)) (10 * value + (c.toNat - '0'.toNat))
    have hne : c ≠ '_' := by
      rintro rfl
      cases hc
    rw [Nat.ofDigitChars_cons, ← hrest, readDigits, if_pos hc]
    simp [hne]

theorem readNat_toDigits (n : ℕ) : readNat (Nat.toDigits 10 n) = some n := by
  have hdigits : ∀ c ∈ Nat.toDigits 10 n, c.isDigit :=
    fun c hc ↦ Nat.isDigit_of_mem_toDigits (by decide) (by decide) hc
  have hvalue : Nat.ofDigitChars 10 (Nat.toDigits 10 n) 0 = n := Nat.ofDigitChars_ten_toDigits
  cases hchars : Nat.toDigits 10 n with
  | nil => exact absurd hchars Nat.toDigits_ne_nil
  | cons c chars =>
    rw [hchars] at hdigits hvalue
    rw [Nat.ofDigitChars_cons, Nat.mul_zero, Nat.zero_add] at hvalue
    rw [readNat, if_pos (hdigits c List.mem_cons_self),
      readDigits_of_forall_isDigit (fun other hother ↦ hdigits other (List.mem_cons_of_mem c hother)), hvalue]

/-- A text without white space is stripped already. -/
theorem strip_of_forall_not_space {text : String} (h : ∀ c ∈ text.toList, isSpace c = false) : strip text = text := by
  have hkept : ∀ chars : List Char, (∀ c ∈ chars, isSpace c = false) → chars.dropWhile isSpace = chars := by
    intro chars hchars
    cases chars with
    | nil => rfl
    | cons c rest => simp [hchars c List.mem_cons_self]
  have hreverse : ∀ c ∈ text.toList.reverse, isSpace c = false := fun c hc ↦ h c (List.mem_reverse.mp hc)
  rw [strip, stripChars, hkept _ h, hkept _ hreverse, List.reverse_reverse, String.ofList_toList]

theorem isSpace_of_mem_repr {n : ℕ} {c : Char} (h : c ∈ n.repr.toList) : isSpace c = false := by
  rw [Nat.toList_repr] at h
  exact isSpace_of_isDigit (Nat.isDigit_of_mem_toDigits (by decide) (by decide) h)

theorem asciiDecimal_of_isDigit {c : Char} (h : c.isDigit) : asciiDecimal c = c := by
  unfold asciiDecimal
  rw [decimal_of_isDigit h]
  dsimp only
  have hbounds := h
  simp only [Char.isDigit, Bool.and_eq_true, decide_eq_true_eq, UInt32.le_iff_toNat_le] at hbounds
  have hle : '0'.toNat ≤ c.toNat := hbounds.1
  rw [Nat.add_sub_cancel' hle, Char.ofNat_toNat]

theorem isIntSpace_eq_false {c : Char} (h : isSpace c = false) : isIntSpace c = false := by
  simp [isIntSpace, h]

theorem stripIntSpaces_of_forall {chars : List Char} (h : ∀ c ∈ chars, isIntSpace c = false) :
    stripIntSpaces chars = chars := by
  have hdrop (chars : List Char) (h : ∀ c ∈ chars, isIntSpace c = false) : chars.dropWhile isIntSpace = chars := by
    cases chars with
    | nil => rfl
    | cons c rest => simp [h c List.mem_cons_self]
  unfold stripIntSpaces
  rw [hdrop chars h, hdrop chars.reverse fun c hc ↦ h c (List.mem_reverse.mp hc), List.reverse_reverse]

/-- The characters that a written number consists of. -/
theorem toList_textOfInt (number : ℤ) :
    (textOfInt number).toList = (if number < 0 then ['-'] else []) ++ Nat.toDigits 10 number.natAbs := by
  cases number with
  | ofNat n =>
    have htext : textOfInt (Int.ofNat n) = n.repr := rfl
    rw [htext, Nat.toList_repr, if_neg (by simp)]
    rfl
  | negSucc n =>
    have htext : textOfInt (Int.negSucc n) = "-" ++ (n + 1).repr := rfl
    rw [htext, String.toList_append, Nat.toList_repr, if_pos (Int.negSucc_lt_zero n)]
    rfl

theorem forall_mem_textOfInt {number : ℤ} {c : Char} (h : c ∈ (textOfInt number).toList) : c = '-' ∨ c.isDigit := by
  rw [toList_textOfInt, List.mem_append] at h
  rcases h with hsign | hdigit
  · split at hsign
    · exact Or.inl (List.mem_singleton.mp hsign)
    · exact absurd hsign List.not_mem_nil
  · exact Or.inr (Nat.isDigit_of_mem_toDigits (by decide) (by decide) hdigit)

theorem isSpace_of_mem_textOfInt {number : ℤ} {c : Char} (h : c ∈ (textOfInt number).toList) : isSpace c = false := by
  rcases forall_mem_textOfInt h with rfl | hdigit
  · rfl
  · exact isSpace_of_isDigit hdigit

@[simp]
theorem strip_textOfInt (number : ℤ) : strip (textOfInt number) = textOfInt number :=
  strip_of_forall_not_space fun _ hc ↦ isSpace_of_mem_textOfInt hc

theorem textOfInt_ne_empty (number : ℤ) : textOfInt number ≠ "" := by
  intro hempty
  have hchars := congrArg String.toList hempty
  rw [toList_textOfInt, String.toList_empty] at hchars
  exact Nat.toDigits_ne_nil (List.append_eq_nil_iff.mp hchars).2

/-- What is read of a text with the characters of a written number. -/
theorem stripIntSpaces_textOfInt (number : ℤ) :
    stripIntSpaces ((textOfInt number).toList.map asciiDecimal) = (textOfInt number).toList := by
  have hascii : (textOfInt number).toList.map asciiDecimal = (textOfInt number).toList := by
    calc (textOfInt number).toList.map asciiDecimal = (textOfInt number).toList.map id := by
          apply List.map_congr_left
          intro c hc
          rcases forall_mem_textOfInt hc with rfl | hdigit
          · rfl
          · exact asciiDecimal_of_isDigit hdigit
      _ = (textOfInt number).toList := List.map_id _
  rw [hascii, stripIntSpaces_of_forall fun c hc ↦ isIntSpace_eq_false (isSpace_of_mem_textOfInt hc)]

/-- Digits without a sign -/
theorem readSigned_of_forall_isDigit {digits : List Char} (hne : digits ≠ []) (h : ∀ c ∈ digits, c.isDigit) :
    readSigned digits = some (Nat.ofDigitChars 10 digits 0 : ℤ) := by
  cases digits with
  | nil => exact absurd rfl hne
  | cons c rest =>
    have hc : c.isDigit := h c List.mem_cons_self
    have hnat : readNat (c :: rest) = some (Nat.ofDigitChars 10 (c :: rest) 0) := by
      rw [readNat, if_pos hc, readDigits_of_forall_isDigit fun other hother ↦ h other (List.mem_cons_of_mem c hother),
        Nat.ofDigitChars_cons, Nat.mul_zero, Nat.zero_add]
    have hplus : c ≠ '+' := by
      rintro rfl
      cases hc
    have hminus : c ≠ '-' := by
      rintro rfl
      cases hc
    unfold readSigned
    split
    · rename_i heq
      exact absurd (List.cons.inj heq).1 hminus
    · rename_i heq
      exact absurd (List.cons.inj heq).1 hplus
    · rw [hnat]
      rfl

/-- A number that was turned into a text is read back. -/
@[simp]
theorem intOfText_textOfInt (number : ℤ) : intOfText (textOfInt number) = some number := by
  have hdigits : ∀ c ∈ Nat.toDigits 10 number.natAbs, c.isDigit :=
    fun c hc ↦ Nat.isDigit_of_mem_toDigits (by decide) (by decide) hc
  rw [intOfText, stripIntSpaces_textOfInt, toList_textOfInt]
  split
  · rename_i hnegative
    have hnumber : -Int.ofNat number.natAbs = number := by
      change -(number.natAbs : ℤ) = number
      omega
    change (readNat (Nat.toDigits 10 number.natAbs)).map (fun n ↦ -Int.ofNat n) = _
    rw [readNat_toDigits, Option.map_some, hnumber]
  · rename_i hnonneg
    have hnumber : (number.natAbs : ℤ) = number := by omega
    rw [List.nil_append, readSigned_of_forall_isDigit Nat.toDigits_ne_nil hdigits, Nat.ofDigitChars_ten_toDigits,
      hnumber]

theorem textOfInt_injective : Function.Injective textOfInt := by
  intro first second h
  have hread : some first = some second := by
    calc
      some first = intOfText (textOfInt first) := (intOfText_textOfInt first).symm
      _ = intOfText (textOfInt second) := by rw [h]
      _ = some second := intOfText_textOfInt second
  exact Option.some.inj hread

end TenderPhase1.PyText
