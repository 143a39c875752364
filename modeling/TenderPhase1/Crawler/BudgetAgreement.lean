import TenderPhase1.Crawler.DecimalAmounts
import TenderPhase1.Crawler.DedupKeys
import TenderPhase1.Crawler.PublishedDates
import TenderPhase1.Foundation.PyNumber
import Mathlib.Data.List.Infix

/-!
# Budgets that are read twice

The bucket of a budget comes from the first number that a search finds in the text, with
the unit of ten thousand applied; the stored amount is what `Decimal` makes of the whole
text, in cents. The two agree on plain numerals that do not lie less than half a cent
below the middle of two buckets.
-/

namespace TenderPhase1.Crawler

open PyText HalfAway

/-! ## Numerals -/

/-- The sign in front of a numeral, and what follows it -/
def takeSign : List Char → Bool × List Char
  | '-' :: rest => (true, rest)
  | '+' :: rest => (false, rest)
  | rest => (false, rest)

/-- The digits before a point, those after it, and what follows them -/
def takeDecimal (chars : List Char) : List Char × List Char × List Char :=
  match chars.dropWhile Char.isDigit with
  | '.' :: tail => (chars.takeWhile Char.isDigit, tail.takeWhile Char.isDigit, tail.dropWhile Char.isDigit)
  | rest => (chars.takeWhile Char.isDigit, [], rest)

def readExponent : List Char → Option ℤ
  | [] => some 0
  | 'e' :: rest | 'E' :: rest => readSigned rest
  | _ => none

/-- `decimal.MIN_ETINY` and `decimal.MAX_EMAX` -/
def minEtiny : ℤ := -1999999999999999997
def maxEmax : ℤ := 999999999999999999

/-- The number with the sign, the digits on both sides of the point, and the exponent -/
def numeral (negative : Bool) (whole fraction : List Char) (exponent : ℤ) : Decimal :=
  ⟨negative, digitsValue (whole ++ fraction), exponent - fraction.length⟩

/-- `Decimal(text)` where it is finite. White space around the numeral and underscores are skipped,
the digits may be those of any script. -/
def readDecimal (text : String) : Option Decimal :=
  let chars := ((stripChars text.toList).filter (· ≠ '_')).map asciiDecimal
  let (negative, unsigned) := takeSign chars
  let (whole, fraction, rest) := takeDecimal unsigned
  if whole ++ fraction = [] then none
  else
    (readExponent rest).bind fun exponent ↦
      let amount := numeral negative whole fraction exponent
      if minEtiny ≤ amount.exponent ∧ amount.exponent + digitCount amount.coefficient - 1 ≤ maxEmax then some amount
      else none

/-- A sign or none, digits, and maybe a point with digits after it or none -/
def isPlainNumeral (text : String) : Bool :=
  let (whole, _, rest) := takeDecimal (takeSign text.toList).2
  whole ≠ [] ∧ rest = []

def plainAmount (text : String) : Decimal :=
  let (whole, fraction, _) := takeDecimal (takeSign text.toList).2
  numeral (takeSign text.toList).1 whole fraction 0

/-! ## The column -/

/-- The amount in cents, ties away from zero -/
def Decimal.cents (amount : Decimal) : ℤ := halfAway (100 * amount.value)

def centsText (cents : ℤ) : String :=
  (if cents < 0 then "-" else "") ++ toString (cents.natAbs / 100) ++ "." ++
    String.ofList [Nat.digitChar (cents.natAbs % 100 / 10), Nat.digitChar (cents.natAbs % 10)]

/-- What the column `Numeric(18, 2)` of PostgreSQL keeps of an amount, given by `str(amount)`:
nothing where it refuses it. -/
def numericColumn (written : String) : Option String :=
  match readDecimal written with
  | some amount => if amount.cents.natAbs < 10 ^ 18 then some (centsText amount.cents) else none
  | none => if contains (lower written) "nan" then some "NaN" else none

def storedBudget (python : Python) (value : Value) : Option String := (value.asDecimal python).bind numericColumn

/-- The text that `_as_decimal` hands to `Decimal` -/
def Value.decimalText (value : Value) : Option String :=
  value.map fun object ↦ replaceChar (strip object.text) ',' ""

/-- `unicodedata` on ASCII texts, and `Decimal`, whose `str` it reads as the text it was made from. -/
structure DecimalTexts (python : Python) : Prop where
  nfkc : ∀ text, (∀ c ∈ text.toList, c.toNat < 128) → python.nfkc text = text
  bind_decimal : ∀ text, (python.decimal text).bind readDecimal = readDecimal text

/-! ## The condition -/

/-- No odd multiple of 500 separates the number that is put into a bucket from the amount in
cents: rounding to cents moves the multiples half a cent towards zero. -/
def SameSide (amount number : ℚ) : Prop :=
  ∀ k : ℕ, (1000 * k + 500 - 1 / 200 ≤ amount ↔ 1000 * k + 500 ≤ number) ∧
    (amount ≤ -(1000 * k + 500 - 1 / 200) ↔ number ≤ -(1000 * k + 500))

/-- The text is a numeral that the column holds. A plain one does not lie less than half a cent below
an odd multiple of 500; any other one lies, in cents, on the same side of these multiples as the first
number of the text in its unit. Numbers are taken to the twenty-eight digits of `Decimal`. -/
def BudgetWritten (python : Python) (value : Value) : Prop :=
  ∃ text amount, value.decimalText = some text ∧ readDecimal text = some amount ∧ amount.cents.natAbs < 10 ^ 18 ∧
    if isPlainNumeral text then
      ∀ k : ℕ, 1000 * k + 500 - 1 / 200 ≤ amount.magnitude → 1000 * k + 500 ≤ amount.rounded.magnitude
    else
      ∀ normalized number, normalizeText python value false = some normalized →
        firstNumber normalized = some number →
          SameSide amount.value (number.times (budgetUnit normalized)).rounded.value

/-! ## Plain numerals -/

section Numerals

variable {chars whole fraction : List Char} {text : String}

theorem takeSign_cases (chars : List Char) :
    (∃ rest, chars = '-' :: rest ∧ takeSign chars = (true, rest)) ∨
      (∃ rest, chars = '+' :: rest ∧ takeSign chars = (false, rest)) ∨ takeSign chars = (false, chars) := by
  unfold takeSign
  split
  · exact Or.inl ⟨_, rfl, rfl⟩
  · exact Or.inr (Or.inl ⟨_, rfl, rfl⟩)
  · exact Or.inr (Or.inr rfl)

theorem takeDecimal_spec (chars : List Char) :
    ∃ point, (point = [] ∨ point = ['.']) ∧
      chars = (takeDecimal chars).1 ++ point ++ (takeDecimal chars).2.1 ++ (takeDecimal chars).2.2 ∧
      (∀ c ∈ (takeDecimal chars).1, c.isDigit) ∧ ∀ c ∈ (takeDecimal chars).2.1, c.isDigit := by
  have hdigit (list : List Char) : ∀ c ∈ list.takeWhile Char.isDigit, c.isDigit :=
    fun c hc ↦ List.mem_takeWhile_imp hc
  have hsplit : chars.takeWhile Char.isDigit ++ chars.dropWhile Char.isDigit = chars := List.takeWhile_append_dropWhile
  unfold takeDecimal
  split
  · rename_i tail htail
    refine ⟨['.'], Or.inr rfl, ?_, hdigit chars, hdigit tail⟩
    rw [List.append_assoc, List.append_assoc, List.takeWhile_append_dropWhile, List.singleton_append, ← htail, hsplit]
  · refine ⟨[], Or.inl rfl, ?_, hdigit chars, fun c hc ↦ absurd hc List.not_mem_nil⟩
    simp only [List.append_nil]
    exact hsplit.symm

theorem takeDecimal_append (hwhole : ∀ c ∈ whole, c.isDigit) (hfraction : ∀ c ∈ fraction, c.isDigit) :
    takeDecimal (whole ++ '.' :: fraction) = (whole, fraction, []) := by
  have hpoint : ¬Char.isDigit '.' := by decide
  have hdrop : (whole ++ '.' :: fraction).dropWhile Char.isDigit = '.' :: fraction := by
    rw [List.dropWhile_append_of_pos hwhole, List.dropWhile_cons_of_neg hpoint]
  have htake : (whole ++ '.' :: fraction).takeWhile Char.isDigit = whole := by
    rw [List.takeWhile_append_of_pos hwhole, List.takeWhile_cons_of_neg hpoint, List.append_nil]
  unfold takeDecimal
  rw [hdrop, htake]
  simp only [List.takeWhile_eq_self_iff.mpr hfraction, List.dropWhile_eq_nil_iff.mpr hfraction]

/-- The search reads a number as `takeDecimal` does. -/
theorem matchNumber_eq (chars : List Char) :
    matchNumber chars =
      let unsigned := if chars.head? = some '-' then chars.tail else chars
      if (takeDecimal unsigned).1 = [] then none
      else some (numeral (chars.head? = some '-') (takeDecimal unsigned).1 (takeDecimal unsigned).2.1 0) := by
  have hparts (unsigned : List Char) : takeDecimal unsigned =
      (unsigned.takeWhile Char.isDigit,
        (match unsigned.dropWhile Char.isDigit with
          | '.' :: tail => tail.takeWhile Char.isDigit
          | _ => []), (takeDecimal unsigned).2.2) := by
    unfold takeDecimal
    split <;> rfl
  unfold matchNumber numeral
  dsimp only
  simp only [zero_sub]
  generalize (if chars.head? = some '-' then chars.tail else chars) = unsigned
  let read (parts : List Char × List Char × List Char) : Option Decimal :=
    if parts.1 = [] then none
    else some ⟨chars.head? = some '-', digitsValue (parts.1 ++ parts.2.1), -parts.2.1.length⟩
  exact congrArg read (hparts unsigned).symm

theorem isDigit_head_of_takeDecimal (h : (takeDecimal chars).1 ≠ []) :
    ∃ digit rest, chars = digit :: rest ∧ digit.isDigit := by
  obtain ⟨point, -, hchars, hdigits, -⟩ := takeDecimal_spec chars
  cases hwhole : (takeDecimal chars).1 with
  | nil => exact absurd hwhole h
  | cons digit rest =>
    rw [hwhole] at hchars hdigits
    exact ⟨digit, _, by rw [hchars]; rfl, hdigits digit List.mem_cons_self⟩

theorem ne_of_isDigit {digit c : Char} (h : digit.isDigit) (hc : c.isDigit = false) : digit ≠ c := by
  rintro rfl
  rw [hc] at h
  cases h

/-- The search finds a plain numeral as a whole. -/
theorem findSome?_matchNumber (h : isPlainNumeral text) :
    text.toList.tails.findSome? matchNumber = some (plainAmount text) := by
  have hwhole : (takeDecimal (takeSign text.toList).2).1 ≠ [] := (of_decide_eq_true h).1
  unfold plainAmount
  dsimp only
  generalize text.toList = chars at *
  have hunsigned (unsigned : List Char) (hne : (takeDecimal unsigned).1 ≠ []) :
      matchNumber unsigned = some (numeral false (takeDecimal unsigned).1 (takeDecimal unsigned).2.1 0) := by
    obtain ⟨digit, rest, rfl, hdigit⟩ := isDigit_head_of_takeDecimal hne
    have hhead : ¬(digit :: rest).head? = some '-' := fun heq ↦ ne_of_isDigit hdigit rfl (Option.some.inj heq)
    rw [matchNumber_eq]
    dsimp only
    rw [if_neg hhead, if_neg hne, decide_eq_false hhead]
  rcases takeSign_cases chars with ⟨rest, rfl, hsign⟩ | ⟨rest, rfl, hsign⟩ | hsign
  · have hmatch : matchNumber ('-' :: rest) =
        some (numeral true (takeDecimal rest).1 (takeDecimal rest).2.1 0) := by
      rw [matchNumber_eq]
      exact if_neg hwhole
    rw [List.tails_cons, List.findSome?_cons, hmatch]
    rfl
  · have hplus : matchNumber ('+' :: rest) = none := by
      rw [matchNumber_eq]
      rfl
    obtain ⟨digit, tail, htail, -⟩ := isDigit_head_of_takeDecimal hwhole
    have hmatch := hunsigned rest hwhole
    change rest = digit :: tail at htail
    rw [List.tails_cons, List.findSome?_cons, hplus]
    dsimp only
    rw [htail, List.tails_cons, List.findSome?_cons, ← htail, hmatch]
    rfl
  · rw [hsign] at hwhole ⊢
    obtain ⟨digit, rest, hchars, -⟩ := isDigit_head_of_takeDecimal hwhole
    have hmatch := hunsigned chars hwhole
    change chars = digit :: rest at hchars
    rw [hchars, List.tails_cons, List.findSome?_cons, ← hchars, hmatch]

/-- The characters of a plain numeral -/
def IsPlain (c : Char) : Prop := c.isDigit ∨ c = '.' ∨ c = '-' ∨ c = '+'

/-- A plain numeral consists of plain characters. -/
theorem isPlain_of_mem (h : isPlainNumeral text) {c : Char} (hc : c ∈ text.toList) : IsPlain c := by
  have hrest : (takeDecimal (takeSign text.toList).2).2.2 = [] := (of_decide_eq_true h).2
  have hunsigned (unsigned : List Char) (hnil : (takeDecimal unsigned).2.2 = []) (hmem : c ∈ unsigned) :
      IsPlain c := by
    obtain ⟨point, hpoint, hchars, hwhole, hfraction⟩ := takeDecimal_spec unsigned
    rw [hchars, hnil, List.append_nil, List.mem_append, List.mem_append] at hmem
    rcases hmem with (hmem | hmem) | hmem
    · exact Or.inl (hwhole c hmem)
    · rcases hpoint with rfl | rfl
      · cases hmem
      · exact Or.inr (Or.inl (List.mem_singleton.mp hmem))
    · exact Or.inl (hfraction c hmem)
  rcases takeSign_cases text.toList with ⟨rest, hchars, hsign⟩ | ⟨rest, hchars, hsign⟩ | hsign
  · rw [hsign] at hrest
    rw [hchars] at hc
    rcases List.mem_cons.mp hc with rfl | hc
    · exact Or.inr (Or.inr (Or.inl rfl))
    · exact hunsigned rest hrest hc
  · rw [hsign] at hrest
    rw [hchars] at hc
    rcases List.mem_cons.mp hc with rfl | hc
    · exact Or.inr (Or.inr (Or.inr rfl))
    · exact hunsigned rest hrest hc
  · rw [hsign] at hrest
    exact hunsigned _ hrest hc

theorem IsPlain.isSpace {c : Char} (h : IsPlain c) : isSpace c = false := by
  rcases h with hdigit | rfl | rfl | rfl
  · exact isSpace_of_isDigit hdigit
  all_goals decide

theorem IsPlain.ascii {c : Char} (h : IsPlain c) : c.toNat < 128 := by
  rcases h with hdigit | rfl | rfl | rfl
  · exact (Char.isDigit_iff_toNat.mp hdigit).2.trans_lt (by decide)
  all_goals decide

theorem IsPlain.asciiDecimal {c : Char} (h : IsPlain c) : asciiDecimal c = c := by
  rcases h with hdigit | rfl | rfl | rfl
  · exact asciiDecimal_of_isDigit hdigit
  all_goals decide

theorem IsPlain.ne_underscore {c : Char} (h : IsPlain c) : c ≠ '_' := by
  rintro rfl
  revert h
  unfold IsPlain
  decide

/-- `Decimal` reads a plain numeral as a whole. -/
theorem eq_plainAmount (h : isPlainNumeral text) {amount : Decimal} (hread : readDecimal text = some amount) :
    amount = plainAmount text := by
  have hplain : ∀ c ∈ text.toList, IsPlain c := fun c hc ↦ isPlain_of_mem h hc
  have hrest : (takeDecimal (takeSign text.toList).2).2.2 = [] := (of_decide_eq_true h).2
  have hkept : ((stripChars text.toList).filter (· ≠ '_')).map asciiDecimal = text.toList := by
    have hfilter : text.toList.filter (· ≠ '_') = text.toList :=
      List.filter_eq_self.mpr fun c hc ↦ decide_eq_true (hplain c hc).ne_underscore
    rw [stripChars_of_forall fun c hc ↦ (hplain c hc).isSpace, hfilter]
    calc text.toList.map asciiDecimal = text.toList.map id := List.map_congr_left fun c hc ↦ (hplain c hc).asciiDecimal
      _ = text.toList := List.map_id _
  unfold readDecimal at hread
  rw [hkept] at hread
  dsimp only at hread
  rw [hrest] at hread
  split at hread
  · cases hread
  · simp only [readExponent, Option.bind_some, Option.ite_none_right_eq_some, Option.some.injEq] at hread
    exact hread.2.symm

end Numerals

/-! ## What the search finds -/

section Searches

variable {python : Python} {text : String} {value : Value}

theorem contains_eq_false {text sub : String} {c : Char} (hsub : sub.toList.head? = some c) (h : c ∉ text.toList) :
    contains text sub = false := by
  obtain ⟨rest, hrest⟩ := List.head?_eq_some_iff.mp hsub
  unfold contains
  rw [List.any_eq_false]
  intro tail htail hpre
  obtain ⟨after, hafter⟩ := List.isPrefixOf_iff_prefix.mp hpre
  apply h
  have hmem : c ∈ tail := by
    rw [← hafter, hrest]
    exact List.mem_cons_self
  exact ((List.mem_tails _ _).mp htail).subset hmem

/-- Of a plain numeral whose digits commas may separate, everything is kept, and it has no unit. -/
theorem search_of_plain (texts : DecimalTexts python) (hvalue : value.decimalText = some text)
    (h : isPlainNumeral text) :
    ∃ normalized, normalizeText python value false = some normalized ∧
      firstNumber normalized = some (plainAmount text) ∧ budgetUnit normalized = 1 := by
  obtain ⟨object, rfl, rfl⟩ := Option.map_eq_some_iff.mp hvalue
  have hchars : ∀ c ∈ (strip object.text).toList, c = ',' ∨ IsPlain c := by
    intro c hc
    by_cases hcomma : c = ','
    · exact Or.inl hcomma
    · right
      apply isPlain_of_mem h
      rw [toList_replaceChar, List.mem_filter]
      exact ⟨hc, decide_eq_true hcomma⟩
  have hspaces : ∀ c ∈ (strip object.text).toList, isSpace c = false := by
    intro c hc
    rcases hchars c hc with rfl | hplain
    · decide
    · exact hplain.isSpace
  have hascii : ∀ c ∈ (strip object.text).toList, c.toNat < 128 := by
    intro c hc
    rcases hchars c hc with rfl | hplain
    · decide
    · exact hplain.ascii
  have hne : strip object.text ≠ "" := by
    intro hempty
    rw [hempty] at h
    revert h
    decide
  have hasStr : Value.asStr (some object) = some (strip object.text) := if_neg hne
  refine ⟨strip object.text, normalizeText_of_forall hasStr (texts.nfkc _ hascii) hspaces, findSome?_matchNumber h, ?_⟩
  have hunit : contains (strip object.text) "万" = false := by
    apply contains_eq_false rfl
    intro hmem
    exact absurd (hascii _ hmem) (by decide)
  unfold budgetUnit
  rw [hunit]
  rfl

theorem normalizeBudgetBucket_of_plain (texts : DecimalTexts python) (hvalue : value.decimalText = some text)
    (h : isPlainNumeral text) : normalizeBudgetBucket python value = (plainAmount text).bucketText.map some := by
  obtain ⟨normalized, hnormalized, hnumber, hunit⟩ := search_of_plain texts hvalue h
  have htimes : (plainAmount text).times 1 = plainAmount text := by
    unfold Decimal.times
    rw [Nat.mul_one]
  rw [normalizeBudgetBucket_eq, hnormalized]
  dsimp only
  rw [hnumber, hunit]
  dsimp only
  rw [htimes]

end Searches

/-! ## Stored amounts -/

section Stored

variable {python : Python} {cents : ℤ}

theorem toList_centsText (cents : ℤ) :
    (centsText cents).toList = (if cents < 0 then ['-'] else []) ++ (Nat.toDigits 10 (cents.natAbs / 100) ++
      '.' :: [Nat.digitChar (cents.natAbs % 100 / 10), Nat.digitChar (cents.natAbs % 10)]) := by
  have hdigits : (toString (cents.natAbs / 100)).toList = Nat.toDigits 10 (cents.natAbs / 100) := Nat.toList_repr
  unfold centsText
  rw [String.toList_append, String.toList_append, String.toList_append, hdigits, String.toList_ofList]
  split <;> simp

/-- The text of an amount is its sign, the whole part and two decimals. -/
theorem takeSign_centsText (cents : ℤ) :
    takeSign (centsText cents).toList = (decide (cents < 0), Nat.toDigits 10 (cents.natAbs / 100) ++
      '.' :: [Nat.digitChar (cents.natAbs % 100 / 10), Nat.digitChar (cents.natAbs % 10)]) := by
  rw [toList_centsText]
  by_cases hnegative : cents < 0
  · rw [if_pos hnegative, decide_eq_true hnegative]
    rfl
  · have hdigits : ∀ c ∈ Nat.toDigits 10 (cents.natAbs / 100), c.isDigit :=
      fun c hc ↦ Nat.isDigit_of_mem_toDigits (by decide) (by decide) hc
    rw [if_neg hnegative, decide_eq_false hnegative, List.nil_append]
    cases hwhole : Nat.toDigits 10 (cents.natAbs / 100) with
    | nil => exact absurd hwhole Nat.toDigits_ne_nil
    | cons digit rest =>
      have hdigit : digit.isDigit := hdigits digit (hwhole ▸ List.mem_cons_self)
      rcases takeSign_cases (digit :: rest ++ '.' :: [Nat.digitChar (cents.natAbs % 100 / 10),
        Nat.digitChar (cents.natAbs % 10)]) with ⟨_, hcons, -⟩ | ⟨_, hcons, -⟩ | hsign
      · exact absurd (List.cons.inj hcons).1 (ne_of_isDigit hdigit rfl)
      · exact absurd (List.cons.inj hcons).1 (ne_of_isDigit hdigit rfl)
      · exact hsign

theorem takeDecimal_centsText (cents : ℤ) :
    takeDecimal (takeSign (centsText cents).toList).2 = (Nat.toDigits 10 (cents.natAbs / 100),
      [Nat.digitChar (cents.natAbs % 100 / 10), Nat.digitChar (cents.natAbs % 10)], []) := by
  rw [takeSign_centsText]
  apply takeDecimal_append
  · exact fun c hc ↦ Nat.isDigit_of_mem_toDigits (by decide) (by decide) hc
  · intro c hc
    have hdigit (n : ℕ) (hn : n < 10) : (Nat.digitChar n).isDigit := by
      rw [Nat.isDigit_digitChar, decide_eq_true hn]
    rcases List.mem_cons.mp hc with rfl | hc
    · exact hdigit _ (by omega)
    · rw [List.mem_singleton.mp hc]
      exact hdigit _ (by omega)

theorem isPlainNumeral_centsText (cents : ℤ) : isPlainNumeral (centsText cents) := by
  unfold isPlainNumeral
  rw [takeDecimal_centsText]
  exact decide_eq_true ⟨Nat.toDigits_ne_nil, rfl⟩

theorem plainAmount_centsText (cents : ℤ) : plainAmount (centsText cents) = ⟨decide (cents < 0), cents.natAbs, -2⟩ := by
  have hvalue : digitsValue (Nat.toDigits 10 (cents.natAbs / 100) ++
      [Nat.digitChar (cents.natAbs % 100 / 10), Nat.digitChar (cents.natAbs % 10)]) = cents.natAbs := by
    have hfold (chars : List Char) : digitsValue chars = Nat.ofDigitChars 10 chars 0 := Nat.ofDigitChars_eq_foldl.symm
    rw [hfold, Nat.ofDigitChars_append, Nat.ofDigitChars_ten_toDigits,
      Nat.ofDigitChars_cons_digitChar_of_lt_ten (by omega), Nat.ofDigitChars_cons_digitChar_of_lt_ten (by omega),
      Nat.ofDigitChars_nil]
    omega
  unfold plainAmount numeral
  rw [takeDecimal_centsText, takeSign_centsText]
  dsimp only
  rw [hvalue]
  rfl

/-- The bucket of an amount that was read back -/
theorem normalizeBudgetBucket_centsText (texts : DecimalTexts python) (h : cents.natAbs < 10 ^ 18) :
    normalizeBudgetBucket python (Value.ofText (some (centsText cents))) =
      .ok (some (textOfInt (1000 * halfAway ((cents : ℚ) / 100000)))) := by
  have hplain := isPlainNumeral_centsText cents
  have hchars : ∀ c ∈ (centsText cents).toList, IsPlain c := fun c hc ↦ isPlain_of_mem hplain hc
  have htext : (Value.ofText (some (centsText cents))).decimalText = some (centsText cents) := by
    have hcomma : ',' ∉ (centsText cents).toList := by
      intro hmem
      have hc := hchars ',' hmem
      revert hc
      unfold IsPlain
      decide
    have hstrip : strip (centsText cents) = centsText cents :=
      strip_of_forall_not_space fun c hc ↦ (hchars c hc).isSpace
    change some (replaceChar (strip (centsText cents)) ',' "") = _
    rw [hstrip, replaceChar_of_notMem hcomma]
  have hsmall : cents.natAbs < 10 ^ decimalPrecision := h.trans (by decide)
  have hrounded : (plainAmount (centsText cents)).rounded = ⟨decide (cents < 0), cents.natAbs, -2⟩ := by
    rw [plainAmount_centsText, Decimal.rounded_of_lt hsmall]
  have hmagnitude : Decimal.magnitude ⟨decide (cents < 0), cents.natAbs, -2⟩ = (cents.natAbs : ℚ) / 100 := by
    unfold Decimal.magnitude
    dsimp only
    rw [zpow_neg, ← div_eq_mul_inv]
    norm_num
  have hvalue : (plainAmount (centsText cents)).rounded.value / 1000 = (cents : ℚ) / 100000 := by
    rw [hrounded, Decimal.value, hmagnitude]
    have habs : ((cents.natAbs : ℕ) : ℚ) = |(cents : ℚ)| := by rw [Nat.cast_natAbs, Int.cast_abs]
    by_cases hnegative : cents < 0
    · have hcast : (cents : ℚ) < 0 := by exact_mod_cast hnegative
      rw [if_pos (decide_eq_true hnegative), habs, abs_of_neg hcast]
      ring
    · have hcast : (0 : ℚ) ≤ cents := by exact_mod_cast not_lt.mp hnegative
      rw [if_neg (by simpa using hnegative), habs, abs_of_nonneg hcast]
      ring
  have hsteps : (plainAmount (centsText cents)).bucketSteps * 1000 < 10 ^ decimalPrecision := by
    have hbound (n : ℕ) (hn : n < 10 ^ 18) : (halfAway ((n : ℚ) / 100 / 1000)).toNat < 10 ^ 18 := by
      by_contra hlarge
      have hle : (10 ^ 18 : ℤ) ≤ halfAway ((n : ℚ) / 100 / 1000) := by omega
      have hlow := (le_halfAway_iff (by norm_num)).mp hle
      have hcast : (n : ℚ) < 10 ^ 18 := by exact_mod_cast hn
      push_cast at hlow
      linarith
    have hsmaller : (10 : ℕ) ^ 18 * 1000 < 10 ^ decimalPrecision := by decide +kernel
    have hcents := hbound cents.natAbs h
    rw [← hmagnitude, ← hrounded] at hcents
    exact (Nat.mul_lt_mul_of_pos_right hcents (by decide)).trans hsmaller
  have hbucket := Decimal.bucketText_eq_ok.mpr ⟨hsteps, rfl⟩
  rw [normalizeBudgetBucket_of_plain texts htext hplain, hbucket, hvalue]
  rfl

end Stored

/-! ## The two readers -/

section Agreement

variable {python : Python} {value : Value} {bucket : String} {amount : Decimal}

/-- The budget is stored, and what is stored falls into the bucket. -/
def BudgetKept (python : Python) (value : Value) (bucket : String) : Prop :=
  ∃ stored, storedBudget python value = some stored ∧
    normalizeBudgetBucket python (Value.ofText (some stored)) = .ok (some bucket)

theorem bind_asDecimal (texts : DecimalTexts python) (value : Value) :
    (value.asDecimal python).bind readDecimal = value.decimalText.bind readDecimal := by
  cases value with
  | none => rfl
  | some object =>
    unfold Value.asDecimal Value.decimalText
    rw [Option.bind_some, Option.map_some, Option.bind_some]
    dsimp only
    split
    · rename_i hempty
      have hnone : readDecimal "" = none := by decide
      rw [hempty, hnone, Option.bind_none]
    · exact texts.bind_decimal _

/-- Nothing but a numeral in the column's range is stored and falls into a bucket. -/
theorem budgetKept_iff_exists (texts : DecimalTexts python) :
    BudgetKept python value bucket ↔
      ∃ amount, value.decimalText.bind readDecimal = some amount ∧ amount.cents.natAbs < 10 ^ 18 ∧
        bucket = textOfInt (1000 * halfAway ((amount.cents : ℚ) / 100000)) := by
  have hread := bind_asDecimal texts value
  unfold BudgetKept storedBudget
  constructor
  · rintro ⟨stored, hstored, hbucket⟩
    obtain ⟨written, hwritten, hcolumn⟩ := Option.bind_eq_some_iff.mp hstored
    rw [hwritten, Option.bind_some] at hread
    unfold numericColumn at hcolumn
    cases hamount : readDecimal written with
    | none =>
      -- an amount that is no number falls into no bucket
      have hnan : normalizeBudgetBucket python (Value.ofText (some "NaN")) = .ok none := by
        have hnormal : normalizeText python (Value.ofText (some "NaN")) false = some "NaN" :=
          normalizeText_of_forall (by decide) (texts.nfkc _ (by decide)) (by decide)
        have hnumber : firstNumber "NaN" = none := by decide
        rw [normalizeBudgetBucket_eq, hnormal]
        dsimp only
        rw [hnumber]
      rw [hamount] at hcolumn
      dsimp only at hcolumn
      split at hcolumn
      · rw [← Option.some.inj hcolumn, hnan] at hbucket
        cases Except.ok.inj hbucket
      · cases hcolumn
    | some amount =>
      rw [hamount] at hcolumn hread
      dsimp only at hcolumn
      split at hcolumn
      · rename_i hfits
        rw [← Option.some.inj hcolumn, normalizeBudgetBucket_centsText texts hfits] at hbucket
        exact ⟨amount, hread.symm, hfits, (Option.some.inj (Except.ok.inj hbucket)).symm⟩
      · cases hcolumn
  · rintro ⟨amount, hamount, hfits, rfl⟩
    rw [hamount] at hread
    obtain ⟨written, hwritten, hwrittenAmount⟩ := Option.bind_eq_some_iff.mp hread
    refine ⟨centsText amount.cents, ?_, normalizeBudgetBucket_centsText texts hfits⟩
    rw [hwritten, Option.bind_some, numericColumn, hwrittenAmount]
    exact if_pos hfits

/-- Amounts in cents and a number fall into one bucket where they lie on the same side of the
multiples. -/
theorem sameSide_iff (number : ℚ) :
    halfAway ((amount.cents : ℚ) / 100000) = halfAway (number / 1000) ↔ SameSide amount.value number := by
  have hrounding := halfAway_halfAway_eq_iff (x := 100 * amount.value) (y := number / 1000) (m := 50000) (by decide)
  have hunits : (2 : ℚ) * (50000 : ℕ) = 100000 := by norm_num
  rw [hunits] at hrounding
  refine hrounding.trans (forall_congr' fun k ↦ ?_)
  have hlow : (100000 : ℚ) * (k + 1 / 2) - 1 / 2 ≤ 100 * amount.value ↔ 1000 * k + 500 - 1 / 200 ≤ amount.value := by
    constructor <;> intro h <;> linarith
  have hlowNumber : (k : ℚ) + 1 / 2 ≤ number / 1000 ↔ 1000 * k + 500 ≤ number := by
    constructor <;> intro h <;> linarith
  have hhigh : 100 * amount.value ≤ -((100000 : ℚ) * (k + 1 / 2) - 1 / 2) ↔
      amount.value ≤ -(1000 * k + 500 - 1 / 200) := by
    constructor <;> intro h <;> linarith
  have hhighNumber : number / 1000 ≤ -((k : ℚ) + 1 / 2) ↔ number ≤ -(1000 * k + 500) := by
    constructor <;> intro h <;> linarith
  rw [hlow, hlowNumber, hhigh, hhighNumber]

theorem Decimal.magnitude_lt_of_cents (h : amount.cents.natAbs < 10 ^ 18) : amount.magnitude < 10 ^ 16 := by
  by_contra hlarge
  have hlow : (10 ^ 18 : ℤ) ≤ halfAway (100 * amount.magnitude) := by
    rw [le_halfAway_iff (by norm_num)]
    push_cast
    linarith
  have hcents : amount.cents = halfAway (100 * amount.magnitude) ∨
      amount.cents = -halfAway (100 * amount.magnitude) := by
    unfold Decimal.cents Decimal.value
    split
    · right
      rw [mul_neg, halfAway_neg]
    · exact Or.inl rfl
  omega

/-- For the number that the amount itself is rounded to, only amounts just below a multiple matter. -/
theorem sameSide_rounded_iff (h : amount.cents.natAbs < 10 ^ 18) :
    SameSide amount.value amount.rounded.value ↔
      ∀ k : ℕ, 1000 * k + 500 - 1 / 200 ≤ amount.magnitude → 1000 * k + 500 ≤ amount.rounded.magnitude := by
  have hclose := Decimal.magnitude_rounded_lt (Decimal.magnitude_lt_of_cents h)
  have hnonneg := amount.magnitude_nonneg
  have hroundedNonneg := amount.rounded.magnitude_nonneg
  have hk (k : ℕ) : (0 : ℚ) ≤ k := Nat.cast_nonneg k
  unfold SameSide Decimal.value
  rw [Decimal.rounded_negative]
  apply forall_congr'
  intro k
  have hk := hk k
  by_cases hnegative : amount.negative
  · rw [if_pos hnegative, if_pos hnegative]
    constructor
    · rintro ⟨-, hside⟩ hlow
      exact neg_le_neg_iff.mp (hside.mp (neg_le_neg hlow))
    · intro hside
      refine ⟨⟨fun hlow ↦ by linarith, fun hlow ↦ by linarith⟩, fun hlow ↦ ?_, fun hlow ↦ by linarith⟩
      exact neg_le_neg (hside (neg_le_neg_iff.mp hlow))
  · rw [if_neg hnegative, if_neg hnegative]
    constructor
    · rintro ⟨hside, -⟩ hlow
      exact hside.mp hlow
    · intro hside
      exact ⟨⟨hside, fun hlow ↦ by linarith⟩, fun hlow ↦ by linarith, fun hlow ↦ by linarith⟩

/-- The two conditions on the text say on which side of the multiples its first number lies. -/
theorem sameSide_iff_ite (texts : DecimalTexts python) {text normalized : String} {number : Decimal}
    (hdecimal : value.decimalText = some text) (hread : readDecimal text = some amount)
    (hfits : amount.cents.natAbs < 10 ^ 18) (hnormalized : normalizeText python value false = some normalized)
    (hnumber : firstNumber normalized = some number) :
    SameSide amount.value (number.times (budgetUnit normalized)).rounded.value ↔
      if isPlainNumeral text then
        ∀ k : ℕ, 1000 * k + 500 - 1 / 200 ≤ amount.magnitude → 1000 * k + 500 ≤ amount.rounded.magnitude
      else
        ∀ normalized number, normalizeText python value false = some normalized →
          firstNumber normalized = some number →
            SameSide amount.value (number.times (budgetUnit normalized)).rounded.value := by
  by_cases hplain : isPlainNumeral text
  · obtain ⟨found, hfound, hfoundNumber, hunit⟩ := search_of_plain texts hdecimal hplain
    have hsame : normalized = found := Option.some.inj (hnormalized.symm.trans hfound)
    have hamount : number = amount := by
      rw [hsame, hfoundNumber] at hnumber
      exact (Option.some.inj hnumber).symm.trans (eq_plainAmount hplain hread).symm
    have htimes : amount.times 1 = amount := by
      unfold Decimal.times
      rw [Nat.mul_one]
    rw [if_pos hplain, hsame, hunit, hamount, htimes]
    exact sameSide_rounded_iff hfits
  · rw [if_neg hplain]
    constructor
    · intro hside other otherNumber hother hotherNumber
      obtain rfl := Option.some.inj (hnormalized.symm.trans hother)
      obtain rfl := Option.some.inj (hnumber.symm.trans hotherNumber)
      exact hside
    · intro hall
      exact hall normalized number hnormalized hnumber

/-- A budget that falls into a bucket is stored in it just where it is written as the condition asks. -/
theorem budgetKept_iff (texts : DecimalTexts python) (h : normalizeBudgetBucket python value = .ok (some bucket)) :
    BudgetKept python value bucket ↔ BudgetWritten python value := by
  have hequation := normalizeBudgetBucket_eq python value
  rw [h] at hequation
  cases hnormalized : normalizeText python value false with
  | none =>
    rw [hnormalized] at hequation
    cases Except.ok.inj hequation
  | some normalized =>
    rw [hnormalized] at hequation
    dsimp only at hequation
    cases hnumber : firstNumber normalized with
    | none =>
      rw [hnumber] at hequation
      cases Except.ok.inj hequation
    | some number =>
      rw [hnumber] at hequation
      obtain ⟨written, hwritten, hbucket⟩ := map_eq_ok.mp hequation.symm
      obtain ⟨-, htext⟩ := Decimal.bucketText_eq_ok.mp hwritten
      obtain rfl := Option.some.inj hbucket
      rw [budgetKept_iff_exists texts, htext]
      -- both buckets are multiples of 1000
      have hmultiple (m n : ℤ) : textOfInt (1000 * m) = textOfInt (1000 * n) ↔ n = m := by
        rw [textOfInt_injective.eq_iff]
        omega
      unfold BudgetWritten
      simp only [hmultiple, sameSide_iff, Option.bind_eq_some_iff]
      constructor
      · rintro ⟨amount, ⟨text, hdecimal, hread⟩, hfits, hside⟩
        exact ⟨text, amount, hdecimal, hread, hfits,
          (sameSide_iff_ite texts hdecimal hread hfits hnormalized hnumber).mp hside⟩
      · rintro ⟨text, amount, hdecimal, hread, hfits, hcondition⟩
        exact ⟨amount, ⟨text, hdecimal, hread⟩, hfits,
          (sameSide_iff_ite texts hdecimal hread hfits hnormalized hnumber).mpr hcondition⟩

end Agreement

/-! ## Two budgets -/

/-- Python on plain texts; a finite amount keeps the text it was made from. -/
def amountPython : Python :=
  { blankPython with
    decimal := fun text ↦ if (readDecimal text).isSome then some text else none }

theorem decimalTexts_amountPython : DecimalTexts amountPython where
  nfkc _ _ := rfl
  bind_decimal text := by
    change (if (readDecimal text).isSome then some text else none).bind readDecimal = readDecimal text
    split
    · rfl
    · rename_i hnone
      rw [Option.not_isSome_iff_eq_none.mp hnone]
      rfl

/-- Commas between the digits, and a tie between two buckets -/
theorem budgetKept_commas : BudgetKept amountPython (some (.str "1,234,500")) "1235000" := by
  refine (budgetKept_iff decimalTexts_amountPython (by decide +kernel)).mpr ?_
  have hread : Value.decimalText (some (.str "1,234,500")) = some "1234500" ∧
      (readDecimal "1234500").map (fun amount ↦ (amount.negative, amount.coefficient, amount.exponent)) =
        some (false, 1234500, 0) ∧ isPlainNumeral "1234500" := by decide +kernel
  obtain ⟨hdecimal, hamount, hplain⟩ := hread
  obtain ⟨amount, hread, hparts⟩ := Option.map_eq_some_iff.mp hamount
  obtain rfl : amount = ⟨false, 1234500, 0⟩ := by
    cases amount
    simp only [Prod.mk.injEq] at hparts
    simp only [hparts]
  have hmagnitude : Decimal.magnitude ⟨false, 1234500, 0⟩ = 1234500 := by
    unfold Decimal.magnitude
    norm_num
  have hrounded : Decimal.rounded ⟨false, 1234500, 0⟩ = ⟨false, 1234500, 0⟩ := Decimal.rounded_of_lt (by decide)
  refine ⟨_, _, hdecimal, hread, by decide +kernel, ?_⟩
  rw [if_pos hplain, hrounded, hmagnitude]
  intro k hk
  have hwhole : 1000 * k + 500 < 1234501 := by
    have hcast : ((1000 * k + 500 : ℕ) : ℚ) < (1234501 : ℕ) := by
      push_cast
      linarith
    exact_mod_cast hcast
  exact_mod_cast Nat.lt_succ_iff.mp hwhole

/-- An amount in units of ten thousand enters the key, and is not stored. -/
theorem budgetLost_unit :
    ¬∀ value bucket, normalizeBudgetBucket amountPython value = .ok (some bucket) →
      BudgetKept amountPython value bucket := by
  intro h
  have hbucket : normalizeBudgetBucket amountPython (some (.str "100万")) = .ok (some "1000000") := by decide +kernel
  have hlost : storedBudget amountPython (some (.str "100万")) = none := by decide +kernel
  obtain ⟨stored, hstored, -⟩ := h _ _ hbucket
  rw [hlost] at hstored
  cases hstored

end TenderPhase1.Crawler
