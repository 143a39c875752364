import Mathlib.Data.String.Basic
import Mathlib.Order.Lex
import Mathlib.Data.Prod.Lex

/-!
# Dates and their ISO texts

The ISO text of a date has its numbers in decimal with a fixed number of digits, the
most significant first, so texts are ordered as the dates are.
-/

namespace TenderPhase1.IsoDates

/-! ## Decimal numbers of a fixed width -/

/-- The last `width` decimal digits of a number. -/
def digits : ℕ → ℕ → List Char
  | 0, _ => []
  | width + 1, n => digits width (n / 10) ++ [Nat.digitChar (n % 10)]

@[simp]
theorem length_digits (width n : ℕ) : (digits width n).length = width := by
  induction width generalizing n with
  | zero => rfl
  | succ width ih => rw [digits, List.length_append, ih, List.length_singleton]

theorem digitChar_lt_iff {n m : ℕ} (hn : n < 10) (hm : m < 10) : Nat.digitChar n < Nat.digitChar m ↔ n < m := by
  have hdigits : ∀ n m : Fin 10, Nat.digitChar n < Nat.digitChar m ↔ n < m := by decide
  exact hdigits ⟨n, hn⟩ ⟨m, hm⟩

/-- Texts of one length are compared by their first parts, and by the rest where these agree. -/
theorem append_lt_append_iff {first other rest last : List Char} (hlength : first.length = other.length) :
    first ++ rest < other ++ last ↔ first < other ∨ first = other ∧ rest < last := by
  induction first generalizing other with
  | nil =>
    obtain rfl := List.length_eq_zero_iff.mp hlength.symm
    simp
  | cons c first ih =>
    cases other with
    | nil => simp at hlength
    | cons d other =>
      have htail : first.length = other.length := by simpa using hlength
      simp only [List.cons_append, List.cons_lt_cons_iff, ih htail, List.cons.injEq]
      tauto

/-- Numbers that fit the width are ordered as their texts are. -/
theorem digits_lt_digits_iff {width n m : ℕ} (hn : n < 10 ^ width) (hm : m < 10 ^ width) :
    digits width n < digits width m ↔ n < m := by
  induction width generalizing n m with
  | zero => simp [digits, Nat.lt_one_iff.mp hn, Nat.lt_one_iff.mp hm]
  | succ width ih =>
    rw [pow_succ] at hn hm
    have hlt : digits width (n / 10) < digits width (m / 10) ↔ n / 10 < m / 10 := ih (by omega) (by omega)
    have hgt : digits width (m / 10) < digits width (n / 10) ↔ m / 10 < n / 10 := ih (by omega) (by omega)
    have heq : digits width (n / 10) = digits width (m / 10) ↔ n / 10 = m / 10 := by
      constructor
      · intro h
        have hirrefl := lt_irrefl (digits width (n / 10))
        rw [h] at hlt hgt hirrefl
        have hnot : ¬ n / 10 < m / 10 := fun hless ↦ hirrefl (hlt.mpr hless)
        have hnot' : ¬ m / 10 < n / 10 := fun hless ↦ hirrefl (hgt.mpr hless)
        omega
      · exact congrArg (digits width)
    have hlast : Nat.digitChar (n % 10) < Nat.digitChar (m % 10) ↔ n % 10 < m % 10 :=
      digitChar_lt_iff (Nat.mod_lt n (by omega)) (Nat.mod_lt m (by omega))
    calc digits (width + 1) n < digits (width + 1) m
        ↔ digits width (n / 10) < digits width (m / 10) ∨
            digits width (n / 10) = digits width (m / 10) ∧ [Nat.digitChar (n % 10)] < [Nat.digitChar (m % 10)] := by
          rw [digits, digits, append_lt_append_iff (by simp)]
      _ ↔ n / 10 < m / 10 ∨ n / 10 = m / 10 ∧ n % 10 < m % 10 := by
          rw [hlt, heq, List.cons_lt_cons_iff, hlast]
          simp
      _ ↔ n < m := by omega

theorem digits_inj {width n m : ℕ} (hn : n < 10 ^ width) (hm : m < 10 ^ width) :
    digits width n = digits width m ↔ n = m := by
  constructor
  · intro h
    have hlt : ¬ n < m := by
      rw [← digits_lt_digits_iff hn hm, h]
      exact lt_irrefl _
    have hgt : ¬ m < n := by
      rw [← digits_lt_digits_iff hm hn, h]
      exact lt_irrefl _
    omega
  · exact congrArg (digits width)

/-! ## Dates -/

/-- The year, the month and the day of a `date`. -/
structure IsoDate where
  year : ℕ
  month : ℕ
  day : ℕ
  year_le : year ≤ 9999
  month_le : month ≤ 12
  day_le : day ≤ 31
  deriving DecidableEq, Repr

namespace IsoDate

/-- The number that the digits of the date make, read in their order. -/
def ordinal (date : IsoDate) : ℕ := (date.year * 100 + date.month) * 100 + date.day

theorem ordinal_injective : Function.Injective ordinal := by
  intro date other h
  unfold ordinal at h
  have := date.month_le
  have := date.day_le
  have := other.month_le
  have := other.day_le
  obtain ⟨year, month, day, _, _, _⟩ := date
  obtain ⟨year', month', day', _, _, _⟩ := other
  obtain ⟨rfl, rfl, rfl⟩ : year = year' ∧ month = month' ∧ day = day' := by
    refine ⟨?_, ?_, ?_⟩ <;> dsimp only at * <;> omega
  rfl

instance : LinearOrder IsoDate := LinearOrder.lift' ordinal ordinal_injective

theorem lt_iff {date other : IsoDate} : date < other ↔ date.ordinal < other.ordinal := Iff.rfl

def isoChars (date : IsoDate) : List Char :=
  digits 4 date.year ++ ('-' :: digits 2 date.month ++ '-' :: digits 2 date.day)

def isoformat (date : IsoDate) : String := String.ofList date.isoChars

variable {date other : IsoDate}

@[simp]
theorem toList_isoformat : date.isoformat.toList = date.isoChars := String.toList_ofList

/-- Texts of dates are ordered as the dates. -/
theorem isoformat_lt_isoformat_iff : date.isoformat < other.isoformat ↔ date < other := by
  have := date.year_le
  have := date.month_le
  have := date.day_le
  have := other.year_le
  have := other.month_le
  have := other.day_le
  have hmonth : digits 2 date.month = digits 2 other.month ↔ date.month = other.month := digits_inj (by omega) (by omega)
  have hyear : digits 4 date.year = digits 4 other.year ↔ date.year = other.year := digits_inj (by omega) (by omega)
  have hlength : (digits 2 date.month).length = (digits 2 other.month).length := by simp
  rw [String.lt_iff_toList_lt, toList_isoformat, toList_isoformat, lt_iff]
  unfold isoChars ordinal
  rw [append_lt_append_iff (by simp), digits_lt_digits_iff (by omega) (by omega), hyear, List.cons_append,
    List.cons_append, List.cons_lt_cons_iff, append_lt_append_iff hlength, digits_lt_digits_iff (by omega) (by omega),
    hmonth, List.cons_lt_cons_iff, digits_lt_digits_iff (by omega) (by omega)]
  simp only [lt_irrefl, true_and, false_or]
  omega

theorem isoformat_strictMono : StrictMono isoformat := fun _ _ ↦ isoformat_lt_isoformat_iff.mpr

end IsoDate

end TenderPhase1.IsoDates
