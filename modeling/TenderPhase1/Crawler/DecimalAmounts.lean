import TenderPhase1.Crawler.Deduplication
import TenderPhase1.Foundation.HalfAway
import TenderPhase1.Foundation.PyInt
import TenderPhase1.Jobs.Lifecycle
import Mathlib.Algebra.Order.Field.Power
import Mathlib.Data.Rat.Floor
import Mathlib.Tactic.NormNum
import Mathlib.Algebra.Ring.Nat

/-!
# The value of an amount

A `Decimal` as a rational number. The operations that the bucket of a budget is computed
with are exact up to twenty-eight digits; the bucket itself is the nearest multiple of
1000, ties away from zero.
-/

namespace TenderPhase1.Crawler

open PyText HalfAway

def Decimal.magnitude (amount : Decimal) : ℚ := amount.coefficient * (10 : ℚ) ^ amount.exponent

def Decimal.value (amount : Decimal) : ℚ := if amount.negative then -amount.magnitude else amount.magnitude

theorem digitCount_le_iff {n k : ℕ} (hk : 0 < k) : digitCount n ≤ k ↔ n < 10 ^ k :=
  Nat.length_toDigits_le_iff (by decide) hk

variable (amount : Decimal)

theorem Decimal.magnitude_nonneg : 0 ≤ amount.magnitude := by
  unfold Decimal.magnitude
  positivity

/-! ## Twenty-eight digits -/

@[simp]
theorem Decimal.rounded_negative : amount.rounded.negative = amount.negative := by
  unfold Decimal.rounded
  dsimp only
  split <;> rfl

variable {amount}

theorem Decimal.rounded_of_lt (h : amount.coefficient < 10 ^ decimalPrecision) : amount.rounded = amount :=
  if_pos (Nat.sub_eq_zero_of_le ((digitCount_le_iff (by decide)).mpr h))

/-- What rounding does to a coefficient with too many digits -/
theorem Decimal.exists_rounded (h : 10 ^ decimalPrecision ≤ amount.coefficient) :
    ∃ excess quotient : ℕ, amount.rounded = ⟨amount.negative, quotient, amount.exponent + excess⟩ ∧ 0 < excess ∧
      10 ^ (decimalPrecision - 1 + excess) ≤ amount.coefficient ∧ 10 ^ (decimalPrecision - 1) ≤ quotient ∧
      quotient ≤ 10 ^ decimalPrecision ∧ 2 * quotient * 10 ^ excess ≤ 2 * amount.coefficient + 10 ^ excess := by
  have hmany : decimalPrecision < digitCount amount.coefficient := by
    by_contra hfew
    have := (digitCount_le_iff (by decide : 0 < decimalPrecision)).mp (not_lt.mp hfew)
    omega
  obtain ⟨excess, hexcess⟩ := Nat.exists_eq_add_of_lt hmany
  have hlow : 10 ^ (decimalPrecision - 1 + (excess + 1)) ≤ amount.coefficient := by
    by_contra hfew
    have hcount := (digitCount_le_iff (by omega)).mpr (not_le.mp hfew)
    have hprecision : 0 < decimalPrecision := by decide
    omega
  have hhigh : amount.coefficient < 10 ^ (decimalPrecision + excess + 1) :=
    (digitCount_le_iff (by omega)).mp hexcess.le
  have hsub : digitCount amount.coefficient - decimalPrecision = excess + 1 := by omega
  have hunit : 0 < 10 ^ (excess + 1) := by positivity
  have hquotient : 10 ^ (decimalPrecision - 1) ≤ amount.coefficient / 10 ^ (excess + 1) := by
    rw [Nat.le_div_iff_mul_le hunit, ← pow_add]
    exact hlow
  have hbound : amount.coefficient / 10 ^ (excess + 1) < 10 ^ decimalPrecision := by
    rw [Nat.div_lt_iff_lt_mul hunit, ← pow_add]
    exact hhigh
  have hdivision := Nat.div_add_mod amount.coefficient (10 ^ (excess + 1))
  unfold Decimal.rounded
  dsimp only
  rw [hsub, if_neg (by omega)]
  refine ⟨excess + 1, _, rfl, by omega, hlow, ?_, ?_, ?_⟩
  · split <;> omega
  · split <;> omega
  · generalize hu : 10 ^ (excess + 1) = unit at *
    generalize hq : amount.coefficient / unit = quotient at *
    generalize hr : amount.coefficient % unit = rest at *
    split
    · rename_i hup
      have hhalf : unit ≤ 2 * rest := by
        simp only [Bool.or_eq_true, Bool.and_eq_true, decide_eq_true_eq] at hup
        omega
      nlinarith
    · nlinarith

/-- The carry out of twenty-eight digits is exact. -/
theorem Decimal.magnitude_rounded_of_le (h : amount.coefficient ≤ 10 ^ decimalPrecision) :
    amount.rounded.magnitude = amount.magnitude := by
  rcases h.lt_or_eq with hlt | heq
  · rw [Decimal.rounded_of_lt hlt]
  · have hcount : digitCount (10 ^ decimalPrecision) - decimalPrecision = 1 := by decide +kernel
    have hrounded : amount.rounded = ⟨amount.negative, 10 ^ (decimalPrecision - 1), amount.exponent + 1⟩ := by
      unfold Decimal.rounded
      rw [heq, hcount]
      rfl
    rw [hrounded, Decimal.magnitude, Decimal.magnitude, heq, zpow_add_one₀ (by norm_num)]
    push_cast [decimalPrecision]
    ring

theorem Decimal.rounded_coefficient_le : amount.rounded.coefficient ≤ 10 ^ decimalPrecision := by
  rcases lt_or_ge amount.coefficient (10 ^ decimalPrecision) with hlt | hge
  · rw [Decimal.rounded_of_lt hlt]
    exact hlt.le
  · obtain ⟨excess, quotient, hrounded, -, -, -, hle, -⟩ := Decimal.exists_rounded hge
    rw [hrounded]
    exact hle

/-- Rounding does not carry an amount of sixteen digits before the point over half a cent. -/
theorem Decimal.magnitude_rounded_lt (h : amount.magnitude < 10 ^ 16) :
    amount.rounded.magnitude < amount.magnitude + 1 / 200 := by
  rcases lt_or_ge amount.coefficient (10 ^ decimalPrecision) with hlt | hge
  · rw [Decimal.rounded_of_lt hlt]
    linarith
  · obtain ⟨excess, quotient, hrounded, -, hmany, -, -, herror⟩ := Decimal.exists_rounded hge
    have hscale : (0 : ℚ) < 10 ^ amount.exponent := by positivity
    set unit : ℚ := 10 ^ excess * 10 ^ amount.exponent with hunit
    have hlow : (10 : ℚ) ^ (decimalPrecision - 1) * unit ≤ amount.magnitude := by
      have hcast : (10 : ℚ) ^ (decimalPrecision - 1 + excess) ≤ amount.coefficient := by exact_mod_cast hmany
      calc (10 : ℚ) ^ (decimalPrecision - 1) * unit =
            10 ^ (decimalPrecision - 1 + excess) * 10 ^ amount.exponent := by rw [hunit, pow_add]; ring
        _ ≤ amount.coefficient * 10 ^ amount.exponent := mul_le_mul_of_nonneg_right hcast hscale.le
    have hvalue : amount.rounded.magnitude = quotient * unit := by
      rw [hrounded, Decimal.magnitude, zpow_add₀ (by norm_num), zpow_natCast, hunit]
      ring
    have herrorCast : (2 : ℚ) * quotient * 10 ^ excess ≤ 2 * amount.coefficient + 10 ^ excess := by
      exact_mod_cast herror
    have hround : 2 * (quotient * unit) ≤ 2 * amount.magnitude + unit := by
      calc 2 * (quotient * unit) = 2 * quotient * 10 ^ excess * 10 ^ amount.exponent := by rw [hunit]; ring
        _ ≤ (2 * amount.coefficient + 10 ^ excess) * 10 ^ amount.exponent :=
          mul_le_mul_of_nonneg_right herrorCast hscale.le
        _ = 2 * amount.magnitude + unit := by rw [hunit, Decimal.magnitude]; ring
    have hsmall : (10 : ℚ) ^ (decimalPrecision - 1) = 10 ^ 27 := rfl
    rw [hsmall] at hlow
    rw [hvalue]
    norm_num at hlow h ⊢
    linarith

/-! ## The nearest integer -/

theorem halfAway_natCast (n : ℕ) : halfAway (n : ℚ) = n := by
  have hcast : ((n : ℤ) : ℚ) = n := Int.cast_natCast n
  rw [halfAway_of_nonneg n.cast_nonneg, Int.floor_eq_iff, hcast]
  constructor <;> linarith

/-- Rounding to whole units is `halfAway`, and it fails for too many digits only. -/
theorem Decimal.quantizeHalfUp_eq :
    amount.quantizeHalfUp =
      if decimalPrecision < digitCount (halfAway amount.magnitude).toNat then .error .invalidOperation
      else .ok (halfAway amount.magnitude).toNat := by
  have hquantized : (if 0 ≤ amount.exponent then amount.coefficient * 10 ^ amount.exponent.toNat
      else
        if 10 ^ (-amount.exponent).toNat ≤ 2 * (amount.coefficient % 10 ^ (-amount.exponent).toNat) then
          amount.coefficient / 10 ^ (-amount.exponent).toNat + 1
        else amount.coefficient / 10 ^ (-amount.exponent).toNat) = (halfAway amount.magnitude).toNat := by
    split
    · rename_i hexponent
      obtain ⟨exponent, hcast⟩ := Int.eq_ofNat_of_zero_le hexponent
      have hvalue : amount.magnitude = (amount.coefficient * 10 ^ exponent : ℕ) := by
        rw [Decimal.magnitude, hcast, zpow_natCast]
        push_cast
        rfl
      rw [hvalue, halfAway_natCast, hcast]
      rfl
    · rename_i hexponent
      obtain ⟨digits, hcast⟩ := Int.eq_ofNat_of_zero_le (by omega : 0 ≤ -amount.exponent)
      have hunit : (0 : ℚ) < 10 ^ digits := by positivity
      have hvalue : amount.magnitude = amount.coefficient / 10 ^ digits := by
        rw [Decimal.magnitude, show amount.exponent = -(digits : ℤ) by omega, zpow_neg, zpow_natCast, div_eq_mul_inv]
      have hdivision : (10 : ℚ) ^ digits * (amount.coefficient / 10 ^ digits : ℕ) +
          (amount.coefficient % 10 ^ digits : ℕ) = amount.coefficient := by
        exact_mod_cast Nat.div_add_mod amount.coefficient (10 ^ digits)
      have hrest : ((amount.coefficient % 10 ^ digits : ℕ) : ℚ) < 10 ^ digits := by
        exact_mod_cast Nat.mod_lt amount.coefficient (by positivity)
      have hpositive : (0 : ℚ) ≤ (amount.coefficient % 10 ^ digits : ℕ) := Nat.cast_nonneg _
      rw [hcast, Int.toNat_natCast, halfAway_of_nonneg amount.magnitude_nonneg, hvalue]
      generalize amount.coefficient / 10 ^ digits = quotient at *
      generalize amount.coefficient % 10 ^ digits = rest at *
      split
      · rename_i hup
        have hupCast : (10 : ℚ) ^ digits ≤ 2 * rest := by exact_mod_cast hup
        have hfloor : ⌊(amount.coefficient : ℚ) / 10 ^ digits + 1 / 2⌋ = (quotient + 1 : ℕ) := by
          rw [Int.floor_eq_iff, ← hdivision, add_div, mul_div_cancel_left₀ _ hunit.ne']
          have hlow : (1 : ℚ) / 2 ≤ rest / 10 ^ digits := by
            rw [le_div_iff₀ hunit]
            linarith
          have hhigh : (rest : ℚ) / 10 ^ digits < 1 := (div_lt_one hunit).mpr hrest
          push_cast
          constructor <;> linarith
        rw [hfloor, Int.toNat_natCast]
      · rename_i hdown
        have hdownCast : 2 * (rest : ℚ) < 10 ^ digits := by exact_mod_cast not_le.mp hdown
        have hfloor : ⌊(amount.coefficient : ℚ) / 10 ^ digits + 1 / 2⌋ = (quotient : ℕ) := by
          rw [Int.floor_eq_iff, ← hdivision, add_div, mul_div_cancel_left₀ _ hunit.ne']
          have hlow : (0 : ℚ) ≤ rest / 10 ^ digits := div_nonneg hpositive hunit.le
          have hhigh : (rest : ℚ) / 10 ^ digits < 1 / 2 := by
            rw [div_lt_iff₀ hunit]
            linarith
          push_cast
          constructor <;> linarith
        rw [hfloor, Int.toNat_natCast]
  unfold Decimal.quantizeHalfUp
  dsimp only
  rw [hquantized]

/-! ## The bucket -/

/-- The last steps of `normalize_budget_bucket`, for the amount that the text gives -/
def Decimal.bucketText (amount : Decimal) : Except PyError String := do
  let steps ← { amount.rounded with exponent := amount.rounded.exponent - 3 }.rounded.quantizeHalfUp
  let bucket ← (Decimal.rounded ⟨amount.rounded.negative, steps * 1000, 0⟩).quantizeHalfUp
  return (if amount.rounded.negative ∧ bucket ≠ 0 then "-" else "") ++ toString bucket

def budgetUnit (normalized : String) : ℕ := if contains normalized "万" then 10000 else 1

/-- The number that `re.search` finds in a text without its commas -/
def firstNumber (normalized : String) : Option Decimal :=
  (replaceChar normalized ',' "").toList.tails.findSome? matchNumber

def Decimal.times (amount : Decimal) (multiplier : ℕ) : Decimal :=
  { amount with coefficient := amount.coefficient * multiplier }

/-- The bucket is that of the first number of the text times the unit of the text. -/
theorem normalizeBudgetBucket_eq (python : Python) (value : Value) :
    normalizeBudgetBucket python value =
      match normalizeText python value false with
      | none => .ok none
      | some normalized =>
          match firstNumber normalized with
          | none => .ok none
          | some number => (number.times (budgetUnit normalized)).bucketText.map some := by
  unfold normalizeBudgetBucket firstNumber
  cases normalizeText python value false with
  | none => rfl
  | some normalized =>
    dsimp only
    cases (replaceChar normalized ',' "").toList.tails.findSome? matchNumber with
    | none => rfl
    | some number =>
      unfold Decimal.bucketText
      simp only [bind, Except.bind, Decimal.times, budgetUnit]
      split
      · rfl
      · split <;> rfl

/-- The number of steps, without its sign -/
def Decimal.bucketSteps (amount : Decimal) : ℕ := (halfAway (amount.rounded.magnitude / 1000)).toNat

theorem Decimal.magnitude_thousandth (coefficient : ℕ) (negative other : Bool) (exponent : ℤ) :
    Decimal.magnitude ⟨negative, coefficient, exponent - 3⟩ = Decimal.magnitude ⟨other, coefficient, exponent⟩ / 1000 := by
  unfold Decimal.magnitude
  dsimp only
  rw [zpow_sub₀ (by norm_num)]
  norm_num
  ring

/-- A signed multiple of 1000 as a text -/
theorem textOfInt_bucket (amount : Decimal) :
    textOfInt (1000 * halfAway (amount.rounded.value / 1000)) =
      (if amount.rounded.negative ∧ amount.bucketSteps * 1000 ≠ 0 then "-" else "") ++
        toString (amount.bucketSteps * 1000) := by
  have hsteps : halfAway (amount.rounded.magnitude / 1000) = amount.bucketSteps :=
    (Int.toNat_of_nonneg (halfAway_nonneg (div_nonneg (Decimal.magnitude_nonneg _) (by norm_num)))).symm
  unfold Decimal.value
  by_cases hnegative : amount.rounded.negative
  · rw [if_pos hnegative, neg_div, halfAway_neg, hsteps]
    by_cases hzero : amount.bucketSteps = 0
    · rw [hzero, if_neg fun h ↦ h.2 rfl]
      rfl
    · obtain ⟨below, hbelow⟩ := Nat.exists_eq_succ_of_ne_zero (by omega : amount.bucketSteps * 1000 ≠ 0)
      rw [if_pos ⟨hnegative, by omega⟩, show 1000 * -(amount.bucketSteps : ℤ) = Int.negSucc below by omega, hbelow]
      rfl
  · rw [if_neg hnegative, hsteps, if_neg fun h ↦ hnegative h.1, String.empty_append,
      show 1000 * (amount.bucketSteps : ℤ) = Int.ofNat (amount.bucketSteps * 1000) by
        rw [Int.ofNat_eq_natCast]; push_cast; ring]
    rfl

/-- The bucket is the nearest multiple of 1000 while it has no more than twenty-eight digits. -/
theorem Decimal.bucketText_eq_ok {text : String} :
    amount.bucketText = .ok text ↔
      amount.bucketSteps * 1000 < 10 ^ decimalPrecision ∧
        text = textOfInt (1000 * halfAway (amount.rounded.value / 1000)) := by
  have hthousandth :
      ({ amount.rounded with exponent := amount.rounded.exponent - 3 } : Decimal).rounded.magnitude =
        amount.rounded.magnitude / 1000 := by
    calc _ = Decimal.magnitude { amount.rounded with exponent := amount.rounded.exponent - 3 } :=
          Decimal.magnitude_rounded_of_le Decimal.rounded_coefficient_le
      _ = amount.rounded.magnitude / 1000 := Decimal.magnitude_thousandth _ _ _ _
  have hprecision : 0 < decimalPrecision := by decide
  rw [textOfInt_bucket]
  unfold Decimal.bucketText
  rw [Decimal.quantizeHalfUp_eq, hthousandth, ← Decimal.bucketSteps]
  generalize amount.bucketSteps = steps
  have hwhole (negative : Bool) (n : ℕ) : Decimal.magnitude ⟨negative, n, 0⟩ = n := by
    unfold Decimal.magnitude
    rw [zpow_zero, mul_one]
  by_cases hfits : steps * 1000 < 10 ^ decimalPrecision
  · have hcount : ¬decimalPrecision < digitCount steps := by
      rw [not_lt, digitCount_le_iff hprecision]
      omega
    have hbucket : (Decimal.rounded ⟨amount.rounded.negative, steps * 1000, 0⟩).quantizeHalfUp = .ok (steps * 1000) := by
      rw [Decimal.rounded_of_lt hfits, Decimal.quantizeHalfUp_eq, hwhole, halfAway_natCast, Int.toNat_natCast,
        if_neg (not_lt.mpr ((digitCount_le_iff hprecision).mpr hfits))]
    rw [if_neg hcount, Jobs.ok_bind, hbucket, Jobs.ok_bind]
    constructor
    · intro h
      exact ⟨hfits, (Except.ok.inj h).symm⟩
    · rintro ⟨-, rfl⟩
      rfl
  · have hraise : (Decimal.rounded ⟨amount.rounded.negative, steps * 1000, 0⟩).quantizeHalfUp =
        .error .invalidOperation := by
      have hmany : 10 ^ decimalPrecision ≤ (⟨amount.rounded.negative, steps * 1000, 0⟩ : Decimal).coefficient :=
        not_lt.mp hfits
      obtain ⟨excess, quotient, hrounded, hexcess, -, hlow, -, -⟩ := Decimal.exists_rounded hmany
      have hvalue : Decimal.magnitude ⟨amount.rounded.negative, quotient, 0 + excess⟩ =
          (quotient * 10 ^ excess : ℕ) := by
        rw [Decimal.magnitude, zero_add, zpow_natCast]
        push_cast
        rfl
      have hmany : ¬digitCount (quotient * 10 ^ excess) ≤ decimalPrecision := by
        rw [digitCount_le_iff hprecision, not_lt]
        calc 10 ^ decimalPrecision = 10 ^ (decimalPrecision - 1) * 10 ^ 1 := rfl
          _ ≤ quotient * 10 ^ excess := Nat.mul_le_mul hlow (Nat.pow_le_pow_right (by decide) hexcess)
      rw [hrounded, Decimal.quantizeHalfUp_eq, hvalue, halfAway_natCast, Int.toNat_natCast, if_pos (not_le.mp hmany)]
    constructor
    · intro h
      obtain ⟨other, hother, hrest⟩ := Jobs.bind_eq_ok.mp h
      split at hother
      · cases hother
      · rw [← Except.ok.inj hother, hraise] at hrest
        cases hrest
    · exact fun h ↦ absurd h.1 hfits

end TenderPhase1.Crawler
