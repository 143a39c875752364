import Mathlib.Algebra.Order.Floor.Ring
import Mathlib.Tactic.Linarith
import Mathlib.Tactic.Positivity
import Mathlib.Tactic.FieldSimp
import Mathlib.Tactic.Ring

/-!
# Rounding to the nearest integer, ties away from zero

The mode that is called half-up where the sign is kept apart. Rounding twice, first to
a fine unit and then to a coarse one, differs from rounding once only next to the
midpoints of the coarse unit.
-/

namespace TenderPhase1.HalfAway

variable {α : Type*} [Field α] [LinearOrder α] [IsStrictOrderedRing α] [FloorRing α]

/-- The nearest integer; of two that are equally near, the one farther from zero -/
def halfAway (x : α) : ℤ := if x < 0 then -⌊-x + 1 / 2⌋ else ⌊x + 1 / 2⌋

omit [IsStrictOrderedRing α] in
theorem halfAway_of_nonneg {x : α} (h : 0 ≤ x) : halfAway x = ⌊x + 1 / 2⌋ := if_neg (not_lt.mpr h)

theorem halfAway_neg (x : α) : halfAway (-x) = -halfAway x := by
  have hhalf : ⌊(1 / 2 : α)⌋ = 0 := Int.floor_eq_zero_iff.mpr ⟨by positivity, by linarith⟩
  unfold halfAway
  rcases lt_trichotomy x 0 with hx | rfl | hx
  · rw [if_neg (by linarith), if_pos hx, neg_neg]
  · simp only [neg_zero, lt_irrefl, if_false, zero_add, hhalf]
  · rw [if_pos (by linarith), if_neg (by linarith), neg_neg]

theorem halfAway_nonneg {x : α} (h : 0 ≤ x) : 0 ≤ halfAway x := by
  rw [halfAway_of_nonneg h]
  exact Int.floor_nonneg.mpr (by linarith)

theorem le_halfAway_iff {x : α} {k : ℤ} (hk : 0 < k) : k ≤ halfAway x ↔ (k : α) - 1 / 2 ≤ x := by
  have hcast : (1 : α) ≤ k := by exact_mod_cast hk
  rcases lt_or_ge x 0 with hx | hx
  · have hopposite : 0 ≤ halfAway (-x) := halfAway_nonneg (by linarith)
    rw [halfAway_neg] at hopposite
    constructor
    · intro h
      omega
    · intro h
      linarith
  · rw [halfAway_of_nonneg hx, Int.le_floor]
    constructor <;> intro h <;> linarith

theorem halfAway_le_neg_iff {x : α} {k : ℤ} (hk : 0 < k) : halfAway x ≤ -k ↔ x ≤ -((k : α) - 1 / 2) := by
  calc halfAway x ≤ -k ↔ k ≤ halfAway (-x) := by rw [halfAway_neg]; omega
    _ ↔ (k : α) - 1 / 2 ≤ -x := le_halfAway_iff hk
    _ ↔ x ≤ -((k : α) - 1 / 2) := le_neg

/-- An integer is determined by the positive numbers below it and the negative ones above it. -/
theorem int_eq_iff {m n : ℤ} :
    m = n ↔ ∀ k : ℕ, ((k + 1 : ℤ) ≤ m ↔ (k + 1 : ℤ) ≤ n) ∧ (m ≤ -(k + 1 : ℤ) ↔ n ≤ -(k + 1 : ℤ)) := by
  constructor
  · rintro rfl k
    exact ⟨Iff.rfl, Iff.rfl⟩
  · intro h
    have hm := h (m.natAbs - 1)
    have hn := h (n.natAbs - 1)
    omega

/-- A number that was rounded already, rounded to a unit `2 * m` times as large -/
theorem le_halfAway_halfAway_iff {x : α} {m : ℕ} (hm : 0 < m) {k : ℤ} (hk : 0 < k) :
    k ≤ halfAway ((halfAway x : α) / (2 * m)) ↔ 2 * m * ((k : α) - 1 / 2) - 1 / 2 ≤ x := by
  have hpos : (0 : α) < 2 * m := by positivity
  have hmiddle : (0 : ℤ) < 2 * m * k - m := by nlinarith
  calc k ≤ halfAway ((halfAway x : α) / (2 * m)) ↔ (k : α) - 1 / 2 ≤ (halfAway x : α) / (2 * m) := le_halfAway_iff hk
    _ ↔ ((2 * m * k - m : ℤ) : α) ≤ (halfAway x : α) := by
      rw [le_div_iff₀ hpos]
      push_cast
      constructor <;> intro h <;> linarith
    _ ↔ 2 * m * k - m ≤ halfAway x := Int.cast_le
    _ ↔ ((2 * m * k - m : ℤ) : α) - 1 / 2 ≤ x := le_halfAway_iff hmiddle
    _ ↔ 2 * m * ((k : α) - 1 / 2) - 1 / 2 ≤ x := by
      push_cast
      constructor <;> intro h <;> linarith

/-- Rounding to the fine unit first moves every midpoint towards zero by half of that unit. -/
theorem halfAway_halfAway_eq_iff {x y : α} {m : ℕ} (hm : 0 < m) :
    halfAway ((halfAway x : α) / (2 * m)) = halfAway y ↔
      ∀ k : ℕ, (2 * m * ((k : α) + 1 / 2) - 1 / 2 ≤ x ↔ (k : α) + 1 / 2 ≤ y) ∧
        (x ≤ -(2 * m * ((k : α) + 1 / 2) - 1 / 2) ↔ y ≤ -((k : α) + 1 / 2)) := by
  rw [int_eq_iff]
  apply forall_congr'
  intro k
  have hk : (0 : ℤ) < k + 1 := by omega
  have hcast : ((k + 1 : ℤ) : α) - 1 / 2 = (k : α) + 1 / 2 := by
    push_cast
    ring
  have hopposite : halfAway ((halfAway x : α) / (2 * m)) ≤ -(k + 1 : ℤ) ↔
      x ≤ -(2 * m * ((k : α) + 1 / 2) - 1 / 2) := by
    have hflip : -halfAway ((halfAway x : α) / (2 * m)) = halfAway ((halfAway (-x) : α) / (2 * m)) := by
      rw [← halfAway_neg, halfAway_neg x, Int.cast_neg, neg_div]
    calc halfAway ((halfAway x : α) / (2 * m)) ≤ -(k + 1 : ℤ) ↔
          (k + 1 : ℤ) ≤ halfAway ((halfAway (-x) : α) / (2 * m)) := by rw [← hflip]; omega
      _ ↔ 2 * m * ((k : α) + 1 / 2) - 1 / 2 ≤ -x := by rw [le_halfAway_halfAway_iff hm hk, hcast]
      _ ↔ x ≤ -(2 * m * ((k : α) + 1 / 2) - 1 / 2) := le_neg
  rw [le_halfAway_halfAway_iff hm hk, hopposite, le_halfAway_iff hk, halfAway_le_neg_iff hk, hcast]

end TenderPhase1.HalfAway
