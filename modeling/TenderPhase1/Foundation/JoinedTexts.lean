import Mathlib.Data.List.Basic
import Mathlib.Algebra.Ring.Nat

/-!
# Texts joined by a separator

Pieces can be read back from what they are joined to if the separator is in none of them.
It is enough to know that of one of two joined lists: the other one has as many
separators in all.
-/

namespace TenderPhase1.JoinedTexts

variable {α : Type*} [DecidableEq α] {sep : α} {xs ys : List (List α)}

/-- The separators between the pieces, and those inside. -/
theorem count_intercalate (sep : α) (hxs : xs ≠ []) :
    ([sep].intercalate xs).count sep + 1 = xs.length + (xs.map (List.count sep)).sum := by
  induction xs with
  | nil => exact absurd rfl hxs
  | cons x xs ih =>
    cases xs with
    | nil => simp [List.intercalate, Nat.add_comm]
    | cons y ys =>
      have hrest := ih (List.cons_ne_nil y ys)
      rw [List.intercalate_cons_cons, List.count_append, List.count_append, List.count_singleton_self,
        List.length_cons, List.map_cons, List.sum_cons]
      omega

/-- Where one of two lists of the same length has no separator inside, the other has none, either. -/
theorem notMem_of_intercalate_eq (hlength : xs.length = ys.length) (h : [sep].intercalate xs = [sep].intercalate ys)
    (hxs : ∀ x ∈ xs, sep ∉ x) : ∀ y ∈ ys, sep ∉ y := by
  by_cases hnil : xs = []
  · subst hnil
    rw [List.length_nil] at hlength
    rw [List.length_eq_zero_iff.mp hlength.symm]
    exact fun _ h ↦ absurd h List.not_mem_nil
  · have hysNil : ys ≠ [] := by
      rintro rfl
      exact hnil (List.length_eq_zero_iff.mp hlength)
    have hcounts : (xs.map (List.count sep)).sum = (ys.map (List.count sep)).sum := by
      have hx := count_intercalate sep hnil
      have hy := count_intercalate sep hysNil
      rw [h] at hx
      omega
    have hzero : (xs.map (List.count sep)).sum = 0 := by
      rw [List.sum_eq_zero_iff_forall_eq_nat]
      intro count hcount
      obtain ⟨x, hx, rfl⟩ := List.mem_map.mp hcount
      exact List.count_eq_zero.mpr (hxs x hx)
    rw [hzero] at hcounts
    intro y hy
    exact List.count_eq_zero.mp (List.sum_eq_zero_iff_forall_eq_nat.mp hcounts.symm _ (List.mem_map_of_mem hy))

/-- Joining is injective on lists of the same length one of which has no separator inside. -/
theorem eq_of_intercalate_eq (hlength : xs.length = ys.length) (h : [sep].intercalate xs = [sep].intercalate ys)
    (hxs : ∀ x ∈ xs, sep ∉ x) : xs = ys := by
  have hys := notMem_of_intercalate_eq hlength h hxs
  by_cases hnil : xs = []
  · subst hnil
    rw [List.length_nil] at hlength
    exact (List.length_eq_zero_iff.mp hlength.symm).symm
  · have hysNil : ys ≠ [] := by
      rintro rfl
      exact hnil (List.length_eq_zero_iff.mp hlength)
    calc xs = ([sep].intercalate xs).splitOn sep := (List.splitOn_intercalate sep hxs hnil).symm
      _ = ([sep].intercalate ys).splitOn sep := by rw [h]
      _ = ys := List.splitOn_intercalate sep hys hysNil

end TenderPhase1.JoinedTexts
