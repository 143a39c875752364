import Mathlib.Order.Bounds.Basic

/-!
# Least and greatest elements that may be missing

An optional element that is the least one of a set, and is missing if and only if the set is
empty, and what becomes of it when an element is added.
-/

namespace TenderPhase1.OptionalBounds

variable {α : Type*} [LinearOrder α] {set : Set α} {bound : Option α} {a : α}

def LeastOf (set : Set α) (bound : Option α) : Prop := bound.elim (set = ∅) (IsLeast set)

def GreatestOf (set : Set α) (bound : Option α) : Prop := bound.elim (set = ∅) (IsGreatest set)

/-- A new element is the least one where it is below the bound. -/
theorem leastOf_insert (h : LeastOf set bound) :
    LeastOf (insert a set) (if bound.all (a < ·) then some a else bound) := by
  cases bound with
  | none =>
    obtain rfl : set = ∅ := h
    rw [Option.all_none, if_pos rfl, insert_empty_eq]
    exact isLeast_singleton
  | some least =>
    obtain ⟨hmem, hlower⟩ : IsLeast set least := h
    rw [Option.all_some]
    split
    · rename_i hlt
      refine ⟨Set.mem_insert a set, ?_⟩
      rw [lowerBounds_insert]
      exact ⟨Set.mem_Iic.mpr le_rfl, fun other hother ↦ (of_decide_eq_true hlt).le.trans (hlower hother)⟩
    · rename_i hle
      rw [decide_eq_true_eq, not_lt] at hle
      refine ⟨Set.mem_insert_of_mem a hmem, ?_⟩
      rw [lowerBounds_insert]
      exact ⟨hle, hlower⟩

theorem greatestOf_insert (h : GreatestOf set bound) :
    GreatestOf (insert a set) (if bound.all (· < a) then some a else bound) :=
  leastOf_insert (α := αᵒᵈ) h

theorem leastOf_eq_none_iff (h : LeastOf set bound) : bound = none ↔ set = ∅ := by
  cases bound with
  | none => exact iff_of_true rfl h
  | some least => exact iff_of_false (Option.some_ne_none least) (Set.nonempty_iff_ne_empty.mp ⟨least, h.1⟩)

theorem greatestOf_eq_none_iff (h : GreatestOf set bound) : bound = none ↔ set = ∅ :=
  leastOf_eq_none_iff (α := αᵒᵈ) h

theorem LeastOf.le (h : LeastOf set bound) (ha : a ∈ set) : ∃ least, bound = some least ∧ least ≤ a := by
  cases bound with
  | none =>
    obtain rfl : set = ∅ := h
    exact absurd ha (Set.notMem_empty a)
  | some least => exact ⟨least, rfl, h.2 ha⟩

theorem GreatestOf.le (h : GreatestOf set bound) (ha : a ∈ set) : ∃ greatest, bound = some greatest ∧ a ≤ greatest :=
  LeastOf.le (α := αᵒᵈ) h ha

end TenderPhase1.OptionalBounds
