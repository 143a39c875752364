import Mathlib.Order.OrderDual
import Mathlib.Data.List.MinMax

/-!
# The greatest and the least of a list

The greatest element of a list depends only on which elements it has, and not even on all of
them: it is enough that each list has something as great as what the other has.
-/

namespace TenderPhase1.ListExtremes

variable {α β : Type*} [LinearOrder α] [LinearOrder β] {xs ys : List α}

/-- The second where it is greater than the first. -/
def greater : Option α → Option α → Option α
  | some x, some y => if x < y then some y else some x
  | some x, none => some x
  | none, y => y

def less : Option α → Option α → Option α
  | some x, some y => if y < x then some y else some x
  | some x, none => some x
  | none, y => y

/-- Lists that dominate each other have one greatest element. -/
theorem max?_eq_of_dominated (hxs : ∀ x ∈ xs, ∃ y ∈ ys, x ≤ y) (hys : ∀ y ∈ ys, ∃ x ∈ xs, y ≤ x) :
    xs.max? = ys.max? := by
  cases hx : xs.max? with
  | none =>
    have hnil : xs = [] := List.max?_eq_none_iff.mp hx
    have hys' : ys = [] := by
      rw [List.eq_nil_iff_forall_not_mem]
      intro y hy
      obtain ⟨x, hmem, -⟩ := hys y hy
      rw [hnil] at hmem
      exact List.not_mem_nil hmem
    rw [hys', List.max?_nil]
  | some x =>
    obtain ⟨hmem, hmax⟩ := List.max?_eq_some_iff.mp hx
    obtain ⟨y, hy, hle⟩ := hxs x hmem
    have hbound (other : α) (hother : other ∈ ys) : other ≤ x := by
      obtain ⟨above, habove, hother'⟩ := hys other hother
      exact hother'.trans (hmax above habove)
    obtain rfl : x = y := le_antisymm hle (hbound y hy)
    exact (List.max?_eq_some_iff.mpr ⟨hy, hbound⟩).symm

theorem min?_eq_of_dominated (hxs : ∀ x ∈ xs, ∃ y ∈ ys, y ≤ x) (hys : ∀ y ∈ ys, ∃ x ∈ xs, x ≤ y) :
    xs.min? = ys.min? :=
  max?_eq_of_dominated (α := αᵒᵈ) hxs hys

theorem max?_congr (h : ∀ x, x ∈ xs ↔ x ∈ ys) : xs.max? = ys.max? :=
  max?_eq_of_dominated (fun x hx ↦ ⟨x, (h x).mp hx, le_rfl⟩) fun y hy ↦ ⟨y, (h y).mpr hy, le_rfl⟩

theorem min?_congr (h : ∀ x, x ∈ xs ↔ x ∈ ys) : xs.min? = ys.min? :=
  max?_congr (α := αᵒᵈ) h

/-- The greatest element of two lists is the greater of theirs. -/
theorem max?_append (xs ys : List α) : (xs ++ ys).max? = greater xs.max? ys.max? := by
  cases hx : xs.max? with
  | none => simp [List.max?_eq_none_iff.mp hx, greater]
  | some x =>
    obtain ⟨hxmem, hxmax⟩ := List.max?_eq_some_iff.mp hx
    cases hy : ys.max? with
    | none => simp [List.max?_eq_none_iff.mp hy, hx, greater]
    | some y =>
      obtain ⟨hymem, hymax⟩ := List.max?_eq_some_iff.mp hy
      change (xs ++ ys).max? = if x < y then some y else some x
      split_ifs with hlt
      · refine List.max?_eq_some_iff.mpr ⟨List.mem_append_right _ hymem, ?_⟩
        intro other hother
        rcases List.mem_append.mp hother with hother | hother
        · exact (hxmax other hother).trans hlt.le
        · exact hymax other hother
      · refine List.max?_eq_some_iff.mpr ⟨List.mem_append_left _ hxmem, ?_⟩
        intro other hother
        rcases List.mem_append.mp hother with hother | hother
        · exact hxmax other hother
        · exact (hymax other hother).trans (not_lt.mp hlt)

theorem min?_append (xs ys : List α) : (xs ++ ys).min? = less xs.min? ys.min? :=
  max?_append (α := αᵒᵈ) xs ys

theorem max?_map {f : α → β} (hf : Monotone f) (xs : List α) : (xs.map f).max? = xs.max?.map f := by
  cases hx : xs.max? with
  | none => rw [List.max?_eq_none_iff.mp hx, List.map_nil, List.max?_nil, Option.map_none]
  | some x =>
    obtain ⟨hmem, hmax⟩ := List.max?_eq_some_iff.mp hx
    refine List.max?_eq_some_iff.mpr ⟨List.mem_map_of_mem hmem, ?_⟩
    intro y hy
    obtain ⟨other, hother, rfl⟩ := List.mem_map.mp hy
    exact hf (hmax other hother)

theorem min?_map {f : α → β} (hf : Monotone f) (xs : List α) : (xs.map f).min? = xs.min?.map f :=
  max?_map (α := αᵒᵈ) (β := βᵒᵈ) hf.dual xs

end TenderPhase1.ListExtremes
