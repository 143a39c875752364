import Mathlib.Data.List.Basic

/-!
# The first occurrence of each key

A scan that keeps an item unless its key has been seen: it may be taken in parts, and it keeps exactly
the items whose keys are new and occur nowhere before them.
-/

namespace TenderPhase1.FirstOccurrences

variable {α κ : Type*} [DecidableEq κ] (key : α → κ)

/-- The items of a list with the first occurrence of a key, those in `seen` aside. -/
def firsts : List κ → List α → List α
  | _, [] => []
  | seen, x :: xs => if key x ∈ seen then firsts seen xs else x :: firsts (key x :: seen) xs

@[simp]
theorem firsts_nil (seen : List κ) : firsts key seen [] = [] := rfl

theorem firsts_cons (seen : List κ) (x : α) (xs : List α) :
    firsts key seen (x :: xs) = if key x ∈ seen then firsts key seen xs else x :: firsts key (key x :: seen) xs := rfl

/-- The keys that a scan has seen, the last one first. -/
def seenAfter (seen : List κ) (xs : List α) : List κ := ((firsts key seen xs).map key).reverse ++ seen

theorem firsts_append (seen : List κ) (xs ys : List α) :
    firsts key seen (xs ++ ys) = firsts key seen xs ++ firsts key (seenAfter key seen xs) ys := by
  induction xs generalizing seen with
  | nil => rfl
  | cons x xs ih =>
    rw [List.cons_append, firsts_cons]
    unfold seenAfter
    rw [firsts_cons]
    split
    · exact ih seen
    · rw [ih (key x :: seen), List.cons_append, List.map_cons, List.reverse_cons, List.append_assoc]
      rfl

theorem seenAfter_append (seen : List κ) (xs ys : List α) :
    seenAfter key seen (xs ++ ys) = seenAfter key (seenAfter key seen xs) ys := by
  rw [seenAfter, firsts_append, List.map_append, List.reverse_append, List.append_assoc]
  rfl

end TenderPhase1.FirstOccurrences
