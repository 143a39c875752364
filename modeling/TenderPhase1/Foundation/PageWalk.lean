import TenderPhase1.Foundation.OrderedRows
import Mathlib.Data.List.Sort

/-!
# Reading a growing list page by page

A client reads a list by LIMIT and OFFSET, one page after the other, while rows are added anywhere in it. A row
never moves towards the front, so the client does not miss one that was there from the beginning.
-/

namespace TenderPhase1.OrderedRows

variable {Row : Type*}

/-- The pages up to number `count`, each of the rows as they are when it is read -/
def walk (limit : ℕ) (rows : ℕ → List Row) (count : ℕ) : List Row :=
  (List.range count).flatMap fun i ↦ page limit (i * limit) (rows i)

section Walk

variable {limit count : ℕ} {rows : ℕ → List Row} {row : Row}

theorem walk_succ : walk limit rows (count + 1) = walk limit rows count ++ page limit (count * limit) (rows count) := by
  rw [walk, List.range_succ, List.flatMap_append, List.flatMap_singleton, walk]

theorem sublist_of_le (hgrows : ∀ i, (rows i).Sublist (rows (i + 1))) {first last : ℕ} (hle : first ≤ last) :
    (rows first).Sublist (rows last) := by
  induction last, hle using Nat.le_induction with
  | base => exact List.Sublist.refl _
  | succ last _ ih => exact ih.trans (hgrows last)

/-- A row has been read, or it stands behind the pages that have been read. -/
theorem mem_walk_or_mem_drop (hgrows : ∀ i, (rows i).Sublist (rows (i + 1))) (hrow : row ∈ rows 0) (count : ℕ) :
    row ∈ walk limit rows count ∨ row ∈ (rows count).drop (count * limit) := by
  induction count with
  | zero => exact Or.inr (by rwa [Nat.zero_mul, List.drop_zero])
  | succ count ih =>
    rw [walk_succ, List.mem_append]
    rcases ih with hread | hbehind
    · exact Or.inl (Or.inl hread)
    · have hsplit := List.take_append_drop limit ((rows count).drop (count * limit))
      rw [← hsplit, List.mem_append, List.drop_drop, ← Nat.succ_mul] at hbehind
      rcases hbehind with hpage | hlater
      · exact Or.inl (Or.inr hpage)
      · exact Or.inr (((hgrows count).drop _).subset hlater)

/-- A client that stops at a page that is not full has read all the rows that were there when it began. -/
theorem mem_walk (hgrows : ∀ i, (rows i).Sublist (rows (i + 1))) (hrow : row ∈ rows 0)
    (hlast : (page limit (count * limit) (rows count)).length < limit) : row ∈ walk limit rows (count + 1) := by
  rw [walk_succ, List.mem_append]
  refine (mem_walk_or_mem_drop hgrows hrow count).imp_right fun hbehind ↦ ?_
  rw [page, List.length_take] at hlast
  rwa [page, List.take_of_length_le (by omega)]

end Walk

/-- Where the keys tell the rows apart, the sorted rows of a growing table grow, too. -/
theorem orderBy_sublist {keys : List (SortKey Row)} {rows more : List Row} (hsub : rows.Sublist more)
    (hkeys : ∀ a ∈ more, ∀ b ∈ more, compareBy keys a b = .eq → a = b) :
    (orderBy keys rows).Sublist (orderBy keys more) := by
  have hperm : (orderBy keys rows).Perm rows := orderBy_perm
  have hmore : more.Perm (orderBy keys more) := orderBy_perm.symm
  obtain ⟨found, hfound, hinside⟩ : (orderBy keys rows).Subperm (orderBy keys more) :=
    (hperm.subperm.trans hsub.subperm).trans hmore.subperm
  have hsorted : found = orderBy keys rows := by
    refine hfound.eq_of_pairwise ?_ (pairwise_orderBy.sublist hinside) pairwise_orderBy
    intro a b ha hb hab hba
    refine hkeys a ?_ b ?_ (Std.OrientedCmp.isLE_antisymm hab hba)
    · exact mem_orderBy.mp (hinside.subset ha)
    · exact hsub.subset (mem_orderBy.mp hb)
  rwa [← hsorted]

end TenderPhase1.OrderedRows
