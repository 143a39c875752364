import Mathlib.Data.List.Nodup
import Mathlib.Logic.Function.Basic

/-!
# Rows under unique keys

A table whose rows have different keys is a partial function from keys to rows. Writing a row
changes this function at the key of the row.
-/

namespace TenderPhase1.KeyedRows

variable {Row Key : Type*} [DecidableEq Key] {key : Row → Key} {rows after : List Row} {row written : Row} {at' : Key}

def rowAt (key : Row → Key) (rows : List Row) (at' : Key) : Option Row := rows.find? (key · = at')

theorem mem_of_rowAt (h : rowAt key rows at' = some row) : row ∈ rows ∧ key row = at' := by
  have hkey : key row = at' := by simpa using List.find?_some h
  exact ⟨List.mem_of_find?_eq_some h, hkey⟩

theorem rowAt_eq_none_iff : rowAt key rows at' = none ↔ ∀ row ∈ rows, key row ≠ at' := by
  simp [rowAt, List.find?_eq_none]

theorem rowAt_eq_some_iff (hkeys : (rows.map key).Nodup) : rowAt key rows at' = some row ↔ row ∈ rows ∧ key row = at' := by
  constructor
  · exact mem_of_rowAt
  · rintro ⟨hmem, rfl⟩
    cases hfind : rowAt key rows (key row) with
    | none => exact absurd rfl (rowAt_eq_none_iff.mp hfind row hmem)
    | some found =>
      obtain ⟨hfound, hkey⟩ := mem_of_rowAt hfind
      rw [List.inj_on_of_nodup_map hkeys hfound hmem hkey]

theorem rowAt_of_mem (hkeys : (rows.map key).Nodup) (hmem : row ∈ rows) : rowAt key rows (key row) = some row :=
  (rowAt_eq_some_iff hkeys).mpr ⟨hmem, rfl⟩

/-- Rows that are changed and keep their keys are found under the same keys. -/
theorem rowAt_map {change : Row → Row} (hchange : ∀ row, key (change row) = key row) (rows : List Row) (at' : Key) :
    rowAt key (rows.map change) at' = (rowAt key rows at').map change := by
  unfold rowAt
  rw [List.find?_map]
  congr 2
  funext row
  simp [hchange]

/-- A table with the written row, and otherwise the rows that have other keys. -/
theorem rowAt_written (hkeys : (rows.map key).Nodup) (hafter : (after.map key).Nodup)
    (hmem : ∀ row, row ∈ after ↔ row = written ∨ row ∈ rows ∧ key row ≠ key written) :
    rowAt key after = Function.update (rowAt key rows) (key written) (some written) := by
  funext at'
  by_cases hat : at' = key written
  · subst hat
    rw [Function.update_self]
    exact rowAt_of_mem hafter ((hmem written).mpr (Or.inl rfl))
  · rw [Function.update_of_ne hat]
    ext row
    rw [rowAt_eq_some_iff hafter, rowAt_eq_some_iff hkeys, hmem row]
    constructor
    · rintro ⟨rfl | ⟨hrow, -⟩, rfl⟩
      · exact absurd rfl hat
      · exact ⟨hrow, rfl⟩
    · rintro ⟨hrow, rfl⟩
      exact ⟨Or.inr ⟨hrow, hat⟩, rfl⟩

end TenderPhase1.KeyedRows
