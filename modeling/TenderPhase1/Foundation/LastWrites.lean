import Mathlib.Data.List.Nodup
import Mathlib.Logic.Function.Basic

/-!
# Stores that keep the last write

A store holds one value under each key, and a write replaces what is under its key. Some of the
values are listed. When the writes are over, the listed values of the store are those that were
written exactly where no write went to the key of an earlier listed one, and every listed value
that was there before has been replaced.
-/

namespace TenderPhase1.LastWrites

variable {Key Value : Type*} {store : Key → Option Value} {writes : List (Key × Value)} {key : Key} {value : Value}

/-- Every key that is written has a last write. -/
theorem exists_last_write (h : key ∈ writes.map Prod.fst) :
    ∃ before value after, writes = before ++ (key, value) :: after ∧ key ∉ after.map Prod.fst := by
  induction writes with
  | nil => exact absurd h List.not_mem_nil
  | cons write writes ih =>
    by_cases hlater : key ∈ writes.map Prod.fst
    · obtain ⟨before, value, after, hwrites, hlast⟩ := ih hlater
      exact ⟨write :: before, value, after, by rw [hwrites, List.cons_append], hlast⟩
    · have hkey : key = write.1 := (List.mem_cons.mp h).resolve_right hlater
      exact ⟨[], write.2, writes, by rw [hkey, List.nil_append], hlater⟩

/-! ## Listed values -/

variable (listed : Value → Prop)

/-- No write goes to the key of an earlier listed value. -/
def Spares (writes : List (Key × Value)) : Prop :=
  writes.Pairwise fun earlier later ↦ listed earlier.2 → later.1 ≠ earlier.1

/-- Every listed value that the store has at the beginning is under a key that is written. -/
def Replaces (store : Key → Option Value) (writes : List (Key × Value)) : Prop :=
  ∀ key value, store key = some value → listed value → key ∈ writes.map Prod.fst

variable {listed}

/-- What `Spares` says of one write. -/
theorem Spares.notMem_after {before after : List (Key × Value)} (h : Spares listed (before ++ (key, value) :: after))
    (hlisted : listed value) : key ∉ after.map Prod.fst := by
  intro hmem
  obtain ⟨later, hlater, hkey⟩ := List.mem_map.mp hmem
  have hpair := (List.pairwise_cons.mp (List.pairwise_append.mp h).2.1).1 later hlater hlisted
  exact hpair hkey

theorem spares_of_forall_split (h : ∀ before key value after, writes = before ++ (key, value) :: after →
    listed value → key ∉ after.map Prod.fst) : Spares listed writes := by
  induction writes with
  | nil => exact List.Pairwise.nil
  | cons write writes ih =>
    apply List.Pairwise.cons
    · intro later hlater hlisted heq
      exact h [] write.1 write.2 writes rfl hlisted (heq ▸ List.mem_map_of_mem hlater)
    · apply ih
      intro before key value after hwrites
      exact h (write :: before) key value after (by rw [hwrites, List.cons_append])

theorem Spares.nodup_listed [DecidablePred listed] (h : Spares listed writes) :
    ((writes.filter fun write ↦ listed write.2).map Prod.fst).Nodup := by
  rw [List.Nodup, List.pairwise_map, List.pairwise_filter]
  apply h.imp
  intro earlier later hspares hearlier _
  exact (hspares (of_decide_eq_true hearlier)).symm

theorem mem_listed [DecidablePred listed] {write : Key × Value} :
    write ∈ writes.filter (fun write ↦ listed write.2) ↔ write ∈ writes ∧ listed write.2 := by
  simp

/-! ## The store after the writes -/

section Written

variable [DecidableEq Key]

/-- What the store holds after the writes. -/
def written (store : Key → Option Value) (writes : List (Key × Value)) : Key → Option Value :=
  writes.foldl (fun store write ↦ Function.update store write.1 (some write.2)) store

@[simp]
theorem written_nil (store : Key → Option Value) : written store [] = store := rfl

@[simp]
theorem written_cons (store : Key → Option Value) (write : Key × Value) (writes : List (Key × Value)) :
    written store (write :: writes) = written (Function.update store write.1 (some write.2)) writes := rfl

theorem written_append (store : Key → Option Value) (first second : List (Key × Value)) :
    written store (first ++ second) = written (written store first) second := List.foldl_append

/-- A key that is not written keeps its value. -/
theorem written_of_notMem (h : key ∉ writes.map Prod.fst) : written store writes key = store key := by
  induction writes generalizing store with
  | nil => rfl
  | cons write writes ih =>
    rw [List.map_cons, List.mem_cons, not_or] at h
    rw [written_cons, ih h.2, Function.update_of_ne h.1]

theorem written_of_last {before after : List (Key × Value)} (h : key ∉ after.map Prod.fst) :
    written store (before ++ (key, value) :: after) key = some value := by
  rw [written_append, written_cons, written_of_notMem h, Function.update_self]

/-- The listed values at the end are those written, each under a key of its own, if and only if the
writes spare the listed values and replace those of the beginning. -/
theorem listed_written_iff [DecidablePred listed] (store : Key → Option Value) (writes : List (Key × Value)) :
    (((writes.filter fun write ↦ listed write.2).map Prod.fst).Nodup ∧
        ∀ key value, written store writes key = some value ∧ listed value ↔
          (key, value) ∈ writes.filter fun write ↦ listed write.2) ↔
      Spares listed writes ∧ Replaces listed store writes := by
  constructor
  · rintro ⟨hnodup, hmem⟩
    refine ⟨spares_of_forall_split ?_, ?_⟩
    · intro before key value after hwrites hlisted hlater
      obtain ⟨between, last, rest, hafter, hrest⟩ := exists_last_write hlater
      have hwritten : (key, value) ∈ writes.filter fun write ↦ listed write.2 := by
        rw [mem_listed, hwrites]
        exact ⟨List.mem_append_right _ List.mem_cons_self, hlisted⟩
      have hends : written store writes key = some last := by
        rw [hwrites, hafter, ← List.cons_append, ← List.append_assoc]
        exact written_of_last hrest
      obtain rfl : last = value := Option.some.inj (hends.symm.trans ((hmem key value).mpr hwritten).1)
      rw [hwrites, hafter] at hnodup
      simp [List.filter_append, hlisted, List.nodup_append] at hnodup
    · intro key value hstore hlisted
      by_contra hnot
      have hkept : written store writes key = some value := (written_of_notMem hnot).trans hstore
      exact hnot (List.mem_map_of_mem (mem_listed.mp ((hmem key value).mp ⟨hkept, hlisted⟩)).1)
  · rintro ⟨hspares, hreplaces⟩
    refine ⟨?_, ?_⟩
    · exact hspares.nodup_listed
    · intro key value
      rw [mem_listed]
      constructor
      · rintro ⟨hends, hlisted⟩
        have hkey : key ∈ writes.map Prod.fst := by
          by_contra hnot
          exact hnot (hreplaces key value ((written_of_notMem hnot).symm.trans hends) hlisted)
        obtain ⟨before, last, after, hwrites, hlast⟩ := exists_last_write hkey
        have hlastValue : written store writes key = some last := by
          rw [hwrites]
          exact written_of_last hlast
        obtain rfl : last = value := Option.some.inj (hlastValue.symm.trans hends)
        rw [hwrites]
        exact ⟨List.mem_append_right _ List.mem_cons_self, hlisted⟩
      · rintro ⟨hwrite, hlisted⟩
        obtain ⟨before, after, hwrites⟩ := List.append_of_mem hwrite
        rw [hwrites] at hspares ⊢
        exact ⟨written_of_last (hspares.notMem_after hlisted), hlisted⟩

end Written

end TenderPhase1.LastWrites
