import Mathlib.Data.List.Basic
import Mathlib.Data.List.Infix
import Mathlib.Tactic.Common

/-!
# Suffix codes

A code of which no word is a suffix of another. A text that ends in code words can be
read from its end in one way only: what is left of it, and the words in their order.
-/

namespace TenderPhase1.SuffixCode

variable {α ι : Type*} (code : ι → List α)

/-- The text of a list of units, the last unit first -/
def flat : List ι → List α
  | [] => []
  | unit :: rest => flat rest ++ code unit

structure IsSuffixCode : Prop where
  ne_nil : ∀ unit, code unit ≠ []
  eq_of_suffix : ∀ unit other, code unit <:+ code other → unit = other

/-- A text that ends in no code word -/
def Bare (front : List α) : Prop := ∀ unit, ¬code unit <:+ front

variable {code} {front text : List α} {unit other : ι} {units rest : List ι}

theorem flat_append (first rest : List ι) : flat code (first ++ rest) = flat code rest ++ flat code first := by
  induction first with
  | nil => exact (List.append_nil _).symm
  | cons unit first ih => rw [List.cons_append, flat, flat, ih, List.append_assoc]

theorem length_le_flat (h : IsSuffixCode code) (units : List ι) : units.length ≤ (flat code units).length := by
  induction units with
  | nil => rfl
  | cons unit units ih =>
    have hpos := List.length_pos_iff.mpr (h.ne_nil unit)
    rw [flat, List.length_append, List.length_cons]
    omega

/-- A text ends in one code word at most. -/
theorem eq_of_suffixes (h : IsSuffixCode code) (hunit : code unit <:+ text) (hother : code other <:+ text) :
    unit = other := by
  rcases List.suffix_or_suffix_of_suffix hunit hother with hfirst | hsecond
  · exact h.eq_of_suffix unit other hfirst
  · exact (h.eq_of_suffix other unit hsecond).symm

/-- The code word that a text ends in is the last of its units. -/
theorem exists_cons_of_suffix (h : IsSuffixCode code) (hbare : Bare code front)
    (hunit : code unit <:+ front ++ flat code units) : ∃ rest, units = unit :: rest := by
  cases units with
  | nil =>
    rw [flat, List.append_nil] at hunit
    exact absurd hunit (hbare unit)
  | cons last rest =>
    have hlast : code last <:+ front ++ flat code (last :: rest) :=
      ⟨front ++ flat code rest, by rw [flat, List.append_assoc]⟩
    exact ⟨rest, by rw [eq_of_suffixes h hunit hlast]⟩

/-- Units that a text ends in are its last units. -/
theorem exists_append_of_suffix (h : IsSuffixCode code) (hbare : Bare code front) {ending : List ι}
    (hending : flat code ending <:+ front ++ flat code units) : ∃ rest, units = ending ++ rest := by
  induction ending generalizing units with
  | nil => exact ⟨units, rfl⟩
  | cons unit ending ih =>
    obtain ⟨before, hbefore⟩ := hending
    rw [flat, ← List.append_assoc] at hbefore
    obtain ⟨rest, rfl⟩ := exists_cons_of_suffix h hbare ⟨_, hbefore⟩
    rw [flat, ← List.append_assoc] at hbefore
    obtain ⟨rest, rfl⟩ := ih ⟨before, List.append_cancel_right hbefore⟩
    exact ⟨rest, rfl⟩

/-- Every text is a bare one with units after it. -/
theorem exists_bare_append (h : IsSuffixCode code) (text : List α) :
    ∃ front units, text = front ++ flat code units ∧ Bare code front := by
  induction hlength : text.length using Nat.strong_induction_on generalizing text with
  | _ n ih =>
    by_cases hbare : Bare code text
    · exact ⟨text, [], (List.append_nil text).symm, hbare⟩
    · unfold Bare at hbare
      push Not at hbare
      obtain ⟨unit, before, rfl⟩ := hbare
      have hpos := List.length_pos_iff.mpr (h.ne_nil unit)
      have hshorter : before.length < n := by
        rw [← hlength, List.length_append]
        omega
      obtain ⟨front, units, hbefore, hfront⟩ := ih _ hshorter before rfl
      exact ⟨front, unit :: units, by rw [hbefore, flat, List.append_assoc], hfront⟩

end TenderPhase1.SuffixCode
