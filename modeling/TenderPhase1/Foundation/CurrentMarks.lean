import Mathlib.Logic.Function.Basic
import Mathlib.Tactic.Common

/-!
# Two records of what is current

Members belong to owners. A member carries a flag that says whether it is the
current one of its owner, and an owner has a pointer that names its current member.
Storing a member sets its flag; where the flag is set, the siblings lose theirs and
the pointer of the owner moves. Storing keeps at most one flag set for each owner and
keeps the pointers inside their owners. It keeps the two records in agreement unless
it clears the flag of the member that the pointer names.
-/

namespace TenderPhase1.CurrentMarks

variable {Owner Member : Type*}

/-- Who owns each member, which members are flagged as current, and the member that each owner names. -/
@[ext]
structure Marks (Owner Member : Type*) where
  owner : Member → Option Owner
  flagged : Member → Bool
  named : Owner → Option Member

namespace Marks

/-- At most one member of each owner is flagged. -/
def OneFlagged (marks : Marks Owner Member) : Prop :=
  ∀ owner member other, marks.owner member = some owner → marks.owner other = some owner →
    marks.flagged member → marks.flagged other → member = other

/-- An owner names a member of its own, if it names one. -/
def NamesOwn (marks : Marks Owner Member) : Prop :=
  ∀ owner member, marks.named owner = some member → marks.owner member = some owner

/-- A member is named exactly where it is flagged. -/
def Agrees (marks : Marks Owner Member) : Prop :=
  ∀ owner member, marks.owner member = some owner → (marks.named owner = some member ↔ marks.flagged member)

variable [DecidableEq Owner] [DecidableEq Member]

def store (marks : Marks Owner Member) (owner : Owner) (member : Member) (flag : Bool) : Marks Owner Member where
  owner := Function.update marks.owner member (some owner)
  flagged := Function.update
    (fun other ↦ marks.flagged other && !(flag && marks.owner other = some owner)) member flag
  named := if flag then Function.update marks.named owner (some member) else marks.named

variable {marks : Marks Owner Member} {owner : Owner} {member : Member} {flag : Bool}

@[simp]
theorem store_owner_self : (marks.store owner member flag).owner member = some owner := by
  simp [store]

@[simp]
theorem store_flagged_self : (marks.store owner member flag).flagged member = flag := by
  simp [store]

theorem store_owner_of_ne {other : Member} (h : other ≠ member) :
    (marks.store owner member flag).owner other = marks.owner other :=
  Function.update_of_ne h _ _

theorem store_flagged_of_ne {other : Member} (h : other ≠ member) :
    (marks.store owner member flag).flagged other = (marks.flagged other && !(flag && marks.owner other = some owner)) := by
  simp [store, h]

theorem flagged_of_store {other : Member} (h : other ≠ member) (hflagged : (marks.store owner member flag).flagged other) :
    marks.flagged other := by
  rw [store_flagged_of_ne h, Bool.and_eq_true] at hflagged
  exact hflagged.1

/-- A flagged member of the owner other than the one stored is left only where the flag is not set. -/
theorem flag_eq_false_of_store {other : Member} (h : other ≠ member) (howner : marks.owner other = some owner)
    (hflagged : (marks.store owner member flag).flagged other) : flag = false := by
  rw [store_flagged_of_ne h, howner] at hflagged
  simpa using And.right (Bool.and_eq_true_iff.mp hflagged)

/-- Storing a member with its flag keeps one flag to an owner. -/
theorem OneFlagged.store (h : marks.OneFlagged) : (marks.store owner member flag).OneFlagged := by
  intro shared first second hfirst hsecond hfirstFlag hsecondFlag
  by_contra hne
  by_cases hfirstSelf : first = member
  · subst hfirstSelf
    have hsecondSelf : second ≠ first := Ne.symm hne
    rw [store_owner_self] at hfirst
    rw [store_owner_of_ne hsecondSelf, ← hfirst] at hsecond
    rw [store_flagged_self] at hfirstFlag
    rw [flag_eq_false_of_store hsecondSelf hsecond hsecondFlag] at hfirstFlag
    cases hfirstFlag
  · by_cases hsecondSelf : second = member
    · subst hsecondSelf
      rw [store_owner_self] at hsecond
      rw [store_owner_of_ne hfirstSelf, ← hsecond] at hfirst
      rw [store_flagged_self] at hsecondFlag
      rw [flag_eq_false_of_store hfirstSelf hfirst hfirstFlag] at hsecondFlag
      cases hsecondFlag
    · rw [store_owner_of_ne hfirstSelf] at hfirst
      rw [store_owner_of_ne hsecondSelf] at hsecond
      exact hne (h shared first second hfirst hsecond (flagged_of_store hfirstSelf hfirstFlag)
        (flagged_of_store hsecondSelf hsecondFlag))

/-- The pointers stay inside their owners where the member stored is new or stays with its owner. -/
theorem NamesOwn.store (h : marks.NamesOwn) (hkept : ∀ old, marks.owner member = some old → old = owner) :
    (marks.store owner member flag).NamesOwn := by
  have howner (other : Owner) (named : Member) (hnamed : marks.owner named = some other) :
      (marks.store owner member flag).owner named = some other := by
    by_cases hself : named = member
    · subst hself
      rw [store_owner_self, hkept other hnamed]
    · rw [store_owner_of_ne hself, hnamed]
  intro other named hnamed
  cases flag with
  | false => exact howner other named (h other named hnamed)
  | true =>
    change Function.update marks.named owner (some member) other = some named at hnamed
    by_cases hself : other = owner
    · subst hself
      rw [Function.update_self] at hnamed
      rw [← Option.some.inj hnamed, store_owner_self]
    · rw [Function.update_of_ne hself] at hnamed
      exact howner other named (h other named hnamed)

/-- Storing keeps the two records in agreement if and only if it sets the flag, or the owner does not
name the member. -/
theorem agrees_store_iff (h : marks.Agrees) :
    (marks.store owner member flag).Agrees ↔ (flag = false → marks.named owner ≠ some member) := by
  constructor
  · rintro hagrees rfl hnamed
    have hflag := (hagrees owner member store_owner_self).mp hnamed
    rw [store_flagged_self] at hflag
    cases hflag
  · intro hnamed other named howner
    cases flag with
    | false =>
      by_cases hself : named = member
      · subst hself
        obtain rfl := Option.some.inj (store_owner_self.symm.trans howner)
        rw [store_flagged_self]
        exact iff_of_false (hnamed rfl) Bool.false_ne_true
      · rw [store_owner_of_ne hself] at howner
        rw [store_flagged_of_ne hself]
        change marks.named other = some named ↔ _
        simpa using h other named howner
    | true =>
      change Function.update marks.named owner (some member) other = some named ↔ _
      by_cases hself : named = member
      · subst hself
        obtain rfl := Option.some.inj (store_owner_self.symm.trans howner)
        rw [store_flagged_self, Function.update_self]
        exact iff_of_true rfl rfl
      · rw [store_owner_of_ne hself] at howner
        rw [store_flagged_of_ne hself, howner]
        by_cases hother : other = owner
        · subst hother
          rw [Function.update_self]
          simpa using Ne.symm hself
        · rw [Function.update_of_ne hother]
          simpa [hother] using h other named howner

end Marks

end TenderPhase1.CurrentMarks
