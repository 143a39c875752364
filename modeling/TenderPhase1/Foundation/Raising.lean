import Mathlib.Tactic.Common

/-!
# Programs that raise, over a state that outlives the exception

A program changes a state and either returns a value or raises. What it did to
the state before it raised stays done. `Ends` is the weakest precondition of a
program for an outcome, returned or raised, and a final state; the rules below
compute it, one for each way of building a program.
-/

namespace TenderPhase1.Raising

variable {State Raised Value Result : Type}

abbrev Program (State Raised Value : Type) := ExceptT Raised (StateM State) Value

/-- Run from `state`, the program comes to an outcome and a state that satisfy `post`. -/
def Ends (post : Except Raised Value → State → Prop) (program : Program State Raised Value) (state : State) :
    Prop :=
  post (program.run.run state).1 (program.run.run state).2

/-- The program keeps the invariant, whether it returns or raises. -/
def Keeps (inv : State → Prop) (program : Program State Raised Value) : Prop :=
  ∀ state, inv state → Ends (fun _ after ↦ inv after) program state

/-- The program keeps the invariant, and what it returns is good. -/
def Yields (inv : State → Prop) (good : Value → Prop) (program : Program State Raised Value) : Prop :=
  ∀ state, inv state → Ends (fun outcome after ↦ inv after ∧ ∀ value, outcome = .ok value → good value) program state

/-- The program returns a value, and `post` holds of it and the final state. -/
def Returns (post : Value → State → Prop) (program : Program State Raised Value) (state : State) : Prop :=
  Ends (fun outcome after ↦ ∃ value, outcome = .ok value ∧ post value after) program state

/-- Where the program returns a value, `post` holds of it and the final state. -/
def Ensures (post : Value → State → Prop) (program : Program State Raised Value) (state : State) : Prop :=
  Ends (fun outcome after ↦ ∀ value, outcome = .ok value → post value after) program state

/-- The program keeps the invariant, whether it returns or raises; where it returns a value, `post`
holds of it and the final state. -/
def Upholds (inv : State → Prop) (post : Value → State → Prop) (program : Program State Raised Value)
    (state : State) : Prop :=
  Ends (fun outcome after ↦ inv after ∧ ∀ value, outcome = .ok value → post value after) program state

variable {post : Except Raised Value → State → Prop} {inv : State → Prop} {state : State}

@[simp]
theorem ends_pure (value : Value) : Ends post (pure value) state ↔ post (.ok value) state := Iff.rfl

@[simp]
theorem ends_throw (raised : Raised) : Ends post (throw raised) state ↔ post (.error raised) state := Iff.rfl

@[simp]
theorem ends_get {post : Except Raised State → State → Prop} :
    Ends post get state ↔ post (.ok state) state := Iff.rfl

@[simp]
theorem ends_set {post : Except Raised PUnit → State → Prop} (after : State) :
    Ends post (set after) state ↔ post (.ok ⟨⟩) after := Iff.rfl

@[simp]
theorem ends_modify {post : Except Raised PUnit → State → Prop} (change : State → State) :
    Ends post (modify change) state ↔ post (.ok ⟨⟩) (change state) := Iff.rfl

/-- The second part runs from where the first one returned; an exception skips it. -/
theorem ends_bind {post : Except Raised Result → State → Prop} (first : Program State Raised Value)
    (next : Value → Program State Raised Result) :
    Ends post (first >>= next) state ↔
      Ends (fun outcome after ↦
        match outcome with
        | .ok value => Ends post (next value) after
        | .error raised => post (.error raised) after) first state := by
  change post ((ExceptT.bind first next).run.run state).1 ((ExceptT.bind first next).run.run state).2 ↔ _
  simp only [Ends, ExceptT.bind, ExceptT.run, ExceptT.mk, StateT.run_bind]
  cases h : (StateT.run first state : Id _) with
  | mk outcome after =>
    cases outcome with
    | ok value => exact Iff.rfl
    | error raised => exact Iff.rfl

/-- The handler runs from the state in which the exception left the program. -/
theorem ends_tryCatch (program : Program State Raised Value)
    (handler : Raised → Program State Raised Value) :
    Ends post (tryCatch program handler) state ↔
      Ends (fun outcome after ↦
        match outcome with
        | .ok value => post (.ok value) after
        | .error raised => Ends post (handler raised) after) program state := by
  change post ((ExceptT.tryCatch program handler).run.run state).1
    ((ExceptT.tryCatch program handler).run.run state).2 ↔ _
  simp only [Ends, ExceptT.tryCatch, ExceptT.run, ExceptT.mk, StateT.run_bind]
  cases h : (StateT.run program state : Id _) with
  | mk outcome after =>
    cases outcome with
    | ok value => exact Iff.rfl
    | error raised => exact Iff.rfl

theorem ends_mono {weaker : Except Raised Value → State → Prop} {program : Program State Raised Value}
    (h : Ends post program state) (himp : ∀ outcome after, post outcome after → weaker outcome after) :
    Ends weaker program state :=
  himp _ _ h

/-- Two facts about one run. -/
theorem ends_and {other : Except Raised Value → State → Prop} {program : Program State Raised Value}
    (h : Ends post program state) (hother : Ends other program state) :
    Ends (fun outcome after ↦ post outcome after ∧ other outcome after) program state :=
  ⟨h, hother⟩

theorem keeps_pure (value : Value) : Keeps inv (pure value : Program State Raised Value) :=
  fun _ hinv ↦ hinv

theorem keeps_throw (raised : Raised) : Keeps inv (throw raised : Program State Raised Value) :=
  fun _ hinv ↦ hinv

theorem keeps_get : Keeps inv (get : Program State Raised State) :=
  fun _ hinv ↦ hinv

theorem keeps_bind {first : Program State Raised Value} {next : Value → Program State Raised Result}
    (hfirst : Keeps inv first) (hnext : ∀ value, Keeps inv (next value)) : Keeps inv (first >>= next) := by
  intro state hinv
  rw [ends_bind]
  apply ends_mono (hfirst state hinv)
  intro outcome after hafter
  cases outcome with
  | ok value => exact hnext value after hafter
  | error raised => exact hafter

section Yields

variable {good : Value → Prop} {goodResult : Result → Prop}

theorem yields_pure {value : Value} (h : good value) : Yields inv good (pure value : Program State Raised Value) := by
  intro state hinv
  refine ⟨hinv, ?_⟩
  rintro _ ⟨⟩
  exact h

theorem yields_throw (raised : Raised) : Yields inv good (throw raised : Program State Raised Value) :=
  fun _ hinv ↦ ⟨hinv, fun _ h ↦ (nomatch h)⟩

theorem yields_bind {first : Program State Raised Value} {next : Value → Program State Raised Result}
    (hfirst : Yields inv good first) (hnext : ∀ value, good value → Yields inv goodResult (next value)) :
    Yields inv goodResult (first >>= next) := by
  intro state hinv
  rw [ends_bind]
  apply ends_mono (hfirst state hinv)
  intro outcome after hafter
  cases outcome with
  | ok value => exact hnext value (hafter.2 value rfl) after hafter.1
  | error raised => exact ⟨hafter.1, fun _ h ↦ (nomatch h)⟩

theorem yields_of_keeps {program : Program State Raised Value} (h : Keeps inv program) :
    Yields inv (fun _ ↦ True) program :=
  fun state hinv ↦ ⟨h state hinv, fun _ _ ↦ trivial⟩

theorem keeps_of_yields {program : Program State Raised Value} (h : Yields inv good program) :
    Keeps inv program :=
  fun state hinv ↦ (h state hinv).1

theorem yields_mono {better : Value → Prop} {program : Program State Raised Value}
    (h : Yields inv good program) (himp : ∀ value, good value → better value) : Yields inv better program :=
  fun state hinv ↦ ⟨(h state hinv).1, fun value hvalue ↦ himp value ((h state hinv).2 value hvalue)⟩

/-- A part whose value does not matter for what comes after it. -/
theorem yields_bind_of_keeps {first : Program State Raised Value} {next : Value → Program State Raised Result}
    (hfirst : Keeps inv first) (hnext : ∀ value, Yields inv goodResult (next value)) :
    Yields inv goodResult (first >>= next) :=
  yields_bind (yields_of_keeps hfirst) fun value _ ↦ hnext value

end Yields

section Returns

variable {post : Value → State → Prop}

theorem returns_pure {value : Value} (h : post value state) :
    Returns post (pure value : Program State Raised Value) state :=
  ⟨value, rfl, h⟩

theorem returns_get {post : State → State → Prop} (h : post state state) :
    Returns post (get : Program State Raised State) state :=
  ⟨state, rfl, h⟩

theorem returns_bind {first : Program State Raised Value} {next : Value → Program State Raised Result}
    {post : Result → State → Prop}
    (h : Returns (fun value after ↦ Returns post (next value) after) first state) :
    Returns post (first >>= next) state := by
  unfold Returns
  rw [ends_bind]
  apply ends_mono h
  rintro _ after ⟨value, rfl, hnext⟩
  exact hnext

theorem returns_mono {stronger : Value → State → Prop} {program : Program State Raised Value}
    (h : Returns stronger program state) (himp : ∀ value after, stronger value after → post value after) :
    Returns post program state := by
  apply ends_mono h
  rintro _ after ⟨value, rfl, hafter⟩
  exact ⟨value, rfl, himp value after hafter⟩

end Returns

section Ensures

variable {post : Value → State → Prop}

theorem ensures_pure {value : Value} (h : post value state) :
    Ensures post (pure value : Program State Raised Value) state := by
  intro other hother
  rw [← Except.ok.inj hother]
  exact h

theorem ensures_throw (raised : Raised) : Ensures post (throw raised : Program State Raised Value) state :=
  fun _ h ↦ (nomatch h)

theorem ensures_get {post : State → State → Prop} (h : post state state) :
    Ensures post (get : Program State Raised State) state := ensures_pure h

theorem ensures_bind {first : Program State Raised Value} {next : Value → Program State Raised Result}
    {post : Result → State → Prop}
    (h : Ensures (fun value after ↦ Ensures post (next value) after) first state) :
    Ensures post (first >>= next) state := by
  unfold Ensures at h ⊢
  rw [ends_bind]
  apply ends_mono h
  intro outcome after hafter
  cases outcome with
  | ok value => exact hafter value rfl
  | error raised => exact fun _ h ↦ (nomatch h)

theorem ensures_mono {stronger : Value → State → Prop} {program : Program State Raised Value}
    (h : Ensures stronger program state) (himp : ∀ value after, stronger value after → post value after) :
    Ensures post program state := by
  apply ends_mono h
  intro outcome after hafter value hvalue
  exact himp value after (hafter value hvalue)

/-- What holds of every value and state needs no look at the program. -/
theorem ensures_of_forall {program : Program State Raised Value} (h : ∀ value after, post value after) :
    Ensures post program state :=
  fun value _ ↦ h value _

/-- A run that returns comes to the value and the state that it comes to. -/
theorem ensures_run {program : Program State Raised Value} :
    Ensures (fun value after ↦ program.run.run state = (.ok value, after)) program state :=
  fun _ hvalue ↦ Prod.ext hvalue rfl

theorem Ensures.of_run {program : Program State Raised Value} {value : Value} {after : State}
    (h : Ensures post program state) (hrun : program.run.run state = (.ok value, after)) : post value after := by
  have hpost := h value
  rw [hrun] at hpost
  exact hpost rfl

theorem ensures_and {other : Value → State → Prop} {program : Program State Raised Value}
    (h : Ensures post program state) (hother : Ensures other program state) :
    Ensures (fun value after ↦ post value after ∧ other value after) program state :=
  fun value hvalue ↦ ⟨h value hvalue, hother value hvalue⟩

/-- A program that returns does what it ensures. -/
theorem Returns.of_ensures {returned : Value → State → Prop} {program : Program State Raised Value}
    (h : Returns returned program state) (hensures : Ensures post program state) :
    Returns (fun value after ↦ returned value after ∧ post value after) program state := by
  obtain ⟨value, hvalue, hreturned⟩ := h
  exact ⟨value, hvalue, hreturned, hensures value hvalue⟩

end Ensures

section Upholds

variable {post : Value → State → Prop}

theorem upholds_pure {value : Value} (hinv : inv state) (h : post value state) :
    Upholds inv post (pure value : Program State Raised Value) state := by
  refine ⟨hinv, ?_⟩
  rintro _ ⟨⟩
  exact h

theorem upholds_get {post : State → State → Prop} (hinv : inv state) (h : post state state) :
    Upholds inv post (get : Program State Raised State) state := upholds_pure hinv h

theorem upholds_bind {first : Program State Raised Value} {next : Value → Program State Raised Result}
    {post : Result → State → Prop}
    (h : Upholds inv (fun value after ↦ Upholds inv post (next value) after) first state) :
    Upholds inv post (first >>= next) state := by
  unfold Upholds at h ⊢
  rw [ends_bind]
  apply ends_mono h
  rintro outcome after ⟨hinv, hafter⟩
  cases outcome with
  | ok value => exact hafter value rfl
  | error raised => exact ⟨hinv, fun _ h ↦ (nomatch h)⟩

theorem upholds_mono {stronger : Value → State → Prop} {program : Program State Raised Value}
    (h : Upholds inv stronger program state)
    (himp : ∀ value after, inv after → stronger value after → post value after) : Upholds inv post program state :=
  ⟨h.1, fun value hvalue ↦ himp value _ h.1 (h.2 value hvalue)⟩

/-- A part that keeps the invariant, with what it ensures where it returns. -/
theorem Keeps.upholds {program : Program State Raised Value} (hkeeps : Keeps inv program)
    (hensures : Ensures post program state) (hinv : inv state) : Upholds inv post program state :=
  ⟨hkeeps state hinv, hensures⟩

/-- What is kept of a view of the state keeps every fact about that view. -/
theorem keeps_of_view {View : Type} {view : State → View} {program : Program State Raised Value}
    (h : ∀ seen, Keeps (fun state ↦ view state = seen) program) (fact : View → Prop) :
    Keeps (fun state ↦ fact (view state)) program := by
  intro state hfact
  apply ends_mono (h (view state) state rfl)
  intro outcome after hview
  change fact (view after)
  rw [hview]
  exact hfact

end Upholds

end TenderPhase1.Raising
