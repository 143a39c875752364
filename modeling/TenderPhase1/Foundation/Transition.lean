import Mathlib.Data.List.Chain
import Mathlib.Data.List.Basic
import Mathlib.Logic.Function.Basic

/-!
# Runs of a total step function

An interleaving is a list of events folded over a state. An event that is not
enabled leaves the state as it is, so every list of events is a run. `Along`
states a property of every step of a run, and the invariant rules below turn
facts about one step into facts about all of them. The last section runs
independent copies of one system side by side.
-/

namespace TenderPhase1.Transition

variable {State Event : Type*} (step : State → Event → State)

/-- Every step of the run from `state` satisfies `property` in the state it is taken from. -/
def Along (property : State → Event → Prop) : State → List Event → Prop
  | _, [] => True
  | state, event :: events => property state event ∧ Along property (step state event) events

variable {step} {property cond : State → Event → Prop} {inv : State → Prop}

@[simp]
theorem along_nil (state : State) : Along step property state [] := trivial

@[simp]
theorem along_cons (state : State) (event : Event) (events : List Event) :
    Along step property state (event :: events) ↔
      property state event ∧ Along step property (step state event) events := Iff.rfl

instance Along.decidable [∀ state event, Decidable (property state event)] :
    ∀ (state : State) (events : List Event), Decidable (Along step property state events)
  | _, [] => isTrue trivial
  | state, event :: events =>
      have := Along.decidable (step state event) events
      inferInstanceAs (Decidable (property state event ∧ Along step property (step state event) events))

theorem along_append (state : State) (first second : List Event) :
    Along step property state (first ++ second) ↔
      Along step property state first ∧ Along step property (first.foldl step state) second := by
  induction first generalizing state with
  | nil => simp
  | cons event events ih => simp [ih, and_assoc]

/-- `Along` speaks about the state before each event of the run. -/
theorem along_iff_forall_split (state : State) (events : List Event) :
    Along step property state events ↔
      ∀ before event after, events = before ++ event :: after →
        property (before.foldl step state) event := by
  constructor
  · rintro h before event after rfl
    exact ((along_append state before (event :: after)).mp h).2.1
  · intro h
    induction events generalizing state with
    | nil => trivial
    | cons event events ih =>
      refine ⟨h [] event events rfl, ih (step state event) fun before next after heq ↦ ?_⟩
      simpa using h (event :: before) next after (by simp [heq])

theorem Along.mono {other : State → Event → Prop} (himp : ∀ state event, property state event → other state event)
    {state : State} {events : List Event} (h : Along step property state events) :
    Along step other state events := by
  induction events generalizing state with
  | nil => trivial
  | cons event events ih => exact ⟨himp state event h.1, ih h.2⟩

/-- A run has two properties along it if it has each of them. -/
theorem Along.and {other : State → Event → Prop} {state : State} {events : List Event}
    (h : Along step property state events) (hother : Along step other state events) :
    Along step (fun state event ↦ property state event ∧ other state event) state events := by
  induction events generalizing state with
  | nil => trivial
  | cons event events ih => exact ⟨⟨h.1, hother.1⟩, ih h.2 hother.2⟩

/-- The invariant rule: what one step keeps under a condition, a run keeps whose steps meet it. -/
theorem invariant_foldl (keep : ∀ state event, inv state → cond state event → inv (step state event))
    (state : State) (events : List Event) (hinv : inv state) (hcond : Along step cond state events) :
    inv (events.foldl step state) := by
  induction events generalizing state with
  | nil => exact hinv
  | cons event events ih =>
    exact ih (step state event) (keep state event hinv hcond.1) hcond.2

/-- What an event of the run establishes, and every step keeps, holds at the end of the run. -/
theorem reached_foldl {goal : State → Prop} {event : Event}
    (keep : ∀ state next, inv state → cond state next → inv (step state next))
    (reach : ∀ state, inv state → cond state event → goal (step state event))
    (hold : ∀ state next, inv state → cond state next → goal state → goal (step state next))
    (state : State) (events : List Event) (hinv : inv state) (hcond : Along step cond state events)
    (hevent : event ∈ events) : goal (events.foldl step state) := by
  induction events generalizing state with
  | nil => exact absurd hevent List.not_mem_nil
  | cons next events ih =>
    have hnext := keep state next hinv hcond.1
    rcases List.mem_cons.mp hevent with rfl | hlater
    · have hboth (before : State) (other : Event) (h : inv before ∧ goal before) (hother : cond before other) :
          inv (step before other) ∧ goal (step before other) :=
        ⟨keep before other h.1 hother, hold before other h.1 hother h.2⟩
      have hgoal := reach state hinv hcond.1
      exact (invariant_foldl hboth _ events ⟨hnext, hgoal⟩ hcond.2).2
    · exact ih (step state next) hnext hcond.2 hlater

/-- A condition on the events alone is met along a run whose events all meet it. -/
theorem along_of_forall_mem {events : List Event} {good : Event → Prop} (h : ∀ event ∈ events, good event)
    (state : State) : Along step (fun _ event ↦ good event) state events := by
  induction events generalizing state with
  | nil => trivial
  | cons event events ih =>
    exact ⟨h event List.mem_cons_self, ih (fun next hnext ↦ h next (List.mem_cons_of_mem _ hnext)) _⟩

/-- An invariant kept by every step holds after every run. -/
theorem invariant_run (keep : ∀ state event, inv state → inv (step state event))
    (state : State) (events : List Event) (hinv : inv state) : inv (events.foldl step state) := by
  induction events generalizing state with
  | nil => exact hinv
  | cons event events ih => exact ih (step state event) (keep state event hinv)

/-- What an invariant and a step condition imply for one step holds along the whole run. -/
theorem along_of_invariant
    (keep : ∀ state event, inv state → cond state event → inv (step state event))
    (implies : ∀ state event, inv state → cond state event → property state event)
    (state : State) (events : List Event) (hinv : inv state) (hcond : Along step cond state events) :
    Along step property state events := by
  induction events generalizing state with
  | nil => trivial
  | cons event events ih =>
    exact ⟨implies state event hinv hcond.1,
      ih (step state event) (keep state event hinv hcond.1) hcond.2⟩

/-- The observations made in the states of a run form a chain iff every step relates them. -/
theorem isChain_map_scanl_iff_along {Seen : Type*} (see : State → Seen) (related : Seen → Seen → Prop)
    (state : State) (events : List Event) :
    ((events.scanl step state).map see).IsChain related ↔
      Along step (fun before event ↦ related (see before) (see (step before event))) state events := by
  induction events generalizing state with
  | nil => simp
  | cons event events ih =>
    rw [List.scanl_cons, along_cons, ← ih (step state event)]
    cases events <;> simp

/-! ## Independent copies -/

section Indexed

variable {Index : Type*} [DecidableEq Index]

/-- One event of the copy it names; the other copies do not move. -/
def indexedStep (step : State → Event → State) (copies : Index → State) (event : Index × Event) :
    Index → State :=
  Function.update copies event.1 (step (copies event.1) event.2)

def eventsOf (index : Index) (events : List (Index × Event)) : List Event :=
  (events.filter (·.1 = index)).map Prod.snd

theorem foldl_indexedStep_apply (copies : Index → State) (events : List (Index × Event)) (index : Index) :
    events.foldl (indexedStep step) copies index =
      (eventsOf index events).foldl step (copies index) := by
  induction events generalizing copies with
  | nil => rfl
  | cons event events ih =>
    rw [List.foldl_cons, ih]
    by_cases h : event.1 = index
    · subst h
      simp [indexedStep, eventsOf]
    · simp [indexedStep, eventsOf, h, Function.update_of_ne (Ne.symm h)]

/-- A condition met by every step of the product is met by every step of each copy. -/
theorem along_eventsOf (copies : Index → State) (events : List (Index × Event)) (index : Index)
    (h : Along (indexedStep step) (fun state event ↦ cond (state event.1) event.2) copies events) :
    Along step cond (copies index) (eventsOf index events) := by
  induction events generalizing copies with
  | nil => trivial
  | cons event events ih =>
    have htail := ih (indexedStep step copies event) h.2
    by_cases hindex : event.1 = index
    · subst hindex
      have hhead := h.1
      simp only [indexedStep, Function.update_self] at htail
      simpa [eventsOf] using And.intro hhead htail
    · rw [indexedStep, Function.update_of_ne (Ne.symm hindex)] at htail
      simpa [eventsOf, hindex] using htail

end Indexed


/-! ## The last mark

Some events of a run carry a mark, and a state shows the mark of the last of them. -/

section Marks

variable {Mark : Type*} {mark : Event → Option Mark} {shows : Mark → State → Prop}

/-- An event with a mark makes the state show it and the others keep what the state shows, so a run
ends in a state that shows the last mark. -/
theorem shows_of_getLast? (keep : ∀ state event, inv state → cond state event → inv (step state event))
    (sets : ∀ state event last, inv state → cond state event → mark event = some last → shows last (step state event))
    (keeps : ∀ state event last, inv state → cond state event → mark event = none → shows last state →
      shows last (step state event))
    (state : State) (events : List Event) (hinv : inv state) (hcond : Along step cond state events) {last : Mark}
    (hlast : (events.filterMap mark).getLast? = some last) : shows last (events.foldl step state) := by
  induction events using List.reverseRecOn generalizing last with
  | nil => cases hlast
  | append_singleton events event ih =>
    obtain ⟨hbefore, hevent, -⟩ := (along_append state events [event]).mp hcond
    have hreached : inv (events.foldl step state) := invariant_foldl keep state events hinv hbefore
    rw [List.foldl_concat]
    cases hmark : mark event with
    | some written =>
      have hwritten : written = last := by simpa [List.filterMap_append, hmark] using hlast
      rw [← hwritten]
      exact sets _ event written hreached hevent hmark
    | none =>
      have hkept : (events.filterMap mark).getLast? = some last := by simpa [List.filterMap_append, hmark] using hlast
      exact keeps _ event last hreached hevent hmark (ih hbefore hkept)

/-- No beginning of a run with the first mark in it ends with the second one if and only if the second
mark never comes after the first. -/
theorem forall_prefix_getLast?_ne_iff {first second : Mark} (hne : first ≠ second) (events : List Event) :
    (∀ before, before <+: events → first ∈ before.filterMap mark →
        (before.filterMap mark).getLast? ≠ some second) ↔
      (events.filterMap mark).Pairwise fun earlier later ↦ ¬ (earlier = first ∧ later = second) := by
  induction events using List.reverseRecOn with
  | nil =>
    simp only [List.prefix_nil, List.filterMap_nil, List.Pairwise.nil, iff_true]
    rintro before rfl hfirst
    exact absurd hfirst List.not_mem_nil
  | append_singleton events event ih =>
    have hsplit : (∀ before, before <+: events ++ [event] → first ∈ before.filterMap mark →
          (before.filterMap mark).getLast? ≠ some second) ↔
        (∀ before, before <+: events → first ∈ before.filterMap mark →
          (before.filterMap mark).getLast? ≠ some second) ∧
        (first ∈ (events ++ [event]).filterMap mark →
          ((events ++ [event]).filterMap mark).getLast? ≠ some second) := by
      simp only [List.prefix_concat_iff, or_imp, forall_and, forall_eq]
      exact and_comm
    rw [hsplit, ih, List.filterMap_append]
    cases hmark : mark event with
    | none =>
      have hevent : [event].filterMap mark = [] := by simp [hmark]
      rw [hevent, List.append_nil, and_iff_left_iff_imp, ← ih]
      exact fun h ↦ h events List.prefix_rfl
    | some written =>
      have hevent : [event].filterMap mark = [written] := by simp [hmark]
      rw [hevent, List.pairwise_append, List.getLast?_concat]
      simp only [List.mem_append, List.mem_singleton, forall_eq, List.pairwise_singleton, true_and]
      apply and_congr_right
      intro _
      constructor
      · rintro h earlier hearlier ⟨rfl, rfl⟩
        exact h (Or.inl hearlier) rfl
      · rintro h (hmem | rfl) hwritten
        · exact h first hmem ⟨rfl, Option.some.inj hwritten⟩
        · exact hne (Option.some.inj hwritten)

end Marks

end TenderPhase1.Transition
