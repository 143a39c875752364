import TenderPhase1.Dispatch.Processes

/-!
# At most one spider for a job

`start_job` is won by one executor, and an executor that goes through
`_run_existing_crawl_job` launches only after it has won. The script launches
whether it has won or not, so one job gets a second spider when a worker has
started it before the script does.
-/

namespace TenderPhase1.Dispatch

open Jobs Transition

/-- The script runs `start_job` while no other executor is past its own. -/
def ScriptStartsAlone (state : Execution) (event : ExecEvent) : Prop :=
  ∀ executor args now, event = .start executor args now → state.isScript executor →
    ∀ other, ¬ (state.executor other).engaged

/-- The executors past `start_job` have moved the job on, there is one of them at most, and it
is the one that launched. -/
structure SingleExecutor (state : Execution) : Prop where
  past_pending : ∀ executor, (state.executor executor).engaged → state.row.stored.status ≠ .pending
  unique : ∀ executor other, (state.executor executor).engaged → (state.executor other).engaged →
    executor = other
  launches : state.launches = 0 ∨
    state.launches = 1 ∧ ∃ executor, state.executor executor = .launched

theorem not_engaged_initial (origin : Origin) (job : CrawlJob) (executor : ℕ) :
    ¬ ((Execution.initial origin job).executor executor).engaged := by
  simp only [Execution.initial]
  split <;> decide

theorem singleExecutor_initial (origin : Origin) (job : CrawlJob) :
    SingleExecutor (.initial origin job) where
  past_pending executor h := absurd h (not_engaged_initial origin job executor)
  unique executor _ h := absurd h (not_engaged_initial origin job executor)
  launches := Or.inl rfl

section Steps

variable {maxDispatchAttempts : ℕ} {state : Execution} {event : ExecEvent} {executor : ℕ}

/-- An executor comes past `start_job` by starting a pending job, or by being the script. -/
theorem engaged_step (h : ((state.step maxDispatchAttempts event).executor executor).engaged) :
    (state.executor executor).engaged ∨
      ∃ args now, event = .start executor args now ∧ state.executor executor = .spawned ∧
        (state.isScript executor ∨ state.row.stored.status = .pending) := by
  by_cases henabled : state.enabled event
  · rw [step_of_enabled henabled] at h
    cases event with
    | spawned dispatcher other | invoked other | executorRaised other =>
      have h : (Function.update state.executor other _ executor).engaged := h
      by_cases hother : executor = other
      · rw [hother, Function.update_self] at h
        cases h
      · rw [Function.update_of_ne hother] at h
        exact Or.inl h
    | launch other =>
      left
      have h : (Function.update state.executor other .launched executor).engaged := h
      by_cases hother : executor = other
      · have hstarted : state.executor other = .started := of_decide_eq_true henabled
        rw [hother, hstarted]
        rfl
      · rwa [Function.update_of_ne hother] at h
    | start other args now =>
      have h : (Function.update state.executor other _ executor).engaged := h
      by_cases hother : executor = other
      · subst hother
        rw [Function.update_self] at h
        refine Or.inr ⟨args, now, rfl, of_decide_eq_true henabled, ?_⟩
        split at h
        · rename_i hgo
          rw [Bool.or_eq_true, updated_start_iff] at hgo
          exact hgo
        · cases h
      · rw [Function.update_of_ne hother] at h
        exact Or.inl h
    | claim | spawnFailed | readFailure | commitFailure | dispatcherRaised | read | commit | rollback =>
      exact Or.inl h
  · rw [step_of_not_enabled henabled] at h
    exact Or.inl h

/-- An executor that has launched its spider has launched it for good. -/
theorem launched_step (h : state.executor executor = .launched) :
    (state.step maxDispatchAttempts event).executor executor = .launched := by
  by_cases henabled : state.enabled event
  · rw [step_of_enabled henabled]
    have hne {other : ℕ} (hpc : state.executor other ≠ .launched) (pc : ExecutorPc) :
        Function.update state.executor other pc executor = .launched := by
      have hother : executor ≠ other := fun heq ↦ hpc (heq ▸ h)
      rwa [Function.update_of_ne hother]
    cases event with
    | spawned dispatcher other =>
      have habsent : state.executor other = .absent := by
        simp only [Execution.enabled, Bool.and_eq_true, decide_eq_true_eq] at henabled
        exact henabled.2
      exact hne (by rw [habsent]; nofun) _
    | invoked other =>
      have habsent : state.executor other = .absent := of_decide_eq_true henabled
      exact hne (by rw [habsent]; nofun) _
    | start other args now =>
      have hspawned : state.executor other = .spawned := of_decide_eq_true henabled
      exact hne (by rw [hspawned]; nofun) _
    | launch other =>
      have hstarted : state.executor other = .started := of_decide_eq_true henabled
      exact hne (by rw [hstarted]; nofun) _
    | executorRaised other =>
      have hrunning : state.executor other = .spawned ∨ state.executor other = .started := by
        simpa [Execution.enabled] using henabled
      rcases hrunning with hpc | hpc <;> exact hne (by rw [hpc]; nofun) _
    | claim | spawnFailed | readFailure | commitFailure | dispatcherRaised | read | commit | rollback =>
      exact h
  · rwa [step_of_not_enabled henabled]

theorem launches_step (maxDispatchAttempts : ℕ) (state : Execution) (event : ExecEvent) :
    (state.step maxDispatchAttempts event).launches = state.launches ∨
      ∃ executor, state.executor executor = .started ∧
        (state.step maxDispatchAttempts event).executor executor = .launched ∧
        (state.step maxDispatchAttempts event).launches = state.launches + 1 := by
  by_cases henabled : state.enabled event
  · rw [step_of_enabled henabled]
    cases event with
    | launch executor =>
      exact Or.inr ⟨executor, of_decide_eq_true henabled, Function.update_self .., rfl⟩
    | _ => exact Or.inl rfl
  · exact Or.inl (by rw [step_of_not_enabled henabled])

end Steps

/-- One executor at most gets past the pending job, as long as the script starts it alone. -/
theorem singleExecutor_step (maxDispatchAttempts : ℕ) (state : Execution) (event : ExecEvent)
    (hinv : SingleExecutor state) (halone : ScriptStartsAlone state event) :
    SingleExecutor (state.step maxDispatchAttempts event) where
  past_pending executor h := by
    intro hpending
    rcases engaged_step h with hbefore | ⟨args, now, rfl, hspawned, -⟩
    · exact hinv.past_pending executor hbefore (pending_of_pending_exec_step hpending)
    · have henabled : state.enabled (.start executor args now) := decide_eq_true hspawned
      rw [step_of_enabled henabled] at hpending
      exact status_start_ne_pending state.row args now hpending
  unique executor other h hother := by
    -- whoever is newly past `start_job` found nobody else there
    have hnew {fresh old : ℕ} {args : StartArgs} {now : Instant} (hevent : event = .start fresh args now)
        (hgo : state.isScript fresh ∨ state.row.stored.status = .pending)
        (hold : (state.executor old).engaged) : False := by
      rcases hgo with hscript | hpending
      · exact halone fresh args now hevent hscript old hold
      · exact hinv.past_pending old hold hpending
    rcases engaged_step h with hbefore | ⟨args, now, hevent, -, hgo⟩ <;>
      rcases engaged_step hother with hotherBefore | ⟨args', now', hotherEvent, -, hotherGo⟩
    · exact hinv.unique executor other hbefore hotherBefore
    · exact (hnew hotherEvent hotherGo hbefore).elim
    · exact (hnew hevent hgo hotherBefore).elim
    · rw [hevent] at hotherEvent
      injection hotherEvent
  launches := by
    rcases launches_step maxDispatchAttempts state event with hsame | ⟨executor, hstarted, hlaunched, hsucc⟩
    · rw [hsame]
      apply hinv.launches.imp_right
      rintro ⟨hone, launcher, hlauncher⟩
      exact ⟨hone, launcher, launched_step hlauncher⟩
    · have hzero : state.launches = 0 := by
        apply hinv.launches.resolve_right
        rintro ⟨-, launcher, hlauncher⟩
        have heq := hinv.unique executor launcher (by rw [hstarted]; rfl) (by rw [hlauncher]; rfl)
        rw [heq, hlauncher] at hstarted
        cases hstarted
      exact Or.inr ⟨by rw [hsucc, hzero], executor, hlaunched⟩

theorem launches_le_one_of_singleExecutor {state : Execution} (h : SingleExecutor state) :
    state.launches ≤ 1 := by
  rcases h.launches with hzero | ⟨hone, -⟩
  · rw [hzero]
    exact Nat.zero_le 1
  · rw [hone]

/-- Over a whole table, in every state of every run in which scripts start their jobs alone, no
job has had more than one spider. -/
theorem launches_le_one (maxDispatchAttempts : ℕ) (origin : ℕ → Origin) (job : ℕ → CrawlJob)
    (events : List (ℕ × ExecEvent))
    (h : Along (indexedStep (Execution.step maxDispatchAttempts))
      (fun table event ↦ ScriptStartsAlone (table event.1) event.2)
      (fun id ↦ .initial (origin id) (job id)) events) (id : ℕ) :
    (events.foldl (indexedStep (Execution.step maxDispatchAttempts))
      (fun id ↦ .initial (origin id) (job id)) id).launches ≤ 1 := by
  rw [foldl_indexedStep_apply]
  have halone := along_eventsOf _ events id h
  have hinitial := singleExecutor_initial (origin id) (job id)
  have hfinal := invariant_foldl (singleExecutor_step maxDispatchAttempts) _ (eventsOf id events)
    hinitial halone
  exact launches_le_one_of_singleExecutor hfinal

/-- The script starts and launches its job before a sweep comes by and claims nothing. -/
def scriptFirst : List (ℕ × ExecEvent) :=
  [(7, .start 0 {} 0), (7, .claim 1 0), (7, .launch 0)]

theorem launches_le_one_scriptFirst :
    (scriptFirst.foldl (indexedStep (Execution.step 3))
      (fun id ↦ .initial .script (.created id 1 {} 0 0)) 7).launches ≤ 1 := by
  apply launches_le_one 3 (fun _ ↦ .script) (fun id ↦ .created id 1 {} 0 0)
  refine ⟨?_, fun _ _ _ h ↦ (nomatch h), fun _ _ _ h ↦ (nomatch h), trivial⟩
  intro executor args now _ _ other
  exact not_engaged_initial .script (.created 7 1 {} 0 0) other

/-- A sweep claims the script's job and spawns worker 1, which starts and launches it; the
script's own start then matches nothing, and the script launches all the same. -/
def workerBeforeScript : List (ℕ × ExecEvent) :=
  [(7, .claim 1 0), (7, .spawned 1 1), (7, .start 1 {} 0), (7, .launch 1), (7, .start 0 {} 0), (7, .launch 0)]

theorem launches_workerBeforeScript :
    ¬ (workerBeforeScript.foldl (indexedStep (Execution.step 3))
      (fun id ↦ .initial .script (.created id 1 {} 0 0)) 7).launches ≤ 1 := by
  decide +kernel

end TenderPhase1.Dispatch
