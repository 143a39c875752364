import TenderPhase1.Dispatch.Processes

/-!
# Recording a dispatch failure

A dispatcher whose attempts have all raised calls `fail_job_if_active`, in a
transaction of its own that accepts a running job as well as a pending one. By
then its lease may be over and the job in other hands. The failure lands on a
pending job as long as the transaction does not read a running job, and nobody
starts or ends the job between its read and its commit.
-/

namespace TenderPhase1.Dispatch

open Jobs Transition

/-- A dispatcher that records its failure does so on a job that is still pending. -/
def FailsPendingOnly (state : Execution) (event : ExecEvent) : Prop :=
  ∀ dispatcher held, event = .commitFailure dispatcher → state.enabled event →
    state.row.inFlight (.dispatcher dispatcher) = some held →
      held.current.status ≠ held.loaded.status → state.row.stored.status = .pending

/-- The dispatcher has a transaction open that is going to fail a pending job. -/
def Execution.failing (state : Execution) (dispatcher : ℕ) : Prop :=
  ∃ held, state.row.inFlight (.dispatcher dispatcher) = some held ∧ held.loaded.status = .pending

/-- No dispatcher reads a running job to fail it, and while it is failing a pending one nobody
else starts the job or commits its end. -/
structure Undisturbed (state : Execution) (event : ExecEvent) : Prop where
  reads : ∀ dispatcher args now, event = .readFailure dispatcher args now → state.enabled event →
    state.row.stored.status ≠ .running
  starts : ∀ executor args now, event = .start executor args now → state.enabled event →
    state.row.stored.status = .pending → ∀ dispatcher, ¬ state.failing dispatcher
  ends : ∀ session held, event.transaction = some (.commit session) → state.enabled event →
    state.row.inFlight session = some held → held.current.status ≠ held.loaded.status →
      ∀ dispatcher, session ≠ .dispatcher dispatcher → ¬ state.failing dispatcher

/-- Every open failure transaction has found a job that is still pending, or one already ended. -/
def FailuresPending (state : Execution) : Prop :=
  ∀ dispatcher held, state.row.inFlight (.dispatcher dispatcher) = some held →
    held.loaded.status = .pending ∧ state.row.stored.status = .pending ∨ held.loaded.status.isFinal

theorem failuresPending_initial (origin : Origin) (job : CrawlJob) :
    FailuresPending (.initial origin job) :=
  fun _ _ h ↦ nomatch h

/-- Only `readFailure` reads for a dispatcher. -/
theorem transaction_eq_read_dispatcher {event : ExecEvent} {dispatcher : ℕ} {op : JobOp} {now : Instant}
    (h : event.transaction = some (.read (.dispatcher dispatcher) op now)) :
    ∃ args, event = .readFailure dispatcher args now := by
  cases event <;> simp_all [ExecEvent.transaction]

theorem transaction_eq_start {event : ExecEvent} {args : StartArgs} {now : Instant}
    (h : event.transaction = some (.start args now)) : ∃ executor args, event = .start executor args now := by
  cases event <;> simp_all [ExecEvent.transaction]

/-- While a dispatcher is failing a pending job, an undisturbed event leaves the job pending,
unless it commits that very failure. -/
theorem pending_step_of_failing {state : Execution} {event : ExecEvent} {transaction : JobEvent Session}
    {dispatcher : ℕ} (hundisturbed : Undisturbed state event) (henabled : state.enabled event)
    (htransaction : event.transaction = some transaction) (hfailing : state.failing dispatcher)
    (hother : transaction ≠ .commit (.dispatcher dispatcher)) (hpending : state.row.stored.status = .pending) :
    (state.row.step transaction).stored.status = .pending := by
  rcases stored_step_cases state.row transaction with h | ⟨_, _, _, rfl, h⟩ | ⟨args, now, rfl, h⟩ |
    ⟨session, held, rfl, hheld, h⟩
  · rwa [h]
  · obtain ⟨-, -, hclaimed⟩ := claimPendingJobInSession_eq_some h
    rwa [hclaimed]
  · obtain ⟨executor, args, rfl⟩ := transaction_eq_start htransaction
    exact absurd hfailing (hundisturbed.starts executor args now rfl henabled hpending dispatcher)
  · have hsession : session ≠ .dispatcher dispatcher := fun heq ↦ hother (by rw [heq])
    have hkept : held.current.status = held.loaded.status := by
      by_contra hchanged
      exact hundisturbed.ends session held htransaction henabled hheld hchanged dispatcher hsession hfailing
    rw [h, CrawlJob.writeBack_status, hkept, ObjectSession.mergeColumn_unchanged]
    exact hpending

/-- Undisturbed steps keep the failures of a dispatch on pending jobs. -/
theorem failuresPending_step (maxDispatchAttempts : ℕ) (state : Execution) (event : ExecEvent)
    (hinv : FailuresPending state) (hundisturbed : Undisturbed state event) :
    FailuresPending (state.step maxDispatchAttempts event) := by
  intro dispatcher held hheld
  rcases row_step maxDispatchAttempts state event with hrow | ⟨transaction, henabled, htransaction, hrow⟩
  · rw [hrow] at hheld ⊢
    exact hinv dispatcher held hheld
  · rw [hrow] at hheld ⊢
    rcases inFlight_step hheld with hbefore | ⟨rfl, hloaded, hstored⟩
    · rcases hinv dispatcher held hbefore with ⟨hloaded, hpending⟩ | hfinal
      · -- its own commit would have closed the transaction
        have hother : transaction ≠ .commit (.dispatcher dispatcher) := by
          rintro rfl
          rw [step_commit_of_inFlight hbefore] at hheld
          simp at hheld
        have hfailing : state.failing dispatcher := ⟨held, hbefore, hloaded⟩
        exact Or.inl ⟨hloaded,
          pending_step_of_failing hundisturbed henabled htransaction hfailing hother hpending⟩
      · exact Or.inr hfinal
    · obtain ⟨args, rfl⟩ := transaction_eq_read_dispatcher htransaction
      have hnotRunning := hundisturbed.reads dispatcher args held.now rfl henabled
      rw [hstored, hloaded]
      cases hstatus : state.row.stored.status with
      | pending => exact Or.inl ⟨rfl, rfl⟩
      | running => exact absurd hstatus hnotRunning
      | succeeded | failed | partially => exact Or.inr rfl

theorem failsPendingOnly_of_failuresPending {state : Execution} (event : ExecEvent)
    (hinv : FailuresPending state) : FailsPendingOnly state event := by
  intro dispatcher held _ _ hheld hchanged
  rcases hinv dispatcher held hheld with ⟨-, hpending⟩ | hfinal
  · exact hpending
  · obtain ⟨hactive, -⟩ := held.status_cases.resolve_left hchanged
    simp [hfinal] at hactive

/-- In every run that leaves dispatchers undisturbed while they record a failure, they record it
on a pending job only. -/
theorem dispatch_failure_on_pending_job (maxDispatchAttempts : ℕ) (origin : Origin) (job : CrawlJob)
    (events : List ExecEvent)
    (h : Along (Execution.step maxDispatchAttempts) Undisturbed (.initial origin job) events) :
    Along (Execution.step maxDispatchAttempts) FailsPendingOnly (.initial origin job) events :=
  along_of_invariant (failuresPending_step maxDispatchAttempts)
    (fun _ event hinv _ ↦ failsPendingOnly_of_failuresPending event hinv) _ events
    (failuresPending_initial origin job) h

/-! ## A dispatcher on its own -/

theorem undisturbed_claim (state : Execution) (dispatcher : ℕ) (now : Instant) :
    Undisturbed state (.claim dispatcher now) where
  reads _ _ _ h := nomatch h
  starts _ _ _ h := nomatch h
  ends _ _ h := by simp [ExecEvent.transaction] at h

theorem undisturbed_spawnFailed (state : Execution) (dispatcher : ℕ) :
    Undisturbed state (.spawnFailed dispatcher) where
  reads _ _ _ h := nomatch h
  starts _ _ _ h := nomatch h
  ends _ _ h := by simp [ExecEvent.transaction] at h

theorem undisturbed_readFailure {state : Execution} (h : state.row.stored.status ≠ .running)
    (dispatcher : ℕ) (args : FinishArgs) (now : Instant) :
    Undisturbed state (.readFailure dispatcher args now) where
  reads _ _ _ _ _ := h
  starts _ _ _ h := nomatch h
  ends _ _ h := by simp [ExecEvent.transaction] at h

theorem undisturbed_commitFailure {state : Execution} {dispatcher : ℕ}
    (h : ∀ other, other ≠ dispatcher → ¬ state.failing other) :
    Undisturbed state (.commitFailure dispatcher) where
  reads _ _ _ h := nomatch h
  starts _ _ _ h := nomatch h
  ends session _ hsession _ _ _ other hother := by
    obtain rfl : .dispatcher dispatcher = session := by simpa [ExecEvent.transaction] using hsession
    exact h other fun heq ↦ hother (by rw [heq])

/-- A dispatcher's failure transaction is opened by its own read only. -/
theorem failing_of_failing_step {maxDispatchAttempts : ℕ} {state : Execution} {event : ExecEvent}
    {dispatcher : ℕ} (h : (state.step maxDispatchAttempts event).failing dispatcher)
    (hevent : ∀ args now, event ≠ .readFailure dispatcher args now) : state.failing dispatcher := by
  obtain ⟨held, hheld, hloaded⟩ := h
  rcases row_step maxDispatchAttempts state event with hrow | ⟨transaction, -, htransaction, hrow⟩
  · rw [hrow] at hheld
    exact ⟨held, hheld, hloaded⟩
  · rw [hrow] at hheld
    rcases inFlight_step hheld with hbefore | ⟨rfl, -⟩
    · exact ⟨held, hbefore, hloaded⟩
    · obtain ⟨args, rfl⟩ := transaction_eq_read_dispatcher htransaction
      exact absurd rfl (hevent args held.now)

/-- A dispatcher claims the job, cannot spawn a worker and records that. -/
def abandonedDispatch : List ExecEvent :=
  [.claim 0 0, .spawnFailed 0, .readFailure 0 {} 0, .commitFailure 0]

theorem dispatch_failure_on_pending_job_abandonedDispatch :
    Along (Execution.step 1) FailsPendingOnly (.initial .queued (.created 1 1 {} 0 0)) abandonedDispatch := by
  apply dispatch_failure_on_pending_job
  refine ⟨undisturbed_claim _ 0 0, undisturbed_spawnFailed _ 0,
    undisturbed_readFailure (by decide) 0 {} 0, undisturbed_commitFailure ?_, trivial⟩
  intro other hother hfailing
  have hread := failing_of_failing_step hfailing (by simpa using hother.symm)
  have hclaimed := failing_of_failing_step (failing_of_failing_step hread (by simp)) (by simp)
  obtain ⟨held, hheld, -⟩ := hclaimed
  cases hheld

/-- The first dispatcher's worker starts only after the second dispatcher has claimed the job on
an expired lease; the second one cannot spawn anything and fails the running job. -/
def slowWorker : List ExecEvent :=
  [.claim 0 0, .spawned 0 0, .claim 1 (seconds 121), .start 0 {} (seconds 122), .spawnFailed 1, .spawnFailed 1,
    .spawnFailed 1, .readFailure 1 {} (seconds 124), .commitFailure 1]

theorem dispatch_failure_on_running_job_slowWorker :
    ¬ Along (Execution.step 3) FailsPendingOnly (.initial .queued (.created 1 1 {} 0 0)) slowWorker := by
  intro h
  have hcommit := h.2.2.2.2.2.2.2.2.1 1 _ rfl rfl rfl (by decide)
  exact absurd hcommit (by decide)

end TenderPhase1.Dispatch
