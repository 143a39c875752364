import TenderPhase1.Jobs.Lifecycle
import TenderPhase1.Foundation.Transition
import Mathlib.Logic.Function.Basic

/-!
# Interleaved transactions on one job

Workers, dispatchers, the scheduler and the admin pages all write the same row.
A claim and a start are one UPDATE each. Every other operation is a transaction
that reads the row, works on its own object and commits later; the commit names
only the columns the object changed, and it overwrites them whatever has been
committed in between. An interleaving is any list of such events. A transaction
that raises, or whose session is closed without a commit, leaves no trace.
-/

namespace TenderPhase1.Jobs

open ObjectSession Transition

/-- The operations that read the row and assign to the loaded object. -/
inductive JobOp where
  | heartbeat (heartbeatAt : Option Instant) (leaseSeconds : ℤ)
  | recordStats (deltas : JobCounters)
  | finish (args : FinishArgs)
  | failIfActive (args : FinishArgs)
  | reconcile

/-- What the operation leaves in the loaded object. A reconcile that does not select the row
does not load it either; it then changes nothing. -/
def JobOp.perform (op : JobOp) (job : CrawlJob) (now : Instant) : Except ServiceError CrawlJob :=
  match op with
  | .heartbeat heartbeatAt leaseSeconds => heartbeatJobInSession job heartbeatAt leaseSeconds now
  | .recordStats deltas => recordStatsInSession job deltas
  | .finish args => finishJobInSession job args now
  | .failIfActive args => failJobIfActiveInSession job args now
  | .reconcile => if job.reconcilable now then expireJob job now else .ok job

/-- A transaction between its read and its commit: the row as loaded, and the object. -/
structure InFlight where
  op : JobOp
  now : Instant
  loaded : CrawlJob
  current : CrawlJob
  performed : op.perform loaded now = .ok current

/-- Read the row and run the operation on it; an exception ends the transaction at once. -/
def InFlight.load (op : JobOp) (now : Instant) (stored : CrawlJob) : Option InFlight :=
  match h : op.perform stored now with
  | .ok current => some ⟨op, now, stored, current, h⟩
  | .error _ => none

/-- The committed row and the open transaction of every session, named by a `Txn`. -/
structure JobState (Txn : Type) where
  stored : CrawlJob
  inFlight : Txn → Option InFlight

def JobState.initial {Txn : Type} (job : CrawlJob) : JobState Txn := ⟨job, fun _ ↦ none⟩

inductive JobEvent (Txn : Type) where
  | claim (pickedAt : Option Instant) (leaseSeconds : ℤ) (now : Instant)
  | start (args : StartArgs) (now : Instant)
  | read (txn : Txn) (op : JobOp) (now : Instant)
  | commit (txn : Txn)
  | rollback (txn : Txn)

/-- The row after a conditional UPDATE that may match nothing, or raise before it is sent. -/
def JobState.update {Txn : Type} (state : JobState Txn) (result : Except ServiceError (Option CrawlJob)) :
    JobState Txn :=
  match result with
  | .ok (some job) => { state with stored := job }
  | .ok none | .error _ => state

variable {Txn : Type} [DecidableEq Txn]

def JobState.step (state : JobState Txn) : JobEvent Txn → JobState Txn
  | .claim pickedAt leaseSeconds now =>
      state.update (claimPendingJobInSession state.stored pickedAt now leaseSeconds)
  | .start args now => state.update (startJobInSession state.stored args now)
  | .read txn op now =>
      match state.inFlight txn with
      | some _ => state
      | none => { state with inFlight := Function.update state.inFlight txn (InFlight.load op now state.stored) }
  | .commit txn =>
      match state.inFlight txn with
      | some held =>
          { stored := CrawlJob.writeBack held.loaded held.current state.stored
            inFlight := Function.update state.inFlight txn none }
      | none => state
  | .rollback txn => { state with inFlight := Function.update state.inFlight txn none }

/-! ## What an open transaction can hold -/

theorem InFlight.load_eq_some {op : JobOp} {now : Instant} {stored : CrawlJob} {txn : InFlight}
    (h : InFlight.load op now stored = some txn) :
    txn.op = op ∧ txn.now = now ∧ txn.loaded = stored := by
  unfold InFlight.load at h
  split at h
  · obtain rfl := Option.some.inj h
    exact ⟨rfl, rfl, rfl⟩
  · cases h

def JobOp.mayEnd : JobOp → Bool
  | .finish _ | .failIfActive _ | .reconcile => true
  | .heartbeat _ _ | .recordStats _ => false

/-- The three things an operation can do to status and lease: nothing, renew the lease of an
active job, or finalise the job and drop its lease. -/
inductive JobOp.Effect (op : JobOp) (now : Instant) (loaded current : CrawlJob) : Prop where
  | untouched (status : current.status = loaded.status) (timeoutAt : current.timeoutAt = loaded.timeoutAt)
      (leaseExpiresAt : current.leaseExpiresAt = loaded.leaseExpiresAt)
  | renewed (heartbeatAt : Option Instant) (leaseSeconds : ℤ) (operation : op = .heartbeat heartbeatAt leaseSeconds)
      (active : loaded.status.isActive) (status : current.status = loaded.status)
      (timeoutAt : current.timeoutAt = some (heartbeatAt.getD now + seconds leaseSeconds))
      (leaseExpiresAt : current.leaseExpiresAt = some (heartbeatAt.getD now + seconds leaseSeconds))
  | finalised (mayEnd : op.mayEnd) (final : current.status.isFinal) (allowed : current.status ∈ allowedTransitions loaded.status)
      (selected : op = .reconcile → loaded.reconcilable now)
      (timeoutAt : current.timeoutAt = none) (leaseExpiresAt : current.leaseExpiresAt = none)

theorem JobOp.Effect.of_finished {op : JobOp} {now finishedAt : Instant} {loaded : CrawlJob} {args : FinishArgs}
    {status : JobStatus} (final : status.isFinal) (allowed : status ∈ allowedTransitions loaded.status)
    (mayEnd : op.mayEnd) (hop : op ≠ .reconcile) :
    op.Effect now loaded (loaded.finished args status finishedAt) :=
  .finalised mayEnd final allowed (fun h ↦ absurd h hop) rfl rfl

/-- Each operation has one of the three effects. -/
theorem JobOp.perform_effect {op : JobOp} {now : Instant} {loaded current : CrawlJob}
    (h : op.perform loaded now = .ok current) : op.Effect now loaded current := by
  cases op with
  | heartbeat heartbeatAt leaseSeconds =>
    rcases heartbeatJobInSession_eq_ok h with ⟨-, rfl⟩ | ⟨hactive, hstatus, htimeout, hlease⟩
    · exact .untouched rfl rfl rfl
    · exact .renewed heartbeatAt leaseSeconds rfl hactive hstatus htimeout hlease
  | recordStats deltas =>
    obtain rfl := recordStatsInSession_eq_ok h
    exact .untouched rfl rfl rfl
  | finish args =>
    obtain ⟨status, -, hfinal, hallowed, rfl⟩ := finishJobInSession_eq_ok.mp h
    exact .of_finished hfinal hallowed rfl nofun
  | failIfActive args =>
    simp only [JobOp.perform] at h
    by_cases hfinal : loaded.status.isFinal
    · rw [failJobIfActiveInSession_final args now hfinal] at h
      obtain rfl := Except.ok.inj h
      exact .untouched rfl rfl rfl
    · have hactive : loaded.status.isActive := by simpa using hfinal
      rw [failJobIfActiveInSession_active args now hactive] at h
      obtain rfl := Except.ok.inj h
      exact .of_finished rfl (failed_mem_allowedTransitions hactive) rfl nofun
  | reconcile =>
    simp only [JobOp.perform] at h
    split at h
    · rename_i hselected
      obtain ⟨hallowed, hstatus, htimeout, hlease, -⟩ := expireJob_eq_ok h
      exact .finalised rfl (by rw [hstatus]; rfl) (by rwa [hstatus]) (fun _ ↦ hselected) htimeout hlease
    · obtain rfl := Except.ok.inj h
      exact .untouched rfl rfl rfl

theorem InFlight.effect (txn : InFlight) : txn.op.Effect txn.now txn.loaded txn.current :=
  JobOp.perform_effect txn.performed

/-- An open transaction keeps the status it loaded or finalises an active job. -/
theorem InFlight.status_cases (txn : InFlight) :
    txn.current.status = txn.loaded.status ∨
      txn.loaded.status.isActive ∧ txn.current.status.isFinal ∧
        txn.current.status ∈ allowedTransitions txn.loaded.status := by
  cases txn.effect with
  | untouched status => exact Or.inl status
  | renewed _ _ _ _ status => exact Or.inl status
  | finalised _ final allowed =>
    by_cases hloaded : txn.loaded.status.isFinal
    · left
      revert hloaded allowed
      cases txn.loaded.status <;> simp [allowedTransitions, JobStatus.isFinal]
    · exact Or.inr ⟨by simpa using hloaded, final, allowed⟩

/-- Writing an object back keeps the stored status, or ends the job. -/
theorem InFlight.status_writeBack_cases (txn : InFlight) (stored : CrawlJob) :
    (CrawlJob.writeBack txn.loaded txn.current stored).status = stored.status ∨
      txn.current.status ≠ txn.loaded.status ∧ txn.current.status.isFinal ∧
        (CrawlJob.writeBack txn.loaded txn.current stored).status = txn.current.status := by
  rw [CrawlJob.writeBack_status]
  rcases mergeColumn_cases txn.loaded.status txn.current.status stored.status with
    ⟨hkept, -⟩ | ⟨hwritten, hchanged⟩
  · exact Or.inl hkept
  · obtain ⟨-, hfinal, -⟩ := txn.status_cases.resolve_left hchanged
    exact Or.inr ⟨hchanged, hfinal, hwritten⟩

/-- The job has ended: it is in one of the final statuses. -/
def JobState.ended {Txn : Type} (state : JobState Txn) : Prop := state.stored.status.isFinal

def JobState.pastPending {Txn : Type} (state : JobState Txn) : Prop := state.stored.status ≠ .pending

/-- The state once the open transaction is written back. -/
def JobState.writeBack {Txn : Type} (state : JobState Txn) (held : InFlight) : JobState Txn :=
  { state with stored := CrawlJob.writeBack held.loaded held.current state.stored }

theorem ended_writeBack {Txn : Type} {state : JobState Txn} (h : state.ended) (held : InFlight) :
    (state.writeBack held).ended := by
  unfold JobState.ended at *
  rcases held.status_writeBack_cases state.stored with hkept | ⟨-, hfinal, hwritten⟩
  · exact hkept ▸ h
  · exact hwritten ▸ hfinal

theorem pastPending_writeBack {Txn : Type} {state : JobState Txn} (h : state.pastPending) (held : InFlight) :
    (state.writeBack held).pastPending := by
  intro hpending
  change (CrawlJob.writeBack held.loaded held.current state.stored).status = .pending at hpending
  rcases held.status_writeBack_cases state.stored with hkept | ⟨-, hfinal, hwritten⟩
  · exact h (hkept ▸ hpending)
  · rw [← hwritten, hpending] at hfinal
    cases hfinal

/-! ## Steps -/

section Steps

variable {state : JobState Txn} {txn : Txn} {held : InFlight}

theorem step_commit_of_inFlight (h : state.inFlight txn = some held) :
    state.step (.commit txn) =
      { stored := CrawlJob.writeBack held.loaded held.current state.stored
        inFlight := Function.update state.inFlight txn none } := by
  simp [JobState.step, h]

theorem step_commit_of_none (h : state.inFlight txn = none) : state.step (.commit txn) = state := by
  simp [JobState.step, h]

theorem inFlight_start (args : StartArgs) (now : Instant) :
    (state.step (.start args now)).inFlight = state.inFlight := by
  simp only [JobState.step, JobState.update]
  split <;> rfl

theorem inFlight_read_self (h : state.inFlight txn = none) (op : JobOp) (now : Instant) :
    (state.step (.read txn op now)).inFlight txn = InFlight.load op now state.stored := by
  simp [JobState.step, h]

theorem inFlight_read_of_ne {other : Txn} (h : other ≠ txn) (op : JobOp) (now : Instant) :
    (state.step (.read txn op now)).inFlight other = state.inFlight other := by
  simp only [JobState.step]
  split
  · rfl
  · exact Function.update_of_ne h _ _

/-- A transaction open after a step was open before it, or the step read the stored row. -/
theorem inFlight_step {event : JobEvent Txn} (h : (state.step event).inFlight txn = some held) :
    state.inFlight txn = some held ∨
      event = .read txn held.op held.now ∧ held.loaded = state.stored ∧
        (state.step event).stored = state.stored := by
  cases event with
  | claim pickedAt leaseSeconds now =>
    left
    simp only [JobState.step, JobState.update] at h
    split at h <;> exact h
  | start args now =>
    rw [inFlight_start] at h
    exact Or.inl h
  | read other op now =>
    by_cases hother : txn = other
    · subst hother
      cases hbefore : state.inFlight txn with
      | some reader =>
        left
        simpa [JobState.step, hbefore] using h
      | none =>
        rw [inFlight_read_self hbefore] at h
        obtain ⟨rfl, rfl, hloaded⟩ := InFlight.load_eq_some h
        exact Or.inr ⟨rfl, hloaded, by simp [JobState.step, hbefore]⟩
    · rw [inFlight_read_of_ne hother] at h
      exact Or.inl h
  | commit other =>
    left
    simp only [JobState.step] at h
    split at h
    · have h : Function.update state.inFlight other none txn = some held := h
      by_cases hother : txn = other
      · simp [hother] at h
      · rwa [Function.update_of_ne hother] at h
    · exact h
  | rollback other =>
    left
    simp only [JobState.step] at h
    by_cases hother : txn = other
    · simp [hother] at h
    · rwa [Function.update_of_ne hother] at h

end Steps

/-- The row, when it moves at all: a claim or start won, or a transaction was written back. -/
theorem stored_step_cases (state : JobState Txn) (event : JobEvent Txn) :
    (state.step event).stored = state.stored ∨
    (∃ pickedAt leaseSeconds now, event = .claim pickedAt leaseSeconds now ∧
      claimPendingJobInSession state.stored pickedAt now leaseSeconds =
        .ok (some (state.step event).stored)) ∨
    (∃ args now, event = .start args now ∧
      startJobInSession state.stored args now = .ok (some (state.step event).stored)) ∨
    (∃ txn held, event = .commit txn ∧ state.inFlight txn = some held ∧
      (state.step event).stored = CrawlJob.writeBack held.loaded held.current state.stored) := by
  cases event with
  | claim pickedAt leaseSeconds now =>
    simp only [JobState.step, JobState.update]
    split
    · rename_i job heq
      exact Or.inr (Or.inl ⟨pickedAt, leaseSeconds, now, rfl, heq⟩)
    · exact Or.inl rfl
    · exact Or.inl rfl
  | start args now =>
    simp only [JobState.step, JobState.update]
    split
    · rename_i job heq
      exact Or.inr (Or.inr (Or.inl ⟨args, now, rfl, heq⟩))
    · exact Or.inl rfl
    · exact Or.inl rfl
  | read txn op now =>
    left
    simp only [JobState.step]
    split <;> rfl
  | commit txn =>
    cases h : state.inFlight txn with
    | some held => exact Or.inr (Or.inr (Or.inr ⟨txn, held, rfl, h, by rw [step_commit_of_inFlight h]⟩))
    | none => exact Or.inl (by rw [step_commit_of_none h])
  | rollback txn => exact Or.inl rfl

/-- The status moves when a start wins, or when a commit writes a status its object was given. -/
theorem status_step_cases (state : JobState Txn) (event : JobEvent Txn) :
    (state.step event).stored.status = state.stored.status ∨
    state.stored.status = .pending ∧ (state.step event).stored.status = .running ∨
    (∃ txn held, event = .commit txn ∧ state.inFlight txn = some held ∧
      held.current.status ≠ held.loaded.status ∧
      (state.step event).stored.status = held.current.status) := by
  rcases stored_step_cases state event with h | ⟨_, _, _, -, h⟩ | ⟨_, _, -, h⟩ | ⟨txn, held, rfl, hheld, h⟩
  · exact Or.inl (congrArg CrawlJob.status h)
  · obtain ⟨-, -, hclaimed⟩ := claimPendingJobInSession_eq_some h
    exact Or.inl (by rw [hclaimed])
  · obtain ⟨hpending, hrunning, -⟩ := startJobInSession_eq_some h
    exact Or.inr (Or.inl ⟨hpending, hrunning⟩)
  · have hstatus := congrArg CrawlJob.status h
    rw [CrawlJob.writeBack_status] at hstatus
    rcases mergeColumn_cases held.loaded.status held.current.status state.stored.status with
      ⟨hkept, -⟩ | ⟨hwritten, hchanged⟩
    · exact Or.inl (hstatus.trans hkept)
    · exact Or.inr (Or.inr ⟨txn, held, rfl, hheld, hchanged, hstatus.trans hwritten⟩)

/-- No commit takes the row back to pending. -/
theorem pending_of_pending_step {state : JobState Txn} {event : JobEvent Txn}
    (h : (state.step event).stored.status = .pending) : state.stored.status = .pending := by
  rcases status_step_cases state event with hkept | ⟨hpending, -⟩ | ⟨txn, held, -, -, hchanged, hwritten⟩
  · rwa [hkept] at h
  · exact hpending
  · rcases held.status_cases with hsame | ⟨-, hfinal, -⟩
    · exact absurd hsame hchanged
    · rw [← hwritten, h] at hfinal
      cases hfinal

/-- After an executor has run `start_job` the job is past pending, whether it won or not. -/
theorem status_start_ne_pending (row : JobState Txn) (args : StartArgs) (now : Instant) :
    (row.step (.start (runningStart args) now)).stored.status ≠ .pending := by
  intro hpending
  have hupdated := (updated_start_iff row.stored args now).mpr (pending_of_pending_step hpending)
  cases hresult : startJobInSession row.stored (runningStart args) now with
  | error error => simp [hresult, updated] at hupdated
  | ok result =>
    cases result with
    | none => simp [hresult, updated] at hupdated
    | some started =>
      have hrunning := (startJobInSession_eq_some hresult).2.1
      simp only [JobState.step, JobState.update, hresult] at hpending
      rw [hrunning] at hpending
      cases hpending

/-- Whatever commits, a job that has ended stays ended; the status it ended with may change. -/
theorem ended_step (state : JobState Txn) (event : JobEvent Txn) (h : state.ended) :
    (state.step event).ended := by
  unfold JobState.ended at *
  rcases status_step_cases state event with hkept | ⟨hpending, -⟩ | ⟨txn, held, -, -, hchanged, hwritten⟩
  · rwa [hkept]
  · rw [hpending] at h
    cases h
  · rcases held.status_cases with hsame | ⟨-, hfinal, -⟩
    · exact absurd hsame hchanged
    · rwa [hwritten]

theorem pastPending_step (state : JobState Txn) (event : JobEvent Txn) (h : state.pastPending) :
    (state.step event).pastPending :=
  fun hpending ↦ h (pending_of_pending_step hpending)

theorem ended_foldl (state : JobState Txn) (events : List (JobEvent Txn)) (h : state.ended) :
    (events.foldl JobState.step state).ended := Transition.invariant_run ended_step state events h

theorem pastPending_foldl (state : JobState Txn) (events : List (JobEvent Txn)) (h : state.pastPending) :
    (events.foldl JobState.step state).pastPending := Transition.invariant_run pastPending_step state events h

end TenderPhase1.Jobs
