import TenderPhase1.Jobs.Transactions

/-!
# Dispatchers and executors of one job

The processes that compete for a job. A dispatcher claims the job, tries to spawn
a worker up to `max_dispatch_attempts` times, and records a failure when every
attempt raised. An executor runs `start_job` and then launches a spider: the
detached worker and the scheduler through `_run_existing_crawl_job`, the command
line script through its own `main`. Each database transaction is one event of
`Jobs.Transactions`; between two events of a process anything can happen.
-/

namespace TenderPhase1.Dispatch

open Jobs

/-- The owners of the open transactions: a dispatcher that records a failure, and everyone else
(heartbeats, statistics, finishing, reconciling). -/
inductive Session where
  | dispatcher (dispatcher : ℕ)
  | other (session : ℕ)
  deriving DecidableEq

/-- Where a dispatcher is inside `SubprocessCrawlJobDispatcher.dispatch`. -/
inductive DispatcherPc where
  | ready
  | attempting (attempt : ℕ)
  | abandoning
  | done
  deriving DecidableEq

/-- Where an executor is: its process exists, it is past `start_job`, its spider runs or ran. -/
inductive ExecutorPc where
  | absent
  | spawned
  | started
  | launched
  | stopped
  deriving DecidableEq

def ExecutorPc.engaged : ExecutorPc → Bool
  | .started | .launched => true
  | .absent | .spawned | .stopped => false

/-- Who created the job: a `queue_*` call that leaves it to workers, the scheduler's
`_trigger_crawl`, or `scripts/run_crawl_job.py`. The last two execute it themselves. -/
inductive Origin where
  | queued
  | triggered
  | script
  deriving DecidableEq

structure Execution where
  origin : Origin
  row : JobState Session
  dispatcher : ℕ → DispatcherPc
  executor : ℕ → ExecutorPc
  launches : ℕ

/-- The job just created; executor 0 is its creator, where the creator executes it. -/
def Execution.initial (origin : Origin) (job : CrawlJob) : Execution where
  origin := origin
  row := .initial job
  dispatcher _ := .ready
  executor e := if e = 0 ∧ origin ≠ .queued then .spawned else .absent
  launches := 0

inductive ExecEvent where
  | claim (dispatcher : ℕ) (now : Instant)
  | spawnFailed (dispatcher : ℕ)
  | spawned (dispatcher executor : ℕ)
  | readFailure (dispatcher : ℕ) (args : FinishArgs) (now : Instant)
  | commitFailure (dispatcher : ℕ)
  | dispatcherRaised (dispatcher : ℕ)
  | invoked (executor : ℕ)
  | start (executor : ℕ) (args : StartArgs) (now : Instant)
  | launch (executor : ℕ)
  | executorRaised (executor : ℕ)
  | read (session : ℕ) (op : JobOp) (now : Instant)
  | commit (session : ℕ)
  | rollback (session : ℕ)

/-- `main` of the script is the one executor that does not look at what `start_job` returns. -/
def Execution.isScript (state : Execution) (executor : ℕ) : Bool :=
  executor = 0 && state.origin = .script

/-- The database event behind an event of a process. -/
def ExecEvent.transaction : ExecEvent → Option (JobEvent Session)
  | .claim _ now => some (.claim none defaultPendingLeaseSeconds now)
  | .readFailure dispatcher args now => some (.read (.dispatcher dispatcher) (.failIfActive args) now)
  | .commitFailure dispatcher => some (.commit (.dispatcher dispatcher))
  | .dispatcherRaised dispatcher => some (.rollback (.dispatcher dispatcher))
  | .start _ args now => some (.start (runningStart args) now)
  | .read session op now => some (.read (.other session) op now)
  | .commit session => some (.commit (.other session))
  | .rollback session => some (.rollback (.other session))
  | .spawnFailed _ | .spawned _ _ | .invoked _ | .launch _ | .executorRaised _ => none

def DispatcherPc.isAttempting : DispatcherPc → Bool
  | .attempting _ => true
  | .ready | .abandoning | .done => false

def Execution.enabled (state : Execution) : ExecEvent → Bool
  | .claim dispatcher _ => state.dispatcher dispatcher = .ready
  | .spawnFailed dispatcher => (state.dispatcher dispatcher).isAttempting
  | .spawned dispatcher executor =>
      (state.dispatcher dispatcher).isAttempting && state.executor executor = .absent
  | .readFailure dispatcher _ _ => state.dispatcher dispatcher = .abandoning
  | .commitFailure dispatcher =>
      state.dispatcher dispatcher = .abandoning && (state.row.inFlight (.dispatcher dispatcher)).isSome
  | .invoked executor => state.executor executor = .absent
  | .start executor _ _ => state.executor executor = .spawned
  | .launch executor => state.executor executor = .started
  | .executorRaised executor => state.executor executor = .spawned || state.executor executor = .started
  | .dispatcherRaised _ | .read _ _ _ | .commit _ | .rollback _ => true

/-- An attempt raised: sleep and try again, or give up after the last one. -/
def DispatcherPc.afterFailure (maxDispatchAttempts : ℕ) : DispatcherPc → DispatcherPc
  | .attempting attempt =>
      if attempt < max maxDispatchAttempts 1 then .attempting (attempt + 1) else .abandoning
  | pc => pc

def Execution.nextDispatcher (maxDispatchAttempts : ℕ) (state : Execution) : ExecEvent → ℕ → DispatcherPc
  | .claim dispatcher now =>
      Function.update state.dispatcher dispatcher
        (if updated (claimPendingJobInSession state.row.stored none now) then .attempting 1 else .done)
  | .spawnFailed dispatcher =>
      Function.update state.dispatcher dispatcher
        ((state.dispatcher dispatcher).afterFailure maxDispatchAttempts)
  | .spawned dispatcher _ | .commitFailure dispatcher | .dispatcherRaised dispatcher =>
      Function.update state.dispatcher dispatcher .done
  | _ => state.dispatcher

/-- A lost start raises `CrawlJobStartConflictError` in `_run_existing_crawl_job`; the script
goes on to build its command. -/
def Execution.nextExecutor (state : Execution) : ExecEvent → ℕ → ExecutorPc
  | .spawned _ executor | .invoked executor => Function.update state.executor executor .spawned
  | .start executor args now =>
      Function.update state.executor executor
        (if state.isScript executor || updated (startJobInSession state.row.stored (runningStart args) now)
          then .started else .stopped)
  | .launch executor => Function.update state.executor executor .launched
  | .executorRaised executor => Function.update state.executor executor .stopped
  | _ => state.executor

def Execution.fire (maxDispatchAttempts : ℕ) (state : Execution) (event : ExecEvent) : Execution where
  origin := state.origin
  row := event.transaction.elim state.row state.row.step
  dispatcher := state.nextDispatcher maxDispatchAttempts event
  executor := state.nextExecutor event
  launches := match event with
    | .launch _ => state.launches + 1
    | _ => state.launches

def Execution.step (maxDispatchAttempts : ℕ) (state : Execution) (event : ExecEvent) : Execution :=
  if state.enabled event then state.fire maxDispatchAttempts event else state

/-! ## What one event can do -/

section Steps

variable {maxDispatchAttempts : ℕ} {state : Execution} {event : ExecEvent}

theorem step_of_enabled (h : state.enabled event) :
    state.step maxDispatchAttempts event = state.fire maxDispatchAttempts event := if_pos h

theorem step_of_not_enabled (h : ¬ state.enabled event) : state.step maxDispatchAttempts event = state :=
  if_neg h

@[simp]
theorem origin_step : (state.step maxDispatchAttempts event).origin = state.origin := by
  unfold Execution.step
  split <;> rfl

/-- The row moves by the transaction of an enabled event, and by nothing else. -/
theorem row_step (maxDispatchAttempts : ℕ) (state : Execution) (event : ExecEvent) :
    (state.step maxDispatchAttempts event).row = state.row ∨
      ∃ transaction, state.enabled event ∧ event.transaction = some transaction ∧
        (state.step maxDispatchAttempts event).row = state.row.step transaction := by
  by_cases henabled : state.enabled event
  · have hrow : (state.step maxDispatchAttempts event).row =
        event.transaction.elim state.row state.row.step := by
      rw [step_of_enabled henabled]
      rfl
    cases htransaction : event.transaction with
    | none => exact Or.inl (by rw [hrow, htransaction, Option.elim_none])
    | some transaction =>
      exact Or.inr ⟨transaction, henabled, rfl, by rw [hrow, htransaction, Option.elim_some]⟩
  · exact Or.inl (by rw [step_of_not_enabled henabled])

/-- No process takes the job back to pending. -/
theorem pending_of_pending_exec_step
    (h : (state.step maxDispatchAttempts event).row.stored.status = .pending) :
    state.row.stored.status = .pending := by
  rcases row_step maxDispatchAttempts state event with hrow | ⟨transaction, -, -, hrow⟩
  · rwa [hrow] at h
  · rw [hrow] at h
    exact pending_of_pending_step h

end Steps

end TenderPhase1.Dispatch
