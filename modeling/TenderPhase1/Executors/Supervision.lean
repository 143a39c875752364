import TenderPhase1.Executors.Runs

/-!
# An executor against the clock

An executor from its `start_job` to its last `finish_job`, with the time that
passes. `SubprocessCrawlCommandRunner.run` waits for the spider in intervals and
sends a heartbeat after each; the script calls `subprocess.run`, which waits for
as long as it takes. The clock never goes back, and a polling executor gets from
one heartbeat to the next, and from the last one to its finish, with a delay of
at most `delay` beyond the interval. A spider runs for as long as it likes.
-/

namespace TenderPhase1.Executors

open Jobs ObjectSession

/-- The worker and the scheduler poll with a heartbeat callback, the script blocks. -/
inductive Watcher where
  | polling
  | blocking
  deriving DecidableEq

/-- `heartbeat_interval_seconds` of the runner; no caller passes another value. -/
def heartbeatInterval : Instant := seconds 30

def runningLease : Instant := seconds defaultRunningLeaseSeconds

/-- Where the executor is; `since` is when it last started to wait, or started the job. -/
inductive Phase where
  | queued
  | launching (since : Instant)
  | waiting (since : Instant)
  | timedOut (since : Instant)
  | beating (since : Instant) (held : InFlight)
  | exited (since : Instant) (returnCode : ℤ)
  | classified (since : Instant) (spider : SpiderOutcome) (snapshot : CrawlJob)
  | finishing (since : Instant) (held : InFlight)
  | over

def Phase.since : Phase → Option Instant
  | .queued | .over => none
  | .launching since | .waiting since | .timedOut since | .beating since _ | .exited since _
  | .classified since _ _ | .finishing since _ => some since

/-- The spider process may still run: nobody has seen it exit. -/
def Phase.alive : Phase → Bool
  | .waiting _ | .timedOut _ | .beating _ _ => true
  | .queued | .launching _ | .exited _ _ | .classified _ _ _ | .finishing _ _ | .over => false

structure Supervision where
  now : Instant
  row : JobState ℕ
  phase : Phase

def Supervision.initial (now : Instant) (job : CrawlJob) : Supervision := ⟨now, .initial job, .queued⟩

/-- The transactions of the other processes on the job. Only its executor sends heartbeats, and
this executor is the one whose start wins. -/
inductive OtherEvent where
  | claim
  | recordStats (txn : ℕ) (deltas : JobCounters)
  | finish (txn : ℕ) (args : FinishArgs)
  | failIfActive (txn : ℕ) (args : FinishArgs)
  | reconcile (txn : ℕ)
  | commit (txn : ℕ)
  | rollback (txn : ℕ)

def OtherEvent.jobEvent (now : Instant) : OtherEvent → JobEvent ℕ
  | .claim => .claim none defaultPendingLeaseSeconds now
  | .recordStats txn deltas => .read txn (.recordStats deltas) now
  | .finish txn args => .read txn (.finish args) now
  | .failIfActive txn args => .read txn (.failIfActive args) now
  | .reconcile txn => .read txn .reconcile now
  | .commit txn => .commit txn
  | .rollback txn => .rollback txn

inductive SupervisionEvent where
  | tick (elapsed : ℤ)
  | start (args : StartArgs)
  | launch
  | timeoutExpired
  | readHeartbeat
  | commitHeartbeat
  | exit (returnCode : ℤ)
  | classify (errors : List CrawlErrorEntry) (pages : List ListPageMeta)
  | readFinish
  | commitFinish
  | other (event : OtherEvent)

/-- The time a polling executor has not used up at `moment`. -/
def Phase.inTime (watcher : Watcher) (delay : Instant) (phase : Phase) (moment : Instant) : Bool :=
  match watcher, phase.since with
  | .polling, some since => moment ≤ since + heartbeatInterval + delay
  | _, _ => true

/-- The finish of the executor for what it has seen of the spider. -/
def Watcher.finishArgs (watcher : Watcher) (run : CrawlRun) (spider : SpiderOutcome) (snapshot : CrawlJob) :
    FinishArgs :=
  match watcher with
  | .polling => finalArgs run spider snapshot
  | .blocking => scriptFinishArgs spider.returnCode

def heartbeatOp : JobOp := .heartbeat none defaultRunningLeaseSeconds

def Supervision.step (watcher : Watcher) (delay : Instant) (run : CrawlRun) (state : Supervision)
    (event : SupervisionEvent) : Supervision :=
  match event, state.phase with
  | .tick elapsed, phase =>
      if 0 ≤ elapsed && phase.inTime watcher delay (state.now + elapsed) then
        { state with now := state.now + elapsed }
      else state
  | .start args, .queued =>
      if updated (startJobInSession state.row.stored (runningStart args) state.now) then
        { state with
          row := state.row.step (.start (runningStart args) state.now)
          phase := .launching state.now }
      else { state with phase := .over }
  | .launch, .launching _ => { state with phase := .waiting state.now }
  | .timeoutExpired, .waiting since =>
      if watcher = .polling && since + heartbeatInterval ≤ state.now then
        { state with phase := .timedOut since }
      else state
  | .readHeartbeat, .timedOut since =>
      match InFlight.load heartbeatOp state.now state.row.stored with
      | some held => { state with phase := .beating since held }
      -- the callback swallows the exception of a heartbeat
      | none => { state with phase := .waiting state.now }
  | .commitHeartbeat, .beating _ held =>
      { state with row := state.row.writeBack held, phase := .waiting state.now }
  | .exit returnCode, .waiting since => { state with phase := .exited since returnCode }
  | .classify errors pages, .exited since returnCode =>
      { state with phase := .classified since ⟨returnCode, errors, pages⟩ state.row.stored }
  | .readFinish, .classified since spider snapshot =>
      match InFlight.load (.finish (watcher.finishArgs run spider snapshot)) state.now state.row.stored with
      | some held => { state with phase := .finishing since held }
      | none => { state with phase := .over }
  | .commitFinish, .finishing _ held => { state with row := state.row.writeBack held, phase := .over }
  | .other other, _ => { state with row := state.row.step (other.jobEvent state.now) }
  | _, _ => state

/-! ## The transactions of the others -/

/-- The open transactions of the others are no heartbeats, have not found the job expired, and
have not read a job that is ended now but was not then. -/
structure OthersOnly (row : JobState ℕ) : Prop where
  heartbeat : ∀ txn held, row.inFlight txn = some held →
    ∀ heartbeatAt leaseSeconds, held.op ≠ .heartbeat heartbeatAt leaseSeconds
  unselected : ∀ txn held, row.inFlight txn = some held →
    ¬ (held.op = .reconcile ∧ held.loaded.reconcilable held.now)
  ended : ∀ txn held, row.inFlight txn = some held → held.loaded.status.isFinal → row.ended

theorem othersOnly_initial (job : CrawlJob) : OthersOnly (.initial job) where
  heartbeat _ _ h := nomatch h
  unselected _ _ h := nomatch h
  ended _ _ h := nomatch h

theorem OthersOnly.writeBack {row : JobState ℕ} (h : OthersOnly row) (held : InFlight) :
    OthersOnly (row.writeBack held) where
  heartbeat := h.heartbeat
  unselected := h.unselected
  ended txn other hother hfinal := ended_writeBack (h.ended txn other hother hfinal) held

/-- The reads of the others are no heartbeats, and they happen now. -/
theorem jobEvent_eq_read {event : OtherEvent} {now moment : Instant} {txn : ℕ} {op : JobOp}
    (h : event.jobEvent now = .read txn op moment) :
    moment = now ∧ ∀ heartbeatAt leaseSeconds, op ≠ .heartbeat heartbeatAt leaseSeconds := by
  cases event <;> simp only [OtherEvent.jobEvent, JobEvent.read.injEq, reduceCtorEq] at h
  all_goals
    obtain ⟨-, rfl, rfl⟩ := h
    exact ⟨rfl, nofun⟩

theorem jobEvent_ne_start {event : OtherEvent} {now moment : Instant} {args : StartArgs} :
    event.jobEvent now ≠ .start args moment := by
  cases event <;> simp [OtherEvent.jobEvent]

/-- The events of others leave only their own transactions open. -/
theorem othersOnly_step {row : JobState ℕ} {now : Instant} (event : OtherEvent) (h : OthersOnly row)
    (hlease : ¬ row.stored.reconcilable now) : OthersOnly (row.step (event.jobEvent now)) where
  heartbeat txn held hheld := by
    rcases inFlight_step hheld with hbefore | ⟨hread, -, -⟩
    · exact h.heartbeat txn held hbefore
    · exact (jobEvent_eq_read hread).2
  unselected txn held hheld := by
    rcases inFlight_step hheld with hbefore | ⟨hread, hloaded, -⟩
    · exact h.unselected txn held hbefore
    · rintro ⟨-, hselected⟩
      rw [hloaded, (jobEvent_eq_read hread).1] at hselected
      exact hlease hselected
  ended txn held hheld hfinal := by
    rcases inFlight_step hheld with hbefore | ⟨-, hloaded, hstored⟩
    · exact ended_step row _ (h.ended txn held hbefore hfinal)
    · rw [JobState.ended, hstored, ← hloaded]
      exact hfinal

/-- A job that is running after a transaction of the others was running before it, under the
same lease. -/
theorem running_step_other {row : JobState ℕ} {now : Instant} {event : OtherEvent} (h : OthersOnly row)
    (hrunning : (row.step (event.jobEvent now)).stored.status = .running) :
    row.stored.status = .running ∧
      (row.step (event.jobEvent now)).stored.timeoutAt = row.stored.timeoutAt := by
  rcases stored_step_cases row (event.jobEvent now) with hstored | ⟨_, _, _, -, hclaim⟩ | ⟨_, _, hstart, -⟩ |
    ⟨txn, held, -, hheld, hstored⟩
  · rw [hstored] at hrunning ⊢
    exact ⟨hrunning, rfl⟩
  · obtain ⟨-, hpending, hclaimed⟩ := claimPendingJobInSession_eq_some hclaim
    rw [hclaimed, hpending] at hrunning
    cases hrunning
  · exact absurd hstart jobEvent_ne_start
  · rw [hstored] at hrunning ⊢
    rcases held.status_writeBack_cases row.stored with hkept | ⟨-, hfinal, hwritten⟩
    · rw [hkept] at hrunning
      refine ⟨hrunning, ?_⟩
      rw [CrawlJob.writeBack_timeoutAt]
      cases held.effect with
      | untouched _ htimeout => rw [htimeout, mergeColumn_unchanged]
      | renewed heartbeatAt leaseSeconds hop => exact absurd hop (h.heartbeat txn held hheld _ _)
      | finalised _ hfinal hallowed =>
        -- the status was written back unchanged, so the job had ended when it was read
        have hloaded : held.loaded.status.isFinal := by
          by_contra hactive
          have hchanged : held.current.status ≠ held.loaded.status := fun heq ↦ hactive (heq ▸ hfinal)
          rw [CrawlJob.writeBack_status, mergeColumn_changed hchanged] at hkept
          rw [hkept, hrunning] at hfinal
          cases hfinal
        have hended := h.ended txn held hheld hloaded
        rw [JobState.ended, hrunning] at hended
        cases hended
    · rw [hwritten] at hrunning
      rw [hrunning] at hfinal
      cases hfinal

end TenderPhase1.Executors
