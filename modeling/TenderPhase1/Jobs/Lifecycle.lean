import TenderPhase1.Jobs.Payloads
import Mathlib.Tactic.SplitIfs

/-!
# Life cycle operations of one crawl job

The functions of `app/services/crawl_job_service.py`, each on the one row it is
about. Claiming and starting are single conditional UPDATEs, so they map the
stored row to the stored row. The other operations load the row into an object,
check it and assign to the object; what reaches the table is decided later, when
the session writes the object back. `now` is the clock as the operation reads it.
-/

namespace TenderPhase1.Jobs

open PyText

def defaultPendingLeaseSeconds : ℤ := 120
def defaultRunningLeaseSeconds : ℤ := 1800

def allowedTransitions : JobStatus → List JobStatus
  | .pending => [.running, .failed]
  | .running => [.succeeded, .failed, .partially]
  | .succeeded => [.succeeded]
  | .failed => [.failed]
  | .partially => [.partially]

def ensureTransition (currentStatus nextStatus : JobStatus) : Except ServiceError Unit :=
  if nextStatus ∈ allowedTransitions currentStatus then .ok ()
  else .error (.valueError
    s!"invalid crawl job status transition: {currentStatus.text} -> {nextStatus.text}")

def calculateLeaseExpiresAt (moment : Instant) (leaseSeconds : ℤ) : Except ServiceError Instant :=
  if leaseSeconds < 1 then .error (.valueError "lease_seconds must be >= 1")
  else .ok (moment + seconds leaseSeconds)

/-- An argument that defaults to the `_UNSET` sentinel: the column is left as it is. -/
inductive UpdateArg (Value : Type*) where
  | unset
  | value (value : Value)
  deriving DecidableEq

def UpdateArg.getD {Value : Type*} : UpdateArg Value → Value → Value
  | .unset, old => old
  | .value new, _ => new

/-- The message column is replaced only by a message with some text in it. -/
def updatedMessage (message : Option String) (old : Option String) : Option String :=
  asStr message <|> old

structure CreateArgs where
  jobType : JobType := .manual
  triggeredBy : Option String := none
  retryOfJobId : Option ℕ := none
  jobParamsJson : Option JsonObject := none
  runtimeStatsJson : Option JsonObject := none
  failureReason : Option String := none
  message : Option String := none

/-- The row `create_job_in_session` inserts; `createdAt` is the server's default. -/
def CrawlJob.created (id sourceSiteId : ℕ) (args : CreateArgs) (now createdAt : Instant) : CrawlJob where
  id := id
  sourceSiteId := sourceSiteId
  jobType := args.jobType
  status := .pending
  triggeredBy := asStr args.triggeredBy
  retryOfJobId := args.retryOfJobId
  queuedAt := some now
  pickedAt := none
  startedAt := none
  finishedAt := none
  heartbeatAt := none
  timeoutAt := none
  leaseExpiresAt := none
  counters := {}
  jobParamsJson := args.jobParamsJson
  runtimeStatsJson := args.runtimeStatsJson
  failureReason := asStr args.failureReason
  message := asStr args.message
  createdAt := createdAt

/-! ## Conditional updates -/

/-- The WHERE clause of the claim, and of the sweep that looks for jobs to dispatch. -/
def CrawlJob.claimable (job : CrawlJob) (moment : Instant) : Bool :=
  job.status = .pending && (job.pickedAt.isNone || job.resolveTimeoutAt.isNone || job.leaseExpired moment)

/-- `claim_pending_job_in_session`; `none` when the UPDATE matches no row. -/
def claimPendingJobInSession (job : CrawlJob) (pickedAt : Option Instant) (now : Instant)
    (leaseSeconds : ℤ := defaultPendingLeaseSeconds) : Except ServiceError (Option CrawlJob) := do
  let moment := pickedAt.getD now
  let pendingTimeoutAt ← calculateLeaseExpiresAt moment leaseSeconds
  if job.claimable moment then
    return some { job with
      pickedAt := some moment
      heartbeatAt := some moment
      timeoutAt := some pendingTimeoutAt
      leaseExpiresAt := some pendingTimeoutAt }
  else
    return none

structure StartArgs where
  startedAt : Option Instant := none
  jobParamsJson : UpdateArg (Option JsonObject) := .unset
  runtimeStatsJson : UpdateArg (Option JsonObject) := .unset
  failureReason : UpdateArg (Option String) := .unset
  message : Option String := none
  leaseSeconds : ℤ := defaultRunningLeaseSeconds

/-- `start_job_in_session`; `none` when the job is no longer pending. -/
def startJobInSession (job : CrawlJob) (args : StartArgs) (now : Instant) :
    Except ServiceError (Option CrawlJob) := do
  let moment := args.startedAt.getD now
  let runningTimeoutAt ← calculateLeaseExpiresAt now args.leaseSeconds
  if job.status = .pending then
    return some { job with
      pickedAt := some (job.pickedAt.getD moment)
      startedAt := some (job.startedAt.getD moment)
      finishedAt := none
      status := .running
      heartbeatAt := some now
      timeoutAt := some runningTimeoutAt
      leaseExpiresAt := some runningTimeoutAt
      message := updatedMessage args.message job.message
      jobParamsJson := args.jobParamsJson.getD job.jobParamsJson
      runtimeStatsJson := args.runtimeStatsJson.getD job.runtimeStatsJson
      failureReason := (match args.failureReason with
        | .unset => job.failureReason
        | .value reason => asStr reason) }
  else
    return none

/-- Every executor starts the job under `DEFAULT_RUNNING_LEASE_SECONDS`. -/
def runningStart (args : StartArgs) : StartArgs := { args with leaseSeconds := defaultRunningLeaseSeconds }

/-- The conditional UPDATE matched the row. -/
def updated (result : Except ServiceError (Option CrawlJob)) : Bool :=
  match result with
  | .ok (some _) => true
  | .ok none | .error _ => false

/-! ## Operations on the loaded object -/

def heartbeatJobInSession (job : CrawlJob) (heartbeatAt : Option Instant) (leaseSeconds : ℤ)
    (now : Instant) : Except ServiceError CrawlJob := do
  if !job.status.isActive then
    return job
  let moment := heartbeatAt.getD now
  let runningTimeoutAt ← calculateLeaseExpiresAt moment leaseSeconds
  return { job with
    pickedAt := job.pickedAt <|> some moment
    startedAt := if job.startedAt.isNone && job.status = .running then some moment else job.startedAt
    heartbeatAt := some moment
    timeoutAt := some runningTimeoutAt
    leaseExpiresAt := some runningTimeoutAt }

def JobCounters.entries (counters : JobCounters) : List (String × ℤ) :=
  [("pages_fetched", counters.pagesFetched), ("documents_saved", counters.documentsSaved),
   ("notices_upserted", counters.noticesUpserted), ("deduplicated_count", counters.deduplicatedCount),
   ("error_count", counters.errorCount), ("list_items_seen", counters.listItemsSeen),
   ("list_items_unique", counters.listItemsUnique),
   ("list_items_source_duplicates_skipped", counters.listItemsSourceDuplicatesSkipped),
   ("detail_pages_fetched", counters.detailPagesFetched), ("records_inserted", counters.recordsInserted),
   ("records_updated", counters.recordsUpdated),
   ("source_duplicates_suppressed", counters.sourceDuplicatesSuppressed)]

def JobCounters.add (counters deltas : JobCounters) : JobCounters where
  pagesFetched := counters.pagesFetched + deltas.pagesFetched
  documentsSaved := counters.documentsSaved + deltas.documentsSaved
  noticesUpserted := counters.noticesUpserted + deltas.noticesUpserted
  deduplicatedCount := counters.deduplicatedCount + deltas.deduplicatedCount
  errorCount := counters.errorCount + deltas.errorCount
  listItemsSeen := counters.listItemsSeen + deltas.listItemsSeen
  listItemsUnique := counters.listItemsUnique + deltas.listItemsUnique
  listItemsSourceDuplicatesSkipped :=
    counters.listItemsSourceDuplicatesSkipped + deltas.listItemsSourceDuplicatesSkipped
  detailPagesFetched := counters.detailPagesFetched + deltas.detailPagesFetched
  recordsInserted := counters.recordsInserted + deltas.recordsInserted
  recordsUpdated := counters.recordsUpdated + deltas.recordsUpdated
  sourceDuplicatesSuppressed := counters.sourceDuplicatesSuppressed + deltas.sourceDuplicatesSuppressed

/-- `record_stats_in_session`; `_normalize_non_negative_delta` rejects the first negative delta. -/
def recordStatsInSession (job : CrawlJob) (deltas : JobCounters) : Except ServiceError CrawlJob :=
  match deltas.entries.find? (·.2 < 0) with
  | some (fieldName, _) => .error (.valueError s!"{fieldName} must be >= 0")
  | none => .ok { job with counters := job.counters.add deltas }

def normalizeStatus (value : String) : Except ServiceError JobStatus :=
  match asStr (some value) with
  | none => .error (.valueError "status is required")
  | some normalized =>
      match JobStatus.all.find? (·.text = normalized) with
      | some status => .ok status
      | none => .error (.valueError s!"unsupported crawl job status: {normalized}")

structure FinishArgs where
  status : Option String := none
  jobParamsJson : UpdateArg (Option JsonObject) := .unset
  runtimeStatsJson : UpdateArg (Option JsonObject) := .unset
  failureReason : UpdateArg (Option String) := .unset
  message : Option String := none
  finishedAt : Option Instant := none

def inferSuccessStatus (job : CrawlJob) : JobStatus :=
  if job.counters.errorCount > 0 then .partially else .succeeded

/-- The assignments `finish_job_in_session` makes once the transition is allowed. -/
def CrawlJob.finished (job : CrawlJob) (args : FinishArgs) (targetStatus : JobStatus) (now : Instant) :
    CrawlJob :=
  let pickedAt :=
    if job.status = .running && job.pickedAt.isNone then job.startedAt <|> some now else job.pickedAt
  { job with
    pickedAt := pickedAt
    startedAt := job.startedAt <|> pickedAt <|> some job.createdAt
    finishedAt := some now
    status := targetStatus
    heartbeatAt := some now
    timeoutAt := none
    leaseExpiresAt := none
    message := updatedMessage args.message job.message
    jobParamsJson := args.jobParamsJson.getD job.jobParamsJson
    runtimeStatsJson := args.runtimeStatsJson.getD job.runtimeStatsJson
    failureReason := match args.failureReason with
      | .unset => job.failureReason
      | .value reason => asStr reason }

/-- The status a finish is asked for, or the one the counters suggest. -/
def finishTargetStatus (job : CrawlJob) (status : Option String) : Except ServiceError JobStatus :=
  match status.filter (· ≠ "") with
  | some status => normalizeStatus status
  | none => .ok (inferSuccessStatus job)

def finishJobInSession (job : CrawlJob) (args : FinishArgs) (now : Instant) :
    Except ServiceError CrawlJob := do
  let targetStatus ← finishTargetStatus job args.status
  if targetStatus.isFinal then
    ensureTransition job.status targetStatus
    return job.finished args targetStatus (args.finishedAt.getD now)
  else
    throw (.valueError s!"finish_job requires final status, got: {targetStatus.text}")

def failJobIfActiveInSession (job : CrawlJob) (args : FinishArgs) (now : Instant) :
    Except ServiceError CrawlJob :=
  if job.status.isFinal then .ok job
  else finishJobInSession job { args with status := some "failed" } now

def buildExpiredJobFailureReason (stage : JobStatus) : String :=
  if stage = .pending then "任务启动超时，后台执行未在租约内启动"
  else "任务心跳超时，执行进程可能已退出或卡死"

def buildExpiredJobMessage (stage : JobStatus) (failureReason : String) : String :=
  if stage = .pending then s!"任务已放弃启动：{failureReason}" else s!"任务执行超时：{failureReason}"

def expireJob (job : CrawlJob) (now : Instant) : Except ServiceError CrawlJob := do
  let failureReason := buildExpiredJobFailureReason job.status
  ensureTransition job.status .failed
  return { job with
    startedAt := job.startedAt <|> job.pickedAt <|> some job.createdAt
    finishedAt := some now
    status := .failed
    heartbeatAt := some now
    timeoutAt := none
    leaseExpiresAt := none
    failureReason := some failureReason
    runtimeStatsJson := some (buildRuntimeStatsPayload {
      runStage := "expired"
      timeoutStage := some job.status.text
      heartbeatAt := job.heartbeatAt
      timeoutAt := job.resolveTimeoutAt })
    message := some (buildExpiredJobMessage job.status failureReason) }

/-- The WHERE clause of `reconcile_expired_jobs_in_session`. -/
def CrawlJob.reconcilable (job : CrawlJob) (moment : Instant) : Bool :=
  job.status = .running && job.leaseExpired moment

/-! ## What each operation can do -/

theorem ok_bind {Error Value Result : Type} (value : Value) (next : Value → Except Error Result) :
    (Except.ok value >>= next) = next value := rfl

/-- A computation that may raise succeeds when both of its parts do. -/
theorem bind_eq_ok {Error Value Result : Type} {first : Except Error Value}
    {next : Value → Except Error Result} {result : Result} :
    (first >>= next) = .ok result ↔ ∃ value, first = .ok value ∧ next value = .ok result := by
  cases first with
  | error error => simp [bind, Except.bind]
  | ok value => simp [bind, Except.bind]

theorem ensureTransition_eq_ok {currentStatus nextStatus : JobStatus} {result : Unit}
    (h : ensureTransition currentStatus nextStatus = .ok result) :
    nextStatus ∈ allowedTransitions currentStatus := by
  unfold ensureTransition at h
  split at h
  · assumption
  · cases h

theorem calculateLeaseExpiresAt_eq_ok {moment timeout : Instant} {leaseSeconds : ℤ}
    (h : calculateLeaseExpiresAt moment leaseSeconds = .ok timeout) :
    1 ≤ leaseSeconds ∧ timeout = moment + seconds leaseSeconds := by
  unfold calculateLeaseExpiresAt at h
  split at h
  · cases h
  · have hpositive : 1 ≤ leaseSeconds := by omega
    exact ⟨hpositive, (Except.ok.inj h).symm⟩

/-- A claim wins on a pending row only, and leaves it pending under a fresh lease. -/
theorem claimPendingJobInSession_eq_some {job claimed : CrawlJob} {pickedAt : Option Instant}
    {now : Instant} {leaseSeconds : ℤ}
    (h : claimPendingJobInSession job pickedAt now leaseSeconds = .ok (some claimed)) :
    job.claimable (pickedAt.getD now) ∧ job.status = .pending ∧
      claimed = { job with
        pickedAt := some (pickedAt.getD now)
        heartbeatAt := some (pickedAt.getD now)
        timeoutAt := some (pickedAt.getD now + seconds leaseSeconds)
        leaseExpiresAt := some (pickedAt.getD now + seconds leaseSeconds) } := by
  unfold claimPendingJobInSession at h
  obtain ⟨timeout, htimeout, h⟩ := bind_eq_ok.mp h
  obtain ⟨-, rfl⟩ := calculateLeaseExpiresAt_eq_ok htimeout
  split at h
  · rename_i hclaim
    have hpending : job.status = .pending := by
      simp only [CrawlJob.claimable, Bool.and_eq_true, decide_eq_true_eq] at hclaim
      exact hclaim.1
    exact ⟨hclaim, hpending, (Option.some.inj (Except.ok.inj h)).symm⟩
  · cases Except.ok.inj h

/-- A start wins on a pending row only, and moves it to running under a fresh lease. -/
theorem startJobInSession_eq_some {job started : CrawlJob} {args : StartArgs} {now : Instant}
    (h : startJobInSession job args now = .ok (some started)) :
    job.status = .pending ∧ started.status = .running ∧
      started.timeoutAt = some (now + seconds args.leaseSeconds) ∧
      started.leaseExpiresAt = some (now + seconds args.leaseSeconds) := by
  unfold startJobInSession at h
  obtain ⟨timeout, htimeout, h⟩ := bind_eq_ok.mp h
  obtain ⟨-, rfl⟩ := calculateLeaseExpiresAt_eq_ok htimeout
  split at h
  · rename_i hpending
    obtain rfl := Option.some.inj (Except.ok.inj h)
    exact ⟨hpending, rfl, rfl, rfl⟩
  · cases Except.ok.inj h

/-- `start_job` matches the row exactly when the job is pending. -/
theorem updated_start_iff (job : CrawlJob) (args : StartArgs) (now : Instant) :
    updated (startJobInSession job (runningStart args) now) ↔ job.status = .pending := by
  have hlease : calculateLeaseExpiresAt now (runningStart args).leaseSeconds =
      .ok (now + seconds defaultRunningLeaseSeconds) := rfl
  unfold startJobInSession
  rw [hlease]
  by_cases hpending : job.status = .pending
  · simp [bind, Except.bind, pure, Except.pure, hpending, updated]
  · simp [bind, Except.bind, pure, Except.pure, hpending, updated]

/-- A heartbeat keeps the status, and renews both lease columns of an active job. -/
theorem heartbeatJobInSession_eq_ok {job beaten : CrawlJob} {heartbeatAt : Option Instant}
    {leaseSeconds : ℤ} {now : Instant}
    (h : heartbeatJobInSession job heartbeatAt leaseSeconds now = .ok beaten) :
    job.status.isFinal ∧ beaten = job ∨
      job.status.isActive ∧ beaten.status = job.status ∧
        beaten.timeoutAt = some (heartbeatAt.getD now + seconds leaseSeconds) ∧
        beaten.leaseExpiresAt = some (heartbeatAt.getD now + seconds leaseSeconds) := by
  unfold heartbeatJobInSession at h
  split at h
  · rename_i hfinal
    exact Or.inl ⟨by simpa using hfinal, (Except.ok.inj h).symm⟩
  · rename_i hactive
    obtain ⟨timeout, htimeout, h⟩ := bind_eq_ok.mp h
    obtain ⟨-, rfl⟩ := calculateLeaseExpiresAt_eq_ok htimeout
    obtain rfl := Except.ok.inj h
    exact Or.inr ⟨by simpa using hactive, rfl, rfl, rfl⟩

theorem recordStatsInSession_eq_ok {job counted : CrawlJob} {deltas : JobCounters}
    (h : recordStatsInSession job deltas = .ok counted) :
    counted = { job with counters := job.counters.add deltas } := by
  unfold recordStatsInSession at h
  split at h
  · cases h
  · exact (Except.ok.inj h).symm

/-- A finish writes a final status that is reachable from the one the object was loaded with. -/
theorem finishJobInSession_eq_ok {job finished : CrawlJob} {args : FinishArgs} {now : Instant} :
    finishJobInSession job args now = .ok finished ↔
      ∃ targetStatus, finishTargetStatus job args.status = .ok targetStatus ∧ targetStatus.isFinal ∧
        targetStatus ∈ allowedTransitions job.status ∧
        finished = job.finished args targetStatus (args.finishedAt.getD now) := by
  unfold finishJobInSession
  constructor
  · intro h
    obtain ⟨targetStatus, htarget, h⟩ := bind_eq_ok.mp h
    split at h
    · rename_i hfinal
      obtain ⟨_, hallowed, h⟩ := bind_eq_ok.mp h
      exact ⟨targetStatus, htarget, hfinal, ensureTransition_eq_ok hallowed, (Except.ok.inj h).symm⟩
    · cases h
  · rintro ⟨targetStatus, htarget, hfinal, hallowed, rfl⟩
    refine bind_eq_ok.mpr ⟨targetStatus, htarget, ?_⟩
    rw [if_pos hfinal, ensureTransition, if_pos hallowed]
    rfl

theorem failed_mem_allowedTransitions {status : JobStatus} (h : status.isActive) :
    .failed ∈ allowedTransitions status := by
  cases status <;> simp_all [allowedTransitions, JobStatus.isFinal]

/-- Failing an active job never raises. -/
theorem failJobIfActiveInSession_active {job : CrawlJob} (args : FinishArgs) (now : Instant)
    (h : job.status.isActive) :
    failJobIfActiveInSession job args now =
      .ok (job.finished args .failed (args.finishedAt.getD now)) := by
  have hfinal : ¬ job.status.isFinal := by simpa using h
  rw [failJobIfActiveInSession, if_neg hfinal]
  exact finishJobInSession_eq_ok.mpr ⟨.failed, rfl, rfl, failed_mem_allowedTransitions h, rfl⟩

theorem failJobIfActiveInSession_final {job : CrawlJob} (args : FinishArgs) (now : Instant)
    (h : job.status.isFinal) : failJobIfActiveInSession job args now = .ok job := by
  rw [failJobIfActiveInSession, if_pos h]

theorem expireJob_eq_ok {job expired : CrawlJob} {now : Instant} (h : expireJob job now = .ok expired) :
    .failed ∈ allowedTransitions job.status ∧ expired.status = .failed ∧
      expired.timeoutAt = none ∧ expired.leaseExpiresAt = none ∧ expired.id = job.id := by
  unfold expireJob at h
  obtain ⟨_, hallowed, h⟩ := bind_eq_ok.mp h
  obtain rfl := Except.ok.inj h
  exact ⟨ensureTransition_eq_ok hallowed, rfl, rfl, rfl, rfl⟩

end TenderPhase1.Jobs
