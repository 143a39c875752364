import TenderPhase1.Foundation.ObjectSession
import Mathlib.Data.Int.Basic

/-!
# The crawl_job table

The row type of `app/models/crawl_job.py` with every column, the enumerations its
check constraints allow, and the exceptions the crawl job services raise. Instants
are microseconds since the epoch. `onupdate` timestamps are left out: nothing
reads them.
-/

namespace TenderPhase1.Jobs

open ObjectSession

abbrev Instant := ℤ

def seconds (n : ℤ) : Instant := n * 1000000

/-- `ck_crawl_job_status`; the source spells the last one "partial". -/
inductive JobStatus where
  | pending
  | running
  | succeeded
  | failed
  | partially
  deriving DecidableEq, Repr

/-- `ck_crawl_job_type` -/
inductive JobType where
  | scheduled
  | manual
  | backfill
  | manualRetry
  deriving DecidableEq, Repr

/-- `CRAWL_JOB_STATUSES` -/
def JobStatus.all : List JobStatus := [.pending, .running, .succeeded, .failed, .partially]

/-- `CRAWL_JOB_FINAL_STATUSES` -/
def JobStatus.isFinal : JobStatus → Bool
  | .pending | .running => false
  | .succeeded | .failed | .partially => true

/-- `ACTIVE_CRAWL_JOB_STATUSES` -/
def JobStatus.isActive : JobStatus → Bool
  | .pending | .running => true
  | .succeeded | .failed | .partially => false

@[simp]
theorem JobStatus.isActive_eq_not_isFinal (status : JobStatus) : status.isActive = !status.isFinal := by
  cases status <;> rfl

/-- The status as the database stores it and as messages print it. -/
def JobStatus.text : JobStatus → String
  | .pending => "pending"
  | .running => "running"
  | .succeeded => "succeeded"
  | .failed => "failed"
  | .partially => "partial"

def JobType.text : JobType → String
  | .scheduled => "scheduled"
  | .manual => "manual"
  | .backfill => "backfill"
  | .manualRetry => "manual_retry"

/-- The values the payload builders put into the JSON columns. -/
inductive JsonValue where
  | text (value : String)
  | int (value : ℤ)
  | isoformat (value : Instant)
  deriving DecidableEq, Repr

abbrev JsonObject := List (String × JsonValue)

structure JobCounters where
  pagesFetched : ℤ := 0
  documentsSaved : ℤ := 0
  noticesUpserted : ℤ := 0
  deduplicatedCount : ℤ := 0
  errorCount : ℤ := 0
  listItemsSeen : ℤ := 0
  listItemsUnique : ℤ := 0
  listItemsSourceDuplicatesSkipped : ℤ := 0
  detailPagesFetched : ℤ := 0
  recordsInserted : ℤ := 0
  recordsUpdated : ℤ := 0
  sourceDuplicatesSuppressed : ℤ := 0
  deriving DecidableEq, Repr

structure CrawlJob where
  id : ℕ
  sourceSiteId : ℕ
  jobType : JobType
  status : JobStatus
  triggeredBy : Option String
  retryOfJobId : Option ℕ
  queuedAt : Option Instant
  pickedAt : Option Instant
  startedAt : Option Instant
  finishedAt : Option Instant
  heartbeatAt : Option Instant
  timeoutAt : Option Instant
  leaseExpiresAt : Option Instant
  counters : JobCounters
  jobParamsJson : Option JsonObject
  runtimeStatsJson : Option JsonObject
  failureReason : Option String
  message : Option String
  createdAt : Instant
  deriving DecidableEq, Repr

/-- `_resolve_timeout_at`, and COALESCE(timeout_at, lease_expires_at) in the queries. -/
def CrawlJob.resolveTimeoutAt (job : CrawlJob) : Option Instant := job.timeoutAt <|> job.leaseExpiresAt

/-- The lease of the row lies at or before `moment`; a row without a lease is not expired. -/
def CrawlJob.leaseExpired (job : CrawlJob) (moment : Instant) : Bool :=
  match job.resolveTimeoutAt with
  | some timeout => timeout ≤ moment
  | none => false

/-- The UPDATE of a changed object, column by column. -/
def JobCounters.writeBack (loaded current stored : JobCounters) : JobCounters where
  pagesFetched := mergeColumn loaded.pagesFetched current.pagesFetched stored.pagesFetched
  documentsSaved := mergeColumn loaded.documentsSaved current.documentsSaved stored.documentsSaved
  noticesUpserted := mergeColumn loaded.noticesUpserted current.noticesUpserted stored.noticesUpserted
  deduplicatedCount := mergeColumn loaded.deduplicatedCount current.deduplicatedCount stored.deduplicatedCount
  errorCount := mergeColumn loaded.errorCount current.errorCount stored.errorCount
  listItemsSeen := mergeColumn loaded.listItemsSeen current.listItemsSeen stored.listItemsSeen
  listItemsUnique := mergeColumn loaded.listItemsUnique current.listItemsUnique stored.listItemsUnique
  listItemsSourceDuplicatesSkipped :=
    mergeColumn loaded.listItemsSourceDuplicatesSkipped current.listItemsSourceDuplicatesSkipped
      stored.listItemsSourceDuplicatesSkipped
  detailPagesFetched := mergeColumn loaded.detailPagesFetched current.detailPagesFetched stored.detailPagesFetched
  recordsInserted := mergeColumn loaded.recordsInserted current.recordsInserted stored.recordsInserted
  recordsUpdated := mergeColumn loaded.recordsUpdated current.recordsUpdated stored.recordsUpdated
  sourceDuplicatesSuppressed :=
    mergeColumn loaded.sourceDuplicatesSuppressed current.sourceDuplicatesSuppressed
      stored.sourceDuplicatesSuppressed

/-- The primary key is never among the changed columns. -/
def CrawlJob.writeBack (loaded current stored : CrawlJob) : CrawlJob where
  id := stored.id
  sourceSiteId := mergeColumn loaded.sourceSiteId current.sourceSiteId stored.sourceSiteId
  jobType := mergeColumn loaded.jobType current.jobType stored.jobType
  status := mergeColumn loaded.status current.status stored.status
  triggeredBy := mergeColumn loaded.triggeredBy current.triggeredBy stored.triggeredBy
  retryOfJobId := mergeColumn loaded.retryOfJobId current.retryOfJobId stored.retryOfJobId
  queuedAt := mergeColumn loaded.queuedAt current.queuedAt stored.queuedAt
  pickedAt := mergeColumn loaded.pickedAt current.pickedAt stored.pickedAt
  startedAt := mergeColumn loaded.startedAt current.startedAt stored.startedAt
  finishedAt := mergeColumn loaded.finishedAt current.finishedAt stored.finishedAt
  heartbeatAt := mergeColumn loaded.heartbeatAt current.heartbeatAt stored.heartbeatAt
  timeoutAt := mergeColumn loaded.timeoutAt current.timeoutAt stored.timeoutAt
  leaseExpiresAt := mergeColumn loaded.leaseExpiresAt current.leaseExpiresAt stored.leaseExpiresAt
  counters := JobCounters.writeBack loaded.counters current.counters stored.counters
  jobParamsJson := mergeColumn loaded.jobParamsJson current.jobParamsJson stored.jobParamsJson
  runtimeStatsJson := mergeColumn loaded.runtimeStatsJson current.runtimeStatsJson stored.runtimeStatsJson
  failureReason := mergeColumn loaded.failureReason current.failureReason stored.failureReason
  message := mergeColumn loaded.message current.message stored.message
  createdAt := mergeColumn loaded.createdAt current.createdAt stored.createdAt

@[simp]
theorem JobCounters.writeBack_unchanged (loaded stored : JobCounters) :
    JobCounters.writeBack loaded loaded stored = stored := by
  simp [JobCounters.writeBack]

@[simp]
theorem CrawlJob.writeBack_unchanged (loaded stored : CrawlJob) :
    CrawlJob.writeBack loaded loaded stored = stored := by
  simp [CrawlJob.writeBack]

/-- Without an intervening commit the row ends up as the object has it. -/
theorem CrawlJob.writeBack_loaded (loaded current : CrawlJob) (h : current.id = loaded.id) :
    CrawlJob.writeBack loaded current loaded = current := by
  simp only [CrawlJob.writeBack, JobCounters.writeBack, mergeColumn_loaded]
  rw [← h]

instance : Entity CrawlJob where
  key := CrawlJob.id
  writeBack := CrawlJob.writeBack
  key_writeBack _ _ _ := rfl
  writeBack_unchanged := CrawlJob.writeBack_unchanged

section Columns

variable (loaded current stored : CrawlJob)

@[simp]
theorem CrawlJob.writeBack_status :
    (CrawlJob.writeBack loaded current stored).status =
      mergeColumn loaded.status current.status stored.status := rfl

@[simp]
theorem CrawlJob.writeBack_timeoutAt :
    (CrawlJob.writeBack loaded current stored).timeoutAt =
      mergeColumn loaded.timeoutAt current.timeoutAt stored.timeoutAt := rfl

@[simp]
theorem CrawlJob.writeBack_leaseExpiresAt :
    (CrawlJob.writeBack loaded current stored).leaseExpiresAt =
      mergeColumn loaded.leaseExpiresAt current.leaseExpiresAt stored.leaseExpiresAt := rfl

end Columns

/-- The exceptions of the crawl job services, with the data their messages are built from. -/
inductive ServiceError where
  | valueError (message : String)
  | runtimeError (message : String)
  | integrityError (constraint : String)
  | sourceActiveCrawlJobConflict (sourceCode : String) (sourceSiteId : ℕ) (activeJobId : Option ℕ)
      (activeJobStatus : Option JobStatus)
  | crawlJobRetryConflict (originalJobId : ℕ) (retryJobId : Option ℕ)
  | crawlJobStartConflict (crawlJobId : ℕ) (currentStatus : JobStatus)
  deriving DecidableEq, Repr

def ServiceError.text : ServiceError → String
  | .valueError message | .runtimeError message => message
  | .integrityError constraint => constraint
  | .sourceActiveCrawlJobConflict sourceCode _ (some activeJobId) (some activeJobStatus) =>
      s!"来源 {sourceCode} 已有进行中的抓取任务 #{activeJobId}（{activeJobStatus.text}），请等待当前任务结束后再试"
  | .sourceActiveCrawlJobConflict sourceCode _ _ _ =>
      s!"来源 {sourceCode} 已有进行中的抓取任务，请等待当前任务结束后再试"
  | .crawlJobRetryConflict _ _ => "job already retried"
  | .crawlJobStartConflict crawlJobId .running =>
      s!"crawl_job 已被其他 worker 原子领取并进入 running：{crawlJobId}"
  | .crawlJobStartConflict crawlJobId currentStatus =>
      s!"crawl_job 当前状态不允许再次启动：id={crawlJobId}, status={currentStatus.text}"

end TenderPhase1.Jobs
