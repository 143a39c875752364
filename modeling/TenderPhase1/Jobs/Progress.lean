import TenderPhase1.Jobs.RowCoherence

/-!
# The progress of a job

The admin pages show a label for the stage of a job and a line of counters. Both are computed from the row alone,
and they speak of what others will do with it: the dispatcher, which takes a job that waits, and the reconcile, which
fails a job whose lease has run out.
-/

namespace TenderPhase1.Jobs

structure CrawlJobProgress where
  isActive : Bool
  isStale : Bool
  jobTypeLabel : String
  statusLabel : String
  stageLabel : String
  summaryText : String
  heartbeatAt : Option String
  timeoutAt : Option String
  leaseExpiresAt : Option String
  deriving DecidableEq, Repr

/-- `JOB_TYPE_LABELS` -/
def JobType.label : JobType → String
  | .manual => "手动抓取"
  | .scheduled => "自动抓取"
  | .backfill => "回填抓取"
  | .manualRetry => "重试抓取"

/-- `STATUS_LABELS` -/
def JobStatus.label : JobStatus → String
  | .pending => "排队中"
  | .running => "抓取中"
  | .succeeded => "已完成"
  | .failed => "失败"
  | .partially => "部分成功"

def metric (label : String) (value : ℤ) (positiveOnly : Bool) : Option String :=
  if positiveOnly ∧ value ≤ 0 then none else some (label ++ " " ++ toString value)

def joinParts (parts : List (Option String)) (fallback : String) : String :=
  let normalized := parts.filterMap fun part ↦ part.filter (· ≠ "")
  if normalized = [] then fallback else " / ".intercalate normalized

/-- The metrics of a summary; a running job only shows what it has counted. -/
def JobCounters.metrics (counters : JobCounters) (positiveOnly : Bool) : List (Option String) :=
  [metric "列表页" counters.pagesFetched positiveOnly, metric "列表项" counters.listItemsSeen positiveOnly,
    metric "唯一项" counters.listItemsUnique positiveOnly, metric "详情页" counters.detailPagesFetched positiveOnly,
    metric "公告" counters.noticesUpserted positiveOnly, metric "归档" counters.documentsSaved positiveOnly,
    metric "去重跳过" (counters.listItemsSourceDuplicatesSkipped + counters.sourceDuplicatesSuppressed) positiveOnly,
    metric "错误" counters.errorCount positiveOnly]

/-- The stage of a running job whose lease holds, by the counters that its spider has reached -/
def JobCounters.runningStage (counters : JobCounters) : String :=
  if 0 < counters.detailPagesFetched ∨ 0 < counters.documentsSaved ∨ 0 < counters.noticesUpserted then "抓取详情与入库"
  else if 0 < counters.listItemsSeen ∨ 0 < counters.listItemsUnique then "解析列表页"
  else if 0 < counters.pagesFetched then "抓取列表页"
  else "启动 Spider"

section Progress

variable (isoformat : Instant → String) (job : CrawlJob) (moment : Instant)

def CrawlJob.isStale : Bool := job.status.isActive && job.leaseExpired moment

/-- The stage and the summary, branch by branch -/
def CrawlJob.stageAndSummary : String × String :=
  if job.isStale moment ∧ job.status = .pending then ("等待重派发", "任务派发租约已过期，等待独立 dispatcher 重试")
  else if job.isStale moment ∧ job.status = .running then ("心跳超时", "任务心跳已过期，执行进程可能已退出或卡死")
  else if job.status = .pending then
    if job.pickedAt.isSome then ("等待 Worker 启动", "dispatcher 已领取任务，等待 worker 启动")
    else ("等待启动", "已入队，等待启动")
  else if job.status = .running then
    (job.counters.runningStage,
      joinParts (job.counters.metrics true) (job.jobType.label ++ "已启动，正在持续更新统计"))
  else (job.status.label, joinParts (job.counters.metrics false) "-")

def buildCrawlJobProgress : CrawlJobProgress where
  isActive := job.status = .pending || (job.status = .running && !job.isStale moment)
  isStale := job.isStale moment
  jobTypeLabel := job.jobType.label
  statusLabel := job.status.label
  stageLabel := (job.stageAndSummary moment).1
  summaryText := (job.stageAndSummary moment).2
  heartbeatAt := job.heartbeatAt.map isoformat
  timeoutAt := job.resolveTimeoutAt.map isoformat
  leaseExpiresAt := job.resolveTimeoutAt.map isoformat

end Progress

/-! ## The labels -/

section Labels

variable {isoformat : Instant → String} {job : CrawlJob} {moment : Instant}

theorem runningStage_notMem (counters : JobCounters) :
    counters.runningStage ∉ ["等待启动", "等待重派发", "等待 Worker 启动", "心跳超时"] := by
  unfold JobCounters.runningStage
  split_ifs <;> decide +kernel

theorem label_notMem (status : JobStatus) :
    status.label ∉ ["等待启动", "等待重派发", "等待 Worker 启动", "心跳超时"] := by
  cases status <;> decide +kernel

/-- The stages of a pending job and of one whose lease has run out are told apart by their labels. -/
theorem stageLabel_cases (job : CrawlJob) (moment : Instant) :
    (job.status = .pending ∧ (job.stageAndSummary moment).1 =
      if job.leaseExpired moment then "等待重派发" else if job.pickedAt.isSome then "等待 Worker 启动" else "等待启动") ∨
    (job.status = .running ∧ job.leaseExpired moment ∧ (job.stageAndSummary moment).1 = "心跳超时") ∨
    (¬ job.reconcilable moment ∧ job.status ≠ .pending ∧
      (job.stageAndSummary moment).1 ∉ ["等待启动", "等待重派发", "等待 Worker 启动", "心跳超时"]) := by
  cases hstatus : job.status with
  | pending =>
    refine Or.inl ⟨rfl, ?_⟩
    simp only [CrawlJob.stageAndSummary, CrawlJob.isStale, hstatus, JobStatus.isActive, Bool.true_and, and_true,
      reduceCtorEq, and_false, if_false, if_true]
    split_ifs <;> rfl
  | running =>
    right
    by_cases hexpired : job.leaseExpired moment
    · refine Or.inl ⟨rfl, hexpired, ?_⟩
      simp [CrawlJob.stageAndSummary, CrawlJob.isStale, hstatus, JobStatus.isActive, hexpired]
    · refine Or.inr ⟨?_, by simp, ?_⟩
      · simp [CrawlJob.reconcilable, hexpired]
      · have hstage : (job.stageAndSummary moment).1 = job.counters.runningStage := by
          simp [CrawlJob.stageAndSummary, CrawlJob.isStale, hstatus, hexpired]
        rw [hstage]
        exact runningStage_notMem job.counters
  | succeeded | failed | partially =>
    refine Or.inr (Or.inr ⟨by simp [CrawlJob.reconcilable, hstatus], by simp, ?_⟩)
    have hstage : (job.stageAndSummary moment).1 = job.status.label := by
      simp [CrawlJob.stageAndSummary, CrawlJob.isStale, hstatus, JobStatus.isActive]
    rw [hstage]
    exact label_notMem job.status

end Labels

/-! ## What others do with the job -/

section Calls

variable {job current : CrawlJob} {moment : Instant}

/-- The dispatcher takes the jobs that it may claim. -/
theorem updated_claim_iff : updated (claimPendingJobInSession job none moment) ↔ job.claimable moment := by
  have hlease : calculateLeaseExpiresAt moment defaultPendingLeaseSeconds =
      .ok (moment + seconds defaultPendingLeaseSeconds) := rfl
  unfold claimPendingJobInSession
  dsimp only [Option.getD_none]
  rw [hlease, ok_bind]
  by_cases hclaimable : job.claimable moment
  · simp [hclaimable, updated, pure, Except.pure]
  · simp [hclaimable, updated, pure, Except.pure]

/-- A call whose operation succeeds leaves its result. -/
theorem call_operation_of_ok {op : JobOp} (h : op.perform job moment = .ok current) (hid : current.id = job.id) :
    job.call (.operation op moment) = current := by
  have hread : ((JobState.initial job : JobState Unit).step (.read () op moment)).inFlight () =
      InFlight.load op moment job := inFlight_read_self rfl op moment
  have hload : InFlight.load op moment job = some ⟨op, moment, job, current, h⟩ := by
    unfold InFlight.load
    split
    · rename_i other hother
      obtain rfl := Except.ok.inj (h.symm.trans hother)
      rfl
    · rename_i hother
      cases h.symm.trans hother
  rw [hload] at hread
  change (((JobState.initial job : JobState Unit).step (.read () op moment)).step (.commit ())).stored = _
  rw [step_commit_of_inFlight hread]
  exact CrawlJob.writeBack_loaded job current hid

/-- A reconcile fails the running jobs whose lease has run out and leaves every other one. -/
theorem status_reconcile (job : CrawlJob) (moment : Instant) :
    (job.call (.operation .reconcile moment)).status = if job.reconcilable moment then .failed else job.status := by
  split_ifs with hreconcilable
  · have hrunning : job.status = .running := by
      simp only [CrawlJob.reconcilable, Bool.and_eq_true, decide_eq_true_eq] at hreconcilable
      exact hreconcilable.1
    have hallowed : ensureTransition job.status .failed = .ok () := by rw [hrunning]; rfl
    cases hexpired : expireJob job moment with
    | error error =>
      unfold expireJob at hexpired
      rw [hallowed] at hexpired
      cases hexpired
    | ok expired =>
      obtain ⟨-, hfailed, -, -, hid⟩ := expireJob_eq_ok hexpired
      have hperform : JobOp.reconcile.perform job moment = .ok expired := by
        rw [JobOp.perform, if_pos hreconcilable, hexpired]
      rw [call_operation_of_ok hperform hid, hfailed]
  · have hperform : JobOp.reconcile.perform job moment = .ok job := by rw [JobOp.perform, if_neg hreconcilable]
    rw [call_operation_of_ok hperform rfl]

/-- What the progress of a job says, in terms of the next dispatch and the next reconcile at that moment. -/
structure ProgressAgrees (isoformat : Instant → String) (job : CrawlJob) (moment : Instant) : Prop where
  waiting : (buildCrawlJobProgress isoformat job moment).stageLabel ∈ ["等待启动", "等待重派发"] ↔
    updated (claimPendingJobInSession job none moment)
  leased : (buildCrawlJobProgress isoformat job moment).stageLabel = "等待 Worker 启动" ↔
    job.status = .pending ∧ ¬ updated (claimPendingJobInSession job none moment)
  expired : (buildCrawlJobProgress isoformat job moment).stageLabel = "心跳超时" ↔
    job.status = .running ∧ (job.call (.operation .reconcile moment)).status = .failed
  active : (buildCrawlJobProgress isoformat job moment).isActive ↔
    (job.call (.operation .reconcile moment)).status.isActive
  timeout : (buildCrawlJobProgress isoformat job moment).timeoutAt = none ↔
    job.status.isFinal ∨ job.status = .pending ∧ job.pickedAt = none

/-- A pending row has a lease as soon as it has been picked. -/
theorem CrawlJob.Coherent.claimable_iff (h : job.Coherent) (hpending : job.status = .pending) :
    job.claimable moment ↔ job.pickedAt = none ∨ job.leaseExpired moment := by
  obtain ⟨-, -, hpicked⟩ := h.pending hpending
  have hlease : job.resolveTimeoutAt = none ↔ job.pickedAt = none := by
    rw [hpicked, CrawlJob.resolveTimeoutAt, ← h.lease]
    cases job.timeoutAt <;> simp
  simp only [CrawlJob.claimable, hpending, decide_true, Bool.true_and, Bool.or_eq_true, Option.isNone_iff_eq_none, hlease,
    or_self]

theorem claimable_of_ne_pending (h : job.status ≠ .pending) : ¬ job.claimable moment := by
  simp [CrawlJob.claimable, h]

theorem isActive_buildCrawlJobProgress (isoformat : Instant → String) :
    (buildCrawlJobProgress isoformat job moment).isActive ↔ job.status.isActive ∧ ¬ job.reconcilable moment := by
  cases hstatus : job.status <;>
    simp [buildCrawlJobProgress, CrawlJob.isStale, CrawlJob.reconcilable, hstatus, JobStatus.isFinal]

theorem CrawlJob.Coherent.timeoutAt_progress (h : job.Coherent) (isoformat : Instant → String) :
    (buildCrawlJobProgress isoformat job moment).timeoutAt = none ↔
      job.status.isFinal ∨ job.status = .pending ∧ job.pickedAt = none := by
  have hnone : (buildCrawlJobProgress isoformat job moment).timeoutAt = none ↔ job.timeoutAt = none := by
    rw [buildCrawlJobProgress, Option.map_eq_none_iff, CrawlJob.resolveTimeoutAt, ← h.lease]
    cases job.timeoutAt <;> simp
  rw [hnone]
  cases hstatus : job.status with
  | pending => simp [(h.pending hstatus).2.2, JobStatus.isFinal]
  | running => simp [(h.running hstatus).2.2.2.1, JobStatus.isFinal]
  | succeeded | failed | partially =>
    have hfinal : job.status.isFinal := by rw [hstatus]; rfl
    simp [(h.final hfinal).2.2, JobStatus.isFinal]

/-- The progress of a coherent job agrees with what the next calls do to it. -/
theorem CrawlJob.Coherent.progressAgrees (h : job.Coherent) (isoformat : Instant → String) (moment : Instant) :
    ProgressAgrees isoformat job moment := by
  have hactive : (buildCrawlJobProgress isoformat job moment).isActive ↔
      (job.call (.operation .reconcile moment)).status.isActive := by
    rw [isActive_buildCrawlJobProgress, status_reconcile]
    split_ifs with hreconcilable
    · simp [hreconcilable, JobStatus.isFinal]
    · simp [hreconcilable]
  have hexpired : job.status = .running ∧ (job.call (.operation .reconcile moment)).status = .failed ↔
      job.reconcilable moment := by
    rw [status_reconcile]
    by_cases hreconcilable : job.reconcilable moment
    · have hrunning := hreconcilable
      simp only [CrawlJob.reconcilable, Bool.and_eq_true, decide_eq_true_eq] at hrunning
      simp [hreconcilable, hrunning.1]
    · simp only [if_neg hreconcilable, iff_false_right hreconcilable]
      rintro ⟨hrunning, hfailed⟩
      rw [hrunning] at hfailed
      cases hfailed
  have hstage : (buildCrawlJobProgress isoformat job moment).stageLabel = (job.stageAndSummary moment).1 := rfl
  have htimeout : (buildCrawlJobProgress isoformat job moment).timeoutAt = none ↔
      job.status.isFinal ∨ job.status = .pending ∧ job.pickedAt = none := h.timeoutAt_progress isoformat
  rcases stageLabel_cases job moment with ⟨hpending, hlabel⟩ | ⟨hrunning, hlease, hlabel⟩ | ⟨hnot, hne, hlabel⟩
  · have hnot : ¬ job.reconcilable moment := by simp [CrawlJob.reconcilable, hpending]
    rw [← hstage] at hlabel
    refine ⟨?_, ?_, ?_, hactive, htimeout⟩
    · rw [hlabel, updated_claim_iff, h.claimable_iff hpending]
      by_cases hlease : job.leaseExpired moment
      · simp [hlease]
      · cases hpicked : job.pickedAt <;> simp [hlease]
    · rw [hlabel, updated_claim_iff, h.claimable_iff hpending]
      by_cases hlease : job.leaseExpired moment
      · simp [hlease]
      · cases hpicked : job.pickedAt <;> simp [hlease, hpending]
    · rw [hexpired, hlabel]
      simp only [hnot, iff_false, Bool.false_eq_true]
      split_ifs <;> decide
  · have hnot : ¬ job.claimable moment := claimable_of_ne_pending (by simp [hrunning])
    rw [← hstage] at hlabel
    refine ⟨?_, ?_, ?_, hactive, htimeout⟩
    · rw [hlabel, updated_claim_iff]
      simp [hnot]
    · rw [hlabel]
      simp [hrunning]
    · rw [hlabel, hexpired]
      simp [CrawlJob.reconcilable, hrunning, hlease]
  · have hunclaimed : ¬ job.claimable moment := claimable_of_ne_pending hne
    rw [← hstage] at hlabel
    simp only [List.mem_cons, List.not_mem_nil, or_false, not_or] at hlabel
    refine ⟨?_, ?_, ?_, hactive, htimeout⟩
    · rw [updated_claim_iff]
      simp [hlabel, hunclaimed]
    · simp [hlabel, hne]
    · rw [hexpired]
      simp [hlabel, hnot]

end Calls

theorem coherent_calls {job : CrawlJob} (h : job.Coherent) (calls : List JobCall) :
    (calls.foldl CrawlJob.call job).Coherent := by
  induction calls generalizing job with
  | nil => exact h
  | cons call calls ih => exact ih (coherent_call h call)

/-- Whatever calls are made on a created job, and whenever the page is opened: the label says that the job waits
exactly where the next dispatch takes it, and that its heartbeat has expired exactly where the next reconcile fails
it; the job is shown as active as long as a reconcile leaves it so. -/
theorem progress_agrees (id sourceSiteId : ℕ) (args : CreateArgs) (now createdAt : Instant) (calls : List JobCall)
    (isoformat : Instant → String) (moment : Instant) :
    ProgressAgrees isoformat (calls.foldl CrawlJob.call (.created id sourceSiteId args now createdAt)) moment :=
  (coherent_calls (coherent_created id sourceSiteId args now createdAt) calls).progressAgrees isoformat moment

end TenderPhase1.Jobs
