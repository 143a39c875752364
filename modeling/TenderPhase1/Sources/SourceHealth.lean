import Mathlib.Data.List.Sort
import TenderPhase1.Foundation.PyNumber
import TenderPhase1.Jobs.Lifecycle

/-!
# The health of a source

Two pairs of thresholds, the status of the latest job and a flag decide on the health of
a source. The run of failures at the end of its history is counted in the ten latest
jobs only, so that a threshold beyond ten is never reached, however long the run is.
-/

namespace TenderPhase1.Sources

open Jobs PyText

/-! ## The rules -/

/-- `HealthRuleSnapshot`; the defaults are `DEFAULT_HEALTH_RULES`. -/
structure HealthRuleSnapshot where
  recentErrorWarningThreshold : ℤ := 3
  recentErrorCriticalThreshold : ℤ := 6
  consecutiveFailureWarningThreshold : ℤ := 1
  consecutiveFailureCriticalThreshold : ℤ := 1
  partialWarningEnabled : Bool := true
  deriving DecidableEq, Repr

inductive RuleValue where
  | bool (value : Bool)
  | int (value : ℤ)
  | float (nonzero : Bool) (integerPart : Option ℤ)
  | text (value : String)
  | bytes (characters : String)
  | other (truth : Bool)
  deriving DecidableEq, Repr

inductive RuleError where
  | notAnInteger
  | refused (message : String)
  deriving DecidableEq, Repr

def RuleValue.truth : RuleValue → Bool
  | .bool value => value
  | .int value => value ≠ 0
  | .float nonzero _ => nonzero
  | .text value | .bytes value => value ≠ ""
  | .other truth => truth

def coerceIntValue (value : RuleValue) : Except RuleError ℤ :=
  let number :=
    match value with
    | .bool value => some (if value then 1 else 0)
    | .int value => some value
    | .float _ integerPart => integerPart
    | .text value => readInt (strip value)
    | .bytes characters => if characters.toList.all (·.toNat < 128) then readInt characters else none
    | .other _ => none
  match number with
  | some n => .ok n
  | none => .error .notAnInteger

/-- One round of the loop of `update_rules` -/
def updateRule (candidate : HealthRuleSnapshot) (update : String × RuleValue) : Except RuleError HealthRuleSnapshot :=
  match update with
  | ("partial_warning_enabled", value) => .ok { candidate with partialWarningEnabled := value.truth }
  | ("recent_error_warning_threshold", value) =>
    (coerceIntValue value).map fun n ↦ { candidate with recentErrorWarningThreshold := n }
  | ("recent_error_critical_threshold", value) =>
    (coerceIntValue value).map fun n ↦ { candidate with recentErrorCriticalThreshold := n }
  | ("consecutive_failure_warning_threshold", value) =>
    (coerceIntValue value).map fun n ↦ { candidate with consecutiveFailureWarningThreshold := n }
  | ("consecutive_failure_critical_threshold", value) =>
    (coerceIntValue value).map fun n ↦ { candidate with consecutiveFailureCriticalThreshold := n }
  | _ => .ok candidate

def validateRules (candidate : HealthRuleSnapshot) : Except RuleError Unit :=
  if candidate.recentErrorWarningThreshold < 0 then
    .error (.refused "recent_error_warning_threshold must be >= 0")
  else if candidate.recentErrorCriticalThreshold < 0 then
    .error (.refused "recent_error_critical_threshold must be >= 0")
  else if candidate.consecutiveFailureWarningThreshold < 0 then
    .error (.refused "consecutive_failure_warning_threshold must be >= 0")
  else if candidate.consecutiveFailureCriticalThreshold < 0 then
    .error (.refused "consecutive_failure_critical_threshold must be >= 0")
  else if candidate.recentErrorWarningThreshold > candidate.recentErrorCriticalThreshold then
    .error (.refused "recent_error_warning_threshold cannot be greater than recent_error_critical_threshold")
  else if candidate.consecutiveFailureWarningThreshold > candidate.consecutiveFailureCriticalThreshold then
    .error (.refused
      "consecutive_failure_warning_threshold cannot be greater than consecutive_failure_critical_threshold")
  else .ok ()

def updateRules (current : HealthRuleSnapshot) (updates : List (String × RuleValue)) :
    Except RuleError HealthRuleSnapshot := do
  let candidate ← updates.foldlM updateRule current
  validateRules candidate
  return candidate

/-! ## The verdict -/

inductive HealthStatus where
  | normal
  | warning
  | critical
  deriving DecidableEq, Repr

def HealthStatus.severity : HealthStatus → ℕ
  | normal => 0
  | warning => 1
  | critical => 2

/-- `HEALTH_STATUS_LABELS` -/
def HealthStatus.label : HealthStatus → String
  | normal => "正常"
  | warning => "警告"
  | critical => "异常"

/-- `JOB_STATUS_LABELS` -/
def jobStatusLabel : JobStatus → String
  | .pending => "等待中"
  | .running => "进行中"
  | .succeeded => "成功"
  | .failed => "失败"
  | .partially => "部分成功"

def evaluateHealthStatus (rules : HealthRuleSnapshot) (latestStatus : Option JobStatus)
    (recent7dErrorCount consecutiveFailureCount : ℕ) : HealthStatus :=
  if rules.recentErrorCriticalThreshold ≤ recent7dErrorCount then .critical
  else if rules.consecutiveFailureCriticalThreshold ≤ consecutiveFailureCount then .critical
  else if latestStatus = some .failed ∧ 1 ≤ consecutiveFailureCount then
    if rules.consecutiveFailureCriticalThreshold ≤ 1 then .critical else .warning
  else if rules.recentErrorWarningThreshold ≤ recent7dErrorCount then .warning
  else if rules.consecutiveFailureWarningThreshold ≤ consecutiveFailureCount then .warning
  else if latestStatus = some .partially then
    if rules.partialWarningEnabled then .warning else .normal
  else if latestStatus = some .succeeded then .normal
  else .warning

/-- The columns of `crawl_error` that the summary reads -/
structure ErrorEntry where
  id : ℕ
  sourceSiteId : ℕ
  createdAt : Instant
  errorMessage : String
  deriving DecidableEq, Repr

/-- The rows a summary is computed from. `config` is the first row of `health_rule_config`. -/
structure HealthRecords where
  jobs : List CrawlJob
  ids_nodup : (jobs.map CrawlJob.id).Nodup
  errors : List ErrorEntry
  config : Option HealthRuleSnapshot

/-- What the clock shows at the reconciliation and when the two counts of seven days are taken -/
structure HealthClock where
  reconciledAt : Instant
  jobsCountedAt : Instant
  errorsCountedAt : Instant

def sevenDays : Instant := seconds (7 * 86400)

/-- `get_rules`, which stores the defaults where there are no rules yet -/
def HealthRecords.rules (records : HealthRecords) : HealthRuleSnapshot := records.config.getD {}

/-- A row after `reconcile_expired_jobs_in_session`; a running job can always be expired. -/
def reconcileJob (moment : Instant) (job : CrawlJob) : CrawlJob :=
  if job.reconcilable moment then (expireJob job moment).toOption.getD job else job

def sourceJobs (jobs : List CrawlJob) (sourceId : ℕ) : List CrawlJob :=
  (jobs.filter (·.sourceSiteId = sourceId)).insertionSort fun job other ↦ other.id ≤ job.id

/-- `_latest_job_map` -/
def latestJob (jobs : List CrawlJob) (sourceId : ℕ) : Option CrawlJob :=
  ((jobs.filter (·.sourceSiteId = sourceId)).map CrawlJob.id).max?.bind fun latestJobId ↦
    jobs.find? (·.id = latestJobId)

/-- `_recent_7d_job_stats` -/
def recent7dJobs (jobs : List CrawlJob) (sourceId : ℕ) (now : Instant) : List CrawlJob :=
  jobs.filter fun job ↦ job.sourceSiteId = sourceId ∧ now - sevenDays ≤ job.createdAt

/-- `_recent_7d_error_count_map` -/
def recent7dErrorCount (errors : List ErrorEntry) (sourceId : ℕ) (now : Instant) : ℕ :=
  errors.countP fun error ↦ error.sourceSiteId = sourceId ∧ now - sevenDays ≤ error.createdAt

def notBlank (text : String) : Option String := if strip text = "" then none else some text

/-- `_latest_error_reason_map` -/
def latestErrorReason (errors : List ErrorEntry) (sourceId : ℕ) : Option String :=
  let ordered := (errors.filter (·.sourceSiteId = sourceId)).insertionSort fun error other ↦
    other.createdAt < error.createdAt ∨ other.createdAt = error.createdAt ∧ other.id ≤ error.id
  ordered.head?.bind fun error ↦ notBlank error.errorMessage

/-- `_latest_failed_job_reason_map` -/
def latestFailedJobReason (jobs : List CrawlJob) (sourceId : ℕ) : Option String :=
  let moment (job : CrawlJob) : Instant := (job.pickedAt <|> job.queuedAt <|> job.startedAt).getD job.createdAt
  let failed := jobs.filter fun job ↦
    job.sourceSiteId = sourceId ∧ (job.status = .failed ∨ job.status = .partially)
  let ordered := failed.insertionSort fun job other ↦
    moment other < moment job ∨ moment other = moment job ∧ other.id ≤ job.id
  ordered.head?.bind fun job ↦ job.failureReason.bind notBlank

def consecutiveFailureCount (jobs : List CrawlJob) (sourceId : ℕ) : ℕ :=
  (((sourceJobs jobs sourceId).take 10).takeWhile (·.status = .failed)).length

structure SourceHealthSummary where
  sourceId : ℕ
  sourceCode : String
  healthStatus : HealthStatus
  healthStatusLabel : String
  latestJobId : Option ℕ
  latestJobStatus : Option JobStatus
  latestJobStatusLabel : String
  latestJobStartedAt : Option Instant
  latestNoticesUpserted : ℤ
  latestErrorCount : ℤ
  latestListItemsSeen : ℤ
  latestListItemsUnique : ℤ
  latestListItemsSourceDuplicatesSkipped : ℤ
  latestDetailPagesFetched : ℤ
  latestSourceDuplicatesSuppressed : ℤ
  recent7dJobCount : ℕ
  recent7dFailedCount : ℕ
  recent7dErrorCount : ℕ
  consecutiveFailed : Bool
  latestFailureReason : String
  deriving DecidableEq, Repr

/-- The round of the loop of `build_health_map` for one source; `jobs` are the reconciled rows. -/
def sourceHealthSummary (records : HealthRecords) (jobs : List CrawlJob) (clock : HealthClock) (sourceId : ℕ)
    (sourceCode : String) : SourceHealthSummary :=
  let job := latestJob jobs sourceId
  let latestStatus := job.map CrawlJob.status
  let failureCount := consecutiveFailureCount jobs sourceId
  let recentJobs := recent7dJobs jobs sourceId clock.jobsCountedAt
  let errorCount := recent7dErrorCount records.errors sourceId clock.errorsCountedAt
  let status := evaluateHealthStatus records.rules latestStatus errorCount failureCount
  let counter (read : JobCounters → ℤ) : ℤ := (job.map fun job ↦ read job.counters).getD 0
  let nonempty (text : Option String) : Option String := text.filter (· ≠ "")
  { sourceId := sourceId
    sourceCode := sourceCode
    healthStatus := status
    healthStatusLabel := status.label
    latestJobId := job.map CrawlJob.id
    latestJobStatus := latestStatus
    latestJobStatusLabel := (latestStatus.map jobStatusLabel).getD "-"
    latestJobStartedAt := job.bind fun job ↦ job.pickedAt <|> job.startedAt <|> job.queuedAt
    latestNoticesUpserted := counter JobCounters.noticesUpserted
    latestErrorCount := counter JobCounters.errorCount
    latestListItemsSeen := counter JobCounters.listItemsSeen
    latestListItemsUnique := counter JobCounters.listItemsUnique
    latestListItemsSourceDuplicatesSkipped := counter JobCounters.listItemsSourceDuplicatesSkipped
    latestDetailPagesFetched := counter JobCounters.detailPagesFetched
    latestSourceDuplicatesSuppressed := counter JobCounters.sourceDuplicatesSuppressed
    recent7dJobCount := recentJobs.length
    recent7dFailedCount := recentJobs.countP (·.status = .failed)
    recent7dErrorCount := errorCount
    consecutiveFailed := 2 ≤ failureCount
    latestFailureReason :=
      (latestErrorReason records.errors sourceId <|> latestFailedJobReason jobs sourceId <|>
        nonempty (job.bind CrawlJob.failureReason) <|> nonempty (job.bind CrawlJob.message)).getD "-" }

def buildHealthMap (records : HealthRecords) (clock : HealthClock) (sources : List (ℕ × String)) :
    List (ℕ × SourceHealthSummary) :=
  let jobs := records.jobs.map (reconcileJob clock.reconciledAt)
  sources.map fun (sourceId, _) ↦
    (sourceId, sourceHealthSummary records jobs clock sourceId ((sources.reverse.lookup sourceId).getD ""))

/-! ## What is reported -/

/-- The threshold pairs that are accepted are in order. -/
structure HealthRuleSnapshot.Valid (rules : HealthRuleSnapshot) : Prop where
  errors_nonneg : 0 ≤ rules.recentErrorWarningThreshold
  errors_le : rules.recentErrorWarningThreshold ≤ rules.recentErrorCriticalThreshold
  failures_nonneg : 0 ≤ rules.consecutiveFailureWarningThreshold
  failures_le : rules.consecutiveFailureWarningThreshold ≤ rules.consecutiveFailureCriticalThreshold

theorem validateRules_eq_ok {rules : HealthRuleSnapshot} (h : validateRules rules = .ok ()) : rules.Valid := by
  unfold validateRules at h
  split_ifs at h
  exact ⟨by omega, by omega, by omega, by omega⟩

/-- The rules that an update leaves are valid. -/
theorem valid_of_updateRules {current rules : HealthRuleSnapshot} {updates : List (String × RuleValue)}
    (h : updateRules current updates = .ok rules) : rules.Valid := by
  obtain ⟨candidate, -, hcandidate⟩ := bind_eq_ok.mp h
  obtain ⟨_, hvalid, hsame⟩ := bind_eq_ok.mp hcandidate
  obtain rfl := Except.ok.inj hsame
  exact validateRules_eq_ok hvalid

section Verdict

variable {rules : HealthRuleSnapshot} {latestStatus : Option JobStatus} {errorCount count : ℕ}

/-- More errors never make a verdict milder. -/
theorem severity_le_of_errors {more : ℕ} (h : errorCount ≤ more) :
    (evaluateHealthStatus rules latestStatus errorCount count).severity ≤
      (evaluateHealthStatus rules latestStatus more count).severity := by
  unfold evaluateHealthStatus
  split_ifs <;> first | omega | decide

/-- Nor does a longer run of failures, where the latest job has failed before and after. -/
theorem severity_le_of_failures {more : ℕ} (hone : 1 ≤ count) (h : count ≤ more) :
    (evaluateHealthStatus rules (some .failed) errorCount count).severity ≤
      (evaluateHealthStatus rules (some .failed) errorCount more).severity := by
  unfold evaluateHealthStatus
  have hfailed : some JobStatus.failed = some .failed ∧ 1 ≤ count := ⟨rfl, hone⟩
  have hfailed' : some JobStatus.failed = some .failed ∧ 1 ≤ more := ⟨rfl, by omega⟩
  rw [if_pos hfailed, if_pos hfailed']
  split_ifs <;> first | omega | decide

end Verdict

section History

variable {jobs : List CrawlJob} {job : CrawlJob} {sourceId : ℕ}

/-- The run of failed jobs at the end of the history of a source -/
def failureRun (jobs : List CrawlJob) (sourceId : ℕ) : ℕ :=
  ((sourceJobs jobs sourceId).takeWhile (·.status = .failed)).length

theorem consecutiveFailureCount_eq (jobs : List CrawlJob) (sourceId : ℕ) :
    consecutiveFailureCount jobs sourceId = min 10 (failureRun jobs sourceId) := by
  unfold consecutiveFailureCount failureRun
  rw [← List.take_takeWhile, List.length_take]

theorem mem_sourceJobs : job ∈ sourceJobs jobs sourceId ↔ job ∈ jobs ∧ job.sourceSiteId = sourceId := by
  unfold sourceJobs
  rw [List.mem_insertionSort, List.mem_filter, decide_eq_true_iff]

/-- The latest job is the first one of the history. -/
theorem latestJob_eq (hnodup : (jobs.map CrawlJob.id).Nodup) :
    latestJob jobs sourceId = (sourceJobs jobs sourceId).head? := by
  unfold latestJob
  cases hjobs : sourceJobs jobs sourceId with
  | nil =>
    have hlength : (sourceJobs jobs sourceId).length = (jobs.filter (·.sourceSiteId = sourceId)).length :=
      List.length_insertionSort _ _
    rw [hjobs, List.length_nil] at hlength
    rw [List.length_eq_zero_iff.mp hlength.symm]
    rfl
  | cons latest earlier =>
    obtain ⟨hmem, hsource⟩ := mem_sourceJobs.mp (hjobs ▸ List.mem_cons_self : latest ∈ sourceJobs jobs sourceId)
    have hordered : (sourceJobs jobs sourceId).Pairwise fun job other ↦ other.id ≤ job.id := by
      have : Std.Total fun (job other : CrawlJob) ↦ other.id ≤ job.id := ⟨fun job other ↦ le_total other.id job.id⟩
      have : IsTrans CrawlJob fun job other ↦ other.id ≤ job.id := ⟨fun _ _ _ hfirst hsecond ↦ hsecond.trans hfirst⟩
      exact List.pairwise_insertionSort _ _
    have hmax : ((jobs.filter (·.sourceSiteId = sourceId)).map CrawlJob.id).max? = some latest.id := by
      rw [List.max?_eq_some_iff]
      constructor
      · exact List.mem_map_of_mem (List.mem_filter.mpr ⟨hmem, by simpa using hsource⟩)
      · intro id hid
        obtain ⟨other, hother, rfl⟩ := List.mem_map.mp hid
        have hin : other ∈ sourceJobs jobs sourceId := (List.mem_insertionSort _).mpr hother
        rw [hjobs] at hin hordered
        rcases List.mem_cons.mp hin with rfl | hin
        · exact le_rfl
        · exact List.rel_of_pairwise_cons hordered hin
    rw [hmax, Option.bind_some, List.head?_cons]
    cases hfind : jobs.find? (·.id = latest.id) with
    | none => simpa using List.find?_eq_none.mp hfind latest hmem
    | some found =>
      have hid : found.id = latest.id := by simpa using List.find?_some hfind
      rw [List.inj_on_of_nodup_map hnodup (List.mem_of_find?_eq_some hfind) hmem hid]

/-- A new job of the source comes first in its history. -/
theorem sourceJobs_cons (hjob : job.sourceSiteId = sourceId) (hnew : ∀ other ∈ jobs, other.id < job.id) :
    sourceJobs (job :: jobs) sourceId = job :: sourceJobs jobs sourceId := by
  unfold sourceJobs
  rw [List.filter_cons_of_pos (by simpa using hjob)]
  apply List.insertionSort_cons_of_forall_rel
  intro other hother
  exact (hnew other (List.mem_filter.mp hother).1).le

/-- The latest jobs have all failed just where they are in the run. -/
theorem le_failureRun_iff {n : ℕ} : n ≤ failureRun jobs sourceId ↔
    n ≤ (sourceJobs jobs sourceId).length ∧ ∀ job ∈ (sourceJobs jobs sourceId).take n, job.status = .failed := by
  unfold failureRun
  generalize sourceJobs jobs sourceId = history
  induction history generalizing n with
  | nil => simp
  | cons latest earlier ih =>
    cases n with
    | zero => simp
    | succ n =>
      by_cases hfailed : latest.status = .failed
      · rw [List.takeWhile_cons_of_pos (by simpa using hfailed), List.length_cons, List.length_cons, List.take_succ_cons,
          List.forall_mem_cons, Nat.succ_le_succ_iff, Nat.succ_le_succ_iff, ih]
        simp [hfailed]
      · rw [List.takeWhile_cons_of_neg (by simpa using hfailed), List.take_succ_cons, List.forall_mem_cons]
        simp [hfailed]

@[simp] theorem reconcileJob_id (moment : Instant) (job : CrawlJob) : (reconcileJob moment job).id = job.id := by
  unfold reconcileJob
  split
  · cases hexpired : expireJob job moment with
    | error error => rfl
    | ok expired => exact (expireJob_eq_ok hexpired).2.2.2.2
  · rfl

theorem reconcileJob_of_failed {moment : Instant} (h : job.status = .failed) : reconcileJob moment job = job := by
  unfold reconcileJob CrawlJob.reconcilable
  rw [h]
  rfl

end History

/-! ## The verdict on the whole history -/

/-- The rows that the queries of a summary see -/
def HealthRecords.reconciled (records : HealthRecords) (clock : HealthClock) : List CrawlJob :=
  records.jobs.map (reconcileJob clock.reconciledAt)

theorem HealthRecords.reconciled_ids_nodup (records : HealthRecords) (clock : HealthClock) :
    ((records.reconciled clock).map CrawlJob.id).Nodup := by
  have hids : records.jobs.map (CrawlJob.id ∘ reconcileJob clock.reconciledAt) = records.jobs.map CrawlJob.id :=
    List.map_congr_left fun job _ ↦ reconcileJob_id clock.reconciledAt job
  unfold HealthRecords.reconciled
  rw [List.map_map, hids]
  exact records.ids_nodup

/-- The table of jobs with one more job, whose key is the greatest -/
def HealthRecords.withJob (records : HealthRecords) (job : CrawlJob) (hnew : ∀ other ∈ records.jobs, other.id < job.id) :
    HealthRecords where
  jobs := job :: records.jobs
  ids_nodup := by
    rw [List.map_cons, List.nodup_cons]
    refine ⟨fun hmem ↦ ?_, records.ids_nodup⟩
    obtain ⟨other, hother, hid⟩ := List.mem_map.mp hmem
    exact absurd hid (hnew other hother).ne
  errors := records.errors
  config := records.config

def reportedStatus (records : HealthRecords) (clock : HealthClock) (sources : List (ℕ × String)) (sourceId : ℕ) :
    Option HealthStatus :=
  ((buildHealthMap records clock sources).lookup sourceId).map SourceHealthSummary.healthStatus

/-- Both critical thresholds are judged on the whole history, and what gets worse is not judged milder. -/
structure FaithfulVerdict (records : HealthRecords) (clock : HealthClock) (sources : List (ℕ × String))
    (sourceId : ℕ) : Prop where
  failures : ∀ n, n ≤ (sourceJobs (records.reconciled clock) sourceId).length →
    (∀ job ∈ (sourceJobs (records.reconciled clock) sourceId).take n, job.status = .failed) →
      records.rules.consecutiveFailureCriticalThreshold ≤ n →
        reportedStatus records clock sources sourceId = some .critical
  errors : records.rules.recentErrorCriticalThreshold ≤
      recent7dErrorCount records.errors sourceId clock.errorsCountedAt →
    reportedStatus records clock sources sourceId = some .critical
  failureAppended : ∀ job hnew, job.sourceSiteId = sourceId → job.status = .failed →
    (sourceJobs (records.reconciled clock) sourceId).head?.map CrawlJob.status = some .failed →
      ∀ before ∈ reportedStatus records clock sources sourceId,
        ∀ after ∈ reportedStatus (records.withJob job hnew) clock sources sourceId, before.severity ≤ after.severity
  errorsGrown : ∀ errors, recent7dErrorCount records.errors sourceId clock.errorsCountedAt ≤
      recent7dErrorCount errors sourceId clock.errorsCountedAt →
    ∀ before ∈ reportedStatus records clock sources sourceId,
      ∀ after ∈ reportedStatus { records with errors := errors } clock sources sourceId,
        before.severity ≤ after.severity

section Map

variable {records : HealthRecords} {clock : HealthClock} {sources : List (ℕ × String)} {sourceId : ℕ}

/-- What is reported of a source -/
theorem reportedStatus_eq (hsource : sourceId ∈ sources.map Prod.fst) :
    reportedStatus records clock sources sourceId = some (evaluateHealthStatus records.rules
      ((sourceJobs (records.reconciled clock) sourceId).head?.map CrawlJob.status)
      (recent7dErrorCount records.errors sourceId clock.errorsCountedAt)
      (min 10 (failureRun (records.reconciled clock) sourceId))) := by
  have hlookup : (buildHealthMap records clock sources).lookup sourceId =
      some (sourceHealthSummary records (records.reconciled clock) clock sourceId
        ((sources.reverse.lookup sourceId).getD "")) := by
    unfold buildHealthMap
    generalize sources.reverse = codes
    induction sources with
    | nil => exact absurd hsource List.not_mem_nil
    | cons source rest ih =>
      obtain ⟨id, code⟩ := source
      by_cases hid : sourceId = id
      · subst hid
        exact List.lookup_cons_self
      · have hrest := ih ((List.mem_cons.mp hsource).resolve_left hid)
        dsimp only at hrest ⊢
        rw [List.map_cons, List.lookup_cons, beq_eq_false_iff_ne.mpr hid]
        exact hrest
  unfold reportedStatus
  rw [hlookup, Option.map_some]
  unfold sourceHealthSummary
  dsimp only
  rw [latestJob_eq (records.reconciled_ids_nodup clock), consecutiveFailureCount_eq]

/-- A run of failures ends in a failed job. -/
theorem head?_of_failureRun {jobs : List CrawlJob} (h : 0 < failureRun jobs sourceId) :
    (sourceJobs jobs sourceId).head?.map CrawlJob.status = some .failed := by
  obtain ⟨hlength, hfailed⟩ := le_failureRun_iff.mp h
  cases hjobs : sourceJobs jobs sourceId with
  | nil =>
    rw [hjobs] at hlength
    cases hlength
  | cons latest earlier =>
    rw [hjobs] at hfailed
    exact congrArg some (hfailed latest List.mem_cons_self)

theorem failureRun_of_head? {jobs : List CrawlJob}
    (h : (sourceJobs jobs sourceId).head?.map CrawlJob.status = some .failed) : 1 ≤ failureRun jobs sourceId := by
  rw [le_failureRun_iff]
  cases hjobs : sourceJobs jobs sourceId with
  | nil =>
    rw [hjobs] at h
    cases h
  | cons latest earlier =>
    rw [hjobs] at h
    have hlatest : latest.status = .failed := Option.some.inj h
    exact ⟨by simp, by simpa using hlatest⟩

/-- A verdict is that on the whole history just where the run of failures does not reach a critical threshold
beyond ten, or the errors are critical anyway. -/
theorem faithfulVerdict_iff (hsource : sourceId ∈ sources.map Prod.fst) :
    FaithfulVerdict records clock sources sourceId ↔
      records.rules.consecutiveFailureCriticalThreshold ≤ 10 ∨
        failureRun (records.reconciled clock) sourceId < records.rules.consecutiveFailureCriticalThreshold ∨
          records.rules.recentErrorCriticalThreshold ≤
            recent7dErrorCount records.errors sourceId clock.errorsCountedAt := by
  constructor
  · intro hfaithful
    by_contra hbeyond
    push Not at hbeyond
    obtain ⟨hthreshold, hrun, herrors⟩ := hbeyond
    obtain ⟨hlength, hfailed⟩ := le_failureRun_iff.mp (le_refl (failureRun (records.reconciled clock) sourceId))
    have hcritical := hfaithful.failures _ hlength hfailed hrun
    have hhead := head?_of_failureRun (show 0 < failureRun (records.reconciled clock) sourceId by omega)
    have hmin : min 10 (failureRun (records.reconciled clock) sourceId) = 10 := by omega
    rw [reportedStatus_eq hsource, hhead, hmin] at hcritical
    unfold evaluateHealthStatus at hcritical
    rw [if_neg (by omega), if_neg (by omega), if_pos ⟨rfl, by decide⟩, if_neg (by omega)] at hcritical
    cases hcritical
  · intro hwithin
    constructor
    · intro n hlength hfailed hthreshold
      have hrun : n ≤ failureRun (records.reconciled clock) sourceId := le_failureRun_iff.mpr ⟨hlength, hfailed⟩
      rw [reportedStatus_eq hsource]
      unfold evaluateHealthStatus
      by_cases herrors : records.rules.recentErrorCriticalThreshold ≤
          recent7dErrorCount records.errors sourceId clock.errorsCountedAt
      · rw [if_pos herrors]
      · rw [if_neg herrors, if_pos (by omega)]
    · intro herrors
      rw [reportedStatus_eq hsource]
      unfold evaluateHealthStatus
      rw [if_pos herrors]
    · intro job hnew hjob hfailed hhead before hbefore after hafter
      have hjobs : (records.withJob job hnew).reconciled clock = job :: records.reconciled clock := by
        change reconcileJob clock.reconciledAt job :: records.reconciled clock = _
        rw [reconcileJob_of_failed hfailed]
      have hgreatest : ∀ other ∈ records.reconciled clock, other.id < job.id := by
        intro other hother
        obtain ⟨stored, hstored, rfl⟩ := List.mem_map.mp hother
        rw [reconcileJob_id]
        exact hnew stored hstored
      have hhistory := sourceJobs_cons hjob hgreatest
      have hrun : failureRun (job :: records.reconciled clock) sourceId =
          failureRun (records.reconciled clock) sourceId + 1 := by
        unfold failureRun
        rw [hhistory, List.takeWhile_cons_of_pos (by simpa using hfailed), List.length_cons]
      rw [reportedStatus_eq hsource, hhead] at hbefore
      rw [reportedStatus_eq hsource, hjobs, hrun, hhistory, List.head?_cons, Option.map_some, hfailed] at hafter
      obtain rfl := Option.some.inj hbefore
      obtain rfl := Option.some.inj hafter
      have hone := failureRun_of_head? hhead
      exact severity_le_of_failures (by omega) (by omega)
    · intro errors hmore before hbefore after hafter
      rw [reportedStatus_eq hsource] at hbefore hafter
      obtain rfl := Option.some.inj hbefore
      obtain rfl := Option.some.inj hafter
      exact severity_le_of_errors hmore

/-- A failed job of source 1 -/
def failedJob (id : ℕ) : CrawlJob :=
  { id := id, sourceSiteId := 1, jobType := .scheduled, status := .failed, triggeredBy := none, retryOfJobId := none,
    queuedAt := none, pickedAt := none, startedAt := none, finishedAt := none, heartbeatAt := none, timeoutAt := none,
    leaseExpiresAt := none, counters := {}, jobParamsJson := none, runtimeStatsJson := none, failureReason := none,
    message := none, createdAt := 0 }

/-- A history of failed jobs alone, without any error -/
def failedHistory (count : ℕ) (config : Option HealthRuleSnapshot) : HealthRecords where
  jobs := (List.range count).map failedJob
  ids_nodup := by
    rw [List.map_map]
    exact (List.map_id (List.range count)).symm ▸ List.nodup_range
  errors := []
  config := config

theorem faithfulVerdict_defaults : FaithfulVerdict (failedHistory 3 none) ⟨0, 0, 0⟩ [(1, "anhui_ggzy_zfcg")] 1 :=
  (faithfulVerdict_iff (by decide)).mpr (Or.inl (by decide))

def elevenFailures : HealthRuleSnapshot := { consecutiveFailureCriticalThreshold := 11 }

/-- Eleven failures in a row do not reach a threshold of eleven. -/
theorem elevenFailures_not_critical :
    updateRules {} [("consecutive_failure_critical_threshold", .int 11)] = .ok elevenFailures ∧
      reportedStatus (failedHistory 11 (some elevenFailures)) ⟨0, 0, 0⟩ [(1, "anhui_ggzy_zfcg")] 1 = some .warning ∧
        ¬FaithfulVerdict (failedHistory 11 (some elevenFailures)) ⟨0, 0, 0⟩ [(1, "anhui_ggzy_zfcg")] 1 := by
  have hwarning : reportedStatus (failedHistory 11 (some elevenFailures)) ⟨0, 0, 0⟩ [(1, "anhui_ggzy_zfcg")] 1 =
      some .warning := by decide +kernel
  refine ⟨by decide +kernel, hwarning, fun hfaithful ↦ ?_⟩
  have hcritical := hfaithful.failures 11 (by decide +kernel) (by decide +kernel) (by decide +kernel)
  rw [hwarning] at hcritical
  cases hcritical

end Map

end TenderPhase1.Sources
