import TenderPhase1.Jobs.Session
import TenderPhase1.Jobs.Transactions

/-!
# Creating a crawl job on request

`SourceCrawlTriggerService._create_crawl_job`, through which every entry point
of the trigger service creates its job: resolve the spider, reconcile the expired
jobs, refuse a source that has an active job, insert the new one and commit. An
expired running job of the source is reconciled only in the memory of the
session, so the query for active jobs still finds it.
-/

namespace TenderPhase1.Trigger

open Jobs Sources ObjectSession PyText Raising

def resolveSpiderNameForSource (source : SourceSite) (jobType : JobType) : Except ServiceError String :=
  match getSourceAdapter source.code with
  | none => .error (.valueError "仅保存来源信息，尚未接入抓取逻辑")
  | some adapter =>
      if jobType ≠ .scheduled ∧ ¬ supportsJobType source.code jobType then
        let supportedModes := String.intercalate " / " (adapter.supportedJobTypes.map JobType.text)
        .error (.valueError s!"source={source.code} 不支持 job_type={jobType.text}，支持模式: {supportedModes}")
      else
        match (resolveSpiderName source.code).filter (· ≠ "") with
        | some spiderName => .ok spiderName
        | none => .error (.valueError s!"source={source.code} 未配置 spider")

/-- The pending and running jobs of a source, the newest first. -/
def activeJobsOf (sourceId : ℕ) : Query CrawlJob where
  filter job := job.sourceSiteId = sourceId && job.status.isActive
  order job other := other.id ≤ job.id

def loadActiveJobForSource (sourceId : ℕ) : Transaction (Option CrawlJob) :=
  onJobs (·.scalar (activeJobsOf sourceId))

def sourceActiveConflict (source : SourceSite) (activeJob : Option CrawlJob) : ServiceError :=
  .sourceActiveCrawlJobConflict source.code source.id (activeJob.map CrawlJob.id) (activeJob.map CrawlJob.status)

def raiseIfSourceHasActiveJob (source : SourceSite) : Transaction Unit := do
  match ← loadActiveJobForSource source.id with
  | some activeJob => throw (sourceActiveConflict source (some activeJob))
  | none => pure ()

/-- `_is_source_active_job_integrity_error`, on the text of the error -/
def isSourceActiveJobIntegrityError (message : String) : Bool :=
  let rawMessage := lower message
  contains rawMessage "uq_crawl_job_source_active" ||
    contains rawMessage "unique constraint failed" && contains rawMessage "crawl_job.source_site_id"

def isRetryOfJobIntegrityError (message : String) : Bool :=
  let rawMessage := lower message
  contains rawMessage "uq_crawl_job_retry_of_job_id" ||
    contains rawMessage "unique constraint failed" && contains rawMessage "crawl_job.retry_of_job_id"

def loadRetryJobForOriginalJob (originalJobId : ℕ) : Transaction (Option CrawlJob) :=
  onJobs (·.scalar { filter := (·.retryOfJobId = some originalJobId), order := fun job other ↦ other.id ≤ job.id })

def resolveRetryConflictAfterIntegrityError (retryOfJobId : Option ℕ) (message : String) :
    Transaction (Option ServiceError) := do
  match retryOfJobId with
  | none => return none
  | some originalJobId =>
      match ← loadRetryJobForOriginalJob originalJobId with
      | some existingRetry => return some (.crawlJobRetryConflict originalJobId (some existingRetry.id))
      | none =>
          if isRetryOfJobIntegrityError message then return some (.crawlJobRetryConflict originalJobId none)
          else return none

/-- The handler for an `IntegrityError` of the insert or the commit. -/
def integrityHandler (source : SourceSite) (retryOfJobId : Option ℕ) (raised : ServiceError) :
    Transaction ℕ :=
  match raised with
  | .integrityError message => do
      rollback
      match ← resolveRetryConflictAfterIntegrityError retryOfJobId message with
      | some retryConflict => throw retryConflict
      | none =>
          if isSourceActiveJobIntegrityError message then
            let activeJob ← loadActiveJobForSource source.id
            throw (sourceActiveConflict source activeJob)
          else throw raised
  | _ => throw raised

/-- The insert and the commit, with the handler around them. -/
def insertCrawlJob (env : Environment) (source : SourceSite) (args : CreateArgs) : Transaction ℕ :=
  tryCatch
    (do
      let job ← createJobInSession env source.code (some source.name) (some source.baseUrl) args
      commit env
      return job.id)
    (integrityHandler source args.retryOfJobId)

def createCrawlJob (env : Environment) (source : SourceSite) (args : CreateArgs) : Transaction CrawlJob := do
  match resolveSpiderNameForSource source args.jobType with
  | .error error => throw error
  | .ok _ =>
      reconcileExpiredJobsInSession env.reconciledAt none
      raiseIfSourceHasActiveJob source
      let jobId ← insertCrawlJob env source args
      match ← getJob jobId with
      | some snapshot => return snapshot
      | none => throw (.runtimeError s!"crawl_job not found after creation: {jobId}")

/-! ## A source with an expired running job -/

/-- What a trigger on a source with an expired job is meant to come to: the expired job is
committed as failed, and exactly one new pending job of the source is committed. -/
def ReplacesExpiredJob (source : SourceSite) (expiredJobId : ℕ)
    (outcome : Except ServiceError CrawlJob) (after : Session) : Prop :=
  (∃ snapshot, outcome = .ok snapshot) ∧
    (∃ job ∈ after.jobs.committed, job.id = expiredJobId ∧ job.status = .failed) ∧
    (after.jobs.committed.filter fun job ↦ job.sourceSiteId = source.id && job.status = .pending).length = 1

/-- The query for active jobs sees the rows, whatever the session has assigned to its objects. -/
theorem ends_raiseIfSourceHasActiveJob {source : SourceSite} {session : Session} {job : CrawlJob}
    (hjob : job ∈ session.jobs.visible) (hsource : job.sourceSiteId = source.id) (hactive : job.status.isActive) :
    Ends (fun outcome after ↦ (∃ activeJob, outcome = .error (sourceActiveConflict source (some activeJob))) ∧
        SameRows session after) (raiseIfSourceHasActiveJob source) session := by
  have hsame : SameRows session { session with jobs := (session.jobs.scalar (activeJobsOf source.id)).2 } :=
    ⟨rfl, scalar_visible _ _, scalar_committed _ _⟩
  have hmatches : (activeJobsOf source.id).filter job := by
    rw [activeJobsOf]
    simpa [hsource] using hactive
  have hfound : (session.jobs.scalar (activeJobsOf source.id)).1 ≠ none := by
    intro hnone
    exact (scalar_eq_none_iff _ _).mp hnone job hjob hmatches
  obtain ⟨activeJob, hactiveJob⟩ := Option.ne_none_iff_exists'.mp hfound
  rw [raiseIfSourceHasActiveJob, ends_bind, loadActiveJobForSource, ends_onJobs, hactiveJob]
  exact ⟨⟨activeJob, rfl⟩, hsame⟩

/-- While the table holds an expired running job of the source, no trigger on it succeeds and none
leaves a trace in the database; in a session that has loaded no job yet, what it raises for a
source with a spider is the conflict. -/
theorem ends_createCrawlJob_expired (env : Environment) {source : SourceSite} (args : CreateArgs)
    {session : Session} {job : CrawlJob} (hjob : job ∈ session.jobs.visible)
    (hsource : job.sourceSiteId = source.id) (hexpired : job.reconcilable env.reconciledAt) :
    Ends (fun outcome after ↦ SameRows session after ∧ ∃ error, outcome = .error error ∧
        ((resolveSpiderNameForSource source args.jobType).isOk → session.jobs = .opened session.jobs.visible →
          ∃ activeJob, error = sourceActiveConflict source (some activeJob)))
      (createCrawlJob env source args) session := by
  have hactive : job.status.isActive := by
    simp only [CrawlJob.reconcilable, Bool.and_eq_true, decide_eq_true_eq] at hexpired
    rw [hexpired.1]
    rfl
  have hfresh : session.jobs = .opened session.jobs.visible →
      Ends (fun outcome _ ↦ outcome = .ok ()) (reconcileExpiredJobsInSession env.reconciledAt none) session := by
    intro hopened
    have hsession : session = ⟨session.sources, .opened session.jobs.visible⟩ := by rw [← hopened]
    rw [hsession]
    exact ends_reconcile_ok session.sources session.jobs.visible env.reconciledAt none
  have hreconcile : Ends (fun outcome after ↦ SameRows session after ∧
      (session.jobs = .opened session.jobs.visible → outcome = .ok ()))
      (reconcileExpiredJobsInSession env.reconciledAt none) session :=
    ⟨sameRows_reconcile session env.reconciledAt none, hfresh⟩
  unfold createCrawlJob
  cases resolveSpiderNameForSource source args.jobType with
  | error error => exact ⟨⟨rfl, rfl, rfl⟩, error, rfl, fun hresolved ↦ (by cases hresolved)⟩
  | ok spiderName =>
    dsimp only
    rw [ends_bind]
    apply ends_mono hreconcile
    intro reconciled after hafter
    cases reconciled with
    | error error => exact ⟨hafter.1, error, rfl, fun _ hopened ↦ (by cases hafter.2 hopened)⟩
    | ok _ =>
      dsimp only
      rw [ends_bind]
      have hvisible : job ∈ after.jobs.visible := by rwa [hafter.1.2.1]
      apply ends_mono (ends_raiseIfSourceHasActiveJob hvisible hsource hactive)
      intro outcome last hlast
      obtain ⟨⟨activeJob, hconflict⟩, hsame⟩ := hlast
      rw [hconflict]
      exact ⟨hsame.trans hafter.1, _, rfl, fun _ _ ↦ ⟨activeJob, rfl⟩⟩

/-- A trigger on a source with an expired running job never replaces that job: it raises, and
the committed rows stay as they are. -/
theorem createCrawlJob_never_replaces_expired (env : Environment) (source : SourceSite) (args : CreateArgs)
    (session : Session) (job : CrawlJob) (hjob : job ∈ session.jobs.visible)
    (hsource : job.sourceSiteId = source.id) (hexpired : job.reconcilable env.reconciledAt) :
    Ends (fun outcome after ↦
        ¬ ReplacesExpiredJob source job.id outcome after ∧ after.jobs.committed = session.jobs.committed ∧
          ((resolveSpiderNameForSource source args.jobType).isOk → session.jobs = .opened session.jobs.visible →
            ∃ activeJob, outcome = .error (sourceActiveConflict source (some activeJob))))
      (createCrawlJob env source args) session := by
  apply ends_mono (ends_createCrawlJob_expired env args hjob hsource hexpired)
  intro outcome after hafter
  obtain ⟨⟨-, -, hcommitted⟩, error, hraised, hconflict⟩ := hafter
  refine ⟨?_, hcommitted, ?_⟩
  · intro hreplaces
    obtain ⟨snapshot, hok⟩ := hreplaces.1
    rw [hraised] at hok
    cases hok
  · intro hresolved hopened
    obtain ⟨activeJob, herror⟩ := hconflict hresolved hopened
    exact ⟨activeJob, by rw [hraised, herror]⟩

/-- The deal source, with a job that was started and never heard of again. -/
def dealSource : SourceSite where
  id := 1
  code := "ggzy_gov_cn_deal"
  name := "全国公共资源交易平台（政府采购）"
  baseUrl := "https://www.ggzy.gov.cn/"

def lostJob : CrawlJob :=
  ((.initial (.created 1 1 {} 0 0) : JobState ℕ).step (.start (runningStart {}) 0)).stored

def afterLease : Environment where
  sqlite := true
  sourceSequence := 0
  jobSequence := 0
  reconciledAt := seconds 1800
  queuedAt := seconds 1800
  createdAt := seconds 1800

theorem createCrawlJob_never_replaces_expired_lostJob :
    Ends (fun outcome after ↦
        ¬ ReplacesExpiredJob dealSource 1 outcome after ∧ after.jobs.committed = [lostJob] ∧
          ∃ activeJob, outcome = .error (sourceActiveConflict dealSource (some activeJob)))
      (createCrawlJob afterLease dealSource {}) (.opened [dealSource] [lostJob]) := by
  have hexpired : lostJob.reconcilable afterLease.reconciledAt := by decide
  obtain ⟨hreplaces, hcommitted, hconflict⟩ := createCrawlJob_never_replaces_expired afterLease dealSource {}
    (.opened [dealSource] [lostJob]) lostJob List.mem_cons_self rfl hexpired
  exact ⟨hreplaces, hcommitted, hconflict (by decide) rfl⟩

/-- The lost job stays running, and the conflict reports it as failed. -/
theorem createCrawlJob_conflict_lostJob :
    Ends (fun outcome after ↦ ¬ ReplacesExpiredJob dealSource 1 outcome after ∧
        after.jobs.committed.map CrawlJob.status = [.running] ∧
        outcome = .error (.sourceActiveCrawlJobConflict "ggzy_gov_cn_deal" 1 (some 1) (some .failed)))
      (createCrawlJob afterLease dealSource {}) (.opened [dealSource] [lostJob]) := by
  have houtcome : ((createCrawlJob afterLease dealSource {}).run.run (.opened [dealSource] [lostJob])).1 =
      .error (.sourceActiveCrawlJobConflict "ggzy_gov_cn_deal" 1 (some 1) (some .failed)) := by rfl
  refine ⟨?_, by rfl, houtcome⟩
  intro hreplaces
  obtain ⟨snapshot, hok⟩ := hreplaces.1
  rw [houtcome] at hok
  cases hok

end TenderPhase1.Trigger
