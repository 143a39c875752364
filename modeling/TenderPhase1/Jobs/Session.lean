import TenderPhase1.Foundation.Raising
import TenderPhase1.Jobs.Lifecycle
import TenderPhase1.Sources.Model

/-!
# Job operations inside a session

The functions of the crawl job service that work in the session of their caller:
`reconcile_expired_jobs_in_session`, `_ensure_source_site` and
`create_job_in_session`. The sessions of the program are built with
`autoflush=False`, so their queries see the rows as last flushed and not what the
session has assigned to its objects since.
-/

namespace TenderPhase1.Jobs

open ObjectSession PyText Raising Sources

structure Session where
  sources : UnitOfWork SourceSite
  jobs : UnitOfWork CrawlJob

def Session.opened (sources : List SourceSite) (jobs : List CrawlJob) : Session :=
  ⟨.opened sources, .opened jobs⟩

def Session.rollback (session : Session) : Session := ⟨session.sources.rollback, session.jobs.rollback⟩

/-- What the session meets outside: the database, which hands out keys by a sequence unless it is
SQLite, and the clock, read anew by each function. -/
structure Environment where
  sqlite : Bool
  sourceSequence : ℕ
  jobSequence : ℕ
  reconciledAt : Instant
  queuedAt : Instant
  createdAt : Instant

abbrev Transaction := Program Session ServiceError

/-! ## Statements on the two tables -/

def onSources {Value : Type} (statement : UnitOfWork SourceSite → Value × UnitOfWork SourceSite) :
    Transaction Value := do
  let session ← get
  let (value, sources) := statement session.sources
  set { session with sources := sources }
  return value

def onJobs {Value : Type} (statement : UnitOfWork CrawlJob → Value × UnitOfWork CrawlJob) :
    Transaction Value := do
  let session ← get
  let (value, jobs) := statement session.jobs
  set { session with jobs := jobs }
  return value

/-- `func.max(model_cls.id)`, 0 where there is no row. -/
def maxId {Row : Type} [Entity Row] (rows : List Row) : ℕ := (rows.map Entity.key).foldl max 0

/-- The unique constraints of the two tables: the columns, and the name, of one that the rows break. -/
def brokenConstraint (sources : List SourceSite) (jobs : List CrawlJob) : Option (String × String) :=
  if ¬ (sources.map SourceSite.code).Nodup then some ("source_site.code", "uq_source_site_code")
  else if ¬ (jobs.filterMap CrawlJob.retryOfJobId).Nodup then
    some ("crawl_job.retry_of_job_id", "uq_crawl_job_retry_of_job_id")
  else if ¬ ((jobs.filter (·.status.isActive)).map CrawlJob.sourceSiteId).Nodup then
    some ("crawl_job.source_site_id", "uq_crawl_job_source_active")
  else none

/-- The text of the `IntegrityError` that the driver raises for a constraint. -/
def Environment.integrityMessage (env : Environment) (constraint : String × String) : String :=
  if env.sqlite then "UNIQUE constraint failed: " ++ constraint.1
  else "duplicate key value violates unique constraint \"" ++ constraint.2 ++ "\""

def rollback : Transaction Unit := modify Session.rollback

/-- `session.flush()`; a row that breaks a constraint rolls the transaction back. -/
def flush (env : Environment) : Transaction Unit := do
  let session ← get
  match brokenConstraint session.sources.flushedRows session.jobs.flushedRows with
  | some constraint =>
      rollback
      throw (.integrityError (env.integrityMessage constraint))
  | none => set (⟨session.sources.flush, session.jobs.flush⟩ : Session)

def commit (env : Environment) : Transaction Unit := do
  flush env
  modify fun session ↦ ⟨session.sources.commit, session.jobs.commit⟩

/-! ## Reconciliation -/

/-- Expired running jobs, the one that has waited longest first. -/
def expiredJobs (moment : Instant) (limit : Option ℕ) : Query CrawlJob where
  filter := (·.reconcilable moment)
  order job other :=
    match job.resolveTimeoutAt, other.resolveTimeoutAt with
    | some timeout, some otherTimeout => timeout < otherTimeout || timeout = otherTimeout && job.id ≤ other.id
    | _, _ => true
  limit := limit

/-- Expire one object of the session; nothing is sent to the database. -/
def expireInSession (job : CrawlJob) (now : Instant) : Transaction Unit :=
  match expireJob job now with
  | .ok expired => onJobs fun jobs ↦ ((), jobs.assign expired)
  | .error error => throw error

def expireAllInSession (now : Instant) : List CrawlJob → Transaction Unit
  | [] => pure ()
  | job :: jobs => do
      expireInSession job now
      expireAllInSession now jobs

def reconcileExpiredJobsInSession (moment : Instant) (limit : Option ℕ) : Transaction Unit := do
  let jobs ← onJobs (·.select (expiredJobs moment limit))
  expireAllInSession moment jobs

/-! ## The source of a new job -/

def sourceByCode (code : String) : Query SourceSite where
  filter := (·.code = code)

def byId (source other : SourceSite) : Bool := source.id ≤ other.id

/-- The queries by which `_ensure_source_site` looks for the source, one after the other. -/
def sourceSiteQueries (rawCode code : String) : List (Query SourceSite) :=
  [sourceByCode code] ++
    (if rawCode ≠ code then [sourceByCode rawCode] else []) ++
    (if code = "ggzy_gov_cn_deal" then
      [{ filter := fun source ↦ ["2", "ggzy_gov_cn"].contains source.code, order := byId },
       { filter := fun source ↦ contains source.name "全国公共资源交易平台", order := byId }]
    else [])

def firstSource : List (Query SourceSite) → Transaction (Option SourceSite)
  | [] => pure none
  | query :: queries => do
      match ← onSources (·.scalar query) with
      | some source => return some source
      | none => firstSource queries

/-- Give a source found under another code the canonical one, unless a row has it already. -/
def canonicalSource (source : SourceSite) (code : String) : Transaction SourceSite := do
  let session ← get
  if source.code ≠ code ∧ session.sources.visible.all (·.code ≠ code) then
    let renamed := { source with code := code }
    onSources fun sources ↦ ((), sources.assign renamed)
    return renamed
  else return source

def newSourceSite (id : ℕ) (code : String) (sourceName sourceUrl : Option String) : SourceSite :=
  let url := (asStr sourceUrl).getD "https://example.com"
  { id := id
    code := code
    name := (asStr sourceName).getD code
    baseUrl := url
    officialUrl := url
    listUrl := url
    description := some "auto-created by crawl job service"
    isActive := true
    supportsJsRender := false
    crawlIntervalMinutes := 60 }

def ensureSourceSite (env : Environment) (sourceCode : String) (sourceName sourceUrl : Option String) :
    Transaction SourceSite :=
  match asStr (some sourceCode) with
  | none => throw (.valueError "source_code is required")
  | some rawCode => do
      let code := normalizeSourceCode rawCode
      match ← firstSource (sourceSiteQueries rawCode code) with
      | some source => canonicalSource source code
      | none => do
          let session ← get
          let id := if env.sqlite then maxId session.sources.visible + 1 else env.sourceSequence
          let source := newSourceSite id code sourceName sourceUrl
          onSources fun sources ↦ ((), sources.add source)
          flush env
          return source

/-! ## A new job -/

/-- `create_job_in_session`; the job types that reach it are the four known ones. -/
def createJobInSession (env : Environment) (sourceCode : String) (sourceName sourceUrl : Option String)
    (args : CreateArgs) : Transaction CrawlJob := do
  let source ← ensureSourceSite env sourceCode sourceName sourceUrl
  match args.retryOfJobId with
  | some originalJobId =>
      if (← onJobs (·.get originalJobId)).isNone then
        throw (.valueError s!"retry_of_job_id not found: {originalJobId}")
  | none => pure ()
  let session ← get
  let id := if env.sqlite then maxId session.jobs.visible + 1 else env.jobSequence
  let job := CrawlJob.created id source.id args env.queuedAt env.createdAt
  onJobs fun jobs ↦ ((), jobs.add job)
  flush env
  return job

def CrawlJob.snapshot (job : CrawlJob) : CrawlJob := { job with timeoutAt := job.resolveTimeoutAt }

def getJob (jobId : ℕ) : Transaction (Option CrawlJob) := do
  let session ← get
  return (session.jobs.committed.find? (·.id = jobId)).map CrawlJob.snapshot

/-! ## Rules for the statements -/

section Rules

variable {Value : Type} {post : Except ServiceError Value → Session → Prop} {session : Session}

@[simp]
theorem ends_onSources (statement : UnitOfWork SourceSite → Value × UnitOfWork SourceSite) :
    Ends post (onSources statement) session ↔
      post (.ok (statement session.sources).1) { session with sources := (statement session.sources).2 } :=
  Iff.rfl

@[simp]
theorem ends_onJobs (statement : UnitOfWork CrawlJob → Value × UnitOfWork CrawlJob) :
    Ends post (onJobs statement) session ↔
      post (.ok (statement session.jobs).1) { session with jobs := (statement session.jobs).2 } :=
  Iff.rfl

end Rules

/-- A reconciliation in a session sends nothing: the rows stay as they are flushed and committed. -/
def SameRows (session after : Session) : Prop :=
  after.sources = session.sources ∧ after.jobs.visible = session.jobs.visible ∧
    after.jobs.committed = session.jobs.committed

theorem SameRows.trans {session middle after : Session} (h : SameRows middle after)
    (hmiddle : SameRows session middle) : SameRows session after :=
  ⟨h.1.trans hmiddle.1, h.2.1.trans hmiddle.2.1, h.2.2.trans hmiddle.2.2⟩

theorem keeps_sameRows_expireInSession (session : Session) (job : CrawlJob) (now : Instant) :
    Keeps (SameRows session) (expireInSession job now) := by
  intro current hsame
  unfold expireInSession
  cases expireJob job now with
  | ok expired =>
    rw [ends_onJobs]
    exact ⟨hsame.1, hsame.2.1, hsame.2.2⟩
  | error error =>
    rw [ends_throw]
    exact hsame

theorem keeps_sameRows_expireAllInSession (session : Session) (now : Instant) (jobs : List CrawlJob) :
    Keeps (SameRows session) (expireAllInSession now jobs) := by
  induction jobs with
  | nil => exact keeps_pure ()
  | cons job jobs ih => exact keeps_bind (keeps_sameRows_expireInSession session job now) fun _ ↦ ih

theorem sameRows_reconcile (session : Session) (moment : Instant) (limit : Option ℕ) :
    Ends (fun _ after ↦ SameRows session after) (reconcileExpiredJobsInSession moment limit) session := by
  have hselect : SameRows session { session with jobs := (session.jobs.select (expiredJobs moment limit)).2 } :=
    ⟨rfl, select_visible _ _, select_committed _ _⟩
  rw [reconcileExpiredJobsInSession, ends_bind, ends_onJobs]
  exact keeps_sameRows_expireAllInSession session moment _ _ hselect

theorem expireJob_running {job : CrawlJob} (h : job.status = .running) (now : Instant) :
    ∃ expired, expireJob job now = .ok expired := by
  have hallowed : ensureTransition job.status .failed = .ok () := by
    rw [h]
    rfl
  simp only [expireJob, hallowed]
  exact ⟨_, rfl⟩

theorem ends_expireAllInSession_ok {now : Instant} {jobs : List CrawlJob}
    (h : ∀ job ∈ jobs, job.status = .running) (session : Session) :
    Ends (fun outcome _ ↦ outcome = .ok ()) (expireAllInSession now jobs) session := by
  induction jobs generalizing session with
  | nil => exact rfl
  | cons job jobs ih =>
    obtain ⟨expired, hexpired⟩ := expireJob_running (h job List.mem_cons_self) now
    rw [expireAllInSession, ends_bind, expireInSession, hexpired]
    exact ih (fun other hother ↦ h other (List.mem_cons_of_mem _ hother)) _

/-- In a session that has loaded no job yet, reconciliation raises nothing. -/
theorem ends_reconcile_ok (sources : UnitOfWork SourceSite) (rows : List CrawlJob) (moment : Instant)
    (limit : Option ℕ) :
    Ends (fun outcome _ ↦ outcome = .ok ()) (reconcileExpiredJobsInSession moment limit)
      ⟨sources, .opened rows⟩ := by
  rw [reconcileExpiredJobsInSession, ends_bind, ends_onJobs]
  apply ends_expireAllInSession_ok
  intro job hjob
  rw [select_opened] at hjob
  have hselected : job.reconcilable moment := (filter_of_mem_rows hjob).2
  simp only [CrawlJob.reconcilable, Bool.and_eq_true, decide_eq_true_eq] at hselected
  exact hselected.1

end TenderPhase1.Jobs
