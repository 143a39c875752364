import TenderPhase1.Trigger.SpiderArgs

/-!
# Concurrent requests for jobs

The requests that create crawl jobs, statement by statement, next to the transactions of
the job life cycle, on the tables that all of them share. A request is served in a session
of its own; between two of its statements anybody else may commit. The statements are those
of `queue_retry_crawl_for_job`, of the retry-latest action of the admin source page, of
`_create_crawl_job` and of `create_job_in_session`. The insert is sent and committed in one
step: a row that another session has inserted and not yet committed makes the database wait.
-/

namespace TenderPhase1.Trigger

open Jobs Sources ObjectSession PyText

/-- The committed tables, and the sequences that number their rows outside SQLite. -/
structure Tables where
  sources : List SourceSite
  jobs : List CrawlJob
  sourceSequence : ℕ
  jobSequence : ℕ

/-- What a statement meets in the database at an instant. -/
def Tables.environment (tables : Tables) (sqlite : Bool) (now : Instant) : Environment where
  sqlite := sqlite
  sourceSequence := tables.sourceSequence
  jobSequence := tables.jobSequence
  reconciledAt := now
  queuedAt := now
  createdAt := now

/-- The primary keys and unique constraints of both tables: the columns, and the name, of one that
the rows break. -/
def brokenKey (sources : List SourceSite) (jobs : List CrawlJob) : Option (String × String) :=
  if ¬ (sources.map SourceSite.id).Nodup then some ("source_site.id", "source_site_pkey")
  else if ¬ (jobs.map CrawlJob.id).Nodup then some ("crawl_job.id", "crawl_job_pkey")
  else brokenConstraint sources jobs

/-- What a job is created from: the source object of the trigger service, which the script does not
have, and the arguments of `create_job_in_session`. -/
structure Creation where
  source : Option SourceSite
  sourceCode : String
  sourceName : Option String
  sourceUrl : Option String
  args : CreateArgs

def CrawlRequest.creation (request : CrawlRequest) : Creation where
  source := some request.source
  sourceCode := request.source.code
  sourceName := some request.source.name
  sourceUrl := some request.source.baseUrl
  args := request.createArgs

/-- The source of a new job: a row that was found, with the object as it is in memory, or a new row. -/
inductive Site where
  | found (loaded current : SourceSite)
  | fresh (source : SourceSite)

def Site.id : Site → ℕ
  | .found loaded _ => loaded.id
  | .fresh source => source.id

def Site.flush (sources : List SourceSite) : Site → List SourceSite
  | .found loaded current =>
      sources.map fun row ↦ if row.id = loaded.id then SourceSite.writeBack loaded current row else row
  | .fresh source => sources ++ [source]

/-- The row once the objects that the session has expired are flushed. -/
def flushExpiredRow (expired : List InFlight) (row : CrawlJob) : CrawlJob :=
  match expired.find? (·.loaded.id = row.id) with
  | some held => CrawlJob.writeBack held.loaded held.current row
  | none => row

def flushExpired (expired : List InFlight) (jobs : List CrawlJob) : List CrawlJob := jobs.map (flushExpiredRow expired)

inductive Rejection where
  | notFound (message : String)
  | validation (message : String)
  | service (error : ServiceError)

structure RetryArgs where
  maxPages : Option ℤ
  triggeredBy : String

/-- The statement that a request comes to next, with the objects it has loaded; or its end. The stages
with a source of their own belong to the trigger service. -/
inductive Stage where
  | loadOriginal (originalJobId : ℕ) (retry : RetryArgs)
  | loadSource (original : CrawlJob) (retry : RetryArgs)
  | loadRetry (original : CrawlJob) (source : SourceSite) (retry : RetryArgs)
  | loadCandidates (source : SourceSite)
  | loadRetried (source : SourceSite) (candidate : CrawlJob) (candidates : List CrawlJob)
  | reconcile (source : SourceSite) (creation : Creation)
  | checkActive (source : SourceSite) (creation : Creation) (expired : List InFlight)
  | findSource (creation : Creation) (expired : List InFlight) (queries : List (Query SourceSite))
  | nameSource (creation : Creation) (expired : List InFlight) (found : SourceSite)
  | findOriginal (creation : Creation) (expired : List InFlight) (site : Site)
  | numberJob (creation : Creation) (expired : List InFlight) (site : Site)
  | insert (creation : Creation) (expired : List InFlight) (site : Site) (job : CrawlJob)
  | classify (source : SourceSite) (creation : Creation) (message : String)
  | reportActive (source : SourceSite) (creation : Creation)
  | loadSnapshot (creation : Creation) (jobId : ℕ)
  | created (creation : Creation) (job : CrawlJob)
  | rejected (rejection : Rejection)
  | refused (creation : Creation) (error : ServiceError)

/-! ## The steps of a request -/

/-- The beginning of `_create_crawl_job`, which resolves the spider. -/
def Stage.create (request : Except ServiceError CrawlRequest) : Stage :=
  match request with
  | .error error => .rejected (.service error)
  | .ok request =>
      match resolveSpiderNameForSource request.source request.jobType with
      | .error error => .rejected (.service error)
      | .ok _ => .reconcile request.source request.creation

/-- The beginning of `_ensure_source_site` -/
def Stage.ensureSourceSite (creation : Creation) (expired : List InFlight) : Stage :=
  match asStr (some creation.sourceCode) with
  | none => .refused creation (.valueError "source_code is required")
  | some rawCode => .findSource creation expired (sourceSiteQueries rawCode (normalizeSourceCode rawCode))

/-- The loop over the candidates of the retry-latest action: one that is a retry itself is skipped. -/
def Stage.nextCandidate (source : SourceSite) : List CrawlJob → Stage
  | [] => .create (manualCrawl source (some source.defaultMaxPages) "admin")
  | candidate :: candidates =>
      if candidate.retryOfJobId.isSome then .nextCandidate source candidates
      else .loadRetried source candidate candidates

/-- The failed and partial jobs of a source, the newest first. -/
def failedJobsOf (sourceId : ℕ) : Query CrawlJob where
  filter job := job.sourceSiteId = sourceId && (job.status = .failed || job.status = .partially)
  order job other := other.id ≤ job.id
  limit := some 30

/-- The retries of a job, the newest first. -/
def retriesOf (originalJobId : ℕ) : Query CrawlJob where
  filter job := job.retryOfJobId = some originalJobId
  order job other := other.id ≤ job.id

/-- The checks of `queue_retry_crawl_for_job` on the job that it has loaded -/
def Stage.checkOriginal (original : CrawlJob) (retry : RetryArgs) : Stage :=
  if ¬ (original.status = .failed ∨ original.status = .partially) then
    .rejected (.validation "only failed or partial job can be retried")
  else if original.retryOfJobId.isSome then .rejected (.validation "retry job cannot be retried again")
  else .loadSource original retry

/-- The object a query returns for a source row: the one the session has, where it has it. -/
def Creation.sourceObject (creation : Creation) (row : SourceSite) : SourceSite :=
  (creation.source.filter (·.id = row.id)).getD row

/-- An `IntegrityError` of the insert; the script has no handler for it. -/
def Stage.integrityError (creation : Creation) (message : String) : Stage :=
  match creation.source with
  | some source => .classify source creation message
  | none => .refused creation (.integrityError message)

/-- After the commit the service loads the job again, the script has it. -/
def Stage.inserted (creation : Creation) (job : CrawlJob) : Stage :=
  match creation.source with
  | some _ => .loadSnapshot creation job.id
  | none => .created creation job.snapshot

/-- The rest of the handler, where the error is no retry conflict. -/
def Stage.classifyActive (source : SourceSite) (creation : Creation) (message : String) : Stage :=
  if isSourceActiveJobIntegrityError message then .reportActive source creation
  else .refused creation (.integrityError message)

def Tables.proceed (sqlite : Bool) (now : Instant) (tables : Tables) : Stage → Tables × Stage
  | .loadOriginal originalJobId retry =>
      match tables.jobs.find? (·.id = originalJobId) with
      | none => (tables, .rejected (.notFound "crawl_job not found"))
      | some original => (tables, .checkOriginal original retry)
  | .loadSource original retry =>
      match tables.sources.find? (·.id = original.sourceSiteId) with
      | none => (tables, .rejected (.notFound "source not found"))
      | some source => (tables, .loadRetry original source retry)
  | .loadRetry original source retry =>
      match ((retriesOf original.id).rows tables.jobs).head? with
      | some existingRetry =>
          (tables, .rejected (.service (.crawlJobRetryConflict original.id (some existingRetry.id))))
      | none => (tables, .create (retryCrawlForJob source original retry.maxPages retry.triggeredBy))
  | .loadCandidates source => (tables, .nextCandidate source ((failedJobsOf source.id).rows tables.jobs))
  | .loadRetried source candidate candidates =>
      if tables.jobs.any (·.retryOfJobId = some candidate.id) then (tables, .nextCandidate source candidates)
      else if candidate.jobType = .manual then
        (tables, .create (retryCrawlForJob source candidate none "admin-retry"))
      else (tables, .create (manualCrawl source (some source.defaultMaxPages) "admin"))
  | .reconcile source creation =>
      (tables, .checkActive source creation
        (((expiredJobs now none).rows tables.jobs).filterMap (InFlight.load .reconcile now)))
  | .checkActive source creation expired =>
      match ((activeJobsOf source.id).rows tables.jobs).head? with
      | some row =>
          -- a job that the session has expired in memory only is reported as failed
          let activeJob := ((expired.find? (·.loaded.id = row.id)).map InFlight.current).getD row
          (tables, .refused creation (sourceActiveConflict source (some activeJob)))
      | none => (tables, .ensureSourceSite creation expired)
  | .findSource creation expired [] =>
      let env := tables.environment sqlite now
      let id := if env.sqlite then maxId tables.sources + 1 else env.sourceSequence
      let source := newSourceSite id (normalizeSourceCode creation.sourceCode) creation.sourceName creation.sourceUrl
      let numbered := { tables with sourceSequence := tables.sourceSequence + 1 }
      match brokenKey (tables.sources ++ [source]) tables.jobs with
      | some constraint => (numbered, .integrityError creation (env.integrityMessage constraint))
      | none => (numbered, .findOriginal creation expired (.fresh source))
  | .findSource creation expired (query :: queries) =>
      match (query.rows tables.sources).head? with
      | some row => (tables, .nameSource creation expired (creation.sourceObject row))
      | none => (tables, .findSource creation expired queries)
  | .nameSource creation expired found =>
      let code := normalizeSourceCode creation.sourceCode
      if found.code ≠ code ∧ tables.sources.all (·.code ≠ code) then
        (tables, .findOriginal creation expired (.found found { found with code := code }))
      else (tables, .findOriginal creation expired (.found found found))
  | .findOriginal creation expired site =>
      match creation.args.retryOfJobId with
      | none => (tables, .numberJob creation expired site)
      | some originalJobId =>
          if tables.jobs.any (·.id = originalJobId) then (tables, .numberJob creation expired site)
          else (tables, .refused creation (.valueError s!"retry_of_job_id not found: {originalJobId}"))
  | .numberJob creation expired site =>
      let env := tables.environment sqlite now
      let id := if env.sqlite then maxId tables.jobs + 1 else env.jobSequence
      ({ tables with jobSequence := tables.jobSequence + 1 },
        .insert creation expired site (CrawlJob.created id site.id creation.args env.queuedAt env.createdAt))
  | .insert creation expired site job =>
      let env := tables.environment sqlite now
      let sources := site.flush tables.sources
      let jobs := flushExpired expired tables.jobs ++ [job]
      match brokenKey sources jobs with
      | some constraint => (tables, .integrityError creation (env.integrityMessage constraint))
      | none => ({ tables with sources := sources, jobs := jobs }, .inserted creation job)
  | .classify source creation message =>
      match creation.args.retryOfJobId with
      | none => (tables, .classifyActive source creation message)
      | some originalJobId =>
          match ((retriesOf originalJobId).rows tables.jobs).head? with
          | some existingRetry =>
              (tables, .refused creation (.crawlJobRetryConflict originalJobId (some existingRetry.id)))
          | none =>
              if isRetryOfJobIntegrityError message then
                (tables, .refused creation (.crawlJobRetryConflict originalJobId none))
              else (tables, .classifyActive source creation message)
  | .reportActive source creation =>
      (tables, .refused creation
        (sourceActiveConflict source ((activeJobsOf source.id).rows tables.jobs).head?))
  | .loadSnapshot creation jobId =>
      match tables.jobs.find? (·.id = jobId) with
      | some job => (tables, .created creation job.snapshot)
      | none => (tables, .refused creation (.runtimeError s!"crawl_job not found after creation: {jobId}"))
  | .created creation job => (tables, .created creation job)
  | .rejected rejection => (tables, .rejected rejection)
  | .refused creation error => (tables, .refused creation error)

/-! ## All sessions together -/

/-- The tables, the open transaction of every life-cycle session, with the job it is about, and the
request of every session that serves one. -/
structure Server where
  tables : Tables
  operation : ℕ → Option (ℕ × InFlight)
  request : ℕ → Option Stage

def Server.initial (sources : List SourceSite) : Server where
  tables := ⟨sources, [], maxId sources + 1, 1⟩
  operation _ := none
  request _ := none

inductive ServerEvent where
  | claim (jobId : ℕ) (pickedAt : Option Instant) (leaseSeconds : ℤ) (now : Instant)
  | start (jobId : ℕ) (args : StartArgs) (now : Instant)
  | read (txn jobId : ℕ) (op : JobOp) (now : Instant)
  | commit (txn : ℕ)
  | rollback (txn : ℕ)
  | retryJob (session originalJobId : ℕ) (retry : RetryArgs)
  | retryLatest (session sourceId : ℕ)
  | crawl (session : ℕ) (request : Except ServiceError CrawlRequest)
  | createJob (session : ℕ) (sourceCode : String) (sourceName sourceUrl : Option String) (args : CreateArgs)
  | proceed (session : ℕ) (now : Instant)

def Tables.mapJob (tables : Tables) (jobId : ℕ) (f : CrawlJob → CrawlJob) : Tables :=
  { tables with jobs := tables.jobs.map fun row ↦ if row.id = jobId then f row else row }

/-- The row after a conditional UPDATE that may match nothing, or raise before it is sent. -/
def updatedRow (row : CrawlJob) (result : Except ServiceError (Option CrawlJob)) : CrawlJob :=
  match result with
  | .ok (some job) => job
  | .ok none | .error _ => row

/-- A session takes a request, unless it has had one. -/
def Server.accept (state : Server) (session : ℕ) (stage : Stage) : Server :=
  match state.request session with
  | some _ => state
  | none => { state with request := Function.update state.request session (some stage) }

def notRetry (request : Except ServiceError CrawlRequest) : Bool :=
  match request with
  | .ok request => request.retryOfJobId.isNone
  | .error _ => true

def Server.step (sqlite : Bool) (state : Server) : ServerEvent → Server
  | .claim jobId pickedAt leaseSeconds now =>
      { state with tables := state.tables.mapJob jobId fun row ↦
          updatedRow row (claimPendingJobInSession row pickedAt now leaseSeconds) }
  | .start jobId args now =>
      { state with tables := state.tables.mapJob jobId fun row ↦ updatedRow row (startJobInSession row args now) }
  | .read txn jobId op now =>
      match state.operation txn, state.tables.jobs.find? (·.id = jobId) with
      | none, some row =>
          { state with
            operation := Function.update state.operation txn ((InFlight.load op now row).map fun held ↦ (jobId, held)) }
      | _, _ => state
  | .commit txn =>
      match state.operation txn with
      | some (jobId, held) =>
          { state with
            tables := state.tables.mapJob jobId (CrawlJob.writeBack held.loaded held.current)
            operation := Function.update state.operation txn none }
      | none => state
  | .rollback txn => { state with operation := Function.update state.operation txn none }
  | .retryJob session originalJobId retry => state.accept session (.loadOriginal originalJobId retry)
  | .retryLatest session sourceId =>
      match state.tables.sources.find? (·.id = sourceId) with
      | some source => state.accept session (.loadCandidates source)
      | none => state
  | .crawl session request => if notRetry request then state.accept session (.create request) else state
  | .createJob session sourceCode sourceName sourceUrl args =>
      state.accept session
        (.ensureSourceSite ⟨none, sourceCode, sourceName, sourceUrl, { args with retryOfJobId := none }⟩ [])
  | .proceed session now =>
      match state.request session with
      | some stage =>
          let (tables, next) := state.tables.proceed sqlite now stage
          { state with tables := tables, request := Function.update state.request session (some next) }
      | none => state

end TenderPhase1.Trigger
