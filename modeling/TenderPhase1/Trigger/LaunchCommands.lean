import TenderPhase1.Executors.Runs
import TenderPhase1.Trigger.SpiderArgs

/-!
# The commands of a crawl

A spider is launched by the trigger service, in the process of a request or of the scheduler, or
by a detached worker. The worker gets the parameters of the crawl as its own arguments, which the
dispatcher builds from a `CrawlJobDispatchRequest` and `argparse` takes apart again. The service
of the worker then checks and starts the job and builds the command of the spider, as the service
that runs a job directly does.
-/

namespace TenderPhase1.Trigger

open Jobs Sources PyText Executors

/-! ## What may stand in a command -/

def isCodeChar (c : Char) : Bool := c.isLower || c.isDigit || c = '_'

def sourceCodePattern (text : String) : Bool := text ≠ "" && text.toList.all isCodeChar

/-- `_SPIDER_NAME_PATTERN` and `_SPIDER_ARG_KEY_PATTERN` -/
def namePattern (text : String) : Bool :=
  match text.toList with
  | [] => false
  | c :: chars => c.isLower && chars.all isCodeChar

def hasControlCharacter (text : String) : Bool :=
  text.toList.any fun c ↦ c = Char.ofNat 0 || c = '\r' || c = '\n'

def validateSubprocessFragment (value label : String) : Except ServiceError String :=
  let text := strip value
  if text = "" then .error (.valueError s!"{label} must not be empty")
  else if hasControlCharacter text then .error (.valueError s!"{label} contains unsupported control characters")
  else .ok text

def validateDatabaseUrlForSubprocess (databaseUrl : String) : Except ServiceError String :=
  validateSubprocessFragment databaseUrl "database_url"

def validateSourceCodeForSubprocess (sourceCode : String) : Except ServiceError String :=
  match validateSubprocessFragment sourceCode "source_code" with
  | .error error => .error error
  | .ok normalized =>
      if sourceCodePattern normalized then .ok normalized
      else .error (.valueError "source_code contains unsupported characters")

def allowedDispatchJobTypes : List String := ["manual", "scheduled", "backfill", "manual_retry"]

def validateJobTypeForSubprocess (jobType : String) : Except ServiceError String :=
  match validateSubprocessFragment jobType "job_type" with
  | .error error => .error error
  | .ok normalized =>
      if normalized ∈ allowedDispatchJobTypes then .ok normalized
      else .error (.valueError s!"unsupported job_type for subprocess dispatch: {normalized}")

def validateSpiderNameForSubprocess (spider : String) : Except ServiceError String :=
  match validateSubprocessFragment spider "spider" with
  | .error error => .error error
  | .ok normalized =>
      if namePattern normalized then .ok normalized
      else .error (.valueError "spider contains unsupported characters")

def allowedSpiderArgKeys : List String := ["job_type", "max_pages", "backfill_year"]

def validateSpiderArg (key value : String) : Except ServiceError String :=
  match validateSubprocessFragment key "spider arg key" with
  | .error error => .error error
  | .ok normalizedKey =>
      if ¬ namePattern normalizedKey then .error (.valueError s!"unsupported spider arg key: {normalizedKey}")
      else if normalizedKey ∉ allowedSpiderArgKeys then
        .error (.valueError s!"spider arg is not allowed for subprocess dispatch: {normalizedKey}")
      else validateSubprocessFragment value s!"spider arg value[{normalizedKey}]"

def validateSpiderArgsForSubprocess : SpiderArgs → Except ServiceError Unit
  | [] => .ok ()
  | (key, value) :: args =>
      match validateSpiderArg key value with
      | .error error => .error error
      | .ok _ => validateSpiderArgsForSubprocess args

/-! ## Where a process runs -/

/-- What `resolve_project_python_executable` looks at; all paths are absolute. -/
structure Host where
  projectRoot : String
  virtualEnv : String
  sysExecutable : String
  pathExists : String → Bool

def venvPythonCandidates (venvRoot : String) : List String :=
  [venvRoot ++ "/bin/python", venvRoot ++ "/Scripts/python.exe"]

/-- `_iter_python_candidates` -/
def Host.pythonCandidates (host : Host) : List String :=
  venvPythonCandidates (host.projectRoot ++ "/.venv") ++
    (if strip host.virtualEnv = "" then [] else venvPythonCandidates (strip host.virtualEnv)) ++
    [host.sysExecutable]

/-- `resolve_project_python_executable` -/
def Host.pythonExecutable (host : Host) : String :=
  (host.pythonCandidates.find? host.pathExists).getD host.sysExecutable

/-- A child process inherits the environment; its interpreter is the first word of its command. -/
def Host.spawned (host : Host) : Host := { host with sysExecutable := host.pythonExecutable }

/-! ## The command of the spider -/

/-- The process and the database of a `SourceCrawlTriggerService`. -/
structure TriggerService where
  host : Host
  databaseUrl : String

def scrapyCommand (python databaseUrl spider : String) (crawlJobId : ℤ) (spiderArgs : SpiderArgs) : List String :=
  [python, "-m", "scrapy", "crawl", spider, "-a", "crawl_job_id=" ++ textOfInt crawlJobId,
    "-s", "CRAWLER_WRITER_BACKEND=sqlalchemy", "-s", "CRAWLER_DATABASE_URL=" ++ databaseUrl] ++
  spiderArgs.flatMap fun (key, value) ↦ ["-a", key ++ "=" ++ value]

def TriggerService.buildCommand (service : TriggerService) (spider : String) (crawlJobId : ℤ)
    (spiderArgs : SpiderArgs) : Except ServiceError (List String) := do
  let _ ← validateSpiderNameForSubprocess spider
  let _ ← validateDatabaseUrlForSubprocess service.databaseUrl
  validateSpiderArgsForSubprocess spiderArgs
  return scrapyCommand service.host.pythonExecutable service.databaseUrl spider crawlJobId spiderArgs

def buildRunningJobMessage (jobType : JobType) (spiderName : String) (args : SpiderArgs) : String :=
  String.intercalate "，"
    ([s!"{jobType.text} 任务执行中（spider={spiderName}）"] ++
      ((args.intArg "max_pages").map fun n ↦ "最大页数 " ++ textOfInt n).toList ++
      ((args.intArg "backfill_year").map fun n ↦ "回填年份 " ++ textOfInt n).toList)

/-- The parameters that the payloads of a running crawl repeat. -/
def crawlRun (source : SourceSite) (job : CrawlJob) (jobType : JobType) (spiderName : String) (args : SpiderArgs) :
    CrawlRun where
  sourceCode := source.code
  jobType := jobType
  triggeredBy := job.triggeredBy
  maxPages := args.intArg "max_pages"
  backfillYear := args.intArg "backfill_year"
  retryOfJobId := job.retryOfJobId
  spiderName := spiderName

/-- The call of `start_job_in_session` -/
def runningArgs (run : CrawlRun) (spiderArgs : SpiderArgs) : StartArgs where
  jobParamsJson := .value (some (run.jobParams run.spiderName))
  runtimeStatsJson := .value (some (buildRuntimeStatsPayload {
    runStage := "running", spiderName := some run.spiderName }))
  failureReason := .value none
  message := some (buildRunningJobMessage run.jobType run.spiderName spiderArgs)
  leaseSeconds := defaultRunningLeaseSeconds

/-- `_run_existing_crawl_job` up to the commit of `start_job`: the name of the spider, and the job
as started. -/
def startExistingCrawlJob (jobs : List CrawlJob) (source : SourceSite) (crawlJobId : ℤ) (jobType : JobType)
    (spiderArgs : SpiderArgs) (now : Instant) : Except ServiceError (String × CrawlJob) := do
  let spiderName ← resolveSpiderNameForSource source jobType
  match jobs.find? (fun job ↦ (job.id : ℤ) = crawlJobId) with
  | none => .error (.runtimeError ("crawl_job not found: " ++ textOfInt crawlJobId))
  | some job =>
      if job.sourceSiteId ≠ source.id then
        .error (.valueError (s!"crawl_job source mismatch: crawl_job_id={job.id}, " ++
          s!"source_site_id={job.sourceSiteId}, expected={source.id}"))
      else if job.jobType ≠ jobType then
        .error (.valueError (s!"crawl_job job_type mismatch: crawl_job_id={job.id}, " ++
          s!"job_type={job.jobType.text}, expected={jobType.text}"))
      else
        match startJobInSession job (runningArgs (crawlRun source job jobType spiderName spiderArgs) spiderArgs) now with
        | .error error => .error error
        | .ok none => .error (.crawlJobStartConflict job.id job.status)
        | .ok (some started) => .ok (spiderName, started)

/-- The command that `_run_existing_crawl_job` gives to its runner. -/
def TriggerService.existingCrawlCommand (service : TriggerService) (jobs : List CrawlJob) (source : SourceSite)
    (crawlJobId : ℤ) (jobType : JobType) (spiderArgs : SpiderArgs) (now : Instant) :
    Except ServiceError (List String) := do
  let (spiderName, _) ← startExistingCrawlJob jobs source crawlJobId jobType spiderArgs now
  service.buildCommand spiderName crawlJobId spiderArgs

/-! ## The command of a worker -/

structure CrawlJobDispatchRequest where
  sourceCode : String
  crawlJobId : ℕ
  jobType : JobType
  maxPages : Option ℤ
  backfillYear : Option ℤ
  triggeredBy : Option String := none

/-- The request that `_enqueue_crawl` makes for the job it has created; the code of the source is
read after the creation. -/
def CrawlRequest.dispatchRequest (request : CrawlRequest) (sourceCode : String) (job : CrawlJob) :
    CrawlJobDispatchRequest where
  sourceCode := sourceCode
  crawlJobId := job.id
  jobType := request.jobType
  maxPages := request.spiderArgs.intArg "max_pages"
  backfillYear := request.spiderArgs.intArg "backfill_year"
  triggeredBy := some request.triggeredBy

/-- The request that `_load_candidates` makes from a selected row and the code of its source. -/
def candidateRequest (sourceCode : String) (job : CrawlJob) : CrawlJobDispatchRequest where
  sourceCode := sourceCode
  crawlJobId := job.id
  jobType := job.jobType
  maxPages := readPayloadInt job.jobParamsJson "max_pages"
  backfillYear := readPayloadInt job.jobParamsJson "backfill_year"
  triggeredBy := job.triggeredBy.map strip

def optionWords (flag : String) (value : Option ℤ) : List String :=
  match value with
  | some n => [flag, textOfInt n]
  | none => []

/-- `SubprocessCrawlJobDispatcher._build_command` -/
def workerCommand (host : Host) (databaseUrl : String) (request : CrawlJobDispatchRequest) :
    Except ServiceError (List String) := do
  let _ ← validateSourceCodeForSubprocess request.sourceCode
  let _ ← validateJobTypeForSubprocess request.jobType.text
  let _ ← validateDatabaseUrlForSubprocess databaseUrl
  if request.maxPages.any (· < 1) then .error (.valueError "max_pages must be >= 1")
  else if request.backfillYear.any (· < 2000) then .error (.valueError "backfill_year must be >= 2000")
  else .ok ([host.pythonExecutable, "-m", "app.run_crawl_job", "--database-url", databaseUrl,
    "--source-code", request.sourceCode, "--crawl-job-id", textOfInt request.crawlJobId,
    "--job-type", request.jobType.text] ++
    optionWords "--max-pages" request.maxPages ++ optionWords "--backfill-year" request.backfillYear)

/-! ## The worker -/

def databaseUrlArg (value : String) : Except String String :=
  let text := strip value
  if text = "" then .error "database-url must not be empty"
  else if hasControlCharacter text then .error "database-url contains unsupported control characters"
  else .ok text

def sourceCodeArg (value : String) : Except String String :=
  let text := strip value
  if text = "" then .error "source-code must not be empty"
  else if ¬ sourceCodePattern text then .error "source-code contains unsupported characters"
  else .ok text

def workerFlags : List String :=
  ["--database-url", "--source-code", "--crawl-job-id", "--job-type", "--max-pages", "--backfill-year"]

/-- The options of a command line in their order. `argparse` accepts more ways to write them,
none of which the dispatcher uses: abbreviations, an equals sign, values with a leading dash. -/
def readOptions : List String → Option (List (String × String))
  | [] => some []
  | [_] => none
  | flag :: value :: words =>
      if flag ∈ workerFlags ∧ ¬ startsWith value "-" then (readOptions words).map ((flag, value) :: ·)
      else none

structure WorkerArgs where
  databaseUrl : String
  sourceCode : String
  crawlJobId : ℤ
  jobType : JobType
  maxPages : Option ℤ
  backfillYear : Option ℤ
  deriving DecidableEq, Repr

/-- An option that is not required, with `type=int`. -/
def optionalInt (options : List (String × String)) (flag : String) : Option (Option ℤ) :=
  match options.lookup flag with
  | none => some none
  | some value => (intOfText value).map some

/-- `choices` of the option `--job-type` -/
def jobTypeChoice (value : String) : Option JobType :=
  [JobType.manual, .scheduled, .backfill, .manualRetry].find? (·.text = value)

/-- `_build_parser().parse_args`; a command line that is not accepted ends the process. An option
given twice has its last value. -/
def parseArgs (words : List String) : Option WorkerArgs := do
  let options := (← readOptions words).reverse
  let databaseUrl ← (databaseUrlArg (← options.lookup "--database-url")).toOption
  let sourceCode ← (sourceCodeArg (← options.lookup "--source-code")).toOption
  let crawlJobId ← intOfText (← options.lookup "--crawl-job-id")
  let jobType ← jobTypeChoice (← options.lookup "--job-type")
  let maxPages ← optionalInt options "--max-pages"
  let backfillYear ← optionalInt options "--backfill-year"
  return ⟨databaseUrl, sourceCode, crawlJobId, jobType, maxPages, backfillYear⟩

/-- Why a worker ends without a command for a spider. -/
inductive WorkerStop where
  | usage
  | sourceMissing
  | service (error : ServiceError)
  deriving DecidableEq, Repr

def getModelByCode (sources : List SourceSite) (code : String) : Option SourceSite :=
  sources.find? (·.code = code)

/-- `execute_crawl_job` up to the command -/
def TriggerService.executeCrawlJob (service : TriggerService) (jobs : List CrawlJob) (source : SourceSite)
    (args : WorkerArgs) (now : Instant) : Except ServiceError (List String) := do
  let spiderArgs ← buildSpiderArgs args.maxPages args.backfillYear args.jobType
  service.existingCrawlCommand jobs source args.crawlJobId args.jobType spiderArgs now

/-- `main` of `app/run_crawl_job.py` up to the command of the spider. The service takes its URL
from the engine, which renders the one it was made from. -/
def workerSpiderCommand (host : Host) (renderUrl : String → String) (sources : List SourceSite)
    (jobs : List CrawlJob) (words : List String) (now : Instant) : Except WorkerStop (List String) :=
  match parseArgs words with
  | none => .error .usage
  | some args =>
      match getModelByCode sources args.sourceCode with
      | none => .error .sourceMissing
      | some source =>
          let service : TriggerService := ⟨host, renderUrl args.databaseUrl⟩
          (service.executeCrawlJob jobs source args now).mapError .service

end TenderPhase1.Trigger
