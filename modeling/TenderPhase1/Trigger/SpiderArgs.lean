import TenderPhase1.Trigger.CreateCrawlJob

/-!
# The arguments of a crawl

`SourceCrawlTriggerService` on the way from an entry point to `_create_crawl_job`: the
spider arguments are checked and turned into texts, and the job is created with a payload
that repeats them as integers. A retry takes its arguments from the payload of the job it
repeats.
-/

namespace TenderPhase1.Trigger

open Jobs Sources PyText

/-- The arguments of a spider, in the order of the dictionary. -/
abbrev SpiderArgs := List (String × String)

def intArgEntry (key : String) (value : Option ℤ) : SpiderArgs :=
  (value.map fun n ↦ (key, textOfInt n)).toList

def buildSpiderArgs (maxPages backfillYear : Option ℤ) (jobType : JobType) : Except ServiceError SpiderArgs :=
  if maxPages.any (· < 1) then .error (.valueError "max_pages must be >= 1")
  else if backfillYear.any (· < 2000) then .error (.valueError "backfill_year must be >= 2000")
  else .ok (intArgEntry "max_pages" maxPages ++ intArgEntry "backfill_year" backfillYear ++ [("job_type", jobType.text)])

/-- `_as_int_or_none(spider_args.get(key))`. The limit of `readInt` plays no part here: the text was written from a
column or from a checked field of a request. -/
def SpiderArgs.intArg (args : SpiderArgs) (key : String) : Option ℤ :=
  (args.lookup key).bind fun text ↦ intOfText (strip text)

def buildQueuedJobMessage (jobType : JobType) (args : SpiderArgs) : String :=
  String.intercalate "，"
    ([s!"{jobType.text} 任务已入队，等待后台调度执行"] ++
      ((args.intArg "max_pages").map fun n ↦ "最大页数 " ++ textOfInt n).toList ++
      ((args.intArg "backfill_year").map fun n ↦ "回填年份 " ++ textOfInt n).toList)

/-- What `_enqueue_crawl` and `_trigger_crawl` are called with. -/
structure CrawlRequest where
  source : SourceSite
  triggeredBy : String
  jobType : JobType
  retryOfJobId : Option ℕ
  spiderArgs : SpiderArgs

/-- What the entry points of the service have in common. -/
def crawlRequest (source : SourceSite) (triggeredBy : String) (jobType : JobType) (retryOfJobId : Option ℕ)
    (maxPages backfillYear : Option ℤ) : Except ServiceError CrawlRequest :=
  match buildSpiderArgs maxPages backfillYear jobType with
  | .ok spiderArgs => .ok ⟨source, triggeredBy, jobType, retryOfJobId, spiderArgs⟩
  | .error error => .error error

/-- `queue_manual_crawl` and `trigger_manual_crawl` -/
def manualCrawl (source : SourceSite) (maxPages : Option ℤ) (triggeredBy : String) : Except ServiceError CrawlRequest :=
  crawlRequest source triggeredBy .manual none maxPages none

/-- `queue_backfill_crawl` and `trigger_backfill_crawl`, which look at the year first -/
def backfillCrawl (source : SourceSite) (backfillYear : ℤ) (maxPages : Option ℤ) (triggeredBy : String) :
    Except ServiceError CrawlRequest :=
  if backfillYear < 2000 then .error (.valueError "backfill_year must be >= 2000")
  else crawlRequest source triggeredBy .backfill none maxPages (some backfillYear)

/-- `trigger_scheduled_crawl` -/
def scheduledCrawl (source : SourceSite) (maxPages : Option ℤ) (triggeredBy : String) :
    Except ServiceError CrawlRequest :=
  crawlRequest source triggeredBy .scheduled none maxPages none

/-- `queue_retry_crawl` and `trigger_retry_crawl` -/
def retryCrawl (source : SourceSite) (retryOfJobId : ℕ) (maxPages backfillYear : Option ℤ) (triggeredBy : String) :
    Except ServiceError CrawlRequest :=
  crawlRequest source triggeredBy .manualRetry (some retryOfJobId) maxPages backfillYear

/-- The arguments that a retry takes from the job it repeats, once that job has been found fit. -/
def retryCrawlForJob (source : SourceSite) (job : CrawlJob) (maxPages : Option ℤ) (triggeredBy : String) :
    Except ServiceError CrawlRequest :=
  let inheritedBackfillYear := readPayloadInt job.jobParamsJson "backfill_year"
  let inheritedMaxPages := readPayloadInt job.jobParamsJson "max_pages"
  let resolvedMaxPages := maxPages.getD ((inheritedMaxPages.filter (· ≠ 0)).getD source.defaultMaxPages)
  retryCrawl source job.id (some resolvedMaxPages) inheritedBackfillYear triggeredBy

/-- The parameters of the payload that a job of the request is created with. -/
def CrawlRequest.jobParams (request : CrawlRequest) : JobParams where
  sourceCode := request.source.code
  jobType := request.jobType
  triggeredBy := some request.triggeredBy
  maxPages := request.spiderArgs.intArg "max_pages"
  backfillYear := request.spiderArgs.intArg "backfill_year"
  retryOfJobId := request.retryOfJobId

/-- The call of `_create_crawl_job` -/
def CrawlRequest.createArgs (request : CrawlRequest) : CreateArgs where
  jobType := request.jobType
  triggeredBy := some request.triggeredBy
  retryOfJobId := request.retryOfJobId
  jobParamsJson := some (buildJobParamsPayload request.jobParams)
  runtimeStatsJson := some (buildRuntimeStatsPayload { runStage := "queued" })
  failureReason := none
  message := some (buildQueuedJobMessage request.jobType request.spiderArgs)

section Requests

variable {source : SourceSite} {triggeredBy : String} {jobType : JobType} {retryOfJobId : Option ℕ}
  {maxPages backfillYear : Option ℤ} {request : CrawlRequest} {args : SpiderArgs}

/-- The arguments are in their bounds, and each of them is written once. -/
theorem buildSpiderArgs_eq_ok (h : buildSpiderArgs maxPages backfillYear jobType = .ok args) :
    (∀ n ∈ maxPages, 1 ≤ n) ∧ (∀ year ∈ backfillYear, 2000 ≤ year) ∧
      args = intArgEntry "max_pages" maxPages ++ intArgEntry "backfill_year" backfillYear ++
        [("job_type", jobType.text)] := by
  unfold buildSpiderArgs at h
  split at h
  · cases h
  · rename_i hpages
    split at h
    · cases h
    · rename_i hyear
      refine ⟨?_, ?_, (Except.ok.inj h).symm⟩
      · intro n hn
        rw [Option.mem_def] at hn
        simp only [hn, Option.any_some, decide_eq_true_eq] at hpages
        omega
      · intro year hmem
        rw [Option.mem_def] at hmem
        simp only [hmem, Option.any_some, decide_eq_true_eq] at hyear
        omega

theorem crawlRequest_eq_ok (h : crawlRequest source triggeredBy jobType retryOfJobId maxPages backfillYear = .ok request) :
    buildSpiderArgs maxPages backfillYear jobType = .ok request.spiderArgs ∧ request.source = source ∧
      request.triggeredBy = triggeredBy ∧ request.jobType = jobType ∧ request.retryOfJobId = retryOfJobId := by
  unfold crawlRequest at h
  split at h
  · rename_i spiderArgs hargs
    obtain rfl := Except.ok.inj h
    exact ⟨hargs, rfl, rfl, rfl, rfl⟩
  · cases h

/-- The integers that went into the arguments come out again. -/
theorem intArg_maxPages (h : buildSpiderArgs maxPages backfillYear jobType = .ok args) :
    args.intArg "max_pages" = maxPages := by
  obtain ⟨-, -, rfl⟩ := buildSpiderArgs_eq_ok h
  cases maxPages <;> cases backfillYear <;> simp [SpiderArgs.intArg, intArgEntry, List.lookup_cons]

theorem intArg_backfillYear (h : buildSpiderArgs maxPages backfillYear jobType = .ok args) :
    args.intArg "backfill_year" = backfillYear := by
  obtain ⟨-, -, rfl⟩ := buildSpiderArgs_eq_ok h
  cases maxPages <;> cases backfillYear <;> simp [SpiderArgs.intArg, intArgEntry, List.lookup_cons]

theorem retryCrawlForJob_eq_ok {job : CrawlJob} (h : retryCrawlForJob source job maxPages triggeredBy = .ok request) :
    request.retryOfJobId = some job.id ∧ request.source = source := by
  obtain ⟨-, hsource, -, -, hretry⟩ := crawlRequest_eq_ok h
  exact ⟨hretry, hsource⟩

end Requests

end TenderPhase1.Trigger
