import TenderPhase1.Trigger.LaunchPaths

/-!
# What a retry repeats

A retry takes its page limit and its year from the payload of the job it repeats. The trigger
service writes a payload for every job it creates, and what happens to the job afterwards keeps the
parameters in it. `scripts/run_crawl_job.py` passes its `--spider-arg` values on to the command of
the spider and creates the job without a payload, so a retry of such a job has lost them.
-/

namespace TenderPhase1.Trigger

open Jobs Sources PyText Executors ObjectSession Transition

/-! ## The arguments in a command -/

/-- `argument.split("=", 1)` -/
def splitArgument (argument : String) : String × String :=
  (String.ofList (argument.toList.takeWhile (· ≠ '=')),
    String.ofList ((argument.toList.dropWhile (· ≠ '=')).drop 1))

/-- The arguments for the spider among the options of `scrapy crawl`. -/
def spiderArguments : List String → List (String × String)
  | [] => []
  | [_] => []
  | option :: value :: words =>
      if option = "-a" then splitArgument value :: spiderArguments words else spiderArguments words

/-- The value that the spider gets for a key: the options follow the name of the spider, and of
several arguments with one key the last one counts. -/
def commandArgument (command : List String) (key : String) : Option String :=
  (spiderArguments (command.drop 5)).reverse.lookup key

/-- The retry crawls the year of the original command, and as many pages where it had a limit. -/
def RetryFaithful (original retry : List String) : Prop :=
  commandArgument retry "backfill_year" = commandArgument original "backfill_year" ∧
    ((commandArgument original "max_pages").isSome →
      (commandArgument retry "max_pages").bind intOfText = (commandArgument original "max_pages").bind intOfText)

/-! ## The creators of a job -/

/-- A request that an entry point of the trigger service has accepted. -/
structure ServiceCall where
  source : SourceSite
  triggeredBy : String
  jobType : JobType
  retryOfJobId : Option ℕ
  maxPages : Option ℤ
  backfillYear : Option ℤ
  request : CrawlRequest
  built : crawlRequest source triggeredBy jobType retryOfJobId maxPages backfillYear = .ok request

/-- The command line of `scripts/run_crawl_job.py`, as far as its job and its command depend on it. -/
structure ScriptCall where
  spider : String
  jobType : JobType := .manual
  triggeredBy : String := "cli"
  message : Option String := none
  writerBackend : String := "sqlalchemy"
  spiderArgs : List String
  settings : List String := []

/-- `parse_key_value_map` keeps the keys without the white space around them. -/
def ScriptCall.hasKey (call : ScriptCall) (key : String) : Bool :=
  call.spiderArgs.any fun argument ↦ strip (splitArgument argument).1 = key

def ScriptCall.effectiveSpiderArgs (call : ScriptCall) : List String :=
  if call.hasKey "job_type" then call.spiderArgs else call.spiderArgs ++ ["job_type=" ++ call.jobType.text]

/-- What `build_scrapy_command` of the script builds from valid words. -/
def ScriptCall.command (call : ScriptCall) (python databaseUrl : String) (crawlJobId : ℤ) : List String :=
  [python, "-m", "scrapy", "crawl", call.spider, "-a", "crawl_job_id=" ++ textOfInt crawlJobId] ++
    (call.effectiveSpiderArgs.flatMap fun argument ↦ ["-a", argument]) ++
    ["-s", "CRAWLER_WRITER_BACKEND=" ++ call.writerBackend] ++
    (if databaseUrl = "" then [] else ["-s", "CRAWLER_DATABASE_URL=" ++ databaseUrl]) ++
    (call.settings.flatMap fun setting ↦ ["-s", setting])

/-- The call of `create_job` in `main` of the script -/
def ScriptCall.createArgs (call : ScriptCall) : CreateArgs where
  jobType := call.jobType
  triggeredBy := some call.triggeredBy
  message := call.message

inductive JobCreation where
  | service (call : ServiceCall)
  | script (call : ScriptCall)

def JobCreation.job (id sourceSiteId : ℕ) (now : Instant) : JobCreation → CrawlJob
  | .service call => call.request.createdJob id sourceSiteId now now
  | .script call => .created id sourceSiteId call.createArgs now now

/-- The request that the creator itself works with or hands on. -/
def JobCreation.request (sourceCode : String) (job : CrawlJob) : JobCreation → Option CrawlJobDispatchRequest
  | .service call => some (call.request.dispatchRequest sourceCode job)
  | .script _ => none

/-- The command of the spider for the job: on every launch path of a service, and in the script. -/
def JobCreation.command (python databaseUrl spider : String) (crawlJobId : ℤ) : JobCreation → List String
  | .service call => scrapyCommand python databaseUrl spider crawlJobId call.request.spiderArgs
  | .script call => call.command python databaseUrl crawlJobId

/-- The value of a `--spider-arg`. -/
def ScriptCall.argument (call : ScriptCall) (key : String) : Option String :=
  (call.spiderArgs.map splitArgument).reverse.lookup key

/-- The creator keeps the parameters in the payload, or the script was given none that a retry
would miss: no year, and no page limit but the default of the source. -/
def JobCreation.Repeatable (defaultMaxPages : ℤ) : JobCreation → Prop
  | .service _ => True
  | .script call => call.argument "backfill_year" = none ∧
      ∀ limit, call.argument "max_pages" = some limit → intOfText limit = some defaultMaxPages

/-! ## Reading a command -/

theorem splitArgument_append {key : String} (h : '=' ∉ key.toList) (value : String) :
    splitArgument (key ++ "=" ++ value) = (key, value) := by
  have hkey : ∀ c ∈ key.toList, decide (c ≠ '=') = true := by
    intro c hc
    rw [decide_eq_true_eq]
    rintro rfl
    exact h hc
  have hchars : (key ++ "=" ++ value).toList = key.toList ++ '=' :: value.toList := by
    simp [String.toList_append]
  rw [splitArgument, hchars, List.takeWhile_append_of_pos hkey, List.dropWhile_append_of_pos hkey]
  simp

theorem spiderArguments_flatMap (arguments words : List String) :
    spiderArguments ((arguments.flatMap fun argument ↦ ["-a", argument]) ++ words) =
      arguments.map splitArgument ++ spiderArguments words := by
  induction arguments with
  | nil => rfl
  | cons argument arguments ih =>
    change spiderArguments ("-a" :: argument :: ((arguments.flatMap fun argument ↦ ["-a", argument]) ++ words)) = _
    rw [spiderArguments, if_pos rfl, ih]
    rfl

theorem spiderArguments_settings (settings : List String) :
    spiderArguments (settings.flatMap fun setting ↦ ["-s", setting]) = [] := by
  induction settings with
  | nil => rfl
  | cons setting settings ih =>
    change spiderArguments ("-s" :: setting :: settings.flatMap fun setting ↦ ["-s", setting]) = []
    rw [spiderArguments, if_neg (by decide), ih]

section Arguments

variable (python databaseUrl spider : String) (crawlJobId : ℤ)

theorem splitArgument_crawlJobId (crawlJobId : ℤ) :
    splitArgument ("crawl_job_id=" ++ textOfInt crawlJobId) = ("crawl_job_id", textOfInt crawlJobId) :=
  splitArgument_append (show '=' ∉ "crawl_job_id".toList by decide) (textOfInt crawlJobId)

/-- The service passes on the page limit and the year. -/
theorem commandArgument_scrapyCommand {maxPages backfillYear : Option ℤ} {jobType : JobType} {args : SpiderArgs}
    (h : buildSpiderArgs maxPages backfillYear jobType = .ok args) :
    commandArgument (scrapyCommand python databaseUrl spider crawlJobId args) "max_pages" = maxPages.map textOfInt ∧
      commandArgument (scrapyCommand python databaseUrl spider crawlJobId args) "backfill_year" =
        backfillYear.map textOfInt := by
  obtain ⟨-, -, rfl⟩ := buildSpiderArgs_eq_ok h
  have hpages (n : ℤ) : splitArgument ("max_pages=" ++ textOfInt n) = ("max_pages", textOfInt n) :=
    splitArgument_append (show '=' ∉ "max_pages".toList by decide) _
  have hyear (n : ℤ) : splitArgument ("backfill_year=" ++ textOfInt n) = ("backfill_year", textOfInt n) :=
    splitArgument_append (show '=' ∉ "backfill_year".toList by decide) _
  have htype : splitArgument ("job_type=" ++ jobType.text) = ("job_type", jobType.text) :=
    splitArgument_append (show '=' ∉ "job_type".toList by decide) _
  cases maxPages <;> cases backfillYear <;>
    simp [commandArgument, scrapyCommand, intArgEntry, spiderArguments, splitArgument_crawlJobId, hpages, hyear, htype,
      List.lookup_cons]

/-- The script passes on its own arguments as they are. -/
theorem commandArgument_script (call : ScriptCall) {key : String} (hid : key ≠ "crawl_job_id") (htype : key ≠ "job_type") :
    commandArgument (call.command python databaseUrl crawlJobId) key = call.argument key := by
  have harguments : spiderArguments ((call.command python databaseUrl crawlJobId).drop 5) =
      ("crawl_job_id", textOfInt crawlJobId) :: call.effectiveSpiderArgs.map splitArgument := by
    have hsettings : spiderArguments (["-s", "CRAWLER_WRITER_BACKEND=" ++ call.writerBackend] ++
        (if databaseUrl = "" then [] else ["-s", "CRAWLER_DATABASE_URL=" ++ databaseUrl]) ++
        (call.settings.flatMap fun setting ↦ ["-s", setting])) = [] := by
      split <;> simp [spiderArguments, spiderArguments_settings]
    change spiderArguments ("-a" :: ("crawl_job_id=" ++ textOfInt crawlJobId) ::
      (((call.effectiveSpiderArgs.flatMap fun argument ↦ ["-a", argument]) ++ _ ++ _) ++ _)) = _
    rw [spiderArguments, if_pos rfl, splitArgument_crawlJobId, List.append_assoc, List.append_assoc,
      ← List.append_assoc ["-s", _], spiderArguments_flatMap, hsettings, List.append_nil]
  have hkind : splitArgument ("job_type=" ++ call.jobType.text) = ("job_type", call.jobType.text) :=
    splitArgument_append (show '=' ∉ "job_type".toList by decide) call.jobType.text
  have hlast : (call.effectiveSpiderArgs.map splitArgument).reverse.lookup key = call.argument key := by
    unfold ScriptCall.effectiveSpiderArgs ScriptCall.argument
    split
    · rfl
    · simp [hkind, List.lookup_cons, beq_false_of_ne htype]
  rw [commandArgument, harguments, List.reverse_cons, List.lookup_append, hlast]
  simp [List.lookup_cons, beq_false_of_ne hid]

end Arguments

/-! ## What the payload has kept -/

/-- The parameters that the payload of a new job holds. -/
def JobCreation.params : JobCreation → CrawlParams
  | .service call => ⟨call.maxPages, call.backfillYear⟩
  | .script _ => ⟨none, none⟩

/-- Whatever happens to a job, its payload decodes to what it was created with. -/
theorem paramsOf_creation (creation : JobCreation) (id sourceSiteId : ℕ) (createdAt : Instant) (sourceCode : String)
    (events : List DeliveryEvent) :
    paramsOf (events.foldl Delivery.step (.initial (creation.job id sourceSiteId createdAt)
      (creation.request sourceCode (creation.job id sourceSiteId createdAt)))).row.stored.jobParamsJson =
        creation.params := by
  have hinitial : Carries creation.params (.initial (creation.job id sourceSiteId createdAt)
      (creation.request sourceCode (creation.job id sourceSiteId createdAt))) := by
    cases creation with
    | service call =>
      have hargs := (crawlRequest_eq_ok call.built).1
      refine carries_initial (paramsOf_createdJob hargs id sourceSiteId createdAt createdAt) ?_
      intro made hmade
      rw [← Option.some.inj hmade]
      exact params_dispatchRequest hargs sourceCode _
    | script call => exact carries_initial rfl fun _ hmade ↦ nomatch hmade
  exact (carries_foldl hinitial events).row.stored

section Retries

variable {source : SourceSite} {job : CrawlJob} {triggeredBy : String} {retry : CrawlRequest}

/-- A retry without a page limit of its own is built from the payload and the default of the source. -/
theorem buildSpiderArgs_retry (h : retryCrawlForJob source job none triggeredBy = .ok retry) :
    buildSpiderArgs (some (((paramsOf job.jobParamsJson).maxPages.filter (· ≠ 0)).getD source.defaultMaxPages))
      (paramsOf job.jobParamsJson).backfillYear .manualRetry = .ok retry.spiderArgs :=
  (crawlRequest_eq_ok h).1

/-- A retry of a service call repeats its command but for the number of the job. -/
theorem retryFaithful_service (call : ServiceCall) (python databaseUrl spider : String) (id retryId : ℤ)
    (hparams : paramsOf job.jobParamsJson = ⟨call.maxPages, call.backfillYear⟩)
    (hretry : retryCrawlForJob source job none triggeredBy = .ok retry) :
    RetryFaithful (scrapyCommand python databaseUrl spider id call.request.spiderArgs)
      (scrapyCommand python databaseUrl spider retryId retry.spiderArgs) := by
  have hargs := (crawlRequest_eq_ok call.built).1
  obtain ⟨hpages, -, -⟩ := buildSpiderArgs_eq_ok hargs
  have hretryArgs := buildSpiderArgs_retry hretry
  rw [hparams] at hretryArgs
  obtain ⟨horiginalPages, horiginalYear⟩ := commandArgument_scrapyCommand python databaseUrl spider id hargs
  obtain ⟨hretryPages, hretryYear⟩ := commandArgument_scrapyCommand python databaseUrl spider retryId hretryArgs
  refine ⟨by rw [hretryYear, horiginalYear], ?_⟩
  rw [horiginalPages, hretryPages]
  intro hsome
  cases hlimit : call.maxPages with
  | none => simp [hlimit] at hsome
  | some n =>
    have hpositive := hpages n hlimit
    have hkept : (Option.some n).filter (· ≠ 0) = some n := by
      rw [Option.filter_some, if_pos]
      exact decide_eq_true (by omega)
    simp only [hkept, Option.getD_some, Option.map_some, Option.bind_some]

/-- When the retry of a script job repeats its crawl. -/
theorem retryFaithful_script_iff (call : ScriptCall) (python databaseUrl spider : String) (id retryId : ℤ)
    (hparams : paramsOf job.jobParamsJson = ⟨none, none⟩)
    (hretry : retryCrawlForJob source job none triggeredBy = .ok retry) :
    RetryFaithful (call.command python databaseUrl id)
        (scrapyCommand python databaseUrl spider retryId retry.spiderArgs) ↔
      call.argument "backfill_year" = none ∧
        ∀ limit, call.argument "max_pages" = some limit → intOfText limit = some source.defaultMaxPages := by
  have hretryArgs := buildSpiderArgs_retry hretry
  rw [hparams] at hretryArgs
  obtain ⟨hretryPages, hretryYear⟩ := commandArgument_scrapyCommand python databaseUrl spider retryId hretryArgs
  have hscript {key : String} (hid : key ≠ "crawl_job_id") (htype : key ≠ "job_type") :=
    commandArgument_script python databaseUrl id call hid htype
  rw [RetryFaithful, hretryPages, hretryYear, hscript (show "backfill_year" ≠ "crawl_job_id" by decide) (by decide),
    hscript (show "max_pages" ≠ "crawl_job_id" by decide) (by decide)]
  apply and_congr
  · exact eq_comm
  · cases call.argument "max_pages" with
    | none => simp
    | some limit => simp [eq_comm]

end Retries

/-- Whatever has happened to a job, and however it has ended, its retry repeats the crawl if and only
if the trigger service created the job, or the script did without a year and without a page limit
other than the default of the source. -/
theorem retry_faithful_iff (creation : JobCreation) (id sourceSiteId : ℕ) (createdAt : Instant) (sourceCode : String)
    (events : List DeliveryEvent) (python databaseUrl spider : String) (source : SourceSite) (triggeredBy : String)
    (retryId : ℤ) (retry : CrawlRequest)
    (hretry : retryCrawlForJob source (events.foldl Delivery.step (.initial (creation.job id sourceSiteId createdAt)
      (creation.request sourceCode (creation.job id sourceSiteId createdAt)))).row.stored none triggeredBy = .ok retry) :
    RetryFaithful (creation.command python databaseUrl spider id)
        (scrapyCommand python databaseUrl spider retryId retry.spiderArgs) ↔
      creation.Repeatable source.defaultMaxPages := by
  have hparams := paramsOf_creation creation id sourceSiteId createdAt sourceCode events
  cases creation with
  | service call =>
    exact iff_of_true (retryFaithful_service call python databaseUrl spider id retryId hparams hretry) trivial
  | script call => exact retryFaithful_script_iff call python databaseUrl spider id retryId hparams hretry

/-- The script starts its job, and the spider exits with an error. -/
def scriptFailed : List DeliveryEvent :=
  [.scriptStart { message := some "spider=ggzy_gov_cn_deal" } 0,
    .read 0 (.finish { status := some "failed", message := some "scrapy exited with code 1" }) (seconds 60), .commit 0]

/-- A script call with a page limit that is the default of the source. -/
def scriptFifty : ScriptCall where
  spider := "ggzy_gov_cn_deal"
  spiderArgs := ["max_pages=50"]

theorem retry_faithful_iff_scriptFifty :
    ∃ retry, retryCrawlForJob dealSource (scriptFailed.foldl Delivery.step
        (.initial ((JobCreation.script scriptFifty).job 3 1 0) none)).row.stored none "admin-retry" = .ok retry ∧
      RetryFaithful (scriptFifty.command "python" "sqlite://" 3)
        (scrapyCommand "python" "sqlite://" "ggzy_gov_cn_deal" 4 retry.spiderArgs) := by
  have hretry : retryCrawlForJob dealSource (scriptFailed.foldl Delivery.step
      (.initial ((JobCreation.script scriptFifty).job 3 1 0) none)).row.stored none "admin-retry" =
        .ok ⟨dealSource, "admin-retry", .manualRetry, some 3, [("max_pages", "50"), ("job_type", "manual_retry")]⟩ := by
    rfl
  refine ⟨_, hretry, (retry_faithful_iff (.script scriptFifty) 3 1 0 "ggzy_gov_cn_deal" scriptFailed "python" "sqlite://"
    "ggzy_gov_cn_deal" dealSource "admin-retry" 4 _ hretry).mpr ⟨by rfl, ?_⟩⟩
  intro limit hlimit
  have hargument : scriptFifty.argument "max_pages" = some "50" := by rfl
  rw [hargument] at hlimit
  rw [← Option.some.inj hlimit]
  rfl

/-- A script call for the notices of one year. -/
def scriptYear : ScriptCall where
  spider := "ggzy_gov_cn_deal"
  jobType := .backfill
  spiderArgs := ["backfill_year=2024"]

/-- The script's job fails, and its retry is an ordinary crawl of the default number of pages. -/
theorem not_retry_faithful_scriptYear :
    (scriptFailed.foldl Delivery.step (.initial ((JobCreation.script scriptYear).job 3 1 0) none)).row.stored.status = .failed ∧
      ∃ retry, retryCrawlForJob dealSource (scriptFailed.foldl Delivery.step
          (.initial ((JobCreation.script scriptYear).job 3 1 0) none)).row.stored none "admin-retry" = .ok retry ∧
        ¬ RetryFaithful (scriptYear.command "python" "sqlite://" 3)
          (scrapyCommand "python" "sqlite://" "ggzy_gov_cn_deal" 4 retry.spiderArgs) := by
  refine ⟨by rfl, ⟨dealSource, "admin-retry", .manualRetry, some 3, [("max_pages", "50"), ("job_type", "manual_retry")]⟩,
    by rfl, ?_⟩
  rintro ⟨hyear, -⟩
  exact absurd hyear (by decide +kernel)

end TenderPhase1.Trigger
