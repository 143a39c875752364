import TenderPhase1.Trigger.JobParams

/-!
# All launch paths build one command

A crawl is launched by the service itself, by the worker that got the request of `_enqueue_crawl`,
or by a worker that got a request which a later sweep has made from the row. The parameters pass
through the spider arguments, the payload of the row and the arguments of the worker, and come out
as they went in, so the command of the spider is the same on each path.
-/

namespace TenderPhase1.Trigger

open Jobs Sources PyText Executors ObjectSession Transition

/-! ## Texts of integers -/

theorem hasControlCharacter_textOfInt (number : ℤ) : hasControlCharacter (textOfInt number) = false := by
  rw [hasControlCharacter, List.any_eq_false]
  intro c hc
  rcases forall_mem_textOfInt hc with rfl | hdigit
  · decide
  · have hne (other : Char) (hother : other.isDigit = false) : c ≠ other := by
      rintro rfl
      rw [hother] at hdigit
      cases hdigit
    simp [hne (Char.ofNat 0) (by decide), hne '\r' (by decide), hne '\n' (by decide)]

theorem validateSubprocessFragment_textOfInt (number : ℤ) (label : String) :
    validateSubprocessFragment (textOfInt number) label = .ok (textOfInt number) := by
  simp only [validateSubprocessFragment, strip_textOfInt, if_neg (textOfInt_ne_empty number),
    hasControlCharacter_textOfInt]
  rfl

/-- The text of a number that is not negative is a value for `argparse`, not an option. -/
theorem startsWith_textOfInt {number : ℤ} (h : 0 ≤ number) : startsWith (textOfInt number) "-" = false := by
  obtain ⟨n, rfl⟩ := Int.eq_ofNat_of_zero_le h
  have htext : (textOfInt (n : ℤ)).toList = Nat.toDigits 10 n := Nat.toList_repr
  have hdigits : ∀ c ∈ Nat.toDigits 10 n, c.isDigit :=
    fun c hc ↦ Nat.isDigit_of_mem_toDigits (by decide) (by decide) hc
  rw [startsWith, htext]
  cases hchars : Nat.toDigits 10 n with
  | nil => rfl
  | cons c chars =>
    have hc : c ≠ '-' := by
      rintro rfl
      cases hdigits '-' (hchars ▸ List.mem_cons_self)
    have hbeq : ('-' == c) = false := beq_false_of_ne hc.symm
    change ('-' :: []).isPrefixOf (c :: chars) = false
    rw [List.isPrefixOf_cons_cons, hbeq]
    rfl

/-! ## Integrated sources -/

/-- The adapters are set up for subprocesses: each supports every job type that is checked, and its
spider passes the validation of names. -/
theorem integratedAdapters_ready : ∀ adapter ∈ integratedAdapters,
    adapter.supportedJobTypes = [.manual, .manualRetry, .backfill] ∧ adapter.spiderName ≠ "" ∧
      validateSpiderNameForSubprocess adapter.spiderName = .ok adapter.spiderName := by
  intro adapter hadapter
  simp only [integratedAdapters, List.mem_cons, List.not_mem_nil, or_false] at hadapter
  rcases hadapter with rfl | rfl | rfl <;> exact ⟨rfl, by decide, by rfl⟩

theorem getSourceAdapter_eq_some {code : String} {adapter : SourceAdapterMeta}
    (h : getSourceAdapter code = some adapter) :
    adapter ∈ integratedAdapters ∧ adapter.sourceCode = normalizeSourceCode code :=
  ⟨List.mem_of_find?_eq_some h, by simpa using List.find?_some h⟩

/-- An integrated source resolves its spider for every job type. -/
theorem resolveSpiderNameForSource_eq_ok {source : SourceSite} {adapter : SourceAdapterMeta}
    (h : getSourceAdapter source.code = some adapter) (jobType : JobType) :
    resolveSpiderNameForSource source jobType = .ok adapter.spiderName := by
  obtain ⟨hsupported, hname, -⟩ := integratedAdapters_ready adapter (getSourceAdapter_eq_some h).1
  have hsupports : ¬ (jobType ≠ .scheduled ∧ ¬ supportsJobType source.code jobType) := by
    simp only [supportsJobType, h, hsupported]
    cases jobType <;> decide
  have hspider : (resolveSpiderName source.code).filter (· ≠ "") = some adapter.spiderName := by
    simp [resolveSpiderName, h, hname]
  simp only [resolveSpiderNameForSource, h, if_neg hsupports, hspider]

/-- The code of an integrated source, without the white space around it. -/
theorem strip_mem_of_getSourceAdapter {code : String} (h : (getSourceAdapter code).isSome) :
    strip code ∈ ["example_source", "anhui_ggzy_zfcg", "ggzy_gov_cn_deal", "2", "ggzy_gov_cn"] := by
  obtain ⟨adapter, hadapter⟩ := Option.isSome_iff_exists.mp h
  obtain ⟨hmem, hcode⟩ := getSourceAdapter_eq_some hadapter
  have hcanonical : normalizeSourceCode code ∈ ["example_source", "anhui_ggzy_zfcg", "ggzy_gov_cn_deal"] := by
    rw [← hcode]
    revert hmem
    simp only [integratedAdapters, List.mem_cons, List.not_mem_nil, or_false]
    rintro (rfl | rfl | rfl) <;> simp
  have hplain (hlookup : legacySourceCodeAliases.lookup (strip code) = none) (hne : strip code ≠ "") :
      normalizeSourceCode code = strip code := by
    simp [normalizeSourceCode, hne, hlookup]
  by_cases hempty : strip code = ""
  · have hnormal : normalizeSourceCode code = "" := by simp [normalizeSourceCode, hempty]
    rw [hnormal] at hcanonical
    exact absurd hcanonical (by decide)
  · by_cases htwo : strip code = "2"
    · simp [htwo]
    · by_cases hlegacy : strip code = "ggzy_gov_cn"
      · simp [hlegacy]
      · have hlookup : legacySourceCodeAliases.lookup (strip code) = none := by
          simp only [legacySourceCodeAliases, List.lookup_cons, beq_false_of_ne htwo, beq_false_of_ne hlegacy,
            List.lookup_nil]
        rw [hplain hlookup hempty] at hcanonical
        exact List.mem_append_left ["2", "ggzy_gov_cn"] hcanonical

/-- The code of a source that has an adapter passes every check on the way. -/
theorem sourceCode_ready {code : String} (h : (getSourceAdapter code).isSome) :
    validateSourceCodeForSubprocess code = .ok (strip code) ∧ sourceCodeArg code = .ok (strip code) ∧
      startsWith code "-" = false := by
  have hready : ∀ text ∈ ["example_source", "anhui_ggzy_zfcg", "ggzy_gov_cn_deal", "2", "ggzy_gov_cn"],
      text ≠ "" ∧ hasControlCharacter text = false ∧ sourceCodePattern text ∧ startsWith text "-" = false := by
    decide +kernel
  obtain ⟨hne, hcontrol, hpattern, hdash⟩ := hready _ (strip_mem_of_getSourceAdapter h)
  refine ⟨?_, ?_, ?_⟩
  · simp [validateSourceCodeForSubprocess, validateSubprocessFragment, hne, hcontrol, hpattern]
  · simp [sourceCodeArg, hne, hpattern]
  · -- a dash in front of the code would still be there after stripping
    by_contra hstarts
    rw [Bool.not_eq_false, startsWith, List.isPrefixOf_iff_prefix] at hstarts
    obtain ⟨rest, hrest⟩ := hstarts
    have hcode : code = "-" ++ String.ofList rest := by
      apply String.toList_injective
      simp [String.toList_append, ← hrest]
    have hkept := startsWith_strip_append (show ∀ c ∈ "-".toList, isSpace c = false by decide) (String.ofList rest)
    rw [← hcode, hdash] at hkept
    cases hkept

/-! ## The command of the spider -/

/-- A way to write a database URL, which the engine made from it renders as `databaseUrl`, and which
is a plain word of a command line. -/
structure EngineUrl (renderUrl : String → String) (databaseUrl written : String) : Prop where
  rendered : renderUrl written = databaseUrl
  plain : validateDatabaseUrlForSubprocess written = .ok written
  notOption : startsWith written "-" = false

theorem databaseUrlArg_of_plain {databaseUrl : String}
    (h : validateDatabaseUrlForSubprocess databaseUrl = .ok databaseUrl) :
    databaseUrlArg databaseUrl = .ok databaseUrl := by
  unfold validateDatabaseUrlForSubprocess validateSubprocessFragment at h
  unfold databaseUrlArg
  dsimp only at h ⊢
  split at h
  · cases h
  · rename_i hne
    split at h
    · cases h
    · rename_i hcontrol
      rw [if_neg hne, if_neg hcontrol, Except.ok.inj h]

/-- The interpreter a process finds is found by the processes it spawns. -/
@[simp]
theorem pythonExecutable_spawned (host : Host) : host.spawned.pythonExecutable = host.pythonExecutable := by
  have hsplit (spawned : Host) : spawned.pythonExecutable =
      ((venvPythonCandidates (spawned.projectRoot ++ "/.venv") ++
        (if strip spawned.virtualEnv = "" then [] else venvPythonCandidates (strip spawned.virtualEnv))).find?
          spawned.pathExists).getD spawned.sysExecutable := by
    rw [Host.pythonExecutable, Host.pythonCandidates, List.find?_append]
    cases List.find? _ _ with
    | some candidate => rfl
    | none =>
      cases hexists : spawned.pathExists spawned.sysExecutable <;> simp [hexists]
  have htwice (found : Option String) (python : String) : found.getD (found.getD python) = found.getD python := by
    cases found <;> rfl
  rw [hsplit host.spawned, hsplit host]
  change (List.find? _ _).getD host.pythonExecutable = _
  rw [hsplit host]
  exact htwice _ _

section Commands

variable {maxPages backfillYear : Option ℤ} {jobType : JobType} {args : SpiderArgs}

theorem validateSpiderArg_int {key : String} (hkey : key = "max_pages" ∨ key = "backfill_year") (number : ℤ) :
    validateSpiderArg key (textOfInt number) = .ok (textOfInt number) := by
  have hvalid : validateSubprocessFragment key "spider arg key" = .ok key ∧ namePattern key ∧ key ∈ allowedSpiderArgKeys := by
    rcases hkey with rfl | rfl <;> exact ⟨by rfl, by decide, by decide⟩
  obtain ⟨hfragment, hname, hallowed⟩ := hvalid
  simp [validateSpiderArg, hfragment, hname, hallowed, validateSubprocessFragment_textOfInt]

theorem validateSpiderArg_jobType (jobType : JobType) : validateSpiderArg "job_type" jobType.text = .ok jobType.text := by
  cases jobType <;> rfl

/-- What `_build_spider_args` builds passes the validation of spider arguments. -/
theorem validateSpiderArgs_built (h : buildSpiderArgs maxPages backfillYear jobType = .ok args) :
    validateSpiderArgsForSubprocess args = .ok () := by
  obtain ⟨-, -, rfl⟩ := buildSpiderArgs_eq_ok h
  have hpages := validateSpiderArg_int (Or.inl rfl : "max_pages" = "max_pages" ∨ _)
  have hyear := validateSpiderArg_int (Or.inr rfl : "backfill_year" = "max_pages" ∨ _)
  cases maxPages <;> cases backfillYear <;>
    simp [intArgEntry, validateSpiderArgsForSubprocess, hpages, hyear, validateSpiderArg_jobType]

theorem jobTypeChoice_text (jobType : JobType) : jobTypeChoice jobType.text = some jobType := by
  cases jobType <;> rfl

theorem validateJobType_text (jobType : JobType) :
    validateJobTypeForSubprocess jobType.text = .ok jobType.text ∧ startsWith jobType.text "-" = false := by
  cases jobType <;> exact ⟨by rfl, by decide⟩

end Commands

section Workers

variable {databaseUrl : String} {request : CrawlJobDispatchRequest}

/-- The options that the dispatcher writes. -/
def writtenOptions (databaseUrl : String) (request : CrawlJobDispatchRequest) : List (String × String) :=
  [("--database-url", databaseUrl), ("--source-code", request.sourceCode),
    ("--crawl-job-id", textOfInt request.crawlJobId), ("--job-type", request.jobType.text)] ++
    (request.maxPages.map fun n ↦ ("--max-pages", textOfInt n)).toList ++
    (request.backfillYear.map fun n ↦ ("--backfill-year", textOfInt n)).toList

/-- Options whose values do not look like options are read as they were written. -/
theorem readOptions_flatMap {options : List (String × String)}
    (h : ∀ option ∈ options, option.1 ∈ workerFlags ∧ startsWith option.2 "-" = false) :
    readOptions (options.flatMap fun option ↦ [option.1, option.2]) = some options := by
  induction options with
  | nil => rfl
  | cons option options ih =>
    obtain ⟨hflag, hvalue⟩ := h option List.mem_cons_self
    have hrest := ih fun other hother ↦ h other (List.mem_cons_of_mem option hother)
    rw [List.flatMap_cons]
    change readOptions (option.1 :: option.2 :: (options.flatMap fun option ↦ [option.1, option.2])) = _
    rw [readOptions, if_pos ⟨hflag, by simp [hvalue]⟩, hrest]
    rfl

/-- No value that the dispatcher writes looks like an option. -/
theorem writtenOptions_readable (hcode : (getSourceAdapter request.sourceCode).isSome)
    (hurl : startsWith databaseUrl "-" = false) (hpages : ∀ n ∈ request.maxPages, 1 ≤ n)
    (hyear : ∀ year ∈ request.backfillYear, 2000 ≤ year) :
    ∀ option ∈ writtenOptions databaseUrl request, option.1 ∈ workerFlags ∧ startsWith option.2 "-" = false := by
  intro option hoption
  simp only [writtenOptions, List.mem_append, List.mem_cons, List.not_mem_nil, or_false, Option.mem_toList,
    Option.map_eq_some_iff] at hoption
  rcases hoption with ((rfl | rfl | rfl | rfl) | ⟨n, hn, rfl⟩) | ⟨year, hmem, rfl⟩
  · exact ⟨by simp [workerFlags], hurl⟩
  · exact ⟨by simp [workerFlags], (sourceCode_ready hcode).2.2⟩
  · exact ⟨by simp [workerFlags], startsWith_textOfInt (Int.natCast_nonneg _)⟩
  · exact ⟨by simp [workerFlags], (validateJobType_text request.jobType).2⟩
  · have hpositive := hpages n hn
    exact ⟨by simp [workerFlags], startsWith_textOfInt (by omega)⟩
  · have hpositive := hyear year hmem
    exact ⟨by simp [workerFlags], startsWith_textOfInt (by omega)⟩

/-- The worker reads from its arguments the request that the dispatcher wrote. -/
theorem parseArgs_written (hcode : (getSourceAdapter request.sourceCode).isSome)
    (hplain : validateDatabaseUrlForSubprocess databaseUrl = .ok databaseUrl)
    (hurl : startsWith databaseUrl "-" = false) (hpages : ∀ n ∈ request.maxPages, 1 ≤ n)
    (hyear : ∀ year ∈ request.backfillYear, 2000 ≤ year) :
    parseArgs ((writtenOptions databaseUrl request).flatMap fun option ↦ [option.1, option.2]) =
      some ⟨databaseUrl, strip request.sourceCode, request.crawlJobId, request.jobType, request.maxPages,
        request.backfillYear⟩ := by
  have hread := readOptions_flatMap (writtenOptions_readable hcode hurl hpages hyear)
  have hsource := (sourceCode_ready hcode).2.1
  have hdatabase := databaseUrlArg_of_plain hplain
  unfold parseArgs
  rw [hread]
  obtain ⟨sourceCode, crawlJobId, jobType, maxPages, backfillYear, triggeredBy⟩ := request
  cases maxPages <;> cases backfillYear <;>
    simp [writtenOptions, List.lookup_cons, hsource, hdatabase, jobTypeChoice_text, optionalInt, Except.toOption]

/-- The command of a worker, whose parts all pass their checks. -/
theorem workerCommand_eq (host : Host) (hcode : (getSourceAdapter request.sourceCode).isSome)
    (hplain : validateDatabaseUrlForSubprocess databaseUrl = .ok databaseUrl)
    (hpages : ∀ n ∈ request.maxPages, 1 ≤ n) (hyear : ∀ year ∈ request.backfillYear, 2000 ≤ year) :
    workerCommand host databaseUrl request =
      .ok ([host.pythonExecutable, "-m", "app.run_crawl_job"] ++
        (writtenOptions databaseUrl request).flatMap fun option ↦ [option.1, option.2]) := by
  have hnoPages : ¬ request.maxPages.any (· < 1) := by
    cases hvalue : request.maxPages with
    | none => simp
    | some n =>
      have hn := hpages n hvalue
      simpa using hn
  have hnoYear : ¬ request.backfillYear.any (· < 2000) := by
    cases hvalue : request.backfillYear with
    | none => simp
    | some year =>
      have hn := hyear year hvalue
      simpa using hn
  unfold workerCommand
  rw [(sourceCode_ready hcode).1, (validateJobType_text request.jobType).1, hplain]
  simp only [ok_bind, if_neg hnoPages, if_neg hnoYear, writtenOptions]
  cases request.maxPages <;> cases request.backfillYear <;> rfl

end Workers

/-! ## The paths -/

/-- The path of a request: the dispatcher spawns a worker for it, and the worker builds a command
of its own. -/
def requestedCommand (host : Host) (renderUrl : String → String) (sources : List SourceSite) (jobs : List CrawlJob)
    (databaseUrl : String) (request : CrawlJobDispatchRequest) (now : Instant) : Except WorkerStop (List String) :=
  match workerCommand host databaseUrl request with
  | .error error => .error (.service error)
  | .ok command => workerSpiderCommand host.spawned renderUrl sources jobs (command.drop 3) now

/-- What a worker does before it builds the command: find the source, check the job and start it. -/
def workerStart (sources : List SourceSite) (jobs : List CrawlJob) (sourceCode : String) (crawlJobId : ℤ)
    (jobType : JobType) (spiderArgs : SpiderArgs) (now : Instant) : Except WorkerStop (String × CrawlJob) :=
  match getModelByCode sources (strip sourceCode) with
  | none => .error .sourceMissing
  | some source => (startExistingCrawlJob jobs source crawlJobId jobType spiderArgs now).mapError .service

section Paths

variable {host : Host} {renderUrl : String → String} {databaseUrl : String} {source : SourceSite}
  {adapter : SourceAdapterMeta} {maxPages backfillYear : Option ℤ} {jobType : JobType} {args : SpiderArgs}

theorem buildCommand_eq (host : Host) (hplain : validateDatabaseUrlForSubprocess databaseUrl = .ok databaseUrl)
    (hadapter : adapter ∈ integratedAdapters) (hargs : buildSpiderArgs maxPages backfillYear jobType = .ok args)
    (crawlJobId : ℤ) :
    TriggerService.buildCommand ⟨host, databaseUrl⟩ adapter.spiderName crawlJobId args =
      .ok (scrapyCommand host.pythonExecutable databaseUrl adapter.spiderName crawlJobId args) := by
  obtain ⟨-, -, hspider⟩ := integratedAdapters_ready adapter hadapter
  unfold TriggerService.buildCommand
  rw [hspider, hplain, validateSpiderArgs_built hargs]
  rfl

/-- The spider that is started is the one of the adapter. -/
theorem startExistingCrawlJob_spider (hadapter : getSourceAdapter source.code = some adapter) {jobs : List CrawlJob}
    {crawlJobId : ℤ} {now : Instant} {started : String × CrawlJob}
    (h : startExistingCrawlJob jobs source crawlJobId jobType args now = .ok started) :
    started.1 = adapter.spiderName := by
  unfold startExistingCrawlJob at h
  rw [resolveSpiderNameForSource_eq_ok hadapter, ok_bind] at h
  split at h
  · cases h
  · split_ifs at h
    split at h
    · cases h
    · cases h
    · rw [← Except.ok.inj h]

/-- The service builds the command once the job is started. -/
theorem existingCrawlCommand_eq (host : Host)
    (hplain : validateDatabaseUrlForSubprocess databaseUrl = .ok databaseUrl)
    (hadapter : getSourceAdapter source.code = some adapter)
    (hargs : buildSpiderArgs maxPages backfillYear jobType = .ok args) (jobs : List CrawlJob) (crawlJobId : ℤ)
    (now : Instant) :
    TriggerService.existingCrawlCommand ⟨host, databaseUrl⟩ jobs source crawlJobId jobType args now =
      (startExistingCrawlJob jobs source crawlJobId jobType args now).map fun _ ↦
        scrapyCommand host.pythonExecutable databaseUrl adapter.spiderName crawlJobId args := by
  unfold TriggerService.existingCrawlCommand
  cases hstart : startExistingCrawlJob jobs source crawlJobId jobType args now with
  | error error => rfl
  | ok started =>
    obtain ⟨spiderName, job⟩ := started
    have hspider : spiderName = adapter.spiderName := startExistingCrawlJob_spider hadapter hstart
    rw [ok_bind, hspider]
    exact buildCommand_eq host hplain (getSourceAdapter_eq_some hadapter).1 hargs crawlJobId

/-- Stripping does not change what a code means. -/
theorem getSourceAdapter_strip (code : String) : getSourceAdapter (strip code) = getSourceAdapter code := by
  have hnormal : normalizeSourceCode (strip code) = normalizeSourceCode code := by
    simp only [normalizeSourceCode, strip_strip]
  rw [getSourceAdapter, getSourceAdapter, hnormal]

/-- A worker that got a request with these parameters builds the command of the service. -/
theorem requestedCommand_eq (host : Host)
    (hplain : validateDatabaseUrlForSubprocess databaseUrl = .ok databaseUrl) {written : String}
    (hwritten : EngineUrl renderUrl databaseUrl written)
    (hargs : buildSpiderArgs maxPages backfillYear jobType = .ok args) (request : CrawlJobDispatchRequest)
    (hadapter : getSourceAdapter request.sourceCode = some adapter)
    (hparams : request.params = ⟨maxPages, backfillYear⟩) (hjobType : request.jobType = jobType)
    (sources : List SourceSite) (jobs : List CrawlJob) (now : Instant) :
    requestedCommand host renderUrl sources jobs written request now =
      (workerStart sources jobs request.sourceCode request.crawlJobId jobType args now).map fun _ ↦
        scrapyCommand host.pythonExecutable databaseUrl adapter.spiderName request.crawlJobId args := by
  obtain ⟨hpages, hyear, -⟩ := buildSpiderArgs_eq_ok hargs
  obtain ⟨rfl, rfl⟩ : request.maxPages = maxPages ∧ request.backfillYear = backfillYear := by
    injection hparams with hfirst hsecond
    exact ⟨hfirst, hsecond⟩
  have hcode : (getSourceAdapter request.sourceCode).isSome := by rw [hadapter]; rfl
  have hdrop (words : List String) : ([host.pythonExecutable, "-m", "app.run_crawl_job"] ++ words).drop 3 = words := rfl
  simp only [requestedCommand, workerCommand_eq host hcode hwritten.plain hpages hyear, hdrop, workerSpiderCommand,
    parseArgs_written hcode hwritten.plain hwritten.notOption hpages hyear, workerStart, hwritten.rendered]
  cases hsource : getModelByCode sources (strip request.sourceCode) with
  | none => rfl
  | some found =>
    have hfound : found.code = strip request.sourceCode := by simpa using List.find?_some hsource
    have hfoundAdapter : getSourceAdapter found.code = some adapter := by
      rw [hfound, getSourceAdapter_strip, hadapter]
    dsimp only [TriggerService.executeCrawlJob]
    rw [hjobType, hargs, ok_bind, existingCrawlCommand_eq host.spawned hplain hfoundAdapter hargs,
      pythonExecutable_spawned]
    cases startExistingCrawlJob jobs found request.crawlJobId jobType args now <;> rfl

/-- The same for a request that was made from a row. -/
theorem candidateCommand_eq (host : Host)
    (hplain : validateDatabaseUrlForSubprocess databaseUrl = .ok databaseUrl) {written : String}
    (hwritten : EngineUrl renderUrl databaseUrl written)
    (hargs : buildSpiderArgs maxPages backfillYear jobType = .ok args) {sourceCode : String} {row : CrawlJob} {id : ℕ}
    (hadapter : getSourceAdapter sourceCode = some adapter)
    (hparams : paramsOf row.jobParamsJson = ⟨maxPages, backfillYear⟩) (hjobType : row.jobType = jobType)
    (hid : row.id = id) (sources : List SourceSite) (jobs : List CrawlJob) (now : Instant) :
    requestedCommand host renderUrl sources jobs written (candidateRequest sourceCode row) now =
      (workerStart sources jobs sourceCode id jobType args now).map fun _ ↦
        scrapyCommand host.pythonExecutable databaseUrl adapter.spiderName id args := by
  have hrequest : (candidateRequest sourceCode row).params = ⟨maxPages, backfillYear⟩ := hparams
  rw [← hid]
  exact requestedCommand_eq host hplain hwritten hargs (candidateRequest sourceCode row) hadapter hrequest hjobType
    sources jobs now

end Paths

/-! ## The row meanwhile -/

/-- No operation gives its object another job type. -/
theorem jobType_perform {op : JobOp} {loaded current : CrawlJob} {now : Instant}
    (h : op.perform loaded now = .ok current) : current.jobType = loaded.jobType := by
  cases op with
  | heartbeat heartbeatAt leaseSeconds =>
    simp only [JobOp.perform, heartbeatJobInSession] at h
    split at h
    · rw [← Except.ok.inj h]
    · obtain ⟨_, -, h⟩ := bind_eq_ok.mp h
      rw [← Except.ok.inj h]
  | recordStats deltas => rw [recordStatsInSession_eq_ok h]
  | finish args =>
    obtain ⟨status, -, -, -, rfl⟩ := finishJobInSession_eq_ok.mp h
    rfl
  | failIfActive args =>
    simp only [JobOp.perform, failJobIfActiveInSession] at h
    split at h
    · rw [← Except.ok.inj h]
    · obtain ⟨status, -, -, -, rfl⟩ := finishJobInSession_eq_ok.mp h
      rfl
  | reconcile =>
    simp only [JobOp.perform] at h
    split at h
    · unfold expireJob at h
      obtain ⟨_, -, h⟩ := bind_eq_ok.mp h
      rw [← Except.ok.inj h]
    · rw [← Except.ok.inj h]

/-- No event changes the id or the type of the job. -/
theorem identity_step (row : JobState ℕ) (event : JobEvent ℕ) :
    (row.step event).stored.id = row.stored.id ∧ (row.step event).stored.jobType = row.stored.jobType := by
  rcases stored_step_cases row event with h | ⟨_, _, _, -, h⟩ | ⟨args, now, -, h⟩ | ⟨txn, held, -, -, h⟩
  · rw [h]
    exact ⟨rfl, rfl⟩
  · obtain ⟨-, -, hclaimed⟩ := claimPendingJobInSession_eq_some h
    rw [hclaimed]
    exact ⟨rfl, rfl⟩
  · unfold startJobInSession at h
    obtain ⟨_, -, h⟩ := bind_eq_ok.mp h
    split at h
    · rw [← Option.some.inj (Except.ok.inj h)]
      exact ⟨rfl, rfl⟩
    · cases Except.ok.inj h
  · rw [h]
    refine ⟨rfl, ?_⟩
    change mergeColumn held.loaded.jobType held.current.jobType row.stored.jobType = row.stored.jobType
    rw [jobType_perform held.performed, mergeColumn_unchanged]

theorem identity_foldl (job : CrawlJob) (request : Option CrawlJobDispatchRequest) (events : List DeliveryEvent) :
    (events.foldl Delivery.step (.initial job request)).row.stored.id = job.id ∧
      (events.foldl Delivery.step (.initial job request)).row.stored.jobType = job.jobType := by
  have hstep (before : Delivery) (event : DeliveryEvent)
      (h : before.row.stored.id = job.id ∧ before.row.stored.jobType = job.jobType) :
      (before.step event).row.stored.id = job.id ∧ (before.step event).row.stored.jobType = job.jobType := by
    simp only [Delivery.step]
    cases before.transaction event with
    | none => exact h
    | some transaction =>
      obtain ⟨hid, hjobType⟩ := identity_step before.row transaction
      exact ⟨hid.trans h.1, hjobType.trans h.2⟩
  exact invariant_run hstep (.initial job request) events ⟨rfl, rfl⟩

/-- The job of a request, as it is created. -/
def CrawlRequest.createdJob (request : CrawlRequest) (id sourceSiteId : ℕ) (now createdAt : Instant) : CrawlJob :=
  .created id sourceSiteId request.createArgs now createdAt

section Creation

variable {source : SourceSite} {triggeredBy : String} {jobType : JobType} {retryOfJobId : Option ℕ}
  {maxPages backfillYear : Option ℤ} {request : CrawlRequest}

/-- Parameters within their bounds make a request. -/
theorem exists_crawlRequest (source : SourceSite) (triggeredBy : String) (jobType : JobType) (retryOfJobId : Option ℕ)
    (hpages : ∀ n ∈ maxPages, 1 ≤ n) (hyear : ∀ year ∈ backfillYear, 2000 ≤ year) :
    ∃ request, crawlRequest source triggeredBy jobType retryOfJobId maxPages backfillYear = .ok request := by
  have hnoPages : ¬ maxPages.any (· < 1) := by
    cases maxPages with
    | none => simp
    | some n => simpa using hpages n rfl
  have hnoYear : ¬ backfillYear.any (· < 2000) := by
    cases backfillYear with
    | none => simp
    | some year => simpa using hyear year rfl
  rw [crawlRequest, buildSpiderArgs, if_neg hnoPages, if_neg hnoYear]
  exact ⟨_, rfl⟩

/-- The payload of a created job decodes to the parameters it was asked for. -/
theorem paramsOf_createdJob (hargs : buildSpiderArgs maxPages backfillYear jobType = .ok request.spiderArgs)
    (id sourceSiteId : ℕ) (now createdAt : Instant) :
    paramsOf (request.createdJob id sourceSiteId now createdAt).jobParamsJson = ⟨maxPages, backfillYear⟩ := by
  change paramsOf (some (buildJobParamsPayload request.jobParams)) = _
  rw [paramsOf_buildJobParamsPayload, CrawlRequest.jobParams, intArg_maxPages hargs, intArg_backfillYear hargs]

theorem params_dispatchRequest (hargs : buildSpiderArgs maxPages backfillYear jobType = .ok request.spiderArgs)
    (sourceCode : String) (job : CrawlJob) :
    (request.dispatchRequest sourceCode job).params = ⟨maxPages, backfillYear⟩ := by
  rw [CrawlJobDispatchRequest.params, CrawlRequest.dispatchRequest, intArg_maxPages hargs, intArg_backfillYear hargs]

end Creation

/-- An integrated source is crawled with one command: the one that the service builds for a job it has
created, that the worker builds which got the request of `_enqueue_crawl`, and that any worker
builds which got a request made from the row, whatever has happened to the row since. Each of them
first checks and starts the job. The code in a request may have become the canonical one on the
way. The payload of the row always decodes to the parameters of the crawl. -/
theorem launch_paths_same_command (host : Host) (renderUrl : String → String) {databaseUrl sweepUrl : String}
    (hurl : EngineUrl renderUrl databaseUrl databaseUrl) (hsweep : EngineUrl renderUrl databaseUrl sweepUrl)
    {source : SourceSite} (hsource : (getSourceAdapter source.code).isSome) (triggeredBy : String) (jobType : JobType)
    (retryOfJobId : Option ℕ) {maxPages backfillYear : Option ℤ} (hpages : ∀ n ∈ maxPages, 1 ≤ n)
    (hyear : ∀ year ∈ backfillYear, 2000 ≤ year) :
    ∃ request spider, crawlRequest source triggeredBy jobType retryOfJobId maxPages backfillYear = .ok request ∧
      resolveSpiderName source.code = some spider ∧
      ∀ (id sourceSiteId : ℕ) (createdAt now : Instant) (sources : List SourceSite) (jobs : List CrawlJob)
        (enqueuedCode sweptCode : String) (events : List DeliveryEvent),
        normalizeSourceCode enqueuedCode = normalizeSourceCode source.code →
        normalizeSourceCode sweptCode = normalizeSourceCode source.code →
        let job := request.createdJob id sourceSiteId createdAt createdAt
        let enqueued := request.dispatchRequest enqueuedCode job
        let row := (events.foldl Delivery.step (.initial job (some enqueued))).row.stored
        let command := scrapyCommand host.pythonExecutable databaseUrl spider id request.spiderArgs
        TriggerService.existingCrawlCommand ⟨host, databaseUrl⟩ jobs source id jobType request.spiderArgs now =
            (startExistingCrawlJob jobs source id jobType request.spiderArgs now).map (fun _ ↦ command) ∧
          requestedCommand host renderUrl sources jobs databaseUrl enqueued now =
            (workerStart sources jobs enqueuedCode id jobType request.spiderArgs now).map (fun _ ↦ command) ∧
          requestedCommand host renderUrl sources jobs sweepUrl (candidateRequest sweptCode row) now =
            (workerStart sources jobs sweptCode id jobType request.spiderArgs now).map (fun _ ↦ command) ∧
          paramsOf row.jobParamsJson = ⟨maxPages, backfillYear⟩ := by
  obtain ⟨adapter, hadapter⟩ := Option.isSome_iff_exists.mp hsource
  obtain ⟨request, hrequest⟩ := exists_crawlRequest source triggeredBy jobType retryOfJobId hpages hyear
  obtain ⟨hargs, -, -, hjobType, -⟩ := crawlRequest_eq_ok hrequest
  have hsame {code : String} (hcode : normalizeSourceCode code = normalizeSourceCode source.code) :
      getSourceAdapter code = some adapter := by
    rw [← hadapter, getSourceAdapter, getSourceAdapter, hcode]
  refine ⟨request, adapter.spiderName, hrequest, by simp [resolveSpiderName, hadapter], ?_⟩
  intro id sourceSiteId createdAt now sources jobs enqueuedCode sweptCode events henqueued hswept job enqueued row command
  have hparams : enqueued.params = ⟨maxPages, backfillYear⟩ := params_dispatchRequest hargs enqueuedCode job
  have hcarries : Carries ⟨maxPages, backfillYear⟩ (events.foldl Delivery.step (.initial job (some enqueued))) := by
    refine carries_foldl (carries_initial (paramsOf_createdJob hargs id sourceSiteId createdAt createdAt) ?_) events
    intro made hmade
    rw [← Option.some.inj hmade]
    exact hparams
  obtain ⟨hid, hrowType⟩ := identity_foldl job (some enqueued) events
  have hcreatedType : job.jobType = jobType := hjobType
  exact ⟨existingCrawlCommand_eq host hurl.plain hadapter hargs jobs id now,
    requestedCommand_eq host hurl.plain hurl hargs enqueued (hsame henqueued) hparams hjobType sources jobs now,
    candidateCommand_eq host hurl.plain hsweep hargs (hsame hswept) hcarries.row.stored (hrowType.trans hcreatedType)
      hid sources jobs now, hcarries.row.stored⟩

/-- A host with a virtual environment in the project. -/
def projectHost : Host where
  projectRoot := "/srv/tender"
  virtualEnv := ""
  sysExecutable := "/usr/bin/python3"
  pathExists path := path = "/srv/tender/.venv/bin/python"

def projectUrl : String := "sqlite:////srv/tender/tender.db"

/-- A backfill of three pages that waits while two dispatchers claim it one after the other. -/
def dealBackfill : CrawlRequest where
  source := dealSource
  triggeredBy := "admin"
  jobType := .backfill
  retryOfJobId := none
  spiderArgs := [("max_pages", "3"), ("backfill_year", "2023"), ("job_type", "backfill")]

def dealBackfillJob : CrawlJob := dealBackfill.createdJob 7 1 0 0

def claimedTwice : List DeliveryEvent := [.claim none 120 0, .sweep "ggzy_gov_cn_deal" 0, .claim none 120 (seconds 121)]

/-- A backfill that is claimed a second time gets its command again. -/
theorem launch_paths_same_command_claimedTwice :
    requestedCommand projectHost (fun url ↦ url) [dealSource] [dealBackfillJob] projectUrl
        (candidateRequest "ggzy_gov_cn_deal" (claimedTwice.foldl Delivery.step
          (.initial dealBackfillJob (some (dealBackfill.dispatchRequest "ggzy_gov_cn_deal" dealBackfillJob)))).row.stored)
        (seconds 122) =
      .ok ["/srv/tender/.venv/bin/python", "-m", "scrapy", "crawl", "ggzy_gov_cn_deal", "-a", "crawl_job_id=7",
        "-s", "CRAWLER_WRITER_BACKEND=sqlalchemy", "-s", "CRAWLER_DATABASE_URL=sqlite:////srv/tender/tender.db",
        "-a", "max_pages=3", "-a", "backfill_year=2023", "-a", "job_type=backfill"] := by
  have hurl : EngineUrl (fun url ↦ url) projectUrl projectUrl := ⟨rfl, by rfl, by decide +kernel⟩
  obtain ⟨request, spider, hrequest, hspider, hpaths⟩ :=
    launch_paths_same_command projectHost (fun url ↦ url) hurl hurl
      (show (getSourceAdapter dealSource.code).isSome by decide) "admin" .backfill none
      (show ∀ n ∈ some (3 : ℤ), 1 ≤ n by decide) (show ∀ year ∈ some (2023 : ℤ), 2000 ≤ year by decide)
  have hbuilt : crawlRequest dealSource "admin" .backfill none (some 3) (some 2023) = .ok dealBackfill := by rfl
  obtain rfl : dealBackfill = request := Except.ok.inj (hbuilt.symm.trans hrequest)
  obtain rfl : "ggzy_gov_cn_deal" = spider := Option.some.inj hspider
  obtain ⟨-, -, hswept, -⟩ := hpaths 7 1 0 (seconds 122) [dealSource] [dealBackfillJob] "ggzy_gov_cn_deal"
    "ggzy_gov_cn_deal" claimedTwice rfl rfl
  have hstart : (workerStart [dealSource] [dealBackfillJob] "ggzy_gov_cn_deal" 7 .backfill dealBackfill.spiderArgs
      (seconds 122)).isOk := by rfl
  cases hstarted : workerStart [dealSource] [dealBackfillJob] "ggzy_gov_cn_deal" 7 .backfill dealBackfill.spiderArgs
      (seconds 122) with
  | error stop =>
    rw [hstarted] at hstart
    cases hstart
  | ok started =>
    refine hswept.trans ?_
    have hmapped := congrArg (Except.map fun _ ↦
      scrapyCommand projectHost.pythonExecutable projectUrl "ggzy_gov_cn_deal" 7 dealBackfill.spiderArgs) hstarted
    exact hmapped

end TenderPhase1.Trigger
