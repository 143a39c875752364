import TenderPhase1.Executors.Settling

/-!
# The final status of the two executors

Where nothing raises and nobody else touches the job once the spider has exited, the
service and the script end it with a status of their own making: the service with the
one that it infers from the failure reason, the script with the one that the counters
suggest. They differ exactly where the spider exited with 0 and a page fetch failed.
-/

namespace TenderPhase1.Executors

open Jobs Raising

def noFaults (_ : Stage) : Option Fault := none

/-- Nobody else commits anything once the spider has exited. -/
structure Surroundings.QuietAfterExit (world : Surroundings) : Prop where
  before : ∀ stage ∈ [Stage.classify, .infer, .finished], world.before stage = []
  during : ∀ stage, world.during stage = []

def Surroundings.exited (world : Surroundings) (state : JobState ℕ) : JobState ℕ :=
  (world.before .wait).foldl JobState.step
    ((world.before .launch).foldl JobState.step ((world.before .buildCommand).foldl JobState.step state))

def finalStatus {Value : Type} (program : Run Value) (state : JobState ℕ) : JobStatus :=
  (program.run.run state).2.stored.status

/-- The status that the service finishes the job with. -/
def serviceStatus (snapshot : CrawlJob) (spider : SpiderOutcome) : JobStatus :=
  let pagesScraped := pagesMetric snapshot (collectListPageStats spider.pages)
  inferFinalStatus snapshot (inferFailureReason snapshot spider.errors pagesScraped spider.returnCode) spider.returnCode

/-- The status that the script finishes the job with. -/
def scriptStatus (snapshot : CrawlJob) (spider : SpiderOutcome) : JobStatus :=
  if spider.returnCode = 0 then inferSuccessStatus snapshot else .failed

/-- The spider stored a fetch error, and no page or no item of a list was seen. -/
def SpiderOutcome.FetchFailed (spider : SpiderOutcome) (snapshot : CrawlJob) : Prop :=
  Executors.FetchFailed snapshot spider.errors (pagesMetric snapshot (collectListPageStats spider.pages))

/-! ## The two classifications -/

section Classifications

variable {snapshot : CrawlJob} {spider : SpiderOutcome}

/-- Without a page fetch failure the counters decide. -/
theorem inferFinalStatus_fetched {errors : List CrawlErrorEntry} {pagesScraped : ℤ}
    (h : ¬ FetchFailed snapshot errors pagesScraped) :
    inferFinalStatus snapshot (inferFailureReason snapshot errors pagesScraped 0) 0 = inferSuccessStatus snapshot := by
  rw [← startsWith_inferFailureReason_iff] at h
  unfold inferFinalStatus inferSuccessStatus
  rw [if_neg (by simp), if_neg h]

theorem inferFinalStatus_fetchFailed {errors : List CrawlErrorEntry} {pagesScraped : ℤ}
    (h : FetchFailed snapshot errors pagesScraped) :
    inferFinalStatus snapshot (inferFailureReason snapshot errors pagesScraped 0) 0 = .failed := by
  rw [← startsWith_inferFailureReason_iff] at h
  unfold inferFinalStatus
  rw [if_neg (by simp), if_pos h]

theorem inferSuccessStatus_ne_failed : inferSuccessStatus snapshot ≠ .failed := by
  unfold inferSuccessStatus
  split <;> decide

/-- The classifications differ where the spider exited with 0 and a page fetch failed. -/
theorem serviceStatus_eq_scriptStatus_iff :
    serviceStatus snapshot spider = scriptStatus snapshot spider ↔
      spider.returnCode ≠ 0 ∨ ¬ spider.FetchFailed snapshot := by
  unfold serviceStatus scriptStatus SpiderOutcome.FetchFailed
  by_cases hexited : spider.returnCode = 0
  · rw [if_pos hexited, hexited]
    by_cases hfetch : FetchFailed snapshot spider.errors (pagesMetric snapshot (collectListPageStats spider.pages))
    · dsimp only
      rw [inferFinalStatus_fetchFailed hfetch]
      constructor
      · exact fun h ↦ absurd h.symm inferSuccessStatus_ne_failed
      · rintro (hne | hnot)
        · exact absurd rfl hne
        · exact absurd hfetch hnot
    · dsimp only
      rw [inferFinalStatus_fetched hfetch]
      exact ⟨fun _ ↦ Or.inr hfetch, fun _ ↦ rfl⟩
  · rw [if_neg hexited]
    unfold inferFinalStatus
    rw [if_pos hexited]
    exact ⟨fun _ ↦ Or.inl hexited, fun _ ↦ rfl⟩

end Classifications

/-! ## The runs -/

section Runs

variable {world : Surroundings} {run : CrawlRun} {state : JobState ℕ} {stage : Stage} {args : FinishArgs}

theorem finalStatus_eq_of_ends {Value : Type} {program : Run Value} {status : JobStatus}
    (h : Ends (fun _ after ↦ after.stored.status = status) program state) : finalStatus program state = status := h

theorem ends_reach_noFaults {post : Except Raised Unit → JobState ℕ → Prop} :
    Ends post (reach noFaults world stage) state ↔ post (.ok ()) ((world.before stage).foldl JobState.step state) :=
  ends_reach

/-- A finish that nobody disturbs leaves the job with the status that it asks for. -/
theorem ends_finish_status {status : JobStatus} (hduring : world.during stage = [])
    (hallowed : status ∈ allowedTransitions state.stored.status) (hfinal : status.isFinal)
    (htarget : finishTargetStatus state.stored args.status = .ok status) :
    Ends (fun outcome after ↦ (∃ job, outcome = .ok job ∧ after.stored = job) ∧ after.stored.status = status)
      (transact world stage (.finish args)) state := by
  have hfinish : finishJobInSession state.stored args (world.now stage) =
      .ok (state.stored.finished args status (args.finishedAt.getD (world.now stage))) :=
    finishJobInSession_eq_ok.mpr ⟨status, htarget, hfinal, hallowed, rfl⟩
  have hid : (state.stored.finished args status (args.finishedAt.getD (world.now stage))).id = state.stored.id := rfl
  rw [ends_transact, JobOp.perform, hfinish, hduring]
  dsimp only [List.foldl_nil]
  rw [CrawlJob.writeBack_loaded _ _ hid]
  exact ⟨⟨_, rfl, rfl⟩, rfl⟩

theorem mem_allowedTransitions_running {status : JobStatus} (hrunning : state.stored.status = .running)
    (hfinal : status.isFinal) : status ∈ allowedTransitions state.stored.status := by
  rw [hrunning]
  cases status <;> simp_all [allowedTransitions, JobStatus.isFinal]

theorem mem_allowedTransitions_self {status : JobStatus} (hfinal : status.isFinal) :
    status ∈ allowedTransitions status := by
  cases status <;> simp_all [allowedTransitions, JobStatus.isFinal]

/-- The service ends the job with the status that it infers. -/
theorem ends_runExistingCrawlJob_status (hquiet : world.QuietAfterExit)
    (hrunning : (world.exited state).stored.status = .running) :
    Ends (fun _ after ↦ after.stored.status = serviceStatus (world.exited state).stored world.spider)
      (runExistingCrawlJob noFaults world run) state := by
  have hclassify : world.before .classify = [] := hquiet.before .classify (by simp)
  have hinfer : world.before .infer = [] := hquiet.before .infer (by simp)
  have hfinished : world.before .finished = [] := hquiet.before .finished (by simp)
  unfold runExistingCrawlJob runCommand
  rw [ends_bind, ends_reach_noFaults]
  dsimp only
  rw [ends_bind, ends_tryCatch, ends_bind, ends_reach_noFaults]
  dsimp only
  rw [ends_reach_noFaults]
  dsimp only
  rw [ends_bind, ends_reach_noFaults, hclassify, List.foldl_nil]
  dsimp only
  rw [ends_bind, ends_get]
  dsimp only
  rw [ends_bind, ends_reach_noFaults, hinfer, List.foldl_nil]
  dsimp only
  rw [ends_bind]
  have hfinal := isFinal_inferFinalStatus (world.exited state).stored
    (inferFailureReason (world.exited state).stored world.spider.errors
      (pagesMetric (world.exited state).stored (collectListPageStats world.spider.pages)) world.spider.returnCode)
    world.spider.returnCode
  apply ends_mono (ends_finish_status (hquiet.during .infer) (mem_allowedTransitions_running hrunning hfinal) hfinal
    (finishTargetStatus_text _ _))
  rintro outcome after ⟨⟨job, rfl, -⟩, hstatus⟩
  dsimp only
  rw [ends_reach_noFaults, hfinished, List.foldl_nil]
  exact hstatus

/-- The script ends the job with the status that the counters suggest, unless the spider failed. -/
theorem ends_scriptMain_status {args : ScriptArgs} {failOnPartial : Bool} (hquiet : world.QuietAfterExit)
    (hrunning : (world.exited state).stored.status = .running) :
    Ends (fun _ after ↦ after.stored.status = scriptStatus (world.exited state).stored world.spider)
      (scriptMain noFaults world args failOnPartial) state := by
  have hfinished : world.before .finished = [] := hquiet.before .finished (by simp)
  have hfinal : (scriptStatus (world.exited state).stored world.spider).isFinal := by
    unfold scriptStatus
    split
    · exact isFinal_inferSuccessStatus _
    · rfl
  have htarget : finishTargetStatus (world.exited state).stored (scriptFinishArgs world.spider.returnCode).status =
      .ok (scriptStatus (world.exited state).stored world.spider) := by
    unfold scriptFinishArgs scriptStatus
    split
    · rfl
    · exact finishTargetStatus_text _ .failed
  unfold scriptMain
  rw [ends_bind, ends_reach_noFaults]
  dsimp only
  rw [ends_bind, ends_reach_noFaults]
  dsimp only
  rw [ends_bind, ends_reach_noFaults]
  dsimp only
  rw [ends_bind]
  apply ends_mono (ends_finish_status (hquiet.during .classify) (mem_allowedTransitions_running hrunning hfinal) hfinal
    htarget)
  rintro outcome after ⟨⟨final, rfl, hstored⟩, hstatus⟩
  dsimp only
  rw [ends_bind, ends_reach_noFaults, hfinished, List.foldl_nil]
  dsimp only
  rw [ends_bind]
  -- the second finish asks for the status that the first one has set
  have hself : final.status ∈ allowedTransitions after.stored.status := by
    rw [hstored] at hstatus ⊢
    rw [hstatus]
    exact mem_allowedTransitions_self hfinal
  have hfinalSelf : final.status.isFinal := by
    rw [← hstored, hstatus]
    exact hfinal
  apply ends_mono (ends_finish_status (hquiet.during .finished) hself hfinalSelf (finishTargetStatus_text _ _))
  rintro outcome last ⟨⟨refreshed, rfl, -⟩, hlast⟩
  rw [← hstatus, hstored]
  exact hlast

end Runs

/-- For every outcome of the spider the two executors end the job with one status if and only if the spider exited
with another code than 0, or no page fetch failed. -/
theorem executors_agree_iff (world : Surroundings) (hquiet : world.QuietAfterExit) (run : CrawlRun) (args : ScriptArgs)
    (failOnPartial : Bool) (state : JobState ℕ) (hrunning : (world.exited state).stored.status = .running) :
    finalStatus (runExistingCrawlJob noFaults world run) state =
        finalStatus (scriptMain noFaults world args failOnPartial) state ↔
      world.spider.returnCode ≠ 0 ∨ ¬ world.spider.FetchFailed (world.exited state).stored := by
  have hservice : finalStatus (runExistingCrawlJob noFaults world run) state =
      serviceStatus (world.exited state).stored world.spider :=
    finalStatus_eq_of_ends (ends_runExistingCrawlJob_status hquiet hrunning)
  have hscript : finalStatus (scriptMain noFaults world args failOnPartial) state =
      scriptStatus (world.exited state).stored world.spider :=
    finalStatus_eq_of_ends (ends_scriptMain_status hquiet hrunning)
  rw [hservice, hscript]
  exact serviceStatus_eq_scriptStatus_iff

/-- The only list page times out: the spider stores and counts the error, and exits with 0. -/
def listTimesOut : Surroundings where
  before stage := if stage = .wait then [.read 1 (.recordStats { errorCount := 1 }) 0, .commit 1] else []
  during _ := []
  now _ := 0
  spider := ⟨0, [⟨"fetch", "TimeoutError"⟩], []⟩

theorem executors_agree_iff_listTimesOut :
    (finalStatus (runExistingCrawlJob noFaults listTimesOut dealCrawl) startedJob =
        finalStatus (scriptMain noFaults listTimesOut ⟨"ggzy_gov_cn_deal", .manual, "", ""⟩ false) startedJob) ↔
      listTimesOut.spider.returnCode ≠ 0 ∨
        ¬ listTimesOut.spider.FetchFailed (listTimesOut.exited startedJob).stored := by
  have hquiet : listTimesOut.QuietAfterExit :=
    { before := by decide
      during := fun _ ↦ rfl }
  exact executors_agree_iff listTimesOut hquiet dealCrawl _ false startedJob (by rfl)

/-- The script reports the same run as partial. -/
theorem executors_differ_listTimesOut :
    (listTimesOut.exited startedJob).stored.counters.errorCount = listTimesOut.spider.errors.length ∧
      finalStatus (runExistingCrawlJob noFaults listTimesOut dealCrawl) startedJob ≠
        finalStatus (scriptMain noFaults listTimesOut ⟨"ggzy_gov_cn_deal", .manual, "", ""⟩ false) startedJob := by
  have hservice : finalStatus (runExistingCrawlJob noFaults listTimesOut dealCrawl) startedJob = .failed := by
    decide +kernel
  have hscript : finalStatus (scriptMain noFaults listTimesOut ⟨"ggzy_gov_cn_deal", .manual, "", ""⟩ false)
      startedJob = .partially := by
    decide +kernel
  refine ⟨by rfl, ?_⟩
  rw [hservice, hscript]
  decide

end TenderPhase1.Executors
