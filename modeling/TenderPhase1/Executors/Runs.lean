import TenderPhase1.Executors.Classification
import TenderPhase1.Foundation.Raising
import TenderPhase1.Jobs.Transactions

/-!
# The executors after `start_job`

What the three executors of a crawl do from the commit of `start_job` on: the
detached worker (`app/run_crawl_job.py`), the scheduler (`_run_scheduled_source`)
and `scripts/run_crawl_job.py`. Any statement may raise, at a stage of the run;
between the statements, and between the read and the commit of a transaction,
other processes commit what they like. The database itself works.
-/

namespace TenderPhase1.Executors

open Jobs Raising ObjectSession

/-- The statements of a run that can raise, in groups between two transactions. -/
inductive Stage where
  | buildCommand
  | launch
  | wait
  | runnerError
  | classify
  | infer
  | finished
  | handler
  deriving DecidableEq

/-- What a statement raises: a subclass of `Exception`, or `KeyboardInterrupt` and its like,
which `except Exception` does not catch. -/
inductive Fault where
  | exception (message : String)
  | interrupt

inductive Raised where
  | service (error : ServiceError)
  | fault (fault : Fault)

def Raised.isException : Raised → Bool
  | .service _ | .fault (.exception _) => true
  | .fault .interrupt => false

def Raised.text : Raised → String
  | .service error => error.text
  | .fault (.exception message) => message
  | .fault .interrupt => ""

/-- The parameters of a crawl that its payloads and messages repeat. -/
structure CrawlRun where
  sourceCode : String
  jobType : JobType
  triggeredBy : Option String
  maxPages : Option ℤ
  backfillYear : Option ℤ
  retryOfJobId : Option ℕ
  spiderName : String

/-- How the spider exited, and the errors and pages it left in the database. -/
structure SpiderOutcome where
  returnCode : ℤ
  errors : List CrawlErrorEntry
  pages : List ListPageMeta

/-- What the rest of the world does during a run: the events others commit before a stage and
inside its transaction, the clock, and the spider. -/
structure Surroundings where
  before : Stage → List (JobEvent ℕ)
  during : Stage → List (JobEvent ℕ)
  now : Stage → Instant
  spider : SpiderOutcome

abbrev Run (Value : Type) := Program (JobState ℕ) Raised Value

section Runs

variable (faults : Stage → Option Fault) (world : Surroundings) (run : CrawlRun)

/-- Come to a stage: others have moved on, and the statements of the stage may raise. -/
def reach (stage : Stage) : Run Unit := do
  modify fun state ↦ (world.before stage).foldl JobState.step state
  match faults stage with
  | some fault => throw (.fault fault)
  | none => pure ()

/-- One transaction of the executor: read the row and perform the operation, commit later. -/
def transact (stage : Stage) (op : JobOp) : Run CrawlJob := do
  let state ← get
  match op.perform state.stored (world.now stage) with
  | .error error => throw (.service error)
  | .ok current =>
      let committing := (world.during stage).foldl JobState.step state
      set { committing with stored := CrawlJob.writeBack state.stored current committing.stored }
      return current

/-- `_build_job_params_json` -/
def CrawlRun.jobParams (spiderName : Option String) : JsonObject :=
  buildJobParamsPayload {
    sourceCode := run.sourceCode
    jobType := run.jobType
    triggeredBy := run.triggeredBy
    maxPages := run.maxPages
    backfillYear := run.backfillYear
    retryOfJobId := run.retryOfJobId
    spiderName := spiderName }

/-- The finish in the `except` block around the command runner. -/
def runnerErrorArgs (raised : Raised) : FinishArgs :=
  let reason := "命令执行失败：" ++ raised.text
  { status := some "failed"
    jobParamsJson := .value (some (run.jobParams run.spiderName))
    runtimeStatsJson := .value (some (buildRuntimeStatsPayload {
      runStage := "runner_error", spiderName := some run.spiderName }))
    failureReason := .value (some reason)
    message := some (buildFailureMessage run.jobType "runner_error" reason) }

/-- The finish after the spider has exited, with what the snapshot and the errors suggest. -/
def finalArgs (spider : SpiderOutcome) (snapshot : CrawlJob) : FinishArgs :=
  let stats := collectListPageStats spider.pages
  let failureReason :=
    inferFailureReason snapshot spider.errors (pagesMetric snapshot stats) spider.returnCode
  let finalStatus := inferFinalStatus snapshot failureReason spider.returnCode
  { status := some finalStatus.text
    jobParamsJson := .value (some (run.jobParams run.spiderName))
    runtimeStatsJson := .value (some
      (buildRuntimeStatsPayload (finalRuntimeStats snapshot stats spider.returnCode)))
    failureReason := .value (if failureReason = "-" then none else some failureReason)
    message := some
      (buildJobSummaryMessage finalStatus run.jobType snapshot stats spider.returnCode failureReason) }

/-- The handler that `_run_existing_crawl_job` puts around the command runner. -/
def runnerErrorHandler (raised : Raised) : Run Unit :=
  if raised.isException then do
    reach faults world .runnerError
    let _ ← transact world .runnerError (.finish (runnerErrorArgs run raised))
    throw raised
  else throw raised

def runCommand : Run Unit :=
  tryCatch (do reach faults world .launch; reach faults world .wait) (runnerErrorHandler faults world run)

/-- `_run_existing_crawl_job` from its `start_job` commit on -/
def runExistingCrawlJob : Run Unit := do
  reach faults world .buildCommand
  runCommand faults world run
  reach faults world .classify
  let state ← get
  reach faults world .infer
  let _ ← transact world .infer (.finish (finalArgs run world.spider state.stored))
  reach faults world .finished

/-- The failure that `main` of the worker records for an exception. -/
def workerErrorArgs (raised : Raised) : FinishArgs :=
  let reason := "后台执行失败：" ++ raised.text
  { jobParamsJson := .value (some ({ run with retryOfJobId := none }.jobParams none))
    runtimeStatsJson := .value (some (buildRuntimeStatsPayload { runStage := "worker_error" }))
    failureReason := .value (some reason)
    message := some s!"{run.jobType.text} 任务执行失败：{reason}" }

/-- `main` of `app/run_crawl_job.py` -/
def workerMain : Run ℤ :=
  tryCatch (do runExistingCrawlJob faults world run; return 0) fun raised ↦
    if raised.isException then do
      reach faults world .handler
      let _ ← transact world .handler (.failIfActive (workerErrorArgs run raised))
      return 1
    else throw raised

/-- `_run_scheduled_source`; its handler rolls its own session back and goes on to the source row. -/
def runScheduledSource : Run Unit :=
  tryCatch (runExistingCrawlJob faults world run) fun raised ↦
    if raised.isException then pure () else throw raised

def scriptFinishArgs (returnCode : ℤ) : FinishArgs :=
  if returnCode = 0 then { message := some "scrapy finished" }
  else { status := some "failed", message := some s!"scrapy exited with code {returnCode}" }

/-- The second finish of the script, which replaces the message. -/
def scriptSummaryArgs (spider : SpiderOutcome) (args : ScriptArgs) (final : CrawlJob) : FinishArgs :=
  let stats := collectListPageStats spider.pages
  let failureReason :=
    scriptInferFailureReason final spider.errors stats.pagesScraped spider.returnCode
  { status := some final.status.text
    message := some (scriptBuildJobSummaryMessage args final stats failureReason) }

/-- `main` of `scripts/run_crawl_job.py`; only a `finally` that closes the engine is around it. -/
def scriptMain (args : ScriptArgs) (failOnPartial : Bool) : Run ℤ := do
  reach faults world .buildCommand
  reach faults world .launch
  reach faults world .wait
  let final ← transact world .classify (.finish (scriptFinishArgs world.spider.returnCode))
  reach faults world .finished
  let refreshed ← transact world .finished (.finish (scriptSummaryArgs world.spider args final))
  let returnCode := world.spider.returnCode
  return if refreshed.status = .failed then (if returnCode = 0 then 1 else returnCode)
    else if failOnPartial && refreshed.status = .partially then 2 else 0

end Runs

/-! ## What reaching a stage and a transaction keep -/

section Frame

variable {faults : Stage → Option Fault} {world : Surroundings}

theorem ends_reach {post : Except Raised Unit → JobState ℕ → Prop} {stage : Stage} {state : JobState ℕ} :
    Ends post (reach faults world stage) state ↔
      post (match faults stage with
        | some fault => .error (.fault fault)
        | none => .ok ()) ((world.before stage).foldl JobState.step state) := by
  unfold reach
  rw [ends_bind, ends_modify]
  cases faults stage with
  | some fault => exact Iff.rfl
  | none => exact Iff.rfl

theorem ends_transact {post : Except Raised CrawlJob → JobState ℕ → Prop} {stage : Stage} {op : JobOp}
    {state : JobState ℕ} :
    Ends post (transact world stage op) state ↔
      match op.perform state.stored (world.now stage) with
      | .error error => post (.error (.service error)) state
      | .ok current =>
          let committing := (world.during stage).foldl JobState.step state
          post (.ok current)
            { committing with stored := CrawlJob.writeBack state.stored current committing.stored } := by
  unfold transact
  rw [ends_bind, ends_get]
  dsimp only
  cases op.perform state.stored (world.now stage) with
  | error error => exact Iff.rfl
  | ok current => exact Iff.rfl

theorem keeps_reach {inv : JobState ℕ → Prop} (hstep : ∀ state event, inv state → inv (state.step event))
    (stage : Stage) : Keeps inv (reach faults world stage) := by
  intro state hinv
  rw [ends_reach]
  exact Transition.invariant_run hstep state _ hinv

/-- A transaction keeps what every event and every writing back keeps. -/
theorem keeps_transact {inv : JobState ℕ → Prop} (hstep : ∀ state event, inv state → inv (state.step event))
    (hwriteBack : ∀ {state}, inv state → ∀ held, inv (state.writeBack held)) (stage : Stage) (op : JobOp) :
    Keeps inv (transact world stage op) := by
  intro state hinv
  rw [ends_transact]
  cases h : op.perform state.stored (world.now stage) with
  | error error => exact hinv
  | ok current =>
    have hduring := Transition.invariant_run hstep state (world.during stage) hinv
    exact hwriteBack hduring ⟨op, world.now stage, state.stored, current, h⟩

theorem keeps_ended_transact (stage : Stage) (op : JobOp) : Keeps JobState.ended (transact world stage op) :=
  keeps_transact ended_step ended_writeBack stage op

end Frame

end TenderPhase1.Executors
