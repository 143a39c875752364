import TenderPhase1.Executors.Runs

/-!
# Which exceptions leave a running job behind

`_run_existing_crawl_job` finishes the job after the spider has exited and when
the command runner raises. Building the command and classifying the result have
no handler there: the worker's `main` fails the job for them, the scheduler and
the script do not. No executor handles what is not an `Exception`.
-/

namespace TenderPhase1.Executors

open Jobs Raising

inductive Executor where
  | worker
  | scheduler
  | script (args : ScriptArgs) (failOnPartial : Bool)

def Executor.run (executor : Executor) (faults : Stage → Option Fault) (world : Surroundings)
    (run : CrawlRun) : Run Unit :=
  match executor with
  | .worker => do let _ ← workerMain faults world run
  | .scheduler => runScheduledSource faults world run
  | .script args failOnPartial => do let _ ← scriptMain faults world args failOnPartial

def Fault.isException : Fault → Bool
  | .exception _ => true
  | .interrupt => false

/-- What ends the command runner before any finish: the exception is handled unless it is not an
`Exception`, or another one is raised while it is handled. -/
def runnerEscape (faults : Stage → Option Fault) : Option Fault :=
  match faults .launch <|> faults .wait with
  | some fault => if fault.isException then faults .runnerError else some fault
  | none => none

/-- The exception of a run came out of the command runner, which has finished the job for it. -/
def runnerRaised (faults : Stage → Option Fault) : Bool := (faults .launch <|> faults .wait).isSome

/-- The exception with which `_run_existing_crawl_job` ends without a finish, if it does. -/
def unfinished (faults : Stage → Option Fault) : Option Fault :=
  match faults .buildCommand with
  | some fault => some fault
  | none => if runnerRaised faults then runnerEscape faults else faults .classify <|> faults .infer

/-- The executor ends the job for every exception that these statements raise. -/
def Executor.settles (executor : Executor) (faults : Stage → Option Fault) : Bool :=
  match executor with
  | .worker =>
      match unfinished faults with
      | none => true
      | some fault => fault.isException && (faults .handler).isNone
  | .scheduler => (unfinished faults).isNone
  | .script _ _ => (faults .buildCommand <|> faults .launch <|> faults .wait).isNone

/-! ## A finish leaves no running job -/

section Finish

variable {world : Surroundings} {stage : Stage} {args : FinishArgs} {state : JobState ℕ}

theorem normalizeStatus_text (status : JobStatus) : normalizeStatus status.text = .ok status := by
  cases status <;> rfl

theorem isFinal_inferSuccessStatus (job : CrawlJob) : (inferSuccessStatus job).isFinal := by
  unfold inferSuccessStatus
  split <;> rfl

/-- The status asked for is a final one, or none is asked for. -/
def AsksFinal (args : FinishArgs) : Prop :=
  args.status = none ∨ ∃ status : JobStatus, status.isFinal ∧ args.status = some status.text

theorem finishTargetStatus_text (job : CrawlJob) (status : JobStatus) :
    finishTargetStatus job (some status.text) = .ok status := by
  have hne : status.text ≠ "" := by cases status <;> decide
  rw [finishTargetStatus, Option.filter_some, if_pos (by simpa using hne)]
  exact normalizeStatus_text status

theorem finishTargetStatus_of_asksFinal (job : CrawlJob) (h : AsksFinal args) :
    ∃ status, status.isFinal ∧ finishTargetStatus job args.status = .ok status := by
  rcases h with hnone | ⟨status, hfinal, hsome⟩
  · rw [hnone]
    exact ⟨inferSuccessStatus job, isFinal_inferSuccessStatus job, rfl⟩
  · rw [hsome]
    exact ⟨status, hfinal, finishTargetStatus_text job status⟩

/-- A running job accepts every finish. -/
theorem finish_of_running {job : CrawlJob} {status : JobStatus} (hrunning : job.status = .running)
    (hfinal : status.isFinal) (htarget : finishTargetStatus job args.status = .ok status) (now : Instant) :
    finishJobInSession job args now = .ok (job.finished args status (args.finishedAt.getD now)) := by
  have hallowed : status ∈ allowedTransitions job.status := by
    rw [hrunning]
    cases status <;> simp_all [allowedTransitions, JobStatus.isFinal]
  exact finishJobInSession_eq_ok.mpr ⟨status, htarget, hfinal, hallowed, rfl⟩

/-- A job that is not pending when the finish reads it has ended when the finish is over,
whether it was accepted or rejected. -/
theorem ends_finish (hargs : AsksFinal args) (hpast : state.pastPending) :
    Ends (fun _ after ↦ after.ended) (transact world stage (.finish args)) state := by
  by_cases hended : state.ended
  · exact keeps_ended_transact stage _ state hended
  · have hrunning : state.stored.status = .running := by
      unfold JobState.ended at hended
      unfold JobState.pastPending at hpast
      cases h : state.stored.status <;> simp_all [JobStatus.isFinal]
    obtain ⟨status, hfinal, htarget⟩ := finishTargetStatus_of_asksFinal state.stored hargs
    have hfinish := finish_of_running hrunning hfinal htarget (world.now stage)
    rw [ends_transact, JobOp.perform, hfinish]
    have hchanged : status ≠ state.stored.status := by
      rw [hrunning]
      rintro rfl
      cases hfinal
    change JobStatus.isFinal (ObjectSession.mergeColumn state.stored.status status _) = true
    rw [ObjectSession.mergeColumn_changed hchanged]
    exact hfinal

/-- `fail_job_if_active` never raises and leaves an ended job, whatever commits meanwhile. -/
theorem ends_failIfActive :
    Ends (fun outcome after ↦ (∃ job, outcome = .ok job) ∧ after.ended)
      (transact world stage (.failIfActive args)) state := by
  by_cases hfinal : state.stored.status.isFinal
  · have hended : Ends (fun _ after ↦ after.ended) (transact world stage (.failIfActive args)) state :=
      keeps_ended_transact stage _ state hfinal
    rw [ends_transact, JobOp.perform, failJobIfActiveInSession_final _ _ hfinal] at *
    exact ⟨⟨_, rfl⟩, hended⟩
  · have hactive : state.stored.status.isActive := by simpa using hfinal
    rw [ends_transact, JobOp.perform, failJobIfActiveInSession_active _ _ hactive]
    refine ⟨⟨_, rfl⟩, ?_⟩
    have hchanged : JobStatus.failed ≠ state.stored.status := by
      intro h
      rw [← h] at hactive
      cases hactive
    change JobStatus.isFinal (ObjectSession.mergeColumn state.stored.status .failed _) = true
    rw [ObjectSession.mergeColumn_changed hchanged]
    rfl

end Finish

/-! ## What the runs end with -/

section Runs

variable {faults : Stage → Option Fault} {world : Surroundings} {run : CrawlRun} {state : JobState ℕ}

theorem asksFinal_runnerErrorArgs (raised : Raised) : AsksFinal (runnerErrorArgs run raised) :=
  Or.inr ⟨.failed, rfl, rfl⟩

theorem asksFinal_finalArgs (spider : SpiderOutcome) (snapshot : CrawlJob) :
    AsksFinal (finalArgs run spider snapshot) :=
  Or.inr ⟨_, isFinal_inferFinalStatus _ _ _, rfl⟩

theorem asksFinal_scriptFinishArgs (returnCode : ℤ) : AsksFinal (scriptFinishArgs returnCode) := by
  unfold scriptFinishArgs
  split
  · exact Or.inl rfl
  · exact Or.inr ⟨.failed, rfl, rfl⟩

/-- A transaction that has ended the job hands it on to whatever comes next. -/
theorem ends_finish_bind {Value : Type} {stage : Stage} {args : FinishArgs} {next : CrawlJob → Run Value}
    (hargs : AsksFinal args) (hnext : ∀ job, Keeps JobState.ended (next job)) (hpast : state.pastPending) :
    Ends (fun _ after ↦ after.ended) (transact world stage (.finish args) >>= next) state := by
  rw [ends_bind]
  apply ends_mono (ends_finish hargs hpast)
  intro outcome after hended
  cases outcome with
  | ok job => exact hnext job after hended
  | error raised => exact hended

/-- The handler of the runner raises again, after a finish unless something else is raised. -/
theorem ends_runnerErrorHandler (fault : Fault) (hpast : state.pastPending) :
    Ends (fun outcome after ↦ ∃ raised, outcome = .error raised ∧ (after.ended ∨
        ∃ escaped, (if fault.isException then faults .runnerError else some fault) = some escaped ∧
          raised = .fault escaped))
      (runnerErrorHandler faults world run (.fault fault)) state := by
  unfold runnerErrorHandler
  cases fault with
  | interrupt => exact ⟨_, rfl, Or.inr ⟨.interrupt, rfl, rfl⟩⟩
  | exception message =>
    have hexception : (Raised.fault (.exception message)).isException = true := rfl
    rw [if_pos hexception, ends_bind, ends_reach]
    cases hfault : faults .runnerError with
    | some escaped => exact ⟨_, rfl, Or.inr ⟨escaped, rfl, rfl⟩⟩
    | none =>
      dsimp only
      rw [ends_bind]
      apply ends_mono (ends_finish (asksFinal_runnerErrorArgs _) (pastPending_foldl _ _ hpast))
      intro outcome after hended
      cases outcome with
      | ok job => exact ⟨_, rfl, Or.inl hended⟩
      | error raised => exact ⟨raised, rfl, Or.inl hended⟩

/-- A runner that raises leaves an ended job or the fault that escaped. -/
theorem ends_runCommand (hpast : state.pastPending) :
    Ends (fun outcome after ↦
        if runnerRaised faults then
          ∃ raised, outcome = .error raised ∧ (after.ended ∨
            ∃ escaped, runnerEscape faults = some escaped ∧ raised = .fault escaped)
        else outcome = .ok () ∧ after.pastPending)
      (runCommand faults world run) state := by
  unfold runCommand runnerRaised runnerEscape
  rw [ends_tryCatch, ends_bind, ends_reach]
  have hlaunch := pastPending_foldl state (world.before .launch) hpast
  cases hfault : faults .launch with
  | some fault => exact ends_runnerErrorHandler fault hlaunch
  | none =>
    dsimp only
    rw [ends_reach]
    have hwait := pastPending_foldl _ (world.before .wait) hlaunch
    cases hfault : faults .wait with
    | some fault => exact ends_runnerErrorHandler fault hwait
    | none => exact ⟨rfl, hwait⟩

/-- `_run_existing_crawl_job` ends the job, or it ends with an exception that it has no finish for. -/
theorem ends_runExistingCrawlJob (hpast : state.pastPending) :
    Ends (fun outcome after ↦ after.ended ∨
        ∃ fault, unfinished faults = some fault ∧ outcome = .error (.fault fault))
      (runExistingCrawlJob faults world run) state := by
  unfold runExistingCrawlJob unfinished
  rw [ends_bind, ends_reach]
  cases hbuild : faults .buildCommand with
  | some fault => exact Or.inr ⟨fault, rfl, rfl⟩
  | none =>
    dsimp only
    rw [ends_bind]
    apply ends_mono (ends_runCommand (pastPending_foldl _ _ hpast))
    intro outcome after hafter
    by_cases hraised : runnerRaised faults
    · rw [if_pos hraised] at hafter ⊢
      obtain ⟨raised, rfl, hended | ⟨escaped, hescape, rfl⟩⟩ := hafter
      · exact Or.inl hended
      · exact Or.inr ⟨escaped, hescape, rfl⟩
    · rw [if_neg hraised] at hafter ⊢
      obtain ⟨rfl, hafter⟩ := hafter
      rw [ends_bind, ends_reach]
      cases hclassify : faults .classify with
      | some fault => exact Or.inr ⟨fault, rfl, rfl⟩
      | none =>
        dsimp only
        rw [ends_bind, ends_get]
        dsimp only
        rw [ends_bind, ends_reach]
        cases hinfer : faults .infer with
        | some fault => exact Or.inr ⟨fault, rfl, rfl⟩
        | none =>
          dsimp only
          have hfinished : ∀ job : CrawlJob, Keeps JobState.ended (reach faults world .finished) :=
            fun _ ↦ keeps_reach ended_step .finished
          have hpast := pastPending_foldl _ (world.before .infer) (pastPending_foldl _ (world.before .classify) hafter)
          apply ends_mono (ends_finish_bind (asksFinal_finalArgs _ _) hfinished hpast)
          intro outcome after hended
          exact Or.inl hended

/-- The worker ends its job, unless something raises that it does not handle. -/
theorem ends_workerMain (hpast : state.pastPending)
    (hsettles : ∀ fault, unfinished faults = some fault → fault.isException ∧ faults .handler = none) :
    Ends (fun _ after ↦ after.ended) (workerMain faults world run) state := by
  unfold workerMain
  rw [ends_tryCatch, ends_bind]
  apply ends_mono (ends_runExistingCrawlJob hpast)
  intro outcome after hafter
  cases outcome with
  | ok value =>
    rcases hafter with hended | ⟨fault, -, hraised⟩
    · exact hended
    · cases hraised
  | error raised =>
    rcases hafter with hended | ⟨fault, hunfinished, hraised⟩
    · have hhandler : Keeps JobState.ended (if raised.isException then (do
          reach faults world .handler
          let _ ← transact world .handler (.failIfActive (workerErrorArgs run raised))
          return 1) else throw raised : Run ℤ) := by
        split
        · exact keeps_bind (keeps_reach ended_step _) fun _ ↦
            keeps_bind (keeps_ended_transact _ _) fun _ ↦ keeps_pure 1
        · exact keeps_throw raised
      exact hhandler after hended
    · obtain ⟨hexception, hhandler⟩ := hsettles fault hunfinished
      obtain rfl : raised = .fault fault := by injection hraised
      cases fault with
      | interrupt => cases hexception
      | exception message =>
        dsimp only
        have hraised : (Raised.fault (.exception message)).isException = true := rfl
        rw [if_pos hraised, ends_bind, ends_reach, hhandler]
        dsimp only
        rw [ends_bind]
        apply ends_mono ends_failIfActive
        rintro outcome after ⟨⟨job, rfl⟩, hended⟩
        exact hended

/-- Without an unfinished fault the scheduled run ends its job. -/
theorem ends_runScheduledSource (hpast : state.pastPending) (hsettles : unfinished faults = none) :
    Ends (fun _ after ↦ after.ended) (runScheduledSource faults world run) state := by
  unfold runScheduledSource
  rw [ends_tryCatch]
  apply ends_mono (ends_runExistingCrawlJob hpast)
  intro outcome after hafter
  have hended : after.ended := by
    rcases hafter with hended | ⟨fault, hunfinished, -⟩
    · exact hended
    · rw [hsettles] at hunfinished
      cases hunfinished
  cases outcome with
  | ok value => exact hended
  | error raised =>
    dsimp only
    split
    · exact hended
    · exact hended

theorem ends_scriptMain {args : ScriptArgs} {failOnPartial : Bool} (hpast : state.pastPending)
    (hbuild : faults .buildCommand = none) (hlaunch : faults .launch = none) (hwait : faults .wait = none) :
    Ends (fun _ after ↦ after.ended) (scriptMain faults world args failOnPartial) state := by
  unfold scriptMain
  rw [ends_bind, ends_reach, hbuild]
  dsimp only
  rw [ends_bind, ends_reach, hlaunch]
  dsimp only
  rw [ends_bind, ends_reach, hwait]
  apply ends_finish_bind (asksFinal_scriptFinishArgs _)
  · intro final
    exact keeps_bind (keeps_reach ended_step _) fun _ ↦
      keeps_bind (keeps_ended_transact _ _) fun _ ↦ keeps_pure _
  · exact pastPending_foldl _ _ (pastPending_foldl _ _ (pastPending_foldl _ _ hpast))

end Runs

/-! ## Runs in which nobody else does anything -/

/-- Surroundings in which no other process commits and the spider exits with 0. -/
def quiet : Surroundings where
  before _ := []
  during _ := []
  now _ := 0
  spider := ⟨0, [], []⟩

section Quiet

variable {faults : Stage → Option Fault} {run : CrawlRun} {state : JobState ℕ} {fault : Fault}

theorem ends_reach_quiet {post : Except Raised Unit → JobState ℕ → Prop} {stage : Stage} :
    Ends post (reach faults quiet stage) state ↔
      post (match faults stage with
        | some fault => .error (.fault fault)
        | none => .ok ()) state := ends_reach

theorem ends_runnerErrorHandler_quiet {escaped : Fault}
    (h : (if fault.isException then faults .runnerError else some fault) = some escaped) :
    Ends (fun outcome after ↦ outcome = .error (.fault escaped) ∧ after = state)
      (runnerErrorHandler faults quiet run (.fault fault)) state := by
  unfold runnerErrorHandler
  cases fault with
  | interrupt =>
    obtain rfl : Fault.interrupt = escaped := Option.some.inj h
    exact ⟨rfl, rfl⟩
  | exception message =>
    have hrunnerError : faults .runnerError = some escaped := h
    have hexception : (Raised.fault (.exception message)).isException = true := rfl
    rw [if_pos hexception, ends_bind, ends_reach_quiet, hrunnerError]
    exact ⟨rfl, rfl⟩

/-- A command that cannot be run leaves the job as it is. -/
theorem ends_runCommand_quiet (h : runnerEscape faults = some fault) :
    Ends (fun outcome after ↦ outcome = .error (.fault fault) ∧ after = state)
      (runCommand faults quiet run) state := by
  unfold runnerEscape at h
  unfold runCommand
  rw [ends_tryCatch, ends_bind, ends_reach_quiet]
  cases hlaunch : faults .launch with
  | some raised =>
    rw [hlaunch] at h
    exact ends_runnerErrorHandler_quiet h
  | none =>
    dsimp only
    rw [ends_reach_quiet]
    rw [hlaunch] at h
    cases hwait : faults .wait with
    | some raised =>
      rw [hwait] at h
      exact ends_runnerErrorHandler_quiet h
    | none =>
      rw [hwait] at h
      cases h

theorem ends_runCommand_quiet_ok (h : ¬ runnerRaised faults) :
    Ends (fun outcome after ↦ outcome = .ok () ∧ after = state) (runCommand faults quiet run) state := by
  unfold runnerRaised at h
  unfold runCommand
  rw [ends_tryCatch, ends_bind, ends_reach_quiet]
  cases hlaunch : faults .launch with
  | some raised => simp [hlaunch] at h
  | none =>
    dsimp only
    rw [ends_reach_quiet]
    cases hwait : faults .wait with
    | some raised => simp [hlaunch, hwait] at h
    | none => exact ⟨rfl, rfl⟩

/-- So does a run that does not come to its end, where its handler fails, too. -/
theorem ends_runExistingCrawlJob_quiet (h : unfinished faults = some fault) :
    Ends (fun outcome after ↦ outcome = .error (.fault fault) ∧ after = state)
      (runExistingCrawlJob faults quiet run) state := by
  unfold unfinished at h
  unfold runExistingCrawlJob
  rw [ends_bind, ends_reach_quiet]
  cases hbuild : faults .buildCommand with
  | some raised =>
    rw [hbuild] at h
    obtain rfl := Option.some.inj h
    exact ⟨rfl, rfl⟩
  | none =>
    rw [hbuild] at h
    dsimp only at h ⊢
    rw [ends_bind]
    by_cases hraised : runnerRaised faults
    · rw [if_pos hraised] at h
      apply ends_mono (ends_runCommand_quiet h)
      rintro outcome after ⟨rfl, rfl⟩
      exact ⟨rfl, rfl⟩
    · rw [if_neg hraised] at h
      apply ends_mono (ends_runCommand_quiet_ok hraised)
      rintro outcome after ⟨rfl, rfl⟩
      dsimp only
      rw [ends_bind, ends_reach_quiet]
      cases hclassify : faults .classify with
      | some raised =>
        rw [hclassify] at h
        obtain rfl := Option.some.inj h
        exact ⟨rfl, rfl⟩
      | none =>
        have hinfer : faults .infer = some fault := by simpa [hclassify] using h
        dsimp only
        rw [ends_bind, ends_get]
        dsimp only
        rw [ends_bind, ends_reach_quiet, hinfer]
        exact ⟨rfl, rfl⟩

/-- A script that cannot start its spider, or wait for it, leaves it so, too. -/
theorem ends_scriptMain_quiet {args : ScriptArgs} {failOnPartial : Bool}
    (h : (faults .buildCommand <|> faults .launch <|> faults .wait) ≠ none) :
    Ends (fun _ after ↦ after = state) (scriptMain faults quiet args failOnPartial) state := by
  unfold scriptMain
  rw [ends_bind, ends_reach_quiet]
  cases hbuild : faults .buildCommand with
  | some raised => exact rfl
  | none =>
    dsimp only
    rw [ends_bind, ends_reach_quiet]
    cases hlaunch : faults .launch with
    | some raised => exact rfl
    | none =>
      dsimp only
      rw [ends_bind, ends_reach_quiet]
      cases hwait : faults .wait with
      | some raised => exact rfl
      | none =>
        rw [hbuild, hlaunch, hwait] at h
        exact absurd rfl h

/-- Where an executor does not settle, nothing but another process ends the job. -/
theorem ends_run_quiet {executor : Executor} (h : ¬ executor.settles faults) :
    Ends (fun _ after ↦ after = state) (executor.run faults quiet run) state := by
  unfold Executor.run
  cases executor with
  | worker =>
    simp only [Executor.settles] at h
    cases hunfinished : unfinished faults with
    | none => simp [hunfinished] at h
    | some fault =>
      simp only [hunfinished, Bool.and_eq_true, not_and, Option.isNone_iff_eq_none] at h
      dsimp only
      rw [workerMain, ends_bind, ends_tryCatch, ends_bind]
      apply ends_mono (ends_runExistingCrawlJob_quiet hunfinished)
      rintro outcome after ⟨rfl, rfl⟩
      dsimp only
      cases fault with
      | interrupt => exact rfl
      | exception message =>
        have hexception : (Raised.fault (.exception message)).isException = true := rfl
        rw [if_pos hexception, ends_bind, ends_reach_quiet]
        cases hhandler : faults .handler with
        | none => exact absurd hhandler (h rfl)
        | some raised => exact rfl
  | scheduler =>
    simp only [Executor.settles] at h
    cases hunfinished : unfinished faults with
    | none => simp [hunfinished] at h
    | some fault =>
      dsimp only
      rw [runScheduledSource, ends_tryCatch]
      apply ends_mono (ends_runExistingCrawlJob_quiet hunfinished)
      rintro outcome after ⟨rfl, rfl⟩
      dsimp only
      split <;> exact rfl
  | script args failOnPartial =>
    simp only [Executor.settles] at h
    dsimp only
    rw [ends_bind]
    apply ends_mono (ends_scriptMain_quiet (by simpa using h))
    rintro outcome after rfl
    cases outcome <;> exact rfl

end Quiet

/-- Every executor ends its job where it settles it. -/
theorem ends_run_of_settles {executor : Executor} {faults : Stage → Option Fault} {world : Surroundings}
    {run : CrawlRun} {state : JobState ℕ} (hpast : state.pastPending) (h : executor.settles faults) :
    Ends (fun _ after ↦ after.ended) (executor.run faults world run) state := by
  have hdiscard {Value : Type} {program : Run Value}
      (hends : Ends (fun _ after ↦ after.ended) program state) :
      Ends (fun _ after ↦ after.ended) (do let _ ← program) state := by
    rw [ends_bind]
    apply ends_mono hends
    intro outcome after hended
    cases outcome <;> exact hended
  unfold Executor.run
  cases executor with
  | worker =>
    apply hdiscard
    apply ends_workerMain hpast
    intro fault hunfinished
    simpa [Executor.settles, hunfinished] using h
  | scheduler => exact ends_runScheduledSource hpast (by simpa [Executor.settles] using h)
  | script args failOnPartial =>
    apply hdiscard
    simp only [Executor.settles, Option.isNone_iff_eq_none] at h
    cases hbuild : faults .buildCommand with
    | some fault => simp [hbuild] at h
    | none =>
      cases hlaunch : faults .launch with
      | some fault => simp [hbuild, hlaunch] at h
      | none =>
        have hwait : faults .wait = none := by simpa [hbuild, hlaunch] using h
        exact ends_scriptMain hpast hbuild hlaunch hwait

/-- Whatever other processes do, an executor that has started a job leaves it ended if and only
if it settles what its statements raise. -/
theorem run_ends_job_iff_settles (executor : Executor) (faults : Stage → Option Fault) (run : CrawlRun)
    (state : JobState ℕ) (hrunning : state.stored.status = .running) :
    (∀ world, Ends (fun _ after ↦ after.ended) (executor.run faults world run) state) ↔
      executor.settles faults := by
  constructor
  · intro hended
    by_contra hsettles
    have hsame : Ends (fun _ after ↦ after = state) (executor.run faults quiet run) state :=
      ends_run_quiet hsettles
    have hstate : state.ended := hsame ▸ hended quiet
    rw [JobState.ended, hrunning] at hstate
    cases hstate
  · intro hsettles world
    have hpast : state.pastPending := by
      rw [JobState.pastPending, hrunning]
      decide
    exact ends_run_of_settles hpast hsettles

/-- A job just started, and the crawl it is for. -/
def startedJob : JobState ℕ := (JobState.initial (.created 1 1 {} 0 0)).step (.start {} 0)

def dealCrawl : CrawlRun where
  sourceCode := "ggzy_gov_cn_deal"
  jobType := .manual
  triggeredBy := some "cli"
  maxPages := none
  backfillYear := none
  retryOfJobId := none
  spiderName := "ggzy_gov_cn_deal"

def launchFails (stage : Stage) : Option Fault :=
  if stage = .launch then some (.exception "[Errno 12] Cannot allocate memory") else none

/-- The worker settles what the script below does not. -/
theorem run_ends_job_iff_settles_launchFails :
    (∀ world, Ends (fun _ after ↦ after.ended) (Executor.worker.run launchFails world dealCrawl) startedJob) ↔
      Executor.worker.settles launchFails :=
  run_ends_job_iff_settles .worker launchFails dealCrawl startedJob rfl

theorem script_leaves_running_job :
    ¬ Ends (fun _ after ↦ after.ended)
      ((Executor.script ⟨"ggzy_gov_cn_deal", .manual, "", ""⟩ false).run launchFails quiet dealCrawl)
      startedJob := by
  intro h
  have hrunning : false = true := h
  cases hrunning

end TenderPhase1.Executors
