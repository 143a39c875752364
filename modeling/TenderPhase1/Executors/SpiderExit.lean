import TenderPhase1.Executors.LeaseHeld
import TenderPhase1.Executors.Settling

/-!
# The exit of a supervised spider

What the worker and the scheduler record for a spider, however long it has run.
Under a lease in the future no reconcile ends the job before its finish, so an
exit with code 0 is recorded as the counters suggest, unless another process has
finished or failed the job itself.
-/

namespace TenderPhase1.Executors

open Jobs ObjectSession

/-- The status recorded for a spider that has exited with code 0. -/
def Recorded (spider : SpiderOutcome) (snapshot : CrawlJob) (status : JobStatus) : Prop :=
  let pagesScraped := pagesMetric snapshot (collectListPageStats spider.pages)
  status = .failed ∧ FetchFailed snapshot spider.errors pagesScraped ∨
    status ∈ [JobStatus.succeeded, .partially] ∧ ¬ FetchFailed snapshot spider.errors pagesScraped

/-- What holds at every instant of a run, whatever the other processes do. -/
structure Supervised (run : CrawlRun) (state : Supervision) : Prop where
  leased : state.phase.alive → ¬ state.row.ended →
    ∃ lease, state.row.stored.resolveTimeoutAt = some lease ∧ state.now < lease
  unselected : state.phase.alive → ¬ state.row.stored.reconcilable state.now
  accepted : ∀ since spider snapshot, state.phase = .classified since spider snapshot → ¬ state.row.ended →
    spider.returnCode = 0 → ∃ finished,
      finishJobInSession state.row.stored (finalArgs run spider snapshot) state.now = .ok finished ∧
        Recorded spider snapshot finished.status

/-- What holds besides as long as no other process finishes or fails the job. -/
structure Undisturbed (run : CrawlRun) (state : Supervision) : Prop where
  running : state.phase.since ≠ none → state.row.stored.status = .running
  recorded : ∀ since held, state.phase = .finishing since held → ∃ spider snapshot,
    held.op = .finish (finalArgs run spider snapshot) ∧
      (spider.returnCode = 0 → Recorded spider snapshot (state.row.writeBack held).stored.status)

/-- The event by which another process asks for the end of the job, whatever its lease. -/
def OtherEvent.endsJob : OtherEvent → Bool
  | .finish _ _ | .failIfActive _ _ => true
  | .claim | .recordStats _ _ | .reconcile _ | .commit _ | .rollback _ => false

/-! ## The finish -/

/-- A running job accepts the finish of its executor. -/
theorem finish_finalArgs {job : CrawlJob} (run : CrawlRun) (spider : SpiderOutcome) (snapshot : CrawlJob)
    (now : Instant) (hrunning : job.status = .running) :
    ∃ finished, finishJobInSession job (finalArgs run spider snapshot) now = .ok finished ∧
      finished.status.isFinal ∧ (spider.returnCode = 0 → Recorded spider snapshot finished.status) := by
  refine ⟨_, finish_of_running hrunning (isFinal_inferFinalStatus _ _ _) (finishTargetStatus_text job _) now,
    isFinal_inferFinalStatus _ _ _, fun hexited ↦ ?_⟩
  have hinferred := inferFinalStatus_exited snapshot spider.errors
    (pagesMetric snapshot (collectListPageStats spider.pages))
  rw [← hexited] at hinferred
  exact hinferred

section Invariant

variable {delay : Instant} {run : CrawlRun} {state : Supervision}

/-- A supervised job is running or has ended. -/
theorem Watched.running_of_not_ended (hinv : Watched delay state) {since : Instant}
    (hsince : state.phase.since = some since) (hended : ¬ state.row.ended) :
    state.row.stored.status = .running := by
  have hpast := hinv.past since hsince
  unfold JobState.pastPending at hpast
  unfold JobState.ended at hended
  cases h : state.row.stored.status <;> simp_all [JobStatus.isFinal]

theorem since_of_alive {phase : Phase} (h : phase.alive) : ∃ since, phase.since = some since := by
  cases phase <;> first | exact ⟨_, rfl⟩ | cases h

/-- A watched run is supervised. -/
theorem Watched.supervised (hdelay : WellBelowLease delay) (hinv : Watched delay state) : Supervised run state where
  leased halive hended := by
    obtain ⟨since, hsince⟩ := since_of_alive halive
    obtain ⟨lease, htimeout, hfuture⟩ :=
      hinv.now_lt_lease hdelay hsince (hinv.running_of_not_ended hsince hended)
    exact ⟨lease, resolveTimeoutAt_of_timeoutAt htimeout, hfuture⟩
  unselected halive := by
    apply hinv.not_reconcilable hdelay
    intro hover
    rw [hover] at halive
    cases halive
  accepted since spider snapshot hphase hended hexited := by
    have hsince : state.phase.since = some since := by rw [hphase]; rfl
    have hrunning := hinv.running_of_not_ended hsince hended
    obtain ⟨finished, hfinish, -, hrecorded⟩ := finish_finalArgs run spider snapshot state.now hrunning
    exact ⟨finished, hfinish, hrecorded hexited⟩

/-- The invariant behind `Undisturbed`: no open transaction of the others asks for the end. -/
structure Unended (run : CrawlRun) (state : Supervision) : Prop where
  others : ∀ txn held, state.row.inFlight txn = some held → held.op.mayEnd → held.op = .reconcile
  running : state.phase.since ≠ none → state.row.stored.status = .running
  finishing : ∀ since held, state.phase = .finishing since held →
    held.loaded.status = .running ∧ ∃ spider snapshot, held.op = .finish (finalArgs run spider snapshot)

theorem unended_initial (run : CrawlRun) (now : Instant) (job : CrawlJob) :
    Unended run (.initial now job) where
  others _ _ h := nomatch h
  running h := absurd rfl h
  finishing _ _ h := nomatch h

/-- The finish is recorded when it is written back to a job that is still running. -/
theorem Unended.undisturbed (hinv : Unended run state) : Undisturbed run state where
  running := hinv.running
  recorded since held hphase := by
    obtain ⟨hloaded, spider, snapshot, hop⟩ := hinv.finishing since held hphase
    refine ⟨spider, snapshot, hop, fun hexited ↦ ?_⟩
    obtain ⟨finished, hfinish, hfinal, hrecorded⟩ := finish_finalArgs run spider snapshot held.now hloaded
    have hperformed := held.performed
    rw [hop, JobOp.perform, hfinish] at hperformed
    obtain rfl := Except.ok.inj hperformed
    have hchanged : held.current.status ≠ held.loaded.status := by
      rw [hloaded]
      intro hrunning
      rw [hrunning] at hfinal
      cases hfinal
    have hwritten : (state.row.writeBack held).stored.status = held.current.status := by
      rw [JobState.writeBack, CrawlJob.writeBack_status, mergeColumn_changed hchanged]
    rw [hwritten]
    exact hrecorded hexited

/-- What keeps the status it loaded does not change the stored one. -/
theorem status_writeBack_of_kept {held : InFlight} (h : held.current.status = held.loaded.status)
    (stored : CrawlJob) : (CrawlJob.writeBack held.loaded held.current stored).status = stored.status := by
  rw [CrawlJob.writeBack_status, h, mergeColumn_unchanged]

theorem status_heartbeat {held : InFlight} (hop : held.op = heartbeatOp) :
    held.current.status = held.loaded.status := by
  cases held.effect with
  | untouched hstatus => exact hstatus
  | renewed _ _ _ _ hstatus => exact hstatus
  | finalised hmayEnd =>
    rw [hop] at hmayEnd
    cases hmayEnd

/-- A transaction of the others leaves a running job running: a reconcile has not selected it. -/
theorem running_step_of_unended {row : JobState ℕ} {now : Instant} {event : OtherEvent} (hothers : OthersOnly row)
    (hunended : ∀ txn held, row.inFlight txn = some held → held.op.mayEnd → held.op = .reconcile)
    (hrunning : row.stored.status = .running) :
    (row.step (event.jobEvent now)).stored.status = .running := by
  rcases status_step_cases row (event.jobEvent now) with hkept | ⟨hpending, -⟩ | ⟨txn, held, -, hheld, hchanged, -⟩
  · rw [hkept, hrunning]
  · rw [hrunning] at hpending
    cases hpending
  · exfalso
    cases held.effect with
    | untouched hstatus => exact hchanged hstatus
    | renewed _ _ _ _ hstatus => exact hchanged hstatus
    | finalised hmayEnd _ _ hselected =>
      have hreconcile := hunended txn held hheld hmayEnd
      exact hothers.unselected txn held hheld ⟨hreconcile, hselected hreconcile⟩

/-- An event that ends no job brings no transaction that does, but for a reconcile. -/
theorem others_step_of_not_endsJob {row : JobState ℕ} {now : Instant} {event : OtherEvent}
    (hends : event.endsJob = false)
    (hunended : ∀ txn held, row.inFlight txn = some held → held.op.mayEnd → held.op = .reconcile)
    (txn : ℕ) (held : InFlight) (hheld : (row.step (event.jobEvent now)).inFlight txn = some held)
    (hmayEnd : held.op.mayEnd) : held.op = .reconcile := by
  rcases inFlight_step hheld with hbefore | ⟨hread, -, -⟩
  · exact hunended txn held hbefore hmayEnd
  · cases event with
    | reconcile other =>
      simp only [OtherEvent.jobEvent, JobEvent.read.injEq] at hread
      exact hread.2.1.symm
    | recordStats other deltas =>
      simp only [OtherEvent.jobEvent, JobEvent.read.injEq] at hread
      rw [← hread.2.1] at hmayEnd
      cases hmayEnd
    | finish other args => cases hends
    | failIfActive other args => cases hends
    | claim => cases hread
    | commit other => cases hread
    | rollback other => cases hread

/-- A step that leaves the row alone and comes to no finish. -/
theorem Unended.of_phase (hinv : Unended run state) {now : Instant} {phase : Phase}
    (hsince : phase.since ≠ none → state.phase.since ≠ none)
    (hfinishing : ∀ since held, phase = .finishing since held →
      held.loaded.status = .running ∧ ∃ spider snapshot, held.op = .finish (finalArgs run spider snapshot)) :
    Unended run { state with now := now, phase := phase } where
  others := hinv.others
  running h := hinv.running (hsince h)
  finishing := hfinishing

/-- A supervised job is not ended by anything but its supervisor. -/
theorem unended_step (hwatched : Watched delay state) (hinv : Unended run state) {event : SupervisionEvent}
    (hends : ∀ other, event = .other other → other.endsJob = false) :
    Unended run (state.step .polling delay run event) := by
  rcases step_polling delay run state event with hsame | hstep
  · rwa [hsame]
  · revert hstep
    generalize state.step .polling delay run event = after
    intro hstep
    have hphase : ∀ {phase since}, state.phase = phase → phase.since = some since → state.phase.since ≠ none :=
      fun hphase hsince hnone ↦ by rw [hphase, hsince] at hnone; cases hnone
    cases hstep with
    | tick elapsed _ _ => exact { hinv with }
    | start args hqueued hpending =>
      refine ⟨?_, fun _ ↦ (start_pending args state.now hpending).1, fun _ _ h ↦ (nomatch h)⟩
      rw [inFlight_start]
      exact hinv.others
    | lost args _ => exact hinv.of_phase (fun h ↦ absurd rfl h) (fun _ _ h ↦ (nomatch h))
    | launch since hlaunching =>
      exact hinv.of_phase (fun _ ↦ hphase hlaunching rfl) (fun _ _ h ↦ (nomatch h))
    | timeoutExpired since hwaiting =>
      exact hinv.of_phase (fun _ ↦ hphase hwaiting rfl) (fun _ _ h ↦ (nomatch h))
    | readHeartbeat since held htimedOut _ =>
      exact hinv.of_phase (fun _ ↦ hphase htimedOut rfl) (fun _ _ h ↦ (nomatch h))
    | commitHeartbeat since held hbeating =>
      refine ⟨hinv.others, fun _ ↦ ?_, fun _ _ h ↦ (nomatch h)⟩
      have hkept := status_heartbeat (hwatched.beating since held hbeating).1
      exact (status_writeBack_of_kept hkept _).trans (hinv.running (hphase hbeating rfl))
    | exit since returnCode hwaiting =>
      exact hinv.of_phase (fun _ ↦ hphase hwaiting rfl) (fun _ _ h ↦ (nomatch h))
    | classify since spider hexited =>
      exact hinv.of_phase (fun _ ↦ hphase hexited rfl) (fun _ _ h ↦ (nomatch h))
    | readFinish since spider snapshot held hclassified hload =>
      refine hinv.of_phase (fun _ ↦ hphase hclassified rfl) ?_
      intro since' held' hfinishing
      obtain ⟨rfl, rfl⟩ : since = since' ∧ held = held' := by simpa using hfinishing
      obtain ⟨hop, -, hloaded⟩ := InFlight.load_eq_some hload
      exact ⟨hloaded ▸ hinv.running (hphase hclassified rfl), spider, snapshot, hop⟩
    | finishRaised since spider snapshot _ => exact hinv.of_phase (fun h ↦ absurd rfl h) (fun _ _ h ↦ (nomatch h))
    | commitFinish since held _ =>
      exact ⟨hinv.others, fun h ↦ absurd rfl h, fun _ _ h ↦ (nomatch h)⟩
    | other event =>
      refine ⟨others_step_of_not_endsJob (hends event rfl) hinv.others, fun hsince ↦ ?_, hinv.finishing⟩
      have hover : state.phase ≠ .over := fun hover ↦ hsince (by rw [hover]; rfl)
      exact running_step_of_unended (hwatched.others hover) hinv.others (hinv.running hsince)

end Invariant

/-! ## Every run of a polling executor -/

section Runs

variable {delay : Instant} (hdelay : WellBelowLease delay) (run : CrawlRun)

include hdelay

theorem watched_foldl (events : List SupervisionEvent) {state : Supervision} (h : Watched delay state) :
    Watched delay (events.foldl (Supervision.step .polling delay run) state) :=
  Transition.invariant_run (fun _ event ↦ watched_step hdelay event) state events h

theorem unended_foldl (events : List SupervisionEvent) {state : Supervision} (hwatched : Watched delay state)
    (hinv : Unended run state) (hends : ∀ event, .other event ∈ events → event.endsJob = false) :
    Unended run (events.foldl (Supervision.step .polling delay run) state) := by
  have hquiet : ∀ event ∈ events, ∀ other, event = .other other → other.endsJob = false := by
    rintro event hevent other rfl
    exact hends other hevent
  have hkeep : ∀ state event, Watched delay state ∧ Unended run state →
      (∀ other, event = .other other → other.endsJob = false) →
      Watched delay (state.step .polling delay run event) ∧ Unended run (state.step .polling delay run event) :=
    fun _ event hinv hquiet ↦ ⟨watched_step hdelay event hinv.1, unended_step hinv.1 hinv.2 hquiet⟩
  exact (Transition.invariant_foldl hkeep state events ⟨hwatched, hinv⟩
    (Transition.along_of_forall_mem hquiet state)).2

/-- However long the spider runs, the worker and the scheduler keep the lease of a created job in
the future while it is alive, and their finish for exit code 0 is accepted and records success,
partial success or a failed page fetch; only a finish or failure by another process forestalls it. -/
theorem polling_executor_keeps_lease (id sourceSiteId : ℕ) (args : CreateArgs) (now createdAt : Instant)
    (events : List SupervisionEvent) :
    let state := events.foldl (Supervision.step .polling delay run)
      (.initial now (.created id sourceSiteId args now createdAt))
    Supervised run state ∧
      ((∀ event, .other event ∈ events → event.endsJob = false) → Undisturbed run state) := by
  have hpending : (CrawlJob.created id sourceSiteId args now createdAt).status ≠ .running := nofun
  have hinitial := watched_initial delay now hpending
  constructor
  · exact (watched_foldl hdelay run events hinitial).supervised hdelay
  · exact fun hends ↦ (unended_foldl hdelay run events hinitial (unended_initial run now _) hends).undisturbed

end Runs

def createdAtZero : Supervision := .initial 0 (.created 1 1 {} 0 0)

/-- A spider that runs for over two intervals, and exits with code 0. -/
def heartbeatThenExit : List SupervisionEvent :=
  [.start {}, .launch, .tick (seconds 30), .timeoutExpired, .readHeartbeat, .tick (seconds 5), .commitHeartbeat,
    .tick (seconds 34), .exit 0, .classify [] [], .readFinish]

theorem polling_executor_keeps_lease_heartbeatThenExit :
    let state := heartbeatThenExit.foldl (Supervision.step .polling (seconds 5) dealCrawl) createdAtZero
    Supervised dealCrawl state ∧ Undisturbed dealCrawl state := by
  have hdelay : WellBelowLease (seconds 5) := ⟨by decide, by decide⟩
  obtain ⟨hsupervised, hundisturbed⟩ :=
    polling_executor_keeps_lease hdelay dealCrawl 1 1 {} 0 0 heartbeatThenExit
  refine ⟨hsupervised, hundisturbed ?_⟩
  intro event hevent
  simp [heartbeatThenExit] at hevent

/-- The script's spider is alive after its lease, a reconcile fails the job and the finish raises;
and a worker records an exit with code 0 as failed. -/
theorem script_outlives_lease_and_worker_fails_exit_zero :
    (let alive := [.start {}, .launch, .tick (seconds 1801)].foldl
        (Supervision.step .blocking 0 dealCrawl) createdAtZero
      let exited := [.other (.reconcile 1), .other (.commit 1), .exit 0].foldl
        (Supervision.step .blocking 0 dealCrawl) alive
      alive.phase.alive ∧ alive.row.stored.reconcilable alive.now ∧
        finishJobInSession exited.row.stored (scriptFinishArgs 0) exited.now =
          .error (.valueError "invalid crawl job status transition: failed -> succeeded")) ∧
      ([.start {}, .launch, .exit 0, .classify [⟨"fetch", "timeout"⟩] [], .readFinish, .commitFinish].foldl
        (Supervision.step .polling 0 dealCrawl) createdAtZero).row.stored.status = .failed := by
  refine ⟨⟨rfl, rfl, rfl⟩, ?_⟩
  decide +kernel

end TenderPhase1.Executors
