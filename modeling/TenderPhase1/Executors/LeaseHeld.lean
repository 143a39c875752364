import TenderPhase1.Executors.Supervision
import TenderPhase1.Foundation.Transition
import Mathlib.Tactic.Linarith

/-!
# The lease of a supervised spider

A polling executor renews the lease once in every interval, so with a delay of
less than 870 s beyond the interval the lease lies in the future for as long as
it waits, no reconcile selects the job, and its finish is accepted unless another
process has ended the job. The script promises nothing of the kind: it never
renews the lease.
-/

namespace TenderPhase1.Executors

open Jobs ObjectSession

/-! ## What one step of a polling executor can do -/

/-- The steps of a polling executor and its surroundings that change something. -/
inductive PollingStep (delay : Instant) (run : CrawlRun) (state : Supervision) :
    SupervisionEvent → Supervision → Prop where
  | tick (elapsed : ℤ) (forward : 0 ≤ elapsed)
      (inTime : ∀ since, state.phase.since = some since →
        state.now + elapsed ≤ since + heartbeatInterval + delay) :
      PollingStep delay run state (.tick elapsed) { state with now := state.now + elapsed }
  | start (args : StartArgs) (queued : state.phase = .queued) (pending : state.row.stored.status = .pending) :
      PollingStep delay run state (.start args)
        { state with
          row := state.row.step (.start (runningStart args) state.now)
          phase := .launching state.now }
  | lost (args : StartArgs) (queued : state.phase = .queued) :
      PollingStep delay run state (.start args) { state with phase := .over }
  | launch (since : Instant) (launching : state.phase = .launching since) :
      PollingStep delay run state .launch { state with phase := .waiting state.now }
  | timeoutExpired (since : Instant) (waiting : state.phase = .waiting since) :
      PollingStep delay run state .timeoutExpired { state with phase := .timedOut since }
  | readHeartbeat (since : Instant) (held : InFlight) (timedOut : state.phase = .timedOut since)
      (load : InFlight.load heartbeatOp state.now state.row.stored = some held) :
      PollingStep delay run state .readHeartbeat { state with phase := .beating since held }
  | commitHeartbeat (since : Instant) (held : InFlight) (beating : state.phase = .beating since held) :
      PollingStep delay run state .commitHeartbeat
        { state with row := state.row.writeBack held, phase := .waiting state.now }
  | exit (since : Instant) (returnCode : ℤ) (waiting : state.phase = .waiting since) :
      PollingStep delay run state (.exit returnCode) { state with phase := .exited since returnCode }
  | classify (since : Instant) (spider : SpiderOutcome) (exited : state.phase = .exited since spider.returnCode) :
      PollingStep delay run state (.classify spider.errors spider.pages)
        { state with phase := .classified since spider state.row.stored }
  | readFinish (since : Instant) (spider : SpiderOutcome) (snapshot : CrawlJob) (held : InFlight)
      (classified : state.phase = .classified since spider snapshot)
      (load : InFlight.load (.finish (finalArgs run spider snapshot)) state.now state.row.stored = some held) :
      PollingStep delay run state .readFinish { state with phase := .finishing since held }
  | finishRaised (since : Instant) (spider : SpiderOutcome) (snapshot : CrawlJob)
      (classified : state.phase = .classified since spider snapshot) :
      PollingStep delay run state .readFinish { state with phase := .over }
  | commitFinish (since : Instant) (held : InFlight) (finishing : state.phase = .finishing since held) :
      PollingStep delay run state .commitFinish { state with row := state.row.writeBack held, phase := .over }
  | other (event : OtherEvent) :
      PollingStep delay run state (.other event) { state with row := state.row.step (event.jobEvent state.now) }

/-- A heartbeat with the default lease never raises. -/
theorem load_heartbeat (now : Instant) (stored : CrawlJob) :
    ∃ held, InFlight.load heartbeatOp now stored = some held := by
  have hperform : ∃ current, heartbeatOp.perform stored now = .ok current := by
    simp only [heartbeatOp, JobOp.perform, heartbeatJobInSession]
    split
    · exact ⟨_, rfl⟩
    · exact ⟨_, rfl⟩
  obtain ⟨current, hcurrent⟩ := hperform
  unfold InFlight.load
  split
  · exact ⟨_, rfl⟩
  · rename_i error herror
    rw [hcurrent] at herror
    cases herror

/-- A step of a supervised run does nothing, or one of the things that polling does. -/
theorem step_polling (delay : Instant) (run : CrawlRun) (state : Supervision) (event : SupervisionEvent) :
    state.step .polling delay run event = state ∨
      PollingStep delay run state event (state.step .polling delay run event) := by
  cases event with
  | tick elapsed =>
    simp only [Supervision.step]
    split
    · rename_i hguard
      rw [Bool.and_eq_true, decide_eq_true_eq] at hguard
      refine Or.inr (.tick elapsed hguard.1 fun since hsince ↦ ?_)
      simpa [Phase.inTime, hsince] using hguard.2
    · exact Or.inl rfl
  | start args =>
    cases hphase : state.phase with
    | queued =>
      simp only [Supervision.step, hphase]
      split
      · rename_i hupdated
        exact Or.inr (.start args hphase ((updated_start_iff _ _ _).mp hupdated))
      · exact Or.inr (.lost args hphase)
    | _ => exact Or.inl (by simp only [Supervision.step, hphase])
  | launch =>
    cases hphase : state.phase with
    | launching since => exact Or.inr (by simpa only [Supervision.step, hphase] using .launch since hphase)
    | _ => exact Or.inl (by simp only [Supervision.step, hphase])
  | timeoutExpired =>
    cases hphase : state.phase with
    | waiting since =>
      simp only [Supervision.step, hphase]
      split
      · exact Or.inr (.timeoutExpired since hphase)
      · exact Or.inl rfl
    | _ => exact Or.inl (by simp only [Supervision.step, hphase])
  | readHeartbeat =>
    cases hphase : state.phase with
    | timedOut since =>
      obtain ⟨held, hload⟩ := load_heartbeat state.now state.row.stored
      right
      simpa only [Supervision.step, hphase, hload] using .readHeartbeat since held hphase hload
    | _ => exact Or.inl (by simp only [Supervision.step, hphase])
  | commitHeartbeat =>
    cases hphase : state.phase with
    | beating since held =>
      exact Or.inr (by simpa only [Supervision.step, hphase] using .commitHeartbeat since held hphase)
    | _ => exact Or.inl (by simp only [Supervision.step, hphase])
  | exit returnCode =>
    cases hphase : state.phase with
    | waiting since =>
      exact Or.inr (by simpa only [Supervision.step, hphase] using .exit since returnCode hphase)
    | _ => exact Or.inl (by simp only [Supervision.step, hphase])
  | classify errors pages =>
    cases hphase : state.phase with
    | exited since returnCode =>
      right
      simpa only [Supervision.step, hphase] using .classify since ⟨returnCode, errors, pages⟩ hphase
    | _ => exact Or.inl (by simp only [Supervision.step, hphase])
  | readFinish =>
    cases hphase : state.phase with
    | classified since spider snapshot =>
      simp only [Supervision.step, hphase, Watcher.finishArgs]
      split
      · rename_i held hload
        exact Or.inr (.readFinish since spider snapshot held hphase hload)
      · exact Or.inr (.finishRaised since spider snapshot hphase)
    | _ => exact Or.inl (by simp only [Supervision.step, hphase])
  | commitFinish =>
    cases hphase : state.phase with
    | finishing since held =>
      exact Or.inr (by simpa only [Supervision.step, hphase] using .commitFinish since held hphase)
    | _ => exact Or.inl (by simp only [Supervision.step, hphase])
  | other event => exact Or.inr (.other event)

/-! ## The invariant of a supervised run -/

/-- How far the lease may lag behind: it was renewed when the last interval began at the latest,
and by the start itself before the first one. -/
def Phase.slack (delay : Instant) : Phase → Instant
  | .launching _ => 0
  | _ => heartbeatInterval + delay

structure Watched (delay : Instant) (state : Supervision) : Prop where
  others : state.phase ≠ .over → OthersOnly state.row
  queued : state.phase = .queued → state.row.stored.status ≠ .running
  past : ∀ since, state.phase.since = some since → state.row.pastPending
  time : ∀ since, state.phase.since = some since →
    since ≤ state.now ∧ state.now ≤ since + heartbeatInterval + delay
  lease : ∀ since, state.phase.since = some since → state.row.stored.status = .running →
    ∃ lease, state.row.stored.timeoutAt = some lease ∧ since + runningLease ≤ lease + state.phase.slack delay
  beating : ∀ since held, state.phase = .beating since held →
    held.op = heartbeatOp ∧ since ≤ held.now ∧ (state.row.stored.status = .running →
      held.loaded.status = .running ∧ state.row.stored.timeoutAt = held.loaded.timeoutAt)

/-- The delay is not negative, and two intervals with it stay below the running lease. -/
def WellBelowLease (delay : Instant) : Prop := 0 ≤ delay ∧ delay < seconds 870

theorem watched_initial (delay now : Instant) {job : CrawlJob} (h : job.status ≠ .running) :
    Watched delay (.initial now job) where
  others _ := othersOnly_initial job
  queued _ := h
  past _ hsince := nomatch hsince
  time _ hsince := nomatch hsince
  lease _ hsince := nomatch hsince
  beating _ _ hphase := nomatch hphase

section Invariant

variable {delay : Instant} {run : CrawlRun} {state : Supervision}

theorem interval_nonneg (hdelay : WellBelowLease delay) : 0 ≤ heartbeatInterval + delay :=
  Int.add_nonneg (by decide) hdelay.1

theorem slack_le (hdelay : WellBelowLease delay) (phase : Phase) :
    phase.slack delay ≤ heartbeatInterval + delay := by
  cases phase with
  | launching since => exact interval_nonneg hdelay
  | _ => exact le_refl _

/-- A new interval begins in time. -/
theorem inTime_now (hdelay : WellBelowLease delay) (now : Instant) :
    now ≤ now ∧ now ≤ now + heartbeatInterval + delay := by
  have hnonneg := interval_nonneg hdelay
  exact ⟨le_refl now, by linarith⟩

/-- While an executor supervises a running job, the lease lies in the future. -/
theorem Watched.now_lt_lease (hinv : Watched delay state) (hdelay : WellBelowLease delay) {since : Instant}
    (hsince : state.phase.since = some since) (hrunning : state.row.stored.status = .running) :
    ∃ lease, state.row.stored.timeoutAt = some lease ∧ state.now < lease := by
  obtain ⟨lease, htimeout, hlease⟩ := hinv.lease since hsince hrunning
  refine ⟨lease, htimeout, ?_⟩
  have htime := (hinv.time since hsince).2
  have hslack := slack_le hdelay state.phase
  have hbound := hdelay.2
  simp only [heartbeatInterval, runningLease, defaultRunningLeaseSeconds, seconds] at *
  linarith

theorem resolveTimeoutAt_of_timeoutAt {job : CrawlJob} {lease : Instant} (h : job.timeoutAt = some lease) :
    job.resolveTimeoutAt = some lease := by
  rw [CrawlJob.resolveTimeoutAt, h]
  rfl

theorem Watched.not_reconcilable (hinv : Watched delay state) (hdelay : WellBelowLease delay)
    (hphase : state.phase ≠ .over) : ¬ state.row.stored.reconcilable state.now := by
  intro hselected
  simp only [CrawlJob.reconcilable, Bool.and_eq_true, decide_eq_true_eq] at hselected
  obtain ⟨hrunning, hexpired⟩ := hselected
  cases hsince : state.phase.since with
  | none =>
    have hqueued : state.phase = .queued := by
      cases h : state.phase <;> simp_all [Phase.since]
    exact hinv.queued hqueued hrunning
  | some since =>
    obtain ⟨lease, htimeout, hfuture⟩ := hinv.now_lt_lease hdelay hsince hrunning
    rw [CrawlJob.leaseExpired, resolveTimeoutAt_of_timeoutAt htimeout] at hexpired
    have hover : lease ≤ state.now := by simpa using hexpired
    exact absurd hfuture (not_lt.mpr hover)

/-- `start_job` on a pending job sets it running under a lease from now. -/
theorem start_pending {row : JobState ℕ} (args : StartArgs) (now : Instant)
    (h : row.stored.status = .pending) :
    (row.step (.start (runningStart args) now)).stored.status = .running ∧
      (row.step (.start (runningStart args) now)).stored.timeoutAt = some (now + runningLease) := by
  have hupdated := (updated_start_iff row.stored args now).mpr h
  simp only [JobState.step, JobState.update]
  cases hresult : startJobInSession row.stored (runningStart args) now with
  | error error => simp [hresult, updated] at hupdated
  | ok result =>
    cases result with
    | none => simp [hresult, updated] at hupdated
    | some started =>
      obtain ⟨-, hrunning, htimeout, -⟩ := startJobInSession_eq_some hresult
      exact ⟨hrunning, htimeout⟩

theorem othersOnly_start {row : JobState ℕ} (hrow : OthersOnly row) (args : StartArgs) (now : Instant)
    (h : row.stored.status = .pending) : OthersOnly (row.step (.start args now)) where
  heartbeat := by
    rw [inFlight_start]
    exact hrow.heartbeat
  unselected := by
    rw [inFlight_start]
    exact hrow.unselected
  ended txn held hheld hfinal := by
    rw [inFlight_start] at hheld
    have hended := hrow.ended txn held hheld hfinal
    rw [JobState.ended, h] at hended
    cases hended

/-- What a heartbeat commits on a job that is still running under the lease it read. -/
theorem timeoutAt_writeBack_heartbeat {held : InFlight} {stored : CrawlJob} (hop : held.op = heartbeatOp)
    (hrunning : held.loaded.status = .running) (hsame : stored.timeoutAt = held.loaded.timeoutAt) :
    (CrawlJob.writeBack held.loaded held.current stored).timeoutAt = some (held.now + runningLease) := by
  have hperformed := held.performed
  rw [hop] at hperformed
  rcases heartbeatJobInSession_eq_ok hperformed with ⟨hfinal, -⟩ | ⟨-, -, htimeout, -⟩
  · rw [hrunning] at hfinal
    cases hfinal
  · rw [CrawlJob.writeBack_timeoutAt, hsame, mergeColumn_loaded, htimeout]
    rfl

/-- Writing an object back leaves a job running only if it was. -/
theorem running_of_running_writeBack {held : InFlight} {stored : CrawlJob}
    (h : (CrawlJob.writeBack held.loaded held.current stored).status = .running) :
    stored.status = .running := by
  rcases held.status_writeBack_cases stored with hkept | ⟨-, hfinal, hwritten⟩
  · rw [← hkept, h]
  · rw [← hwritten, h] at hfinal
    cases hfinal

/-- A step that leaves the row alone and does not restart the interval keeps the invariant. -/
theorem Watched.of_phase (hinv : Watched delay state) {phase : Phase} (hsince : phase.since = state.phase.since)
    (hsome : state.phase.since ≠ none) (hslack : phase.slack delay = state.phase.slack delay)
    (hbeating : ∀ since held, phase = .beating since held →
      held.op = heartbeatOp ∧ since ≤ held.now ∧ (state.row.stored.status = .running →
        held.loaded.status = .running ∧ state.row.stored.timeoutAt = held.loaded.timeoutAt)) :
    Watched delay { state with phase := phase } where
  others _ := hinv.others fun hover ↦ hsome (by rw [hover]; rfl)
  queued hqueued := by
    have hnone : state.phase.since = none := by
      rw [← hsince]
      exact congrArg Phase.since hqueued
    exact absurd hnone hsome
  past since h := hinv.past since (hsince ▸ h)
  time since h := hinv.time since (hsince ▸ h)
  lease since h hrunning := by
    rw [show Phase.slack delay _ = state.phase.slack delay from hslack]
    exact hinv.lease since (hsince ▸ h) hrunning
  beating := hbeating

theorem watched_over (now : Instant) (row : JobState ℕ) : Watched delay ⟨now, row, .over⟩ where
  others h := absurd rfl h
  queued h := nomatch h
  past _ h := nomatch h
  time _ h := nomatch h
  lease _ h := nomatch h
  beating _ _ h := nomatch h

/-- Starting the job starts the watch. -/
theorem watched_start (hdelay : WellBelowLease delay) (hinv : Watched delay state)
    (hqueued : state.phase = .queued) (hpending : state.row.stored.status = .pending) (args : StartArgs) :
    Watched delay { state with
      row := state.row.step (.start (runningStart args) state.now)
      phase := .launching state.now } where
  others _ := othersOnly_start (hinv.others (by rw [hqueued]; nofun)) _ _ hpending
  queued h := nomatch h
  past _ _ := status_start_ne_pending state.row args state.now
  time now h := by
    obtain rfl := Option.some.inj h
    exact inTime_now hdelay state.now
  lease now h _ := by
    obtain rfl := Option.some.inj h
    refine ⟨_, (start_pending args state.now hpending).2, ?_⟩
    simp [Phase.slack]
  beating _ _ h := nomatch h

/-- The child is launched in time. -/
theorem watched_launch (hdelay : WellBelowLease delay) (hinv : Watched delay state) {since : Instant}
    (hphase : state.phase = .launching since) : Watched delay { state with phase := .waiting state.now } where
  others _ := hinv.others (by rw [hphase]; nofun)
  queued h := nomatch h
  past _ _ := hinv.past since (by rw [hphase]; rfl)
  time now h := by
    obtain rfl := Option.some.inj h
    exact inTime_now hdelay state.now
  lease now h hrunning := by
    obtain rfl := Option.some.inj h
    have hsince : state.phase.since = some since := by rw [hphase]; rfl
    obtain ⟨lease, htimeout, hlease⟩ := hinv.lease since hsince hrunning
    have htime := (hinv.time since hsince).2
    rw [hphase] at hlease
    refine ⟨lease, htimeout, ?_⟩
    simp only [Phase.slack] at hlease ⊢
    linarith
  beating _ _ h := nomatch h

/-- A committed heartbeat renews the lease. -/
theorem watched_commitHeartbeat (hdelay : WellBelowLease delay) (hinv : Watched delay state) {since : Instant}
    {held : InFlight} (hphase : state.phase = .beating since held) :
    Watched delay { state with row := state.row.writeBack held, phase := .waiting state.now } where
  others _ := (hinv.others (by rw [hphase]; nofun)).writeBack held
  queued h := nomatch h
  past _ _ := pastPending_writeBack (hinv.past since (by rw [hphase]; rfl)) held
  time now h := by
    obtain rfl := Option.some.inj h
    exact inTime_now hdelay state.now
  lease now h hrunning := by
    obtain rfl := Option.some.inj h
    obtain ⟨hop, hnow, hbeat⟩ := hinv.beating since held hphase
    obtain ⟨hloaded, hsame⟩ := hbeat (running_of_running_writeBack hrunning)
    refine ⟨held.now + runningLease, timeoutAt_writeBack_heartbeat hop hloaded hsame, ?_⟩
    have htime := (hinv.time since (by rw [hphase]; rfl)).2
    simp only [Phase.slack]
    linarith
  beating _ _ h := nomatch h

/-- Another process does not shorten the lease of a watched job. -/
theorem watched_other (hdelay : WellBelowLease delay) (hinv : Watched delay state) (event : OtherEvent) :
    Watched delay { state with row := state.row.step (event.jobEvent state.now) } where
  others hphase := othersOnly_step event (hinv.others hphase) (hinv.not_reconcilable hdelay hphase)
  queued hqueued hrunning := by
    have hothers := hinv.others (by rw [show state.phase = .queued from hqueued]; nofun)
    exact hinv.queued hqueued (running_step_other hothers hrunning).1
  past since hsince := pastPending_step _ _ (hinv.past since hsince)
  time := hinv.time
  lease since hsince hrunning := by
    have hphase : state.phase ≠ .over := by
      intro hover
      rw [show state.phase = .over from hover] at hsince
      cases hsince
    obtain ⟨hbefore, htimeout⟩ := running_step_other (hinv.others hphase) hrunning
    obtain ⟨lease, hlease⟩ := hinv.lease since hsince hbefore
    exact ⟨lease, htimeout.trans hlease.1, hlease.2⟩
  beating since held hphase := by
    obtain ⟨hop, hnow, hbeat⟩ := hinv.beating since held hphase
    refine ⟨hop, hnow, fun hrunning ↦ ?_⟩
    have hothers := hinv.others (by rw [show state.phase = .beating since held from hphase]; nofun)
    obtain ⟨hbefore, htimeout⟩ := running_step_other hothers hrunning
    obtain ⟨hloaded, hsame⟩ := hbeat hbefore
    exact ⟨hloaded, htimeout.trans hsame⟩

/-- A job stays watched. -/
theorem watched_step (hdelay : WellBelowLease delay) (event : SupervisionEvent) (hinv : Watched delay state) :
    Watched delay (state.step .polling delay run event) := by
  rcases step_polling delay run state event with hsame | hstep
  · rwa [hsame]
  · revert hstep
    generalize state.step .polling delay run event = after
    intro hstep
    cases hstep with
    | tick elapsed hforward hinTime =>
      have hlater : state.now ≤ state.now + elapsed := Int.le_add_of_nonneg_right hforward
      exact { hinv with
        time := fun since hsince ↦ ⟨(hinv.time since hsince).1.trans hlater, hinTime since hsince⟩ }
    | start args hqueued hpending => exact watched_start hdelay hinv hqueued hpending args
    | lost args hqueued => exact watched_over state.now state.row
    | launch since hlaunching => exact watched_launch hdelay hinv hlaunching
    | timeoutExpired since hwaiting =>
      exact hinv.of_phase (by rw [hwaiting]; rfl) (by rw [hwaiting]; nofun) (by rw [hwaiting]; rfl)
        (fun _ _ h ↦ (nomatch h))
    | readHeartbeat since held htimedOut hload =>
      obtain ⟨hop, hnow, hloaded⟩ := InFlight.load_eq_some hload
      refine hinv.of_phase (by rw [htimedOut]; rfl) (by rw [htimedOut]; nofun) (by rw [htimedOut]; rfl) ?_
      intro since' held' hphase
      obtain ⟨rfl, rfl⟩ : since = since' ∧ held = held' := by simpa using hphase
      refine ⟨hop, ?_, fun hrunning ↦ ⟨hloaded ▸ hrunning, by rw [hloaded]⟩⟩
      rw [hnow]
      exact (hinv.time since (by rw [htimedOut]; rfl)).1
    | commitHeartbeat since held hbeating => exact watched_commitHeartbeat hdelay hinv hbeating
    | exit since returnCode hwaiting =>
      exact hinv.of_phase (by rw [hwaiting]; rfl) (by rw [hwaiting]; nofun) (by rw [hwaiting]; rfl)
        (fun _ _ h ↦ (nomatch h))
    | classify since spider hexited =>
      exact hinv.of_phase (by rw [hexited]; rfl) (by rw [hexited]; nofun) (by rw [hexited]; rfl)
        (fun _ _ h ↦ (nomatch h))
    | readFinish since spider snapshot held hclassified hload =>
      exact hinv.of_phase (by rw [hclassified]; rfl) (by rw [hclassified]; nofun) (by rw [hclassified]; rfl)
        (fun _ _ h ↦ (nomatch h))
    | finishRaised since spider snapshot hclassified => exact watched_over state.now state.row
    | commitFinish since held hfinishing => exact watched_over state.now _
    | other event => exact watched_other hdelay hinv event

end Invariant

end TenderPhase1.Executors
