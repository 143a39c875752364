import TenderPhase1.Jobs.Transactions

/-!
# The committed status history of a job

`_ensure_transition` judges the status an object was loaded with, and the commit
writes the new status whatever the row holds by then. What the check buys under
interleaving is this: the history follows `_ALLOWED_TRANSITIONS` as long as
nobody commits an end of the job between the read and the commit of another
transaction that ends it.
-/

namespace TenderPhase1.Jobs

open ObjectSession Transition

variable {Txn : Type} [DecidableEq Txn]

/-- The committed statuses along a run, the first one included. -/
def statusHistory (state : JobState Txn) (events : List (JobEvent Txn)) : List JobStatus :=
  (events.scanl JobState.step state).map (·.stored.status)

/-- One step of a path of `_ALLOWED_TRANSITIONS`, or no step at all. -/
def JobStatus.Follows (earlier later : JobStatus) : Prop :=
  later = earlier ∨ later ∈ allowedTransitions earlier

instance (earlier later : JobStatus) : Decidable (earlier.Follows later) :=
  inferInstanceAs (Decidable (_ ∨ _))

/-- No commit of the run changes the status of a job that has ended. -/
def TerminalStatusKept (state : JobState Txn) (events : List (JobEvent Txn)) : Prop :=
  Along JobState.step (fun state event ↦
    state.stored.status.isFinal → (state.step event).stored.status = state.stored.status) state events

/-! ## Transactions that end the job -/

/-- The operation ends a job that it reads as `loaded`. -/
def JobOp.ends (op : JobOp) (loaded : CrawlJob) (now : Instant) : Bool :=
  loaded.status.isActive && match op with
    | .finish _ | .failIfActive _ => true
    | .reconcile => loaded.reconcilable now
    | .heartbeat _ _ | .recordStats _ => false

def InFlight.ending (held : InFlight) : Bool := held.op.ends held.loaded held.now

def CommitsEnd (state : JobState Txn) (event : JobEvent Txn) : Prop :=
  ∃ txn held, event = .commit txn ∧ state.inFlight txn = some held ∧ held.ending

/-- Between the read and the commit of a transaction that ends the job, no other transaction
commits an end of it. -/
def Unraced (state : JobState Txn) (events : List (JobEvent Txn)) : Prop :=
  ∀ before txn op now between after held,
    events = before ++ .read txn op now :: (between ++ .commit txn :: after) →
    (before.foldl JobState.step state).inFlight txn = none →
    InFlight.load op now (before.foldl JobState.step state).stored = some held → held.ending →
    (∀ event ∈ between, event ≠ .commit txn ∧ event ≠ .rollback txn) →
      Along JobState.step (fun state event ↦ ¬ CommitsEnd state event)
        ((before.foldl JobState.step state).step (.read txn op now)) between

/-- A transaction that ends the job finds it still active when it commits. -/
def EndsActive (state : JobState Txn) (event : JobEvent Txn) : Prop :=
  ∀ txn held, event = .commit txn → state.inFlight txn = some held → held.ending → ¬ state.ended

theorem InFlight.ending_loaded {held : InFlight} (h : held.ending) : held.loaded.status.isActive := by
  unfold InFlight.ending JobOp.ends at h
  rw [Bool.and_eq_true] at h
  exact h.1

/-- The transactions that end the job are those that give their object another status. -/
theorem InFlight.ending_iff (held : InFlight) : held.ending ↔ held.current.status ≠ held.loaded.status := by
  obtain ⟨op, now, loaded, current, performed⟩ := held
  change op.ends loaded now ↔ current.status ≠ loaded.status
  by_cases hactive : loaded.status.isActive
  · have hfinalised (hfinal : current.status.isFinal) : current.status ≠ loaded.status := by
      intro hsame
      simp [← hsame, hfinal] at hactive
    simp only [JobOp.ends, hactive, Bool.true_and]
    cases op with
    | heartbeat heartbeatAt leaseSeconds =>
      rcases heartbeatJobInSession_eq_ok performed with ⟨-, rfl⟩ | ⟨-, hstatus, -, -⟩
      · simp
      · simp [hstatus]
    | recordStats deltas =>
      obtain rfl := recordStatsInSession_eq_ok performed
      simp
    | finish args =>
      obtain ⟨status, -, hfinal, -, rfl⟩ := finishJobInSession_eq_ok.mp performed
      exact iff_of_true rfl (hfinalised hfinal)
    | failIfActive args =>
      simp only [JobOp.perform, failJobIfActiveInSession_active args now hactive] at performed
      obtain rfl := Except.ok.inj performed
      exact iff_of_true rfl (hfinalised rfl)
    | reconcile =>
      simp only [JobOp.perform] at performed
      split at performed
      · rename_i hselected
        have hfailed : current.status = .failed := (expireJob_eq_ok performed).2.1
        exact iff_of_true hselected (hfinalised (by rw [hfailed]; rfl))
      · rename_i hskipped
        obtain rfl := Except.ok.inj performed
        exact iff_of_false hskipped (not_not_intro rfl)
  · have hkept : current.status = loaded.status := by
      by_contra hchanged
      exact hactive ((InFlight.status_cases ⟨op, now, loaded, current, performed⟩).resolve_left hchanged).1
    have hnotEnds : ¬ op.ends loaded now := by
      unfold JobOp.ends
      rw [Bool.and_eq_true]
      exact fun hends ↦ hactive hends.1
    exact iff_of_false hnotEnds (not_not_intro hkept)

/-- A commit that writes a status writes the one its transaction computed. -/
theorem status_commit {state : JobState Txn} {txn : Txn} {held : InFlight} (h : state.inFlight txn = some held)
    (hchanged : held.current.status ≠ held.loaded.status) :
    (state.step (.commit txn)).stored.status = held.current.status := by
  rw [step_commit_of_inFlight h]
  exact mergeColumn_changed hchanged state.stored.status

/-- Committing an end ends the job, whatever the row held. -/
theorem ended_of_commitsEnd {state : JobState Txn} {event : JobEvent Txn} (h : CommitsEnd state event) :
    (state.step event).ended := by
  obtain ⟨txn, held, rfl, hheld, hending⟩ := h
  have hchanged := held.ending_iff.mp hending
  obtain ⟨-, hfinal, -⟩ := held.status_cases.resolve_left hchanged
  unfold JobState.ended
  rwa [status_commit hheld hchanged]

/-- A job that has not ended ends with a commit of its end and with nothing else. -/
theorem not_ended_step (state : JobState Txn) (event : JobEvent Txn) (hactive : ¬ state.ended)
    (h : ¬ CommitsEnd state event) : ¬ (state.step event).ended := by
  unfold JobState.ended at *
  rcases status_step_cases state event with hkept | ⟨-, hrunning⟩ | ⟨txn, held, rfl, hheld, hchanged, -⟩
  · rwa [hkept]
  · rw [hrunning]
    decide
  · exact absurd ⟨txn, held, rfl, hheld, held.ending_iff.mpr hchanged⟩ h

/-! ## From the read to the commit -/

/-- A transaction that is open stays open until it commits or rolls back. -/
theorem inFlight_step_of_open {state : JobState Txn} {event : JobEvent Txn} {txn : Txn} {held : InFlight}
    (h : state.inFlight txn = some held) (hopen : event ≠ .commit txn ∧ event ≠ .rollback txn) :
    (state.step event).inFlight txn = some held := by
  cases event with
  | claim pickedAt leaseSeconds now =>
    simp only [JobState.step, JobState.update]
    split <;> exact h
  | start args now => rwa [inFlight_start]
  | read other op now =>
    by_cases hother : txn = other
    · subst hother
      simp [JobState.step, h]
    · rwa [inFlight_read_of_ne hother]
  | commit other =>
    have hother : txn ≠ other := fun heq ↦ hopen.1 (by rw [heq])
    simp only [JobState.step]
    split
    · exact (Function.update_of_ne hother none state.inFlight).trans h
    · exact h
  | rollback other =>
    have hother : txn ≠ other := fun heq ↦ hopen.2 (by rw [heq])
    exact (Function.update_of_ne hother none state.inFlight).trans h

theorem inFlight_foldl_of_open {state : JobState Txn} {events : List (JobEvent Txn)} {txn : Txn} {held : InFlight}
    (h : state.inFlight txn = some held) (hopen : ∀ event ∈ events, event ≠ .commit txn ∧ event ≠ .rollback txn) :
    (events.foldl JobState.step state).inFlight txn = some held := by
  have hkeep (state : JobState Txn) (event : JobEvent Txn) (h : state.inFlight txn = some held)
      (hopen : event ≠ .commit txn ∧ event ≠ .rollback txn) : (state.step event).inFlight txn = some held :=
    inFlight_step_of_open h hopen
  exact invariant_foldl hkeep state events h
    (along_of_forall_mem hopen state)

/-- Committing or rolling back closes the transaction. -/
theorem ne_closing_of_inFlight_step {state : JobState Txn} {event : JobEvent Txn} {txn : Txn} {held : InFlight}
    (h : (state.step event).inFlight txn = some held) : event ≠ .commit txn ∧ event ≠ .rollback txn := by
  constructor
  · rintro rfl
    cases hbefore : state.inFlight txn with
    | none => simp [step_commit_of_none hbefore, hbefore] at h
    | some reader => simp [step_commit_of_inFlight hbefore] at h
  · rintro rfl
    simp [JobState.step] at h

/-- A transaction open after a step that was not open before it has been read by that step. -/
theorem read_of_inFlight_step {state : JobState Txn} {event : JobEvent Txn} {txn : Txn} {held : InFlight}
    (h : (state.step event).inFlight txn = some held) (hbefore : state.inFlight txn ≠ some held) :
    event = .read txn held.op held.now ∧ state.inFlight txn = none ∧
      InFlight.load held.op held.now state.stored = some held := by
  obtain ⟨rfl, -, -⟩ := (inFlight_step h).resolve_left hbefore
  cases hreader : state.inFlight txn with
  | none => exact ⟨rfl, rfl, by rwa [inFlight_read_self hreader] at h⟩
  | some reader =>
    have hkept : (state.step (.read txn held.op held.now)).inFlight txn = some reader :=
      inFlight_step_of_open hreader ⟨nofun, nofun⟩
    exact absurd (hreader.trans (hkept.symm.trans h)) hbefore

/-- An open transaction was read by some event of the run and has not been closed since. -/
theorem exists_read_of_inFlight {job : CrawlJob} {events : List (JobEvent Txn)} {txn : Txn} {held : InFlight}
    (h : (events.foldl JobState.step (.initial job)).inFlight txn = some held) :
    ∃ before between, events = before ++ .read txn held.op held.now :: between ∧
      (before.foldl JobState.step (.initial job)).inFlight txn = none ∧
      InFlight.load held.op held.now (before.foldl JobState.step (.initial job)).stored = some held ∧
      ∀ event ∈ between, event ≠ .commit txn ∧ event ≠ .rollback txn := by
  induction events using List.reverseRecOn with
  | nil => cases h
  | append_singleton events event ih =>
    rw [List.foldl_concat] at h
    by_cases hbefore : (events.foldl JobState.step (.initial job)).inFlight txn = some held
    · obtain ⟨before, between, heq, hnone, hload, hopen⟩ := ih hbefore
      refine ⟨before, between ++ [event], by simp [heq], hnone, hload, fun next hnext ↦ ?_⟩
      rcases List.mem_append.mp hnext with hlater | hlast
      · exact hopen next hlater
      · rw [List.mem_singleton.mp hlast]
        exact ne_closing_of_inFlight_step h
    · obtain ⟨rfl, hnone, hload⟩ := read_of_inFlight_step h hbefore
      exact ⟨events, [], rfl, hnone, hload, fun _ hnext ↦ absurd hnext List.not_mem_nil⟩

/-- Nobody has ended the job since a transaction read it if and only if it is active at the commit. -/
theorem unraced_iff_along_endsActive (job : CrawlJob) (events : List (JobEvent Txn)) :
    Unraced (.initial job) events ↔ Along JobState.step EndsActive (.initial job) events := by
  rw [along_iff_forall_split]
  constructor
  · rintro hunraced prior _ after rfl txn held rfl hheld hending
    obtain ⟨before, between, rfl, hnone, hload, hopen⟩ := exists_read_of_inFlight hheld
    have hloaded : held.loaded = _ := (InFlight.load_eq_some hload).2.2
    have hactive : ¬ ((before.foldl JobState.step (.initial job)).step (.read txn held.op held.now)).ended := by
      have hstored : ((before.foldl JobState.step (.initial job)).step (.read txn held.op held.now)).stored =
          held.loaded := by
        rw [hloaded]
        simp [JobState.step, hnone]
      unfold JobState.ended
      rw [hstored]
      simpa using held.ending_loaded hending
    have hbetween := hunraced before txn held.op held.now between after held (by simp) hnone hload hending hopen
    rw [List.foldl_append, List.foldl_cons]
    exact invariant_foldl not_ended_step _ between hactive hbetween
  · rintro hactive before txn op now between after held rfl hnone hload hending hopen
    obtain ⟨rfl, rfl, -⟩ := InFlight.load_eq_some hload
    rw [along_iff_forall_split]
    rintro first event last rfl hcommits
    have hread : ((before.foldl JobState.step (.initial job)).step (.read txn held.op held.now)).inFlight txn =
        some held := by rw [inFlight_read_self hnone, hload]
    have hheld := inFlight_foldl_of_open hread hopen
    have hnotEnded := hactive (before ++ .read txn held.op held.now :: (first ++ event :: last)) (.commit txn) after
      (by simp) txn held rfl (by rwa [List.foldl_append, List.foldl_cons]) hending
    rw [List.foldl_append, List.foldl_cons, List.foldl_append, List.foldl_cons] at hnotEnded
    exact hnotEnded (ended_foldl _ last (ended_of_commitsEnd hcommits))

/-! ## The history -/

/-- A transaction that loaded a started job is only open while the row is past pending. -/
def StartedStays (state : JobState Txn) : Prop :=
  ∀ txn held, state.inFlight txn = some held → state.stored.status = .pending →
    held.loaded.status = .pending

theorem startedStays_step (state : JobState Txn) (event : JobEvent Txn) (h : StartedStays state) :
    StartedStays (state.step event) := by
  intro txn held hheld hpending
  rcases inFlight_step hheld with hbefore | ⟨-, hloaded, hstored⟩
  · exact h txn held hbefore (pending_of_pending_step hpending)
  · rw [hloaded, ← hstored]
    exact hpending

/-- Where the transactions that end the job find it active, each step follows `_ALLOWED_TRANSITIONS`. -/
theorem follows_step (state : JobState Txn) (event : JobEvent Txn) (hinv : StartedStays state)
    (hactive : EndsActive state event) : state.stored.status.Follows (state.step event).stored.status := by
  rcases status_step_cases state event with hkept | ⟨hpending, hrunning⟩ | ⟨txn, held, rfl, hheld, hchanged, hwritten⟩
  · exact Or.inl hkept
  · rw [hpending, hrunning]
    exact Or.inr (by decide)
  · have hnotEnded : ¬ state.stored.status.isFinal := hactive txn held rfl hheld (held.ending_iff.mpr hchanged)
    obtain ⟨-, hended, hallowed⟩ := held.status_cases.resolve_left hchanged
    rw [hwritten]
    right
    cases hstored : state.stored.status with
    | pending => rwa [hinv txn held hheld hstored] at hallowed
    | running =>
      revert hended
      cases held.current.status <;> simp [allowedTransitions, JobStatus.isFinal]
    | succeeded => simp [hstored, JobStatus.isFinal] at hnotEnded
    | failed => simp [hstored, JobStatus.isFinal] at hnotEnded
    | partially => simp [hstored, JobStatus.isFinal] at hnotEnded

/-- A terminal status is followed by itself only. -/
theorem JobStatus.Follows.eq_of_isFinal {earlier later : JobStatus} (h : earlier.Follows later)
    (hfinal : earlier.isFinal) : later = earlier := by
  rcases h with hsame | hallowed
  · exact hsame
  · revert hfinal hallowed
    cases earlier <;> simp [allowedTransitions, JobStatus.isFinal]

/-- In every run in which no two transactions race to end the job, each terminal status is kept and
the committed history is a path of `_ALLOWED_TRANSITIONS`. -/
theorem statusHistory_path_of_unraced (job : CrawlJob) (events : List (JobEvent Txn))
    (h : Unraced (.initial job) events) :
    TerminalStatusKept (.initial job) events ∧
      (statusHistory (.initial job) events).IsChain JobStatus.Follows := by
  have hinitial : StartedStays (.initial job : JobState Txn) := fun _ _ h ↦ nomatch h
  have hfollows : Along JobState.step
      (fun state event ↦ state.stored.status.Follows (state.step event).stored.status) (.initial job) events :=
    along_of_invariant (fun state event hinv _ ↦ startedStays_step state event hinv) follows_step _ events hinitial
      ((unraced_iff_along_endsActive job events).mp h)
  constructor
  · exact hfollows.mono fun _ _ hstep hfinal ↦ hstep.eq_of_isFinal hfinal
  · rw [statusHistory, isChain_map_scanl_iff_along]
    exact hfollows

/-- The worker's finish commits under an open reconcile, which then rolls back; the next one
reads the finished job. -/
def finishUnderReconcile : List (JobEvent ℕ) :=
  [.start {} 0, .read 1 .reconcile (seconds 1801),
    .read 2 (.finish { status := some "succeeded" }) (seconds 1801), .commit 2, .rollback 1,
    .read 3 .reconcile (seconds 1802), .commit 3]

theorem statusHistory_path_of_unraced_finishUnderReconcile :
    TerminalStatusKept (.initial (.created 1 1 {} 0 0)) finishUnderReconcile ∧
      (statusHistory (.initial (.created 1 1 {} 0 0)) finishUnderReconcile).IsChain JobStatus.Follows := by
  apply statusHistory_path_of_unraced
  rw [unraced_iff_along_endsActive]
  have hother (state : JobState ℕ) (event : JobEvent ℕ) (h : ∀ txn, event ≠ .commit txn) : EndsActive state event :=
    fun txn _ hcommit ↦ absurd hcommit (h txn)
  refine ⟨hother _ _ nofun, hother _ _ nofun, hother _ _ nofun, ?_, hother _ _ nofun, hother _ _ nofun, ?_, trivial⟩
  · rintro _ held ⟨⟩ - -
    unfold JobState.ended
    decide
  · rintro _ held ⟨⟩ hheld hending
    rw [inFlight_read_self rfl] at hheld
    have hactive := held.ending_loaded hending
    rw [(InFlight.load_eq_some hheld).2.2] at hactive
    exact absurd hactive (by decide)

/-- A reconcile and the worker's finish both read the running job; the reconcile commits last. -/
def reconcileAfterFinish : List (JobEvent ℕ) :=
  [.start {} 0, .read 1 .reconcile (seconds 1801),
    .read 2 (.finish { status := some "succeeded" }) (seconds 1801), .commit 2, .commit 1]

theorem statusHistory_reconcileAfterFinish :
    ¬ (TerminalStatusKept (.initial (.created 1 1 {} 0 0)) reconcileAfterFinish ∧
      (statusHistory (.initial (.created 1 1 {} 0 0)) reconcileAfterFinish).IsChain JobStatus.Follows) := by
  intro h
  exact absurd h.2 (by decide +kernel)

end TenderPhase1.Jobs
