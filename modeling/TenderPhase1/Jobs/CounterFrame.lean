import TenderPhase1.Jobs.Transactions

/-!
# The counters under concurrent transactions

A spider counts by reading the row, adding and writing back. Nothing is lost although
heartbeats, finishes and reconciles of other processes commit in between: their objects
carry the counters they have loaded and never change them, and the counting transactions
of one spider come one after another.
-/

namespace TenderPhase1.Jobs

open ObjectSession Transition

def JobOp.deltas : JobOp → JobCounters
  | .recordStats deltas => deltas
  | .heartbeat _ _ | .finish _ | .failIfActive _ | .reconcile => {}

def JobOp.isRecordStats : JobOp → Bool
  | .recordStats _ => true
  | .heartbeat _ _ | .finish _ | .failIfActive _ | .reconcile => false

section Operations

variable {job current : CrawlJob} {now : Instant}

@[simp]
theorem JobCounters.add_zero (counters : JobCounters) : counters.add {} = counters := by
  simp [JobCounters.add]

theorem JobCounters.add_assoc (first second third : JobCounters) :
    (first.add second).add third = first.add (second.add third) := by
  simp [JobCounters.add, Int.add_assoc]

@[simp]
theorem JobCounters.zero_add (counters : JobCounters) : JobCounters.add {} counters = counters := by
  simp [JobCounters.add]

/-- An object has the counters of the row it was loaded from, with what the operation adds. -/
theorem counters_perform {op : JobOp} (h : op.perform job now = .ok current) :
    current.counters = job.counters.add op.deltas := by
  have hsame : current.counters = job.counters → current.counters = job.counters.add {} := by simp
  cases op with
  | heartbeat heartbeatAt leaseSeconds =>
    apply hsame
    simp only [JobOp.perform, heartbeatJobInSession] at h
    split at h
    · rw [← Except.ok.inj h]
    · obtain ⟨timeout, -, h⟩ := bind_eq_ok.mp h
      rw [← Except.ok.inj h]
  | recordStats deltas =>
    rw [recordStatsInSession_eq_ok h]
    rfl
  | finish args =>
    apply hsame
    obtain ⟨status, -, -, -, rfl⟩ := finishJobInSession_eq_ok.mp h
    rfl
  | failIfActive args =>
    apply hsame
    simp only [JobOp.perform, failJobIfActiveInSession] at h
    split at h
    · rw [← Except.ok.inj h]
    · obtain ⟨status, -, -, -, rfl⟩ := finishJobInSession_eq_ok.mp h
      rfl
  | reconcile =>
    apply hsame
    simp only [JobOp.perform] at h
    split at h
    · unfold expireJob at h
      obtain ⟨_, -, h⟩ := bind_eq_ok.mp h
      rw [← Except.ok.inj h]
    · rw [← Except.ok.inj h]

/-- Counters that nobody has written meanwhile end up as the object has them. -/
theorem JobCounters.writeBack_loaded (loaded current : JobCounters) :
    JobCounters.writeBack loaded current loaded = current := by
  simp only [JobCounters.writeBack, mergeColumn_loaded]

/-- The write of a counting transaction changes nothing but counters. -/
theorem writeBack_recordStats {deltas : JobCounters} (h : JobOp.perform (.recordStats deltas) job now = .ok current)
    (stored : CrawlJob) :
    CrawlJob.writeBack job current stored =
      { stored with counters := JobCounters.writeBack job.counters (job.counters.add deltas) stored.counters } := by
  rw [recordStatsInSession_eq_ok h]
  simp only [CrawlJob.writeBack, mergeColumn_unchanged]

/-- A negative delta is refused. -/
theorem recordStats_negative {deltas : JobCounters} (job : CrawlJob) (h : ∃ entry ∈ deltas.entries, entry.2 < 0) :
    ∃ fieldName : String, recordStatsInSession job deltas = .error (.valueError s!"{fieldName} must be >= 0") := by
  have hfound : (deltas.entries.find? (·.2 < 0)).isSome := by
    rw [List.find?_isSome]
    simpa using h
  obtain ⟨⟨fieldName, delta⟩, hentry⟩ := Option.isSome_iff_exists.mp hfound
  refine ⟨fieldName, ?_⟩
  rw [recordStatsInSession, hentry]

end Operations

/-! ## Runs -/

variable {Txn : Type} [DecidableEq Txn]

/-- What a step commits of the counting transactions. -/
def JobState.recorded (state : JobState Txn) : JobEvent Txn → JobCounters
  | .commit txn =>
      match state.inFlight txn with
      | some held => held.op.deltas
      | none => {}
  | .claim _ _ _ | .start _ _ | .read _ _ _ | .rollback _ => {}

/-- The sum of the deltas of all counting transactions that a run commits. -/
def JobState.recordedAlong (state : JobState Txn) : List (JobEvent Txn) → JobCounters
  | [] => {}
  | event :: events => (state.recorded event).add ((state.step event).recordedAlong events)

/-- The spider begins to count only when it has no counting transaction open. -/
def SequentialStats (state : JobState Txn) : JobEvent Txn → Prop
  | .read _ op _ => op.isRecordStats → ∀ txn held, state.inFlight txn = some held → held.op.isRecordStats = false
  | .claim _ _ _ | .start _ _ | .commit _ | .rollback _ => True

/-- At most one counting transaction is open, and nobody has written the counters since it began. -/
structure CountersHeld (state : JobState Txn) : Prop where
  unique : ∀ txn other held otherHeld, state.inFlight txn = some held → state.inFlight other = some otherHeld →
    held.op.isRecordStats → otherHeld.op.isRecordStats → txn = other
  loaded : ∀ txn held, state.inFlight txn = some held → held.op.isRecordStats →
    held.loaded.counters = state.stored.counters

theorem deltas_of_isRecordStats_eq_false {op : JobOp} (h : op.isRecordStats = false) : op.deltas = {} := by
  cases op with
  | recordStats deltas => cases h
  | heartbeat | finish | failIfActive | reconcile => rfl

section Steps

variable {state : JobState Txn} {event : JobEvent Txn}

/-- Only a counting transaction changes the counters. -/
theorem counters_step_of_not_recordStats
    (h : ∀ txn held, event = .commit txn → state.inFlight txn = some held → held.op.isRecordStats = false) :
    (state.step event).stored.counters = state.stored.counters := by
  rcases stored_step_cases state event with hsame | ⟨_, _, _, -, hclaim⟩ | ⟨_, _, -, hstart⟩ | ⟨txn, held, rfl, hheld, hcommit⟩
  · rw [hsame]
  · rw [(claimPendingJobInSession_eq_some hclaim).2.2]
  · unfold startJobInSession at hstart
    obtain ⟨timeout, -, hstart⟩ := bind_eq_ok.mp hstart
    split at hstart
    · rw [← Option.some.inj (Except.ok.inj hstart)]
    · cases Except.ok.inj hstart
  · have hunchanged : held.current.counters = held.loaded.counters := by
      rw [counters_perform held.performed, deltas_of_isRecordStats_eq_false (h txn held rfl hheld), JobCounters.add_zero]
    rw [hcommit]
    change JobCounters.writeBack held.loaded.counters held.current.counters state.stored.counters = _
    rw [hunchanged, JobCounters.writeBack_unchanged]

/-- Every step adds what it commits. -/
theorem counters_step (hstate : CountersHeld state) (event : JobEvent Txn) :
    (state.step event).stored.counters = state.stored.counters.add (state.recorded event) := by
  by_cases hother : ∀ txn held, event = .commit txn → state.inFlight txn = some held → held.op.isRecordStats = false
  · have hnothing : state.recorded event = {} := by
      cases event with
      | commit txn =>
        simp only [JobState.recorded]
        split
        · rename_i held hheld
          exact deltas_of_isRecordStats_eq_false (hother txn held rfl hheld)
        · rfl
      | claim | start | read | rollback => rfl
    rw [counters_step_of_not_recordStats hother, hnothing, JobCounters.add_zero]
  · push Not at hother
    obtain ⟨txn, held, rfl, hheld, hcounts⟩ := hother
    have hloaded : held.loaded.counters = state.stored.counters := hstate.loaded txn held hheld (by simpa using hcounts)
    calc
      (state.step (.commit txn)).stored.counters =
          JobCounters.writeBack held.loaded.counters held.current.counters state.stored.counters := by
        rw [step_commit_of_inFlight hheld]
        rfl
      _ = held.current.counters := by rw [hloaded, JobCounters.writeBack_loaded]
      _ = state.stored.counters.add held.op.deltas := by rw [counters_perform held.performed, hloaded]
      _ = state.stored.counters.add (state.recorded (.commit txn)) := by simp only [JobState.recorded, hheld]

theorem inFlight_commit_self (txn : Txn) : (state.step (.commit txn)).inFlight txn = none := by
  simp only [JobState.step]
  split
  · exact Function.update_self txn none state.inFlight
  · assumption

/-- Statistics that are written one after the other start from the counters as stored. -/
theorem countersHeld_step (state : JobState Txn) (event : JobEvent Txn) (hstate : CountersHeld state)
    (hsequential : SequentialStats state event) : CountersHeld (state.step event) where
  unique txn other held otherHeld hheld hother hcounts hotherCounts := by
    rcases inFlight_step hheld with hbefore | ⟨hread, -⟩
    · rcases inFlight_step hother with hotherBefore | ⟨hotherRead, -⟩
      · exact hstate.unique txn other held otherHeld hbefore hotherBefore hcounts hotherCounts
      · subst hotherRead
        have hfree := hsequential hotherCounts txn held hbefore
        rw [hcounts] at hfree
        cases hfree
    · rcases inFlight_step hother with hotherBefore | ⟨hotherRead, -⟩
      · subst hread
        have hfree := hsequential hcounts other otherHeld hotherBefore
        rw [hotherCounts] at hfree
        cases hfree
      · exact (JobEvent.read.inj (hread.symm.trans hotherRead)).1
  loaded txn held hheld hcounts := by
    rcases inFlight_step hheld with hbefore | ⟨-, hloaded, hstored⟩
    · rw [hstate.loaded txn held hbefore hcounts]
      apply Eq.symm
      apply counters_step_of_not_recordStats
      rintro other writer rfl hwriter
      by_contra hwrites
      have hsame : txn = other :=
        hstate.unique txn other held writer hbefore hwriter hcounts (by simpa using hwrites)
      rw [hsame, inFlight_commit_self] at hheld
      cases hheld
    · rw [hstored, hloaded]

/-- Along a run the counters grow by the sum of what is committed. -/
theorem counters_foldl (events : List (JobEvent Txn)) (hstate : CountersHeld state)
    (h : Along JobState.step SequentialStats state events) :
    (events.foldl JobState.step state).stored.counters = state.stored.counters.add (state.recordedAlong events) := by
  induction events generalizing state with
  | nil => exact (JobCounters.add_zero _).symm
  | cons event events ih =>
    calc
      (events.foldl JobState.step (state.step event)).stored.counters =
          (state.step event).stored.counters.add ((state.step event).recordedAlong events) :=
        ih (countersHeld_step state event hstate h.1) h.2
      _ = (state.stored.counters.add (state.recorded event)).add ((state.step event).recordedAlong events) := by
        rw [counters_step hstate event]
      _ = state.stored.counters.add (state.recordedAlong (event :: events)) := JobCounters.add_assoc _ _ _

end Steps

omit [DecidableEq Txn] in
theorem countersHeld_initial (job : CrawlJob) : CountersHeld (.initial job : JobState Txn) where
  unique txn other held otherHeld hheld := by
    cases hheld
  loaded txn held hheld := by
    cases hheld

/-- What counting and the other operations do to a state. -/
structure CounterFrame (state : JobState Txn) : Prop where
  others : ∀ event, (∀ txn held, event = .commit txn → state.inFlight txn = some held →
    held.op.isRecordStats = false) → (state.step event).stored.counters = state.stored.counters
  columns : ∀ txn held, state.inFlight txn = some held → held.op.isRecordStats →
    (state.step (.commit txn)).stored =
      { state.stored with counters := (state.step (.commit txn)).stored.counters }
  negative : ∀ txn deltas now, state.inFlight txn = none → (∃ entry ∈ deltas.entries, entry.2 < 0) →
    (∃ error, JobOp.perform (.recordStats deltas) state.stored now = .error error) ∧
      ((state.step (.read txn (.recordStats deltas) now)).step (.commit txn)).stored = state.stored

/-- Statistics are the only operation that touches the counters, and they touch nothing else. -/
theorem counterFrame (state : JobState Txn) : CounterFrame state where
  others event := counters_step_of_not_recordStats
  columns txn held hheld hcounts := by
    rw [step_commit_of_inFlight hheld]
    obtain ⟨op, moment, loaded, current, hperformed⟩ := held
    cases op with
    | recordStats deltas =>
      dsimp only
      rw [writeBack_recordStats hperformed]
    | heartbeat | finish | failIfActive | reconcile => cases hcounts
  negative txn deltas now hfree hnegative := by
    obtain ⟨fieldName, hrefused⟩ := recordStats_negative state.stored hnegative
    refine ⟨⟨_, hrefused⟩, ?_⟩
    have hread : (state.step (.read txn (.recordStats deltas) now)).inFlight txn = none := by
      rw [inFlight_read_self hfree, InFlight.load]
      split
      · rename_i current hperformed
        rw [JobOp.perform, hrefused] at hperformed
        cases hperformed
      · rfl
    rw [step_commit_of_none hread]
    simp only [JobState.step, hfree]

/-- In every interleaving with one spider the counters are the sum of the deltas that have been committed. No other
operation changes a counter, counting changes nothing else, and a negative delta changes nothing at all. -/
theorem counters_conserved (id sourceSiteId : ℕ) (args : CreateArgs) (now createdAt : Instant)
    (events : List (JobEvent Txn))
    (h : Along JobState.step SequentialStats (.initial (.created id sourceSiteId args now createdAt)) events) :
    (events.foldl JobState.step (.initial (.created id sourceSiteId args now createdAt))).stored.counters =
        JobState.recordedAlong (.initial (.created id sourceSiteId args now createdAt)) events ∧
      CounterFrame (events.foldl JobState.step (.initial (.created id sourceSiteId args now createdAt))) :=
  ⟨(counters_foldl events (countersHeld_initial _) h).trans (JobCounters.zero_add _), counterFrame _⟩

/-- A page is counted while a heartbeat of another process commits. -/
def countUnderHeartbeat : List (JobEvent ℕ) :=
  [.start (runningStart {}) 0, .read 0 (.recordStats { pagesFetched := 1 }) 1, .read 1 (.heartbeat none 60) 2,
    .commit 1, .commit 0]

theorem counters_conserved_countUnderHeartbeat :
    (countUnderHeartbeat.foldl JobState.step (.initial (.created 1 1 {} 0 0))).stored.counters.pagesFetched = 1 ∧
      CounterFrame (countUnderHeartbeat.foldl JobState.step (.initial (.created 1 1 {} 0 0))) := by
  have hsequential : Along JobState.step SequentialStats (.initial (.created 1 1 {} 0 0)) countUnderHeartbeat := by
    refine ⟨trivial, ?_, ?_, trivial, trivial, trivial⟩
    · intro _ txn held hheld
      cases hheld
    · intro hcounts
      cases hcounts
  obtain ⟨hcounters, hframe⟩ := counters_conserved 1 1 {} 0 0 countUnderHeartbeat hsequential
  refine ⟨?_, hframe⟩
  rw [hcounters]
  rfl

end TenderPhase1.Jobs
