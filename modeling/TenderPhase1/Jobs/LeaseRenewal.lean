import TenderPhase1.Jobs.Transactions

/-!
# Reconciling against the lease

A reconcile selects running jobs whose lease lies at or before its `now`, and
writes them as failed when it commits. The selection is not repeated at the
commit, so a heartbeat that renews the lease in between is overruled. As long as
no heartbeat commits a later lease under an open reconcile, the job a reconcile
fails is still expired at that moment.
-/

namespace TenderPhase1.Jobs

open ObjectSession Transition

variable {Txn : Type}

/-- The open transaction is a reconcile that found the job expired. -/
def InFlight.expiring (held : InFlight) : Prop :=
  held.op = .reconcile ∧ held.loaded.reconcilable held.now

/-- A reconcile that commits the failure of the job does so on a lease not later than its `now`. -/
def FailsExpiredOnly (state : JobState Txn) (event : JobEvent Txn) : Prop :=
  ∀ txn held, event = .commit txn → state.inFlight txn = some held → held.expiring →
    ∀ lease, state.stored.resolveTimeoutAt = some lease → lease ≤ held.now

/-- No heartbeat commits a lease beyond the `now` of a reconcile that is about to fail the job. -/
def NoRenewalUnderReconcile (state : JobState Txn) (event : JobEvent Txn) : Prop :=
  ∀ txn held, event = .commit txn → state.inFlight txn = some held →
    ∀ heartbeatAt leaseSeconds, held.op = .heartbeat heartbeatAt leaseSeconds →
      held.loaded.status.isActive →
        ∀ other sweep, state.inFlight other = some sweep → sweep.expiring →
          heartbeatAt.getD held.now + seconds leaseSeconds ≤ sweep.now

/-! ## The two lease columns move together -/

def CrawlJob.leaseAgrees (job : CrawlJob) : Prop := job.timeoutAt = job.leaseExpiresAt

theorem CrawlJob.resolveTimeoutAt_eq_timeoutAt {job : CrawlJob} (h : job.leaseAgrees) :
    job.resolveTimeoutAt = job.timeoutAt := by
  unfold CrawlJob.resolveTimeoutAt
  rw [← h]
  cases job.timeoutAt <;> rfl

theorem CrawlJob.leaseAgrees_created (id sourceSiteId : ℕ) (args : CreateArgs) (now createdAt : Instant) :
    (CrawlJob.created id sourceSiteId args now createdAt).leaseAgrees := rfl

theorem InFlight.leaseAgrees_current (held : InFlight) (h : held.loaded.leaseAgrees) :
    held.current.leaseAgrees := by
  cases held.effect with
  | untouched _ htimeout hlease =>
    unfold CrawlJob.leaseAgrees
    rw [htimeout, hlease]
    exact h
  | renewed _ _ _ _ _ htimeout hlease => exact htimeout.trans hlease.symm
  | finalised _ _ _ _ htimeout hlease => exact htimeout.trans hlease.symm

theorem CrawlJob.leaseAgrees_writeBack {loaded current stored : CrawlJob} (hloaded : loaded.leaseAgrees)
    (hcurrent : current.leaseAgrees) (hstored : stored.leaseAgrees) :
    (CrawlJob.writeBack loaded current stored).leaseAgrees := by
  unfold CrawlJob.leaseAgrees at *
  rw [CrawlJob.writeBack_timeoutAt, CrawlJob.writeBack_leaseExpiresAt, hloaded, hcurrent, hstored]

/-! ## The invariant -/

/-- Both lease columns agree everywhere, and under an open reconcile that found the job
expired the committed lease is still over and the job past pending. -/
structure LeaseInvariant (state : JobState Txn) : Prop where
  stored_agrees : state.stored.leaseAgrees
  loaded_agrees : ∀ txn held, state.inFlight txn = some held → held.loaded.leaseAgrees
  started : ∀ txn held, state.inFlight txn = some held → held.expiring → state.stored.status ≠ .pending
  lease_ended : ∀ txn held, state.inFlight txn = some held → held.expiring →
    ∀ lease, state.stored.timeoutAt = some lease → lease ≤ held.now

theorem leaseInvariant_initial {job : CrawlJob} (h : job.leaseAgrees) : LeaseInvariant (.initial job : JobState Txn) where
  stored_agrees := h
  loaded_agrees _ _ hheld := nomatch hheld
  started _ _ hheld := nomatch hheld
  lease_ended _ _ hheld := nomatch hheld

theorem failsExpiredOnly_of_leaseInvariant {state : JobState Txn} (event : JobEvent Txn) (hinv : LeaseInvariant state) :
    FailsExpiredOnly state event := by
  intro txn held _ hheld hexpiring lease hlease
  rw [CrawlJob.resolveTimeoutAt_eq_timeoutAt hinv.stored_agrees] at hlease
  exact hinv.lease_ended txn held hheld hexpiring lease hlease

variable [DecidableEq Txn]

theorem leaseAgrees_step {state : JobState Txn} (event : JobEvent Txn) (hinv : LeaseInvariant state) :
    (state.step event).stored.leaseAgrees := by
  rcases stored_step_cases state event with h | ⟨_, _, _, -, h⟩ | ⟨_, _, -, h⟩ | ⟨txn, held, rfl, hheld, h⟩
  · rw [h]
    exact hinv.stored_agrees
  · obtain ⟨-, -, hclaimed⟩ := claimPendingJobInSession_eq_some h
    rw [hclaimed]
    rfl
  · obtain ⟨-, -, htimeout, hlease⟩ := startJobInSession_eq_some h
    exact htimeout.trans hlease.symm
  · rw [h]
    have hloaded := hinv.loaded_agrees txn held hheld
    exact CrawlJob.leaseAgrees_writeBack hloaded (held.leaseAgrees_current hloaded) hinv.stored_agrees

/-- What a reconcile selects is past pending, and its lease is over. -/
theorem InFlight.expiring_loaded {held : InFlight} (h : held.expiring) (hagrees : held.loaded.leaseAgrees) :
    held.loaded.status = .running ∧ ∀ lease, held.loaded.timeoutAt = some lease → lease ≤ held.now := by
  have hselected := h.2
  simp only [CrawlJob.reconcilable, Bool.and_eq_true, decide_eq_true_eq] at hselected
  refine ⟨hselected.1, fun lease hlease ↦ ?_⟩
  have hexpired := hselected.2
  rw [CrawlJob.leaseExpired, CrawlJob.resolveTimeoutAt_eq_timeoutAt hagrees, hlease] at hexpired
  simpa using hexpired

/-- The lease that a reconcile has read as over is over when it commits. -/
theorem lease_over_step {state : JobState Txn} {event : JobEvent Txn} (hinv : LeaseInvariant state)
    (hrenewal : NoRenewalUnderReconcile state event) {txn : Txn} {held : InFlight}
    (hheld : state.inFlight txn = some held) (hexpiring : held.expiring) (lease : Instant)
    (hlease : (state.step event).stored.timeoutAt = some lease) : lease ≤ held.now := by
  have hbefore := hinv.lease_ended txn held hheld hexpiring
  have hstarted := hinv.started txn held hheld hexpiring
  rcases stored_step_cases state event with h | ⟨_, _, _, -, h⟩ | ⟨_, _, -, h⟩ | ⟨other, writer, rfl, hwriter, h⟩
  · rw [h] at hlease
    exact hbefore lease hlease
  · exact absurd (claimPendingJobInSession_eq_some h).2.1 hstarted
  · exact absurd (startJobInSession_eq_some h).1 hstarted
  · rw [h, CrawlJob.writeBack_timeoutAt] at hlease
    rcases mergeColumn_cases writer.loaded.timeoutAt writer.current.timeoutAt state.stored.timeoutAt with
      ⟨hkept, -⟩ | ⟨hwritten, hchanged⟩
    · exact hbefore lease (hkept ▸ hlease)
    · rw [hwritten] at hlease
      -- only a heartbeat leaves a lease behind, and the condition bounds the one it writes
      cases writer.effect with
      | untouched _ htimeout => exact absurd htimeout hchanged
      | renewed heartbeatAt leaseSeconds hop hactive _ htimeout =>
        rw [htimeout] at hlease
        obtain rfl := Option.some.inj hlease
        exact hrenewal other writer rfl hwriter heartbeatAt leaseSeconds hop hactive txn held hheld hexpiring
      | finalised _ _ _ _ htimeout =>
        rw [htimeout] at hlease
        cases hlease

/-- A step keeps the lease of every open transaction in agreement with the row. -/
theorem leaseInvariant_step (state : JobState Txn) (event : JobEvent Txn) (hinv : LeaseInvariant state)
    (hrenewal : NoRenewalUnderReconcile state event) : LeaseInvariant (state.step event) where
  stored_agrees := leaseAgrees_step event hinv
  loaded_agrees txn held hheld := by
    rcases inFlight_step hheld with hbefore | ⟨-, hloaded, -⟩
    · exact hinv.loaded_agrees txn held hbefore
    · rw [hloaded]
      exact hinv.stored_agrees
  started txn held hheld hexpiring := by
    rcases inFlight_step hheld with hbefore | ⟨-, hloaded, hstored⟩
    · exact fun hpending ↦ hinv.started txn held hbefore hexpiring (pending_of_pending_step hpending)
    · have hagrees : held.loaded.leaseAgrees := hloaded ▸ hinv.stored_agrees
      rw [hstored, ← hloaded, (InFlight.expiring_loaded hexpiring hagrees).1]
      decide
  lease_ended txn held hheld hexpiring lease hlease := by
    rcases inFlight_step hheld with hbefore | ⟨-, hloaded, hstored⟩
    · exact lease_over_step hinv hrenewal hbefore hexpiring lease hlease
    · have hagrees : held.loaded.leaseAgrees := hloaded ▸ hinv.stored_agrees
      rw [hstored, ← hloaded] at hlease
      exact (InFlight.expiring_loaded hexpiring hagrees).2 lease hlease

/-- In every run of a job in which no heartbeat renews the lease under an open reconcile, each
reconcile that fails the job fails an expired one. -/
theorem reconcile_fails_expired_only (id sourceSiteId : ℕ) (args : CreateArgs) (now createdAt : Instant)
    (events : List (JobEvent Txn))
    (h : Along JobState.step NoRenewalUnderReconcile
      (.initial (.created id sourceSiteId args now createdAt)) events) :
    Along JobState.step FailsExpiredOnly (.initial (.created id sourceSiteId args now createdAt)) events := by
  have hagrees := CrawlJob.leaseAgrees_created id sourceSiteId args now createdAt
  exact along_of_invariant leaseInvariant_step
    (fun state event hinv _ ↦ failsExpiredOnly_of_leaseInvariant event hinv) _ events (leaseInvariant_initial hagrees) h

/-- The heartbeat commits before the reconcile reads; the reconcile finds the renewed lease over. -/
def heartbeatThenReconcile : List (JobEvent ℕ) :=
  [.start {} 0, .read 1 (.heartbeat none 1800) (seconds 30), .commit 1,
    .read 2 .reconcile (seconds 1830), .commit 2]

theorem reconcile_fails_expired_only_heartbeatThenReconcile :
    Along JobState.step FailsExpiredOnly (.initial (.created 1 1 {} 0 0)) heartbeatThenReconcile := by
  apply reconcile_fails_expired_only
  refine ⟨fun _ _ h ↦ (nomatch h), fun _ _ h ↦ (nomatch h), ?_, fun _ _ h ↦ (nomatch h), ?_, trivial⟩
  · rintro txn held ⟨⟩ hheld heartbeatAt leaseSeconds hop _ other sweep hsweep hexpiring
    by_cases hother : other = 1
    · rw [hother, hheld] at hsweep
      rw [← Option.some.inj hsweep, InFlight.expiring, hop] at hexpiring
      exact nomatch hexpiring.1
    · rw [inFlight_read_of_ne hother, inFlight_start] at hsweep
      cases hsweep
  · rintro txn held ⟨⟩ hheld heartbeatAt leaseSeconds hop
    rw [inFlight_read_self rfl] at hheld
    have hreconcile : held.op = .reconcile := (InFlight.load_eq_some hheld).1
    rw [hreconcile] at hop
    cases hop

/-- The heartbeat commits between the reconcile's read and its commit. -/
def heartbeatUnderReconcile : List (JobEvent ℕ) :=
  [.start {} 0, .read 1 .reconcile (seconds 1801), .read 2 (.heartbeat none 1800) (seconds 1801),
    .commit 2, .commit 1]

theorem reconcile_fails_renewed_job :
    ¬ Along JobState.step FailsExpiredOnly (.initial (.created 1 1 {} 0 0)) heartbeatUnderReconcile := by
  intro h
  have hcommit := h.2.2.2.2.1 1 _ rfl rfl ⟨rfl, by decide⟩ (seconds 3601) rfl
  exact absurd hcommit (by decide)

end TenderPhase1.Jobs
