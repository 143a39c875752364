import TenderPhase1.Trigger.Requests

/-!
# What the operations keep of a job

No operation of the life cycle changes which job, source or original a row is about, and a
row that has failed is not taken back. What the requests keep of the tables follows from
that: only the insert of a new job changes them, and it keeps what is there.
-/

namespace TenderPhase1.Trigger

open Jobs Sources ObjectSession

/-- A row is still about the same job: its keys are as they were. -/
structure SameJob (row after : CrawlJob) : Prop where
  id : after.id = row.id
  sourceSiteId : after.sourceSiteId = row.sourceSiteId
  retryOfJobId : after.retryOfJobId = row.retryOfJobId

theorem SameJob.refl (row : CrawlJob) : SameJob row row := ⟨rfl, rfl, rfl⟩

def Retryable (job : CrawlJob) : Prop := job.status = .failed ∨ job.status = .partially

/-! ## One row -/

section Row

variable {row current : CrawlJob} {now : Instant}

theorem sameJob_claim {pickedAt : Option Instant} {leaseSeconds : ℤ}
    (h : claimPendingJobInSession row pickedAt now leaseSeconds = .ok (some current)) :
    row.status = .pending ∧ SameJob row current := by
  obtain ⟨-, hpending, rfl⟩ := claimPendingJobInSession_eq_some h
  exact ⟨hpending, rfl, rfl, rfl⟩

theorem sameJob_start {args : StartArgs} (h : startJobInSession row args now = .ok (some current)) :
    row.status = .pending ∧ SameJob row current := by
  unfold startJobInSession at h
  obtain ⟨timeout, -, h⟩ := bind_eq_ok.mp h
  split at h
  · rename_i hpending
    obtain rfl := Option.some.inj (Except.ok.inj h)
    exact ⟨hpending, rfl, rfl, rfl⟩
  · cases Except.ok.inj h

theorem sameJob_updatedRow {result : Except ServiceError (Option CrawlJob)}
    (h : ∀ job, result = .ok (some job) → row.status = .pending ∧ SameJob row job) :
    SameJob row (updatedRow row result) := by
  unfold updatedRow
  split
  · exact (h _ rfl).2
  · exact .refl row
  · exact .refl row

theorem retryable_updatedRow {result : Except ServiceError (Option CrawlJob)}
    (h : ∀ job, result = .ok (some job) → row.status = .pending ∧ SameJob row job) (hretryable : Retryable row) :
    Retryable (updatedRow row result) := by
  unfold updatedRow
  split
  · have hpending := (h _ rfl).1
    rcases hretryable with hfailed | hpartially
    · rw [hpending] at hfailed
      cases hfailed
    · rw [hpending] at hpartially
      cases hpartially
  · exact hretryable
  · exact hretryable

/-- An operation assigns to no key. -/
theorem sameJob_perform {op : JobOp} (h : op.perform row now = .ok current) : SameJob row current := by
  cases op with
  | heartbeat heartbeatAt leaseSeconds =>
    simp only [JobOp.perform, heartbeatJobInSession] at h
    split at h
    · obtain rfl := Except.ok.inj h
      exact .refl row
    · obtain ⟨timeout, -, h⟩ := bind_eq_ok.mp h
      obtain rfl := Except.ok.inj h
      exact ⟨rfl, rfl, rfl⟩
  | recordStats deltas =>
    obtain rfl := recordStatsInSession_eq_ok h
    exact ⟨rfl, rfl, rfl⟩
  | finish args =>
    obtain ⟨status, -, -, -, rfl⟩ := finishJobInSession_eq_ok.mp h
    exact ⟨rfl, rfl, rfl⟩
  | failIfActive args =>
    simp only [JobOp.perform, failJobIfActiveInSession] at h
    split at h
    · obtain rfl := Except.ok.inj h
      exact .refl row
    · obtain ⟨status, -, -, -, rfl⟩ := finishJobInSession_eq_ok.mp h
      exact ⟨rfl, rfl, rfl⟩
  | reconcile =>
    simp only [JobOp.perform, expireJob] at h
    split at h
    · obtain ⟨_, -, h⟩ := bind_eq_ok.mp h
      obtain rfl := Except.ok.inj h
      exact ⟨rfl, rfl, rfl⟩
    · obtain rfl := Except.ok.inj h
      exact .refl row

theorem sameJob_writeBack (held : InFlight) (row : CrawlJob) :
    SameJob row (CrawlJob.writeBack held.loaded held.current row) := by
  have hsame := sameJob_perform held.performed
  refine ⟨rfl, ?_, ?_⟩
  · change mergeColumn held.loaded.sourceSiteId held.current.sourceSiteId row.sourceSiteId = row.sourceSiteId
    rw [hsame.sourceSiteId, mergeColumn_unchanged]
  · change mergeColumn held.loaded.retryOfJobId held.current.retryOfJobId row.retryOfJobId = row.retryOfJobId
    rw [hsame.retryOfJobId, mergeColumn_unchanged]

/-- An open transaction takes a job that has failed back only by writing that it has succeeded. -/
theorem retryable_writeBack {held : InFlight}
    (h : held.current.status = .succeeded → held.loaded.status = .succeeded) (hretryable : Retryable row) :
    Retryable (CrawlJob.writeBack held.loaded held.current row) := by
  unfold Retryable
  rcases held.status_writeBack_cases row with hkept | ⟨hchanged, hfinal, hwritten⟩
  · rw [hkept]
    exact hretryable
  · rw [hwritten]
    cases hstatus : held.current.status with
    | failed => exact Or.inl rfl
    | partially => exact Or.inr rfl
    | succeeded => exact absurd (hstatus.trans (h hstatus).symm) hchanged
    | pending | running =>
      rw [hstatus] at hfinal
      cases hfinal

theorem status_of_reconcile {held : InFlight} (h : held.op = .reconcile) (hsucceeded : held.current.status = .succeeded) :
    held.loaded.status = .succeeded := by
  have hperformed := held.performed
  rw [h] at hperformed
  simp only [JobOp.perform] at hperformed
  split at hperformed
  · rw [(expireJob_eq_ok hperformed).2.1] at hsucceeded
    cases hsucceeded
  · rw [Except.ok.inj hperformed]
    exact hsucceeded

end Row

/-! ## The table -/

/-- A retry of a job of the source may name this job. -/
def IsOriginal (jobs : List CrawlJob) (originalJobId sourceId : ℕ) : Prop :=
  ∃ original ∈ jobs, original.id = originalJobId ∧ original.sourceSiteId = sourceId ∧ Retryable original ∧
    original.retryOfJobId = none

section Table

variable {jobs : List CrawlJob} {f : CrawlJob → CrawlJob} {originalJobId sourceId : ℕ}

theorem isOriginal_map (hsame : ∀ row, SameJob row (f row))
    (hretryable : ∀ row ∈ jobs, row.id = originalJobId → Retryable row → Retryable (f row))
    (h : IsOriginal jobs originalJobId sourceId) : IsOriginal (jobs.map f) originalJobId sourceId := by
  obtain ⟨original, hmem, hid, hsource, hfailed, hretry⟩ := h
  have hkept := hsame original
  exact ⟨f original, List.mem_map_of_mem hmem, hkept.id.trans hid, hkept.sourceSiteId.trans hsource,
    hretryable original hmem hid hfailed, hkept.retryOfJobId.trans hretry⟩

theorem isOriginal_append (h : IsOriginal jobs originalJobId sourceId) (job : CrawlJob) :
    IsOriginal (jobs ++ [job]) originalJobId sourceId := by
  obtain ⟨original, hmem, hrest⟩ := h
  exact ⟨original, List.mem_append_left _ hmem, hrest⟩

theorem map_id_map (hsame : ∀ row, SameJob row (f row)) : (jobs.map f).map CrawlJob.id = jobs.map CrawlJob.id := by
  rw [List.map_map]
  exact List.map_congr_left fun row _ ↦ (hsame row).id

theorem filterMap_retryOfJobId_map (hsame : ∀ row, SameJob row (f row)) :
    (jobs.map f).filterMap CrawlJob.retryOfJobId = jobs.filterMap CrawlJob.retryOfJobId := by
  rw [List.filterMap_map]
  exact List.filterMap_congr fun row _ ↦ (hsame row).retryOfJobId

theorem sameJob_ite (hsame : ∀ row, SameJob row (f row)) (jobId : ℕ) (row : CrawlJob) :
    SameJob row (if row.id = jobId then f row else row) := by
  split
  · exact hsame row
  · exact .refl row

theorem sameJob_flushExpired (expired : List InFlight) (row : CrawlJob) : SameJob row (flushExpiredRow expired row) := by
  unfold flushExpiredRow
  split
  · exact sameJob_writeBack _ row
  · exact .refl row

theorem isOriginal_flushExpired {expired : List InFlight} (hexpired : ∀ held ∈ expired, held.op = .reconcile)
    (h : IsOriginal jobs originalJobId sourceId) : IsOriginal (flushExpired expired jobs) originalJobId sourceId := by
  apply isOriginal_map (sameJob_flushExpired expired) _ h
  intro row _ _ hretryable
  unfold flushExpiredRow
  split
  · rename_i held hfound
    exact retryable_writeBack (status_of_reconcile (hexpired held (List.mem_of_find?_eq_some hfound))) hretryable
  · exact hretryable

end Table

/-! ## One statement of a request -/

/-- The request has its job numbered or inserted, and is not over. -/
def Stage.hasJob : Stage → Bool
  | .insert _ _ _ _ | .loadSnapshot _ _ => true
  | _ => false

section Statements

variable {source : SourceSite} {creation : Creation}

theorem hasJob_create (request : Except ServiceError CrawlRequest) :
    (Stage.create request).hasJob = false := by
  unfold Stage.create
  split
  · rfl
  · split <;> rfl

theorem hasJob_ensureSourceSite (expired : List InFlight) :
    (Stage.ensureSourceSite creation expired).hasJob = false := by
  unfold Stage.ensureSourceSite
  split <;> rfl

theorem hasJob_nextCandidate (candidates : List CrawlJob) :
    (Stage.nextCandidate source candidates).hasJob = false := by
  induction candidates with
  | nil => exact hasJob_create _
  | cons candidate candidates ih =>
    unfold Stage.nextCandidate
    split
    · exact ih
    · rfl

theorem hasJob_checkOriginal (original : CrawlJob) (retry : RetryArgs) :
    (Stage.checkOriginal original retry).hasJob = false := by
  unfold Stage.checkOriginal
  split
  · rfl
  · split <;> rfl

theorem hasJob_integrityError (message : String) :
    (Stage.integrityError creation message).hasJob = false := by
  unfold Stage.integrityError
  split <;> rfl

theorem hasJob_classifyActive (message : String) :
    (Stage.classifyActive source creation message).hasJob = false := by
  unfold Stage.classifyActive
  split <;> rfl

end Statements

/-- A statement of a request leaves the rows alone, unless it inserts a job; one of them takes a number
for the job. -/
theorem proceed_cases (sqlite : Bool) (now : Instant) (tables : Tables) (stage : Stage) :
    ((tables.proceed sqlite now stage).1.sources = tables.sources ∧
      (tables.proceed sqlite now stage).1.jobs = tables.jobs ∧
        (tables.proceed sqlite now stage).1.jobSequence = tables.jobSequence ∧
          (tables.proceed sqlite now stage).2.hasJob = false) ∨
    (∃ creation expired site, stage = .numberJob creation expired site ∧
      tables.proceed sqlite now stage =
        ({ tables with jobSequence := tables.jobSequence + 1 },
          .insert creation expired site
            (CrawlJob.created (if sqlite then maxId tables.jobs + 1 else tables.jobSequence) site.id creation.args now
              now))) ∨
    ∃ creation expired site job, stage = .insert creation expired site job ∧
      brokenKey (site.flush tables.sources) (flushExpired expired tables.jobs ++ [job]) = none ∧
      tables.proceed sqlite now stage =
        ({ tables with
            sources := site.flush tables.sources
            jobs := flushExpired expired tables.jobs ++ [job] }, .inserted creation job) := by
  cases stage with
  | insert creation expired site job =>
    simp only [Tables.proceed]
    split
    · exact Or.inl ⟨rfl, rfl, rfl, hasJob_integrityError _⟩
    · rename_i hvalid
      exact Or.inr (Or.inr ⟨creation, expired, site, job, rfl, hvalid, rfl⟩)
  | findSource creation expired queries =>
    left
    cases queries with
    | nil =>
      simp only [Tables.proceed]
      split
      · exact ⟨rfl, rfl, rfl, hasJob_integrityError _⟩
      · exact ⟨rfl, rfl, rfl, rfl⟩
    | cons query queries =>
      simp only [Tables.proceed]
      split <;> exact ⟨rfl, rfl, rfl, rfl⟩
  | findOriginal creation expired site =>
    left
    simp only [Tables.proceed]
    split
    · exact ⟨rfl, rfl, rfl, rfl⟩
    · split <;> exact ⟨rfl, rfl, rfl, rfl⟩
  | numberJob creation expired site => exact Or.inr (Or.inl ⟨creation, expired, site, rfl, rfl⟩)
  | reconcile | created | rejected | refused | reportActive => exact Or.inl ⟨rfl, rfl, rfl, rfl⟩
  | loadCandidates source => exact Or.inl ⟨rfl, rfl, rfl, hasJob_nextCandidate _⟩
  | loadSource | nameSource | loadSnapshot =>
    left
    simp only [Tables.proceed]
    split <;> exact ⟨rfl, rfl, rfl, rfl⟩
  | loadOriginal originalJobId retry =>
    left
    simp only [Tables.proceed]
    split
    · exact ⟨rfl, rfl, rfl, rfl⟩
    · exact ⟨rfl, rfl, rfl, hasJob_checkOriginal _ retry⟩
  | loadRetry original source retry =>
    left
    simp only [Tables.proceed]
    split
    · exact ⟨rfl, rfl, rfl, rfl⟩
    · exact ⟨rfl, rfl, rfl, hasJob_create _⟩
  | checkActive source creation expired =>
    left
    simp only [Tables.proceed]
    split
    · exact ⟨rfl, rfl, rfl, rfl⟩
    · exact ⟨rfl, rfl, rfl, hasJob_ensureSourceSite expired⟩
  | loadRetried source candidate candidates =>
    left
    simp only [Tables.proceed]
    split
    · exact ⟨rfl, rfl, rfl, hasJob_nextCandidate candidates⟩
    · split <;> exact ⟨rfl, rfl, rfl, hasJob_create _⟩
  | classify source creation message =>
    left
    simp only [Tables.proceed]
    split
    · exact ⟨rfl, rfl, rfl, hasJob_classifyActive message⟩
    · split
      · exact ⟨rfl, rfl, rfl, rfl⟩
      · split
        · exact ⟨rfl, rfl, rfl, rfl⟩
        · exact ⟨rfl, rfl, rfl, hasJob_classifyActive message⟩

end TenderPhase1.Trigger
