import TenderPhase1.Jobs.Transactions

/-!
# The lease and life cycle columns of a job

Status, lease and the instants of the life cycle are written by seven operations, each of
them a part. The operations that read a row afterwards, the sweep, the reconcile and the
dashboards, rely on the columns fitting together. Here every call is a transaction of its
own, whatever clock and lease it is called with, and whether or not it is rejected.
-/

namespace TenderPhase1.Jobs

open ObjectSession

structure CrawlJob.Coherent (job : CrawlJob) : Prop where
  lease : job.timeoutAt = job.leaseExpiresAt
  pending : job.status = .pending →
    job.startedAt = none ∧ job.finishedAt = none ∧ (job.pickedAt = none ↔ job.timeoutAt = none)
  running : job.status = .running →
    job.pickedAt ≠ none ∧ job.startedAt ≠ none ∧ job.heartbeatAt ≠ none ∧ job.timeoutAt ≠ none ∧ job.finishedAt = none
  final : job.status.isFinal → job.startedAt ≠ none ∧ job.finishedAt ≠ none ∧ job.timeoutAt = none

/-- One call of a method of `CrawlJobService`, with the clock as it reads it. -/
inductive JobCall where
  | claim (pickedAt : Option Instant) (leaseSeconds : ℤ) (now : Instant)
  | start (args : StartArgs) (now : Instant)
  | operation (op : JobOp) (now : Instant)

/-- The statements of a call: nobody else comes between its read and its commit. -/
def JobCall.events : JobCall → List (JobEvent Unit)
  | .claim pickedAt leaseSeconds now => [.claim pickedAt leaseSeconds now]
  | .start args now => [.start args now]
  | .operation op now => [.read () op now, .commit ()]

def CrawlJob.call (job : CrawlJob) (call : JobCall) : CrawlJob :=
  (call.events.foldl JobState.step (.initial job)).stored

section Calls

variable {job current : CrawlJob} {now : Instant}

/-- An operation that raises leaves the row as it is, another one writes its object back. -/
theorem call_operation_cases (job : CrawlJob) (op : JobOp) (now : Instant) :
    job.call (.operation op now) = job ∨
      ∃ current, op.perform job now = .ok current ∧
        job.call (.operation op now) = CrawlJob.writeBack job current job := by
  have hread : ((JobState.initial job : JobState Unit).step (.read () op now)).inFlight () =
      InFlight.load op now job := inFlight_read_self rfl op now
  change (((JobState.initial job : JobState Unit).step (.read () op now)).step (.commit ())).stored = _ ∨ _
  cases hload : InFlight.load op now job with
  | none =>
    rw [hload] at hread
    left
    rw [step_commit_of_none hread]
    rfl
  | some held =>
    rw [hload] at hread
    obtain ⟨rfl, rfl, hloaded⟩ := InFlight.load_eq_some hload
    right
    refine ⟨held.current, hloaded ▸ held.performed, ?_⟩
    change (((JobState.initial job : JobState Unit).step (.read () held.op held.now)).step (.commit ())).stored = _
    rw [step_commit_of_inFlight hread, hloaded]
    rfl

/-- Without an intervening commit the columns are those of the object. -/
theorem coherent_writeBack (hcurrent : current.Coherent) : (CrawlJob.writeBack job current job).Coherent := by
  refine ⟨?_, ?_, ?_, ?_⟩
  · simpa only [CrawlJob.writeBack, mergeColumn_loaded] using hcurrent.lease
  · simpa only [CrawlJob.writeBack, mergeColumn_loaded] using hcurrent.pending
  · simpa only [CrawlJob.writeBack, mergeColumn_loaded] using hcurrent.running
  · simpa only [CrawlJob.writeBack, mergeColumn_loaded] using hcurrent.final

theorem coherent_created (id sourceSiteId : ℕ) (args : CreateArgs) (now createdAt : Instant) :
    (CrawlJob.created id sourceSiteId args now createdAt).Coherent where
  lease := rfl
  pending _ := ⟨rfl, rfl, Iff.rfl⟩
  running h := nomatch h
  final h := nomatch h

theorem coherent_claim {pickedAt : Option Instant} {leaseSeconds : ℤ} (hjob : job.Coherent)
    (h : claimPendingJobInSession job pickedAt now leaseSeconds = .ok (some current)) : current.Coherent := by
  obtain ⟨-, hpending, rfl⟩ := claimPendingJobInSession_eq_some h
  obtain ⟨hstarted, hfinished, -⟩ := hjob.pending hpending
  refine ⟨rfl, ?_, ?_, ?_⟩
  · intro _
    exact ⟨hstarted, hfinished, by simp⟩
  · intro hrunning
    rw [hpending] at hrunning
    cases hrunning
  · intro hfinal
    rw [hpending] at hfinal
    cases hfinal

theorem coherent_start {args : StartArgs} (h : startJobInSession job args now = .ok (some current)) :
    current.Coherent := by
  unfold startJobInSession at h
  obtain ⟨timeout, -, h⟩ := bind_eq_ok.mp h
  split at h
  · obtain rfl := Option.some.inj (Except.ok.inj h)
    refine ⟨rfl, ?_, ?_, ?_⟩
    · exact fun hpending ↦ nomatch hpending
    · intro _
      simp
    · exact fun hfinal ↦ nomatch hfinal
  · cases Except.ok.inj h

/-- A heartbeat keeps a row coherent. -/
theorem coherent_heartbeat {heartbeatAt : Option Instant} {leaseSeconds : ℤ} (hjob : job.Coherent)
    (h : heartbeatJobInSession job heartbeatAt leaseSeconds now = .ok current) : current.Coherent := by
  unfold heartbeatJobInSession at h
  split at h
  · obtain rfl := Except.ok.inj h
    exact hjob
  · rename_i hactive
    obtain ⟨timeout, -, h⟩ := bind_eq_ok.mp h
    obtain rfl := Except.ok.inj h
    refine ⟨rfl, ?_, ?_, ?_⟩
    · intro hpending
      change job.status = .pending at hpending
      obtain ⟨hstarted, hfinished, -⟩ := hjob.pending hpending
      refine ⟨?_, hfinished, ?_⟩
      · simp [hstarted, hpending]
      · simp
    · intro hrunning
      change job.status = .running at hrunning
      obtain ⟨hpicked, hstarted, -, -, hfinished⟩ := hjob.running hrunning
      refine ⟨?_, ?_, by simp, by simp, hfinished⟩
      · simp
      · simp [hstarted]
    · intro hfinal
      change job.status.isFinal at hfinal
      simp [hfinal] at hactive

/-- What a finish leaves behind fits every final status. -/
theorem coherent_finished {args : FinishArgs} {status : JobStatus} (hfinal : status.isFinal) (finishedAt : Instant) :
    (job.finished args status finishedAt).Coherent := by
  refine ⟨rfl, ?_, ?_, ?_⟩
  · intro hpending
    change status = .pending at hpending
    rw [hpending] at hfinal
    cases hfinal
  · intro hrunning
    change status = .running at hrunning
    rw [hrunning] at hfinal
    cases hfinal
  · intro _
    refine ⟨?_, Option.some_ne_none _, rfl⟩
    simp only [CrawlJob.finished]
    cases job.startedAt <;> simp

theorem coherent_expire (h : expireJob job now = .ok current) : current.Coherent := by
  unfold expireJob at h
  obtain ⟨_, -, h⟩ := bind_eq_ok.mp h
  obtain rfl := Except.ok.inj h
  refine ⟨rfl, ?_, ?_, ?_⟩
  · exact fun hpending ↦ nomatch hpending
  · exact fun hrunning ↦ nomatch hrunning
  · intro _
    refine ⟨?_, Option.some_ne_none _, rfl⟩
    dsimp only
    cases job.startedAt <;> simp

/-- Every operation leaves a coherent row coherent in its object. -/
theorem coherent_perform {op : JobOp} (hjob : job.Coherent) (h : op.perform job now = .ok current) :
    current.Coherent := by
  cases op with
  | heartbeat heartbeatAt leaseSeconds => exact coherent_heartbeat hjob h
  | recordStats deltas =>
    obtain rfl := recordStatsInSession_eq_ok h
    exact ⟨hjob.lease, hjob.pending, hjob.running, hjob.final⟩
  | finish args =>
    obtain ⟨status, -, hfinal, -, rfl⟩ := finishJobInSession_eq_ok.mp h
    exact coherent_finished hfinal _
  | failIfActive args =>
    simp only [JobOp.perform, failJobIfActiveInSession] at h
    split at h
    · obtain rfl := Except.ok.inj h
      exact hjob
    · obtain ⟨status, -, hfinal, -, rfl⟩ := finishJobInSession_eq_ok.mp h
      exact coherent_finished hfinal _
  | reconcile =>
    simp only [JobOp.perform] at h
    split at h
    · exact coherent_expire h
    · obtain rfl := Except.ok.inj h
      exact hjob

/-- So does every call. -/
theorem coherent_call (hjob : job.Coherent) (call : JobCall) : (job.call call).Coherent := by
  cases call with
  | claim pickedAt leaseSeconds now =>
    change ((JobState.initial job : JobState Unit).update (claimPendingJobInSession job pickedAt now leaseSeconds)).stored.Coherent
    cases hclaim : claimPendingJobInSession job pickedAt now leaseSeconds with
    | error error => exact hjob
    | ok result =>
      cases result with
      | none => exact hjob
      | some claimed => exact coherent_claim hjob hclaim
  | start args now =>
    change ((JobState.initial job : JobState Unit).update (startJobInSession job args now)).stored.Coherent
    cases hstart : startJobInSession job args now with
    | error error => exact hjob
    | ok result =>
      cases result with
      | none => exact hjob
      | some started => exact coherent_start hstart
  | operation op now =>
    rcases call_operation_cases job op now with hsame | ⟨current, hperformed, hwritten⟩
    · rw [hsame]
      exact hjob
    · rw [hwritten]
      exact coherent_writeBack (coherent_perform hjob hperformed)

end Calls

/-- Whatever calls are made on a created job, its columns fit its status. -/
theorem created_job_coherent (id sourceSiteId : ℕ) (args : CreateArgs) (now createdAt : Instant)
    (calls : List JobCall) :
    (calls.foldl CrawlJob.call (.created id sourceSiteId args now createdAt)).Coherent := by
  have hcreated := coherent_created id sourceSiteId args now createdAt
  generalize CrawlJob.created id sourceSiteId args now createdAt = job at hcreated
  induction calls generalizing job with
  | nil => exact hcreated
  | cons call calls ih => exact ih _ (coherent_call hcreated call)

end TenderPhase1.Jobs
