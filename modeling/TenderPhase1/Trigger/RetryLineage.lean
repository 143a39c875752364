import TenderPhase1.Trigger.RetryChecks

/-!
# The lineage of retries

What the open requests rely on is kept by every event, as long as nobody takes back a job
that is being retried. From that follow the lineage in every table that a run reaches, and
what a retry raises that has lost against another request.
-/

namespace TenderPhase1.Trigger

open Jobs Sources ObjectSession Transition

/-! ## The whole server -/

/-- What holds between two events: the lineage, and what the open requests rely on. -/
structure Consistent (state : Server) : Prop where
  keyed : state.tables.Keyed
  lineage : RetryLineage state.tables.jobs
  originals : ∀ session stage, state.request session = some stage →
    ∀ pair ∈ stage.originals, IsOriginal state.tables.jobs pair.1 pair.2
  sound : ∀ session stage, state.request session = some stage → stage.Sound
  inserted : ∀ session creation jobId, state.request session = some (.loadSnapshot creation jobId) →
    ∃ job ∈ state.tables.jobs, job.id = jobId

section Rows

variable {state : Server} {jobId : ℕ} {f : CrawlJob → CrawlJob}

theorem engaged_of_originals {session : ℕ} {stage : Stage} {pair : ℕ × ℕ} (hstage : state.request session = some stage)
    (hpair : pair ∈ stage.originals) : state.Engaged pair.1 := Or.inr ⟨session, stage, pair.2, hstage, hpair⟩

/-- An operation on one row that takes no retried job back. -/
theorem consistent_mapJob (hstate : Consistent state) (hsame : ∀ row, SameJob row (f row))
    (hretryable : ∀ row ∈ state.tables.jobs, row.id = jobId → state.Engaged jobId → Retryable row → Retryable (f row))
    (operation : ℕ → Option (ℕ × InFlight)) :
    Consistent { state with tables := state.tables.mapJob jobId f, operation := operation } := by
  have hrow : ∀ row, SameJob row (if row.id = jobId then f row else row) := sameJob_ite hsame jobId
  have hkept {originalJobId sourceId : ℕ} (hengaged : state.Engaged originalJobId)
      (h : IsOriginal state.tables.jobs originalJobId sourceId) :
      IsOriginal (state.tables.mapJob jobId f).jobs originalJobId sourceId := by
    apply isOriginal_map hrow _ h
    intro row hmem hid hfailed
    split
    · rename_i hjob
      exact hretryable row hmem hjob (hjob ▸ hid ▸ hengaged) hfailed
    · exact hfailed
  refine ⟨⟨hstate.keyed.sourceIds, hstate.keyed.sourceCodes, ?_⟩, ⟨?_, ?_⟩, ?_, hstate.sound, ?_⟩
  · change ((state.tables.jobs.map fun row ↦ if row.id = jobId then f row else row).map CrawlJob.id).Nodup
    rw [map_id_map hrow]
    exact hstate.keyed.jobIds
  · intro retry hretry originalJobId hnamed
    obtain ⟨row, hmem, rfl⟩ := List.mem_map.mp hretry
    rw [(hrow row).retryOfJobId] at hnamed
    rw [(hrow row).sourceSiteId]
    exact hkept (Or.inl ⟨row, hmem, hnamed⟩) (hstate.lineage.originals row hmem originalJobId hnamed)
  · change ((state.tables.jobs.map fun row ↦ if row.id = jobId then f row else row).filterMap
      CrawlJob.retryOfJobId).Nodup
    rw [filterMap_retryOfJobId_map hrow]
    exact hstate.lineage.unique
  · intro session stage hstage pair hpair
    exact hkept (engaged_of_originals hstage hpair) (hstate.originals session stage hstage pair hpair)
  · intro session creation inserted hstage
    obtain ⟨job, hmem, hid⟩ := hstate.inserted session creation inserted hstage
    exact ⟨_, List.mem_map_of_mem hmem, (hrow job).id.trans hid⟩

end Rows

section Requests

variable {sqlite : Bool} {now : Instant} {state : Server} {session : ℕ} {stage : Stage}

theorem request_update {other : ℕ} {next : Stage}
    (h : Function.update state.request session (some stage) other = some next) :
    other = session ∧ next = stage ∨ other ≠ session ∧ state.request other = some next := by
  by_cases hsession : other = session
  · subst hsession
    rw [Function.update_self] at h
    exact Or.inl ⟨rfl, (Option.some.inj h).symm⟩
  · rw [Function.update_of_ne hsession] at h
    exact Or.inr ⟨hsession, h⟩

/-- A request comes to a sound stage, in tables that keep what the other requests rely on. -/
theorem consistent_request {tables : Tables} (hstate : Consistent state) (hkeyed : tables.Keyed)
    (hlineage : RetryLineage tables.jobs)
    (hkept : ∀ originalJobId sourceId, IsOriginal state.tables.jobs originalJobId sourceId →
      IsOriginal tables.jobs originalJobId sourceId)
    (hpresent : ∀ job ∈ state.tables.jobs, ∃ after ∈ tables.jobs, after.id = job.id) (hsound : stage.Sound)
    (horiginals : ∀ pair ∈ stage.originals, IsOriginal tables.jobs pair.1 pair.2)
    (hinserted : ∀ creation jobId, stage = .loadSnapshot creation jobId → ∃ job ∈ tables.jobs, job.id = jobId) :
    Consistent { state with tables := tables, request := Function.update state.request session (some stage) } := by
  refine ⟨hkeyed, hlineage, ?_, ?_, ?_⟩
  · intro other next hnext pair hpair
    rcases request_update hnext with ⟨-, rfl⟩ | ⟨-, hbefore⟩
    · exact horiginals pair hpair
    · exact hkept _ _ (hstate.originals other next hbefore pair hpair)
  · intro other next hnext
    rcases request_update hnext with ⟨-, rfl⟩ | ⟨-, hbefore⟩
    · exact hsound
    · exact hstate.sound other next hbefore
  · intro other creation jobId hnext
    rcases request_update hnext with ⟨-, heq⟩ | ⟨-, hbefore⟩
    · exact hinserted creation jobId heq.symm
    · obtain ⟨job, hmem, rfl⟩ := hstate.inserted other creation jobId hbefore
      exact hpresent job hmem

theorem consistent_accept (hstate : Consistent state) (hsound : stage.Sound)
    (horiginals : ∀ pair ∈ stage.originals, IsOriginal state.tables.jobs pair.1 pair.2)
    (hsnapshot : ∀ creation jobId, stage ≠ .loadSnapshot creation jobId) : Consistent (state.accept session stage) := by
  unfold Server.accept
  split
  · exact hstate
  · exact consistent_request hstate hstate.keyed hstate.lineage (fun _ _ h ↦ h) (fun job hjob ↦ ⟨job, hjob, rfl⟩)
      hsound horiginals fun creation jobId heq ↦ absurd heq (hsnapshot creation jobId)

/-- The row that an insert adds carries the lineage on. -/
theorem retryLineage_insert {creation : Creation} {expired : List InFlight} {site : Site} {job : CrawlJob}
    (hstate : Consistent state) (hstage : state.request session = some (.insert creation expired site job))
    (hvalid : brokenKey (site.flush state.tables.sources) (flushExpired expired state.tables.jobs ++ [job]) = none) :
    RetryLineage (flushExpired expired state.tables.jobs ++ [job]) := by
  obtain ⟨hcreation, hexpired, hown, hsource, hnames⟩ := hstate.sound session _ hstage
  have hkept {originalJobId sourceId : ℕ} (h : IsOriginal state.tables.jobs originalJobId sourceId) :
      IsOriginal (flushExpired expired state.tables.jobs ++ [job]) originalJobId sourceId :=
    isOriginal_append (isOriginal_flushExpired hexpired h) job
  refine ⟨?_, (nodup_brokenKey_none hvalid).2.2.2⟩
  intro retry hretry originalJobId hnamed
  rcases List.mem_append.mp hretry with hold | hnew
  · obtain ⟨row, hmem, rfl⟩ := List.mem_map.mp hold
    have hsame := sameJob_flushExpired expired row
    rw [hsame.retryOfJobId] at hnamed
    rw [hsame.sourceSiteId]
    exact hkept (hstate.lineage.originals row hmem originalJobId hnamed)
  · obtain rfl := List.mem_singleton.mp hnew
    rw [hnames] at hnamed
    have hretries : creation.args.retryOfJobId.isSome := by
      rw [hnamed]
      rfl
    obtain ⟨loaded, current, rfl, hid⟩ := hown hretries
    obtain ⟨source, hfound, hsourceId⟩ := Option.map_eq_some_iff.mp hid
    have hpair : (originalJobId, source.id) ∈ creation.originals := by
      simp [Creation.originals, hnamed, hfound]
    rw [hsource, Site.id, ← hsourceId]
    exact hkept (hstate.originals session _ hstage _ hpair)

/-- A statement that leaves the rows alone. -/
theorem consistent_of_same_rows (hstate : Consistent state) (hstage : state.request session = some stage)
    (hnumbered : stage.Numbered sqlite state.tables) (hunhindered : stage.Unhindered sqlite state.tables)
    (hsources : (state.tables.proceed sqlite now stage).1.sources = state.tables.sources)
    (hjobs : (state.tables.proceed sqlite now stage).1.jobs = state.tables.jobs)
    (hsnapshot : ∀ creation jobId, (state.tables.proceed sqlite now stage).2 ≠ .loadSnapshot creation jobId) :
    Consistent { state with
      tables := (state.tables.proceed sqlite now stage).1
      request := Function.update state.request session (some (state.tables.proceed sqlite now stage).2) } := by
  have hsound : (state.tables.proceed sqlite now stage).2.Sound :=
    sound_proceed hstate.keyed (hstate.sound session stage hstage) hnumbered hunhindered
      (hstate.originals session stage hstage) fun creation jobId heq ↦ hstate.inserted session creation jobId (heq ▸ hstage)
  have horiginals : ∀ pair ∈ (state.tables.proceed sqlite now stage).2.originals,
      IsOriginal state.tables.jobs pair.1 pair.2 :=
    isOriginal_proceed (hstate.originals session stage hstage) (hstate.sound session stage hstage)
  have hkeyed : (state.tables.proceed sqlite now stage).1.Keyed :=
    ⟨hsources ▸ hstate.keyed.sourceIds, hsources ▸ hstate.keyed.sourceCodes, hjobs ▸ hstate.keyed.jobIds⟩
  apply consistent_request hstate hkeyed _ _ _ hsound
  · rw [hjobs]
    exact horiginals
  · exact fun creation jobId heq ↦ absurd heq (hsnapshot creation jobId)
  · rw [hjobs]
    exact hstate.lineage
  · rw [hjobs]
    exact fun _ _ h ↦ h
  · rw [hjobs]
    exact fun job hjob ↦ ⟨job, hjob, rfl⟩

/-- An unhindered statement keeps the tables consistent. -/
theorem consistent_proceed (hstate : Consistent state) (hstage : state.request session = some stage)
    (hnumbered : stage.Numbered sqlite state.tables) (hunhindered : stage.Unhindered sqlite state.tables) :
    Consistent { state with
      tables := (state.tables.proceed sqlite now stage).1
      request := Function.update state.request session (some (state.tables.proceed sqlite now stage).2) } := by
  rcases proceed_cases sqlite now state.tables stage with
    ⟨hsources, hjobs, -, hjob⟩ | ⟨creation, expired, site, rfl, heq⟩ | ⟨creation, expired, site, job, rfl, hvalid, heq⟩
  · apply consistent_of_same_rows hstate hstage hnumbered hunhindered hsources hjobs
    intro creation jobId hsnapshot
    rw [hsnapshot] at hjob
    cases hjob
  · exact consistent_of_same_rows hstate hstage hnumbered hunhindered rfl rfl fun _ _ h ↦ nomatch h
  · obtain ⟨hcreation, hexpired, -⟩ := hstate.sound session _ hstage
    obtain ⟨hsourceIds, hsourceCodes, hjobIds, -⟩ := nodup_brokenKey_none hvalid
    rw [heq]
    apply consistent_request hstate ⟨hsourceIds, hsourceCodes, hjobIds⟩ (retryLineage_insert hstate hstage hvalid)
    · exact fun _ _ h ↦ isOriginal_append (isOriginal_flushExpired hexpired h) job
    · intro old hold
      exact ⟨flushExpiredRow expired old, List.mem_append_left _ (List.mem_map_of_mem hold),
        (sameJob_flushExpired expired old).id⟩
    · unfold Stage.inserted
      split <;> trivial
    · unfold Stage.inserted
      split <;> exact fun _ h ↦ (nomatch h)
    · unfold Stage.inserted
      intro inserted jobId hinserted
      split at hinserted
      · obtain ⟨-, rfl⟩ := Stage.loadSnapshot.inj hinserted
        exact ⟨job, List.mem_append_right _ List.mem_cons_self, rfl⟩
      · cases hinserted

end Requests

/-! ## Job numbers outside SQLite -/

/-- The number that a request has taken for its job. -/
def Stage.number : Stage → Option ℕ
  | .insert _ _ _ job => some job.id
  | _ => none

theorem number_of_hasJob_eq_false {stage : Stage} (h : stage.hasJob = false) : stage.number = none := by
  cases stage <;> first | rfl | cases h

/-- The sequence has handed out every number that is used or about to be, each one once. -/
structure NumbersReserved (state : Server) : Prop where
  used : ∀ job ∈ state.tables.jobs, job.id < state.tables.jobSequence
  reserved : ∀ session stage number, state.request session = some stage → stage.number = some number →
    number < state.tables.jobSequence ∧ ∀ job ∈ state.tables.jobs, job.id ≠ number
  distinct : ∀ session other stage otherStage number, session ≠ other → state.request session = some stage →
    state.request other = some otherStage → stage.number = some number → otherStage.number ≠ some number

section Numbers

variable {state : Server}

theorem numbered_of_numbersReserved (hstate : NumbersReserved state) {session : ℕ} {stage : Stage}
    (hstage : state.request session = some stage) : stage.Numbered false state.tables := by
  cases stage with
  | insert creation expired site job => exact fun _ ↦ (hstate.reserved session _ job.id hstage rfl).2
  | _ => trivial

/-- Rows that keep their numbers, and requests that take none. -/
theorem numbersReserved_of_kept {tables : Tables} {request : ℕ → Option Stage} (hstate : NumbersReserved state)
    (operation : ℕ → Option (ℕ × InFlight)) (hids : tables.jobs.map CrawlJob.id = state.tables.jobs.map CrawlJob.id)
    (hsequence : tables.jobSequence = state.tables.jobSequence)
    (hrequest : ∀ session stage number, request session = some stage → stage.number = some number →
      state.request session = some stage) :
    NumbersReserved ⟨tables, operation, request⟩ := by
  have hused (property : ℕ → Prop) (h : ∀ job ∈ state.tables.jobs, property job.id) :
      ∀ job ∈ tables.jobs, property job.id := by
    intro job hjob
    have hid : job.id ∈ state.tables.jobs.map CrawlJob.id := hids ▸ List.mem_map_of_mem hjob
    obtain ⟨before, hbefore, heq⟩ := List.mem_map.mp hid
    exact heq ▸ h before hbefore
  refine ⟨?_, ?_, ?_⟩
  · dsimp only
    rw [hsequence]
    exact hused (· < state.tables.jobSequence) hstate.used
  · intro session stage number hstage hnumber
    obtain ⟨hlt, hfree⟩ := hstate.reserved session stage number (hrequest session stage number hstage hnumber) hnumber
    dsimp only
    rw [hsequence]
    exact ⟨hlt, hused (· ≠ number) hfree⟩
  · intro session other stage otherStage number hne hstage hother hnumber hsame
    exact hstate.distinct session other stage otherStage number hne (hrequest session stage number hstage hnumber)
      (hrequest other otherStage number hother hsame) hnumber hsame

/-- A request that comes to a stage without a number. -/
theorem request_of_number {session : ℕ} {stage : Stage} (hnone : stage.number = none) :
    ∀ other next number, Function.update state.request session (some stage) other = some next →
      next.number = some number → state.request other = some next := by
  intro other next number hnext hnumber
  rcases request_update hnext with ⟨-, rfl⟩ | ⟨-, hbefore⟩
  · rw [hnone] at hnumber
    cases hnumber
  · exact hbefore

/-- A statement reserves the numbers that it hands out. -/
theorem numbersReserved_proceed (hstate : NumbersReserved state) {session : ℕ} {stage : Stage} {now : Instant}
    (hstage : state.request session = some stage) :
    NumbersReserved { state with
      tables := (state.tables.proceed false now stage).1
      request := Function.update state.request session (some (state.tables.proceed false now stage).2) } := by
  rcases proceed_cases false now state.tables stage with
    ⟨-, hjobs, hsequence, hjob⟩ | ⟨creation, expired, site, rfl, heq⟩ | ⟨creation, expired, site, job, rfl, -, heq⟩
  · exact numbersReserved_of_kept hstate _ (by rw [hjobs]) hsequence (request_of_number (number_of_hasJob_eq_false hjob))
  · rw [heq]
    refine ⟨?_, ?_, ?_⟩
    · intro job hjob
      have hlt := hstate.used job hjob
      exact Nat.lt_succ_of_lt hlt
    · intro other next number hnext hnumber
      rcases request_update hnext with ⟨-, rfl⟩ | ⟨-, hbefore⟩
      · obtain rfl : state.tables.jobSequence = number := Option.some.inj hnumber
        exact ⟨Nat.lt_succ_self _, fun job hjob ↦ (hstate.used job hjob).ne⟩
      · obtain ⟨hlt, hfree⟩ := hstate.reserved other next number hbefore hnumber
        exact ⟨Nat.lt_succ_of_lt hlt, hfree⟩
    · intro first second firstStage secondStage number hne hfirst hsecond hnumber hsame
      rcases request_update hfirst with ⟨rfl, rfl⟩ | ⟨-, hfirstBefore⟩
      · rcases request_update hsecond with ⟨rfl, -⟩ | ⟨-, hsecondBefore⟩
        · exact hne rfl
        · obtain rfl : state.tables.jobSequence = number := Option.some.inj hnumber
          exact lt_irrefl _ (hstate.reserved second secondStage _ hsecondBefore hsame).1
      · rcases request_update hsecond with ⟨rfl, rfl⟩ | ⟨-, hsecondBefore⟩
        · obtain rfl : state.tables.jobSequence = number := Option.some.inj hsame
          exact lt_irrefl _ (hstate.reserved first firstStage _ hfirstBefore hnumber).1
        · exact hstate.distinct first second firstStage secondStage number hne hfirstBefore hsecondBefore hnumber hsame
  · rw [heq]
    have hinserted : (Stage.inserted creation job).number = none := by
      unfold Stage.inserted
      split <;> rfl
    have hids (property : ℕ → Prop) (hold : ∀ row ∈ state.tables.jobs, property row.id) (hnew : property job.id) :
        ∀ row ∈ flushExpired expired state.tables.jobs ++ [job], property row.id := by
      intro row hrow
      have hid : row.id ∈ state.tables.jobs.map CrawlJob.id ++ [job.id] :=
        map_id_inserted expired job ▸ List.mem_map_of_mem hrow
      rcases List.mem_append.mp hid with hmem | hmem
      · obtain ⟨before, hbefore, hsame⟩ := List.mem_map.mp hmem
        exact hsame ▸ hold before hbefore
      · exact List.mem_singleton.mp hmem ▸ hnew
    refine ⟨hids (· < state.tables.jobSequence) hstate.used (hstate.reserved session _ job.id hstage rfl).1, ?_, ?_⟩
    · intro other next number hnext hnumber
      rcases request_update hnext with ⟨-, rfl⟩ | ⟨hne, hbefore⟩
      · rw [hinserted] at hnumber
        cases hnumber
      · obtain ⟨hlt, hfree⟩ := hstate.reserved other next number hbefore hnumber
        refine ⟨hlt, hids (· ≠ number) hfree ?_⟩
        intro hsame
        exact hstate.distinct session other _ next number hne.symm hstage hbefore (congrArg some hsame) hnumber
    · intro first second firstStage secondStage number hne hfirst hsecond hnumber hsame
      exact hstate.distinct first second firstStage secondStage number hne
        (request_of_number hinserted first firstStage number hfirst hnumber)
        (request_of_number hinserted second secondStage number hsecond hsame) hnumber hsame

end Numbers

/-! ## Runs -/

/-- What every unhindered step keeps. -/
structure Trusted (sqlite : Bool) (state : Server) : Prop where
  consistent : Consistent state
  numbers : sqlite = false → NumbersReserved state

def Stage.HasInserted : Stage → Prop
  | .loadSnapshot _ _ | .created _ _ => True
  | _ => False

def Stage.HasFailed : Stage → Prop
  | .rejected _ | .refused _ _ => True
  | _ => False

section Runs

variable {sqlite : Bool} {state : Server} {event : ServerEvent}

theorem trusted_initial (sqlite : Bool) {sources : List SourceSite} (hids : (sources.map SourceSite.id).Nodup)
    (hcodes : (sources.map SourceSite.code).Nodup) : Trusted sqlite (.initial sources) where
  consistent :=
    { keyed := ⟨hids, hcodes, List.nodup_nil⟩
      lineage := ⟨fun _ h ↦ (nomatch h), List.nodup_nil⟩
      originals := fun _ _ h ↦ nomatch h
      sound := fun _ _ h ↦ nomatch h
      inserted := fun _ _ _ h ↦ nomatch h }
  numbers _ := ⟨fun _ h ↦ (nomatch h), fun _ _ _ h ↦ (nomatch h), fun _ _ _ _ _ _ h ↦ (nomatch h)⟩

theorem trusted_mapJob (hstate : Trusted sqlite state) {jobId : ℕ} {f : CrawlJob → CrawlJob}
    (hsame : ∀ row, SameJob row (f row))
    (hretryable : ∀ row ∈ state.tables.jobs, row.id = jobId → state.Engaged jobId → Retryable row → Retryable (f row))
    (operation : ℕ → Option (ℕ × InFlight)) :
    Trusted sqlite { state with tables := state.tables.mapJob jobId f, operation := operation } where
  consistent := consistent_mapJob hstate.consistent hsame hretryable operation
  numbers hsqlite := numbersReserved_of_kept (hstate.numbers hsqlite) operation
    (map_id_map (sameJob_ite hsame jobId)) rfl fun _ _ _ h _ ↦ h

theorem trusted_accept (hstate : Trusted sqlite state) (session : ℕ) {stage : Stage} (hsound : stage.Sound)
    (horiginals : ∀ pair, pair ∉ stage.originals) (hjob : stage.hasJob = false) :
    Trusted sqlite (state.accept session stage) where
  consistent := by
    apply consistent_accept hstate.consistent hsound fun pair hpair ↦ absurd hpair (horiginals pair)
    intro creation jobId heq
    rw [heq] at hjob
    cases hjob
  numbers hsqlite := by
    unfold Server.accept
    split
    · exact hstate.numbers hsqlite
    · exact numbersReserved_of_kept (hstate.numbers hsqlite) _ rfl rfl
        (request_of_number (number_of_hasJob_eq_false hjob))

theorem originals_create_notRetry {request : Except ServiceError CrawlRequest} (h : notRetry request) (pair : ℕ × ℕ) :
    pair ∉ (Stage.create request).originals := by
  intro hpair
  obtain ⟨accepted, rfl, hretry, -⟩ := originals_create hpair
  rw [notRetry, hretry] at h
  cases h

/-- An unhindered step keeps what every request relies on. -/
theorem trusted_step (hstate : Trusted sqlite state) (hunhindered : Unhindered sqlite state event) :
    Trusted sqlite (state.step sqlite event) := by
  cases event with
  | claim jobId pickedAt leaseSeconds now =>
    have hclaim (row job : CrawlJob) (h : claimPendingJobInSession row pickedAt now leaseSeconds = .ok (some job)) :
        row.status = .pending ∧ SameJob row job := sameJob_claim h
    exact trusted_mapJob hstate (fun row ↦ sameJob_updatedRow (hclaim row))
      (fun row _ _ _ ↦ retryable_updatedRow (hclaim row)) state.operation
  | start jobId args now =>
    have hstart (row job : CrawlJob) (h : startJobInSession row args now = .ok (some job)) :
        row.status = .pending ∧ SameJob row job := sameJob_start h
    exact trusted_mapJob hstate (fun row ↦ sameJob_updatedRow (hstart row))
      (fun row _ _ _ ↦ retryable_updatedRow (hstart row)) state.operation
  | read txn jobId op now =>
    simp only [Server.step]
    split
    · exact ⟨⟨hstate.consistent.keyed, hstate.consistent.lineage, hstate.consistent.originals, hstate.consistent.sound,
        hstate.consistent.inserted⟩, fun hsqlite ↦ numbersReserved_of_kept (hstate.numbers hsqlite) _ rfl rfl
          fun _ _ _ h _ ↦ h⟩
    · exact hstate
  | commit txn =>
    simp only [Server.step]
    split
    · rename_i jobId held hheld
      apply trusted_mapJob hstate (sameJob_writeBack held)
      intro row hrow hid hengaged hfailed
      apply retryable_writeBack _ hfailed
      intro hsucceeded
      by_contra hloaded
      exact hunhindered.commits txn jobId held row rfl hheld hsucceeded hloaded hrow hid hfailed hengaged
    · exact hstate
  | rollback txn =>
    exact ⟨⟨hstate.consistent.keyed, hstate.consistent.lineage, hstate.consistent.originals, hstate.consistent.sound,
      hstate.consistent.inserted⟩, fun hsqlite ↦ numbersReserved_of_kept (hstate.numbers hsqlite) _ rfl rfl
        fun _ _ _ h _ ↦ h⟩
  | retryJob session originalJobId retry => exact trusted_accept hstate session trivial (fun _ h ↦ nomatch h) rfl
  | retryLatest session sourceId =>
    simp only [Server.step]
    split
    · exact trusted_accept hstate session trivial (fun _ h ↦ nomatch h) rfl
    · exact hstate
  | crawl session request =>
    simp only [Server.step]
    split
    · rename_i hnotRetry
      exact trusted_accept hstate session (sound_create request) (originals_create_notRetry hnotRetry)
        (hasJob_create request)
    · exact hstate
  | createJob session sourceCode sourceName sourceUrl args =>
    apply trusted_accept hstate session _ _ (hasJob_ensureSourceSite [])
    · exact sound_ensureSourceSite (fun h ↦ nomatch h) fun _ h ↦ nomatch h
    · intro pair hpair
      have hnone := originals_ensureSourceSite hpair
      cases hnone
  | proceed session now =>
    simp only [Server.step]
    split
    · rename_i stage hstage
      have hnumbered : stage.Numbered sqlite state.tables := by
        cases sqlite with
        | true => cases stage <;> first | trivial | exact fun h ↦ nomatch h
        | false => exact numbered_of_numbersReserved (hstate.numbers rfl) hstage
      refine ⟨consistent_proceed hstate.consistent hstage hnumbered (hunhindered.retries session now stage rfl hstage), ?_⟩
      rintro rfl
      exact numbersReserved_proceed (hstate.numbers rfl) hstage
    · exact hstate

/-- Only its own statements move a request. -/
theorem request_step_of_ne {session : ℕ} {stage : Stage} (hstage : state.request session = some stage)
    (hevent : ∀ now, event ≠ .proceed session now) : (state.step sqlite event).request session = some stage := by
  have haccept (other : ℕ) (next : Stage) : (state.accept other next).request session = some stage := by
    unfold Server.accept
    split
    · exact hstage
    · rename_i hnone
      have hne : session ≠ other := by
        rintro rfl
        rw [hstage] at hnone
        cases hnone
      exact (Function.update_of_ne hne _ _).trans hstage
  cases event with
  | claim | start | rollback => exact hstage
  | read | commit =>
    simp only [Server.step]
    split <;> exact hstage
  | retryJob | createJob => exact haccept _ _
  | retryLatest | crawl =>
    simp only [Server.step]
    split
    · exact haccept _ _
    · exact hstage
  | proceed other now =>
    have hne : session ≠ other := by
      rintro rfl
      exact hevent now rfl
    simp only [Server.step]
    split
    · exact (Function.update_of_ne hne _ _).trans hstage
    · exact hstage

/-- A request that has inserted its job ends by returning it. -/
theorem hasInserted_step (hstate : Consistent state) {session : ℕ} {stage : Stage}
    (hstage : state.request session = some stage) (hinserted : stage.HasInserted) :
    ∃ next, (state.step sqlite event).request session = some next ∧ next.HasInserted := by
  by_cases hevent : ∃ now, event = .proceed session now
  · obtain ⟨now, rfl⟩ := hevent
    simp only [Server.step, hstage, Function.update_self]
    refine ⟨_, rfl, ?_⟩
    cases stage with
    | loadSnapshot creation jobId =>
      obtain ⟨job, hjob, hid⟩ := hstate.inserted session creation jobId hstage
      simp only [Tables.proceed]
      split
      · trivial
      · rename_i hmissing
        exact absurd (decide_eq_true hid) (by simpa using List.find?_eq_none.mp hmissing job hjob)
    | created => trivial
    | _ => cases hinserted
  · exact ⟨stage, request_step_of_ne hstage fun now heq ↦ hevent ⟨now, heq⟩, hinserted⟩

/-- A step of a request changes rows only by inserting its job. -/
theorem rows_step_or_hasInserted {session : ℕ} {now : Instant} :
    ((state.step sqlite (.proceed session now)).tables.sources = state.tables.sources ∧
      (state.step sqlite (.proceed session now)).tables.jobs = state.tables.jobs) ∨
    ∃ stage, (state.step sqlite (.proceed session now)).request session = some stage ∧ stage.HasInserted := by
  simp only [Server.step]
  split
  · rename_i stage hstage
    rcases proceed_cases sqlite now state.tables stage with
      ⟨hsources, hjobs, -⟩ | ⟨creation, expired, site, rfl, heq⟩ | ⟨creation, expired, site, job, rfl, -, heq⟩
    · exact Or.inl ⟨hsources, hjobs⟩
    · exact Or.inl ⟨rfl, rfl⟩
    · right
      rw [heq]
      refine ⟨.inserted creation job, Function.update_self _ _ _, ?_⟩
      unfold Stage.inserted
      split <;> trivial
  · exact Or.inl ⟨rfl, rfl⟩

theorem not_hasInserted_of_hasFailed {stage : Stage} (h : stage.HasFailed) : ¬ stage.HasInserted := by
  cases stage <;> first | exact fun hinserted ↦ hinserted | cases h

end Runs

/-- In every run whose steps are all unhindered the lineage of retries holds; a retry that is refused has lost against
another retry of its job or another job of its source; and no step of a request that ends with an exception has
changed a row. -/
theorem retry_lineage_of_unhindered (sqlite : Bool) (sources : List SourceSite)
    (hids : (sources.map SourceSite.id).Nodup) (hcodes : (sources.map SourceSite.code).Nodup)
    (events : List ServerEvent) (h : Along (Server.step sqlite) (Unhindered sqlite) (.initial sources) events) :
    RetryLineage (events.foldl (Server.step sqlite) (.initial sources)).tables.jobs ∧
    (∀ session creation error,
      (events.foldl (Server.step sqlite) (.initial sources)).request session = some (.refused creation error) →
        creation.args.retryOfJobId.isSome → IsConflict error) ∧
    ∀ before session now after stage, events = before ++ ServerEvent.proceed session now :: after →
      (events.foldl (Server.step sqlite) (.initial sources)).request session = some stage → stage.HasFailed →
        ((before ++ [ServerEvent.proceed session now]).foldl (Server.step sqlite) (.initial sources)).tables.sources =
            (before.foldl (Server.step sqlite) (.initial sources)).tables.sources ∧
          ((before ++ [ServerEvent.proceed session now]).foldl (Server.step sqlite) (.initial sources)).tables.jobs =
            (before.foldl (Server.step sqlite) (.initial sources)).tables.jobs := by
  have hinitial : Trusted sqlite (.initial sources) := trusted_initial sqlite hids hcodes
  have hstep (state : Server) (event : ServerEvent) (hstate : Trusted sqlite state)
      (hunhindered : Unhindered sqlite state event) : Trusted sqlite (state.step sqlite event) :=
    trusted_step hstate hunhindered
  have hfinal := invariant_foldl hstep _ events hinitial h
  refine ⟨hfinal.consistent.lineage, ?_, ?_⟩
  · intro session creation error hrefused
    exact hfinal.consistent.sound session _ hrefused
  · intro before session now after stage hsplit hstage hfailed
    rw [List.foldl_concat]
    apply rows_step_or_hasInserted.resolve_right
    rintro ⟨next, hnext, hinserted⟩
    rw [hsplit, List.append_cons, along_append] at h
    have hreached := invariant_foldl hstep _ (before ++ [ServerEvent.proceed session now]) hinitial h.1
    have hkeep (state : Server) (event : ServerEvent)
        (hstate : Trusted sqlite state ∧ ∃ stage, state.request session = some stage ∧ stage.HasInserted)
        (hunhindered : Unhindered sqlite state event) :
        Trusted sqlite (state.step sqlite event) ∧
          ∃ stage, (state.step sqlite event).request session = some stage ∧ stage.HasInserted := by
      obtain ⟨htrusted, current, hcurrent, hdone⟩ := hstate
      exact ⟨trusted_step htrusted hunhindered, hasInserted_step htrusted.consistent hcurrent hdone⟩
    have hlast := invariant_foldl hkeep _ after ⟨hreached, next, by rwa [List.foldl_concat], hinserted⟩ h.2
    obtain ⟨last, hlast, hdone⟩ := hlast.2
    rw [hsplit, List.append_cons, List.foldl_append, hlast] at hstage
    obtain rfl := Option.some.inj hstage
    exact not_hasInserted_of_hasFailed hfailed hdone

section Example

instance (sqlite : Bool) (tables : Tables) : DecidablePred (Stage.Unhindered sqlite tables)
  | .findSource _ _ (_ :: _) => by
      unfold Stage.Unhindered
      infer_instance
  | .findSource _ _ [] => by
      unfold Stage.Unhindered
      infer_instance
  | .insert _ _ (.found _ _) _ => by
      unfold Stage.Unhindered Site.CodeFree
      infer_instance
  | .insert _ _ (.fresh _) _ => by
      unfold Stage.Unhindered Site.CodeFree
      infer_instance
  | .loadOriginal _ _ | .loadSource _ _ | .loadRetry _ _ _ | .loadCandidates _ | .loadRetried _ _ _ | .reconcile _ _
  | .checkActive _ _ _ | .nameSource _ _ _ | .findOriginal _ _ _ | .numberJob _ _ _ | .classify _ _ _
  | .reportActive _ _ | .loadSnapshot _ _ | .created _ _ | .rejected _ | .refused _ _ => .isTrue trivial

/-- Nothing is committed as succeeded. -/
def Calm (sqlite : Bool) (state : Server) : ServerEvent → Prop
  | .commit txn => ∀ pair ∈ (state.operation txn).toList, pair.2.current.status ≠ .succeeded
  | .proceed session _ => ∀ stage ∈ (state.request session).toList, stage.Unhindered sqlite state.tables
  | _ => True

instance (sqlite : Bool) (state : Server) : DecidablePred (Calm sqlite state)
  | .commit _ | .proceed _ _ => by
      unfold Calm
      infer_instance
  | .claim _ _ _ _ | .start _ _ _ | .read _ _ _ _ | .rollback _ | .retryJob _ _ _ | .retryLatest _ _ | .crawl _ _
  | .createJob _ _ _ _ _ => .isTrue trivial

theorem unhindered_of_calm {sqlite : Bool} {state : Server} {event : ServerEvent} (h : Calm sqlite state event) :
    Unhindered sqlite state event where
  commits txn jobId held row hevent hheld hsucceeded := by
    subst hevent
    exact absurd hsucceeded (h (jobId, held) (by simp [hheld]))
  retries session now stage hevent hstage := by
    subst hevent
    exact h stage (by simp [hstage])

def dealJobStarted : List ServerEvent :=
  .crawl 0 (manualCrawl dealSource none "api") :: List.replicate 9 (.proceed 0 0) ++ [.start 1 (runningStart {}) 0]

def dealJobRetried : List ServerEvent :=
  .retryJob 1 1 ⟨none, "admin-retry"⟩ :: List.replicate 11 (.proceed 1 (seconds 1801))

def failedJobRetried : List ServerEvent :=
  dealJobStarted ++ [.read 0 1 (.finish { status := some "failed" }) (seconds 1800), .commit 0] ++ dealJobRetried

end Example

theorem retry_lineage_of_unhindered_failedJobRetried :
    RetryLineage (failedJobRetried.foldl (Server.step false) (.initial [dealSource])).tables.jobs ∧
      (failedJobRetried.foldl (Server.step false) (.initial [dealSource])).tables.jobs.map
        (fun job ↦ (job.id, job.status, job.retryOfJobId)) = [(1, .failed, none), (2, .pending, some 1)] := by
  have hcalm : Along (Server.step false) (Calm false) (.initial [dealSource]) failedJobRetried := by decide +kernel
  have hunhindered := hcalm.mono fun state event h ↦ unhindered_of_calm h
  refine ⟨(retry_lineage_of_unhindered false [dealSource] (by decide) (by decide) _ hunhindered).1, ?_⟩
  decide +kernel

/-- The executor that finishes the job has read it before it is failed for its expired lease. -/
def retriedJobFinished : List ServerEvent :=
  dealJobStarted ++
    [.read 0 1 (.finish { status := some "succeeded" }) (seconds 1800), .read 1 1 .reconcile (seconds 1800), .commit 1] ++
    dealJobRetried ++ [.commit 0]

/-- In the end the retry repeats a job that has succeeded. -/
theorem not_retry_lineage_retriedJobFinished :
    ¬ RetryLineage (retriedJobFinished.foldl (Server.step false) (.initial [dealSource])).tables.jobs := by
  intro h
  have hrows : (retriedJobFinished.foldl (Server.step false) (.initial [dealSource])).tables.jobs.map
      (fun job ↦ (job.id, job.status, job.retryOfJobId)) = [(1, .succeeded, none), (2, .pending, some 1)] := by
    decide +kernel
  generalize (retriedJobFinished.foldl (Server.step false) (.initial [dealSource])).tables.jobs = jobs at h hrows
  have hretry : (2, JobStatus.pending, some 1) ∈ jobs.map (fun job ↦ (job.id, job.status, job.retryOfJobId)) := by
    rw [hrows]
    decide
  obtain ⟨retry, hmem, heq⟩ := List.mem_map.mp hretry
  simp only [Prod.mk.injEq] at heq
  obtain ⟨original, horiginal, hid, -, hretryable, -⟩ := h.originals retry hmem 1 heq.2.2
  have hrow := List.mem_map_of_mem (f := fun job : CrawlJob ↦ (job.id, job.status, job.retryOfJobId)) horiginal
  simp only [hrows, hid, List.mem_cons, Prod.mk.injEq, List.not_mem_nil, or_false] at hrow
  rcases hrow with ⟨-, hsucceeded, -⟩ | ⟨hsecond, -⟩
  · rw [Retryable, hsucceeded] at hretryable
    rcases hretryable with hfailed | hpartially
    · cases hfailed
    · cases hpartially
  · cases hsecond

end TenderPhase1.Trigger
