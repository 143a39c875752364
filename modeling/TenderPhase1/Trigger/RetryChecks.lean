import TenderPhase1.Trigger.RequestFrame

/-!
# What a request for a retry relies on

A retry names the job that it repeats. The checks on that job are made when a request loads
it, the insert comes statements later, and the job may be written in between and ever after
by a transaction that loaded it before it failed. This module says what the lineage of
retries is, when it holds, and what each statement of a request leaves for the next one.
-/

namespace TenderPhase1.Trigger

open Jobs Sources ObjectSession PyText Transition

/-- Every retry names a job of its source that has failed or ended in part and is no retry itself,
and no job is named twice. -/
structure RetryLineage (jobs : List CrawlJob) : Prop where
  originals : ∀ retry ∈ jobs, ∀ originalJobId, retry.retryOfJobId = some originalJobId →
    IsOriginal jobs originalJobId retry.sourceSiteId
  unique : (jobs.filterMap CrawlJob.retryOfJobId).Nodup

/-- What a retry raises that another request has overtaken. -/
def IsConflict (error : ServiceError) : Prop :=
  (∃ originalJobId retryJobId, error = .crawlJobRetryConflict originalJobId retryJobId) ∨
    ∃ source activeJob, error = sourceActiveConflict source activeJob

/-- The job that a creation is to retry, with the source that the job was found to belong to. -/
def Creation.originals (creation : Creation) : List (ℕ × ℕ) :=
  match creation.args.retryOfJobId, creation.source with
  | some originalJobId, some source => [(originalJobId, source.id)]
  | _, _ => []

/-- The jobs that a request has found fit to be retried, each with its source. -/
def Stage.originals : Stage → List (ℕ × ℕ)
  | .loadSource original _ => [(original.id, original.sourceSiteId)]
  | .loadRetry original source _ => [(original.id, source.id)]
  | .loadRetried source candidate candidates =>
      ((candidate :: candidates).filter (·.retryOfJobId.isNone)).map fun job ↦ (job.id, source.id)
  | .reconcile _ creation | .checkActive _ creation _ | .findSource creation _ _ | .nameSource creation _ _
  | .findOriginal creation _ _ | .numberJob creation _ _ | .insert creation _ _ _ => creation.originals
  | .loadOriginal _ _ | .loadCandidates _ | .classify _ _ _ | .reportActive _ _ | .loadSnapshot _ _ | .created _ _
  | .rejected _ | .refused _ _ => []

/-! ## When the lineage holds -/

/-- The job has been retried, or an open request has found it fit to be retried. -/
def Server.Engaged (state : Server) (jobId : ℕ) : Prop :=
  (∃ retry ∈ state.tables.jobs, retry.retryOfJobId = some jobId) ∨
    ∃ session stage sourceId, state.request session = some stage ∧ (jobId, sourceId) ∈ stage.originals

/-- The new code of a renamed source is not the code of another row. -/
def Site.CodeFree (sources : List SourceSite) : Site → Prop
  | .found loaded current => current.code = loaded.code ∨ ∀ row ∈ sources, row.id ≠ loaded.id → row.code ≠ current.code
  | .fresh source => ∀ row ∈ sources, row.code ≠ source.code

/-- A retry finds the source of the job that it repeats by the code of that source, and its insert
meets nobody else's job number or source code. -/
def Stage.Unhindered (sqlite : Bool) (tables : Tables) : Stage → Prop
  | .findSource creation _ (query :: _) =>
      creation.args.retryOfJobId.isSome → ∀ row ∈ ((query.rows tables.sources).head?).toList,
        creation.source.map SourceSite.id = some row.id
  | .findSource creation _ [] => creation.args.retryOfJobId = none
  | .insert creation _ site job =>
      creation.args.retryOfJobId.isSome →
        (sqlite → ∀ row ∈ tables.jobs, row.id ≠ job.id) ∧ site.CodeFree tables.sources
  | .loadOriginal _ _ | .loadSource _ _ | .loadRetry _ _ _ | .loadCandidates _ | .loadRetried _ _ _ | .reconcile _ _
  | .checkActive _ _ _ | .nameSource _ _ _ | .findOriginal _ _ _ | .numberJob _ _ _ | .classify _ _ _
  | .reportActive _ _ | .loadSnapshot _ _ | .created _ _ | .rejected _ | .refused _ _ => True

/-- No transaction commits that a job has succeeded which was failed meanwhile and is retried, and
retries are unhindered. -/
structure Unhindered (sqlite : Bool) (state : Server) (event : ServerEvent) : Prop where
  commits : ∀ txn jobId held row, event = .commit txn → state.operation txn = some (jobId, held) →
    held.current.status = .succeeded → held.loaded.status ≠ .succeeded → row ∈ state.tables.jobs → row.id = jobId →
      Retryable row → ¬ state.Engaged jobId
  retries : ∀ session now stage, event = .proceed session now → state.request session = some stage →
    stage.Unhindered sqlite state.tables

/-! ## What a request knows -/

/-- A retry comes from the trigger service, for a source that has a code. -/
def Creation.Sound (creation : Creation) : Prop :=
  creation.args.retryOfJobId.isSome → creation.source.isSome ∧ (asStr (some creation.sourceCode)).isSome

/-- A retry has found the source of the job that it repeats. -/
def Creation.OwnSite (creation : Creation) (site : Site) : Prop :=
  creation.args.retryOfJobId.isSome →
    ∃ loaded current, site = .found loaded current ∧ creation.source.map SourceSite.id = some loaded.id

def AllReconciled (expired : List InFlight) : Prop := ∀ held ∈ expired, held.op = .reconcile

def Stage.Sound : Stage → Prop
  | .loadRetried _ candidate _ => candidate.retryOfJobId = none
  | .reconcile source creation => creation.source = some source ∧ creation.Sound
  | .checkActive source creation expired => creation.source = some source ∧ creation.Sound ∧ AllReconciled expired
  | .findSource creation expired _ => creation.Sound ∧ AllReconciled expired
  | .nameSource creation expired found =>
      creation.Sound ∧ AllReconciled expired ∧ creation.OwnSite (.found found found)
  | .findOriginal creation expired site | .numberJob creation expired site =>
      creation.Sound ∧ AllReconciled expired ∧ creation.OwnSite site
  | .insert creation expired site job =>
      creation.Sound ∧ AllReconciled expired ∧ creation.OwnSite site ∧ job.sourceSiteId = site.id ∧
        job.retryOfJobId = creation.args.retryOfJobId
  | .classify _ creation message =>
      creation.args.retryOfJobId.isSome → isRetryOfJobIntegrityError message ∨ isSourceActiveJobIntegrityError message
  | .refused creation error => creation.args.retryOfJobId.isSome → IsConflict error
  | .loadOriginal _ _ | .loadSource _ _ | .loadRetry _ _ _ | .loadCandidates _ | .reportActive _ _ | .loadSnapshot _ _
  | .created _ _ | .rejected _ => True

section Stages

variable {source : SourceSite} {creation : Creation} {jobs : List CrawlJob}

/-- A source with a spider has a code. -/
theorem asStr_isSome_of_resolveSpiderName {jobType : JobType} {spiderName : String}
    (h : resolveSpiderNameForSource source jobType = .ok spiderName) : (asStr (some source.code)).isSome := by
  have hadapter : getSourceAdapter source.code ≠ none := by
    intro hnone
    rw [resolveSpiderNameForSource, hnone] at h
    cases h
  have hne : strip source.code ≠ "" := by
    intro hempty
    apply hadapter
    have hcode : normalizeSourceCode source.code = "" := by
      rw [normalizeSourceCode, hempty]
      rfl
    rw [getSourceAdapter, hcode]
    decide
  rw [asStr_some, if_neg hne]
  rfl

/-- A request that is not a retry has no original, a retry has the one it names. -/
theorem originals_create {request : Except ServiceError CrawlRequest} {pair : ℕ × ℕ}
    (h : pair ∈ (Stage.create request).originals) :
    ∃ accepted, request = .ok accepted ∧ accepted.retryOfJobId = some pair.1 ∧ accepted.source.id = pair.2 := by
  unfold Stage.create at h
  split at h
  · cases h
  · rename_i accepted
    split at h
    · cases h
    · refine ⟨accepted, rfl, ?_⟩
      simp only [Stage.originals, Creation.originals, CrawlRequest.creation, CrawlRequest.createArgs] at h
      split at h
      · rename_i originalJobId found hretry hsource
        obtain rfl := List.mem_singleton.mp h
        exact ⟨hretry, congrArg SourceSite.id (Option.some.inj hsource)⟩
      · cases h

theorem sound_create (request : Except ServiceError CrawlRequest) : (Stage.create request).Sound := by
  unfold Stage.create
  split
  · trivial
  · split
    · trivial
    · rename_i spiderName hresolved
      exact ⟨rfl, fun _ ↦ ⟨rfl, asStr_isSome_of_resolveSpiderName hresolved⟩⟩

theorem isOriginal_create_retry {job : CrawlJob} {maxPages : Option ℤ} {triggeredBy : String} {pair : ℕ × ℕ}
    (h : pair ∈ (Stage.create (retryCrawlForJob source job maxPages triggeredBy)).originals) :
    pair = (job.id, source.id) := by
  obtain ⟨request, hrequest, hretry, hsource⟩ := originals_create h
  obtain ⟨hid, hsame⟩ := retryCrawlForJob_eq_ok hrequest
  rw [hid] at hretry
  rw [hsame] at hsource
  exact Prod.ext (Option.some.inj hretry).symm hsource.symm

theorem originals_create_manual {maxPages : Option ℤ} {triggeredBy : String} {pair : ℕ × ℕ} :
    pair ∉ (Stage.create (manualCrawl source maxPages triggeredBy)).originals := by
  intro h
  obtain ⟨request, hrequest, hretry, -⟩ := originals_create h
  obtain ⟨-, -, -, -, hnone⟩ := crawlRequest_eq_ok hrequest
  rw [hnone] at hretry
  cases hretry

/-- Every candidate that is no retry can be retried. -/
theorem isOriginal_nextCandidate {candidates : List CrawlJob}
    (h : ∀ job ∈ candidates, job.retryOfJobId = none → IsOriginal jobs job.id source.id) :
    ∀ pair ∈ (Stage.nextCandidate source candidates).originals, IsOriginal jobs pair.1 pair.2 := by
  induction candidates with
  | nil => exact fun pair hpair ↦ absurd hpair originals_create_manual
  | cons candidate candidates ih =>
    have hrest : ∀ job ∈ candidates, job.retryOfJobId = none → IsOriginal jobs job.id source.id :=
      fun job hjob ↦ h job (List.mem_cons_of_mem _ hjob)
    intro pair hpair
    unfold Stage.nextCandidate at hpair
    split at hpair
    · exact ih hrest pair hpair
    · obtain ⟨job, hjob, rfl⟩ := List.mem_map.mp hpair
      obtain ⟨hmem, hnone⟩ := List.mem_filter.mp hjob
      exact h job hmem (Option.isNone_iff_eq_none.mp hnone)

theorem sound_nextCandidate (candidates : List CrawlJob) : (Stage.nextCandidate source candidates).Sound := by
  induction candidates with
  | nil => exact sound_create _
  | cons candidate candidates ih =>
    unfold Stage.nextCandidate
    split
    · exact ih
    · rename_i hnone
      exact Option.not_isSome_iff_eq_none.mp hnone

theorem originals_ensureSourceSite {expired : List InFlight} {pair : ℕ × ℕ}
    (h : pair ∈ (Stage.ensureSourceSite creation expired).originals) : pair ∈ creation.originals := by
  unfold Stage.ensureSourceSite at h
  split at h
  · cases h
  · exact h

theorem sound_ensureSourceSite {expired : List InFlight} (hsound : creation.Sound) (hexpired : AllReconciled expired) :
    (Stage.ensureSourceSite creation expired).Sound := by
  unfold Stage.ensureSourceSite
  split
  · rename_i hnone
    intro hretry
    have hcode := (hsound hretry).2
    rw [hnone] at hcode
    cases hcode
  · exact ⟨hsound, hexpired⟩

end Stages

/-! ## One statement -/

/-- The primary keys and the codes of the sources are unique. -/
structure Tables.Keyed (tables : Tables) : Prop where
  sourceIds : (tables.sources.map SourceSite.id).Nodup
  sourceCodes : (tables.sources.map SourceSite.code).Nodup
  jobIds : (tables.jobs.map CrawlJob.id).Nodup

section Keys

variable {sources : List SourceSite} {jobs : List CrawlJob} {constraint : String × String}

/-- Where the keys are unique, what a row breaks is one of the two constraints on retries and active jobs. -/
theorem brokenKey_of_nodup (hsourceIds : (sources.map SourceSite.id).Nodup)
    (hcodes : (sources.map SourceSite.code).Nodup) (hjobIds : (jobs.map CrawlJob.id).Nodup)
    (h : brokenKey sources jobs = some constraint) :
    constraint = ("crawl_job.retry_of_job_id", "uq_crawl_job_retry_of_job_id") ∨
      constraint = ("crawl_job.source_site_id", "uq_crawl_job_source_active") := by
  rw [brokenKey, if_neg (not_not.mpr hsourceIds), if_neg (not_not.mpr hjobIds), brokenConstraint,
    if_neg (not_not.mpr hcodes)] at h
  split at h
  · exact Or.inl (Option.some.inj h).symm
  · split at h
    · exact Or.inr (Option.some.inj h).symm
    · cases h

/-- The handler knows both of them by their texts. -/
theorem classified_integrityMessage (env : Environment)
    (h : constraint = ("crawl_job.retry_of_job_id", "uq_crawl_job_retry_of_job_id") ∨
      constraint = ("crawl_job.source_site_id", "uq_crawl_job_source_active")) :
    isRetryOfJobIntegrityError (env.integrityMessage constraint) ∨
      isSourceActiveJobIntegrityError (env.integrityMessage constraint) := by
  unfold Environment.integrityMessage
  rcases h with rfl | rfl
  · left
    split <;> decide +kernel
  · right
    split <;> decide +kernel

/-- Where no key is broken, all of them hold. -/
theorem nodup_brokenKey_none (h : brokenKey sources jobs = none) :
    (sources.map SourceSite.id).Nodup ∧ (sources.map SourceSite.code).Nodup ∧ (jobs.map CrawlJob.id).Nodup ∧
      (jobs.filterMap CrawlJob.retryOfJobId).Nodup := by
  unfold brokenKey brokenConstraint at h
  split at h
  · cases h
  · rename_i hsourceIds
    split at h
    · cases h
    · rename_i hjobIds
      split at h
      · cases h
      · rename_i hcodes
        split at h
        · cases h
        · rename_i hretries
          exact ⟨not_not.mp hsourceIds, not_not.mp hcodes, not_not.mp hjobIds, not_not.mp hretries⟩

theorem map_id_flush (loaded current : SourceSite) :
    ((Site.found loaded current).flush sources).map SourceSite.id = sources.map SourceSite.id := by
  simp only [Site.flush, List.map_map]
  apply List.map_congr_left
  intro row _
  simp only [Function.comp_apply]
  split <;> rfl

/-- A source can be renamed where nobody else has the new code. -/
theorem nodup_codes_flush {loaded current : SourceSite} (hids : (sources.map SourceSite.id).Nodup)
    (hcodes : (sources.map SourceSite.code).Nodup) (hfree : (Site.found loaded current).CodeFree sources) :
    (((Site.found loaded current).flush sources).map SourceSite.code).Nodup := by
  have hcode (row : SourceSite) : (if row.id = loaded.id then SourceSite.writeBack loaded current row else row).code =
      if row.id = loaded.id then mergeColumn loaded.code current.code row.code else row.code := by
    split <;> rfl
  simp only [Site.flush, List.map_map, Function.comp_def, hcode]
  rcases hfree with hsame | hfree
  · simpa [hsame] using hcodes
  · by_cases hsame : current.code = loaded.code
    · simpa [hsame] using hcodes
    · simp only [mergeColumn_changed hsame]
      apply List.Nodup.map_on _ hids.of_map
      intro row hrow other hother heq
      split at heq
      · rename_i hid
        split at heq
        · rename_i hotherId
          exact List.inj_on_of_nodup_map hids hrow hother (hid.trans hotherId.symm)
        · rename_i hotherId
          exact absurd heq.symm (hfree other hother hotherId)
      · rename_i hid
        split at heq
        · exact absurd heq (hfree row hrow hid)
        · exact List.inj_on_of_nodup_map hcodes hrow hother heq

theorem map_id_inserted (expired : List InFlight) (job : CrawlJob) :
    (flushExpired expired jobs ++ [job]).map CrawlJob.id = jobs.map CrawlJob.id ++ [job.id] := by
  rw [List.map_append, flushExpired, map_id_map (sameJob_flushExpired expired)]
  rfl

theorem nodup_ids_inserted (hids : (jobs.map CrawlJob.id).Nodup) (expired : List InFlight) {job : CrawlJob}
    (hfree : ∀ row ∈ jobs, row.id ≠ job.id) : ((flushExpired expired jobs ++ [job]).map CrawlJob.id).Nodup := by
  rw [map_id_inserted, List.nodup_append]
  refine ⟨hids, List.nodup_singleton _, ?_⟩
  intro id hid other hother
  obtain ⟨row, hrow, rfl⟩ := List.mem_map.mp hid
  rw [List.mem_singleton.mp hother]
  exact hfree row hrow

end Keys

/-- The number that an insert is going to use outside SQLite is not taken. -/
def Stage.Numbered (sqlite : Bool) (tables : Tables) : Stage → Prop
  | .insert _ _ _ job => sqlite = false → ∀ row ∈ tables.jobs, row.id ≠ job.id
  | _ => True

section Statements

variable {sqlite : Bool} {now : Instant} {tables : Tables} {stage : Stage}

/-- What a request finds fit to be retried is so when it finds it. -/
theorem isOriginal_proceed (horiginals : ∀ pair ∈ stage.originals, IsOriginal tables.jobs pair.1 pair.2)
    (hsound : stage.Sound) :
    ∀ pair ∈ (tables.proceed sqlite now stage).2.originals, IsOriginal tables.jobs pair.1 pair.2 := by
  intro pair hpair
  cases stage with
  | loadOriginal originalJobId retry =>
    simp only [Tables.proceed] at hpair
    split at hpair
    · cases hpair
    · rename_i original hfound
      unfold Stage.checkOriginal at hpair
      split at hpair
      · cases hpair
      · rename_i hretryable
        split at hpair
        · cases hpair
        · rename_i hnone
          obtain rfl := List.mem_singleton.mp hpair
          exact ⟨original, List.mem_of_find?_eq_some hfound, rfl, rfl, not_not.mp hretryable,
            Option.not_isSome_iff_eq_none.mp hnone⟩
  | loadSource original retry =>
    simp only [Tables.proceed] at hpair
    split at hpair
    · cases hpair
    · rename_i source hfound
      obtain rfl := List.mem_singleton.mp hpair
      have hid : source.id = original.sourceSiteId := by simpa using List.find?_some hfound
      dsimp only
      rw [hid]
      exact horiginals _ List.mem_cons_self
  | loadRetry original source retry =>
    simp only [Tables.proceed] at hpair
    split at hpair
    · cases hpair
    · obtain rfl := isOriginal_create_retry hpair
      exact horiginals _ List.mem_cons_self
  | loadCandidates source =>
    refine isOriginal_nextCandidate ?_ pair hpair
    intro job hjob hnone
    obtain ⟨hmem, hfilter⟩ := filter_of_mem_rows hjob
    simp only [failedJobsOf, Bool.and_eq_true, decide_eq_true_eq, Bool.or_eq_true] at hfilter
    exact ⟨job, hmem, rfl, hfilter.1, hfilter.2, hnone⟩
  | loadRetried source candidate candidates =>
    have hcandidates : ∀ job ∈ candidate :: candidates, job.retryOfJobId = none →
        IsOriginal tables.jobs job.id source.id := by
      intro job hjob hnone
      have hmem : job ∈ (candidate :: candidates).filter (·.retryOfJobId.isNone) :=
        List.mem_filter.mpr ⟨hjob, Option.isNone_iff_eq_none.mpr hnone⟩
      exact horiginals _ (List.mem_map_of_mem hmem)
    simp only [Tables.proceed] at hpair
    split at hpair
    · exact isOriginal_nextCandidate (fun job hjob ↦ hcandidates job (List.mem_cons_of_mem _ hjob)) pair hpair
    · split at hpair
      · obtain rfl := isOriginal_create_retry hpair
        exact hcandidates candidate List.mem_cons_self hsound
      · exact absurd hpair originals_create_manual
  | reconcile source creation => exact horiginals pair hpair
  | checkActive source creation expired =>
    simp only [Tables.proceed] at hpair
    split at hpair
    · cases hpair
    · exact horiginals pair (originals_ensureSourceSite hpair)
  | findSource creation expired queries =>
    cases queries with
    | nil =>
      simp only [Tables.proceed] at hpair
      split at hpair
      · unfold Stage.integrityError at hpair
        split at hpair <;> cases hpair
      · exact horiginals pair hpair
    | cons query queries =>
      simp only [Tables.proceed] at hpair
      split at hpair <;> exact horiginals pair hpair
  | nameSource creation expired found =>
    simp only [Tables.proceed] at hpair
    split at hpair <;> exact horiginals pair hpair
  | findOriginal creation expired site =>
    simp only [Tables.proceed] at hpair
    split at hpair
    · exact horiginals pair hpair
    · split at hpair
      · exact horiginals pair hpair
      · cases hpair
  | numberJob creation expired site => exact horiginals pair hpair
  | insert creation expired site job =>
    simp only [Tables.proceed] at hpair
    split at hpair
    · unfold Stage.integrityError at hpair
      split at hpair <;> cases hpair
    · unfold Stage.inserted at hpair
      split at hpair <;> cases hpair
  | classify source creation message =>
    simp only [Tables.proceed, Stage.classifyActive] at hpair
    split at hpair
    · split at hpair <;> cases hpair
    · split at hpair
      · cases hpair
      · split at hpair
        · cases hpair
        · split at hpair <;> cases hpair
  | loadSnapshot creation jobId =>
    simp only [Tables.proceed] at hpair
    split at hpair <;> cases hpair
  | reportActive | created | rejected | refused => cases hpair

theorem sound_integrityError {creation : Creation} {message : String}
    (h : creation.args.retryOfJobId.isSome → creation.source.isSome ∧
      (isRetryOfJobIntegrityError message ∨ isSourceActiveJobIntegrityError message)) :
    (Stage.integrityError creation message).Sound := by
  unfold Stage.integrityError
  split
  · exact fun hretry ↦ (h hretry).2
  · rename_i hnone
    intro hretry
    have hsource := (h hretry).1
    rw [hnone] at hsource
    cases hsource

/-- The insert of an unhindered retry breaks no constraint but the two that the handler knows. -/
theorem sound_insert_refused {creation : Creation} {expired : List InFlight} {site : Site} {job : CrawlJob}
    {constraint : String × String} (hkeyed : tables.Keyed) (hsound : creation.Sound) (hsite : creation.OwnSite site)
    (hnumbered : (Stage.insert creation expired site job).Numbered sqlite tables)
    (hunhindered : (Stage.insert creation expired site job).Unhindered sqlite tables)
    (hbroken : brokenKey (site.flush tables.sources) (flushExpired expired tables.jobs ++ [job]) = some constraint) :
    (Stage.integrityError creation ((tables.environment sqlite now).integrityMessage constraint)).Sound := by
  apply sound_integrityError
  intro hretry
  refine ⟨(hsound hretry).1, ?_⟩
  obtain ⟨loaded, current, rfl, -⟩ := hsite hretry
  obtain ⟨hsqlite, hfree⟩ := hunhindered hretry
  have hnumber : ∀ row ∈ tables.jobs, row.id ≠ job.id := by
    cases sqlite with
    | true => exact hsqlite rfl
    | false => exact hnumbered rfl
  apply classified_integrityMessage
  apply brokenKey_of_nodup _ (nodup_codes_flush hkeyed.sourceIds hkeyed.sourceCodes hfree)
    (nodup_ids_inserted hkeyed.jobIds expired hnumber) hbroken
  rw [map_id_flush]
  exact hkeyed.sourceIds

theorem allReconciled_load (rows : List CrawlJob) :
    AllReconciled (rows.filterMap (InFlight.load .reconcile now)) := by
  intro held hheld
  obtain ⟨row, -, hload⟩ := List.mem_filterMap.mp hheld
  exact (InFlight.load_eq_some hload).1

/-- An unhindered statement of a request leaves it sound. -/
theorem sound_proceed (hkeyed : tables.Keyed) (hsound : stage.Sound) (hnumbered : stage.Numbered sqlite tables)
    (hunhindered : stage.Unhindered sqlite tables)
    (horiginals : ∀ pair ∈ stage.originals, IsOriginal tables.jobs pair.1 pair.2)
    (hloaded : ∀ creation jobId, stage = .loadSnapshot creation jobId → ∃ job ∈ tables.jobs, job.id = jobId) :
    (tables.proceed sqlite now stage).2.Sound := by
  cases stage with
  | loadOriginal originalJobId retry =>
    simp only [Tables.proceed, Stage.checkOriginal]
    split
    · trivial
    · split
      · trivial
      · split <;> trivial
  | loadSource original retry =>
    simp only [Tables.proceed]
    split <;> trivial
  | loadRetry original source retry =>
    simp only [Tables.proceed]
    split
    · trivial
    · exact sound_create _
  | loadCandidates source => exact sound_nextCandidate _
  | loadRetried source candidate candidates =>
    simp only [Tables.proceed]
    split
    · exact sound_nextCandidate candidates
    · split <;> exact sound_create _
  | reconcile source creation => exact ⟨hsound.1, hsound.2, allReconciled_load _⟩
  | checkActive source creation expired =>
    simp only [Tables.proceed]
    split
    · exact fun _ ↦ Or.inr ⟨source, _, rfl⟩
    · exact sound_ensureSourceSite hsound.2.1 hsound.2.2
  | findSource creation expired queries =>
    cases queries with
    | nil =>
      have hnone : ¬ creation.args.retryOfJobId.isSome := by
        rw [hunhindered]
        decide
      simp only [Tables.proceed]
      split
      · exact sound_integrityError fun hretry ↦ absurd hretry hnone
      · exact ⟨hsound.1, hsound.2, fun hretry ↦ absurd hretry hnone⟩
    | cons query queries =>
      simp only [Tables.proceed]
      split
      · rename_i row hfound
        refine ⟨hsound.1, hsound.2, fun hretry ↦ ⟨_, _, rfl, ?_⟩⟩
        have hown := hunhindered hretry row (Option.mem_toList.mpr hfound)
        obtain ⟨source, hsource, hid⟩ := Option.map_eq_some_iff.mp hown
        have hobject : creation.sourceObject row = source := by
          rw [Creation.sourceObject, hsource, Option.filter_some, if_pos (decide_eq_true hid)]
          rfl
        rw [hobject, hsource]
        rfl
      · exact hsound
  | nameSource creation expired found =>
    obtain ⟨hcreation, hexpired, hown⟩ := hsound
    have hsite (current : SourceSite) : creation.OwnSite (.found found current) := by
      intro hretry
      obtain ⟨loaded, other, heq, hid⟩ := hown hretry
      obtain ⟨rfl, -⟩ := Site.found.inj heq
      exact ⟨found, current, rfl, hid⟩
    simp only [Tables.proceed]
    split
    · exact ⟨hcreation, hexpired, hsite _⟩
    · exact ⟨hcreation, hexpired, hsite _⟩
  | findOriginal creation expired site =>
    simp only [Tables.proceed]
    split
    · exact hsound
    · rename_i originalJobId hretry
      split
      · exact hsound
      · rename_i hmissing
        have hretries : creation.args.retryOfJobId.isSome := by
          rw [hretry]
          rfl
        obtain ⟨source, hsource⟩ := Option.isSome_iff_exists.mp (hsound.1 hretries).1
        have hpair : (originalJobId, source.id) ∈ creation.originals := by simp [Creation.originals, hretry, hsource]
        obtain ⟨original, hmem, hid, -⟩ := horiginals _ hpair
        exact absurd (List.any_eq_true.mpr ⟨original, hmem, decide_eq_true hid⟩) hmissing
  | numberJob creation expired site => exact ⟨hsound.1, hsound.2.1, hsound.2.2, rfl, rfl⟩
  | insert creation expired site job =>
    simp only [Tables.proceed]
    split
    · rename_i constraint hbroken
      exact sound_insert_refused hkeyed hsound.1 hsound.2.2.1 hnumbered hunhindered hbroken
    · unfold Stage.inserted
      split <;> trivial
  | classify source creation message =>
    have hmessage : creation.args.retryOfJobId.isSome → isRetryOfJobIntegrityError message = true ∨
        isSourceActiveJobIntegrityError message = true := hsound
    have hactive (h : creation.args.retryOfJobId.isSome → isSourceActiveJobIntegrityError message) :
        (Stage.classifyActive source creation message).Sound := by
      unfold Stage.classifyActive
      split
      · trivial
      · rename_i hother
        exact fun hretry ↦ absurd (h hretry) hother
    simp only [Tables.proceed]
    split
    · rename_i hnone
      apply hactive
      intro hretry
      rw [hnone] at hretry
      cases hretry
    · rename_i originalJobId hretry
      split
      · exact fun _ ↦ Or.inl ⟨originalJobId, _, rfl⟩
      · split
        · exact fun _ ↦ Or.inl ⟨originalJobId, _, rfl⟩
        · rename_i hother
          have hclassified : creation.args.retryOfJobId.isSome → isSourceActiveJobIntegrityError message = true :=
            fun hsome ↦ (hmessage hsome).resolve_left hother
          dsimp only
          exact hactive hclassified
  | reportActive source creation => exact fun _ ↦ Or.inr ⟨source, _, rfl⟩
  | loadSnapshot creation jobId =>
    simp only [Tables.proceed]
    split
    · trivial
    · rename_i hmissing
      obtain ⟨job, hjob, hid⟩ := hloaded creation jobId rfl
      exact absurd (decide_eq_true hid) (by simpa using List.find?_eq_none.mp hmissing job hjob)
  | created | rejected => trivial
  | refused creation error => exact hsound

end Statements

end TenderPhase1.Trigger
