import TenderPhase1.Sources.SchedulePostponement

/-!
# The scheduler agrees with the sources

After a synchronisation the scheduler holds a job for a source exactly if the source is to be
scheduled, at the interval of the source, and the row has the next time of that job. Restoring does
this for every source and drops the jobs of sources that are gone.
-/

namespace TenderPhase1.Sources

open Jobs PyText

def sourcePendingDispatchJobId : String := "crawl_job_dispatch_runtime::dispatch_pending"

/-- What the scheduler and the row of a source have to say to each other. -/
def Agrees (scheduler : Scheduler) (source : SourceSite) : Prop :=
  if source.isActive ∧ source.scheduleEnabled ∧ source.scheduleDays ∈ scheduleDayOptions then
    ∃ job, scheduler (jobId source.code) = some job ∧ job.interval = days source.scheduleDays ∧
      source.nextScheduledRunAt = some job.nextRunTime
  else scheduler (jobId source.code) = none ∧ source.nextScheduledRunAt = none

/-! ## One source -/

section OneSource

variable {scheduler other : Scheduler} {source : SourceSite} {now : Instant}

/-- The job that a synchronisation leaves for a source for which it has found `held`. -/
def syncedJob (held : Option ScheduledJob) (source : SourceSite) (now : Instant) : Option ScheduledJob :=
  if shouldSchedule source then
    some ((held.filter (jobMatchesSource · source)).getD
      ⟨days source.scheduleDays, resolveNextRunTime source source.scheduleDays now⟩)
  else none

theorem syncSourceInSession_fst (scheduler : Scheduler) (source : SourceSite) (now : Instant) :
    (syncSourceInSession scheduler source now).1 (jobId source.code) =
      syncedJob (scheduler (jobId source.code)) source now := by
  unfold syncSourceInSession syncedJob
  extract_lets id
  by_cases hshould : shouldSchedule source
  · rw [if_pos hshould, if_pos hshould]
    cases hjob : (scheduler id).filter (jobMatchesSource · source) with
    | none => exact Function.update_self _ _ _
    | some job =>
      obtain ⟨hheld, -⟩ := Option.filter_eq_some_iff.mp hjob
      exact hheld
  · rw [if_neg hshould, if_neg hshould]
    exact Function.update_self _ _ _

/-- The time that is stored is the one of the job that is left. -/
theorem syncedTime_eq (scheduler : Scheduler) (source : SourceSite) (now : Instant) :
    syncedTime scheduler source now =
      (syncedJob (scheduler (jobId source.code)) source now).map ScheduledJob.nextRunTime := by
  unfold syncedTime syncedJob matchingJob
  split
  · cases (scheduler (jobId source.code)).filter (jobMatchesSource · source) <;> rfl
  · rfl

theorem interval_syncedJob {held : Option ScheduledJob} {job : ScheduledJob} (h : syncedJob held source now = some job) :
    job.interval = days source.scheduleDays := by
  unfold syncedJob at h
  split at h
  · rw [← Option.some.inj h]
    cases hjob : held.filter (jobMatchesSource · source) with
    | none => rfl
    | some kept =>
      obtain ⟨-, hmatches⟩ := Option.filter_eq_some_iff.mp hjob
      exact of_decide_eq_true hmatches
  · cases h

theorem agrees_of_syncedJob {held : Option ScheduledJob}
    (h : scheduler (jobId source.code) = syncedJob held source now) :
    Agrees scheduler
      { source with nextScheduledRunAt := (syncedJob held source now).map ScheduledJob.nextRunTime } := by
  by_cases hshould : shouldSchedule source
  · refine (if_pos (shouldSchedule_eq_true_iff.mp hshould)).mpr ?_
    obtain ⟨job, hjob⟩ : ∃ job, syncedJob held source now = some job := ⟨_, if_pos hshould⟩
    have hinterval : job.interval = days source.scheduleDays := interval_syncedJob hjob
    exact ⟨job, h.trans hjob, hinterval, congrArg (Option.map ScheduledJob.nextRunTime) hjob⟩
  · have hnone : syncedJob held source now = none := if_neg hshould
    refine (if_neg fun hcolumns ↦ hshould (shouldSchedule_eq_true_iff.mpr hcolumns)).mpr ?_
    exact ⟨h.trans hnone, congrArg (Option.map ScheduledJob.nextRunTime) hnone⟩

end OneSource

/-! ## The jobs that the loop leaves -/

section Loop

variable {restored : Scheduler × SourceTable} {source : SourceSite} {now : Instant}

theorem scheduler_syncSources_of_not_mem {id : String} (sources : List SourceSite)
    (hid : id ∉ sources.map fun source ↦ jobId source.code) :
    (syncSources now restored sources).1 id = restored.1 id := by
  induction sources generalizing restored with
  | nil => rfl
  | cons first rest ih =>
    simp only [List.map_cons, List.mem_cons, not_or] at hid
    calc (syncSources now restored (first :: rest)).1 id
        = (syncSourceInSession restored.1 first now).1 id := ih hid.2
      _ = restored.1 id := syncSourceInSession_fst_of_ne hid.1

/-- The codes differ, so the job of a source is left by the source's own turn. -/
theorem scheduler_syncSources (sources : List SourceSite) (hcodes : (sources.map SourceSite.code).Nodup)
    (hmem : source ∈ sources) :
    (syncSources now restored sources).1 (jobId source.code) =
      syncedJob (restored.1 (jobId source.code)) source now := by
  induction sources generalizing restored with
  | nil => exact absurd hmem List.not_mem_nil
  | cons first rest ih =>
    rw [List.map_cons, List.nodup_cons] at hcodes
    rcases List.mem_cons.mp hmem with rfl | hrest
    · have hlater : jobId source.code ∉ rest.map fun other ↦ jobId other.code := by
        intro hlater
        obtain ⟨other, hother, hcode⟩ := List.mem_map.mp hlater
        exact hcodes.1 (jobId_injective hcode ▸ List.mem_map_of_mem hother)
      calc (syncSources now restored (source :: rest)).1 (jobId source.code)
          = (syncSourceInSession restored.1 source now).1 (jobId source.code) :=
            scheduler_syncSources_of_not_mem rest hlater
        _ = syncedJob (restored.1 (jobId source.code)) source now := syncSourceInSession_fst restored.1 source now
    · have hne : jobId source.code ≠ jobId first.code := by
        intro heq
        exact hcodes.1 (jobId_injective heq ▸ List.mem_map_of_mem hrest)
      calc (syncSources now restored (first :: rest)).1 (jobId source.code)
          = syncedJob ((syncSourceInSession restored.1 first now).1 (jobId source.code)) source now :=
            ih hcodes.2 hrest
        _ = syncedJob (restored.1 (jobId source.code)) source now := by rw [syncSourceInSession_fst_of_ne hne]

theorem ids_set (table : SourceTable) (changed : SourceSite) :
    (table.set changed).rows.map SourceSite.id = table.rows.map SourceSite.id := by
  change (table.rows.map _).map SourceSite.id = _
  rw [List.map_map]
  apply List.map_congr_left
  intro row _
  rw [Function.comp_apply]
  split <;> rfl

theorem ids_syncSources (sources : List SourceSite) :
    (syncSources now restored sources).2.rows.map SourceSite.id = restored.2.rows.map SourceSite.id := by
  induction sources generalizing restored with
  | nil => rfl
  | cons first rest ih => exact ih.trans (ids_set _ _)

end Loop

/-! ## What a restoration and a synchronisation leave -/

section Calls

variable {scheduler : Scheduler} {table : SourceTable} {source : SourceSite} {now : Instant}

theorem startsWith_jobId (code : String) : startsWith (jobId code) sourceScheduleJobPrefix = true :=
  startsWith_append sourceScheduleJobPrefix code

/-- The job of a source is not stale. -/
theorem scheduler_restoreFromDb (hmem : source ∈ table.rows) :
    (restoreFromDb scheduler table now).1 (jobId source.code) =
      syncedJob (scheduler (jobId source.code)) source now := by
  have hactive : jobId source.code ∈ (table.rows.map SourceSite.code).map jobId :=
    List.mem_map_of_mem (List.mem_map_of_mem hmem)
  calc (restoreFromDb scheduler table now).1 (jobId source.code)
      = (syncSources now (scheduler, table) table.rows).1 (jobId source.code) :=
        if_neg fun hstale ↦ hstale.2.2 hactive
    _ = syncedJob (scheduler (jobId source.code)) source now := scheduler_syncSources table.rows table.codes_nodup hmem

/-- A row after the restoration is a row before it, with another next time. -/
theorem mem_restoreFromDb (h : source ∈ (restoreFromDb scheduler table now).2.rows) :
    ∃ before ∈ table.rows, source = { before with nextScheduledRunAt := syncedTime scheduler before now } := by
  have hids : source.id ∈ table.rows.map SourceSite.id := by
    have hkept : (syncSources now (scheduler, table) table.rows).2.rows.map SourceSite.id = table.rows.map SourceSite.id :=
      ids_syncSources table.rows
    exact hkept ▸ List.mem_map_of_mem h
  obtain ⟨before, hbefore, hid⟩ := List.mem_map.mp hids
  have hfind : (restoreFromDb scheduler table now).2.find before.id =
      some { before with nextScheduledRunAt := syncedTime scheduler before now } :=
    find_restoreFromDb (SourceTable.find_eq_some_iff.mpr ⟨hbefore, rfl⟩)
  have hsource : (restoreFromDb scheduler table now).2.find before.id = some source :=
    SourceTable.find_eq_some_iff.mpr ⟨h, hid.symm⟩
  exact ⟨before, hbefore, Option.some.inj (hsource.symm.trans hfind)⟩

theorem scheduler_restoreFromDb_of_not_startsWith {id : String} (hid : startsWith id sourceScheduleJobPrefix = false) :
    (restoreFromDb scheduler table now).1 id = scheduler id := by
  have hnot : id ∉ table.rows.map fun source ↦ jobId source.code := by
    intro hmem
    obtain ⟨source, -, rfl⟩ := List.mem_map.mp hmem
    rw [startsWith_jobId] at hid
    cases hid
  calc (restoreFromDb scheduler table now).1 id
      = (syncSources now (scheduler, table) table.rows).1 id := by
        refine if_neg fun hstale ↦ ?_
        rw [hid] at hstale
        exact absurd hstale.2.1 (by decide)
    _ = scheduler id := scheduler_syncSources_of_not_mem table.rows hnot

/-- The refresh job has an id of its own. -/
theorem scheduler_restoreFromDb_of_missing {code : String} (hcode : code ∉ table.rows.map SourceSite.code) :
    (restoreFromDb scheduler table now).1 (jobId code) = none := by
  refine if_pos ⟨?_, startsWith_jobId code, ?_⟩
  · intro heq
    have hstarts := startsWith_jobId code
    rw [heq] at hstarts
    exact absurd hstarts (by decide)
  · intro hactive
    obtain ⟨active, hactive, heq⟩ := List.mem_map.mp hactive
    exact hcode (jobId_injective heq ▸ hactive)

end Calls

/-! ## Agreement -/

/-- The row is the one of the source, but for the next time. -/
def SameSource (source synced : SourceSite) : Prop :=
  synced = { source with nextScheduledRunAt := synced.nextScheduledRunAt }

/-- What a restoration leaves: every source agrees with the scheduler, and the scheduler has jobs of no
other source and the two jobs of the runtime that it had. -/
structure RestoredAgreement (before after : Scheduler × SourceTable) : Prop where
  covered : ∀ source ∈ before.2.rows, ∃ synced ∈ after.2.rows, SameSource source synced
  agrees : ∀ source ∈ after.2.rows, Agrees after.1 source
  missing : ∀ code ∉ before.2.rows.map SourceSite.code, after.1 (jobId code) = none
  refreshJob : after.1 sourceScheduleRefreshJobId = before.1 sourceScheduleRefreshJobId
  dispatchJob : after.1 sourcePendingDispatchJobId = before.1 sourcePendingDispatchJobId

structure SyncedAgreement (code : String) (before after : Scheduler × SourceTable) : Prop where
  covered : ∀ source ∈ before.2.rows, source.code = code → ∃ synced ∈ after.2.rows, SameSource source synced
  agrees : ∀ source ∈ after.2.rows, source.code = code → Agrees after.1 source
  missing : code ∉ before.2.rows.map SourceSite.code → after.1 (jobId code) = none
  otherSources : ∀ source : SourceSite, source.code ≠ code → (source ∈ after.2.rows ↔ source ∈ before.2.rows)
  otherJobs : ∀ id ≠ jobId code, after.1 id = before.1 id
  refreshJob : after.1 sourceScheduleRefreshJobId = before.1 sourceScheduleRefreshJobId
  dispatchJob : after.1 sourcePendingDispatchJobId = before.1 sourcePendingDispatchJobId

section Agreement

variable (scheduler : Scheduler) (table : SourceTable) (code : String) (now : Instant)

theorem restoredAgreement : RestoredAgreement (scheduler, table) (restoreFromDb scheduler table now) where
  covered source hmem := by
    have hfind : (restoreFromDb scheduler table now).2.find source.id =
        some { source with nextScheduledRunAt := syncedTime scheduler source now } :=
      find_restoreFromDb (SourceTable.find_eq_some_iff.mpr ⟨hmem, rfl⟩)
    exact ⟨_, (SourceTable.find_eq_some_iff.mp hfind).1, rfl⟩
  agrees source hmem := by
    obtain ⟨before, hbefore, rfl⟩ := mem_restoreFromDb hmem
    rw [syncedTime_eq]
    exact agrees_of_syncedJob (scheduler_restoreFromDb hbefore)
  missing code hcode := scheduler_restoreFromDb_of_missing hcode
  refreshJob := scheduler_restoreFromDb_of_not_startsWith (by decide)
  dispatchJob := scheduler_restoreFromDb_of_not_startsWith (by decide)

variable {scheduler table code now} in
theorem syncSource_otherJobs {id : String} (hid : id ≠ jobId code) :
    (syncSource scheduler table code now).1 id = scheduler id := by
  unfold syncSource
  cases hcode : table.getModelByCode code with
  | none => exact Function.update_of_ne hid _ _
  | some source =>
    have hsource := (SourceTable.mem_of_getModelByCode hcode).2
    exact syncSourceInSession_fst_of_ne (hsource ▸ hid)

theorem ne_jobId {id : String} (hid : startsWith id sourceScheduleJobPrefix = false) : id ≠ jobId code := by
  rintro rfl
  rw [startsWith_jobId] at hid
  cases hid

/-- The synchronisation of one source makes scheduler and table agree on it. -/
theorem syncedAgreement : SyncedAgreement code (scheduler, table) (syncSource scheduler table code now) := by
  have hother : ∀ id ≠ jobId code, (syncSource scheduler table code now).1 id = scheduler id :=
    fun _ ↦ syncSource_otherJobs
  have hrefresh := hother sourceScheduleRefreshJobId (ne_jobId code (by decide))
  have hdispatch := hother sourcePendingDispatchJobId (ne_jobId code (by decide))
  cases hcode : table.getModelByCode code with
  | none =>
    have hmissing : ∀ source ∈ table.rows, source.code ≠ code := by
      intro source hmem heq
      rw [← heq, SourceTable.getModelByCode_of_mem hmem] at hcode
      cases hcode
    have hsynced : syncSource scheduler table code now = (scheduler.removeJobIfExists (jobId code), table) := by
      unfold syncSource
      rw [hcode]
    rw [hsynced] at hrefresh hdispatch hother ⊢
    exact
      { covered := fun source hmem heq ↦ absurd heq (hmissing source hmem)
        agrees := fun source hmem heq ↦ absurd heq (hmissing source hmem)
        missing := fun _ ↦ Function.update_self _ _ _
        otherSources := fun _ _ ↦ Iff.rfl
        otherJobs := hother
        refreshJob := hrefresh
        dispatchJob := hdispatch }
  | some source =>
    obtain ⟨hmem, rfl⟩ := SourceTable.mem_of_getModelByCode hcode
    have hsynced : syncSource scheduler table source.code now =
        ((syncSourceInSession scheduler source now).1, table.set (syncSourceInSession scheduler source now).2) := by
      unfold syncSource
      rw [hcode]
    have hfind : (syncSource scheduler table source.code now).2.find source.id =
        some { source with nextScheduledRunAt := syncedTime scheduler source now } :=
      find_syncSource scheduler source (SourceTable.find_eq_some_iff.mpr ⟨hmem, rfl⟩)
    have hrow := (SourceTable.find_eq_some_iff.mp hfind).1
    have hsame (row : SourceSite) (hrowMem : row ∈ table.rows) (heq : row.code = source.code) : row = source :=
      List.inj_on_of_nodup_map table.codes_nodup hrowMem hmem heq
    exact
      { covered := fun row hrowMem heq ↦ ⟨_, hrow, hsame row hrowMem heq ▸ rfl⟩
        agrees := by
          intro row hrowMem heq
          have hunique : row = { source with nextScheduledRunAt := syncedTime scheduler source now } :=
            List.inj_on_of_nodup_map (syncSource scheduler table source.code now).2.codes_nodup hrowMem hrow heq
          rw [hunique, syncedTime_eq]
          apply agrees_of_syncedJob
          rw [hsynced]
          exact syncSourceInSession_fst scheduler source now
        missing := fun hmissing ↦ absurd (List.mem_map_of_mem hmem) hmissing
        otherSources := by
          intro row hne
          rw [hsynced, SourceTable.mem_rows_set, syncSourceInSession_snd]
          constructor
          · rintro ⟨stored, hstored, rfl⟩
            split at hne
            · rename_i hid
              have hstoredSource : stored = source := List.inj_on_of_nodup_map table.ids_nodup hstored hmem hid
              exact absurd (congrArg SourceSite.code hstoredSource) hne
            · rename_i hid
              rw [if_neg hid]
              exact hstored
          · intro hrowMem
            refine ⟨row, hrowMem, if_neg fun hid ↦ ?_⟩
            exact hne (congrArg SourceSite.code (List.inj_on_of_nodup_map table.ids_nodup hrowMem hmem hid))
        otherJobs := hother
        refreshJob := hrefresh
        dispatchJob := hdispatch }

/-- Whatever the table holds and whatever earlier calls have left in the scheduler, the two agree after
every restoration and every synchronisation. -/
theorem schedulesAgree :
    RestoredAgreement (scheduler, table) (restoreFromDb scheduler table now) ∧
      SyncedAgreement code (scheduler, table) (syncSource scheduler table code now) :=
  ⟨restoredAgreement scheduler table now, syncedAgreement scheduler table code now⟩

end Agreement

end TenderPhase1.Sources
