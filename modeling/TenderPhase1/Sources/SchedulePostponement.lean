import Mathlib.Order.MinMax
import TenderPhase1.Foundation.Transition
import TenderPhase1.Sources.ScheduleRuntime

/-!
# When the next automatic crawl is put off

A synchronisation by the runtime keeps the time of the job that it holds for the source, and a new
job takes a stored time that is not yet past. A save computes the time anew from the clock. It
stands if no runtime of the same process has a job to restore it from, and then the next crawl is a
whole period away again.
-/

namespace TenderPhase1.Sources

open Jobs PyText Transition

/-! ## The source table -/

namespace SourceTable

variable {table : SourceTable} {source other changed : SourceSite} {id : ℕ} {code : String}

theorem find_eq_some_iff : table.find id = some source ↔ source ∈ table.rows ∧ source.id = id := by
  unfold find
  constructor
  · intro h
    have hid : source.id = id := by simpa using List.find?_some h
    exact ⟨List.mem_of_find?_eq_some h, hid⟩
  · rintro ⟨hmem, hid⟩
    cases hfind : table.rows.find? (·.id = id) with
    | none => exact absurd hid (by simpa using List.find?_eq_none.mp hfind source hmem)
    | some found =>
      have hfound : found.id = source.id := by
        rw [hid]
        simpa using List.find?_some hfind
      rw [List.inj_on_of_nodup_map table.ids_nodup (List.mem_of_find?_eq_some hfind) hmem hfound]

theorem mem_of_getModelByCode (h : table.getModelByCode code = some source) :
    source ∈ table.rows ∧ source.code = code := by
  have hcode : source.code = code := by simpa using List.find?_some h
  exact ⟨List.mem_of_find?_eq_some h, hcode⟩

theorem getModelByCode_of_mem (hmem : source ∈ table.rows) : table.getModelByCode source.code = some source := by
  unfold getModelByCode
  cases hfind : table.rows.find? (·.code = source.code) with
  | none => simpa using List.find?_eq_none.mp hfind source hmem
  | some found =>
    have hfound : found.code = source.code := by simpa using List.find?_some hfind
    rw [List.inj_on_of_nodup_map table.codes_nodup (List.mem_of_find?_eq_some hfind) hmem hfound]

theorem mem_rows_set :
    other ∈ (table.set changed).rows ↔
      ∃ row ∈ table.rows,
        (if row.id = changed.id then { changed with id := row.id, code := row.code } else row) = other :=
  List.mem_map

/-- The changed row is found with its new columns. -/
theorem find_set (hfind : table.find id = some source) (hid : changed.id = source.id)
    (hcode : changed.code = source.code) : (table.set changed).find id = some changed := by
  obtain ⟨hmem, rfl⟩ := find_eq_some_iff.mp hfind
  rw [find_eq_some_iff, mem_rows_set, hid]
  refine ⟨⟨source, hmem, ?_⟩, rfl⟩
  rw [if_pos rfl, ← hid, ← hcode]

theorem find_set_of_ne (hne : changed.id ≠ id) : (table.set changed).find id = table.find id := by
  ext source
  rw [find_eq_some_iff, find_eq_some_iff, mem_rows_set]
  constructor
  · rintro ⟨⟨row, hrow, rfl⟩, hid⟩
    split at hid
    · have hrow : row.id = id := hid
      exact absurd (by omega) hne
    · rw [if_neg ‹_›]
      exact ⟨hrow, hid⟩
  · rintro ⟨hmem, hid⟩
    refine ⟨⟨source, hmem, ?_⟩, hid⟩
    rw [if_neg (by omega)]

end SourceTable

/-! ## One synchronisation -/

section Synchronisation

variable {scheduler other : Scheduler} {source : SourceSite} {now : Instant}

/-- The job the scheduler holds for the source at the source's interval. -/
def matchingJob (scheduler : Scheduler) (source : SourceSite) : Option ScheduledJob :=
  (scheduler (jobId source.code)).filter (jobMatchesSource · source)

def syncedTime (scheduler : Scheduler) (source : SourceSite) (now : Instant) : Option Instant :=
  if shouldSchedule source then
    some ((matchingJob scheduler source).elim (resolveNextRunTime source source.scheduleDays now)
      ScheduledJob.nextRunTime)
  else none

theorem syncSourceInSession_snd (scheduler : Scheduler) (source : SourceSite) (now : Instant) :
    (syncSourceInSession scheduler source now).2 =
      { source with nextScheduledRunAt := syncedTime scheduler source now } := by
  unfold syncSourceInSession syncedTime
  by_cases hshould : shouldSchedule source
  · simp only [hshould, ↓reduceIte]
    cases hjob : matchingJob scheduler source with
    | none =>
      unfold matchingJob at hjob
      simp [hjob, Scheduler.addJob]
    | some job =>
      unfold matchingJob at hjob
      simp [hjob]
  · simp [hshould]

/-- A synchronisation touches no job but the source's own. -/
theorem syncSourceInSession_fst_of_ne {id : String} (hne : id ≠ jobId source.code) :
    (syncSourceInSession scheduler source now).1 id = scheduler id := by
  unfold syncSourceInSession
  extract_lets own
  split
  · split
    · rfl
    · exact Function.update_of_ne hne _ _
  · exact Function.update_of_ne hne _ _

theorem jobId_injective : Function.Injective jobId := by
  intro code other h
  have hchars := congrArg String.toList h
  simp only [jobId, String.toList_append] at hchars
  exact String.toList_injective (List.append_cancel_left hchars)

theorem syncedTime_congr (h : scheduler (jobId source.code) = other (jobId source.code)) :
    syncedTime scheduler source now = syncedTime other source now := by
  unfold syncedTime matchingJob
  rw [h]

theorem shouldSchedule_eq_true_iff :
    shouldSchedule source = true ↔
      source.isActive = true ∧ source.scheduleEnabled = true ∧ source.scheduleDays ∈ scheduleDayOptions := by
  simp [shouldSchedule, and_assoc]

theorem days_pos (h : shouldSchedule source) : 0 < days source.scheduleDays := by
  have hoption : source.scheduleDays ∈ scheduleDayOptions := (shouldSchedule_eq_true_iff.mp h).2.2
  unfold scheduleDayOptions at hoption
  have hpositive : 0 < source.scheduleDays := by
    simp only [List.mem_cons, List.not_mem_nil, or_false] at hoption
    omega
  have hseconds : 0 < source.scheduleDays * 86400 * 1000000 := by omega
  exact hseconds

/-- A stored time becomes the later of itself and the clock. -/
theorem resolveNextRunTime_of_some {previous : Instant} (h : source.nextScheduledRunAt = some previous) (dayCount : ℤ) :
    resolveNextRunTime source dayCount now = max previous now := by
  unfold resolveNextRunTime
  rw [h]
  dsimp only
  split
  · exact (max_eq_right ‹_›).symm
  · exact (max_eq_left (le_of_not_ge ‹_›)).symm

theorem calculateNextScheduledRun_eq (source : SourceSite) (now : Instant) :
    calculateNextScheduledRun source.scheduleEnabled source.scheduleDays source.isActive now =
      if shouldSchedule source then some (now + days source.scheduleDays) else none := by
  unfold calculateNextScheduledRun shouldSchedule
  cases source.isActive <;> cases source.scheduleEnabled <;> cases scheduleDayOptions.contains source.scheduleDays <;>
    rfl

end Synchronisation

/-! ## Restoring every source -/

section Restoring

variable {restored : Scheduler × SourceTable} {source : SourceSite} {now : Instant}

theorem find_syncSources_of_not_mem {id : ℕ} (sources : List SourceSite) (hid : id ∉ sources.map SourceSite.id) :
    (syncSources now restored sources).2.find id = restored.2.find id := by
  induction sources generalizing restored with
  | nil => rfl
  | cons first rest ih =>
    simp only [List.map_cons, List.mem_cons, not_or] at hid
    calc (syncSources now restored (first :: rest)).2.find id
        = (restored.2.set (syncSourceInSession restored.1 first now).2).find id := ih hid.2
      _ = restored.2.find id := by
        apply SourceTable.find_set_of_ne
        rw [syncSourceInSession_snd]
        exact Ne.symm hid.1

/-- Every loaded source gets the time that a synchronisation with the restored scheduler gives it,
as the sources before it have other codes. -/
theorem find_syncSources (sources : List SourceSite) (hids : (sources.map SourceSite.id).Nodup)
    (hcodes : (sources.map SourceSite.code).Nodup) (hmem : source ∈ sources)
    (hfind : restored.2.find source.id = some source) :
    (syncSources now restored sources).2.find source.id =
      some { source with nextScheduledRunAt := syncedTime restored.1 source now } := by
  induction sources generalizing restored with
  | nil => exact absurd hmem List.not_mem_nil
  | cons first rest ih =>
    rw [List.map_cons, List.nodup_cons] at hids hcodes
    rcases List.mem_cons.mp hmem with rfl | hrest
    · calc (syncSources now restored (source :: rest)).2.find source.id
          = (restored.2.set (syncSourceInSession restored.1 source now).2).find source.id :=
            find_syncSources_of_not_mem rest hids.1
        _ = some (syncSourceInSession restored.1 source now).2 := by
          apply SourceTable.find_set hfind <;> rw [syncSourceInSession_snd]
        _ = _ := by rw [syncSourceInSession_snd]
    · have hid : first.id ≠ source.id := by
        intro heq
        exact hids.1 (heq ▸ List.mem_map_of_mem hrest)
      have hcode : jobId source.code ≠ jobId first.code := by
        intro heq
        exact hcodes.1 (jobId_injective heq ▸ List.mem_map_of_mem hrest)
      have hkept : (restored.2.set (syncSourceInSession restored.1 first now).2).find source.id = some source := by
        rw [SourceTable.find_set_of_ne (by rw [syncSourceInSession_snd]; exact hid), hfind]
      calc (syncSources now restored (first :: rest)).2.find source.id
          = some { source with
              nextScheduledRunAt := syncedTime (syncSourceInSession restored.1 first now).1 source now } :=
            ih hids.2 hcodes.2 hrest hkept
        _ = _ := by rw [syncedTime_congr (syncSourceInSession_fst_of_ne hcode)]

theorem find_restoreFromDb {scheduler : Scheduler} {table : SourceTable} (hfind : table.find source.id = some source) :
    (restoreFromDb scheduler table now).2.find source.id =
      some { source with nextScheduledRunAt := syncedTime scheduler source now } := by
  have hmem := (SourceTable.find_eq_some_iff.mp hfind).1
  exact find_syncSources table.rows table.ids_nodup table.codes_nodup hmem hfind

end Restoring

/-! ## One event -/

section Events

variable {Process : Type*} [DecidableEq Process] {state : ScheduleState Process} {process : Process}
  {source : SourceSite} {now : Instant} {outcome : SyncOutcome}

/-- The job that a synchronisation in the process takes the source's time from. A session that does
not commit takes it from none. -/
def ScheduleState.heldJob (state : ScheduleState Process) (process : Process) (outcome : SyncOutcome)
    (source : SourceSite) : Option ScheduledJob :=
  if outcome = .committed then (state.runtimes process).bind (matchingJob · source) else none

theorem sources_settle (synced : Scheduler × SourceTable) :
    (state.settle process outcome synced).sources = if outcome = .committed then synced.2 else state.sources := by
  cases outcome <;> rfl

theorem find_syncSource (scheduler : Scheduler) (source : SourceSite) {table : SourceTable}
    (hfind : table.find source.id = some source) :
    (syncSource scheduler table source.code now).2.find source.id =
      some { source with nextScheduledRunAt := syncedTime scheduler source now } := by
  have hmem := (SourceTable.find_eq_some_iff.mp hfind).1
  unfold syncSource
  rw [SourceTable.getModelByCode_of_mem hmem]
  dsimp only
  rw [SourceTable.find_set hfind (by rw [syncSourceInSession_snd]) (by rw [syncSourceInSession_snd]),
    syncSourceInSession_snd]

theorem find_syncSource_of_ne {scheduler : Scheduler} {table : SourceTable} {id : ℕ} {code : String}
    (hne : ∀ other ∈ table.getModelByCode code, other.id ≠ id) :
    (syncSource scheduler table code now).2.find id = table.find id := by
  unfold syncSource
  cases hcode : table.getModelByCode code with
  | none => rfl
  | some other =>
    apply SourceTable.find_set_of_ne
    rw [syncSourceInSession_snd]
    exact hne other hcode

def recomputed (source : SourceSite) (now : Instant) : SourceSite :=
  { source with
    nextScheduledRunAt := calculateNextScheduledRun source.scheduleEnabled source.scheduleDays source.isActive now }

def ScheduleState.savedTime (state : ScheduleState Process) (process : Process) (outcome : SyncOutcome)
    (source : SourceSite) (now : Instant) : Option Instant :=
  if shouldSchedule source then
    some ((state.heldJob process outcome source).elim (now + days source.scheduleDays) ScheduledJob.nextRunTime)
  else none

/-- After the save the runtime finds a time that is not past, so a job that it adds keeps it. -/
theorem syncedTime_recomputed (scheduler : Scheduler) (source : SourceSite) (now : Instant) :
    syncedTime scheduler (recomputed source now) now =
      if shouldSchedule source then
        some ((matchingJob scheduler source).elim (now + days source.scheduleDays) ScheduledJob.nextRunTime)
      else none := by
  change (if shouldSchedule source then
      some ((matchingJob scheduler source).elim (resolveNextRunTime (recomputed source now) source.scheduleDays now)
        ScheduledJob.nextRunTime)
    else none) = _
  by_cases hshould : shouldSchedule source
  · have hlater : max (now + days source.scheduleDays) now = now + days source.scheduleDays := by
      apply max_eq_left
      exact Int.le_add_of_nonneg_right (Int.le_of_lt (days_pos hshould))
    have hstored : (recomputed source now).nextScheduledRunAt = some (now + days source.scheduleDays) := by
      unfold recomputed
      rw [calculateNextScheduledRun_eq, if_pos hshould]
    rw [resolveNextRunTime_of_some hstored, hlater]
  · rw [if_neg hshould, if_neg hshould]

/-- A synchronisation stores the saved time in the row of its source. -/
theorem find_syncSourceSchedule (state : ScheduleState Process) (source : SourceSite)
    (hfind : state.sources.find source.id = some source) :
    (state.syncSourceSchedule process source.code now outcome).sources.find source.id =
      some { source with nextScheduledRunAt := state.savedTime process outcome source now } := by
  have hmem := (SourceTable.find_eq_some_iff.mp hfind).1
  have hsaved : (state.sources.set (recomputed source now)).find source.id = some (recomputed source now) :=
    SourceTable.find_set hfind rfl rfl
  have hsynced (scheduler : Scheduler) :
      (syncSource scheduler (state.sources.set (recomputed source now)) source.code now).2.find source.id =
        some { source with nextScheduledRunAt := syncedTime scheduler (recomputed source now) now } :=
    find_syncSource scheduler (recomputed source now) hsaved
  unfold ScheduleState.syncSourceSchedule ScheduleState.savedTime ScheduleState.heldJob
  rw [SourceTable.getModelByCode_of_mem hmem]
  cases hruntime : state.runtimes process with
  | none =>
    simp only [hruntime, Option.bind_none, ite_self, Option.elim_none]
    rw [← calculateNextScheduledRun_eq]
    exact hsaved
  | some scheduler =>
    simp only [hruntime, Option.bind_some]
    rw [sources_settle]
    by_cases hcommitted : outcome = .committed
    · simp only [hcommitted, ↓reduceIte]
      rw [← syncedTime_recomputed]
      exact hsynced scheduler
    · simp only [hcommitted, ↓reduceIte, Option.elim_none]
      rw [← calculateNextScheduledRun_eq]
      exact hsaved

/-- It leaves the other rows alone. -/
theorem find_syncSourceSchedule_of_ne (state : ScheduleState Process) (other : SourceSite) {id : ℕ}
    (hmem : other ∈ state.sources.rows) (hne : other.id ≠ id) :
    (state.syncSourceSchedule process other.code now outcome).sources.find id = state.sources.find id := by
  have hsaved : (state.sources.set (recomputed other now)).find id = state.sources.find id :=
    SourceTable.find_set_of_ne hne
  have hrecomputed : (state.sources.set (recomputed other now)).getModelByCode other.code =
      some (recomputed other now) := by
    have hfind := SourceTable.find_eq_some_iff.mpr ⟨hmem, rfl⟩
    have hset : (state.sources.set (recomputed other now)).find other.id = some (recomputed other now) :=
      SourceTable.find_set hfind rfl rfl
    exact SourceTable.getModelByCode_of_mem (SourceTable.find_eq_some_iff.mp hset).1
  unfold ScheduleState.syncSourceSchedule
  rw [SourceTable.getModelByCode_of_mem hmem]
  cases hruntime : state.runtimes process with
  | none =>
    simp only [hruntime]
    exact hsaved
  | some scheduler =>
    simp only [hruntime]
    rw [sources_settle]
    split
    · rw [find_syncSource_of_ne]
      · exact hsaved
      · intro row hrow
        have hrow' : (state.sources.set (recomputed other now)).getModelByCode other.code = some row := hrow
        rw [hrecomputed, Option.some_inj] at hrow'
        rw [← hrow']
        exact hne
    · exact hsaved

/-- The stored time of the next automatic crawl of a source. -/
def ScheduleState.nextRunOf (state : ScheduleState Process) (id : ℕ) : Option Instant :=
  (state.sources.find id).bind SourceSite.nextScheduledRunAt

omit [DecidableEq Process] in
/-- Two sources that agree in the columns a schedule depends on are scheduled alike. -/
theorem savedTime_congr {changed : SourceSite} (hcode : changed.code = source.code)
    (hactive : changed.isActive = source.isActive) (henabled : changed.scheduleEnabled = source.scheduleEnabled)
    (hdays : changed.scheduleDays = source.scheduleDays) :
    state.savedTime process outcome changed now = state.savedTime process outcome source now := by
  unfold ScheduleState.savedTime ScheduleState.heldJob matchingJob shouldSchedule jobMatchesSource
  rw [hcode, hactive, henabled, hdays]

theorem mem_rows_of_updatedSource {table : SourceTable} {code : String}
    (h : table.updatedSource code = some source) : source ∈ table.rows := by
  obtain ⟨normalized, -, hsource⟩ := Option.bind_eq_some_iff.mp h
  exact (SourceTable.mem_of_getModelByCode hsource).1

/-- The edits that keep `is_active`, `schedule_enabled` and `schedule_days` of the source they save. -/
def ScheduleState.LeavesSchedule (state : ScheduleState Process) : ScheduleEvent Process → Prop
  | .edit _ code edit _ _ => ∀ source ∈ state.sources.updatedSource code,
      (edit.updates.apply source).isActive = source.isActive ∧
        (edit.updates.apply source).scheduleEnabled = source.scheduleEnabled ∧
        (edit.updates.apply source).scheduleDays = source.scheduleDays
  | .refresh _ _ _ | .start _ _ _ | .stop _ _ => True

/-- The next run of the source after a save -/
theorem nextRunOf_edit {code : String} {edit : SourceEdit} (hsource : state.sources.updatedSource code = some source)
    (hleaves : state.LeavesSchedule (.edit process code edit now outcome)) :
    (state.fire (.edit process code edit now outcome)).nextRunOf source.id =
      if edit.syncsSchedule then state.savedTime process outcome source now else source.nextScheduledRunAt := by
  have hfind := SourceTable.find_eq_some_iff.mpr ⟨mem_rows_of_updatedSource hsource, rfl⟩
  have hupdated : (state.sources.set (edit.updates.apply source)).find source.id = some (edit.updates.apply source) :=
    SourceTable.find_set hfind rfl rfl
  obtain ⟨hactive, henabled, hdays⟩ := hleaves source hsource
  unfold ScheduleState.nextRunOf
  simp only [ScheduleState.fire, hsource]
  by_cases hsyncs : edit.syncsSchedule
  · have hsynced : ((ScheduleState.mk (state.sources.set (edit.updates.apply source)) state.runtimes).syncSourceSchedule
          process source.code now outcome).sources.find source.id = _ :=
      find_syncSourceSchedule ⟨_, state.runtimes⟩ (edit.updates.apply source) hupdated
    simp only [hsyncs, ↓reduceIte]
    rw [hsynced, Option.bind_some]
    have hsame : (edit.updates.apply source).code = source.code := rfl
    exact savedTime_congr hsame hactive henabled hdays
  · simp only [hsyncs, Bool.false_eq_true, ↓reduceIte]
    rw [hupdated, Option.bind_some]
    rfl

/-- A save leaves the next runs of other sources alone. -/
theorem nextRunOf_edit_of_ne {code : String} {edit : SourceEdit} {id : ℕ}
    (hne : ∀ source ∈ state.sources.updatedSource code, source.id ≠ id) :
    (state.fire (.edit process code edit now outcome)).nextRunOf id = state.nextRunOf id := by
  unfold ScheduleState.nextRunOf
  cases hsource : state.sources.updatedSource code with
  | none => simp only [ScheduleState.fire, hsource]
  | some source =>
    have hid : source.id ≠ id := hne source hsource
    have hset : (state.sources.set (edit.updates.apply source)).find id = state.sources.find id :=
      SourceTable.find_set_of_ne hid
    have hfind := SourceTable.find_eq_some_iff.mpr ⟨mem_rows_of_updatedSource hsource, rfl⟩
    have hupdated : (state.sources.set (edit.updates.apply source)).find source.id = some (edit.updates.apply source) :=
      SourceTable.find_set hfind rfl rfl
    simp only [ScheduleState.fire, hsource]
    split
    · have hsynced : ((ScheduleState.mk (state.sources.set (edit.updates.apply source))
            state.runtimes).syncSourceSchedule process source.code now outcome).sources.find id = _ :=
        find_syncSourceSchedule_of_ne ⟨_, state.runtimes⟩ (edit.updates.apply source)
          (SourceTable.find_eq_some_iff.mp hupdated).1 hid
      rw [hsynced, hset]
    · rw [hset]

/-- A refresh that commits writes the synced time, where the process has a runtime. -/
theorem nextRunOf_refresh (hfind : state.sources.find source.id = some source) :
    (state.fire (.refresh process now outcome)).nextRunOf source.id =
      if outcome = .committed then
        (state.runtimes process).elim source.nextScheduledRunAt (syncedTime · source now)
      else source.nextScheduledRunAt := by
  unfold ScheduleState.nextRunOf
  cases hruntime : state.runtimes process with
  | none =>
    simp only [ScheduleState.fire, hruntime]
    rw [hfind, Option.elim_none, ite_self, Option.bind_some]
  | some scheduler =>
    simp only [ScheduleState.fire, hruntime, Option.elim_some]
    rw [sources_settle]
    split
    · rw [find_restoreFromDb hfind, Option.bind_some]
    · rw [hfind, Option.bind_some]

theorem nextRunOf_start (hfind : state.sources.find source.id = some source) :
    (state.fire (.start process now outcome)).nextRunOf source.id =
      if state.runtimes process = none ∧ outcome = .committed then syncedTime (fun _ ↦ none) source now
      else source.nextScheduledRunAt := by
  unfold ScheduleState.nextRunOf
  by_cases hfresh : state.runtimes process = none ∧ outcome = .committed
  · obtain ⟨hruntime, rfl⟩ := hfresh
    simp only [ScheduleState.fire, hruntime]
    rw [sources_settle, if_pos rfl, find_restoreFromDb hfind, Option.bind_some, if_pos ⟨trivial, trivial⟩]
  · have hsame : state.fire (.start process now outcome) = state := by
      simp only [ScheduleState.fire]
      split
      · exact absurd ⟨‹_›, rfl⟩ hfresh
      · rfl
    rw [hsame, hfind, Option.bind_some, if_neg hfresh]

end Events

/-! ## Runs -/

section Runs

variable {Process : Type*} [DecidableEq Process] {state : ScheduleState Process} {process : Process}
  {source : SourceSite} {now : Instant} {outcome : SyncOutcome}

/-- A stored time that was there and still is has at most been moved up to the clock. -/
def NotPostponed (before after : Option Instant) (now : Instant) : Prop :=
  ∀ previous ∈ before, ∀ next ∈ after, next ≤ max previous now

/-- An edit that recomputes the schedule of the source is made where the scheduler holds a job for it
that is not due later, or the stored time is a whole period away. A refresh takes the time from such
a job if it finds one; the start of a runtime finds none. -/
def ScheduleState.Timely (state : ScheduleState Process) (id : ℕ) : ScheduleEvent Process → Prop
  | .edit process code edit now outcome =>
    edit.syncsSchedule → ∀ source ∈ state.sources.updatedSource code, source.id = id → shouldSchedule source →
      ∀ previous ∈ source.nextScheduledRunAt,
        (∃ job ∈ state.heldJob process outcome source, job.nextRunTime ≤ max previous now) ∨
          (state.heldJob process outcome source = none ∧ now + days source.scheduleDays ≤ previous)
  | .refresh process now outcome => ∀ source ∈ state.sources.find id, shouldSchedule source →
      ∀ previous ∈ source.nextScheduledRunAt, ∀ job ∈ state.heldJob process outcome source,
        job.nextRunTime ≤ max previous now
  | .start _ _ _ | .stop _ _ => True

theorem notPostponed_none (before : Option Instant) (now : Instant) : NotPostponed before none now :=
  fun _ _ _ hnext ↦ nomatch hnext

theorem notPostponed_self (before : Option Instant) (now : Instant) : NotPostponed before before now := by
  intro previous hprevious next hnext
  rw [Option.mem_unique hnext hprevious]
  exact le_max_left previous now

theorem notPostponed_some_iff {before : Option Instant} {next : Instant} :
    NotPostponed before (some next) now ↔ ∀ previous ∈ before, next ≤ max previous now := by
  unfold NotPostponed
  simp

/-- A runtime that holds no job for the source moves its time no further than to the clock. -/
theorem notPostponed_syncedTime {scheduler : Scheduler} (hjob : matchingJob scheduler source = none) :
    NotPostponed source.nextScheduledRunAt (syncedTime scheduler source now) now := by
  unfold syncedTime
  split
  · rw [notPostponed_some_iff]
    intro previous hprevious
    rw [hjob, Option.elim_none, resolveNextRunTime_of_some hprevious]
  · exact notPostponed_none _ _

omit [DecidableEq Process] in
/-- When a save postpones no run. -/
theorem notPostponed_savedTime_iff :
    NotPostponed source.nextScheduledRunAt (state.savedTime process outcome source now) now ↔
      (shouldSchedule source → ∀ previous ∈ source.nextScheduledRunAt,
        (∃ job ∈ state.heldJob process outcome source, job.nextRunTime ≤ max previous now) ∨
          (state.heldJob process outcome source = none ∧ now + days source.scheduleDays ≤ previous)) := by
  unfold ScheduleState.savedTime
  by_cases hshould : shouldSchedule source
  · rw [if_pos hshould, notPostponed_some_iff]
    simp only [hshould, true_implies]
    cases state.heldJob process outcome source with
    | some job => simp
    | none =>
      have hlater : now < now + days source.scheduleDays := Int.lt_add_of_pos_right now (days_pos hshould)
      have hiff (previous : Instant) :
          now + days source.scheduleDays ≤ max previous now ↔ now + days source.scheduleDays ≤ previous := by
        rw [le_max_iff, or_iff_left (not_le_of_gt hlater)]
      simp [hiff]
  · simp [hshould, notPostponed_none]

/-- An edit postpones no run exactly if it is timely. -/
theorem notPostponed_edit_iff {id : ℕ} {code : String} {edit : SourceEdit}
    (hleaves : state.LeavesSchedule (.edit process code edit now outcome)) :
    NotPostponed (state.nextRunOf id) ((state.fire (.edit process code edit now outcome)).nextRunOf id) now ↔
      state.Timely id (.edit process code edit now outcome) := by
  simp only [ScheduleState.Timely]
  by_cases hsource : ∃ source, state.sources.updatedSource code = some source ∧ source.id = id
  · obtain ⟨source, hsource, rfl⟩ := hsource
    have hfind := SourceTable.find_eq_some_iff.mpr ⟨mem_rows_of_updatedSource hsource, rfl⟩
    have hbefore : state.nextRunOf source.id = source.nextScheduledRunAt := by
      unfold ScheduleState.nextRunOf
      rw [hfind, Option.bind_some]
    rw [hbefore, nextRunOf_edit hsource hleaves, hsource]
    by_cases hsyncs : edit.syncsSchedule
    · rw [if_pos hsyncs, notPostponed_savedTime_iff]
      simp [hsyncs]
    · rw [if_neg hsyncs]
      simp [hsyncs, notPostponed_self]
  · push Not at hsource
    rw [nextRunOf_edit_of_ne hsource]
    constructor
    · intro _ _ source hmem hid
      exact absurd hid (hsource source hmem)
    · intro _
      exact notPostponed_self _ _

/-- The same for a refresh. -/
theorem notPostponed_refresh_iff {id : ℕ} :
    NotPostponed (state.nextRunOf id) ((state.fire (.refresh process now outcome)).nextRunOf id) now ↔
      state.Timely id (.refresh process now outcome) := by
  simp only [ScheduleState.Timely]
  cases hfind : state.sources.find id with
  | none =>
    have hbefore : state.nextRunOf id = none := by
      unfold ScheduleState.nextRunOf
      rw [hfind, Option.bind_none]
    simp [hbefore, NotPostponed]
  | some source =>
    obtain rfl := (SourceTable.find_eq_some_iff.mp hfind).2
    have hbefore : state.nextRunOf source.id = source.nextScheduledRunAt := by
      unfold ScheduleState.nextRunOf
      rw [hfind, Option.bind_some]
    rw [hbefore, nextRunOf_refresh hfind]
    simp only [Option.mem_def, Option.some_inj, forall_eq']
    unfold ScheduleState.heldJob
    by_cases hcommitted : outcome = .committed
    · rw [if_pos hcommitted, if_pos hcommitted]
      cases state.runtimes process with
      | none => simp [notPostponed_self]
      | some scheduler =>
        rw [Option.elim_some, Option.bind_some]
        cases hjob : matchingJob scheduler source with
        | none => simp [notPostponed_syncedTime hjob]
        | some job =>
          unfold syncedTime
          rw [hjob]
          by_cases hshould : shouldSchedule source
          · simp [hshould, notPostponed_some_iff]
          · simp [hshould, notPostponed_none]
    · simp [hcommitted, notPostponed_self]

/-- A start postpones no run. -/
theorem notPostponed_start {id : ℕ} :
    NotPostponed (state.nextRunOf id) ((state.fire (.start process now outcome)).nextRunOf id) now := by
  cases hfind : state.sources.find id with
  | none =>
    have hbefore : state.nextRunOf id = none := by
      unfold ScheduleState.nextRunOf
      rw [hfind, Option.bind_none]
    simp [hbefore, NotPostponed]
  | some source =>
    obtain rfl := (SourceTable.find_eq_some_iff.mp hfind).2
    have hbefore : state.nextRunOf source.id = source.nextScheduledRunAt := by
      unfold ScheduleState.nextRunOf
      rw [hfind, Option.bind_some]
    rw [hbefore, nextRunOf_start hfind]
    split
    · exact notPostponed_syncedTime rfl
    · exact notPostponed_self _ _

/-- One event puts off the next crawl exactly when it is not timely. -/
theorem notPostponed_fire_iff (state : ScheduleState Process) (event : ScheduleEvent Process) (id : ℕ)
    (hleaves : state.LeavesSchedule event) :
    NotPostponed (state.nextRunOf id) ((state.fire event).nextRunOf id) event.now ↔ state.Timely id event := by
  cases event with
  | edit process code edit now outcome => exact notPostponed_edit_iff hleaves
  | refresh process now outcome => exact notPostponed_refresh_iff
  | start process now outcome => exact iff_of_true notPostponed_start trivial
  | stop process now => exact iff_of_true (notPostponed_self _ _) trivial

/-- In a run of saves that leave the schedule alone, refreshes and starts and stops of schedulers, no
step puts off the next crawl of a source if and only if every step is timely for it. -/
theorem schedule_never_postponed_iff (state : ScheduleState Process) (events : List (ScheduleEvent Process)) (id : ℕ)
    (hleaves : Along ScheduleState.fire ScheduleState.LeavesSchedule state events) :
    Along ScheduleState.fire
        (fun state event ↦ NotPostponed (state.nextRunOf id) ((state.fire event).nextRunOf id) event.now)
        state events ↔
      Along ScheduleState.fire (fun state event ↦ state.Timely id event) state events := by
  induction events generalizing state with
  | nil => exact Iff.rfl
  | cons event events ih =>
    rw [along_cons, along_cons, ih (state.fire event) hleaves.2]
    exact and_congr_left fun _ ↦ notPostponed_fire_iff state event id hleaves.1

/-- A source that is crawled every day, and no process that runs a scheduler. -/
def dailySource : ScheduleState ℕ where
  sources :=
    { rows :=
        [{ id := 1, code := "anhui_ggzy_zfcg", name := "Anhui", baseUrl := "https://ggzy.ah.gov.cn/"
           scheduleEnabled := true }]
      ids_nodup := List.nodup_singleton 1
      codes_nodup := List.nodup_singleton "anhui_ggzy_zfcg" }
  runtimes _ := none

/-- The scheduler process starts, and half a day later a web process saves a new description. -/
def descriptionSaved : List (ScheduleEvent ℕ) :=
  [.start 1 0 .committed,
   .edit 0 "anhui_ggzy_zfcg"
     (.adminUpdateSourceConfig "Anhui" (some "https://ggzy.ah.gov.cn/") (some "https://ggzy.ah.gov.cn/")
       (some "Government procurement") true false 60 50)
     (seconds 43200) .committed]

theorem descriptionSaved_leavesSchedule :
    Along ScheduleState.fire ScheduleState.LeavesSchedule dailySource descriptionSaved := by
  refine ⟨trivial, ?_, trivial⟩
  intro source hsource
  have hfound : (dailySource.fire (.start 1 0 .committed)).sources.updatedSource "anhui_ggzy_zfcg" =
      some
        { id := 1, code := "anhui_ggzy_zfcg", name := "Anhui", baseUrl := "https://ggzy.ah.gov.cn/"
          scheduleEnabled := true, nextScheduledRunAt := some (days 1) } := by
    rfl
  rw [hfound] at hsource
  obtain rfl := Option.some.inj hsource
  exact ⟨rfl, rfl, rfl⟩

theorem schedule_never_postponed_iff_descriptionSaved :
    Along ScheduleState.fire
        (fun state event ↦ NotPostponed (state.nextRunOf 1) ((state.fire event).nextRunOf 1) event.now)
        dailySource descriptionSaved ↔
      Along ScheduleState.fire (fun state event ↦ state.Timely 1 event) dailySource descriptionSaved :=
  schedule_never_postponed_iff dailySource descriptionSaved 1 descriptionSaved_leavesSchedule

/-- The save moves the next crawl from twelve hours away to a day away. -/
theorem not_schedule_never_postponed_descriptionSaved :
    ¬ ∀ (state : ScheduleState ℕ) (events : List (ScheduleEvent ℕ)) (id : ℕ),
      Along ScheduleState.fire ScheduleState.LeavesSchedule state events →
        Along ScheduleState.fire
          (fun state event ↦ NotPostponed (state.nextRunOf id) ((state.fire event).nextRunOf id) event.now)
          state events := by
  intro h
  have hsaved := (h dailySource descriptionSaved 1 descriptionSaved_leavesSchedule).2.1
  have hbefore : (dailySource.fire (.start 1 0 .committed)).nextRunOf 1 = some (days 1) := by rfl
  have hafter : (descriptionSaved.foldl ScheduleState.fire dailySource).nextRunOf 1 =
      some (seconds 43200 + days 1) := by rfl
  have hlate : ¬ seconds 43200 + days 1 ≤ max (days 1) (seconds 43200) := by decide
  exact hlate (hsaved (days 1) hbefore (seconds 43200 + days 1) hafter)

end Runs

end TenderPhase1.Sources
