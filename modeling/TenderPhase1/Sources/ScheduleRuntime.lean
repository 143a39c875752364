import TenderPhase1.Sources.Model
import Mathlib.Logic.Function.Basic

/-!
# The schedule of a source

A source with automatic crawls has the time of the next one in `next_scheduled_run_at`. Two
writers keep that column. `sync_source_schedule` computes it anew when a source is saved, and the
scheduler runtime copies it from the APScheduler job that it keeps in memory for the source; a
runtime that starts has no job and takes the stored time for a new one. The runtime may live in the
process that saves the source, in another process or nowhere.
-/

namespace TenderPhase1.Sources

open Jobs PyText

/-! ## The source table -/

/-- The rows of `source_site` with the primary key and the unique constraint on the code. -/
structure SourceTable where
  rows : List SourceSite
  ids_nodup : (rows.map SourceSite.id).Nodup
  codes_nodup : (rows.map SourceSite.code).Nodup

def SourceTable.find (table : SourceTable) (id : ℕ) : Option SourceSite :=
  table.rows.find? (·.id = id)

/-- `select(SourceSite).where(SourceSite.code == code)` -/
def SourceTable.getModelByCode (table : SourceTable) (code : String) : Option SourceSite :=
  table.rows.find? (·.code = code)

/-- The UPDATE of a loaded row; its two keys are never among the changed columns. -/
def SourceTable.set (table : SourceTable) (source : SourceSite) : SourceTable where
  rows := table.rows.map fun row ↦ if row.id = source.id then { source with id := row.id, code := row.code } else row
  ids_nodup := by
    have hids : (SourceSite.id ∘ fun row ↦
        if row.id = source.id then { source with id := row.id, code := row.code } else row) = SourceSite.id := by
      funext row
      simp only [Function.comp_apply]
      split <;> rfl
    rw [List.map_map, hids]
    exact table.ids_nodup
  codes_nodup := by
    have hcodes : (SourceSite.code ∘ fun row ↦
        if row.id = source.id then { source with id := row.id, code := row.code } else row) = SourceSite.code := by
      funext row
      simp only [Function.comp_apply]
      split <;> rfl
    rw [List.map_map, hcodes]
    exact table.codes_nodup

/-! ## The scheduler of one process -/

def days (count : ℤ) : Instant := seconds (count * 86400)

def scheduleDayOptions : List ℤ := [1, 2, 3, 7]

def sourceScheduleJobPrefix : String := "source_schedule::"

def sourceScheduleRefreshJobId : String := "source_schedule_runtime::refresh"

/-- What the runtime reads of an APScheduler job with an `IntervalTrigger`. -/
structure ScheduledJob where
  interval : Instant
  nextRunTime : Instant
  deriving DecidableEq, Repr

/-- The jobs a `BackgroundScheduler` holds in memory, by id. -/
abbrev Scheduler := String → Option ScheduledJob

/-- `add_job` with `replace_existing=True` -/
def Scheduler.addJob (scheduler : Scheduler) (id : String) (job : ScheduledJob) : Scheduler :=
  Function.update scheduler id (some job)

def Scheduler.removeJobIfExists (scheduler : Scheduler) (id : String) : Scheduler :=
  Function.update scheduler id none

def jobId (sourceCode : String) : String := sourceScheduleJobPrefix ++ sourceCode

def shouldSchedule (source : SourceSite) : Bool :=
  source.isActive && source.scheduleEnabled && scheduleDayOptions.contains source.scheduleDays

def jobMatchesSource (job : ScheduledJob) (source : SourceSite) : Bool :=
  job.interval = days source.scheduleDays

def resolveNextRunTime (source : SourceSite) (dayCount : ℤ) (now : Instant) : Instant :=
  match source.nextScheduledRunAt with
  | none => now + days dayCount
  | some nextRun => if nextRun ≤ now then now else nextRun

def syncSourceInSession (scheduler : Scheduler) (source : SourceSite) (now : Instant) : Scheduler × SourceSite :=
  let id := jobId source.code
  if shouldSchedule source then
    match (scheduler id).filter (jobMatchesSource · source) with
    | some existingJob => (scheduler, { source with nextScheduledRunAt := some existingJob.nextRunTime })
    | none =>
      let nextRun := resolveNextRunTime source source.scheduleDays now
      let added := scheduler.addJob id { interval := days source.scheduleDays, nextRunTime := nextRun }
      (added, { source with nextScheduledRunAt := some ((added id).elim nextRun ScheduledJob.nextRunTime) })
  else
    (scheduler.removeJobIfExists id, { source with nextScheduledRunAt := none })

def syncSource (scheduler : Scheduler) (table : SourceTable) (sourceCode : String) (now : Instant) :
    Scheduler × SourceTable :=
  match table.getModelByCode sourceCode with
  | none => (scheduler.removeJobIfExists (jobId sourceCode), table)
  | some source =>
    let synced := syncSourceInSession scheduler source now
    (synced.1, table.set synced.2)

def removeStaleSourceJobs (scheduler : Scheduler) (activeSourceCodes : List String) : Scheduler := fun id ↦
  if id ≠ sourceScheduleRefreshJobId ∧ startsWith id sourceScheduleJobPrefix ∧
      id ∉ activeSourceCodes.map jobId then none
  else scheduler id

/-- The loop of `restore_from_db` over the rows it has loaded. -/
def syncSources (now : Instant) (restored : Scheduler × SourceTable) (sources : List SourceSite) :
    Scheduler × SourceTable :=
  sources.foldl (fun (scheduler, table) source ↦
    let synced := syncSourceInSession scheduler source now
    (synced.1, table.set synced.2)) restored

def restoreFromDb (scheduler : Scheduler) (table : SourceTable) (now : Instant) : Scheduler × SourceTable :=
  let restored := syncSources now (scheduler, table) table.rows
  (removeStaleSourceJobs restored.1 (table.rows.map SourceSite.code), restored.2)

def calculateNextScheduledRun (scheduleEnabled : Bool) (scheduleDays : ℤ) (isActive : Bool) (now : Instant) :
    Option Instant :=
  if !scheduleEnabled || !isActive || !scheduleDayOptions.contains scheduleDays then none
  else some (now + days scheduleDays)

/-! ## Saving a source -/

structure SourceUpdates where
  name : Option String := none
  officialUrl : Option String := none
  baseUrl : Option String := none
  listUrl : Option String := none
  description : Option (Option String) := none
  isActive : Option Bool := none
  supportsJsRender : Option Bool := none
  crawlIntervalMinutes : Option ℤ := none
  defaultMaxPages : Option ℤ := none
  scheduleEnabled : Option Bool := none
  scheduleDays : Option ℤ := none
  deriving DecidableEq, Repr

/-- The loop of `update_fields`. -/
def SourceUpdates.apply (updates : SourceUpdates) (source : SourceSite) : SourceSite :=
  { source with
    name := updates.name.getD source.name
    officialUrl := updates.officialUrl.getD source.officialUrl
    baseUrl := updates.baseUrl.getD source.baseUrl
    listUrl := updates.listUrl.getD source.listUrl
    description := updates.description.getD source.description
    isActive := updates.isActive.getD source.isActive
    supportsJsRender := updates.supportsJsRender.getD source.supportsJsRender
    crawlIntervalMinutes := updates.crawlIntervalMinutes.getD source.crawlIntervalMinutes
    defaultMaxPages := updates.defaultMaxPages.getD source.defaultMaxPages
    scheduleEnabled := updates.scheduleEnabled.getD source.scheduleEnabled
    scheduleDays := updates.scheduleDays.getD source.scheduleDays }

/-- The fields of a `SourceSitePatchRequest` that are set. A URL or a description may be set to
null; a null in another field is refused by the column, and nothing is stored. -/
structure SourceSitePatchRequest where
  name : Option String := none
  officialUrl : Option (Option String) := none
  listUrl : Option (Option String) := none
  description : Option (Option String) := none
  isActive : Option Bool := none
  supportsJsRender : Option Bool := none
  crawlIntervalMinutes : Option ℤ := none
  defaultMaxPages : Option ℤ := none
  deriving DecidableEq, Repr

/-- `str` of a URL that may be null -/
def urlText (url : Option String) : String := url.getD "None"

def SourceSitePatchRequest.updates (payload : SourceSitePatchRequest) : SourceUpdates where
  name := payload.name
  officialUrl := payload.officialUrl.map urlText
  baseUrl := payload.officialUrl.map urlText
  listUrl := payload.listUrl.map urlText
  description := payload.description
  isActive := payload.isActive
  supportsJsRender := payload.supportsJsRender
  crawlIntervalMinutes := payload.crawlIntervalMinutes
  defaultMaxPages := payload.defaultMaxPages

/-- The endpoints that change a source, with the values they have read from the request. -/
inductive SourceEdit where
  | patchSource (payload : SourceSitePatchRequest)
  | adminUpdateSourceConfig (name : String) (officialUrl listUrl description : Option String)
      (isActive supportsJsRender : Bool) (crawlIntervalMinutes defaultMaxPages : ℤ)
  | patchSourceSchedule (scheduleEnabled : Option Bool) (scheduleDays : Option ℤ)
  | adminUpdateSourceSchedule (scheduleEnabled : Bool) (scheduleDays : ℤ)
  deriving DecidableEq, Repr

/-- The configuration form always sets every field. -/
def SourceEdit.updates : SourceEdit → SourceUpdates
  | .patchSource payload => payload.updates
  | .adminUpdateSourceConfig name officialUrl listUrl description isActive supportsJsRender crawlIntervalMinutes
      defaultMaxPages =>
    SourceSitePatchRequest.updates
      { name := some name
        officialUrl := some officialUrl
        listUrl := some listUrl
        description := some description
        isActive := some isActive
        supportsJsRender := some supportsJsRender
        crawlIntervalMinutes := some crawlIntervalMinutes
        defaultMaxPages := some defaultMaxPages }
  | .patchSourceSchedule scheduleEnabled scheduleDays =>
    { scheduleEnabled := scheduleEnabled, scheduleDays := scheduleDays }
  | .adminUpdateSourceSchedule scheduleEnabled scheduleDays =>
    { scheduleEnabled := some scheduleEnabled, scheduleDays := some scheduleDays }

/-- Whether the endpoint goes on to `sync_source_schedule`. -/
def SourceEdit.syncsSchedule : SourceEdit → Bool
  | .patchSource payload => payload.isActive.isSome
  | .adminUpdateSourceConfig .. | .patchSourceSchedule .. | .adminUpdateSourceSchedule .. => true

/-- The code under which `update_source` looks for the source. -/
def updatedSourceCode (code : String) : Option String :=
  if strip code = "" then none else some (normalizeSourceCode (strip code))

def SourceTable.updatedSource (table : SourceTable) (code : String) : Option SourceSite :=
  (updatedSourceCode code).bind table.getModelByCode

/-! ## Sources, processes and their schedulers -/

/-- How the session of a runtime ends: its commit, a commit that raises, or a query that raises. The
memory of the scheduler is not rolled back with the session. -/
inductive SyncOutcome where
  | committed
  | commitRaised
  | queryRaised
  deriving DecidableEq, Repr

variable {Process : Type*} [DecidableEq Process]

/-- The database, and the scheduler of each process that has a started runtime. -/
structure ScheduleState (Process : Type*) where
  sources : SourceTable
  runtimes : Process → Option Scheduler

/-- What happens in one process. The clock shows `now` throughout the event. -/
inductive ScheduleEvent (Process : Type*) where
  | edit (process : Process) (code : String) (edit : SourceEdit) (now : Instant) (outcome : SyncOutcome)
  | refresh (process : Process) (now : Instant) (outcome : SyncOutcome)
  | start (process : Process) (now : Instant) (outcome : SyncOutcome)
  | stop (process : Process) (now : Instant)

def ScheduleEvent.now : ScheduleEvent Process → Instant
  | .edit _ _ _ now _ | .refresh _ now _ | .start _ now _ | .stop _ now => now

/-- What a session of the runtime leaves in the memory of its process and in the database. -/
def ScheduleState.settle (state : ScheduleState Process) (process : Process) (outcome : SyncOutcome)
    (synced : Scheduler × SourceTable) : ScheduleState Process :=
  match outcome with
  | .committed => ⟨synced.2, Function.update state.runtimes process (some synced.1)⟩
  | .commitRaised => ⟨state.sources, Function.update state.runtimes process (some synced.1)⟩
  | .queryRaised => state

/-- `sync_source_schedule` with the session of the request; what the runtime raises is dropped. -/
def ScheduleState.syncSourceSchedule (state : ScheduleState Process) (process : Process) (sourceCode : String)
    (now : Instant) (outcome : SyncOutcome) : ScheduleState Process :=
  let saved : ScheduleState Process :=
    match state.sources.getModelByCode sourceCode with
    | none => state
    | some source =>
      { state with
        sources := state.sources.set
          { source with
            nextScheduledRunAt :=
              calculateNextScheduledRun source.scheduleEnabled source.scheduleDays source.isActive now } }
  match saved.runtimes process with
  | none => saved
  | some scheduler => saved.settle process outcome (syncSource scheduler saved.sources sourceCode now)

/-- One event. A runtime that cannot restore its jobs when it starts is shut down again. -/
def ScheduleState.fire (state : ScheduleState Process) : ScheduleEvent Process → ScheduleState Process
  | .edit process code edit now outcome =>
    match state.sources.updatedSource code with
    | none => state
    | some source =>
      let updated : ScheduleState Process := { state with sources := state.sources.set (edit.updates.apply source) }
      if edit.syncsSchedule then updated.syncSourceSchedule process source.code now outcome else updated
  | .refresh process now outcome =>
    match state.runtimes process with
    | none => state
    | some scheduler => state.settle process outcome (restoreFromDb scheduler state.sources now)
  | .start process now outcome =>
    match state.runtimes process, outcome with
    | none, .committed => state.settle process .committed (restoreFromDb (fun _ ↦ none) state.sources now)
    | _, _ => state
  | .stop process _ => { state with runtimes := Function.update state.runtimes process none }

end TenderPhase1.Sources
