import TenderPhase1.Trigger.LaunchCommands

/-!
# The parameters of a job on their way

The page limit and the year of a crawl reach its processes through `job_params_json`: the sweep
reads them from the row, hands them on in a request, and whoever got the request writes them back
when the job is started, finished or failed. Here the row lives among interleaved transactions,
sweeps make requests from it, and each request may be handed to any number of processes.
-/

namespace TenderPhase1.Trigger

open Jobs Executors ObjectSession Transition

/-- The parameters of a crawl that its payloads repeat. -/
structure CrawlParams where
  maxPages : Option ℤ
  backfillYear : Option ℤ
  deriving DecidableEq, Repr

/-- The parameters as `read_payload_int` decodes them. -/
def paramsOf (payload : Option JsonObject) : CrawlParams where
  maxPages := readPayloadInt payload "max_pages"
  backfillYear := readPayloadInt payload "backfill_year"

@[simp]
theorem paramsOf_buildJobParamsPayload (params : JobParams) :
    paramsOf (some (buildJobParamsPayload params)) = ⟨params.maxPages, params.backfillYear⟩ := by
  simp [paramsOf]

@[simp]
theorem paramsOf_none : paramsOf none = ⟨none, none⟩ := rfl

def CrawlJobDispatchRequest.params (request : CrawlJobDispatchRequest) : CrawlParams :=
  ⟨request.maxPages, request.backfillYear⟩

/-! ## The writers of the payload -/

/-- A process that was handed a request, with what it knows of the job and its spider. -/
def CrawlJobDispatchRequest.run (request : CrawlJobDispatchRequest) (triggeredBy : Option String)
    (retryOfJobId : Option ℕ) (spiderName : String) : CrawlRun where
  sourceCode := request.sourceCode
  jobType := request.jobType
  triggeredBy := triggeredBy
  maxPages := request.maxPages
  backfillYear := request.backfillYear
  retryOfJobId := retryOfJobId
  spiderName := spiderName

/-- The failure that `dispatch` records once its attempts are used up. -/
def dispatchFailureArgs (run : CrawlRun) (error : String) : FinishArgs :=
  let reason := "后台任务派发失败：" ++ error
  { jobParamsJson := .value (some (run.jobParams none))
    runtimeStatsJson := .value (some (buildRuntimeStatsPayload { runStage := "dispatch_abandoned" }))
    failureReason := .value (some reason)
    message := some s!"{run.jobType.text} 任务派发失败：{reason}" }

/-- The failure that `main` of the worker records when it does not find the source. -/
def sourceMissingArgs (run : CrawlRun) : FinishArgs :=
  let reason := "后台执行启动失败：来源不存在或已被删除"
  { jobParamsJson := .value (some ({ run with retryOfJobId := none }.jobParams none))
    runtimeStatsJson := .value (some (buildRuntimeStatsPayload { runStage := "worker_error" }))
    failureReason := .value (some reason)
    message := some s!"{run.jobType.text} 任务执行失败：{reason}" }

/-- The transactions that end a job and write its payload. -/
inductive Ending where
  | dispatchFailure (error : String)
  | sourceMissing
  | workerError (raised : Raised)
  | runnerError (raised : Raised)
  | finished (spider : SpiderOutcome) (snapshot : CrawlJob)

def Ending.op (run : CrawlRun) : Ending → JobOp
  | .dispatchFailure error => .failIfActive (dispatchFailureArgs run error)
  | .sourceMissing => .failIfActive (sourceMissingArgs run)
  | .workerError raised => .failIfActive (workerErrorArgs run raised)
  | .runnerError raised => .finish (runnerErrorArgs run raised)
  | .finished spider snapshot => .finish (finalArgs run spider snapshot)

/-- An operation that leaves the payload alone, as heartbeats, statistics, reconciliation and both
finishes of the script do. -/
def withoutParams : JobOp → JobOp
  | .heartbeat heartbeatAt leaseSeconds => .heartbeat heartbeatAt leaseSeconds
  | .recordStats deltas => .recordStats deltas
  | .finish args => .finish { args with jobParamsJson := .unset }
  | .failIfActive args => .failIfActive { args with jobParamsJson := .unset }
  | .reconcile => .reconcile

/-! ## The row, its requests and their processes -/

structure Delivery where
  row : JobState ℕ
  requests : List CrawlJobDispatchRequest

inductive DeliveryEvent where
  | sweep (sourceCode : String) (now : Instant)
  | claim (pickedAt : Option Instant) (leaseSeconds : ℤ) (now : Instant)
  | start (request : ℕ) (triggeredBy : Option String) (retryOfJobId : Option ℕ) (spiderName : String)
      (spiderArgs : SpiderArgs) (now : Instant)
  | scriptStart (args : StartArgs) (now : Instant)
  | readEnding (txn request : ℕ) (triggeredBy : Option String) (retryOfJobId : Option ℕ) (spiderName : String)
      (ending : Ending) (now : Instant)
  | read (txn : ℕ) (op : JobOp) (now : Instant)
  | commit (txn : ℕ)
  | rollback (txn : ℕ)

/-- The database event behind an event; a process acts on a request that was made. -/
def Delivery.transaction (state : Delivery) : DeliveryEvent → Option (JobEvent ℕ)
  | .sweep _ _ => none
  | .claim pickedAt leaseSeconds now => some (.claim pickedAt leaseSeconds now)
  | .start request triggeredBy retryOfJobId spiderName spiderArgs now =>
      state.requests[request]?.map fun made ↦
        .start (runningArgs (made.run triggeredBy retryOfJobId spiderName) spiderArgs) now
  | .scriptStart args now => some (.start { args with jobParamsJson := .unset } now)
  | .readEnding txn request triggeredBy retryOfJobId spiderName ending now =>
      state.requests[request]?.map fun made ↦
        .read txn (ending.op (made.run triggeredBy retryOfJobId spiderName)) now
  | .read txn op now => some (.read txn (withoutParams op) now)
  | .commit txn => some (.commit txn)
  | .rollback txn => some (.rollback txn)

/-- The requests after an event: a sweep that selects the row makes one of it. -/
def Delivery.requestsAfter (state : Delivery) : DeliveryEvent → List CrawlJobDispatchRequest
  | .sweep sourceCode now =>
      if state.row.stored.claimable now then state.requests ++ [candidateRequest sourceCode state.row.stored]
      else state.requests
  | _ => state.requests

def Delivery.step (state : Delivery) (event : DeliveryEvent) : Delivery where
  row := (state.transaction event).elim state.row state.row.step
  requests := state.requestsAfter event

/-- A job just created; the first request is the one its creator works with, if it makes one. -/
def Delivery.initial (job : CrawlJob) (request : Option CrawlJobDispatchRequest) : Delivery :=
  ⟨.initial job, request.toList⟩

/-! ## The processes are those of the trigger service -/

section Starting

variable {source : Sources.SourceSite} {made : CrawlJobDispatchRequest} {args : SpiderArgs}

/-- The payloads of a process that has found the source of its request repeat that request. -/
theorem crawlRun_eq_run (hsource : source.code = made.sourceCode)
    (hargs : buildSpiderArgs made.maxPages made.backfillYear made.jobType = .ok args) (job : CrawlJob)
    (spiderName : String) :
    crawlRun source job made.jobType spiderName args = made.run job.triggeredBy job.retryOfJobId spiderName := by
  rw [crawlRun, CrawlJobDispatchRequest.run, intArg_maxPages hargs, intArg_backfillYear hargs, hsource]

/-- A process that starts the job of its request is the start of that request. -/
theorem stored_step_start {state : Delivery} {request : ℕ} (hmade : state.requests[request]? = some made)
    (hsource : source.code = made.sourceCode)
    (hargs : buildSpiderArgs made.maxPages made.backfillYear made.jobType = .ok args) {jobs : List CrawlJob}
    (hrow : jobs.find? (fun job ↦ (job.id : ℤ) = made.crawlJobId) = some state.row.stored) {now : Instant}
    {spiderName : String} {started : CrawlJob}
    (h : startExistingCrawlJob jobs source made.crawlJobId made.jobType args now = .ok (spiderName, started)) :
    (state.step (.start request state.row.stored.triggeredBy state.row.stored.retryOfJobId spiderName args now)).row.stored =
      started := by
  unfold startExistingCrawlJob at h
  obtain ⟨name, -, h⟩ := bind_eq_ok.mp h
  rw [hrow] at h
  dsimp only at h
  split_ifs at h
  rw [crawlRun_eq_run hsource hargs] at h
  split at h
  · cases h
  · cases h
  · rename_i row hstart
    obtain ⟨rfl, rfl⟩ := Prod.mk.inj (Except.ok.inj h)
    simp only [Delivery.step, Delivery.transaction, hmade, Option.map_some, Option.elim_some, JobState.step, hstart,
      JobState.update]

end Starting

/-! ## What a transaction does to the payload -/

/-- The new payload an operation asks for. -/
def jobParamsArg : JobOp → UpdateArg (Option JsonObject)
  | .finish args | .failIfActive args => args.jobParamsJson
  | .heartbeat _ _ | .recordStats _ | .reconcile => .unset

/-- The update leaves the payload alone or replaces it by one with these parameters. -/
def KeepsParams (params : CrawlParams) (update : UpdateArg (Option JsonObject)) : Prop :=
  ∀ payload, update = .value payload → paramsOf payload = params

theorem keepsParams_unset (params : CrawlParams) : KeepsParams params .unset := fun _ h ↦ nomatch h

theorem paramsOf_getD {params : CrawlParams} {update : UpdateArg (Option JsonObject)} (h : KeepsParams params update)
    {old : Option JsonObject} (hold : paramsOf old = params) : paramsOf (update.getD old) = params := by
  cases update with
  | unset => exact hold
  | value payload => exact h payload rfl

theorem keepsParams_jobParams (run : CrawlRun) (spiderName : Option String) :
    KeepsParams ⟨run.maxPages, run.backfillYear⟩ (.value (some (run.jobParams spiderName))) := by
  intro payload hpayload
  injection hpayload with hpayload
  rw [← hpayload, CrawlRun.jobParams]
  exact paramsOf_buildJobParamsPayload _

/-- Every ending repeats the parameters of its process. -/
theorem keepsParams_ending (run : CrawlRun) (ending : Ending) :
    KeepsParams ⟨run.maxPages, run.backfillYear⟩ (jobParamsArg (ending.op run)) := by
  cases ending with
  | dispatchFailure error => exact keepsParams_jobParams run none
  | sourceMissing => exact keepsParams_jobParams { run with retryOfJobId := none } none
  | workerError raised => exact keepsParams_jobParams { run with retryOfJobId := none } none
  | runnerError raised => exact keepsParams_jobParams run run.spiderName
  | finished spider snapshot => exact keepsParams_jobParams run run.spiderName

theorem keepsParams_withoutParams (params : CrawlParams) (op : JobOp) :
    KeepsParams params (jobParamsArg (withoutParams op)) := by
  cases op <;> exact keepsParams_unset params

/-- An operation gives its object the payload it asks for, or leaves it the one it has. -/
theorem jobParamsJson_perform {op : JobOp} {loaded current : CrawlJob} {now : Instant}
    (h : op.perform loaded now = .ok current) :
    current.jobParamsJson = loaded.jobParamsJson ∨
      current.jobParamsJson = (jobParamsArg op).getD loaded.jobParamsJson := by
  cases op with
  | heartbeat heartbeatAt leaseSeconds =>
    left
    simp only [JobOp.perform, heartbeatJobInSession] at h
    split at h
    · rw [← Except.ok.inj h]
    · obtain ⟨_, -, h⟩ := bind_eq_ok.mp h
      rw [← Except.ok.inj h]
  | recordStats deltas =>
    left
    rw [recordStatsInSession_eq_ok h]
  | finish args =>
    right
    obtain ⟨status, -, -, -, rfl⟩ := finishJobInSession_eq_ok.mp h
    rfl
  | failIfActive args =>
    simp only [JobOp.perform, failJobIfActiveInSession] at h
    split at h
    · left
      rw [← Except.ok.inj h]
    · right
      obtain ⟨status, -, -, -, rfl⟩ := finishJobInSession_eq_ok.mp h
      rfl
  | reconcile =>
    left
    simp only [JobOp.perform] at h
    split at h
    · unfold expireJob at h
      obtain ⟨_, -, h⟩ := bind_eq_ok.mp h
      rw [← Except.ok.inj h]
    · rw [← Except.ok.inj h]

/-- The row, and every object of an open transaction, carry the parameters. -/
structure RowCarries (params : CrawlParams) (row : JobState ℕ) : Prop where
  stored : paramsOf row.stored.jobParamsJson = params
  held : ∀ txn held, row.inFlight txn = some held →
    paramsOf held.loaded.jobParamsJson = params ∧ paramsOf held.current.jobParamsJson = params

def EventKeepsParams (params : CrawlParams) : JobEvent ℕ → Prop
  | .start args _ => KeepsParams params args.jobParamsJson
  | .read _ op _ => KeepsParams params (jobParamsArg op)
  | .claim _ _ _ | .commit _ | .rollback _ => True

/-- An event that keeps the parameters keeps those of the row. -/
theorem paramsOf_stored_step {params : CrawlParams} {row : JobState ℕ} {event : JobEvent ℕ}
    (hrow : RowCarries params row) (hevent : EventKeepsParams params event) :
    paramsOf (row.step event).stored.jobParamsJson = params := by
  rcases stored_step_cases row event with h | ⟨_, _, _, -, h⟩ | ⟨args, now, rfl, h⟩ | ⟨txn, held, -, hheld, h⟩
  · rw [h]
    exact hrow.stored
  · obtain ⟨-, -, hclaimed⟩ := claimPendingJobInSession_eq_some h
    rw [hclaimed]
    exact hrow.stored
  · unfold startJobInSession at h
    obtain ⟨_, -, h⟩ := bind_eq_ok.mp h
    split at h
    · rw [← Option.some.inj (Except.ok.inj h)]
      exact paramsOf_getD hevent hrow.stored
    · cases Except.ok.inj h
  · have hwritten : (row.step event).stored.jobParamsJson =
        mergeColumn held.loaded.jobParamsJson held.current.jobParamsJson row.stored.jobParamsJson := by
      rw [h]
      rfl
    rw [hwritten]
    rcases mergeColumn_cases held.loaded.jobParamsJson held.current.jobParamsJson row.stored.jobParamsJson with
      ⟨hkept, -⟩ | ⟨hnew, -⟩
    · rw [hkept]
      exact hrow.stored
    · rw [hnew]
      exact (hrow.held txn held hheld).2

/-- An event that keeps the parameters leaves them in the row. -/
theorem rowCarries_step {params : CrawlParams} {row : JobState ℕ} {event : JobEvent ℕ}
    (hrow : RowCarries params row) (hevent : EventKeepsParams params event) :
    RowCarries params (row.step event) where
  stored := paramsOf_stored_step hrow hevent
  held txn held hheld := by
    rcases inFlight_step hheld with hbefore | ⟨rfl, hloaded, -⟩
    · exact hrow.held txn held hbefore
    · have hread : paramsOf held.loaded.jobParamsJson = params := by
        rw [hloaded]
        exact hrow.stored
      refine ⟨hread, ?_⟩
      rcases jobParamsJson_perform held.performed with hkept | hasked
      · rw [hkept]
        exact hread
      · rw [hasked]
        exact paramsOf_getD hevent hread

/-- The row carries the parameters, and so does every request made for it. -/
structure Carries (params : CrawlParams) (state : Delivery) : Prop where
  row : RowCarries params state.row
  requests : ∀ request ∈ state.requests, request.params = params

theorem carries_initial {params : CrawlParams} {job : CrawlJob} {request : Option CrawlJobDispatchRequest}
    (hjob : paramsOf job.jobParamsJson = params) (hrequest : ∀ made ∈ request, made.params = params) :
    Carries params (.initial job request) where
  row := ⟨hjob, fun _ _ h ↦ nomatch h⟩
  requests made hmade := hrequest made (Option.mem_toList.mp hmade)

/-- Whatever a process writes, it writes the parameters of its request. -/
theorem eventKeepsParams_transaction {params : CrawlParams} {state : Delivery} (h : Carries params state)
    {event : DeliveryEvent} {transaction : JobEvent ℕ} (htransaction : state.transaction event = some transaction) :
    EventKeepsParams params transaction := by
  cases event with
  | sweep sourceCode now => cases htransaction
  | claim pickedAt leaseSeconds now | commit txn | rollback txn =>
    obtain rfl := Option.some.inj htransaction
    trivial
  | start request triggeredBy retryOfJobId spiderName spiderArgs now =>
    obtain ⟨made, hmade, rfl⟩ := Option.map_eq_some_iff.mp htransaction
    have hparams := h.requests made (List.mem_of_getElem? hmade)
    rw [← hparams]
    exact keepsParams_jobParams (made.run triggeredBy retryOfJobId spiderName) spiderName
  | scriptStart args now =>
    obtain rfl := Option.some.inj htransaction
    exact keepsParams_unset params
  | readEnding txn request triggeredBy retryOfJobId spiderName ending now =>
    obtain ⟨made, hmade, rfl⟩ := Option.map_eq_some_iff.mp htransaction
    have hparams := h.requests made (List.mem_of_getElem? hmade)
    rw [← hparams]
    exact keepsParams_ending (made.run triggeredBy retryOfJobId spiderName) ending
  | read txn op now =>
    obtain rfl := Option.some.inj htransaction
    exact keepsParams_withoutParams params op

/-- Every event of a delivery leaves the parameters as they are. -/
theorem carries_step {params : CrawlParams} (state : Delivery) (event : DeliveryEvent) (h : Carries params state) :
    Carries params (state.step event) where
  row := by
    simp only [Delivery.step]
    cases htransaction : state.transaction event with
    | none => exact h.row
    | some transaction => exact rowCarries_step h.row (eventKeepsParams_transaction h htransaction)
  requests request hrequest := by
    cases event with
    | sweep sourceCode now =>
      simp only [Delivery.step, Delivery.requestsAfter] at hrequest
      split at hrequest
      · rcases List.mem_append.mp hrequest with hold | hnew
        · exact h.requests request hold
        · rw [List.mem_singleton.mp hnew]
          exact h.row.stored
      · exact h.requests request hrequest
    | _ => exact h.requests request hrequest

/-- Whatever happens to a job, its row and its requests carry the parameters of its creation. -/
theorem carries_foldl {params : CrawlParams} {state : Delivery} (h : Carries params state)
    (events : List DeliveryEvent) : Carries params (events.foldl Delivery.step state) :=
  invariant_run carries_step state events h

end TenderPhase1.Trigger
