import TenderPhase1.Jobs.Model
import TenderPhase1.Foundation.PyNumber

/-!
# Structured payloads of a crawl job

`app/services/crawl_job_payloads.py`: the JSON objects stored in
`job_params_json` and `runtime_stats_json`. A field that is absent, and for texts
also an empty one, is left out of the object.
-/

namespace TenderPhase1.Jobs

open PyText

def intEntry (key : String) (value : Option ℤ) : JsonObject :=
  (value.map fun n ↦ (key, JsonValue.int n)).toList

/-- The entry of an optional text argument that is kept only when it is truthy. -/
def textEntry (key : String) (value : Option String) : JsonObject :=
  ((value.filter (· ≠ "")).map fun text ↦ (key, JsonValue.text text)).toList

def isoformatEntry (key : String) (value : Option Instant) : JsonObject :=
  (value.map fun moment ↦ (key, JsonValue.isoformat moment)).toList

structure JobParams where
  sourceCode : String
  jobType : JobType
  triggeredBy : Option String := none
  maxPages : Option ℤ := none
  backfillYear : Option ℤ := none
  retryOfJobId : Option ℕ := none
  spiderName : Option String := none

def buildJobParamsPayload (params : JobParams) : JsonObject :=
  [("source_code", .text params.sourceCode), ("job_type", .text params.jobType.text)] ++
    textEntry "triggered_by" params.triggeredBy ++
    intEntry "max_pages" params.maxPages ++
    intEntry "backfill_year" params.backfillYear ++
    intEntry "retry_of_job_id" (params.retryOfJobId.map Int.ofNat) ++
    textEntry "spider_name" params.spiderName

structure RuntimeStats where
  runStage : String
  spiderName : Option String := none
  pagesScraped : Option ℤ := none
  listSeen : Option ℤ := none
  listUnique : Option ℤ := none
  detailRequests : Option ℤ := none
  dedupSkipped : Option ℤ := none
  noticesWritten : Option ℤ := none
  rawDocumentsWritten : Option ℤ := none
  firstPublishDateSeen : Option String := none
  lastPublishDateSeen : Option String := none
  returnCode : Option ℤ := none
  timeoutStage : Option String := none
  heartbeatAt : Option Instant := none
  timeoutAt : Option Instant := none

def buildRuntimeStatsPayload (stats : RuntimeStats) : JsonObject :=
  [("run_stage", .text stats.runStage)] ++
    textEntry "spider_name" stats.spiderName ++
    intEntry "pages_scraped" stats.pagesScraped ++
    intEntry "list_seen" stats.listSeen ++
    intEntry "list_unique" stats.listUnique ++
    intEntry "detail_requests" stats.detailRequests ++
    intEntry "dedup_skipped" stats.dedupSkipped ++
    intEntry "notices_written" stats.noticesWritten ++
    intEntry "raw_documents_written" stats.rawDocumentsWritten ++
    textEntry "first_publish_date_seen" stats.firstPublishDateSeen ++
    textEntry "last_publish_date_seen" stats.lastPublishDateSeen ++
    intEntry "return_code" stats.returnCode ++
    textEntry "timeout_stage" stats.timeoutStage ++
    isoformatEntry "heartbeat_at" stats.heartbeatAt ++
    isoformatEntry "timeout_at" stats.timeoutAt

/-- `int(str(value).strip())`; the text of an instant is not a number. -/
def JsonValue.intValue : JsonValue → Option ℤ
  | .text value => readInt (strip value)
  | .int value => intOfText (textOfInt value)
  | .isoformat _ => none

def readPayloadInt (payload : Option JsonObject) (key : String) : Option ℤ :=
  (payload.bind (List.lookup key)).bind JsonValue.intValue

/-! ## Reading what was built -/

section Entries

variable {key other : String}

theorem lookup_intEntry_self (key : String) (value : Option ℤ) :
    (intEntry key value).lookup key = value.map JsonValue.int := by
  cases value <;> simp [intEntry]

theorem lookup_intEntry_of_ne (h : key ≠ other) (value : Option ℤ) : (intEntry other value).lookup key = none := by
  have hkey : (key == other) = false := beq_false_of_ne h
  cases value <;> simp [intEntry, List.lookup_cons, hkey]

theorem lookup_textEntry_of_ne (h : key ≠ other) (value : Option String) :
    (textEntry other value).lookup key = none := by
  have hkey : (key == other) = false := beq_false_of_ne h
  unfold textEntry
  cases value.filter (· ≠ "") <;> simp [List.lookup_cons, hkey]

end Entries

@[simp]
theorem readPayloadInt_jobParams_maxPages (params : JobParams) :
    readPayloadInt (some (buildJobParamsPayload params)) "max_pages" = params.maxPages := by
  have hlookup : (buildJobParamsPayload params).lookup "max_pages" = params.maxPages.map JsonValue.int := by
    simp [buildJobParamsPayload, List.lookup_append, List.lookup_cons, lookup_intEntry_self, lookup_intEntry_of_ne,
      lookup_textEntry_of_ne]
  rw [readPayloadInt, Option.bind_some, hlookup]
  cases params.maxPages <;> simp [JsonValue.intValue]

@[simp]
theorem readPayloadInt_jobParams_backfillYear (params : JobParams) :
    readPayloadInt (some (buildJobParamsPayload params)) "backfill_year" = params.backfillYear := by
  have hlookup : (buildJobParamsPayload params).lookup "backfill_year" = params.backfillYear.map JsonValue.int := by
    simp [buildJobParamsPayload, List.lookup_append, List.lookup_cons, lookup_intEntry_self, lookup_intEntry_of_ne,
      lookup_textEntry_of_ne]
  rw [readPayloadInt, Option.bind_some, hlookup]
  cases params.backfillYear <;> simp [JsonValue.intValue]

end TenderPhase1.Jobs
