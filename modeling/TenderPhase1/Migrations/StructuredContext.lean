import TenderPhase1.Executors.Classification
import TenderPhase1.Foundation.FieldTexts
import TenderPhase1.Foundation.PyNumber
import TenderPhase1.Jobs.Payloads
import TenderPhase1.Migrations.SourceMutex

/-!
# The migration of messages to structured columns

Before revision 20260323_0012 a job had its parameters, its statistics and its failure reason in the message, as
`key=value; key=value`. The revision reads them from there, fills the structured columns, and writes the message
that a reader of the dashboard expects.
-/

namespace TenderPhase1.Migrations

open PyText Jobs Executors FieldTexts

/-! ## The backfill -/

def normalizePlaceholder (value : Option String) : Option String := (asStr value).filter (· ≠ "-")

def asInt (value : Option String) : Option ℤ := (asStr value).bind readInt

/-- `_parse_legacy_message_fields`: the assignments to the dictionary, in their order -/
def parseLegacyMessageFields (message : Option String) : List Field := ((asStr message).map readFields).getD []

section Row

variable (sourceCode : String) (job : CrawlJob) (fields : List Field)

def inferRunStage (status : JobStatus) : String :=
  match normalizePlaceholder (valueOf fields "run_stage"), normalizePlaceholder (valueOf fields "timeout_stage"),
    status with
  | some runStage, _, _ => runStage
  | none, some _, _ => "expired"
  | none, none, .pending => "queued"
  | none, none, .running => "running"
  | none, none, _ => "finished"

def intFieldEntry (key : String) : JsonObject := intEntry key (asInt (valueOf fields key))

def textFieldEntry (key : String) : JsonObject := textEntry key (normalizePlaceholder (valueOf fields key))

/-- `_build_job_params_payload` -/
def legacyJobParams : JsonObject :=
  [("source_code", .text sourceCode), ("job_type", .text job.jobType.text)] ++
    textEntry "triggered_by" (asStr job.triggeredBy) ++
    intFieldEntry fields "max_pages" ++
    intFieldEntry fields "backfill_year" ++
    intEntry "retry_of_job_id" (job.retryOfJobId.map Int.ofNat) ++
    textEntry "spider_name" (normalizePlaceholder (valueOf fields "spider"))

/-- `_build_runtime_stats_payload` -/
def legacyRuntimeStats : JsonObject :=
  [("run_stage", .text (inferRunStage fields job.status))] ++
    ["pages_scraped", "list_seen", "list_unique", "detail_requests", "dedup_skipped", "notices_written",
      "raw_documents_written", "return_code"].flatMap (intFieldEntry fields) ++
    ["first_publish_date_seen", "last_publish_date_seen", "timeout_stage"].flatMap (textFieldEntry fields) ++
    textEntry "spider_name" (normalizePlaceholder (valueOf fields "spider")) ++
    textFieldEntry fields "heartbeat_at" ++
    textFieldEntry fields "timeout_at"

/-- `_build_failure_reason` -/
def legacyFailureReason : Option String :=
  normalizePlaceholder (valueOf fields "failure_reason") <|>
    if job.status = .failed ∨ job.status = .partially then
      (asStr job.message).filter fun message ↦ '=' ∉ message.toList
    else none

/-- `_as_int(fields.get(key)) or 0` -/
def countOf (key : String) : ℤ := (asInt (valueOf fields key)).getD 0

def legacySummary (failureReason : Option String) : String :=
  let parts :=
    [s!"{job.jobType.text} 任务已结束", s!"状态 {job.status.text}",
      "列表页 " ++ toString (countOf fields "pages_scraped"),
      "列表项 " ++ toString (countOf fields "list_unique") ++ "/" ++ toString (countOf fields "list_seen"),
      "详情请求 " ++ toString (countOf fields "detail_requests"),
      "公告 " ++ toString (countOf fields "notices_written"),
      "归档 " ++ toString (countOf fields "raw_documents_written"),
      "去重跳过 " ++ toString (countOf fields "dedup_skipped")] ++
    ((normalizePlaceholder (valueOf fields "first_publish_date_seen")).map fun date ↦ s!"最早发布日期 {date}").toList ++
    ((normalizePlaceholder (valueOf fields "last_publish_date_seen")).map fun date ↦ s!"最晚发布日期 {date}").toList ++
    (failureReason.map fun reason ↦ "异常 " ++ reason).toList ++
    ((asInt (valueOf fields "return_code")).map fun code ↦ s!"退出码 {code}").toList
  String.intercalate "，" parts

/-- `_build_human_message` -/
def legacyHumanMessage (fallbackMessage failureReason : Option String) : Option String :=
  let runStage := inferRunStage fields job.status
  let spiderName := normalizePlaceholder (valueOf fields "spider")
  if fields = [] then fallbackMessage
  else if runStage = "queued" then
    some (String.intercalate "，" ([s!"{job.jobType.text} 任务已入队，等待后台调度执行"] ++
      ((asInt (valueOf fields "max_pages")).map fun pages ↦ s!"最大页数 {pages}").toList ++
      ((asInt (valueOf fields "backfill_year")).map fun year ↦ s!"回填年份 {year}").toList))
  else if runStage = "running" then
    match spiderName with
    | some spider => some s!"{job.jobType.text} 任务执行中（spider={spider}）"
    | none => some s!"{job.jobType.text} 任务执行中"
  else
    match failureReason, normalizePlaceholder (valueOf fields "timeout_stage") with
    | some reason, timeoutStage =>
        if runStage ∈ ["runner_error", "worker_error", "dispatch_abandoned", "dispatch_failed"] then
          some s!"{job.jobType.text} 任务在 {runStage} 阶段失败：{reason}"
        else if timeoutStage = some "pending" then some s!"任务已放弃启动：{reason}"
        else if timeoutStage = some "running" then some s!"任务执行超时：{reason}"
        else some (legacySummary job fields failureReason)
    | none, _ => some (legacySummary job fields failureReason)

/-- The row after a round of `_backfill_structured_context` -/
def withStructuredContext : CrawlJob :=
  let fields := parseLegacyMessageFields job.message
  let failureReason := legacyFailureReason job fields
  { job with
    jobParamsJson := some (legacyJobParams sourceCode job fields)
    runtimeStatsJson := some (legacyRuntimeStats job fields)
    failureReason := failureReason
    message := legacyHumanMessage job fields (asStr job.message) failureReason }

end Row

/-! ## The script's summaries -/

/-- An argument of the command line that is left out where it is blank -/
def optionalField (key value : String) : List Field := if strip value ≠ "" then [(key, strip value)] else []

/-- `date or '-'` -/
def shownDate (date : Option String) : String := (date.filter (· ≠ "")).getD "-"

def summaryFigures (job : CrawlJob) (stats : ListPageStats) : List ℤ :=
  [pagesMetric job stats, job.counters.listItemsSeen, job.counters.listItemsUnique, job.counters.detailPagesFetched,
    job.counters.listItemsSourceDuplicatesSkipped + job.counters.sourceDuplicatesSuppressed,
    job.counters.noticesUpserted, job.counters.documentsSaved]

def summaryFields (args : ScriptArgs) (job : CrawlJob) (stats : ListPageStats) (failureReason : String) : List Field :=
  [("spider", args.spider), ("job_type", args.jobType.text)] ++
    (optionalField "max_pages" args.maxPages ++ (optionalField "backfill_year" args.backfillYear ++
    [("pages_scraped", textOfInt (pagesMetric job stats)),
      ("list_seen", textOfInt job.counters.listItemsSeen),
      ("list_unique", textOfInt job.counters.listItemsUnique),
      ("detail_requests", textOfInt job.counters.detailPagesFetched),
      ("dedup_skipped", textOfInt
        (job.counters.listItemsSourceDuplicatesSkipped + job.counters.sourceDuplicatesSuppressed)),
      ("notices_written", textOfInt job.counters.noticesUpserted),
      ("raw_documents_written", textOfInt job.counters.documentsSaved),
      ("first_publish_date_seen", shownDate stats.firstPublishDateSeen),
      ("last_publish_date_seen", shownDate stats.lastPublishDateSeen),
      ("failure_reason", failureReason)]))

structure PlainDate (date : String) : Prop where
  stripped : Stripped date
  ne_empty : date ≠ ""
  ne_placeholder : date ≠ "-"
  free : ';' ∉ date.toList

/-- Nothing in a summary is taken for a delimiter, and its figures are not too long to be written. -/
structure PlainSummary (args : ScriptArgs) (job : CrawlJob) (stats : ListPageStats) (failureReason : String) : Prop where
  spider : ';' ∉ args.spider.toList
  maxPages : ';' ∉ args.maxPages.toList
  backfillYear : ';' ∉ args.backfillYear.toList
  firstPublishDate : ∀ date ∈ stats.firstPublishDateSeen, PlainDate date
  lastPublishDate : ∀ date ∈ stats.lastPublishDateSeen, PlainDate date
  failureReason : ';' ∉ failureReason.toList
  figures : ∀ figure ∈ summaryFigures job stats, (writeInt figure).isSome

section Summary

variable {args : ScriptArgs} {job : CrawlJob} {stats : ListPageStats} {failureReason : String}

theorem scriptBuildJobSummaryMessage_eq :
    scriptBuildJobSummaryMessage args job stats failureReason =
      joinFields (summaryFields args job stats failureReason) := by
  have hmax : (if strip args.maxPages ≠ "" then ["max_pages=" ++ strip args.maxPages] else []) =
      (optionalField "max_pages" args.maxPages).map fieldText := by
    unfold optionalField
    split_ifs <;> rfl
  have hyear : (if strip args.backfillYear ≠ "" then ["backfill_year=" ++ strip args.backfillYear] else []) =
      (optionalField "backfill_year" args.backfillYear).map fieldText := by
    unfold optionalField
    split_ifs <;> rfl
  rw [scriptBuildJobSummaryMessage, joinFields, summaryFields, hmax, hyear]
  simp only [List.map_append, List.map_cons, List.map_nil, List.append_assoc]
  rfl

/-- A blank text is no number, either. -/
@[simp]
theorem asInt_some (text : String) : asInt (some text) = readInt (strip text) := by
  rw [asInt, asStr_some]
  split_ifs with hblank
  · rw [hblank, readInt_empty, Option.bind_none]
  · rw [Option.bind_some]

/-- The figures of a plain summary are read back. -/
theorem PlainSummary.readInt_figures (hplain : PlainSummary args job stats failureReason) :
    readInt (textOfInt (pagesMetric job stats)) = some (pagesMetric job stats) ∧
      readInt (textOfInt job.counters.listItemsSeen) = some job.counters.listItemsSeen ∧
      readInt (textOfInt job.counters.listItemsUnique) = some job.counters.listItemsUnique ∧
      readInt (textOfInt job.counters.detailPagesFetched) = some job.counters.detailPagesFetched ∧
      readInt (textOfInt
        (job.counters.listItemsSourceDuplicatesSkipped + job.counters.sourceDuplicatesSuppressed)) =
          some (job.counters.listItemsSourceDuplicatesSkipped + job.counters.sourceDuplicatesSuppressed) ∧
      readInt (textOfInt job.counters.noticesUpserted) = some job.counters.noticesUpserted ∧
      readInt (textOfInt job.counters.documentsSaved) = some job.counters.documentsSaved := by
  have hread : ∀ figure ∈ summaryFigures job stats, readInt (textOfInt figure) = some figure :=
    fun figure hmem ↦ readInt_textOfInt (hplain.figures figure hmem)
  simpa [summaryFigures] using hread

@[simp]
theorem asInt_none : asInt none = none := rfl

@[simp]
theorem asInt_asStr (value : Option String) : asInt (asStr value) = asInt value := by
  cases value with
  | none => rfl
  | some text =>
    rw [asStr_some]
    split_ifs with hblank
    · rw [asInt_some, hblank, readInt_empty]
      rfl
    · rw [asInt_some, asInt_some, strip_strip]

theorem map_strip_asStr (value : Option String) : (asStr value).map strip = asStr value := by
  cases value with
  | none => rfl
  | some text =>
    rw [asStr_some]
    split_ifs
    · rfl
    · rw [Option.map_some, strip_strip]

@[simp]
theorem normalizePlaceholder_none : normalizePlaceholder none = none := rfl

@[simp]
theorem normalizePlaceholder_strip (text : String) :
    normalizePlaceholder (some (strip text)) = normalizePlaceholder (some text) := by
  rw [normalizePlaceholder, normalizePlaceholder, asStr_some, asStr_some, strip_strip]

theorem filter_date {date : Option String} (h : ∀ text ∈ date, PlainDate text) : date.filter (· ≠ "") = date := by
  cases date with
  | none => rfl
  | some text => simp [(h text rfl).ne_empty]

@[simp]
theorem normalizePlaceholder_date {date : Option String} (h : ∀ text ∈ date, PlainDate text) :
    normalizePlaceholder (some (shownDate date)) = date := by
  cases date with
  | none => rfl
  | some text =>
    have hplain := h text rfl
    rw [shownDate, filter_date h, Option.getD_some, normalizePlaceholder, asStr_some_iff.mpr ⟨hplain.stripped, hplain.ne_empty⟩]
    simp [hplain.ne_placeholder]

theorem valueOf_optionalField (name value key : String) :
    valueOf (optionalField name value) key = if key = name then asStr (some value) else none := by
  unfold optionalField
  rw [asStr_some]
  by_cases hkey : key = name <;> by_cases hblank : strip value = "" <;> simp [valueOf_cons, hkey, hblank]

theorem valueOf_map (change : String → String) (fields : List Field) (key : String) :
    valueOf (fields.map fun field ↦ (field.1, change field.2)) key = (valueOf fields key).map change := by
  induction fields with
  | nil => rfl
  | cons field fields ih =>
    rw [List.map_cons, valueOf_cons, valueOf_cons, ih]
    by_cases hkey : key = field.1 <;> cases valueOf fields key <;> simp [hkey]

/-- The keys of the format have no delimiter in them. -/
theorem written_of_value {key value : String} (hkey : Stripped key ∧ key ≠ "" ∧ '=' ∉ key.toList ∧ ';' ∉ key.toList)
    (hvalue : ';' ∉ value.toList) : Written (key, value) :=
  ⟨hkey.1, hkey.2.1, hkey.2.2, hvalue⟩

theorem not_mem_textOfInt (number : ℤ) : ';' ∉ (textOfInt number).toList := by
  intro hmem
  have hchar : ';' = '-' ∨ ';'.isDigit := forall_mem_textOfInt hmem
  exact absurd hchar (by decide)

theorem not_mem_strip {text : String} (h : ';' ∉ text.toList) : ';' ∉ (strip text).toList := by
  rw [strip, String.toList_ofList, Urllib.stripChars_eq]
  exact fun hmem ↦ h ((List.dropWhile_suffix isSpace).subset (Urllib.mem_of_mem_rstrip hmem))

theorem not_mem_date {date : Option String} (h : ∀ text ∈ date, PlainDate text) :
    ';' ∉ (shownDate date).toList := by
  cases date with
  | none => decide
  | some text =>
    rw [shownDate, filter_date h]
    exact (h text rfl).free

theorem written_optionalField {name value : String} {field : Field}
    (hname : Stripped name ∧ name ≠ "" ∧ '=' ∉ name.toList ∧ ';' ∉ name.toList) (hvalue : ';' ∉ value.toList)
    (hmem : field ∈ optionalField name value) : Written field := by
  unfold optionalField at hmem
  split_ifs at hmem
  · obtain rfl := List.mem_singleton.mp hmem
    exact written_of_value hname (not_mem_strip hvalue)
  · cases hmem

/-- Every field of a plain summary can be read back. -/
theorem written_summaryFields (hplain : PlainSummary args job stats failureReason) :
    ∀ field ∈ summaryFields args job stats failureReason, Written field := by
  intro field hmem
  have hjobType : ';' ∉ args.jobType.text.toList := by cases args.jobType <;> decide
  simp only [summaryFields, List.mem_append, List.mem_cons, List.not_mem_nil, or_false] at hmem
  rcases hmem with (rfl | rfl) | hmem | hmem | rfl | rfl | rfl | rfl | rfl | rfl | rfl | rfl | rfl | rfl
  · exact written_of_value (by decide) hplain.spider
  · exact written_of_value (by decide) hjobType
  · exact written_optionalField (by decide) hplain.maxPages hmem
  · exact written_optionalField (by decide) hplain.backfillYear hmem
  · exact written_of_value (by decide) (not_mem_textOfInt _)
  · exact written_of_value (by decide) (not_mem_textOfInt _)
  · exact written_of_value (by decide) (not_mem_textOfInt _)
  · exact written_of_value (by decide) (not_mem_textOfInt _)
  · exact written_of_value (by decide) (not_mem_textOfInt _)
  · exact written_of_value (by decide) (not_mem_textOfInt _)
  · exact written_of_value (by decide) (not_mem_textOfInt _)
  · exact written_of_value (by decide) (not_mem_date hplain.firstPublishDate)
  · exact written_of_value (by decide) (not_mem_date hplain.lastPublishDate)
  · exact written_of_value (by decide) hplain.failureReason

@[simp]
theorem parseLegacyMessageFields_some (text : String) : parseLegacyMessageFields (some text) = readFields text := by
  rw [parseLegacyMessageFields, asStr_some]
  split_ifs with hblank
  · rw [← readFields_strip text, hblank]
    rfl
  · rw [Option.map_some, Option.getD_some, readFields_strip]

/-- The fields of a summary are read back. -/
theorem valueOf_parse (hplain : PlainSummary args job stats failureReason) (key : String) :
    valueOf (parseLegacyMessageFields (some (scriptBuildJobSummaryMessage args job stats failureReason))) key =
      (valueOf (summaryFields args job stats failureReason) key).map strip := by
  rw [parseLegacyMessageFields_some, scriptBuildJobSummaryMessage_eq, readFields_joinFields (written_summaryFields hplain),
    valueOf_map]

theorem mem_scriptBuildJobSummaryMessage :
    '=' ∈ (scriptBuildJobSummaryMessage args job stats failureReason).toList := by
  rw [scriptBuildJobSummaryMessage_eq, joinFields, summaryFields, List.cons_append, List.map_cons,
    String.intercalate_cons_of_ne_nil (by simp)]
  simp [fieldText]

theorem inferRunStage_of_none {fields : List Field} {status : JobStatus} (hfinal : status.isFinal)
    (hstage : valueOf fields "run_stage" = none) (htimeout : valueOf fields "timeout_stage" = none) :
    inferRunStage fields status = "finished" := by
  unfold inferRunStage
  rw [hstage, htimeout]
  cases status with
  | pending => cases hfinal
  | running => cases hfinal
  | succeeded => rfl
  | failed => rfl
  | partially => rfl

section Read

variable {fields : List Field} (hplain : PlainSummary args job stats failureReason)
  (hread : ∀ key, valueOf fields key = (valueOf (summaryFields args job stats failureReason) key).map strip)

include hread in
theorem inferRunStage_summary (hfinal : job.status.isFinal) : inferRunStage fields job.status = "finished" := by
  refine inferRunStage_of_none hfinal ?_ ?_
  · simp [hread, summaryFields, valueOf_append, valueOf_cons, valueOf_optionalField]
  · simp [hread, summaryFields, valueOf_append, valueOf_cons, valueOf_optionalField]

include hplain hread in
/-- The statistics are those that the service stores with a finished run, without the return code. -/
theorem legacyRuntimeStats_summary (hfinal : job.status.isFinal) :
    (legacyRuntimeStats job fields).Perm
      (buildRuntimeStatsPayload
        { finalRuntimeStats job stats 0 with
          returnCode := none
          spiderName := normalizePlaceholder (some args.spider) }) := by
  have hfirst := normalizePlaceholder_date hplain.firstPublishDate
  have hlast := normalizePlaceholder_date hplain.lastPublishDate
  have hnone : ∀ key, intEntry key none = [] ∧ textEntry key none = [] ∧ isoformatEntry key none = [] :=
    fun key ↦ ⟨rfl, rfl, rfl⟩
  unfold legacyRuntimeStats intFieldEntry textFieldEntry
  rw [inferRunStage_summary hread hfinal]
  simp only [hread, summaryFields, valueOf_append, valueOf_cons, valueOf_nil, valueOf_optionalField]
  simp [hfirst, hlast, hnone, hplain.readInt_figures, buildRuntimeStatsPayload, finalRuntimeStats]
  refine List.Perm.trans (List.Perm.of_eq ?_) List.perm_append_comm
  simp only [List.append_assoc]

include hread in
theorem legacyJobParams_summary (sourceCode : String) :
    legacyJobParams sourceCode job fields =
      buildJobParamsPayload
        { sourceCode := sourceCode
          jobType := job.jobType
          triggeredBy := asStr job.triggeredBy
          maxPages := readInt (strip args.maxPages)
          backfillYear := readInt (strip args.backfillYear)
          retryOfJobId := job.retryOfJobId
          spiderName := normalizePlaceholder (some args.spider) } := by
  have hoption (text : String) : asInt ((asStr (some text)).map strip) = readInt (strip text) := by
    rw [map_strip_asStr, asInt_asStr, asInt_some]
  unfold legacyJobParams intFieldEntry buildJobParamsPayload
  simp only [hread, summaryFields, valueOf_append, valueOf_cons, valueOf_nil, valueOf_optionalField]
  simp [hoption]

include hread in
/-- The text of a summary is no failure reason, as it has an equals sign in it. -/
theorem legacyFailureReason_summary
    (hmessage : job.message = some (scriptBuildJobSummaryMessage args job stats failureReason)) :
    legacyFailureReason job fields = normalizePlaceholder (some failureReason) := by
  have hvalue : valueOf fields "failure_reason" = some (strip failureReason) := by
    simp [hread, summaryFields, valueOf_append, valueOf_cons]
  have hequals : '=' ∈ (strip (scriptBuildJobSummaryMessage args job stats failureReason)).toList :=
    mem_strip rfl mem_scriptBuildJobSummaryMessage
  have hnone : (if job.status = .failed ∨ job.status = .partially then
      (asStr job.message).filter fun message ↦ '=' ∉ message.toList else none) = none := by
    rw [hmessage, asStr_some]
    split_ifs <;> simp [hequals]
  rw [legacyFailureReason, hvalue, normalizePlaceholder_strip, hnone]
  cases normalizePlaceholder (some failureReason) <;> rfl

theorem toList_normalizePlaceholder (label text : String) :
    ((normalizePlaceholder (some text)).map fun reason ↦ label ++ reason).toList =
      if strip text ≠ "" ∧ strip text ≠ "-" then [label ++ strip text] else [] := by
  rw [normalizePlaceholder, asStr_some]
  by_cases hblank : strip text = "" <;> by_cases hplaceholder : strip text = "-" <;> simp [hblank, hplaceholder]

include hplain hread in
/-- The message is the one that the service writes for such a run. -/
theorem legacySummary_summary :
    legacySummary job fields (normalizePlaceholder (some failureReason)) =
      buildJobSummaryMessage job.status job.jobType job stats 0 failureReason := by
  have hfirst := normalizePlaceholder_date hplain.firstPublishDate
  have hlast := normalizePlaceholder_date hplain.lastPublishDate
  unfold legacySummary countOf buildJobSummaryMessage
  rw [filter_date hplain.firstPublishDate, filter_date hplain.lastPublishDate, toList_normalizePlaceholder]
  simp only [hread, summaryFields, valueOf_append, valueOf_cons, valueOf_nil, valueOf_optionalField]
  simp [hfirst, hlast, hplain.readInt_figures, finalRuntimeStats]

include hplain hread in
theorem legacyHumanMessage_summary (fallbackMessage : Option String) (hfinal : job.status.isFinal) :
    legacyHumanMessage job fields fallbackMessage (normalizePlaceholder (some failureReason)) =
      some (buildJobSummaryMessage job.status job.jobType job stats 0 failureReason) := by
  have hspider : valueOf fields "spider" = some (strip args.spider) := by
    simp [hread, summaryFields, valueOf_append, valueOf_cons, valueOf_optionalField]
  have htimeout : valueOf fields "timeout_stage" = none := by
    simp [hread, summaryFields, valueOf_append, valueOf_cons, valueOf_optionalField]
  have hne : fields ≠ [] := by
    rintro rfl
    cases hspider
  have hstage := inferRunStage_summary hread hfinal
  unfold legacyHumanMessage
  rw [← legacySummary_summary hplain hread]
  simp only [hstage, htimeout, if_neg hne]
  cases normalizePlaceholder (some failureReason) <;> simp

end Read

/-- A finished job with a script's summary of its counters gets the columns and the message that the service would
have written for the run: the same statistics but for the return code, the failure reason, the parameters of the
command line, and the summary of the service. -/
theorem withStructuredContext_summary (sourceCode : String) (hplain : PlainSummary args job stats failureReason)
    (hmessage : job.message = some (scriptBuildJobSummaryMessage args job stats failureReason))
    (hfinal : job.status.isFinal) :
    ∃ runtimeStats, withStructuredContext sourceCode job =
      { job with
        jobParamsJson := some (buildJobParamsPayload
          { sourceCode := sourceCode
            jobType := job.jobType
            triggeredBy := asStr job.triggeredBy
            maxPages := readInt (strip args.maxPages)
            backfillYear := readInt (strip args.backfillYear)
            retryOfJobId := job.retryOfJobId
            spiderName := normalizePlaceholder (some args.spider) })
        runtimeStatsJson := some runtimeStats
        failureReason := normalizePlaceholder (some failureReason)
        message := some (buildJobSummaryMessage job.status job.jobType job stats 0 failureReason) } ∧
      runtimeStats.Perm (buildRuntimeStatsPayload
        { finalRuntimeStats job stats 0 with
          returnCode := none
          spiderName := normalizePlaceholder (some args.spider) }) := by
  have hread : ∀ key, valueOf (parseLegacyMessageFields job.message) key =
      (valueOf (summaryFields args job stats failureReason) key).map strip :=
    fun key ↦ hmessage ▸ valueOf_parse hplain key
  refine ⟨legacyRuntimeStats job (parseLegacyMessageFields job.message), ?_,
    legacyRuntimeStats_summary hplain hread hfinal⟩
  rw [withStructuredContext, legacyFailureReason_summary hread hmessage, legacyJobParams_summary hread,
    legacyHumanMessage_summary hplain hread _ hfinal]

end Summary

/-- A run of the script that saw five items on one page -/
def summarisedArgs : ScriptArgs := { spider := "anhui", jobType := .manual, maxPages := "2", backfillYear := "" }

def summarisedStats : ListPageStats := { pagesScraped := 1, firstPublishDateSeen := some "2026-03-01" }

def summarisedJob : CrawlJob :=
  let counted : CrawlJob :=
    { CrawlJob.created 1 1 { jobType := .manual } 0 0 with
      status := .succeeded, counters := { listItemsSeen := 5, listItemsUnique := 5 } }
  { counted with message := some (scriptBuildJobSummaryMessage summarisedArgs counted summarisedStats "-") }

/-- A job that has succeeded without a reason. -/
theorem withStructuredContext_summary_summarisedJob :
    (withStructuredContext "anhui" summarisedJob).failureReason = none ∧
      (withStructuredContext "anhui" summarisedJob).message =
        some (buildJobSummaryMessage .succeeded .manual summarisedJob summarisedStats 0 "-") := by
  have hdate : PlainDate "2026-03-01" := ⟨by decide, by decide, by decide, by decide⟩
  have hplain : PlainSummary summarisedArgs summarisedJob summarisedStats "-" :=
    { spider := by decide
      maxPages := by decide
      backfillYear := by decide
      firstPublishDate := fun date hmem ↦ Option.some.inj hmem ▸ hdate
      lastPublishDate := fun date hmem ↦ by cases hmem
      failureReason := by decide
      figures := by decide }
  obtain ⟨runtimeStats, hmigrated, -⟩ := withStructuredContext_summary "anhui" hplain
    (rfl : summarisedJob.message = some (scriptBuildJobSummaryMessage summarisedArgs summarisedJob summarisedStats "-"))
    rfl
  rw [hmigrated]
  exact ⟨rfl, rfl⟩

/-! ## The jobs that the mutex has failed -/

theorem joinFields_pair (first second : Field) :
    joinFields [first, second] = first.1 ++ "=" ++ first.2 ++ "; " ++ (second.1 ++ "=") ++ second.2 := by
  rw [joinFields, List.map_cons, List.map_cons, List.map_nil, String.intercalate_cons_of_ne_nil (List.cons_ne_nil _ _),
    String.intercalate_singleton]
  simp only [fieldText, String.append_assoc]

theorem mutexFailureMessage_eq (keepJobId : ℕ) : mutexFailureMessage keepJobId =
    joinFields [("run_stage", "source_mutex_migration"), ("failure_reason", mutexFailureReason keepJobId)] := by
  have htext : "run_stage=source_mutex_migration; failure_reason=" =
      "run_stage" ++ "=" ++ "source_mutex_migration" ++ "; " ++ ("failure_reason" ++ "=") := by decide +kernel
  rw [joinFields_pair]
  exact congrArg (fun text ↦ text ++ mutexFailureReason keepJobId) htext

theorem toString_ne_empty (n : ℕ) : toString n ≠ "" := by
  intro hempty
  have hdigits := congrArg String.toList hempty
  rw [Nat.toString_eq_repr, Nat.toList_repr] at hdigits
  exact Nat.toDigits_ne_nil hdigits

theorem stripped_mutexFailureReason (keepJobId : ℕ) : Stripped (mutexFailureReason keepJobId) :=
  Stripped.append (by decide) (strip_of_forall_not_space fun _ hc ↦ isSpace_of_mem_repr hc) (by decide)
    (toString_ne_empty keepJobId)

/-- The reason of a duplicate is no placeholder. -/
theorem normalizePlaceholder_mutexFailureReason (keepJobId : ℕ) :
    normalizePlaceholder (some (mutexFailureReason keepJobId)) = some (mutexFailureReason keepJobId) := by
  have hhead : (mutexFailureReason keepJobId).toList.head? = some '来' := by
    have htext : (mutexFailureReason keepJobId).toList =
        "来源级互斥迁移修复：同一来源仅保留最新活跃任务 #".toList ++ (toString keepJobId).toList := String.toList_append
    rw [htext, List.head?_append_of_ne_nil _ (by decide +kernel)]
    decide +kernel
  have hempty : mutexFailureReason keepJobId ≠ "" := by
    intro hempty
    rw [hempty] at hhead
    cases hhead
  have hplaceholder : mutexFailureReason keepJobId ≠ "-" := by
    intro hplaceholder
    rw [hplaceholder] at hhead
    exact absurd hhead (by decide)
  rw [normalizePlaceholder, asStr_some_iff.mpr ⟨stripped_mutexFailureReason keepJobId, hempty⟩]
  exact Option.filter_some_pos (decide_eq_true hplaceholder)

theorem written_mutexFailureMessage (keepJobId : ℕ) :
    ∀ field ∈ [("run_stage", "source_mutex_migration"), ("failure_reason", mutexFailureReason keepJobId)],
      Written field := by
  have hnumber : ';' ∉ (toString keepJobId).toList := by
    rw [Nat.toString_eq_repr, Nat.toList_repr]
    exact fun hmem ↦ absurd (Nat.isDigit_of_mem_toDigits (by decide) (by decide) hmem) (by decide)
  have htext : (mutexFailureReason keepJobId).toList =
      "来源级互斥迁移修复：同一来源仅保留最新活跃任务 #".toList ++ (toString keepJobId).toList := String.toList_append
  have hreason : ';' ∉ (mutexFailureReason keepJobId).toList := by
    rw [htext, List.mem_append, not_or]
    exact ⟨by decide +kernel, hnumber⟩
  simp only [List.mem_cons, List.not_mem_nil, or_false, forall_eq_or_imp, forall_eq]
  exact ⟨written_of_value (by decide) (by decide), written_of_value (by decide) hreason⟩

/-- What is read of an old message stands before the mutex's own fields. -/
theorem parse_appendMessage (message : Option String) (keepJobId : ℕ) :
    ∃ earlier, parseLegacyMessageFields (some (appendMessage message (mutexFailureMessage keepJobId))) = earlier ++
      [("run_stage", "source_mutex_migration"), ("failure_reason", mutexFailureReason keepJobId)] := by
  have hown : readFields (mutexFailureMessage keepJobId) =
      [("run_stage", "source_mutex_migration"), ("failure_reason", mutexFailureReason keepJobId)] := by
    have hstrip : strip (mutexFailureReason keepJobId) = mutexFailureReason keepJobId :=
      stripped_mutexFailureReason keepJobId
    have hstage : strip "source_mutex_migration" = "source_mutex_migration" := by decide
    rw [mutexFailureMessage_eq, readFields_joinFields (written_mutexFailureMessage keepJobId), List.map_cons,
      List.map_cons, List.map_nil, hstrip, hstage]
  rw [parseLegacyMessageFields_some, appendMessage]
  split_ifs
  · exact ⟨[], hown⟩
  · exact ⟨readFields (strip (message.getD "")), by rw [readFields_append_field, hown]⟩

/-- Whatever the message of a job was, the mutex's reason is what is read of it once the job has been failed. -/
theorem withStructuredContext_failedDuplicate (sourceCode : String) (job : CrawlJob) (moment : Instant) (keepJobId : ℕ) :
    let migrated := withStructuredContext sourceCode
      (job.failedDuplicate moment (appendMessage job.message (mutexFailureMessage keepJobId)))
    migrated.failureReason = some (mutexFailureReason keepJobId) ∧
      ∃ runtimeStats, migrated.runtimeStatsJson = some runtimeStats ∧
        runtimeStats.lookup "run_stage" = some (.text "source_mutex_migration") := by
  intro migrated
  obtain ⟨earlier, hread⟩ := parse_appendMessage job.message keepJobId
  have hreason : normalizePlaceholder (some (mutexFailureReason keepJobId)) = some (mutexFailureReason keepJobId) :=
    normalizePlaceholder_mutexFailureReason keepJobId
  have hstage : valueOf (earlier ++
      [("run_stage", "source_mutex_migration"), ("failure_reason", mutexFailureReason keepJobId)]) "run_stage" =
        some "source_mutex_migration" := by
    simp [valueOf_append, valueOf_cons]
  have hfailure : valueOf (earlier ++
      [("run_stage", "source_mutex_migration"), ("failure_reason", mutexFailureReason keepJobId)]) "failure_reason" =
        some (mutexFailureReason keepJobId) := by
    simp [valueOf_append, valueOf_cons]
  constructor
  · change legacyFailureReason _ (parseLegacyMessageFields (some _)) = _
    rw [hread, legacyFailureReason, hfailure, hreason]
    rfl
  · refine ⟨legacyRuntimeStats _ (parseLegacyMessageFields (some _)), rfl, ?_⟩
    have hinfer : ∀ status, inferRunStage (earlier ++
        [("run_stage", "source_mutex_migration"), ("failure_reason", mutexFailureReason keepJobId)]) status =
          "source_mutex_migration" := by
      intro status
      unfold inferRunStage
      rw [hstage]
      rfl
    rw [hread, legacyRuntimeStats, hinfer]
    rfl

/-- After both migrations the newest active job of a source is as it was but for its new columns, and every other
active job is failed and has the newest one's number as its failure reason, whatever its message had been. -/
theorem migrated_duplicates (moment : Instant) (table : List CrawlJob) (hids : (table.map CrawlJob.id).Nodup)
    (duplicates : List ℕ) (hread : duplicates.Perm (duplicateSourceIds table)) (sourceCode : ℕ → String) :
    ∃ after, upgradeSourceMutex moment duplicates table = .ok after ∧
      ∀ sourceSiteId, (∃ job ∈ table, job.activeIn sourceSiteId) →
        ∃ kept ∈ table, kept.activeIn sourceSiteId ∧ kept ∈ after ∧
          ∀ job ∈ table, job.activeIn sourceSiteId → job ≠ kept → kept.NewerThan job ∧
            ∃ migrated ∈ after.map fun row ↦ withStructuredContext (sourceCode row.sourceSiteId) row,
              migrated.id = job.id ∧ migrated.status = .failed ∧
                migrated.failureReason = some (mutexFailureReason kept.id) := by
  refine ⟨_, upgradeSourceMutex_eq hids hread, fun sourceSiteId hactive ↦ ?_⟩
  have hleaves : LeavesNewest moment table _ := leavesNewest_settled hids
  obtain ⟨kept, hkept, hkeptActive, hstays, hothers⟩ := hleaves.newest sourceSiteId hactive
  refine ⟨kept, hkept, hkeptActive, hstays, fun job hjob hjobActive hne ↦ ?_⟩
  obtain ⟨hnewer, hfailed⟩ := hothers job hjob hjobActive hne
  refine ⟨hnewer, _, List.mem_map.mpr ⟨_, hfailed, rfl⟩, rfl, rfl, ?_⟩
  exact (withStructuredContext_failedDuplicate _ job moment kept.id).1

theorem migrated_duplicates_legacyTable :
    ∃ after, upgradeSourceMutex 100 [1] legacyTable = .ok after ∧
      ∃ migrated ∈ after.map (withStructuredContext "anhui"), migrated.id = 1 ∧ migrated.status = .failed ∧
        migrated.failureReason = some (mutexFailureReason 2) := by
  have hids : (legacyTable.map CrawlJob.id).Nodup := by decide
  have hread : [1].Perm (duplicateSourceIds legacyTable) := by decide
  obtain ⟨after, hafter, hsources⟩ := migrated_duplicates 100 legacyTable hids [1] hread fun _ ↦ "anhui"
  obtain ⟨kept, hkept, -, -, hothers⟩ := hsources 1 ⟨queuedLast, by decide, by decide⟩
  have hsame := eq_queuedLast hkept fun hne ↦ (hothers queuedLast (by decide) (by decide) hne).1
  subst hsame
  obtain ⟨running, hrunning, hactive, hid, hne⟩ :
      ∃ job ∈ legacyTable, job.activeIn 1 ∧ job.id = 1 ∧ job ≠ queuedLast := by decide
  obtain ⟨-, migrated, hmigrated, hmigratedId, hstatus, hreason⟩ := hothers running hrunning hactive hne
  exact ⟨after, hafter, migrated, hmigrated, hmigratedId.trans hid, hstatus, hreason⟩

end TenderPhase1.Migrations
