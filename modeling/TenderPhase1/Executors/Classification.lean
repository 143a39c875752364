import TenderPhase1.Jobs.Lifecycle

/-!
# Classifying a finished spider

How an executor turns the exit code of the spider, the job's counters, its crawl
errors and its archived list pages into a failure reason, a final status and the
texts it stores with them. `_run_existing_crawl_job` and `scripts/run_crawl_job.py`
have a version each.
-/

namespace TenderPhase1.Executors

open Jobs PyText

/-- The columns of a `crawl_error` row of the job that the executors select. -/
structure CrawlErrorEntry where
  stage : String
  errorMessage : String
  deriving DecidableEq

/-- `extra_meta` of a raw document of the job where it is an object: `str(role or "")`, and the
four publish dates in the order they are read, `None` left out. -/
structure ListPageMeta where
  role : String
  publishDates : List (Option String)

def normalizeIsoDate (value : Option String) : Option String :=
  value.bind fun value ↦
    let text := (strip value).toList
    if 10 ≤ text.length ∧ text[4]? = some '-' ∧ text[7]? = some '-' then some (String.ofList (text.take 10))
    else none

structure ListPageStats where
  pagesScraped : ℤ := 0
  firstPublishDateSeen : Option String := none
  lastPublishDateSeen : Option String := none

/-- One candidate date: the first date seen is the greatest, the last one the least. -/
def ListPageStats.see (stats : ListPageStats) (value : String) : ListPageStats :=
  { stats with
    firstPublishDateSeen := match stats.firstPublishDateSeen with
      | none => some value
      | some first => if first < value then some value else some first
    lastPublishDateSeen := match stats.lastPublishDateSeen with
      | none => some value
      | some last => if value < last then some value else some last }

def collectListPageStats (metas : List ListPageMeta) : ListPageStats :=
  metas.foldl (fun stats page ↦
    if lower page.role = "list" then
      (page.publishDates.filterMap normalizeIsoDate).foldl ListPageStats.see
        { stats with pagesScraped := stats.pagesScraped + 1 }
    else stats) {}

/-! ## The service -/

def pageFetchFailure : String := "页面获取失败"
def detailParseFailure : String := "详情解析失败"

/-- The messages of the errors of one stage, empty ones left out. -/
def stageErrors (stage : String) (errors : List CrawlErrorEntry) : List String :=
  (errors.filter fun error ↦ lower error.stage = stage ∧ error.errorMessage ≠ "").map CrawlErrorEntry.errorMessage

def isDetailError (message : String) : Bool := contains message "详情" || contains (lower message) "detail"

def prefixFailureReason (label reason : String) : String :=
  let normalizedReason := strip reason
  if normalizedReason = "" then label
  else if normalizedReason = label || startsWith normalizedReason (label ++ ":") then normalizedReason
  else label ++ ": " ++ normalizedReason

def inferFailureReason (snapshot : CrawlJob) (errors : List CrawlErrorEntry) (pagesScraped returnCode : ℤ) :
    String :=
  if returnCode ≠ 0 then s!"页面获取失败: spider 进程退出({returnCode})"
  else
    let errorMessages := (errors.map fun error ↦ strip error.errorMessage).filter (· ≠ "")
    let parseErrors := stageErrors "parse" errors
    match stageErrors "fetch" errors, decide (pagesScraped ≤ 0 ∨ snapshot.counters.listItemsSeen ≤ 0) with
    | fetchError :: _, true => prefixFailureReason pageFetchFailure fetchError
    | _, _ =>
        if snapshot.counters.listItemsSeen ≤ 0 then "列表解析为0"
        else
          match parseErrors.find? isDetailError, parseErrors, errorMessages with
          | some detailError, _, _ => prefixFailureReason detailParseFailure detailError
          | none, parseError :: _, message :: _ =>
              if snapshot.counters.detailPagesFetched ≤ 0 then prefixFailureReason detailParseFailure parseError
              else prefixFailureReason detailParseFailure message
          | none, parseError :: _, [] =>
              if snapshot.counters.detailPagesFetched ≤ 0 then prefixFailureReason detailParseFailure parseError
              else "-"
          | none, [], message :: _ => prefixFailureReason detailParseFailure message
          | none, [], [] => "-"

def inferFinalStatus (snapshot : CrawlJob) (failureReason : String) (returnCode : ℤ) : JobStatus :=
  if returnCode ≠ 0 then .failed
  else if startsWith (strip failureReason) pageFetchFailure then .failed
  else if snapshot.counters.errorCount > 0 then .partially
  else .succeeded

/-- The pages the job has scraped: counted in the archive, or else by the spider. -/
def pagesMetric (snapshot : CrawlJob) (stats : ListPageStats) : ℤ :=
  if stats.pagesScraped > 0 then stats.pagesScraped else snapshot.counters.pagesFetched

/-- `_build_final_runtime_stats_json`, before it is turned into a payload. -/
def finalRuntimeStats (snapshot : CrawlJob) (stats : ListPageStats) (returnCode : ℤ) : RuntimeStats where
  runStage := "finished"
  pagesScraped := some (pagesMetric snapshot stats)
  listSeen := some snapshot.counters.listItemsSeen
  listUnique := some snapshot.counters.listItemsUnique
  detailRequests := some snapshot.counters.detailPagesFetched
  dedupSkipped := some
    (snapshot.counters.listItemsSourceDuplicatesSkipped + snapshot.counters.sourceDuplicatesSuppressed)
  noticesWritten := some snapshot.counters.noticesUpserted
  rawDocumentsWritten := some snapshot.counters.documentsSaved
  firstPublishDateSeen := stats.firstPublishDateSeen
  lastPublishDateSeen := stats.lastPublishDateSeen
  returnCode := some returnCode

def buildJobSummaryMessage (finalStatus : JobStatus) (jobType : JobType) (snapshot : CrawlJob)
    (stats : ListPageStats) (returnCode : ℤ) (failureReason : String) : String :=
  let final := finalRuntimeStats snapshot stats returnCode
  let parts :=
    [s!"{jobType.text} 任务已结束", s!"状态 {finalStatus.text}",
      "列表页 " ++ toString (final.pagesScraped.getD 0),
      "列表项 " ++ toString (final.listUnique.getD 0) ++ "/" ++ toString (final.listSeen.getD 0),
      "详情请求 " ++ toString (final.detailRequests.getD 0),
      "公告 " ++ toString (final.noticesWritten.getD 0),
      "归档 " ++ toString (final.rawDocumentsWritten.getD 0),
      "去重跳过 " ++ toString (final.dedupSkipped.getD 0)] ++
    ((stats.firstPublishDateSeen.filter (· ≠ "")).map fun date ↦ s!"最早发布日期 {date}").toList ++
    ((stats.lastPublishDateSeen.filter (· ≠ "")).map fun date ↦ s!"最晚发布日期 {date}").toList ++
    (if strip failureReason ≠ "" ∧ strip failureReason ≠ "-" then ["异常 " ++ strip failureReason] else []) ++
    (if returnCode ≠ 0 then [s!"退出码 {returnCode}"] else [])
  String.intercalate "，" parts

def buildFailureMessage (jobType : JobType) (runStage failureReason : String) : String :=
  s!"{jobType.text} 任务在 {runStage} 阶段失败：{failureReason}"

/-! ## The script -/

/-- `infer_failure_reason` of `scripts/run_crawl_job.py`; it has no branch for other errors. -/
def scriptInferFailureReason (snapshot : CrawlJob) (errors : List CrawlErrorEntry)
    (pagesScraped returnCode : ℤ) : String :=
  if returnCode ≠ 0 then s!"页面获取失败: spider 进程退出({returnCode})"
  else
    let parseErrors := (stageErrors "parse" errors).map strip
    match stageErrors "fetch" errors, decide (pagesScraped ≤ 0 ∨ snapshot.counters.listItemsSeen ≤ 0) with
    | fetchError :: _, true => "页面获取失败: " ++ strip fetchError
    | _, _ =>
        if snapshot.counters.listItemsSeen ≤ 0 then "列表解析为0"
        else
          match parseErrors.find? isDetailError, parseErrors with
          | some detailError, _ => "详情解析失败: " ++ detailError
          | none, parseError :: _ =>
              if snapshot.counters.detailPagesFetched ≤ 0 then "详情解析失败: " ++ parseError else "-"
          | none, [] => "-"

/-- What `build_job_summary_message` takes from the command line. -/
structure ScriptArgs where
  spider : String
  jobType : JobType
  maxPages : String
  backfillYear : String

/-- `build_job_summary_message` of `scripts/run_crawl_job.py` -/
def scriptBuildJobSummaryMessage (args : ScriptArgs) (snapshot : CrawlJob) (stats : ListPageStats)
    (failureReason : String) : String :=
  let maxPages := if strip args.maxPages ≠ "" then ["max_pages=" ++ strip args.maxPages] else []
  let backfillYear := if strip args.backfillYear ≠ "" then ["backfill_year=" ++ strip args.backfillYear] else []
  let parts :=
    [s!"spider={args.spider}", s!"job_type={args.jobType.text}"] ++ maxPages ++ backfillYear ++
    ["pages_scraped=" ++ toString (pagesMetric snapshot stats),
      "list_seen=" ++ toString snapshot.counters.listItemsSeen,
      "list_unique=" ++ toString snapshot.counters.listItemsUnique,
      "detail_requests=" ++ toString snapshot.counters.detailPagesFetched,
      "dedup_skipped=" ++ toString
        (snapshot.counters.listItemsSourceDuplicatesSkipped + snapshot.counters.sourceDuplicatesSuppressed),
      "notices_written=" ++ toString snapshot.counters.noticesUpserted,
      "raw_documents_written=" ++ toString snapshot.counters.documentsSaved,
      "first_publish_date_seen=" ++ (stats.firstPublishDateSeen.filter (· ≠ "")).getD "-",
      "last_publish_date_seen=" ++ (stats.lastPublishDateSeen.filter (· ≠ "")).getD "-",
      s!"failure_reason={failureReason}"]
  String.intercalate "; " parts

/-! ## What a classification can be -/

theorem isFinal_inferFinalStatus (snapshot : CrawlJob) (failureReason : String) (returnCode : ℤ) :
    (inferFinalStatus snapshot failureReason returnCode).isFinal := by
  unfold inferFinalStatus
  split
  · rfl
  · split
    · rfl
    · split <;> rfl

/-- The spider stored a fetch error, and no page or no item of a list was seen. -/
def FetchFailed (snapshot : CrawlJob) (errors : List CrawlErrorEntry) (pagesScraped : ℤ) : Prop :=
  stageErrors "fetch" errors ≠ [] ∧ (pagesScraped ≤ 0 ∨ snapshot.counters.listItemsSeen ≤ 0)

/-- A failure reason starts with its label, also without the blanks around it. -/
theorem startsWith_strip_prefixFailureReason {label : String} (hspace : ∀ c ∈ label.toList, isSpace c = false)
    (reason : String) : startsWith (strip (prefixFailureReason label reason)) label = true := by
  have happend := startsWith_strip_append hspace
  have hself : startsWith (strip label) label = true := by simpa using happend ""
  unfold prefixFailureReason
  dsimp only
  split
  · exact hself
  · split
    · rename_i hprefixed
      rw [strip_strip]
      rcases Bool.or_eq_true_iff.mp hprefixed with heq | hstarts
      · rw [decide_eq_true_eq] at heq
        rw [heq]
        exact startsWith_self label
      · rw [startsWith, List.isPrefixOf_iff_prefix, String.toList_append] at hstarts
        rw [startsWith, List.isPrefixOf_iff_prefix]
        exact (List.prefix_append _ _).trans hstarts
    · rw [String.append_assoc]
      exact happend _

/-- A detail parse failure is not taken for a page fetch failure. -/
theorem not_pageFetchFailure_of_detail (reason : String) :
    startsWith (strip (prefixFailureReason detailParseFailure reason)) pageFetchFailure = false := by
  rw [← Bool.not_eq_true]
  intro hpage
  have hdetail : startsWith (strip (prefixFailureReason detailParseFailure reason)) detailParseFailure = true :=
    startsWith_strip_prefixFailureReason (by decide) reason
  have hheads := head?_eq_of_startsWith hpage hdetail (by decide) (by decide)
  revert hheads
  decide

/-- After exit code 0 the failure reason reports the page fetch exactly when that failed. -/
theorem startsWith_inferFailureReason_iff (snapshot : CrawlJob) (errors : List CrawlErrorEntry)
    (pagesScraped : ℤ) :
    startsWith (strip (inferFailureReason snapshot errors pagesScraped 0)) pageFetchFailure ↔
      FetchFailed snapshot errors pagesScraped := by
  have hlist : startsWith (strip "列表解析为0") pageFetchFailure = false := by decide
  have hnone : startsWith (strip "-") pageFetchFailure = false := by decide
  unfold inferFailureReason FetchFailed
  rw [if_neg (by simp)]
  dsimp only
  split
  · rename_i fetchError rest hfetch hseen
    rw [startsWith_strip_prefixFailureReason (by decide) fetchError, hfetch]
    simpa using hseen
  · rename_i hother
    have hnot : ¬ (stageErrors "fetch" errors ≠ [] ∧ (pagesScraped ≤ 0 ∨ snapshot.counters.listItemsSeen ≤ 0)) := by
      rintro ⟨hfetch, hseen⟩
      obtain ⟨fetchError, rest, hcons⟩ := List.exists_cons_of_ne_nil hfetch
      exact hother fetchError rest hcons (decide_eq_true hseen)
    simp only [hnot, iff_false, Bool.not_eq_true]
    split
    · exact hlist
    · split
      · exact not_pageFetchFailure_of_detail _
      · split <;> exact not_pageFetchFailure_of_detail _
      · split
        · exact not_pageFetchFailure_of_detail _
        · exact hnone
      · exact not_pageFetchFailure_of_detail _
      · exact hnone

/-- After exit 0 a run has failed exactly where its fetches have. -/
theorem inferFinalStatus_exited (snapshot : CrawlJob) (errors : List CrawlErrorEntry) (pagesScraped : ℤ) :
    inferFinalStatus snapshot (inferFailureReason snapshot errors pagesScraped 0) 0 = .failed ∧
        FetchFailed snapshot errors pagesScraped ∨
      inferFinalStatus snapshot (inferFailureReason snapshot errors pagesScraped 0) 0 ∈
        [JobStatus.succeeded, .partially] ∧ ¬ FetchFailed snapshot errors pagesScraped := by
  rw [← startsWith_inferFailureReason_iff]
  unfold inferFinalStatus
  rw [if_neg (by simp)]
  split
  · rename_i hfailed
    exact Or.inl ⟨rfl, hfailed⟩
  · rename_i hfetched
    refine Or.inr ⟨?_, hfetched⟩
    split
    · exact List.mem_cons_of_mem _ List.mem_cons_self
    · exact List.mem_cons_self

end TenderPhase1.Executors
