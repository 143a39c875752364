import TenderPhase1.Crawler.AppendedErrors
import TenderPhase1.Crawler.SourceCache
import TenderPhase1.Foundation.PageWalk
import TenderPhase1.Notices.ListLaw

/-!
# The list of crawl errors

A client pages through the errors while crawls go on and write more of them. Errors
are only appended, and the list sorts them by columns that never change, so a client
that stops at a page that is not full has met every error it began with.
-/

namespace TenderPhase1.Admin

open Jobs Sources Raising Crawler Notices OrderedRows

/-! ## The query -/

structure CrawlErrorQueryFilters where
  sourceCode : Option String := none
  stage : Option String := none
  crawlJobId : Option ℤ := none
  errorType : Option String := none

structure CrawlErrorListItemRecord where
  id : ℕ
  sourceCode : String
  crawlJobId : Option ℤ
  stage : String
  errorType : String
  message : String
  url : Option String
  createdAt : DateTime
  deriving DecidableEq, Repr

structure CrawlErrorListResult where
  items : List CrawlErrorListItemRecord
  total : ℕ
  limit : ℕ
  offset : ℕ
  deriving DecidableEq, Repr

/-- A row of the query: an error and the code of its source. -/
structure CrawlErrorRow where
  error : CrawlError
  sourceCode : String
  deriving DecidableEq, Repr

def CrawlErrorQueryFilters.keeps (filters : CrawlErrorQueryFilters) (source : SourceSite) (error : CrawlError) : Bool :=
  matchesText filters.sourceCode (some source.code) &&
  matchesText filters.stage (some error.stage) &&
  filters.crawlJobId.all (fun jobId ↦ error.crawlJobId = some jobId) &&
  matchesText filters.errorType (some error.errorType)

/-- `_build_list_query` -/
def buildErrorListQuery (db : Db) (filters : CrawlErrorQueryFilters) : List CrawlErrorRow :=
  db.errors.flatMap fun error ↦
    (db.sources.filter fun source ↦ source.id = error.sourceSiteId && filters.keeps source error).map
      fun source ↦ ⟨error, source.code⟩

section Query

-- `created_at` of each error: the database sets it when it takes the row, and nothing changes it
variable (createdAt : ℕ → DateTime)

/-- `_to_list_item` -/
def toErrorListItem (row : CrawlErrorRow) : CrawlErrorListItemRecord where
  id := row.error.id
  sourceCode := row.sourceCode
  crawlJobId := row.error.crawlJobId
  stage := row.error.stage
  errorType := row.error.errorType
  message := row.error.errorMessage
  url := row.error.url
  createdAt := createdAt row.error.id

/-- `CrawlError.created_at.desc(), CrawlError.id.desc()` -/
def errorListOrder : List (SortKey CrawlErrorRow) :=
  [(SortKey.on compareInstants fun row : CrawlErrorRow ↦ createdAt row.error.id).desc,
    (SortKey.on compare fun row : CrawlErrorRow ↦ row.error.id).desc]

/-- `list_errors`: one statement counts the rows, and a later one reads the page. -/
def listErrors (counted db : Db) (filters : CrawlErrorQueryFilters) (limit offset : ℕ) (counting reading : Scan) :
    CrawlErrorListResult where
  items := (page limit offset (orderBy (errorListOrder createdAt)
    (reading.answer (buildErrorListQuery db filters)))).map (toErrorListItem createdAt)
  total := (counting.answer (buildErrorListQuery counted filters)).length
  limit := limit
  offset := offset

end Query

/-! ## The rows of the query -/

section Rows

variable {createdAt : ℕ → DateTime} {db more : Db} {filters : CrawlErrorQueryFilters} {row other : CrawlErrorRow}

theorem mem_buildErrorListQuery : row ∈ buildErrorListQuery db filters ↔
    row.error ∈ db.errors ∧ ∃ source ∈ db.sources, source.id = row.error.sourceSiteId ∧
      filters.keeps source row.error ∧ source.code = row.sourceCode := by
  obtain ⟨error, sourceCode⟩ := row
  simp only [buildErrorListQuery, List.mem_flatMap, List.mem_map, List.mem_filter, Bool.and_eq_true, decide_eq_true_eq,
    CrawlErrorRow.mk.injEq]
  constructor
  · rintro ⟨error', herror, source, ⟨hsource, hid, hkeeps⟩, rfl, hcode⟩
    exact ⟨herror, source, hsource, hid, hkeeps, hcode⟩
  · rintro ⟨herror, source, hsource, hid, hkeeps, hcode⟩
    exact ⟨error, herror, source, ⟨hsource, hid, hkeeps⟩, rfl, hcode⟩

/-- The id of an error tells the rows apart. -/
theorem eq_of_error_id_eq (hkeys : db.KeysDistinct) (hrow : row ∈ buildErrorListQuery db filters)
    (hother : other ∈ buildErrorListQuery db filters) (hid : row.error.id = other.error.id) : row = other := by
  obtain ⟨herror, source, hsource, hsourceId, -, hcode⟩ := mem_buildErrorListQuery.mp hrow
  obtain ⟨herror', source', hsource', hsourceId', -, hcode'⟩ := mem_buildErrorListQuery.mp hother
  have herrors : row.error = other.error := List.inj_on_of_nodup_map hkeys.errors herror herror' hid
  have hsources : source = source' := by
    refine List.inj_on_of_nodup_map hkeys.sources hsource hsource' ?_
    rw [hsourceId, hsourceId', herrors]
  obtain ⟨error, sourceCode⟩ := row
  obtain ⟨error', sourceCode'⟩ := other
  simp_all

theorem eq_of_compareBy_errorListOrder (hkeys : db.KeysDistinct) (hrow : row ∈ buildErrorListQuery db filters)
    (hother : other ∈ buildErrorListQuery db filters)
    (heq : compareBy (errorListOrder createdAt) row other = .eq) : row = other := by
  have hid := compareBy_eq_eq.mp heq (SortKey.on compare fun row : CrawlErrorRow ↦ row.error.id).desc
    (List.mem_cons_of_mem _ List.mem_cons_self)
  have hids : other.error.id = row.error.id := Nat.compare_eq_eq.mp hid
  exact eq_of_error_id_eq hkeys hrow hother hids.symm

/-- More errors and sources give more rows, and the old ones keep their order. -/
theorem buildErrorListQuery_sublist (h : db.Extends more) :
    (buildErrorListQuery db filters).Sublist (buildErrorListQuery more filters) := by
  refine List.Sublist.trans (List.Sublist.flatMap_right _ ?_) (h.errors.sublist.flatMap _)
  intro error _
  exact (h.sources.sublist.filter _).map _

/-- The order of the list does not depend on how the rows are read. -/
theorem orderBy_answer (hkeys : db.KeysDistinct) (reading : Scan) :
    orderBy (errorListOrder createdAt) (reading.answer (buildErrorListQuery db filters)) =
      orderBy (errorListOrder createdAt) (buildErrorListQuery db filters) := by
  have hperm : (reading.answer (buildErrorListQuery db filters)).Perm (buildErrorListQuery db filters) :=
    reading.answer_perm _
  refine orderBy_congr hperm ?_
  intro row hrow other hother
  exact eq_of_compareBy_errorListOrder hkeys (hperm.mem_iff.mp hrow) (hperm.mem_iff.mp hother)

theorem orderBy_errors_sublist (h : db.Extends more) (hkeys : more.KeysDistinct) :
    (orderBy (errorListOrder createdAt) (buildErrorListQuery db filters)).Sublist
      (orderBy (errorListOrder createdAt) (buildErrorListQuery more filters)) := by
  refine orderBy_sublist (buildErrorListQuery_sublist h) ?_
  intro row hrow other hother
  exact eq_of_compareBy_errorListOrder hkeys hrow hother

end Rows

/-! ## Paging while crawls go on -/

/-- The rows that the writers have left after the first `count` lists of calls. -/
def afterCalls (python : Python) (context : Context) (calls : ℕ → List (Connection × WriterCall)) : ℕ → Context
  | 0 => context
  | count + 1 => (calls count).foldl (Context.step python) (afterCalls python context calls count)

section Paging

variable {python : Python} {context : Context} {calls : ℕ → List (Connection × WriterCall)} {count : ℕ}

theorem appends_afterCalls (hkeys : context.db.KeysDistinct) (count : ℕ) :
    (afterCalls python context calls count).Appends context.db := by
  induction count with
  | zero => exact ⟨extends_self _, hkeys⟩
  | succ count ih => exact appends_run _ ih

theorem extends_afterCalls_succ (hkeys : context.db.KeysDistinct) (count : ℕ) :
    (afterCalls python context calls count).db.Extends (afterCalls python context calls (count + 1)).db := by
  have hcount : (afterCalls python context calls count).Appends (afterCalls python context calls count).db :=
    ⟨extends_self _, (appends_afterCalls hkeys count).2⟩
  exact (appends_run _ hcount).1

end Paging

section Walk

variable (python : Python) (context : Context) (calls : ℕ → List (Connection × WriterCall)) (createdAt : ℕ → DateTime)
  (filters : CrawlErrorQueryFilters) (limit : ℕ) (counted : ℕ → Db) (counting reading : ℕ → Scan)

/-- The page that a client reads after the first `number` lists of calls. -/
def errorPage (number : ℕ) : CrawlErrorListResult :=
  listErrors createdAt (counted number) (afterCalls python context calls number).db filters limit (number * limit)
    (counting number) (reading number)

variable {python context calls createdAt filters limit counted counting reading}

theorem errorPage_items (hkeys : context.db.KeysDistinct) (number : ℕ) :
    (errorPage python context calls createdAt filters limit counted counting reading number).items =
      (page limit (number * limit) (orderBy (errorListOrder createdAt)
        (buildErrorListQuery (afterCalls python context calls number).db filters))).map (toErrorListItem createdAt) := by
  rw [errorPage, listErrors, orderBy_answer (appends_afterCalls hkeys number).2]

/-- A client reads page after page, with any calls of the writers in between, and stops at the first page that is
not full. It has met every error of the beginning that passes its filters, as it was, and met nothing that is not
in the table. -/
theorem errorPages_complete (hkeys : context.db.KeysDistinct) (count : ℕ)
    (hlast : (errorPage python context calls createdAt filters limit counted counting reading count).items.length <
      limit) :
    (∀ row ∈ buildErrorListQuery context.db filters, ∃ number ≤ count, toErrorListItem createdAt row ∈
      (errorPage python context calls createdAt filters limit counted counting reading number).items) ∧
    ∀ number ≤ count, ∀ item ∈
      (errorPage python context calls createdAt filters limit counted counting reading number).items,
        ∃ row ∈ buildErrorListQuery (afterCalls python context calls count).db filters,
          toErrorListItem createdAt row = item := by
  let rows (number : ℕ) : List CrawlErrorRow :=
    orderBy (errorListOrder createdAt) (buildErrorListQuery (afterCalls python context calls number).db filters)
  have hgrows (number : ℕ) : (rows number).Sublist (rows (number + 1)) :=
    orderBy_errors_sublist (extends_afterCalls_succ hkeys number) (appends_afterCalls hkeys (number + 1)).2
  have hitems (number : ℕ) : (errorPage python context calls createdAt filters limit counted counting reading
      number).items = (page limit (number * limit) (rows number)).map (toErrorListItem createdAt) :=
    errorPage_items hkeys number
  constructor
  · intro row hrow
    have hshort : (page limit (count * limit) (rows count)).length < limit := by
      rwa [hitems, List.length_map] at hlast
    have hread : row ∈ walk limit rows (count + 1) := mem_walk hgrows (mem_orderBy.mpr hrow) hshort
    obtain ⟨number, hnumber, hpage⟩ := List.mem_flatMap.mp hread
    refine ⟨number, Nat.lt_succ_iff.mp (List.mem_range.mp hnumber), ?_⟩
    rw [hitems]
    exact List.mem_map_of_mem hpage
  · intro number hnumber item hitem
    rw [hitems] at hitem
    obtain ⟨row, hpage, rfl⟩ := List.mem_map.mp hitem
    have hrow : row ∈ rows number := List.mem_of_mem_drop (List.mem_of_mem_take hpage)
    exact ⟨row, mem_orderBy.mp ((sublist_of_le hgrows hnumber).subset hrow), rfl⟩

theorem length_errorPage_items (hkeys : context.db.KeysDistinct) (number : ℕ) :
    (errorPage python context calls createdAt filters limit counted counting reading number).items.length =
      min limit ((buildErrorListQuery (afterCalls python context calls number).db filters).length - number * limit) := by
  rw [errorPage_items hkeys, List.length_map, page, List.length_take, List.length_drop, length_orderBy]

end Walk

def fetchError (id sourceSiteId : ℕ) (message : String) : CrawlError where
  id := id
  sourceSiteId := sourceSiteId
  crawlJobId := none
  rawDocumentId := none
  stage := "fetch"
  url := none
  errorType := "Timeout"
  errorMessage := message
  traceback := none
  retryable := true
  occurredAt := epoch
  resolved := false

/-- Three errors of two sources. -/
def threeErrors : Db :=
  { emptyDb with
    sources := [Crawler.newSourceSite 1 "a" none "https://a", Crawler.newSourceSite 2 "b" none "https://b"]
    errors := [fetchError 1 1 "first", fetchError 2 2 "second", fetchError 3 1 "third"] }

def fromThreeErrors : Context := ⟨[], threeErrors⟩

theorem keysDistinct_threeErrors : fromThreeErrors.db.KeysDistinct := ⟨by decide, by decide, by decide⟩

/-- A crawl writes one more error between the first page and the second. -/
def errorMeanwhile : ℕ → List (Connection × WriterCall)
  | 0 => [(sqlite epoch, .error { sourceCode := some (.str "a"), errorType := some (.str "Timeout") })]
  | _ + 1 => []

def idAsMicros (id : ℕ) : DateTime := ⟨id, some 0⟩

/-- Pages of two errors of the source a. -/
def pageMeanwhile (number : ℕ) : CrawlErrorListResult :=
  errorPage (plainPython titleDigests) fromThreeErrors errorMeanwhile idAsMicros { sourceCode := some "a" } 2
    (fun _ ↦ threeErrors) (fun _ ↦ plainScan) (fun _ ↦ plainScan) number

theorem errorPages_complete_errorMeanwhile :
    let reached := afterCalls (plainPython titleDigests) fromThreeErrors errorMeanwhile 1
    (buildErrorListQuery threeErrors { sourceCode := some "a" }).length = 2 ∧
      (buildErrorListQuery reached.db { sourceCode := some "a" }).length = 3 ∧
      (∀ row ∈ buildErrorListQuery threeErrors { sourceCode := some "a" },
        ∃ number ≤ 1, toErrorListItem idAsMicros row ∈ (pageMeanwhile number).items) ∧
      ∀ number ≤ 1, ∀ item ∈ (pageMeanwhile number).items,
        ∃ row ∈ buildErrorListQuery reached.db { sourceCode := some "a" }, toErrorListItem idAsMicros row = item := by
  have hlength : (buildErrorListQuery (afterCalls (plainPython titleDigests) fromThreeErrors errorMeanwhile 1).db
      { sourceCode := some "a" }).length = 3 := by decide +kernel
  have hlast : (pageMeanwhile 1).items.length < 2 := by
    rw [pageMeanwhile, length_errorPage_items keysDistinct_threeErrors, hlength]
    decide
  exact ⟨by decide +kernel, hlength, errorPages_complete keysDistinct_threeErrors 1 hlast⟩

/-! ## Summaries of the recent errors -/

structure CrawlErrorSourceSummaryRecord where
  sourceCode : String
  recentErrorCount : ℕ
  latestErrorId : ℕ
  latestErrorMessage : String
  latestErrorCreatedAt : DateTime
  deriving DecidableEq, Repr

/-- A row of the first statement: one for each source with recent errors. -/
structure ErrorGroup where
  sourceCode : String
  recentErrorCount : ℕ
  latestErrorId : ℕ
  deriving DecidableEq, Repr

section Summaries

variable (createdAt : ℕ → DateTime) (db : Db) (filters : CrawlErrorQueryFilters) (since : DateTime)

/-- The rows since then; the conditions are those of the list. -/
def recentErrors : List CrawlErrorRow :=
  (buildErrorListQuery db filters).filter fun row ↦ since.instant ≤ (createdAt row.error.id).instant

def CrawlErrorRow.groupKey (row : CrawlErrorRow) : ℕ × String := (row.error.sourceSiteId, row.sourceCode)

/-- `count(id)` and `max(id)` of the rows of a group -/
def errorGroup (sourceCode : String) (rows : List CrawlErrorRow) : ErrorGroup where
  sourceCode := sourceCode
  recentErrorCount := rows.length
  latestErrorId := ((rows.map fun row ↦ row.error.id).max?).getD 0

/-- `GROUP BY source_site_id, code` -/
def errorGroups (rows : List CrawlErrorRow) : List ErrorGroup :=
  (rows.map CrawlErrorRow.groupKey).dedup.map fun key ↦ errorGroup key.2 (group CrawlErrorRow.groupKey rows key)

def errorGroupOrder : List (SortKey ErrorGroup) :=
  [(SortKey.on compare ErrorGroup.recentErrorCount).desc, (SortKey.on compare ErrorGroup.latestErrorId).desc]

/-- A group with its newest error; a group whose newest error is not among them is skipped. -/
def errorSummary (latestErrors : List CrawlError) (row : ErrorGroup) : Option CrawlErrorSourceSummaryRecord :=
  (latestErrors.find? fun error ↦ error.id = row.latestErrorId).map fun latest ↦
    { sourceCode := row.sourceCode
      recentErrorCount := row.recentErrorCount
      latestErrorId := row.latestErrorId
      latestErrorMessage := latest.errorMessage
      latestErrorCreatedAt := createdAt latest.id }

/-- `list_recent_source_summaries`: the second statement reads the newest errors of the groups, which the rows of
`later` may have others besides. -/
def listRecentSourceSummaries (later : Db) (limit : ℕ) (reading : Scan) : List CrawlErrorSourceSummaryRecord :=
  let summaryRows :=
    page limit 0 (orderBy errorGroupOrder (reading.answer (errorGroups (recentErrors createdAt db filters since))))
  let latestErrors := later.errors.filter fun error ↦ (summaryRows.map ErrorGroup.latestErrorId).contains error.id
  summaryRows.filterMap (errorSummary createdAt latestErrors)

end Summaries

/-- What the summaries say of the recent errors: each of a source of its own, with the number of its errors and the
newest of them, and a source is left out only where `limit` others have as many errors. -/
structure Summarises (createdAt : ℕ → DateTime) (rows : List CrawlErrorRow) (limit : ℕ)
    (shown : List CrawlErrorSourceSummaryRecord) : Prop where
  distinct : (shown.map CrawlErrorSourceSummaryRecord.sourceCode).Nodup
  counted : ∀ item ∈ shown, item.recentErrorCount = rows.countP fun row ↦ row.sourceCode = item.sourceCode
  latest : ∀ item ∈ shown, ∃ row ∈ rows, row.sourceCode = item.sourceCode ∧ row.error.id = item.latestErrorId ∧
    row.error.errorMessage = item.latestErrorMessage ∧ createdAt row.error.id = item.latestErrorCreatedAt ∧
    ∀ other ∈ rows, other.sourceCode = item.sourceCode → other.error.id ≤ item.latestErrorId
  complete : ∀ row ∈ rows, (∃ item ∈ shown, item.sourceCode = row.sourceCode) ∨
    shown.length = limit ∧ ∀ item ∈ shown,
      (rows.countP fun other ↦ other.sourceCode = row.sourceCode) ≤ item.recentErrorCount

section Groups

variable {createdAt : ℕ → DateTime} {db later : Db} {filters : CrawlErrorQueryFilters} {since : DateTime}
  {rows : List CrawlErrorRow} {row : CrawlErrorRow} {found : ErrorGroup}

/-- The code of a source tells the groups apart. -/
theorem groupKey_eq_of_sourceCode_eq (hkeys : db.KeysDistinct) {other : CrawlErrorRow}
    (hrow : row ∈ recentErrors createdAt db filters since) (hother : other ∈ recentErrors createdAt db filters since)
    (hcode : row.sourceCode = other.sourceCode) : row.groupKey = other.groupKey := by
  obtain ⟨-, source, hsource, hid, -, hsourceCode⟩ := mem_buildErrorListQuery.mp (List.mem_filter.mp hrow).1
  obtain ⟨-, source', hsource', hid', -, hsourceCode'⟩ := mem_buildErrorListQuery.mp (List.mem_filter.mp hother).1
  have hsources : source = source' := by
    refine List.inj_on_of_nodup_map hkeys.sourceCodes hsource hsource' ?_
    rw [hsourceCode, hsourceCode', hcode]
  exact Prod.ext (by rw [CrawlErrorRow.groupKey, ← hid, hsources, hid']; rfl) hcode

/-- The groups of `rows` are one for each source code among them. -/
def CodesTell (rows : List CrawlErrorRow) : Prop :=
  ∀ row ∈ rows, ∀ other ∈ rows, row.sourceCode = other.sourceCode → row.groupKey = other.groupKey

theorem group_groupKey (hcodes : CodesTell rows) (hrow : row ∈ rows) :
    group CrawlErrorRow.groupKey rows row.groupKey = rows.filter fun other ↦ other.sourceCode = row.sourceCode := by
  apply List.filter_congr
  intro other hother
  apply decide_eq_decide.mpr
  constructor
  · exact fun hkey ↦ congrArg Prod.snd hkey
  · exact hcodes other hother row hrow

theorem exists_errorGroup (hcodes : CodesTell rows) (hrow : row ∈ rows) :
    errorGroup row.sourceCode (rows.filter fun other ↦ other.sourceCode = row.sourceCode) ∈ errorGroups rows := by
  have hkey : row.groupKey ∈ (rows.map CrawlErrorRow.groupKey).dedup :=
    List.mem_dedup.mpr (List.mem_map_of_mem hrow)
  rw [← group_groupKey hcodes hrow]
  exact List.mem_map.mpr ⟨row.groupKey, hkey, rfl⟩

theorem eq_errorGroup_of_mem (hcodes : CodesTell rows) (hfound : found ∈ errorGroups rows) :
    ∃ row ∈ rows, found = errorGroup row.sourceCode (rows.filter fun other ↦ other.sourceCode = row.sourceCode) := by
  obtain ⟨key, hkey, rfl⟩ := List.mem_map.mp hfound
  obtain ⟨row, hrow, rfl⟩ := List.mem_map.mp (List.mem_dedup.mp hkey)
  refine ⟨row, hrow, ?_⟩
  rw [group_groupKey hcodes hrow]
  rfl

theorem nodup_sourceCode_errorGroups (hcodes : CodesTell rows) :
    ((errorGroups rows).map ErrorGroup.sourceCode).Nodup := by
  rw [errorGroups, List.map_map]
  refine (List.nodup_dedup _).map_on ?_
  intro key hkey key' hkey' hcode
  obtain ⟨row, hrow, rfl⟩ := List.mem_map.mp (List.mem_dedup.mp hkey)
  obtain ⟨other, hother, rfl⟩ := List.mem_map.mp (List.mem_dedup.mp hkey')
  exact hcodes row hrow other hother hcode

/-- The newest error of a group is one of its rows. -/
theorem latestErrorId_errorGroup (sourceCode : String) (hrow : row ∈ rows) :
    (∃ latest ∈ rows, latest.error.id = (errorGroup sourceCode rows).latestErrorId) ∧
      ∀ other ∈ rows, other.error.id ≤ (errorGroup sourceCode rows).latestErrorId := by
  have hne : rows.map (fun row ↦ row.error.id) ≠ [] := List.ne_nil_of_mem (List.mem_map_of_mem hrow)
  cases hmax : (rows.map fun row ↦ row.error.id).max? with
  | none => exact absurd (List.max?_eq_none_iff.mp hmax) hne
  | some greatest =>
    have hlatest : (errorGroup sourceCode rows).latestErrorId = greatest := by rw [errorGroup, hmax, Option.getD_some]
    obtain ⟨hmem, hle⟩ := List.max?_eq_some_iff.mp hmax
    rw [hlatest]
    exact ⟨List.mem_map.mp hmem, fun other hother ↦ hle _ (List.mem_map_of_mem hother)⟩

/-- A group with fewer errors does not come before one with more. -/
theorem recentErrorCount_le_of_isLE {first second : ErrorGroup} (h : (compareBy errorGroupOrder first second).isLE) :
    second.recentErrorCount ≤ first.recentErrorCount := by
  by_contra hlt
  have hgt : compare second.recentErrorCount first.recentErrorCount = .gt := Nat.compare_eq_gt.mpr (not_le.mp hlt)
  simp [errorGroupOrder, compareBy, compareLex, SortKey.on, SortKey.desc, hgt] at h

end Groups

theorem map_filterMap_of_some {α β Key : Type*} {f : α → Option β} {key : α → Key} {keyOf : β → Key} {xs : List α}
    (h : ∀ x ∈ xs, ∃ y, f x = some y ∧ keyOf y = key x) : (xs.filterMap f).map keyOf = xs.map key := by
  induction xs with
  | nil => rfl
  | cons x xs ih =>
    obtain ⟨y, hy, hkey⟩ := h x List.mem_cons_self
    rw [List.filterMap_cons_some hy, List.map_cons, List.map_cons, hkey,
      ih fun other hother ↦ h other (List.mem_cons_of_mem _ hother)]

/-- A summary shows its group and the newest error of it. -/
structure ShowsGroup (createdAt : ℕ → DateTime) (errors : List CrawlError) (found : ErrorGroup)
    (item : CrawlErrorSourceSummaryRecord) : Prop where
  sourceCode : item.sourceCode = found.sourceCode
  recentErrorCount : item.recentErrorCount = found.recentErrorCount
  latestErrorId : item.latestErrorId = found.latestErrorId
  latest : ∃ error ∈ errors, error.id = found.latestErrorId ∧ error.errorMessage = item.latestErrorMessage ∧
    createdAt error.id = item.latestErrorCreatedAt

section Summarises

variable {createdAt : ℕ → DateTime} {db later : Db} {filters : CrawlErrorQueryFilters} {since : DateTime}
  {errors : List CrawlError} {groups : List ErrorGroup} {found : ErrorGroup} {item : CrawlErrorSourceSummaryRecord}

/-- The newest error of a group is found where the table has it. -/
theorem exists_errorSummary (hfound : found ∈ groups) (hlatest : ∃ error ∈ errors, error.id = found.latestErrorId) :
    ∃ item, errorSummary createdAt
        (errors.filter fun error ↦ (groups.map ErrorGroup.latestErrorId).contains error.id) found = some item ∧
      ShowsGroup createdAt errors found item := by
  obtain ⟨error, herror, hid⟩ := hlatest
  have hmem : error ∈ errors.filter fun error ↦ (groups.map ErrorGroup.latestErrorId).contains error.id := by
    refine List.mem_filter.mpr ⟨herror, List.contains_iff_mem.mpr ?_⟩
    rw [hid]
    exact List.mem_map_of_mem hfound
  have hsome : ((errors.filter fun error ↦ (groups.map ErrorGroup.latestErrorId).contains error.id).find?
      fun error ↦ decide (error.id = found.latestErrorId)).isSome :=
    List.find?_isSome.mpr ⟨error, hmem, decide_eq_true hid⟩
  obtain ⟨latest, hlatest⟩ := Option.isSome_iff_exists.mp hsome
  have hlatestId : latest.id = found.latestErrorId := by simpa using List.find?_some hlatest
  have hlatestMem : latest ∈ errors := (List.mem_filter.mp (List.mem_of_find?_eq_some hlatest)).1
  refine ⟨_, congrArg (Option.map _) hlatest, ?_⟩
  exact ⟨rfl, rfl, rfl, latest, hlatestMem, hlatestId, rfl, rfl⟩

theorem mem_take_or_length_take_eq {α : Type*} {x : α} {xs : List α} (limit : ℕ) (hx : x ∈ xs) :
    x ∈ xs.take limit ∨ (xs.take limit).length = limit ∧ x ∈ xs.drop limit := by
  have hsplit := List.take_append_drop limit xs
  rw [← hsplit, List.mem_append] at hx
  refine hx.imp_right fun hdrop ↦ ⟨?_, hdrop⟩
  have hlength := List.length_pos_of_mem hdrop
  rw [List.length_drop] at hlength
  rw [List.length_take]
  omega

/-- The errors that are written between the two statements drop no summary. -/
theorem summarises_listRecentSourceSummaries (hkeys : db.KeysDistinct) (hlater : later.KeysDistinct)
    (hextends : db.Extends later) (limit : ℕ) (reading : Scan) :
    Summarises createdAt (recentErrors createdAt db filters since) limit
      (listRecentSourceSummaries createdAt db filters since later limit reading) := by
  let rows := recentErrors createdAt db filters since
  have hcodes : CodesTell rows := fun row hrow other hother ↦ groupKey_eq_of_sourceCode_eq hkeys hrow hother
  have herrors (row : CrawlErrorRow) (hrow : row ∈ rows) : row.error ∈ later.errors :=
    hextends.errors.subset (mem_buildErrorListQuery.mp (List.mem_filter.mp hrow).1).1
  let ordered := orderBy errorGroupOrder (reading.answer (errorGroups rows))
  have hordered : ordered.Perm (errorGroups rows) := orderBy_perm.trans (reading.answer_perm _)
  let summaryRows := ordered.take limit
  let latestErrors := later.errors.filter fun error ↦ (summaryRows.map ErrorGroup.latestErrorId).contains error.id
  have hsub : summaryRows.Sublist ordered := List.take_sublist limit ordered
  have hgroup (found : ErrorGroup) (hfound : found ∈ ordered) : ∃ row ∈ rows,
      found = errorGroup row.sourceCode (rows.filter fun other ↦ other.sourceCode = row.sourceCode) :=
    eq_errorGroup_of_mem hcodes (hordered.mem_iff.mp hfound)
  have hshows : ∀ found ∈ summaryRows, ∃ item,
      errorSummary createdAt latestErrors found = some item ∧ ShowsGroup createdAt later.errors found item := by
    intro found hfound
    apply exists_errorSummary hfound
    obtain ⟨row, hrow, rfl⟩ := hgroup found (hsub.subset hfound)
    have hmem : row ∈ rows.filter fun other ↦ other.sourceCode = row.sourceCode :=
      List.mem_filter.mpr ⟨hrow, decide_eq_true rfl⟩
    obtain ⟨⟨latest, hlatest, hid⟩, -⟩ := latestErrorId_errorGroup row.sourceCode hmem
    exact ⟨latest.error, herrors latest (List.mem_filter.mp hlatest).1, hid⟩
  have hgroupOf (item : CrawlErrorSourceSummaryRecord)
      (hitem : item ∈ summaryRows.filterMap (errorSummary createdAt latestErrors)) :
      ∃ found ∈ summaryRows, ShowsGroup createdAt later.errors found item := by
    obtain ⟨found, hfound, hsome⟩ := List.mem_filterMap.mp hitem
    obtain ⟨item', hsome', hshown⟩ := hshows found hfound
    obtain rfl := Option.some.inj (hsome.symm.trans hsome')
    exact ⟨found, hfound, hshown⟩
  have hsourceCodes : (summaryRows.filterMap (errorSummary createdAt latestErrors)).map
      CrawlErrorSourceSummaryRecord.sourceCode = summaryRows.map ErrorGroup.sourceCode := by
    apply map_filterMap_of_some
    intro found hfound
    obtain ⟨item, hsome, hshown⟩ := hshows found hfound
    exact ⟨item, hsome, hshown.sourceCode⟩
  constructor
  case distinct =>
    have hnodup : (ordered.map ErrorGroup.sourceCode).Nodup :=
      (hordered.map _).nodup_iff.mpr (nodup_sourceCode_errorGroups hcodes)
    exact hsourceCodes ▸ hnodup.sublist (hsub.map _)
  case counted =>
    intro item hmem
    obtain ⟨found, hfound, hshown⟩ := hgroupOf item hmem
    obtain ⟨row, -, rfl⟩ := hgroup found (hsub.subset hfound)
    rw [hshown.recentErrorCount, hshown.sourceCode, List.countP_eq_length_filter]
    rfl
  case latest =>
    intro item hmem
    obtain ⟨found, hfound, hshown⟩ := hgroupOf item hmem
    obtain ⟨row, hrow, rfl⟩ := hgroup found (hsub.subset hfound)
    have hmem : row ∈ rows.filter fun other ↦ other.sourceCode = row.sourceCode :=
      List.mem_filter.mpr ⟨hrow, decide_eq_true rfl⟩
    obtain ⟨⟨latest, hlatest, hid⟩, hnewest⟩ := latestErrorId_errorGroup row.sourceCode hmem
    obtain ⟨error, herror, herrorId, hmessage, hcreated⟩ := hshown.latest
    have hsame : latest.error = error :=
      List.inj_on_of_nodup_map hlater.errors (herrors latest (List.mem_filter.mp hlatest).1) herror
        (hid.trans herrorId.symm)
    have hcode : latest.sourceCode = row.sourceCode := of_decide_eq_true (List.mem_filter.mp hlatest).2
    refine ⟨latest, (List.mem_filter.mp hlatest).1, ?_, ?_, ?_, ?_, ?_⟩
    · exact hcode.trans hshown.sourceCode.symm
    · exact hid.trans hshown.latestErrorId.symm
    · rw [hsame, hmessage]
    · rw [hsame, hcreated]
    · intro other hother hotherCode
      rw [hshown.latestErrorId]
      exact hnewest other (List.mem_filter.mpr ⟨hother, decide_eq_true (hotherCode.trans hshown.sourceCode)⟩)
  case complete =>
    intro row hrow
    have hfound := hordered.mem_iff.mpr (exists_errorGroup hcodes hrow)
    rcases mem_take_or_length_take_eq limit hfound with hshown | ⟨hfull, hbehind⟩
    · left
      obtain ⟨item, hsome, hitem⟩ := hshows _ hshown
      exact ⟨item, List.mem_filterMap.mpr ⟨_, hshown, hsome⟩, hitem.sourceCode⟩
    · right
      have hlength := congrArg List.length hsourceCodes
      rw [List.length_map, List.length_map] at hlength
      refine ⟨hlength.trans hfull, ?_⟩
      intro item hmem
      obtain ⟨found, hshownRow, hshown⟩ := hgroupOf item hmem
      have hsorted : (ordered.take limit ++ ordered.drop limit).Pairwise
          fun a b ↦ (compareBy errorGroupOrder a b).isLE := by
        rw [List.take_append_drop]
        exact pairwise_orderBy
      have hle := (List.pairwise_append.mp hsorted).2.2 found hshownRow _ hbehind
      rw [hshown.recentErrorCount, List.countP_eq_length_filter]
      exact recentErrorCount_le_of_isLE hle

/-- The newest error of each source, where a crawl writes one more before the second statement. -/
theorem summarises_listRecentSourceSummaries_errorMeanwhile :
    (recentErrors idAsMicros threeErrors {} ⟨2, some 0⟩).length = 2 ∧
      Summarises idAsMicros (recentErrors idAsMicros threeErrors {} ⟨2, some 0⟩) 20
        (listRecentSourceSummaries idAsMicros threeErrors {} ⟨2, some 0⟩
          (afterCalls (plainPython titleDigests) fromThreeErrors errorMeanwhile 1).db 20 plainScan) := by
  refine ⟨by decide +kernel, ?_⟩
  have hreached : (afterCalls (plainPython titleDigests) fromThreeErrors errorMeanwhile 1).Appends threeErrors :=
    appends_afterCalls keysDistinct_threeErrors 1
  exact summarises_listRecentSourceSummaries keysDistinct_threeErrors hreached.2 hreached.1 20 plainScan

end Summarises

end TenderPhase1.Admin
