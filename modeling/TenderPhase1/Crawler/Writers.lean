import TenderPhase1.Crawler.Database
import TenderPhase1.Crawler.Deduplication
import TenderPhase1.Jobs.Lifecycle

/-!
# The writers

The five operations by which the crawler stores its items. Each normalises its
item, opens a session, finds the source, and then finds or creates the rows the
item is about; it ends with a commit, with an early return that commits nothing,
or with an exception.
-/

namespace TenderPhase1.Crawler

open Jobs Sources PyText Raising

section Writers

variable (python : Python) (conn : Connection)

/-! ## The source -/

/-- `_guess_base_url`, over the values of the keys it tries -/
def guessBaseUrl : List Value → Except PyError String
  | [] => .ok "https://example.com"
  | value :: values =>
      match value.asStr with
      | none => guessBaseUrl values
      | some url => do
          let split ← python.urlsplit url
          if split.scheme ≠ "" ∧ split.netloc ≠ "" then return s!"{split.scheme}://{split.netloc}"
          else guessBaseUrl values

def Item.baseUrlCandidates (item : Item) : List Value :=
  [item.sourceSiteUrl, item.detailPageUrl, item.sourceUrl, item.url, item.fileUrl]

def newSourceSite (id : ℕ) (sourceCode : String) (sourceName : Option String) (sourceUrl : String) : SourceSite where
  id := id
  code := sourceCode
  name := sourceName.getD sourceCode
  baseUrl := sourceUrl
  officialUrl := sourceUrl
  listUrl := sourceUrl
  description := some "auto-created by crawler"
  isActive := true
  supportsJsRender := false
  crawlIntervalMinutes := 60

/-- The insertion of a source that is in neither the cache nor the table. -/
def insertSource (sourceCode : String) (sourceName : Option String) (sourceUrl : String) : Call ℕ := do
  let state ← get
  let id := conn.nextId (state.work.sources.map SourceSite.id)
  update fun db ↦ { db with sources := db.sources ++ [newSourceSite id sourceCode sourceName sourceUrl] }
  flush conn .newSource
  return id

/-- The id of the source in the table, inserted where it is missing. -/
def loadSource (sourceCode : String) (sourceName : Option String) (sourceUrl : String) : Call ℕ := do
  match ← scalar conn Db.sources (·.code = sourceCode) with
  | some source => return source.id
  | none => insertSource conn sourceCode sourceName sourceUrl

/-- `SqlAlchemyWriterContext.source_site_id`; the cache is filled before the call commits. -/
def sourceSiteId (sourceCode : String) (sourceName : Option String) (sourceUrl : String) : Call ℕ := do
  let state ← get
  match state.sourceCache.lookup sourceCode with
  | some cached => return cached
  | none =>
      let id ← loadSource conn sourceCode sourceName sourceUrl
      modify fun state ↦ { state with sourceCache := (sourceCode, id) :: state.sourceCache }
      return id

def Item.writtenSourceCode (item : Item) : String := item.sourceCode.asStr.getD "unknown_source"

def Item.writtenSourceUrl (item : Item) : Except PyError String :=
  match item.sourceSiteUrl.asStr with
  | some url => .ok url
  | none => guessBaseUrl python item.baseUrlCandidates

/-- The first statement of every writer. -/
def itemSourceSiteId (item : Item) : Call ℕ := do
  let sourceUrl ← raisePython (item.writtenSourceUrl python)
  sourceSiteId conn item.writtenSourceCode item.sourceSiteName.asStr sourceUrl

/-- The frame of every writer: open a session, find the source, and store the item. `store` returns
true where the code comes to `session.commit()`, and false where it returns before. -/
def inSession (item : Item) (store : ℕ → Call Bool) : Call Unit := do
  let sourceSiteId ← itemSourceSiteId python conn item
  if ← store sourceSiteId then commit conn

/-! ## Counters -/

/-- `record_stats_in_session`; a job that does not exist is not counted. -/
def recordStats (item : Item) (deltas : JobCounters) : Call Unit := do
  match item.crawlJobId.asInt python with
  | none => pure ()
  | some jobId =>
      match ← scalar conn Db.jobs (fun job ↦ (job.id : ℤ) = jobId) with
      | none => pure ()
      | some job =>
          match recordStatsInSession job deltas with
          | .ok counted => update fun db ↦ { db with jobs := putRow CrawlJob.id counted db.jobs }
          | .error error => throw (.service error)

def count (flag : Bool) : ℤ := if flag then 1 else 0

/-! ## Raw documents -/

/-- The columns that `write_raw_document` writes for a new and for an existing document. -/
def Item.rawDocument (item : Item) (id sourceSiteId : ℕ) (urlHash : String) (duplicateUrl duplicateContent : Bool) :
    RawDocument where
  id := id
  sourceSiteId := sourceSiteId
  crawlJobId := item.crawlJobId.asInt python
  url := item.url.asStr.getD ""
  normalizedUrl := (item.normalizedUrl.asStr <|> item.url.asStr).getD ""
  urlHash := urlHash
  contentHash := item.contentHash.asStr
  sourceDuplicateKey := item.sourceDuplicateKey.asStr
  sourceListItemFingerprint := item.sourceListItemFingerprint.asStr
  documentType := item.documentType.asStr.getD "html"
  httpStatus := item.httpStatus.asInt python
  mimeType := item.mimeType.asStr
  charset := item.charset.asStr
  title := item.title.asStr
  fetchedAt := (item.fetchedAt.asDatetime python).getD conn.now
  storageUri := item.storageUri.asStr.getD ""
  contentLength := item.contentLength.asInt python
  isDuplicateUrl := duplicateUrl
  isDuplicateContent := duplicateContent
  extraMeta := item.extraMeta

/-- What `write_raw_document` counts for the pages and list items behind a document. -/
def Item.pageDeltas (item : Item) : JobCounters :=
  match item.extraMeta with
  | none => {}
  | some extraMeta =>
      let role := ((extraMeta.get "role").asStr.map python.lower).getD ""
      if role = "list" then
        { listItemsSeen := (extraMeta.get "page_item_count").nonNegativeInt python
          listItemsUnique := (extraMeta.get "new_unique_item_count").nonNegativeInt python
          listItemsSourceDuplicatesSkipped :=
            (extraMeta.get "page_source_duplicates_skipped").nonNegativeInt python }
      else if role = "detail" then { detailPagesFetched := 1 }
      else {}

/-- A document of the source with the content of the item. -/
def duplicateContentId (item : Item) (sourceSiteId : ℕ) : Call (Option ℕ) := do
  match item.contentHash.asStr with
  | none => return none
  | some contentHash =>
      let duplicate ← scalar conn Db.rawDocuments fun row ↦
        row.sourceSiteId = sourceSiteId ∧ row.contentHash = some contentHash
      return duplicate.map RawDocument.id

/-- Insert the document, or overwrite the one with the same URL. -/
def putRawDocument (item : Item) (sourceSiteId : ℕ) (urlHash : String) (existing : Option RawDocument)
    (isDuplicateContent : Bool) : Call Unit :=
  match existing with
  | none => update fun db ↦
      let id := conn.nextId (db.rawDocuments.map RawDocument.id)
      let document := item.rawDocument python conn id sourceSiteId urlHash false isDuplicateContent
      { db with rawDocuments := db.rawDocuments ++ [document] }
  | some existing => update fun db ↦
      let document := item.rawDocument python conn existing.id sourceSiteId urlHash true isDuplicateContent
      { db with rawDocuments := putRow RawDocument.id document db.rawDocuments }

/-- `write_raw_document` with the URL hash that it needs -/
def storeRawDocumentAt (item : Item) (urlHash : String) (sourceSiteId : ℕ) : Call Bool := do
  let existing ← scalar conn Db.rawDocuments fun row ↦ row.sourceSiteId = sourceSiteId ∧ row.urlHash = urlHash
  let duplicateContentId ← duplicateContentId conn item sourceSiteId
  let isDuplicateContent := duplicateContentId.any fun id ↦ existing.all (·.id ≠ id)
  putRawDocument python conn item sourceSiteId urlHash existing isDuplicateContent
  recordStats python conn item
    { item.pageDeltas python with
      pagesFetched := 1
      documentsSaved := 1
      deduplicatedCount := count (existing.isSome || isDuplicateContent)
      recordsInserted := count existing.isNone
      recordsUpdated := count existing.isSome }
  return true

def storeRawDocument (item : Item) (sourceSiteId : ℕ) : Call Bool :=
  match item.urlHash.asStr with
  | none => pure false
  | some urlHash => storeRawDocumentAt python conn item urlHash sourceSiteId

def writeRawDocument (item : Item) : Call Unit := do
  let item ← raisePython (normalizeRawDocumentItem python item)
  inSession python conn item (storeRawDocument python conn item)

/-! ## Finding the notice of an item -/

/-- The candidate has the day and title of the item, and shares enough of its other signals. -/
def similarNotice (title issuer region budget : Option String) (candidate : TenderNotice) :
    Except PyError Bool :=
  if normalizeTitle python (some (.str candidate.title)) ≠ title then .ok false
  else do
    let signals := [issuer, region, budget].filter Option.isSome
    let candidateBudget ←
      if budget.isSome then normalizeBudgetBucket python (Value.ofText candidate.budgetAmount) else pure none
    let candidateSignals :=
      [normalizePurchaserOrPublisher python (Value.ofText candidate.issuer),
        normalizeRegion python (Value.ofText candidate.region), candidateBudget]
    let agreeing := (List.zip [issuer, region, budget] candidateSignals).filter fun pair ↦
      pair.1.isSome && pair.1 = pair.2
    return signals.length = 1 && agreeing.length = 1 || 2 ≤ signals.length && 2 ≤ agreeing.length

def firstSimilar (title issuer region budget : Option String) : List TenderNotice →
    Except PyError (Option TenderNotice)
  | [] => .ok none
  | candidate :: candidates => do
      if ← similarNotice python title issuer region budget candidate then return some candidate
      else firstSimilar title issuer region budget candidates

/-- The first and last instant of the day, the last one excluded. -/
def dayBounds (normalizedDate : String) : Except PyError (ℤ × ℤ) :=
  match python.fromisoformat (normalizedDate ++ "T00:00:00+00:00") with
  | none => .error .valueError
  | some dayStart =>
      let dayEnd := dayStart.wall + 86400 * 1000000
      if maxWall < dayEnd then .error .overflowError
      else .ok (dayStart.instant, dayStart.instant + 86400 * 1000000)

def findNoticeByHighSimilarity (sourceSiteId : ℕ) (item : Item) : Call (Option TenderNotice) := do
  let normalizedDate ← raisePython (normalizePublishedDate python item.publishedAt)
  match normalizeTitle python item.title, normalizedDate.bind nonEmpty with
  | some title, some date =>
      let (dayStart, dayEnd) ← raisePython (dayBounds python date)
      let candidates ← scalars conn Db.notices fun notice ↦
        notice.sourceSiteId = sourceSiteId ∧
          notice.publishedAt.any fun published ↦ dayStart ≤ published.instant && published.instant < dayEnd
      if candidates = [] then return none
      else
        let budget ← raisePython (normalizeBudgetBucket python item.budgetAmount)
        raisePython (firstSimilar python (some title) (normalizePurchaserOrPublisher python item.issuer)
          (normalizeRegion python item.region) budget candidates)
  | _, _ => return none

/-- The identity that `_resolve_notice` reads from an item. -/
def Item.resolvedDedupHash (item : Item) : Option String := (item.dedupHash.or item.noticeDedupHash).asStr
def Item.resolvedExternalId (item : Item) : Option String := (item.externalId.or item.noticeExternalId).asStr

/-- The lookups of `_resolve_notice` by a key, in their order. -/
def Item.noticeQueries (item : Item) (sourceSiteId : ℕ) : List (TenderNotice → Bool) :=
  [item.resolvedExternalId.map fun key (notice : TenderNotice) ↦
      notice.sourceSiteId = sourceSiteId && notice.externalId = some key,
    item.sourceDuplicateKey.asStr.map fun key (notice : TenderNotice) ↦
      notice.sourceSiteId = sourceSiteId && notice.sourceDuplicateKey = some key,
    item.dedupKey.asStr.map fun key (notice : TenderNotice) ↦
      notice.sourceSiteId = sourceSiteId && notice.dedupKey = some key,
    item.resolvedDedupHash.map fun key (notice : TenderNotice) ↦
      notice.sourceSiteId = sourceSiteId && notice.dedupHash = some key].filterMap id

def firstNotice : List (TenderNotice → Bool) → Call (Option TenderNotice)
  | [] => pure none
  | query :: queries => do
      match ← scalar conn Db.notices query with
      | some notice => return some notice
      | none => firstNotice queries

/-- The notice that `_resolve_notice` creates. -/
def Item.newNotice (item : Item) (id sourceSiteId : ℕ) (title : String) : TenderNotice where
  id := id
  sourceSiteId := sourceSiteId
  externalId := item.resolvedExternalId
  projectCode := item.projectCode.asStr
  dedupHash := item.resolvedDedupHash
  dedupKey := item.dedupKey.asStr
  sourceDuplicateKey := item.sourceDuplicateKey.asStr
  title := title
  noticeType := normalizeNoticeType item.noticeType
  issuer := item.issuer.asStr
  region := item.region.asStr
  publishedAt := item.publishedAt.asDatetime python
  deadlineAt := item.deadlineAt.asDatetime python
  budgetAmount := item.budgetAmount.asDecimal python
  budgetCurrency := item.budgetCurrency.asStr.getD "CNY"
  summary := item.summary.asStr <|> item.contentText.asStr
  firstPublishedAt := item.publishedAt.asDatetime python
  latestPublishedAt := item.publishedAt.asDatetime python
  currentVersionId := none

def createNotice (item : Item) (sourceSiteId : ℕ) (title : String) : Call TenderNotice := do
  let state ← get
  let notice := item.newNotice python (conn.nextId (state.work.notices.map TenderNotice.id)) sourceSiteId title
  update fun db ↦ { db with notices := db.notices ++ [notice] }
  flush conn .statement
  return notice

/-- `_resolve_notice`: the notice, and whether it was created -/
def resolveNotice (item : Item) (sourceSiteId : ℕ) : Call (Option (TenderNotice × Bool)) := do
  match ← firstNotice conn (item.noticeQueries sourceSiteId) with
  | some notice => return some (notice, false)
  | none =>
      match ← findNoticeByHighSimilarity python conn sourceSiteId item with
      | some notice => return some (notice, false)
      | none =>
          match item.title.asStr with
          | none => return none
          | some title => return some (← createNotice python conn item sourceSiteId title, true)

/-! ## Merging an item into its notice -/

/-- The published dates of a notice once the date of an item is applied. -/
def TenderNotice.applyPublished (notice : TenderNotice) (published : DateTime) : Except PyError TenderNotice := do
  let first ← coerceUtcDatetime notice.firstPublishedAt
  let latest ← coerceUtcDatetime notice.latestPublishedAt
  return { notice with
    publishedAt := some published
    firstPublishedAt := if first.all (published.instant < ·.instant) then some published else notice.firstPublishedAt
    latestPublishedAt := if latest.all (·.instant < published.instant) then some published else notice.latestPublishedAt }

/-- The assignments of `_apply_notice_fields` other than the published dates. -/
def TenderNotice.applyTexts (notice : TenderNotice) (item : Item) : TenderNotice :=
  { notice with
    title := item.title.asStr.getD notice.title
    noticeType := normalizeNoticeType (Value.ofText (item.noticeType.asStr <|> some notice.noticeType))
    externalId := item.resolvedExternalId <|> notice.externalId
    projectCode := item.projectCode.asStr <|> notice.projectCode
    dedupHash := item.resolvedDedupHash <|> notice.dedupHash
    dedupKey := item.dedupKey.asStr <|> item.sourceDuplicateKey.asStr <|> notice.dedupKey
    sourceDuplicateKey := item.sourceDuplicateKey.asStr <|> notice.sourceDuplicateKey
    issuer := item.issuer.asStr <|> notice.issuer
    region := item.region.asStr <|> notice.region
    deadlineAt := item.deadlineAt.asDatetime python <|> notice.deadlineAt
    budgetAmount := item.budgetAmount.asDecimal python <|> notice.budgetAmount
    budgetCurrency := item.budgetCurrency.asStr.getD notice.budgetCurrency
    summary := item.summary.asStr <|> item.contentText.asStr <|> notice.summary }

/-- `_apply_notice_fields` -/
def TenderNotice.applyFields (notice : TenderNotice) (item : Item) : Except PyError TenderNotice :=
  match item.publishedAt.asDatetime python with
  | some published => (notice.applyTexts python item).applyPublished published
  | none => .ok (notice.applyTexts python item)

/-- `_resolve_notice` and `_apply_notice_fields`, with which three of the writers begin -/
def mergedNotice (item : Item) (sourceSiteId : ℕ) : Call (Option (TenderNotice × Bool)) := do
  match ← resolveNotice python conn item sourceSiteId with
  | none => return none
  | some (notice, created) =>
      let merged ← raisePython (notice.applyFields python item)
      putNotice merged
      return some (merged, created)

/-! ## Notices -/

def existsNoticeVersionWithIdentityContent (sourceSiteId : ℕ) (dedupKey sourceDuplicateKey : Option String)
    (contentHash : String) : Call Bool := do
  if dedupKey.isNone ∧ sourceDuplicateKey.isNone then return false
  else
    let notices ← scalars conn Db.notices (·.sourceSiteId = sourceSiteId)
    let existing ← scalar conn Db.versions fun version ↦
      notices.any (·.id = version.noticeId) &&
        (dedupKey.any (version.dedupKey = some ·) || sourceDuplicateKey.any (version.sourceDuplicateKey = some ·)) &&
        version.contentHash = contentHash
    return existing.isSome

/-- The test by which `write_notice` suppresses an item that is stored already. -/
def suppressed (item : Item) (sourceSiteId : ℕ) : Call Bool := do
  let sourceDuplicateKey := item.sourceDuplicateKey.asStr
  match item.contentHash.asStr with
  | none => return false
  | some contentHash =>
      existsNoticeVersionWithIdentityContent conn sourceSiteId (item.dedupKey.asStr <|> sourceDuplicateKey)
        sourceDuplicateKey contentHash

def mergeNotice (item : Item) (sourceSiteId : ℕ) : Call Bool := do
  match ← mergedNotice python conn item sourceSiteId with
  | none => return false
  | some (_, created) =>
      recordStats python conn item
        { noticesUpserted := 1
          deduplicatedCount := count !created
          recordsInserted := count created
          recordsUpdated := count !created }
      return true

def storeNotice (item : Item) (sourceSiteId : ℕ) : Call Bool := do
  if ← suppressed conn item sourceSiteId then
    recordStats python conn item { deduplicatedCount := 1, sourceDuplicatesSuppressed := 1 }
    return true
  else mergeNotice python conn item sourceSiteId

def writeNotice (item : Item) : Call Unit := do
  let item ← raisePython (normalizeNoticeItem python item)
  inSession python conn item (storeNotice python conn item)

/-! ## Versions -/

/-- The version that `_resolve_notice_version` creates. -/
def Item.newVersion (item : Item) (id noticeId : ℕ) (versionNo : ℤ) (contentHash title : String) :
    NoticeVersion where
  id := id
  noticeId := noticeId
  rawDocumentId := none
  versionNo := versionNo
  isCurrent := item.isCurrent.asBool python true
  contentHash := contentHash
  dedupKey := item.dedupKey.asStr <|> item.sourceDuplicateKey.asStr
  sourceDuplicateKey := item.sourceDuplicateKey.asStr
  title := title
  noticeType := normalizeNoticeType item.noticeType
  issuer := item.issuer.asStr
  region := item.region.asStr
  publishedAt := item.publishedAt.asDatetime python
  deadlineAt := item.deadlineAt.asDatetime python
  budgetAmount := item.budgetAmount.asDecimal python
  budgetCurrency := item.budgetCurrency.asStr.getD "CNY"
  structuredData := item.structuredData.getD []
  changeSummary := item.changeSummary.asStr

/-- `_as_int(item.get("version_no")) or 1` -/
def Item.requestedVersionNo (item : Item) : ℤ :=
  match item.versionNo.asInt python with
  | some versionNo => if versionNo = 0 then 1 else versionNo
  | none => 1

/-- `max(version_no)` of a notice, 0 where it has no version -/
def maxVersionNo (noticeId : ℕ) (versions : List NoticeVersion) : ℤ :=
  (((versions.filter (·.noticeId = noticeId)).map NoticeVersion.versionNo).max?).getD 0

def createVersion (item : Item) (noticeId : ℕ) (versionNo : ℤ) : Call (Option (NoticeVersion × Bool)) := do
  match item.title.asStr, item.contentHash.asStr with
  | some title, some contentHash =>
      let state ← get
      let id := conn.nextId (state.work.versions.map NoticeVersion.id)
      let version := item.newVersion python id noticeId versionNo contentHash title
      update fun db ↦ { db with versions := db.versions ++ [version] }
      flush conn .statement
      return some (version, true)
  | _, _ => return none

/-- `_resolve_notice_version` by the version number, where no version has the item's content -/
def resolveVersionByNumber (item : Item) (noticeId : ℕ) : Call (Option (NoticeVersion × Bool)) := do
  let requested := item.requestedVersionNo python
  match ← scalar conn Db.versions fun version ↦ version.noticeId = noticeId ∧ version.versionNo = requested with
  | none => createVersion python conn item noticeId requested
  | some version =>
      if item.contentHash.asStr.all (version.contentHash = ·) then return some (version, false)
      else
        flush conn .statement
        let state ← get
        createVersion python conn item noticeId (maxVersionNo noticeId state.work.versions + 1)

def resolveNoticeVersion (item : Item) (noticeId : ℕ) : Call (Option (NoticeVersion × Bool)) := do
  match item.contentHash.asStr with
  | none => resolveVersionByNumber python conn item noticeId
  | some contentHash =>
      match ← scalar conn Db.versions fun version ↦
          version.noticeId = noticeId ∧ version.contentHash = contentHash with
      | some version => return some (version, false)
      | none => resolveVersionByNumber python conn item noticeId

/-- The raw document of the page, by the hash of its URL -/
def rawDocumentIdByHash (sourceSiteId : ℕ) (urlHash : Option String) : Call (Option ℕ) := do
  match urlHash with
  | none => return none
  | some urlHash => do
      let document ← scalar conn Db.rawDocuments fun row ↦ row.sourceSiteId = sourceSiteId ∧ row.urlHash = urlHash
      return document.map RawDocument.id

/-- `structured_data` of a version, with the five fields that `write_notice_version` adds -/
def Item.versionStructuredData (item : Item) : Mapping :=
  let added := [("source_site_name", item.sourceSiteName), ("source_site_url", item.sourceSiteUrl),
    ("list_page_url", item.listPageUrl), ("detail_page_url", item.detailPageUrl), ("content_text", item.contentText)]
  let updated := added.foldl (fun mapping entry ↦ Mapping.set mapping entry.1 (Value.ofText entry.2.asStr))
    (item.structuredData.getD [])
  updated.filter (·.2.isSome)

/-- The assignments that `write_notice_version` makes to the version, whether new or not. -/
def NoticeVersion.applyFields (version : NoticeVersion) (item : Item) (notice : TenderNotice)
    (rawDocumentId : Option ℕ) : NoticeVersion :=
  { version with
    isCurrent := item.isCurrent.asBool python true
    contentHash := item.contentHash.asStr.getD version.contentHash
    dedupKey := item.dedupKey.asStr <|> item.sourceDuplicateKey.asStr <|> version.dedupKey
    sourceDuplicateKey := item.sourceDuplicateKey.asStr <|> version.sourceDuplicateKey
    title := item.title.asStr.getD notice.title
    noticeType := normalizeNoticeType (Value.ofText (item.noticeType.asStr <|> some notice.noticeType))
    issuer := item.issuer.asStr
    region := item.region.asStr
    publishedAt := item.publishedAt.asDatetime python
    deadlineAt := item.deadlineAt.asDatetime python
    budgetAmount := item.budgetAmount.asDecimal python
    budgetCurrency := item.budgetCurrency.asStr.getD "CNY"
    structuredData := item.versionStructuredData
    changeSummary := item.changeSummary.asStr
    rawDocumentId := rawDocumentId }

/-- Make the version the only current one of its notice. -/
def NoticeVersion.promote (version : NoticeVersion) (notice : TenderNotice) (db : Db) : Db :=
  { db with
    versions := db.versions.map fun other ↦
      if other.noticeId = notice.id ∧ other.id ≠ version.id then { other with isCurrent := false } else other
    notices := putRow TenderNotice.id { notice with currentVersionId := some version.id } db.notices }

/-- The published dates of a notice widened by the date of a version. -/
def TenderNotice.widenPublished (notice : TenderNotice) (published : Option DateTime) :
    Except PyError TenderNotice := do
  match ← coerceUtcDatetime published with
  | none => return notice
  | some published =>
      let first ← coerceUtcDatetime notice.firstPublishedAt
      let latest ← coerceUtcDatetime notice.latestPublishedAt
      return { notice with
        firstPublishedAt :=
          if first.all (published.instant < ·.instant) then some published else notice.firstPublishedAt
        latestPublishedAt :=
          if latest.all (·.instant < published.instant) then some published else notice.latestPublishedAt }

/-- Where the version is current: no other version of the notice is, and the notice names it. -/
def promoteCurrent (version : NoticeVersion) (notice : TenderNotice) : Call Unit :=
  if version.isCurrent then update (version.promote notice) else pure ()

/-- What `write_notice_version` does to the version once it is found or created. -/
def storeFoundVersion (item : Item) (sourceSiteId : ℕ) (notice : TenderNotice) (found : NoticeVersion)
    (created : Bool) : Call Bool := do
  let rawDocumentId ← rawDocumentIdByHash conn sourceSiteId item.rawDocumentUrlHash.asStr
  let version := found.applyFields python item notice rawDocumentId
  putVersion version
  flush conn .statement
  promoteCurrent version notice
  let promoted := if version.isCurrent then { notice with currentVersionId := some version.id } else notice
  let widened ← raisePython (promoted.widenPublished version.publishedAt)
  putNotice widened
  recordStats python conn item
    { deduplicatedCount := count !created
      recordsInserted := count created
      recordsUpdated := count !created }
  return true

def storeNoticeVersion (item : Item) (sourceSiteId : ℕ) : Call Bool := do
  match ← mergedNotice python conn item sourceSiteId with
  | none => return false
  | some (notice, _) =>
      match ← resolveNoticeVersion python conn item notice.id with
      | none => return false
      | some (version, created) => storeFoundVersion python conn item sourceSiteId notice version created

def writeNoticeVersion (item : Item) : Call Unit := do
  let item ← raisePython (normalizeNoticeItem python item)
  inSession python conn item (storeNoticeVersion python conn item)

/-! ## Attachments -/

/-- What `text.rsplit(sep, maxsplit=1)[-1]` returns. -/
def afterLast (sep : Char) (text : String) : String :=
  String.ofList ((text.toList.reverse.takeWhile (· ≠ sep)).reverse)

def inferAttachmentFileName (fileUrl : Option String) : Except PyError (Option String) :=
  match fileUrl with
  | none => .ok none
  | some fileUrl => do
      let path ← python.urlparsePath fileUrl
      return nonEmpty (strip (python.unquote (afterLast '/' path)))

def extensionOf (name : String) : Option String :=
  if contains name "." then nonEmpty (strip (afterLast '.' name)) else none

def inferAttachmentFileExt (fileName fileUrl : String) : Except PyError (Option String) := do
  match extensionOf fileName with
  | some candidate => return some (python.lower candidate)
  | none =>
      let path ← python.urlparsePath fileUrl
      return (extensionOf (afterLast '/' path)).map python.lower

def inferAttachmentMimeType (mimeType : Option String) (fileName fileUrl : String) :
    Except PyError (Option String) := do
  match mimeType with
  | some mimeType => return some mimeType
  | none =>
      match (← python.guessType fileName).bind nonEmpty with
      | some guessed => return some guessed
      | none => python.guessType fileUrl

def normalizeAttachmentType (value : Option String) : String :=
  (value.filter ["notice_file", "bid_file", "other"].contains).getD "notice_file"

def attachmentVersionId (item : Item) (notice : TenderNotice) : Call (Option ℕ) := do
  match item.noticeVersionNo.asInt python with
  | none => return notice.currentVersionId
  | some versionNo =>
      let numbered ← scalar conn Db.versions fun version ↦
        version.noticeId = notice.id ∧ version.versionNo = versionNo
      return numbered.map NoticeVersion.id <|> notice.currentVersionId

/-- The columns that `write_attachment` writes for a new attachment. -/
def Item.attachment (item : Item) (id sourceSiteId noticeId : ℕ) (noticeVersionId rawDocumentId : Option ℕ)
    (fileName fileUrl urlHash : String) (fileExt mimeType : Option String) : TenderAttachment where
  id := id
  sourceSiteId := sourceSiteId
  noticeId := noticeId
  noticeVersionId := noticeVersionId
  rawDocumentId := rawDocumentId
  fileName := fileName
  attachmentType := normalizeAttachmentType item.attachmentType.asStr
  fileUrl := fileUrl
  urlHash := urlHash
  fileHash := item.fileHash.asStr
  storageUri := item.storageUri.asStr
  mimeType := mimeType
  fileExt := fileExt
  fileSizeBytes := item.fileSizeBytes.asInt python
  publishedAt := item.publishedAt.asDatetime python
  downloadedAt := item.downloadedAt.asDatetime python
  isDeleted := false

/-- An attachment that exists already keeps its key, its flag, and a download time that the item
does not give. -/
def TenderAttachment.overwrite (existing written : TenderAttachment) : TenderAttachment :=
  { written with
    id := existing.id
    sourceSiteId := existing.sourceSiteId
    urlHash := existing.urlHash
    downloadedAt := written.downloadedAt <|> existing.downloadedAt
    isDeleted := existing.isDeleted }

/-- The extension of an attachment: inferred where the item gives none. -/
def Item.writtenFileExt (item : Item) (fileName fileUrl : String) : Except PyError (Option String) :=
  match item.fileExt.asStr with
  | some fileExt => .ok (some fileExt)
  | none => inferAttachmentFileExt python fileName fileUrl

/-- Insert the attachment, or overwrite the one with the same URL; `written` gives its columns. -/
def putAttachment (existing : Option TenderAttachment) (written : ℕ → TenderAttachment) : Call Unit :=
  match existing with
  | none => update fun db ↦
      let attachment := written (conn.nextId (db.attachments.map TenderAttachment.id))
      { db with attachments := db.attachments ++ [attachment] }
  | some existing => update fun db ↦
      let attachment := existing.overwrite (written existing.id)
      { db with attachments := putRow TenderAttachment.id attachment db.attachments }

/-- What `write_attachment` does once it has the notice and the file. -/
def storeFile (item : Item) (sourceSiteId : ℕ) (notice : TenderNotice)
    (urlHash fileUrl fileName : String) : Call Bool := do
  let existing ← scalar conn Db.attachments fun row ↦ row.sourceSiteId = sourceSiteId ∧ row.urlHash = urlHash
  let noticeVersionId ← attachmentVersionId python conn item notice
  let rawDocumentId ← rawDocumentIdByHash conn sourceSiteId (some urlHash)
  let fileExt ← raisePython (item.writtenFileExt python fileName fileUrl)
  let mimeType ← raisePython (inferAttachmentMimeType python item.mimeType.asStr fileName fileUrl)
  putAttachment conn existing fun id ↦
    item.attachment python id sourceSiteId notice.id noticeVersionId rawDocumentId fileName fileUrl urlHash
      fileExt mimeType
  recordStats python conn item
    { deduplicatedCount := count existing.isSome
      recordsInserted := count existing.isNone
      recordsUpdated := count existing.isSome }
  return true

/-- The name of an attachment: inferred from its URL where the item gives none. -/
def Item.writtenFileName (item : Item) : Except PyError (Option String) :=
  match item.fileName.asStr with
  | some fileName => .ok (some fileName)
  | none => inferAttachmentFileName python item.fileUrl.asStr

/-- The URL hash, the URL and the name that an attachment is stored with, where it has all three. -/
def Item.file (item : Item) : Except PyError (Option (String × String × String)) := do
  match item.urlHash.asStr, item.fileUrl.asStr, ← item.writtenFileName python with
  | some urlHash, some fileUrl, some fileName => return some (urlHash, fileUrl, fileName)
  | _, _, _ => return none

def storeAttachment (item : Item) (sourceSiteId : ℕ) : Call Bool := do
  match ← mergedNotice python conn item sourceSiteId with
  | none => return false
  | some (notice, _) =>
      match ← raisePython (item.file python) with
      | none => return true
      | some (urlHash, fileUrl, fileName) =>
          storeFile python conn item sourceSiteId notice urlHash fileUrl fileName

/-- The two normalisations of `write_attachment` -/
def normalizeAttachment (item : Item) : Except PyError Item := do
  normalizeAttachmentItem python (← normalizeNoticeItem python item)

def writeAttachment (item : Item) : Call Unit := do
  let item ← raisePython (normalizeAttachment python item)
  inSession python conn item (storeAttachment python conn item)

/-! ## Errors -/

def normalizeErrorStage (value : Option String) : String :=
  (value.filter ["fetch", "parse", "persist"].contains).getD "parse"

def Item.crawlError (item : Item) (id sourceSiteId : ℕ) : CrawlError where
  id := id
  sourceSiteId := sourceSiteId
  crawlJobId := item.crawlJobId.asInt python
  rawDocumentId := none
  stage := normalizeErrorStage item.stage.asStr
  url := item.url.asStr
  errorType := item.errorType.asStr.getD "UnknownError"
  errorMessage := item.errorMessage.asStr.getD ""
  traceback := item.traceback.asStr
  retryable := item.retryable.asBool python false
  occurredAt := (item.occurredAt.asDatetime python).getD conn.now
  resolved := false

def storeError (item : Item) (sourceSiteId : ℕ) : Call Bool := do
  update fun db ↦
    let id := conn.nextId (db.errors.map CrawlError.id)
    { db with errors := db.errors ++ [item.crawlError python conn id sourceSiteId] }
  recordStats python conn item { errorCount := 1 }
  return true

def writeError (item : Item) : Call Unit := inSession python conn item (storeError python conn item)

end Writers

/-! ## Runs of the writers -/

inductive WriterCall where
  | rawDocument (item : Item)
  | notice (item : Item)
  | noticeVersion (item : Item)
  | attachment (item : Item)
  | error (item : Item)

def WriterCall.program (python : Python) (conn : Connection) : WriterCall → Call Unit
  | .rawDocument item => writeRawDocument python conn item
  | .notice item => writeNotice python conn item
  | .noticeVersion item => writeNoticeVersion python conn item
  | .attachment item => writeAttachment python conn item
  | .error item => writeError python conn item

def WriterCall.normalized (python : Python) : WriterCall → Except PyError Item
  | .rawDocument item => normalizeRawDocumentItem python item
  | .notice item | .noticeVersion item => normalizeNoticeItem python item
  | .attachment item => normalizeAttachment python item
  | .error item => .ok item

/-- What a call does with its normalised item once it has the source. -/
def WriterCall.store (python : Python) (conn : Connection) (item : Item) : WriterCall → ℕ → Call Bool
  | .rawDocument _ => storeRawDocument python conn item
  | .notice _ => storeNotice python conn item
  | .noticeVersion _ => storeNoticeVersion python conn item
  | .attachment _ => storeAttachment python conn item
  | .error _ => storeError python conn item

/-- Every call normalises its item and stores it in a session. -/
theorem WriterCall.program_eq (python : Python) (conn : Connection) (call : WriterCall) :
    call.program python conn = (do
      let item ← raisePython (call.normalized python)
      inSession python conn item (call.store python conn item)) := by
  cases call <;> rfl

/-- What is left between two calls: the cache of the context and the committed rows. -/
structure Context where
  sourceCache : List (String × ℕ)
  db : Db

def Context.opened (context : Context) : CallState := ⟨context.sourceCache, context.db, context.db⟩

/-- The session closed: what it did not commit is gone, the cache stays. -/
def CallState.closed (state : CallState) : Context := ⟨state.sourceCache, state.committed⟩

/-- One call of a writer, over the connection it meets. -/
def Context.step (python : Python) (context : Context) (event : Connection × WriterCall) : Context :=
  ((event.2.program python event.1).run.run context.opened).2.closed

end TenderPhase1.Crawler
