import TenderPhase1.Foundation.IsoDate
import TenderPhase1.Foundation.ListExtremes
import TenderPhase1.Spiders.PageBundle

/-!
# The list pages of the Anhui platform

What `parse` of `AnhuiGgzyZfcgSpider` makes of one page of the list: the requests for the detail
pages that are new, the raw document of the page with what the spider has counted so far, and the
request for the next page. The number of the next page goes into the form, and not into the URL.
-/

namespace TenderPhase1.Spiders.AnhuiGgzyZfcg

open PyText Crawler Jobs IsoDates ListExtremes

/-- `_ListItemCandidate` -/
structure ListItemCandidate where
  detailUrl : String
  title : String
  publishedAt : Option String
  region : Option String
  noticeType : String
  sourceListItemFingerprint : String
  sourceDuplicateKey : String

/-- The arguments of the spider, as `__init__` leaves them. -/
structure ListConfig where
  crawlJobId : Value
  maxPages : Option ℤ
  bulletinNature : String
  timeFilter : Option String
  /-- The first of January of `backfill_year` -/
  backfillStartDate : Option IsoDate
  stopAfterConsecutiveNoNewPages : ℤ
  dedupWithinRun : Bool

/-- What the spider has seen of the list. -/
structure ListSpider where
  seenSourceListItemFingerprints : List String := []
  seenListPages : List ℤ := []
  pagesScraped : ℤ := 0
  listItemsSeen : ℤ := 0
  listItemsUnique : ℤ := 0
  listItemsSourceDuplicatesSkipped : ℤ := 0
  consecutiveNoNewPages : ℤ := 0
  firstPublishDateSeen : Option IsoDate := none
  lastPublishDateSeen : Option IsoDate := none

/-- A page of the list, with what the selectors of the spider find in it. -/
structure ListResponse extends TextResponse where
  /-- The value of the input with the number of the page. -/
  currentPageValue : Option String
  /-- The numbers of the pager, and of the inputs that count pages. -/
  pageNumbers : List ℤ
  /-- The link to the next page where it is enabled, with the number it is aimed at. -/
  nextControl : Option (Option ℤ)
  /-- The items of the list, or the name and the text of the exception that finding them raises. -/
  listItems : Except (String × String) (List ListItemCandidate)

structure FormRequest where
  url : String
  formdata : List (String × String)
  deriving DecidableEq

section Parse

variable (python : Python) (config : ListConfig)

def ListResponse.currentPage (response : ListResponse) : ℤ :=
  ((response.currentPageValue.bind nonEmpty).bind python.int).getD 1

def ListResponse.maxPageNo (response : ListResponse) : ℤ :=
  response.pageNumbers.max?.getD (response.currentPage python)

def ListResponse.nextPageNo (response : ListResponse) : Option ℤ :=
  response.nextControl.map fun target ↦
    (target.filter (response.currentPage python < ·)).getD (response.currentPage python + 1)

def buildListFormdata (page : ℤ) : List (String × String) :=
  [("currentPage", toString page), ("bulletinNature", config.bulletinNature)] ++
    (config.timeFilter.map fun filter ↦ ("time", filter)).toList

/-! ## Dates -/

/-- `_as_date`; `dateFromisoformat` is `date.fromisoformat(text)`, nothing where it raises `ValueError`. -/
def asDate (dateFromisoformat : String → Option IsoDate) (value : Option String) :
    Except PyError (Option IsoDate) := do
  let normalized ← normalizePublishedDate python (Value.ofText value)
  return normalized.bind dateFromisoformat

/-- `_is_in_backfill_window`, of a date that is read -/
def ListConfig.isInBackfillWindow (publishedDate : Option IsoDate) : Bool :=
  match config.backfillStartDate, publishedDate with
  | some start, some date => start ≤ date
  | _, _ => true

def ListConfig.allItemsOlderThanBackfill (dates : List (Option IsoDate)) : Bool :=
  match config.backfillStartDate with
  | none => false
  | some start => dates ≠ [] ∧ ∀ date ∈ dates, date.any (· < start)

/-- `_merge_publish_date_range`: the first date seen is the greatest, the last one the least. -/
def ListSpider.mergePublishDateRange (spider : ListSpider) (minimum maximum : Option IsoDate) : ListSpider :=
  { spider with
    lastPublishDateSeen := match minimum, spider.lastPublishDateSeen with
      | some minimum, some last => if minimum < last then some minimum else some last
      | some minimum, none => some minimum
      | none, last => last
    firstPublishDateSeen := match maximum, spider.firstPublishDateSeen with
      | some maximum, some first => if first < maximum then some maximum else some first
      | some maximum, none => some maximum
      | none, first => first }

/-! ## Items and requests -/

/-- The candidates that are requested, and the fingerprints seen after them; the others are counted. -/
def newCandidates : List String → List ListItemCandidate → List String × List ListItemCandidate × ℤ
  | seen, [] => (seen, [], 0)
  | seen, candidate :: candidates =>
      if config.dedupWithinRun && seen.contains candidate.sourceListItemFingerprint then
        let (seen, taken, skipped) := newCandidates seen candidates
        (seen, taken, skipped + 1)
      else
        let (seen, taken, skipped) := newCandidates (candidate.sourceListItemFingerprint :: seen) candidates
        (seen, candidate :: taken, skipped)

/-- `_build_raw_item` of the page of a list, whose document has no keys. -/
def buildRawItem (response : TextResponse) (fetchedAt : DateTime) (role : String) (extraMeta : Mapping) :
    Except PyError Item := do
  let normalized ← normalizeUrl python response.url
  return rawDocumentItem python config.crawlJobId sourceCode response response.url normalized
    (nonEmpty (collapseSpaces (response.title.getD ""))) fetchedAt none none (("role", some (.str role)) :: extraMeta)

/-- An integer of a message -/
def optionalText (value : Option ℤ) : String := (value.map toString).getD "None"

/-- What `parse` notes of a page besides the counts and dates of the spider. -/
structure ListPageNotes where
  itemCount : ℤ
  filteredOut : ℤ
  newUnique : ℤ
  duplicatesSkipped : ℤ
  publishMin : Option IsoDate
  publishMax : Option IsoDate
  allOlder : Bool

def pageState (response : ListResponse) : String :=
  "max_page_no=" ++ toString (response.maxPageNo python) ++
    ",has_next_control=" ++ (if (response.nextPageNo python).isSome then "True" else "False") ++
    ",next_page=" ++ optionalText (response.nextPageNo python) ++
    ",backfill_year=" ++ optionalText (config.backfillStartDate.map fun start ↦ (start.year : ℤ))

def listPageMeta (spider : ListSpider) (response : ListResponse) (notes : ListPageNotes) : Mapping :=
  [("list_page_url", some (.str response.url)),
    ("current_page", some (.ofInt (response.currentPage python))),
    ("max_page_no", some (.ofInt (response.maxPageNo python))),
    ("pages_scraped_total", some (.ofInt spider.pagesScraped)),
    ("page_item_count", some (.ofInt notes.itemCount)),
    ("page_items_filtered_out_by_backfill", some (.ofInt notes.filteredOut)),
    ("new_unique_item_count", some (.ofInt notes.newUnique)),
    ("page_source_duplicates_skipped", some (.ofInt notes.duplicatesSkipped)),
    ("list_items_seen_total", some (.ofInt spider.listItemsSeen)),
    ("list_items_unique_total", some (.ofInt spider.listItemsUnique)),
    ("list_items_source_duplicates_skipped_total", some (.ofInt spider.listItemsSourceDuplicatesSkipped)),
    ("list_page_publish_date_min", Value.ofText (notes.publishMin.map IsoDate.isoformat)),
    ("list_page_publish_date_max", Value.ofText (notes.publishMax.map IsoDate.isoformat)),
    ("first_publish_date_seen_total", Value.ofText (spider.firstPublishDateSeen.map IsoDate.isoformat)),
    ("last_publish_date_seen_total", Value.ofText (spider.lastPublishDateSeen.map IsoDate.isoformat)),
    ("all_items_older_than_backfill", some (.ofBool notes.allOlder)),
    ("stop_after_consecutive_no_new_pages", some (.ofInt config.stopAfterConsecutiveNoNewPages)),
    ("page_state", some (.str (pageState python config response)))]

/-- The request for the next page, where the spider goes on; joining the URL may raise. -/
def nextRequest (spider : ListSpider) (response : ListResponse) (notes : ListPageNotes) :
    Option (Except PyError FormRequest) :=
  if notes.itemCount = 0 ∨ notes.allOlder ∨ config.maxPages.any (· ≤ spider.pagesScraped) ∨
      config.stopAfterConsecutiveNoNewPages ≤ spider.consecutiveNoNewPages then none
  else (response.nextPageNo python).map fun page ↦
    (response.urljoin "/zfcg/list").map fun url ↦ ⟨url, buildListFormdata config page⟩

/-! ## The callback -/

/-- `_build_error_item` for a list that cannot be read -/
def listErrorItem (response : ListResponse) (error : String × String) (occurredAt : DateTime) : Item where
  sourceCode := some (.str sourceCode)
  crawlJobId := config.crawlJobId
  stage := some (.str "parse")
  url := some (.str response.url)
  errorType := some (.str error.1)
  errorMessage := some (.str ("parse list failed: " ++ error.2))
  traceback := some (.str "")
  retryable := some (.ofBool true)
  occurredAt := some (.str (python.isoformat occurredAt))

/-- What `parse` yields for a page whose items and dates it could read; `dates` are those of its items. -/
structure ParsedListPage where
  dates : List IsoDate
  detailRequests : List ListItemCandidate
  rawItem : Except PyError Item
  nextRequest : Option (Except PyError FormRequest)

inductive ListOutcome where
  | repeated
  | failed (errorItem : Item)
  | raised (error : PyError)
  | parsed (page : ParsedListPage)

def ListSpider.countPage (spider : ListSpider) (currentPage : ℤ) : ListSpider :=
  { spider with
    seenListPages := currentPage :: spider.seenListPages
    pagesScraped := spider.pagesScraped + 1 }

/-- The rest of `parse`, once the items are there and their dates are read. -/
def parseItems (spider : ListSpider) (response : ListResponse) (fetchedAt : DateTime)
    (items : List ListItemCandidate) (itemDates : List (Option IsoDate)) : ListSpider × ParsedListPage :=
  let dates := itemDates.filterMap id
  let merged := spider.mergePublishDateRange dates.min? dates.max?
  let allOlder := config.allItemsOlderThanBackfill itemDates
  let filtered := ((items.zip itemDates).filter fun item ↦ config.isInBackfillWindow item.2).map Prod.fst
  let (fingerprints, taken, skipped) :=
    if allOlder then (spider.seenSourceListItemFingerprints, [], 0)
    else newCandidates config spider.seenSourceListItemFingerprints filtered
  let counted := { merged with
    seenSourceListItemFingerprints := fingerprints
    listItemsUnique := spider.listItemsUnique + taken.length
    listItemsSourceDuplicatesSkipped := spider.listItemsSourceDuplicatesSkipped + skipped
    consecutiveNoNewPages := if taken = [] then spider.consecutiveNoNewPages + 1 else 0 }
  let notes : ListPageNotes :=
    ⟨items.length, items.length - filtered.length, taken.length, skipped, dates.min?, dates.max?, allOlder⟩
  let rawItem := buildRawItem python config response.toTextResponse fetchedAt "list"
    (listPageMeta python config counted response notes)
  (counted, ⟨dates, taken, rawItem, if rawItem.isOk then nextRequest python config counted response notes else none⟩)

def parse (dateFromisoformat : String → Option IsoDate) (spider : ListSpider) (response : ListResponse)
    (fetchedAt : DateTime) : ListSpider × ListOutcome :=
  if spider.seenListPages.contains (response.currentPage python) then (spider, .repeated)
  else
    let counted := spider.countPage (response.currentPage python)
    match response.listItems with
    | .error error => (counted, .failed (listErrorItem python config response error fetchedAt))
    | .ok items =>
        let seen := { counted with listItemsSeen := counted.listItemsSeen + items.length }
        match items.mapM fun item ↦ asDate python dateFromisoformat item.publishedAt with
        | .error error => (seen, .raised error)
        | .ok itemDates =>
            let (after, page) := parseItems python config seen response fetchedAt items itemDates
            (after, .parsed page)

end Parse

/-! ## The archive pipeline -/

/-- The files that `RawArchivePipeline` writes for a document, and when. -/
structure ArchiveFiles where
  archiveHtml : String
  archiveMeta : String
  archivedAt : String

/-- `RawArchivePipeline.process_item` of a raw document -/
def rawArchive (item : Item) (files : ArchiveFiles) : Item :=
  let rawBody := ((item.rawBody.or (some (.str ""))).map PyObject.text).getD ""
  { item with
    extraMeta := some ((((item.extraMeta.getD []).set "archive_html" (some (.str files.archiveHtml))).set
      "archive_meta" (some (.str files.archiveMeta))).set "archived_at" (some (.str files.archivedAt)))
    storageUri := item.storageUri.or (some (.str files.archiveHtml))
    contentLength := item.contentLength.or (some (.ofInt rawBody.utf8ByteSize)) }

/-! ## What the callback leaves behind -/

section Results

variable {python : Python} {config : ListConfig}
  {spider : ListSpider} {response : ListResponse} {fetchedAt : DateTime} {page : ParsedListPage}

/-- The next page is requested from the URL that `/zfcg/list` is joined to, whatever its number. -/
theorem nextRequest_url {notes : ListPageNotes} {request : FormRequest}
    (h : nextRequest python config spider response notes = some (.ok request)) :
    response.urljoin "/zfcg/list" = .ok request.url := by
  unfold nextRequest at h
  split at h
  · cases h
  · obtain ⟨page, -, hrequest⟩ := Option.map_eq_some_iff.mp h
    cases hurl : response.urljoin "/zfcg/list" with
    | error error =>
      rw [hurl] at hrequest
      cases hrequest
    | ok url =>
      rw [hurl] at hrequest
      rw [← Except.ok.inj hrequest]

/-- What a page that is read does to the dates of the spider, and what its document is made of. -/
structure ListPageRead (python : Python) (config : ListConfig) (response : ListResponse) (fetchedAt : DateTime)
    (before after : ListSpider) (page : ParsedListPage) : Prop where
  first : after.firstPublishDateSeen = greater before.firstPublishDateSeen page.dates.max?
  last : after.lastPublishDateSeen = less before.lastPublishDateSeen page.dates.min?
  rawItem : ∃ notes : ListPageNotes, notes.publishMin = page.dates.min? ∧ notes.publishMax = page.dates.max? ∧
    page.rawItem = buildRawItem python config response.toTextResponse fetchedAt "list"
      (listPageMeta python config after response notes)

theorem firstPublishDateSeen_merge (minimum maximum : Option IsoDate) :
    (spider.mergePublishDateRange minimum maximum).firstPublishDateSeen =
      greater spider.firstPublishDateSeen maximum := by
  unfold ListSpider.mergePublishDateRange
  cases maximum <;> cases spider.firstPublishDateSeen <;> rfl

theorem lastPublishDateSeen_merge (minimum maximum : Option IsoDate) :
    (spider.mergePublishDateRange minimum maximum).lastPublishDateSeen =
      less spider.lastPublishDateSeen minimum := by
  unfold ListSpider.mergePublishDateRange
  cases minimum <;> cases spider.lastPublishDateSeen <;> rfl

theorem parseItems_read (items : List ListItemCandidate) (itemDates : List (Option IsoDate)) :
    ListPageRead python config response fetchedAt spider
      (parseItems python config spider response fetchedAt items itemDates).1
      (parseItems python config spider response fetchedAt items itemDates).2 where
  first := firstPublishDateSeen_merge (itemDates.filterMap id).min? (itemDates.filterMap id).max?
  last := lastPublishDateSeen_merge (itemDates.filterMap id).min? (itemDates.filterMap id).max?
  rawItem := ⟨_, rfl, rfl, rfl⟩

/-- What `parse` does to the dates that the spider has seen: a page that is read is merged into them,
any other leaves them. -/
theorem parse_cases (python : Python) (config : ListConfig) (dateFromisoformat : String → Option IsoDate)
    (spider : ListSpider) (response : ListResponse) (fetchedAt : DateTime) :
    (∃ page, (parse python config dateFromisoformat spider response fetchedAt).2 = .parsed page ∧
        ListPageRead python config response fetchedAt spider
          (parse python config dateFromisoformat spider response fetchedAt).1 page) ∨
      (∀ page, (parse python config dateFromisoformat spider response fetchedAt).2 ≠ .parsed page) ∧
        (parse python config dateFromisoformat spider response fetchedAt).1.firstPublishDateSeen =
          spider.firstPublishDateSeen ∧
        (parse python config dateFromisoformat spider response fetchedAt).1.lastPublishDateSeen =
          spider.lastPublishDateSeen := by
  unfold parse
  split
  · exact Or.inr ⟨fun _ h ↦ (nomatch h), rfl, rfl⟩
  · dsimp only
    split
    · exact Or.inr ⟨fun _ h ↦ (nomatch h), rfl, rfl⟩
    · rename_i items hitems
      split
      · exact Or.inr ⟨fun _ h ↦ (nomatch h), rfl, rfl⟩
      · rename_i itemDates hdates
        have hread : ListPageRead python config response fetchedAt
            { spider.countPage (response.currentPage python) with
              listItemsSeen := spider.listItemsSeen + items.length } _ _ := parseItems_read items itemDates
        exact Or.inl ⟨_, rfl, hread.first, hread.last, hread.rawItem⟩

end Results

end TenderPhase1.Spiders.AnhuiGgzyZfcg
