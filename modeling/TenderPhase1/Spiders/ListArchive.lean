import TenderPhase1.Crawler.DocumentAccepted
import TenderPhase1.Executors.ListPageDates
import TenderPhase1.Foundation.LastWrites
import TenderPhase1.Spiders.AnhuiList

/-!
# Crawling the list of the Anhui platform

A crawl reads the pages of the list one after another, and the document of each page goes to the
archive. Between two pages, the calls for the detail pages, the notices and the errors go to the
same database. The crawl remembers the pages it has read and what was archived.
-/

namespace TenderPhase1.Spiders.AnhuiGgzyZfcg

open PyText Crawler Jobs IsoDates ListExtremes LastWrites KeyedRows Executors Transition

/-! ## Documents of the list -/

/-- `extra_meta` as `_collect_list_page_stats` reads it. -/
def readListMeta (extraMeta : Mapping) : ListPageMeta where
  role := (((extraMeta.get "role").or (some (.str ""))).map PyObject.text).getD ""
  publishDates := ["list_page_publish_date_max", "list_page_publish_date_min", "first_publish_date_seen_total",
    "last_publish_date_seen_total"].map fun key ↦ (extraMeta.get key).map PyObject.text

def hasListRole (extraMeta : Option Mapping) : Bool := (extraMeta.map readListMeta).any ListPageMeta.isList

/-- The document is a page of the list, and of the job. -/
def Listed (job : ℤ) (page : ArchivedPage) : Prop := page.crawlJobId = some job ∧ hasListRole page.extraMeta

instance (job : ℤ) : DecidablePred (Listed job) := fun _ ↦ instDecidableAnd

def listDocuments (job : ℤ) (db : Db) : List RawDocument := db.rawDocuments.filter fun document ↦ Listed job document.page

/-- `_collect_list_page_stats` of the job, over the connection of the executor. -/
def listPageStats (conn : Connection) (job : ℤ) (db : Db) : ListPageStats :=
  collectListPageStats ((conn.answer (db.rawDocuments.filter (·.crawlJobId = some job))).filterMap fun document ↦
    document.extraMeta.map readListMeta)

/-! ## The crawl -/

/-- A page that was read: the dates of its items, its content and metadata, and the key under which it was
archived, where it was. -/
structure ListedPage where
  dates : List IsoDate
  key : Option (ℕ × String)
  content : ArchivedPage

structure ListCrawl where
  spider : ListSpider
  context : Context
  pages : List ListedPage
  /-- The documents that were archived, whatever page they are of. -/
  writes : List ((ℕ × String) × ArchivedPage)

def isListPage : WriterCall → Bool
  | .rawDocument item => hasListRole item.extraMeta
  | _ => false

/-- A page of the list comes, or another item of the crawl goes to its writer. -/
inductive CrawlEvent where
  | listPage (conn : Connection) (response : ListResponse) (fetchedAt : DateTime) (files : ArchiveFiles)
  | call (conn : Connection) (call : WriterCall) (hother : isListPage call = false)

section Step

variable (python : Python) (config : ListConfig) (dateFromisoformat : String → Option IsoDate)

def ListCrawl.write (crawl : ListCrawl) (conn : Connection) (call : WriterCall) : ListCrawl :=
  { crawl with
    context := crawl.context.step python (conn, call)
    writes := crawl.writes ++ (crawl.context.archives python (conn, call)).toList }

def pageContent (response : ListResponse) (extraMeta : Option Mapping) : ArchivedPage :=
  ⟨config.crawlJobId.asInt python, some (python.sha256Text response.text), extraMeta⟩

/-- The crawl once the page is read; where its document cannot be made, nothing is archived. -/
def ListCrawl.readPage (crawl : ListCrawl) (conn : Connection) (response : ListResponse) (files : ArchiveFiles)
    (page : ParsedListPage) : ListCrawl :=
  match page.rawItem with
  | .error _ => { crawl with pages := crawl.pages ++ [⟨page.dates, none, pageContent python config response none⟩] }
  | .ok item =>
      let document := rawArchive item files
      let key := (crawl.context.archives python (conn, .rawDocument document)).map Prod.fst
      { crawl.write python conn (.rawDocument document) with
        pages := crawl.pages ++ [⟨page.dates, key, pageContent python config response document.extraMeta⟩] }

def ListCrawl.step (crawl : ListCrawl) : CrawlEvent → ListCrawl
  | .listPage conn response fetchedAt files =>
      let (spider, outcome) := parse python config dateFromisoformat crawl.spider response fetchedAt
      match outcome with
      | .parsed page => ListCrawl.readPage python config { crawl with spider := spider } conn response files page
      | .failed errorItem => ListCrawl.write python { crawl with spider := spider } conn (.error errorItem)
      | .repeated | .raised _ => { crawl with spider := spider }
  | .call conn call _ => crawl.write python conn call

def ListCrawl.start (context : Context) : ListCrawl := ⟨{}, context, [], []⟩

def ListCrawl.run (context : Context) (events : List CrawlEvent) : ListCrawl :=
  events.foldl (ListCrawl.step python config dateFromisoformat) (.start context)

/-- Where the page is read, its URL can be normalised and its document is taken, under a key of its own.
No other document goes to the key of a page. -/
def ListCrawl.Spared (crawl : ListCrawl) : CrawlEvent → Prop
  | .listPage conn response fetchedAt files =>
      ∀ page, (parse python config dateFromisoformat crawl.spider response fetchedAt).2 = .parsed page →
        ∃ item, page.rawItem = .ok item ∧ crawl.context.TakesDocument python conn (rawArchive item files) ∧
          crawl.context.documentKey python conn (rawArchive item files) ∉ crawl.pages.map ListedPage.key
  | .call conn (.rawDocument item) _ => crawl.context.TakesDocument python conn item →
      crawl.context.documentKey python conn item ∉ crawl.pages.map ListedPage.key
  | .call _ _ _ => True

end Step

/-! ## What one event does -/

section Results

variable {python : Python} {config : ListConfig} {dateFromisoformat : String → Option IsoDate}
  {crawl after : ListCrawl} {event : CrawlEvent} {job : ℤ}

structure PageAdded (python : Python) (config : ListConfig) (crawl after : ListCrawl) (page : ListedPage) : Prop where
  pages : after.pages = crawl.pages ++ [page]
  writes : after.writes = crawl.writes ++ (page.key.map fun key ↦ (key, page.content)).toList
  first : after.spider.firstPublishDateSeen = greater crawl.spider.firstPublishDateSeen page.dates.max?
  last : after.spider.lastPublishDateSeen = less crawl.spider.lastPublishDateSeen page.dates.min?
  job : page.content.crawlJobId = config.crawlJobId.asInt python
  read : page.key.isSome → page.content.extraMeta.map readListMeta = some
    ⟨"list", [page.dates.max?, page.dates.min?, after.spider.firstPublishDateSeen,
      after.spider.lastPublishDateSeen].map (Option.map IsoDate.isoformat)⟩

/-- The event has read no page; it may have archived another document. -/
structure PagesKept (crawl after : ListCrawl) (write : Option ((ℕ × String) × ArchivedPage)) : Prop where
  pages : after.pages = crawl.pages
  writes : after.writes = crawl.writes ++ write.toList
  first : after.spider.firstPublishDateSeen = crawl.spider.firstPublishDateSeen
  last : after.spider.lastPublishDateSeen = crawl.spider.lastPublishDateSeen
  other : ∀ archived ∈ write, hasListRole archived.2.extraMeta = false

/-- Setting one key leaves the others. -/
theorem get_set_of_ne {mapping : Mapping} {key other : String} (value : Value) (hne : other ≠ key) :
    (mapping.set key value).get other = mapping.get other := by
  have hbeq : (other == key) = false := beq_false_of_ne hne
  have hreplaced : (mapping.map fun entry ↦ if entry.1 = key then (key, value) else entry).lookup other =
      mapping.lookup other := by
    induction mapping with
    | nil => rfl
    | cons entry mapping ih =>
      rw [List.map_cons]
      by_cases hentry : entry.1 = key
      · rw [if_pos hentry, List.lookup_cons, List.lookup_cons, ih, hentry, hbeq]
      · rw [if_neg hentry, List.lookup_cons, List.lookup_cons, ih]
  have happended : (mapping ++ [(key, value)]).lookup other = mapping.lookup other := by
    have hlast : List.lookup other [(key, value)] = none := by rw [List.lookup_cons, hbeq, List.lookup_nil]
    rw [List.lookup_append, hlast, Option.or_none]
  unfold Mapping.get Mapping.set
  split
  · rw [hreplaced]
  · rw [happended]

/-- The archive pipeline does not touch what is read of the metadata. -/
theorem readListMeta_rawArchive {item : Item} {extraMeta : Mapping} (h : item.extraMeta = some extraMeta)
    (files : ArchiveFiles) : (rawArchive item files).extraMeta.map readListMeta = some (readListMeta extraMeta) := by
  unfold rawArchive readListMeta
  simp [h, get_set_of_ne]

/-- The statistics read from a list page are those that were noted for it. -/
theorem readListMeta_listPageMeta {spider : ListSpider} {response : ListResponse} {notes : ListPageNotes} :
    readListMeta (("role", some (.str "list")) :: listPageMeta python config spider response notes) =
      ⟨"list", [notes.publishMax, notes.publishMin, spider.firstPublishDateSeen,
        spider.lastPublishDateSeen].map (Option.map IsoDate.isoformat)⟩ := by
  have htext (date : Option IsoDate) :
      (Value.ofText (date.map IsoDate.isoformat)).map PyObject.text = date.map IsoDate.isoformat := by
    cases date <;> rfl
  have hmax : Mapping.get (("role", some (.str "list")) :: listPageMeta python config spider response notes)
      "list_page_publish_date_max" = Value.ofText (notes.publishMax.map IsoDate.isoformat) := rfl
  have hmin : Mapping.get (("role", some (.str "list")) :: listPageMeta python config spider response notes)
      "list_page_publish_date_min" = Value.ofText (notes.publishMin.map IsoDate.isoformat) := rfl
  have hfirst : Mapping.get (("role", some (.str "list")) :: listPageMeta python config spider response notes)
      "first_publish_date_seen_total" = Value.ofText (spider.firstPublishDateSeen.map IsoDate.isoformat) := rfl
  have hlast : Mapping.get (("role", some (.str "list")) :: listPageMeta python config spider response notes)
      "last_publish_date_seen_total" = Value.ofText (spider.lastPublishDateSeen.map IsoDate.isoformat) := rfl
  unfold readListMeta
  simp only [List.map_cons, List.map_nil, hmax, hmin, hfirst, hlast, htext]
  rfl

/-- The document of a page, as it is archived. -/
theorem buildRawItem_eq {response : TextResponse} {fetchedAt : DateTime} {role : String} {extraMeta : Mapping} {item : Item}
    (h : buildRawItem python config response fetchedAt role extraMeta = .ok item) :
    item.crawlJobId = config.crawlJobId ∧ item.contentHash = some (.str (python.sha256Text response.text)) ∧
      item.extraMeta = some (("role", some (.str role)) :: extraMeta) := by
  unfold buildRawItem at h
  obtain ⟨normalized, -, h⟩ := bind_eq_ok.mp h
  rw [← Except.ok.inj h]
  exact ⟨rfl, rfl, rfl⟩

/-- What is archived of a page is its content, with the metadata. -/
theorem archives_page {conn : Connection} {context : Context} {response : ListResponse} {fetchedAt : DateTime}
    {role : String} {extraMeta : Mapping} {item : Item} {files : ArchiveFiles} {key : ℕ × String} {page : ArchivedPage}
    (hitem : buildRawItem python config response.toTextResponse fetchedAt role extraMeta = .ok item)
    (h : context.archives python (conn, .rawDocument (rawArchive item files)) = some (key, page)) :
    page = pageContent python config response (rawArchive item files).extraMeta := by
  obtain ⟨hjob, hcontent, -⟩ := buildRawItem_eq hitem
  obtain ⟨-, normalized, hnormalized, rfl⟩ := documentKey_of_archives h
  have hhash : ensureContentHash python (rawArchive item files).contentHash (rawArchive item files).rawBody =
      some (python.sha256Text response.text) := by
    change ((item.contentHash.asStr <|> _) : Option String) = _
    rw [hcontent]
    have hsha := python.asStr_sha256Text response.text
    change (PyText.asStr (some (python.sha256Text response.text)) <|> _ : Option String) = _
    rw [hsha]
    rfl
  rw [normalizeRawDocumentItem_page hnormalized, hhash]
  change (⟨item.crawlJobId.asInt python, _, _⟩ : ArchivedPage) = _
  rw [hjob]
  rfl

/-- Reading a page adds it, and the page is spared where it comes to a key that no page has. -/
theorem readPage_added (conn : Connection) (files : ArchiveFiles) {response : ListResponse} {fetchedAt : DateTime}
    {spider : ListSpider} {page : ParsedListPage}
    (hread : ListPageRead python config response fetchedAt crawl.spider spider page) :
    ∃ listed, PageAdded python config crawl
        (ListCrawl.readPage python config { crawl with spider := spider } conn response files page) listed ∧
      ((∃ item, page.rawItem = .ok item ∧ crawl.context.TakesDocument python conn (rawArchive item files) ∧
          crawl.context.documentKey python conn (rawArchive item files) ∉ crawl.pages.map ListedPage.key) ↔
        listed.key.isSome ∧ listed.key ∉ crawl.pages.map ListedPage.key) := by
  classical
  obtain ⟨notes, hmin, hmax, hraw⟩ := hread.rawItem
  unfold ListCrawl.readPage
  cases hitem : page.rawItem with
  | error error =>
    refine ⟨_, ⟨rfl, (List.append_nil _).symm, hread.first, hread.last, rfl, fun h ↦ (nomatch h)⟩, ?_⟩
    simp
  | ok item =>
    have hbuilt := hraw.symm.trans hitem
    refine ⟨_, ⟨rfl, ?_, hread.first, hread.last, rfl, ?_⟩, ?_⟩
    · dsimp only [ListCrawl.write]
      congr 2
      cases harchives : crawl.context.archives python (conn, .rawDocument (rawArchive item files)) with
      | none => rfl
      | some write =>
        have hpage : write.2 = pageContent python config response (rawArchive item files).extraMeta :=
          archives_page hbuilt harchives
        rw [Option.map_some, Option.map_some, ← hpage]
    · intro _
      dsimp only [pageContent]
      rw [readListMeta_rawArchive (buildRawItem_eq hbuilt).2.2, readListMeta_listPageMeta, hmin, hmax]
      rfl
    · dsimp only
      rw [map_fst_archives]
      constructor
      · rintro ⟨other, hother, htakes, hfresh⟩
        obtain rfl : item = other := Except.ok.inj hother
        rw [if_pos htakes]
        obtain ⟨normalized, hnormalized, hhash, -⟩ := htakes
        refine ⟨?_, hfresh⟩
        simpa [Context.documentKey, hnormalized] using hhash
      · rintro ⟨hsome, hfresh⟩
        split at hsome
        · rename_i htakes
          rw [if_pos htakes] at hfresh
          exact ⟨item, rfl, htakes, hfresh⟩
        · cases hsome

/-- What a call archives that is not for a page of the list. -/
theorem archives_other {conn : Connection} {call : WriterCall} {context : Context} {write : (ℕ × String) × ArchivedPage}
    (hother : isListPage call = false) (h : context.archives python (conn, call) = some write) :
    hasListRole write.2.extraMeta = false := by
  cases call with
  | rawDocument item =>
    obtain ⟨key, page⟩ := write
    obtain ⟨-, normalized, hnormalized, rfl⟩ := documentKey_of_archives h
    rw [normalizeRawDocumentItem_page hnormalized]
    exact hother
  | _ => cases h

/-- Another document is spared where it comes to a key that no page has. -/
theorem spared_call_iff {conn : Connection} {call : WriterCall} {hother : isListPage call = false} :
    crawl.Spared python config dateFromisoformat (.call conn call hother) ↔
      ∀ archived ∈ crawl.context.archives python (conn, call), some archived.1 ∉ crawl.pages.map ListedPage.key := by
  classical
  cases call with
  | rawDocument item =>
    have hkeys : (crawl.context.archives python (conn, .rawDocument item)).map Prod.fst =
        if crawl.context.TakesDocument python conn item then crawl.context.documentKey python conn item else none :=
      map_fst_archives item
    change (crawl.context.TakesDocument python conn item →
      crawl.context.documentKey python conn item ∉ crawl.pages.map ListedPage.key) ↔ _
    cases harchives : crawl.context.archives python (conn, .rawDocument item) with
    | none =>
      have hnot : ¬ crawl.context.TakesDocument python conn item := by
        rw [← isSome_archives_iff, harchives]
        exact Bool.false_ne_true
      simp [hnot]
    | some write =>
      have htakes : crawl.context.TakesDocument python conn item := by
        rw [← isSome_archives_iff, harchives]
        rfl
      rw [if_pos htakes, harchives, Option.map_some] at hkeys
      simp [htakes, ← hkeys]
  | _ => exact ⟨fun _ _ h ↦ (nomatch h), fun _ ↦ trivial⟩

/-- An event reads a page, or it keeps the pages. -/
theorem crawl_cases (python : Python) (config : ListConfig) (dateFromisoformat : String → Option IsoDate)
    (crawl : ListCrawl) (event : CrawlEvent) :
    (∃ listed, PageAdded python config crawl (crawl.step python config dateFromisoformat event) listed ∧
        (crawl.Spared python config dateFromisoformat event ↔
          listed.key.isSome ∧ listed.key ∉ crawl.pages.map ListedPage.key)) ∨
      ∃ write, PagesKept crawl (crawl.step python config dateFromisoformat event) write ∧
        (crawl.Spared python config dateFromisoformat event ↔
          ∀ archived ∈ write, some archived.1 ∉ crawl.pages.map ListedPage.key) := by
  cases event with
  | listPage conn response fetchedAt files =>
    let result := parse python config dateFromisoformat crawl.spider response fetchedAt
    have hstep : crawl.step python config dateFromisoformat (.listPage conn response fetchedAt files) =
        match result.2 with
        | .parsed page => ListCrawl.readPage python config { crawl with spider := result.1 } conn response files page
        | .failed errorItem => ListCrawl.write python { crawl with spider := result.1 } conn (.error errorItem)
        | .repeated | .raised _ => { crawl with spider := result.1 } := rfl
    have hspared : crawl.Spared python config dateFromisoformat (.listPage conn response fetchedAt files) ↔
        ∀ page, result.2 = .parsed page → ∃ item, page.rawItem = .ok item ∧
          crawl.context.TakesDocument python conn (rawArchive item files) ∧
          crawl.context.documentKey python conn (rawArchive item files) ∉ crawl.pages.map ListedPage.key := Iff.rfl
    rw [hstep, hspared]
    rcases parse_cases python config dateFromisoformat crawl.spider response fetchedAt with ⟨page, hpage, hread⟩ | ⟨hnone, hdates⟩
    · obtain ⟨listed, hadded, hiff⟩ := readPage_added conn files hread
      have hresult : result.2 = .parsed page := hpage
      rw [hresult]
      refine Or.inl ⟨listed, hadded, ?_⟩
      rw [← hiff]
      constructor
      · intro h
        exact h page rfl
      · rintro h other ⟨⟩
        exact h
    · right
      refine ⟨none, ?_, fun _ _ h ↦ (nomatch h), fun _ page hpage ↦ absurd hpage (hnone page)⟩
      cases hresult : result.2 with
      | parsed page => exact absurd hresult (hnone page)
      | failed errorItem => exact ⟨rfl, rfl, hdates.1, hdates.2, fun _ h ↦ (nomatch h)⟩
      | _ => exact ⟨rfl, (List.append_nil _).symm, hdates.1, hdates.2, fun _ h ↦ (nomatch h)⟩
  | call conn call hother =>
    refine Or.inr ⟨crawl.context.archives python (conn, call), ⟨rfl, rfl, rfl, rfl, ?_⟩, spared_call_iff⟩
    intro archived harchived
    exact archives_other hother harchived

end Results

end TenderPhase1.Spiders.AnhuiGgzyZfcg
