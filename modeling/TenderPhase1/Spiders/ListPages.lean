import TenderPhase1.Crawler.InsertCounters
import TenderPhase1.Spiders.ListArchive
import Mathlib.Data.List.Perm.Basic

/-!
# Every page of the list in the archive

The archive has one document for each page of the list, and the statistics of the job are those of
the pages, exactly where no document comes to the key of a page. The key is made of the URL, and the
pages after the first are requested from one URL.
-/

namespace TenderPhase1.Spiders.AnhuiGgzyZfcg

open PyText Crawler Jobs IsoDates ListExtremes LastWrites KeyedRows Executors Transition

def ListCrawl.dates (crawl : ListCrawl) : List IsoDate := crawl.pages.flatMap ListedPage.dates

/-- The job has one document with the role `list` for each page, under the key and with the content of the
page, and its statistics count the pages and have their dates. -/
structure ArchivesPages (job : ℤ) (crawl : ListCrawl) : Prop where
  documents : ((listDocuments job crawl.context.db).map fun document ↦ (some document.key, document.page)).Perm
    (crawl.pages.map fun page ↦ (page.key, page.content))
  stats : ∀ conn, listPageStats conn job crawl.context.db =
    ⟨crawl.pages.length, crawl.dates.max?.map IsoDate.isoformat, crawl.dates.min?.map IsoDate.isoformat⟩

section Crawl

variable (python : Python) (config : ListConfig) (dateFromisoformat : String → Option IsoDate) (job : ℤ)

def ListCrawl.KeepsPages (crawl : ListCrawl) (event : CrawlEvent) : Prop :=
  ∀ page ∈ crawl.pages, ∀ key, page.key = some key → crawl.context.db.archive key = some page.content →
    (crawl.step python config dateFromisoformat event).context.db.archive key = some page.content

def ListCrawl.Saw (crawl : ListCrawl) (date : Option IsoDate) : Prop := ∀ seen ∈ date, seen ∈ crawl.dates

/-- What every state of a crawl is like that started over the archive. -/
structure ListCrawl.Tracked (start : ℕ × String → Option ArchivedPage) (crawl : ListCrawl) : Prop where
  unique : crawl.context.db.unique
  archive : crawl.context.db.archive = written start crawl.writes
  listed : (crawl.writes.filter fun write ↦ Listed job write.2) =
    crawl.pages.filterMap fun page ↦ page.key.map fun key ↦ (key, page.content)
  first : crawl.spider.firstPublishDateSeen = crawl.dates.max?
  last : crawl.spider.lastPublishDateSeen = crawl.dates.min?
  read : ∀ page ∈ crawl.pages, page.key.isSome → ∃ first last, crawl.Saw first ∧ crawl.Saw last ∧
    page.content.extraMeta.map readListMeta =
      some ⟨"list", [page.dates.max?, page.dates.min?, first, last].map (Option.map IsoDate.isoformat)⟩

/-- Every page is archived, and no document has come to the key of one before it. -/
structure ListCrawl.Spares (crawl : ListCrawl) : Prop where
  archived : ∀ page ∈ crawl.pages, page.key.isSome
  spares : LastWrites.Spares (Listed job) crawl.writes

end Crawl

section Step

variable {python : Python} {config : ListConfig} {dateFromisoformat : String → Option IsoDate} {job : ℤ}
  {crawl after : ListCrawl} {start : ℕ × String → Option ArchivedPage}

theorem write_archive {context : Context} (hunique : context.db.unique) (conn : Connection) (call : WriterCall) :
    (context.step python (conn, call)).db.archive =
      written context.db.archive (context.archives python (conn, call)).toList := by
  rw [archive_step python context conn call hunique]
  cases context.archives python (conn, call) <;> rfl

/-- What an event archives. -/
theorem crawl_archive (python : Python) (config : ListConfig) (dateFromisoformat : String → Option IsoDate)
    (crawl : ListCrawl) (hunique : crawl.context.db.unique) (event : CrawlEvent) :
    (crawl.step python config dateFromisoformat event).context.db.unique ∧
      ∃ writes, (crawl.step python config dateFromisoformat event).writes = crawl.writes ++ writes ∧
        (crawl.step python config dateFromisoformat event).context.db.archive =
          written crawl.context.db.archive writes := by
  have hwrite (conn : Connection) (call : WriterCall) :
      (crawl.context.step python (conn, call)).db.unique ∧
        ∃ writes, crawl.writes ++ (crawl.context.archives python (conn, call)).toList = crawl.writes ++ writes ∧
          (crawl.context.step python (conn, call)).db.archive = written crawl.context.db.archive writes :=
    ⟨unique_step hunique (conn, call), _, rfl, write_archive hunique conn call⟩
  have hnothing : crawl.context.db.unique ∧ ∃ writes, crawl.writes = crawl.writes ++ writes ∧
      crawl.context.db.archive = written crawl.context.db.archive writes :=
    ⟨hunique, [], (List.append_nil _).symm, rfl⟩
  cases event with
  | call conn call hother => exact hwrite conn call
  | listPage conn response fetchedAt files =>
    unfold ListCrawl.step
    dsimp only
    cases (parse python config dateFromisoformat crawl.spider response fetchedAt).2 with
    | repeated => exact hnothing
    | raised error => exact hnothing
    | failed errorItem => exact hwrite conn (.error errorItem)
    | parsed page =>
      dsimp only
      unfold ListCrawl.readPage
      cases page.rawItem with
      | error error => exact hnothing
      | ok item => exact hwrite conn (.rawDocument (rawArchive item files))

theorem PageAdded.dates_eq {page : ListedPage} (h : PageAdded python config crawl after page) :
    after.dates = crawl.dates ++ page.dates := by
  unfold ListCrawl.dates
  rw [h.pages, List.flatMap_append, List.flatMap_singleton]

theorem PagesKept.dates_eq {write : Option ((ℕ × String) × ArchivedPage)} (h : PagesKept crawl after write) :
    after.dates = crawl.dates := by
  unfold ListCrawl.dates
  rw [h.pages]

theorem saw_max? {dates : List IsoDate} (h : crawl.dates = dates) : crawl.Saw dates.max? := by
  intro seen hseen
  rw [h]
  exact List.max?_mem hseen

theorem saw_min? {dates : List IsoDate} (h : crawl.dates = dates) : crawl.Saw dates.min? := by
  intro seen hseen
  rw [h]
  exact List.min?_mem hseen

theorem PageAdded.listed {page : ListedPage} (h : PageAdded python config crawl after page)
    (hjob : config.crawlJobId.asInt python = some job) (hkey : page.key.isSome) : Listed job page.content := by
  refine ⟨h.job.trans hjob, ?_⟩
  unfold hasListRole
  rw [h.read hkey, Option.any_some]
  exact isList_mk _

theorem tracked_start (context : Context) (hunique : context.db.unique) :
    (ListCrawl.start context).Tracked job context.db.archive :=
  ⟨hunique, rfl, rfl, rfl, rfl, fun _ h ↦ (nomatch h)⟩

/-- Every event keeps the pages in step with the archive. -/
theorem tracked_step (hjob : config.crawlJobId.asInt python = some job) (h : crawl.Tracked job start)
    (event : CrawlEvent) : (crawl.step python config dateFromisoformat event).Tracked job start := by
  obtain ⟨hunique, writes, hwrites, harchive⟩ :=
    crawl_archive python config dateFromisoformat crawl h.unique event
  have hwritten : (crawl.step python config dateFromisoformat event).context.db.archive =
      written start (crawl.step python config dateFromisoformat event).writes := by
    rw [harchive, hwrites, written_append, h.archive]
  rcases crawl_cases python config dateFromisoformat crawl event with ⟨page, hadded, -⟩ | ⟨write, hkept, -⟩
  · have hfirst : (crawl.step python config dateFromisoformat event).spider.firstPublishDateSeen =
        (crawl.step python config dateFromisoformat event).dates.max? := by
      rw [hadded.first, h.first, hadded.dates_eq, max?_append]
    have hlast : (crawl.step python config dateFromisoformat event).spider.lastPublishDateSeen =
        (crawl.step python config dateFromisoformat event).dates.min? := by
      rw [hadded.last, h.last, hadded.dates_eq, min?_append]
    refine ⟨hunique, hwritten, ?_, hfirst, hlast, ?_⟩
    · rw [hadded.writes, hadded.pages, List.filter_append, List.filterMap_append, h.listed]
      congr 1
      cases hkey : page.key with
      | none => simp [hkey]
      | some key =>
        have hlisted := hadded.listed hjob (Option.isSome_of_eq_some hkey)
        simp [hkey, hlisted]
    · intro other hother hsome
      rw [hadded.pages, List.mem_append, List.mem_singleton] at hother
      rcases hother with hold | rfl
      · obtain ⟨first, last, hsawFirst, hsawLast, hread⟩ := h.read other hold hsome
        have hsaw {date : Option IsoDate} (hdate : crawl.Saw date) :
            (crawl.step python config dateFromisoformat event).Saw date := by
          intro seen hseen
          rw [hadded.dates_eq]
          exact List.mem_append_left _ (hdate seen hseen)
        exact ⟨first, last, hsaw hsawFirst, hsaw hsawLast, hread⟩
      · refine ⟨_, _, ?_, ?_, hadded.read hsome⟩
        · rw [hfirst]
          exact saw_max? rfl
        · rw [hlast]
          exact saw_min? rfl
  · refine ⟨hunique, hwritten, ?_, ?_, ?_, ?_⟩
    · rw [hkept.writes, hkept.pages, List.filter_append, h.listed]
      cases write with
      | none => simp
      | some archived =>
        have hnot : ¬ Listed job archived.2 := by
          rintro ⟨-, hrole⟩
          rw [hkept.other archived rfl] at hrole
          cases hrole
        simp [hnot]
    · rw [hkept.first, h.first, hkept.dates_eq]
    · rw [hkept.last, h.last, hkept.dates_eq]
    · rw [hkept.pages]
      intro page hpage hsome
      obtain ⟨first, last, hsawFirst, hsawLast, hread⟩ := h.read page hpage hsome
      unfold ListCrawl.Saw at hsawFirst hsawLast ⊢
      rw [hkept.dates_eq]
      exact ⟨first, last, hsawFirst, hsawLast, hread⟩

end Step

/-! ## Keys of their own -/

section Keys

variable {python : Python} {config : ListConfig} {dateFromisoformat : String → Option IsoDate} {job : ℤ}
  {crawl : ListCrawl} {start : ℕ × String → Option ArchivedPage}

/-- The keys of the pages are those of the documents of the list that were archived. -/
theorem fresh_iff (h : crawl.Tracked job start) (key : ℕ × String) :
    (∀ write ∈ crawl.writes, Listed job write.2 → key ≠ write.1) ↔ some key ∉ crawl.pages.map ListedPage.key := by
  have hmem : some key ∈ crawl.pages.map ListedPage.key ↔
      ∃ write ∈ crawl.writes.filter fun write ↦ Listed job write.2, write.1 = key := by
    rw [h.listed]
    simp only [List.mem_map, List.mem_filterMap]
    constructor
    · rintro ⟨page, hpage, hkey⟩
      exact ⟨(key, page.content), ⟨page, hpage, by rw [hkey, Option.map_some]⟩, rfl⟩
    · rintro ⟨write, ⟨page, hpage, hwrite⟩, rfl⟩
      obtain ⟨key, hkey, rfl⟩ := Option.map_eq_some_iff.mp hwrite
      exact ⟨page, hpage, hkey⟩
  rw [hmem]
  simp only [mem_listed, not_exists, not_and, and_imp]
  constructor
  · intro hfresh write hwrite hlisted hkey
    exact hfresh write hwrite hlisted hkey.symm
  · intro hfresh write hwrite hlisted hkey
    exact hfresh write hwrite hlisted hkey.symm

theorem spares_append (h : crawl.Tracked job start) (write : (ℕ × String) × ArchivedPage) :
    LastWrites.Spares (Listed job) (crawl.writes ++ [write]) ↔
      LastWrites.Spares (Listed job) crawl.writes ∧ some write.1 ∉ crawl.pages.map ListedPage.key := by
  rw [← fresh_iff h]
  unfold LastWrites.Spares
  rw [List.pairwise_append]
  simp

/-- An event keeps the pages spared exactly where it is spared itself. -/
theorem spares_step (h : crawl.Tracked job start) (event : CrawlEvent) :
    (crawl.step python config dateFromisoformat event).Spares job ↔
      crawl.Spares job ∧ crawl.Spared python config dateFromisoformat event := by
  rcases crawl_cases python config dateFromisoformat crawl event with ⟨page, hadded, hiff⟩ | ⟨write, hkept, hiff⟩
  · rw [hiff]
    cases hkey : page.key with
    | none =>
      constructor
      · rintro ⟨harchived, -⟩
        rw [hadded.pages] at harchived
        have hsome := harchived page (List.mem_append_right _ List.mem_cons_self)
        rw [hkey] at hsome
        cases hsome
      · rintro ⟨-, hsome, -⟩
        cases hsome
    | some key =>
      have hspares := spares_append h (key, page.content)
      have hwrites : (crawl.step python config dateFromisoformat event).writes =
          crawl.writes ++ [(key, page.content)] := by
        rw [hadded.writes, hkey]
        rfl
      constructor
      · rintro ⟨harchived, hspared⟩
        rw [hadded.pages] at harchived
        rw [hwrites, hspares] at hspared
        refine ⟨⟨fun other hother ↦ harchived other (List.mem_append_left _ hother), hspared.1⟩, rfl, hspared.2⟩
      · rintro ⟨⟨harchived, hspared⟩, -, hfresh⟩
        refine ⟨?_, ?_⟩
        · rw [hadded.pages]
          intro other hother
          rcases List.mem_append.mp hother with hold | hnew
          · exact harchived other hold
          · rw [List.mem_singleton.mp hnew, hkey]
            rfl
        · rw [hwrites, hspares]
          exact ⟨hspared, hfresh⟩
  · rw [hiff]
    have hspares : LastWrites.Spares (Listed job) (crawl.step python config dateFromisoformat event).writes ↔
        LastWrites.Spares (Listed job) crawl.writes ∧
          ∀ archived ∈ write, some archived.1 ∉ crawl.pages.map ListedPage.key := by
      rw [hkept.writes]
      cases write with
      | none => simp
      | some archived => simpa using spares_append h archived
    constructor
    · rintro ⟨harchived, hspared⟩
      rw [hkept.pages] at harchived
      exact ⟨⟨harchived, (hspares.mp hspared).1⟩, (hspares.mp hspared).2⟩
    · rintro ⟨⟨harchived, hspared⟩, hfresh⟩
      refine ⟨?_, hspares.mpr ⟨hspared, hfresh⟩⟩
      rw [hkept.pages]
      exact harchived

theorem spares_foldl (dateFromisoformat : String → Option IsoDate) (hjob : config.crawlJobId.asInt python = some job) (h : crawl.Tracked job start)
    (events : List CrawlEvent) :
    (events.foldl (ListCrawl.step python config dateFromisoformat) crawl).Spares job ↔
      crawl.Spares job ∧ Along (ListCrawl.step python config dateFromisoformat)
        (ListCrawl.Spared python config dateFromisoformat) crawl events := by
  induction events generalizing crawl with
  | nil => simp
  | cons event events ih =>
    rw [List.foldl_cons, ih (tracked_step hjob h event), spares_step h event, along_cons, and_assoc]

/-! ## The documents of the list -/

/-- The documents of the list with their keys. -/
def listEntries (job : ℤ) (db : Db) : List ((ℕ × String) × ArchivedPage) :=
  (listDocuments job db).map fun document ↦ (document.key, document.page)

theorem nodup_listEntries {db : Db} (hunique : db.unique) : ((listEntries job db).map Prod.fst).Nodup := by
  have hkeys : (listEntries job db).map Prod.fst = (listDocuments job db).map RawDocument.key := by
    simp [listEntries]
  rw [hkeys]
  exact (List.filter_sublist.map RawDocument.key).nodup (rawDocumentKeys_nodup hunique)

theorem mem_listEntries {db : Db} (hunique : db.unique) {key : ℕ × String} {page : ArchivedPage} :
    (key, page) ∈ listEntries job db ↔ db.archive key = some page ∧ Listed job page := by
  have hkeys := rawDocumentKeys_nodup hunique
  unfold listEntries listDocuments Db.archive
  rw [List.mem_map, Option.map_eq_some_iff]
  constructor
  · rintro ⟨document, hdocument, hpair⟩
    obtain ⟨rfl, rfl⟩ := Prod.mk.inj hpair
    obtain ⟨hmem, hlisted⟩ := List.mem_filter.mp hdocument
    exact ⟨⟨document, rowAt_of_mem hkeys hmem, rfl⟩, of_decide_eq_true hlisted⟩
  · rintro ⟨⟨document, hrow, rfl⟩, hlisted⟩
    obtain ⟨hmem, rfl⟩ := mem_of_rowAt hrow
    exact ⟨document, List.mem_filter.mpr ⟨hmem, decide_eq_true hlisted⟩, rfl⟩

/-- The documents of the list are the pages exactly where the pages are spared, and no document of the list is
left from before. -/
theorem documents_perm_iff (h : crawl.Tracked job start) :
    ((listDocuments job crawl.context.db).map fun document ↦ (some document.key, document.page)).Perm
        (crawl.pages.map fun page ↦ (page.key, page.content)) ↔
      crawl.Spares job ∧ Replaces (Listed job) start crawl.writes := by
  let entries := listEntries job crawl.context.db
  let writes := crawl.writes.filter fun write ↦ Listed job write.2
  let optional : (ℕ × String) × ArchivedPage → Option (ℕ × String) × ArchivedPage := Prod.map some id
  have hoptional : Function.Injective optional := (Option.some_injective _).prodMap Function.injective_id
  have hentries : ((listDocuments job crawl.context.db).map fun document ↦ (some document.key, document.page)) =
      entries.map optional := by
    simp [entries, optional, listEntries]
  have hpages (harchived : ∀ page ∈ crawl.pages, page.key.isSome) :
      (crawl.pages.map fun page ↦ (page.key, page.content)) = writes.map optional := by
    simp only [writes, h.listed]
    rw [List.map_filterMap, ← List.filterMap_eq_map]
    apply List.filterMap_congr
    intro page hpage
    obtain ⟨key, hkey⟩ := Option.isSome_iff_exists.mp (harchived page hpage)
    simp [hkey, optional]
  have hmem (key : ℕ × String) (page : ArchivedPage) :
      (key, page) ∈ entries ↔ written start crawl.writes key = some page ∧ Listed job page := by
    rw [← h.archive]
    exact mem_listEntries h.unique
  have hiff : ((writes.map Prod.fst).Nodup ∧ ∀ key page, written start crawl.writes key = some page ∧ Listed job page ↔
      (key, page) ∈ writes) ↔ LastWrites.Spares (Listed job) crawl.writes ∧ Replaces (Listed job) start crawl.writes :=
    listed_written_iff start crawl.writes
  rw [hentries]
  constructor
  · intro hperm
    have harchived (page : ListedPage) (hpage : page ∈ crawl.pages) : page.key.isSome := by
      have hin : (page.key, page.content) ∈ entries.map optional :=
        hperm.mem_iff.mpr (List.mem_map_of_mem (f := fun page : ListedPage ↦ (page.key, page.content)) hpage)
      obtain ⟨entry, -, hentry⟩ := List.mem_map.mp hin
      rw [← (Prod.mk.inj hentry).1]
      rfl
    rw [hpages harchived, List.map_perm_map_iff hoptional] at hperm
    have hnodup : (writes.map Prod.fst).Nodup := (hperm.map Prod.fst).nodup_iff.mp (nodup_listEntries h.unique)
    obtain ⟨hspares, hreplaces⟩ := hiff.mp ⟨hnodup, fun key page ↦ by rw [← hmem, hperm.mem_iff]⟩
    exact ⟨⟨harchived, hspares⟩, hreplaces⟩
  · rintro ⟨⟨harchived, hspares⟩, hreplaces⟩
    obtain ⟨hnodup, hwritten⟩ := hiff.mpr ⟨hspares, hreplaces⟩
    rw [hpages harchived, List.map_perm_map_iff hoptional]
    refine (List.perm_ext_iff_of_nodup (nodup_listEntries h.unique).of_map hnodup.of_map).mpr ?_
    rintro ⟨key, page⟩
    rw [hmem, hwritten]

/-! ## The statistics -/

/-- What is read of the pages. -/
def ListCrawl.metas (crawl : ListCrawl) : List ListPageMeta :=
  crawl.pages.filterMap fun page ↦ page.content.extraMeta.map readListMeta

/-- The list pages of a job are found by the role in their metadata. -/
theorem filter_metas (job : ℤ) (rows : List RawDocument) :
    ((rows.filter (·.crawlJobId = some job)).filterMap fun document ↦ document.extraMeta.map readListMeta).filter
        ListPageMeta.isList =
      (rows.filter fun document ↦ Listed job document.page).filterMap fun document ↦
        document.extraMeta.map readListMeta := by
  induction rows with
  | nil => rfl
  | cons row rows ih =>
    by_cases hjob : row.crawlJobId = some job
    · cases hmeta : row.extraMeta.map readListMeta with
      | none =>
        have hnot : ¬ Listed job row.page := by simp [Listed, hasListRole, RawDocument.page, hmeta]
        simpa [hjob, hmeta, hnot] using ih
      | some page =>
        have hlisted : Listed job row.page ↔ page.isList := by
          simp [Listed, hasListRole, RawDocument.page, hmeta, hjob]
        by_cases hlist : page.isList <;> simpa [hjob, hmeta, hlisted, hlist] using ih
    · have hnot : ¬ Listed job row.page := by simp [Listed, RawDocument.page, hjob]
      simpa [hjob, hnot] using ih

/-- What is read of the archived pages, for one page. -/
theorem read_meta (h : crawl.Tracked job start) (harchived : ∀ page ∈ crawl.pages, page.key.isSome)
    {page : ListedPage} (hpage : page ∈ crawl.pages) : ∃ first last, crawl.Saw first ∧ crawl.Saw last ∧
      page.content.extraMeta.map readListMeta =
        some ⟨"list", [page.dates.max?, page.dates.min?, first, last].map (Option.map IsoDate.isoformat)⟩ :=
  h.read page hpage (harchived page hpage)

/-- The metadata of the archived pages have the extremes of all dates. -/
theorem readDates_metas (h : crawl.Tracked job start) (harchived : ∀ page ∈ crawl.pages, page.key.isSome) :
    (crawl.metas.flatMap ListPageMeta.readDates).max? = crawl.dates.max?.map IsoDate.isoformat ∧
      (crawl.metas.flatMap ListPageMeta.readDates).min? = crawl.dates.min?.map IsoDate.isoformat := by
  have hread : ∀ text ∈ crawl.metas.flatMap ListPageMeta.readDates, text ∈ crawl.dates.map IsoDate.isoformat := by
    intro text htext
    obtain ⟨page, hmeta, htext⟩ := List.mem_flatMap.mp htext
    obtain ⟨listed, hlisted, hmeta⟩ := List.mem_filterMap.mp hmeta
    obtain ⟨first, last, hfirst, hlast, hread⟩ := read_meta h harchived hlisted
    obtain rfl := Option.some.inj (hread.symm.trans hmeta)
    rw [readDates_isoformat] at htext
    obtain ⟨date, hdate, rfl⟩ := List.mem_map.mp htext
    apply List.mem_map_of_mem
    have hown (hmem : date ∈ listed.dates) : date ∈ crawl.dates := List.mem_flatMap.mpr ⟨listed, hlisted, hmem⟩
    simp only [List.mem_filterMap, List.mem_cons, List.not_mem_nil, or_false, id] at hdate
    obtain ⟨_, rfl | rfl | rfl | rfl, hdate⟩ := hdate
    · exact hown (List.max?_mem hdate)
    · exact hown (List.min?_mem hdate)
    · exact hfirst date hdate
    · exact hlast date hdate
  have hextremes {date : IsoDate} (hdate : date ∈ crawl.dates) :
      (∃ text ∈ crawl.metas.flatMap ListPageMeta.readDates, date.isoformat ≤ text) ∧
        ∃ text ∈ crawl.metas.flatMap ListPageMeta.readDates, text ≤ date.isoformat := by
    obtain ⟨listed, hlisted, hmem⟩ := List.mem_flatMap.mp hdate
    obtain ⟨first, last, -, -, hread⟩ := read_meta h harchived hlisted
    have hin (text : String) (htext : text ∈ ListPageMeta.readDates
        ⟨"list", [listed.dates.max?, listed.dates.min?, first, last].map (Option.map IsoDate.isoformat)⟩) :
        text ∈ crawl.metas.flatMap ListPageMeta.readDates :=
      List.mem_flatMap.mpr ⟨_, List.mem_filterMap.mpr ⟨listed, hlisted, hread⟩, htext⟩
    have hne : listed.dates ≠ [] := List.ne_nil_of_mem hmem
    obtain ⟨greatest, hgreatest⟩ := Option.ne_none_iff_exists'.mp (mt List.max?_eq_none_iff.mp hne)
    obtain ⟨least, hleast⟩ := Option.ne_none_iff_exists'.mp (mt List.min?_eq_none_iff.mp hne)
    refine ⟨⟨greatest.isoformat, hin _ ?_, ?_⟩, ⟨least.isoformat, hin _ ?_, ?_⟩⟩
    · rw [readDates_isoformat]
      exact List.mem_map_of_mem (List.mem_filterMap.mpr ⟨some greatest, hgreatest ▸ List.mem_cons_self, rfl⟩)
    · exact IsoDate.isoformat_strictMono.monotone ((List.max?_eq_some_iff.mp hgreatest).2 date hmem)
    · rw [readDates_isoformat]
      exact List.mem_map_of_mem (List.mem_filterMap.mpr
        ⟨some least, List.mem_cons_of_mem _ (hleast ▸ List.mem_cons_self), rfl⟩)
    · exact IsoDate.isoformat_strictMono.monotone ((List.min?_eq_some_iff.mp hleast).2 date hmem)
  constructor
  · rw [← max?_map IsoDate.isoformat_strictMono.monotone]
    apply max?_eq_of_dominated
    · exact fun text htext ↦ ⟨text, hread text htext, le_rfl⟩
    · intro text htext
      obtain ⟨date, hdate, rfl⟩ := List.mem_map.mp htext
      exact (hextremes hdate).1
  · rw [← min?_map IsoDate.isoformat_strictMono.monotone]
    apply min?_eq_of_dominated
    · exact fun text htext ↦ ⟨text, hread text htext, le_rfl⟩
    · intro text htext
      obtain ⟨date, hdate, rfl⟩ := List.mem_map.mp htext
      exact (hextremes hdate).2

/-- Where the documents of the list are the pages, the statistics are those of the pages. -/
theorem listPageStats_eq (h : crawl.Tracked job start) (harchived : ∀ page ∈ crawl.pages, page.key.isSome)
    (hperm : ((listDocuments job crawl.context.db).map fun document ↦ (some document.key, document.page)).Perm
      (crawl.pages.map fun page ↦ (page.key, page.content))) (conn : Connection) :
    listPageStats conn job crawl.context.db =
      ⟨crawl.pages.length, crawl.dates.max?.map IsoDate.isoformat, crawl.dates.min?.map IsoDate.isoformat⟩ := by
  have hmetas : (((conn.answer (crawl.context.db.rawDocuments.filter (·.crawlJobId = some job))).filterMap
      fun document ↦ document.extraMeta.map readListMeta).filter ListPageMeta.isList).Perm crawl.metas := by
    have hanswer := conn.answer_perm (crawl.context.db.rawDocuments.filter (·.crawlJobId = some job))
    have hpages := hperm.filterMap fun entry ↦ entry.2.extraMeta.map readListMeta
    rw [List.filterMap_map, List.filterMap_map] at hpages
    refine ((hanswer.filterMap _).filter _).trans ?_
    rw [filter_metas]
    exact hpages
  have hcount : crawl.metas.length = crawl.pages.length := by
    rw [ListCrawl.metas, List.filterMap_length_eq_length]
    intro page hpage
    obtain ⟨first, last, -, -, hread⟩ := read_meta h harchived hpage
    exact Option.isSome_of_eq_some hread
  obtain ⟨hmax, hmin⟩ := readDates_metas h harchived
  have hsame (text : String) := (hmetas.flatMap_right ListPageMeta.readDates).mem_iff (a := text)
  unfold listPageStats
  rw [collectListPageStats_eq, hmetas.length_eq, hcount, max?_congr hsame, min?_congr hsame, hmax, hmin]

/-- A spared event leaves the archived pages as they are. -/
theorem keepsPages_of_spared (h : crawl.Tracked job start) {event : CrawlEvent}
    (hspared : crawl.Spared python config dateFromisoformat event) :
    crawl.KeepsPages python config dateFromisoformat event := by
  intro page hpage key hkey harchived
  have hused : some key ∈ crawl.pages.map ListedPage.key := hkey ▸ List.mem_map_of_mem hpage
  obtain ⟨-, writes, hwrites, harchive⟩ :=
    crawl_archive python config dateFromisoformat crawl h.unique event
  have hfresh : key ∉ writes.map Prod.fst := by
    intro hmem
    obtain ⟨write, hwrite, rfl⟩ := List.mem_map.mp hmem
    rcases crawl_cases python config dateFromisoformat crawl event with ⟨added, hadded, hiff⟩ | ⟨other, hkept, hiff⟩
    · obtain ⟨-, hnew⟩ := hiff.mp hspared
      rw [List.append_cancel_left (hwrites.symm.trans hadded.writes), Option.mem_toList] at hwrite
      obtain ⟨key, hadded, rfl⟩ := Option.map_eq_some_iff.mp hwrite
      rw [hadded] at hnew
      exact hnew hused
    · rw [List.append_cancel_left (hwrites.symm.trans hkept.writes), Option.mem_toList] at hwrite
      exact hiff.mp hspared write hwrite hused
  rw [harchive, written_of_notMem hfresh]
  exact harchived

end Keys

/-- After a crawl, the archive has one document of the job with the role `list` for each page, with the
content of the page, and the statistics of the job are those of the pages, and no page has replaced
another one, if and only if each page was taken under a key that no page before it has, no other
document went to the key of a page, and no document of the list is left from before the crawl. -/
theorem listPages_archived_iff (python : Python) (config : ListConfig) (dateFromisoformat : String → Option IsoDate)
    (context : Context) (hunique : context.db.unique) {job : ℤ} (hjob : config.crawlJobId.asInt python = some job)
    (events : List CrawlEvent) :
    (ArchivesPages job (ListCrawl.run python config dateFromisoformat context events) ∧
        Along (ListCrawl.step python config dateFromisoformat)
          (ListCrawl.KeepsPages python config dateFromisoformat) (.start context) events) ↔
      Along (ListCrawl.step python config dateFromisoformat)
          (ListCrawl.Spared python config dateFromisoformat) (.start context) events ∧
        Replaces (Listed job) context.db.archive
          (ListCrawl.run python config dateFromisoformat context events).writes := by
  have hkeep (crawl : ListCrawl) (event : CrawlEvent) (h : crawl.Tracked job context.db.archive) :
      (crawl.step python config dateFromisoformat event).Tracked job context.db.archive := tracked_step hjob h event
  have htracked : (ListCrawl.run python config dateFromisoformat context events).Tracked job context.db.archive :=
    invariant_run hkeep (ListCrawl.start context) events (tracked_start context hunique)
  have hstart : (ListCrawl.start context).Spares job := ⟨fun _ h ↦ (nomatch h), List.Pairwise.nil⟩
  have hspares := spares_foldl dateFromisoformat hjob (tracked_start context hunique) events
  constructor
  · rintro ⟨harchives, -⟩
    obtain ⟨hspared, hreplaces⟩ := (documents_perm_iff htracked).mp harchives.documents
    exact ⟨(hspares.mp hspared).2, hreplaces⟩
  · rintro ⟨hspared, hreplaces⟩
    have hrun := hspares.mpr ⟨hstart, hspared⟩
    have hdocuments := (documents_perm_iff htracked).mpr ⟨hrun, hreplaces⟩
    refine ⟨⟨hdocuments, listPageStats_eq htracked hrun.archived hdocuments⟩, ?_⟩
    exact along_of_invariant (fun crawl event hcrawl _ ↦ hkeep crawl event hcrawl)
      (fun crawl event hcrawl hevent ↦ keepsPages_of_spared hcrawl hevent) (ListCrawl.start context) events
      (tracked_start context hunique) hspared

/-! ## Three pages -/

/-- A day of March 2026. -/
def march (day : Fin 32) : IsoDate := ⟨2026, 3, day, by decide, by decide, Nat.lt_succ_iff.mp day.isLt⟩

/-- `date.fromisoformat` of three of its days. -/
def marchDate (text : String) : Option IsoDate := [march 20, march 21, march 22].find? (·.isoformat = text)

def listDigests : Digests where
  entries := [("https://ggzy.ah.gov.cn/zfcg/list?bulletinNature=1&time=1", "first"),
    ("https://ggzy.ah.gov.cn/zfcg/list", "later"), ("page 1", "one"), ("page 2", "two"), ("page 3", "three")]
  stripped := by decide

def listConfig : ListConfig where
  crawlJobId := some (.str "1")
  maxPages := none
  bulletinNature := "1"
  timeFilter := some "1"
  backfillStartDate := none
  stopAfterConsecutiveNoNewPages := 5
  dedupWithinRun := true

/-- A page with one notice that no page before it has. -/
def oneNoticePage (number url publishedAt : String) (nextControl : Option (Option ℤ)) : ListResponse where
  url := url
  text := "page " ++ number
  status := 200
  contentType := "text/html"
  encoding := "utf-8"
  title := none
  urljoin path := .ok ("https://ggzy.ah.gov.cn" ++ path)
  currentPageValue := some number
  pageNumbers := [1, 2, 3]
  nextControl := nextControl
  listItems := .ok [⟨"https://ggzy.ah.gov.cn/zfcg/newDetail?guid=" ++ number, "notice " ++ number, some publishedAt, none,
    "announcement", "fingerprint " ++ number, "key " ++ number⟩]

def pageEvent (response : ListResponse) : CrawlEvent :=
  .listPage (sqlite epoch) response epoch ⟨"page.html", "page.json", "2026-03-23T00:00:00+00:00"⟩

def firstPage : ListResponse :=
  oneNoticePage "1" "https://ggzy.ah.gov.cn/zfcg/list?bulletinNature=1&time=1" "2026-03-22" (some (some 2))

def secondPage : ListResponse := oneNoticePage "2" "https://ggzy.ah.gov.cn/zfcg/list" "2026-03-21" (some (some 3))

def thirdPage : ListResponse := oneNoticePage "3" "https://ggzy.ah.gov.cn/zfcg/list" "2026-03-20" none

theorem marchJob : listConfig.crawlJobId.asInt (plainPython listDigests) = some 1 := by decide +kernel

/-- Two pages, the first from the URL that the spider starts with, and the second from the one that it posts to. -/
theorem listPages_archived_twoPages :
    ArchivesPages 1 (ListCrawl.run (plainPython listDigests) listConfig marchDate ⟨[], jobDb⟩
        [pageEvent firstPage, pageEvent secondPage]) ∧
      Along (ListCrawl.step (plainPython listDigests) listConfig marchDate)
        (ListCrawl.KeepsPages (plainPython listDigests) listConfig marchDate) (.start ⟨[], jobDb⟩)
        [pageEvent firstPage, pageEvent secondPage] := by
  have hunique : jobDb.unique := by decide
  have htracked : (ListCrawl.start ⟨[], jobDb⟩).Tracked 1 jobDb.archive := tracked_start ⟨[], jobDb⟩ hunique
  let crawl := ListCrawl.run (plainPython listDigests) listConfig marchDate ⟨[], jobDb⟩
    [pageEvent firstPage, pageEvent secondPage]
  obtain ⟨harchived, hspared⟩ : (∀ page ∈ crawl.pages, page.key.isSome) ∧
      crawl.writes.Pairwise fun earlier later ↦ Listed 1 earlier.2 → later.1 ≠ earlier.1 := by
    decide +kernel
  apply (listPages_archived_iff (plainPython listDigests) listConfig marchDate ⟨[], jobDb⟩ hunique marchJob
    [pageEvent firstPage, pageEvent secondPage]).mpr
  have halong := (spares_foldl marchDate marchJob htracked [pageEvent firstPage, pageEvent secondPage]).mp ⟨harchived, hspared⟩
  exact ⟨halong.2, fun _ _ h ↦ (nomatch h)⟩

/-- The third page comes from the URL of the second, and replaces it. -/
theorem not_archivesPages_threePages :
    ¬ ArchivesPages 1 (ListCrawl.run (plainPython listDigests) listConfig marchDate ⟨[], jobDb⟩
      [pageEvent firstPage, pageEvent secondPage, pageEvent thirdPage]) := by
  intro h
  let crawl := ListCrawl.run (plainPython listDigests) listConfig marchDate ⟨[], jobDb⟩
    [pageEvent firstPage, pageEvent secondPage, pageEvent thirdPage]
  have hcounts : (listDocuments 1 crawl.context.db).length = 2 ∧ crawl.pages.length = 3 := by decide +kernel
  have hlength : (listDocuments 1 crawl.context.db).length = crawl.pages.length := by
    simpa using h.documents.length_eq
  omega

end TenderPhase1.Spiders.AnhuiGgzyZfcg
