import TenderPhase1.Crawler.Instances
import TenderPhase1.Foundation.Transition
import TenderPhase1.Spiders.GgzyGovCnDeal

/-!
# Drafts and full texts

A crawl of the national platform writes the notice of a list record and its draft
version, and then the notice and the version of the detail page, where the page
comes. The version that is written last is the one that the notice shows, so a
draft takes the place of a full text whenever a crawl follows one that had its
detail page, and keeps it where that crawl does not get its own.
-/

namespace TenderPhase1.Spiders.GgzyGovCnDeal

open Crawler Raising Transition

/-! ## Crawls -/

/-- One crawl of a record: the record as its list gave it, the response to the request for its detail
page, where one came that is not an error, and the database during the four writes. -/
structure Crawl where
  crawlJobId : Value
  record : ParsedRecord
  listPageUrl : String
  detail : Option DetailPage
  listNotice : Connection
  listVersion : Connection
  detailNotice : Connection
  detailVersion : Connection

inductive VersionKind where
  | draft
  | full
  deriving DecidableEq

def VersionKind.changeSummary : VersionKind → Option String
  | .draft => some "list-draft"
  | .full => none

/-- What a crawl does: its process starts, and hands the items to the writers. An item that cannot be
built is not handed over. -/
inductive CrawlEvent where
  | process
  | notice (conn : Connection) (item : Except PyError Item)
  | version (kind : VersionKind) (conn : Connection) (item : Except PyError Item)

/-- A new process has an empty cache. -/
def CrawlEvent.step (python : Python) (context : Context) : CrawlEvent → Context
  | .process => ⟨[], context.db⟩
  | .notice conn item =>
      match item with
      | .ok item => context.step python (conn, .notice item)
      | .error _ => context
  | .version _ conn item =>
      match item with
      | .ok item => context.step python (conn, .noticeVersion item)
      | .error _ => context

/-- The item is built, and its write returns. -/
def CrawlEvent.written (python : Python) (context : Context) : CrawlEvent → Prop
  | .process => True
  | .notice conn item => ∃ built, item = .ok built ∧ Written python context conn (.notice built)
  | .version _ conn item => ∃ built, item = .ok built ∧ Written python context conn (.noticeVersion built)

def CrawlEvent.kind : CrawlEvent → Option VersionKind
  | .version kind _ _ => some kind
  | .process | .notice _ _ => none

section Crawls

variable (python : Python)

/-- The detail page of a crawl and what `parse_detail` makes of it; there is no request without a
URL. -/
def Crawl.parsedDetail (crawl : Crawl) : Option (DetailPage × ParsedNotice) :=
  match crawl.record.detailUrl.bind nonEmpty, crawl.detail with
  | some _, some page =>
      match parseDetailNotice python (crawl.record.deserialized python) crawl.listPageUrl page with
      | .ok parsed => some (page, parsed)
      | .error _ => none
  | _, _ => none

def Crawl.hasDetail (crawl : Crawl) : Bool := (crawl.parsedDetail python).isSome

def Crawl.listEvents (crawl : Crawl) : List CrawlEvent :=
  let record := crawl.record.toGgzyGovCnDealListRecord
  [.notice crawl.listNotice (.ok (buildListNoticeItem python crawl.crawlJobId record crawl.listPageUrl)),
    .version .draft crawl.listVersion (buildListVersionItem python crawl.crawlJobId record crawl.listPageUrl)]

def Crawl.detailEvents (crawl : Crawl) : List CrawlEvent :=
  match crawl.parsedDetail python with
  | some (page, parsed) =>
      let record := crawl.record.deserialized python
      [.notice crawl.detailNotice (.ok (detailNoticeItem python crawl.crawlJobId record page parsed)),
        .version .full crawl.detailVersion (detailVersionItem python crawl.crawlJobId record page parsed)]
  | none => []

def Crawl.events (crawl : Crawl) : List CrawlEvent :=
  .process :: (crawl.listEvents python ++ crawl.detailEvents python)

def history (crawls : List Crawl) : List CrawlEvent := crawls.flatMap (Crawl.events python)

def versionsWritten (events : List CrawlEvent) : List VersionKind := events.filterMap CrawlEvent.kind

/-- The notice of the record has a current version that is a draft. -/
def showsDraft (sourceDuplicateKey : String) (context : Context) : Prop :=
  context.db.showsSummary sourceCode (dedupHash python sourceDuplicateKey) (some "list-draft")

end Crawls

section Runs

variable {python : Python} {key : String} {context : Context} {crawl : Crawl} {crawls : List Crawl}

/-! ## One write -/

/-- The event hands over an item of the record, and the version of its kind. -/
def CrawlEvent.Delivers (python : Python) (key : String) : CrawlEvent → Prop
  | .process => True
  | .notice _ item => ∀ built, item = .ok built → built.Names sourceCode (dedupHash python key)
  | .version kind _ item => ∀ built, item = .ok built → built.Names sourceCode (dedupHash python key) ∧
      built.isCurrent.asBool python true ∧ built.changeSummary.asStr = kind.changeSummary

/-- Every event of a crawl delivers the record of the crawl. -/
theorem delivers_of_mem_events (hkey : crawl.record.sourceDuplicateKey = key) {event : CrawlEvent}
    (hevent : event ∈ crawl.events python) : event.Delivers python key := by
  subst hkey
  unfold Crawl.events Crawl.listEvents at hevent
  simp only [List.mem_cons, List.mem_append, List.not_mem_nil, or_false] at hevent
  rcases hevent with rfl | (rfl | rfl) | hdetail
  · trivial
  · rintro built ⟨⟩
    exact names_buildListNoticeItem
  · intro built hbuilt
    exact names_buildListVersionItem hbuilt
  · unfold Crawl.detailEvents at hdetail
    split at hdetail
    · rename_i page parsed hdetailPage
      have hparsed : parseDetailNotice python (crawl.record.deserialized python) crawl.listPageUrl page =
          .ok parsed := by
        unfold Crawl.parsedDetail at hdetailPage
        split at hdetailPage
        · split at hdetailPage
          · rename_i hparse
            obtain ⟨rfl, rfl⟩ := Prod.mk.inj (Option.some.inj hdetailPage)
            exact hparse
          · cases hdetailPage
        · cases hdetailPage
      simp only [List.mem_cons, List.not_mem_nil, or_false] at hdetail
      rcases hdetail with rfl | rfl
      · rintro built ⟨⟩
        exact names_detailNoticeItem hparsed
      · intro built hbuilt
        exact names_detailVersionItem hparsed hbuilt
    · exact absurd hdetail List.not_mem_nil

theorem complete_notice {item : Item} (hnames : item.Names sourceCode (dedupHash python key)) (normalized : Item)
    (h : WriterCall.normalized python (.notice item) = .ok normalized) : (WriterCall.notice item).complete normalized := by
  obtain ⟨identity, dedupKey, sourceDuplicateKey, rfl⟩ := normalizeNoticeItem_eq_ok h
  exact hnames.title

theorem complete_noticeVersion {item : Item} (hnames : item.Names sourceCode (dedupHash python key)) (normalized : Item)
    (h : WriterCall.normalized python (.noticeVersion item) = .ok normalized) :
    (WriterCall.noticeVersion item).complete normalized := by
  have hcontent := normalizeNoticeItem_contentHash h hnames.contentHash
  obtain ⟨identity, dedupKey, sourceDuplicateKey, rfl⟩ := normalizeNoticeItem_eq_ok h
  exact Bool.and_eq_true_iff.mpr ⟨hnames.title, hcontent⟩

/-- What an event of a history is taken to do: it delivers an item of the record, which is written. -/
def CrawlEvent.Succeeds (python : Python) (key : String) (context : Context) (event : CrawlEvent) : Prop :=
  event.written python context ∧ event.Delivers python key

theorem cacheSound_step (context : Context) (event : CrawlEvent) (hsound : context.CacheSound)
    (hevent : event.Succeeds python key context) : (event.step python context).CacheSound := by
  obtain ⟨hwritten, hdelivers⟩ := hevent
  cases event with
  | process => exact fun _ _ h ↦ (nomatch h)
  | notice conn item =>
    obtain ⟨built, rfl, hwritten⟩ := hwritten
    obtain ⟨_, _, _, _, hcommitted⟩ := committedCall_of_written (complete_notice (hdelivers built rfl)) hwritten
    exact hcommitted.cacheSound hsound
  | version kind conn item =>
    obtain ⟨built, rfl, hwritten⟩ := hwritten
    obtain ⟨_, _, _, _, hcommitted⟩ :=
      committedCall_of_written (complete_noticeVersion (hdelivers built rfl).1) hwritten
    exact hcommitted.cacheSound hsound

/-- The notice of the record shows one version, of the kind. -/
def Shows (python : Python) (key : String) (kind : VersionKind) (context : Context) : Prop :=
  context.db.Shows sourceCode (dedupHash python key) kind.changeSummary

theorem shows_step_version (context : Context) (event : CrawlEvent) (kind : VersionKind) (hsound : context.CacheSound)
    (hevent : event.Succeeds python key context) (hkind : event.kind = some kind) :
    Shows python key kind (event.step python context) := by
  obtain ⟨hwritten, hdelivers⟩ := hevent
  cases event with
  | process => cases hkind
  | notice _ _ => cases hkind
  | version written conn item =>
    obtain rfl := Option.some.inj hkind
    obtain ⟨built, rfl, hwritten⟩ := hwritten
    obtain ⟨hnames, hcurrent, hsummary⟩ := hdelivers built rfl
    obtain ⟨_, _, _, _, hcommitted⟩ := committedCall_of_written (complete_noticeVersion hnames) hwritten
    have hshows := hcommitted.shows_noticeVersion hsound hnames hcurrent
    rw [hsummary] at hshows
    exact hshows

theorem shows_step_other (context : Context) (event : CrawlEvent) (kind : VersionKind) (hsound : context.CacheSound)
    (hevent : event.Succeeds python key context) (hkind : event.kind = none) (hshows : Shows python key kind context) :
    Shows python key kind (event.step python context) := by
  obtain ⟨hwritten, hdelivers⟩ := hevent
  cases event with
  | process => exact hshows
  | notice conn item =>
    obtain ⟨built, rfl, hwritten⟩ := hwritten
    have hnames := hdelivers built rfl
    obtain ⟨_, _, _, _, hcommitted⟩ := committedCall_of_written (complete_notice hnames) hwritten
    exact hcommitted.shows_notice hsound hnames hshows
  | version _ _ _ => cases hkind

/-! ## Histories -/

/-- After a series of writes the notice shows the version that was written last. -/
theorem showsDraft_iff {db : Db} {events : List CrawlEvent} {last : VersionKind}
    (hevents : Along (CrawlEvent.step python) (fun context event ↦ event.Succeeds python key context) ⟨[], db⟩ events)
    (hlast : (versionsWritten events).getLast? = some last) :
    showsDraft python key (events.foldl (CrawlEvent.step python) ⟨[], db⟩) ↔ last = .draft := by
  have hinitial : Context.CacheSound ⟨[], db⟩ := fun _ _ h ↦ (nomatch h)
  have hshows : Shows python key last (events.foldl (CrawlEvent.step python) ⟨[], db⟩) :=
    shows_of_getLast? cacheSound_step (fun context event ↦ shows_step_version context event)
      (fun context event ↦ shows_step_other context event) ⟨[], db⟩ events hinitial hevents hlast
  unfold showsDraft
  rw [hshows.showsSummary_iff]
  cases last with
  | draft => simp [VersionKind.changeSummary]
  | full => simp [VersionKind.changeSummary]

/-- The version that a crawl leaves current -/
def Crawl.lastKind (python : Python) (crawl : Crawl) : VersionKind := if crawl.hasDetail python then .full else .draft

theorem versionsWritten_events :
    versionsWritten (crawl.events python) = .draft :: if crawl.hasDetail python then [.full] else [] := by
  unfold versionsWritten Crawl.events Crawl.listEvents Crawl.detailEvents Crawl.hasDetail
  cases crawl.parsedDetail python <;> rfl

theorem versionsWritten_history :
    versionsWritten (history python crawls) = crawls.flatMap fun crawl ↦ versionsWritten (crawl.events python) := by
  unfold history versionsWritten
  rw [List.filterMap_flatMap]

theorem full_mem_versionsWritten_iff :
    .full ∈ versionsWritten (history python crawls) ↔ .full ∈ crawls.map (Crawl.lastKind python) := by
  rw [versionsWritten_history, List.mem_flatMap, List.mem_map]
  apply exists_congr
  intro crawl
  rw [versionsWritten_events]
  unfold Crawl.lastKind
  cases crawl.hasDetail python <;> simp

theorem getLast?_versionsWritten :
    (versionsWritten (history python crawls)).getLast? = (crawls.map (Crawl.lastKind python)).getLast? := by
  induction crawls using List.reverseRecOn with
  | nil => rfl
  | append_singleton crawls crawl =>
    rw [versionsWritten_history, List.flatMap_append, List.flatMap_singleton, versionsWritten_events, List.map_append,
      List.map_singleton, List.getLast?_concat]
    unfold Crawl.lastKind
    cases crawl.hasDetail python <;> simp

/-- A draft is written after a full text if and only if a crawl follows one that has its detail. -/
theorem pairwise_versionsWritten_iff :
    ((versionsWritten (history python crawls)).Pairwise fun earlier later ↦ ¬ (earlier = .full ∧ later = .draft)) ↔
      crawls.Pairwise fun earlier _ ↦ ¬ earlier.hasDetail python := by
  rw [versionsWritten_history, List.pairwise_flatMap]
  have hcrawl (crawl : Crawl) :
      (versionsWritten (crawl.events python)).Pairwise fun earlier later ↦ ¬ (earlier = .full ∧ later = .draft) := by
    rw [versionsWritten_events]
    cases crawl.hasDetail python <;> simp
  rw [and_iff_right fun crawl _ ↦ hcrawl crawl]
  apply iff_of_eq
  congr 1
  funext earlier later
  rw [versionsWritten_events, versionsWritten_events]
  cases earlier.hasDetail python <;> cases later.hasDetail python <;> simp

theorem prefix_history {earlier : List Crawl} (h : earlier <+: crawls) :
    history python earlier <+: history python crawls := by
  obtain ⟨later, rfl⟩ := h
  unfold history
  rw [List.flatMap_append]
  exact List.prefix_append _ _

/-- At any moment of a history after a version is written, the notice shows a draft if that version is
one. -/
theorem showsDraft_prefix_iff {db : Db} {before : List CrawlEvent} {last : VersionKind}
    (hkey : ∀ crawl ∈ crawls, crawl.record.sourceDuplicateKey = key)
    (hwritten : Along (CrawlEvent.step python) (fun context event ↦ event.written python context) ⟨[], db⟩
      (history python crawls))
    (hbefore : before <+: history python crawls) (hlast : (versionsWritten before).getLast? = some last) :
    showsDraft python key (before.foldl (CrawlEvent.step python) ⟨[], db⟩) ↔ last = .draft := by
  have hdelivers : ∀ event ∈ before, event.Delivers python key := by
    intro event hevent
    obtain ⟨crawl, hcrawl, hmem⟩ := List.mem_flatMap.mp (hbefore.subset hevent)
    exact delivers_of_mem_events (hkey crawl hcrawl) hmem
  obtain ⟨after, hsplit⟩ := hbefore
  rw [← hsplit] at hwritten
  have hwrittenBefore := ((along_append _ before after).mp hwritten).1
  exact showsDraft_iff (hwrittenBefore.and (along_of_forall_mem hdelivers _)) hlast

/-- When the notice of a record that is crawled again and again does not fall back to a draft once it
has had a full text: at no moment, if no crawl follows one that had its detail page; at no end of a
crawl, if every later crawl has its detail page too. -/
theorem full_text_stays_iff {db : Db} (hkey : ∀ crawl ∈ crawls, crawl.record.sourceDuplicateKey = key)
    (hwritten : Along (CrawlEvent.step python) (fun context event ↦ event.written python context) ⟨[], db⟩
      (history python crawls)) :
    ((∀ before, before <+: history python crawls → .full ∈ versionsWritten before →
        ¬ showsDraft python key (before.foldl (CrawlEvent.step python) ⟨[], db⟩)) ↔
      crawls.Pairwise fun earlier _ ↦ ¬ earlier.hasDetail python) ∧
    ((∀ earlier, earlier <+: crawls → .full ∈ versionsWritten (history python earlier) →
        ¬ showsDraft python key ((history python earlier).foldl (CrawlEvent.step python) ⟨[], db⟩)) ↔
      crawls.Pairwise fun earlier later ↦ earlier.hasDetail python → later.hasDetail python) := by
  have hshows (before : List CrawlEvent) (hbefore : before <+: history python crawls)
      (hfull : .full ∈ versionsWritten before) :
      ¬ showsDraft python key (before.foldl (CrawlEvent.step python) ⟨[], db⟩) ↔
        (versionsWritten before).getLast? ≠ some .draft := by
    cases hlast : (versionsWritten before).getLast? with
    | none =>
      rw [List.getLast?_eq_none_iff.mp hlast] at hfull
      exact absurd hfull List.not_mem_nil
    | some last =>
      rw [showsDraft_prefix_iff hkey hwritten hbefore hlast]
      simp
  constructor
  · rw [← pairwise_versionsWritten_iff]
    refine Iff.trans ?_ (forall_prefix_getLast?_ne_iff (by decide) (history python crawls))
    exact forall₃_congr hshows
  · have hmarks (earlier : List Crawl) :
        earlier.filterMap (fun crawl ↦ some (crawl.lastKind python)) = earlier.map (Crawl.lastKind python) :=
      congrFun List.filterMap_eq_map earlier
    have hpairs : (∀ earlier, earlier <+: crawls → .full ∈ earlier.filterMap (fun crawl ↦ some (crawl.lastKind python)) →
          (earlier.filterMap fun crawl ↦ some (crawl.lastKind python)).getLast? ≠ some .draft) ↔
        (crawls.filterMap fun crawl ↦ some (crawl.lastKind python)).Pairwise fun earlier later ↦
          ¬ (earlier = .full ∧ later = .draft) :=
      forall_prefix_getLast?_ne_iff (by decide) crawls
    simp only [hmarks] at hpairs
    rw [List.pairwise_map] at hpairs
    have hends : (∀ earlier, earlier <+: crawls → .full ∈ versionsWritten (history python earlier) →
        ¬ showsDraft python key ((history python earlier).foldl (CrawlEvent.step python) ⟨[], db⟩)) ↔
        ∀ earlier, earlier <+: crawls → .full ∈ earlier.map (Crawl.lastKind python) →
          (earlier.map (Crawl.lastKind python)).getLast? ≠ some .draft := by
      apply forall₂_congr
      intro earlier hearlier
      rw [← full_mem_versionsWritten_iff, ← getLast?_versionsWritten]
      apply forall_congr'
      exact hshows _ (prefix_history hearlier)
    rw [hends, hpairs]
    apply iff_of_eq
    congr 1
    funext earlier later
    unfold Crawl.lastKind
    cases earlier.hasDetail python <;> cases later.hasDetail python <;> simp

end Runs

/-! ## A record that is crawled twice -/

/-- The digests of the hash of the notice, of its identity, of the URL of its detail page and of the
page. -/
def recordDigests : Digests where
  entries := [("ggzy_gov_cn_deal|b541d84e9da46bb822d7983a1ce43cfd158a84401621e8a2496403ed2b359406",
      "81d90260cb50bcbf04057471667f132957877b07ec879e627340f51ff71f30b4"),
    ("ggzy_gov_cn_deal|external_id|1", "6e6bc90223f0dbf4041309894e2732ae648fad9c8fb82cb35e59da0301c30921"),
    ("https://www.ggzy.gov.cn/d/1.html", "676f07428266eafeacaf5f23ca6af7a313903b21af1a5511e24ad53cfafe2d11"),
    ("<body><p>Full text</p></body>", "bb9a8ff674bce6192972c47e9e1422f5877b1a7cfbf573e19e838ef3308ebf71")]
  stripped := by decide +kernel

/-- The record of the list item with the id 1, the title Road works and the URL /d/1.html. -/
def roadWorks : ParsedRecord where
  title := "Road works"
  normalizedTitle := some "roadworks"
  publishedDate := none
  publishedAtIso := none
  province := none
  sourcePlatform := none
  issuer := none
  noticeType := "announcement"
  detailUrl := some "https://www.ggzy.gov.cn/d/1.html"
  normalizedDetailUrl := some "https://www.ggzy.gov.cn/d/1.html"
  externalId := some "1"
  sourceDuplicateKey := "b541d84e9da46bb822d7983a1ce43cfd158a84401621e8a2496403ed2b359406"
  sourceListItemFingerprint := "b22aa8e88ddc63b1d5b53ad47d1b37e8d474cf4f802186bd8e057ce08528f472"
  listItemContentHash := "61f94e0c8c35f9784ee7b8eb7386bb8291f8bc9d11ea16a750dc6150fa0fbe19"
  listItemRaw := .other "\x7b'id': '1', 'title': 'Road works', 'url': '/d/1.html'\x7d" true
  title_stripped := by decide +kernel
  sourceDuplicateKey_stripped := by decide +kernel
  listItemContentHash_stripped := by decide +kernel

/-- A crawl of the record, with the page that its detail request brings. -/
def crawlOf (detail : Option DetailPage) : Crawl where
  crawlJobId := none
  record := roadWorks
  listPageUrl := "https://www.ggzy.gov.cn/deal/dealList.html?HEADER_DEAL_TYPE=02"
  detail := detail
  listNotice := sqlite epoch
  listVersion := sqlite epoch
  detailNotice := sqlite epoch
  detailVersion := sqlite epoch

def roadWorksPage : DetailPage where
  url := "https://www.ggzy.gov.cn/d/1.html"
  text := "<body><p>Full text</p></body>"
  title := none
  texts := ["Full text"]

instance (python : Python) (context : Context) (conn : Connection) (call : WriterCall) :
    Decidable (Written python context conn call) :=
  inferInstanceAs (Decidable (((call.program python conn).run.run context.opened).1 = .ok ()))

instance decidableBuilt (item : Except PyError Item) (property : Item → Prop) [DecidablePred property] :
    Decidable (∃ built, item = .ok built ∧ property built) :=
  match item with
  | .ok built =>
      decidable_of_iff (property built) ⟨fun h ↦ ⟨built, rfl, h⟩, fun ⟨_, hbuilt, h⟩ ↦ Except.ok.inj hbuilt ▸ h⟩
  | .error _ => isFalse fun ⟨_, hbuilt, _⟩ ↦ nomatch hbuilt

instance CrawlEvent.decidableWritten (python : Python) (context : Context) :
    (event : CrawlEvent) → Decidable (event.written python context)
  | .process => isTrue trivial
  | .notice conn item => decidableBuilt item fun built ↦ Written python context conn (.notice built)
  | .version _ conn item => decidableBuilt item fun built ↦ Written python context conn (.noticeVersion built)

/-- Crawls that get the detail page the second time only. -/
def roadWorksCrawls : List Crawl := [crawlOf none, crawlOf (some roadWorksPage), crawlOf none]

theorem written_roadWorksCrawls :
    Along (CrawlEvent.step (plainPython recordDigests))
      (fun context event ↦ event.written (plainPython recordDigests) context) ⟨[], emptyDb⟩
      (history (plainPython recordDigests) roadWorksCrawls) := by decide +kernel

theorem sourceDuplicateKey_roadWorksCrawls :
    ∀ crawl ∈ roadWorksCrawls, crawl.record.sourceDuplicateKey = roadWorks.sourceDuplicateKey := by
  simp [roadWorksCrawls, crawlOf]

theorem full_text_stays_iff_lastCrawl :
    .full ∈ versionsWritten (history (plainPython recordDigests) (roadWorksCrawls.take 2)) ∧
      ¬ showsDraft (plainPython recordDigests) roadWorks.sourceDuplicateKey
        ((history (plainPython recordDigests) (roadWorksCrawls.take 2)).foldl
          (CrawlEvent.step (plainPython recordDigests)) ⟨[], emptyDb⟩) := by
  have hsplit : history (plainPython recordDigests) roadWorksCrawls =
      history (plainPython recordDigests) (roadWorksCrawls.take 2) ++
        history (plainPython recordDigests) (roadWorksCrawls.drop 2) := rfl
  have hwritten := written_roadWorksCrawls
  rw [hsplit] at hwritten
  have hfull : .full ∈ versionsWritten (history (plainPython recordDigests) (roadWorksCrawls.take 2)) := by
    decide +kernel
  refine ⟨hfull, (full_text_stays_iff ?_ ((along_append _ _ _).mp hwritten).1).1.mpr ?_ _ List.prefix_rfl hfull⟩
  · exact fun crawl hcrawl ↦ sourceDuplicateKey_roadWorksCrawls crawl (List.mem_of_mem_take hcrawl)
  · decide +kernel

/-- A crawl that re-delivers its record but does not get the detail page shows the draft again. -/
theorem draft_replaces_full_text :
    Along (CrawlEvent.step (plainPython recordDigests))
      (fun context event ↦ event.written (plainPython recordDigests) context) ⟨[], emptyDb⟩
      (history (plainPython recordDigests) roadWorksCrawls) ∧
    .full ∈ versionsWritten (history (plainPython recordDigests) (roadWorksCrawls.take 2)) ∧
    showsDraft (plainPython recordDigests) roadWorks.sourceDuplicateKey
      ((history (plainPython recordDigests) roadWorksCrawls).foldl
        (CrawlEvent.step (plainPython recordDigests)) ⟨[], emptyDb⟩) := by
  have hlast : (versionsWritten (history (plainPython recordDigests) roadWorksCrawls)).getLast? = some .draft := by
    decide +kernel
  refine ⟨written_roadWorksCrawls, ?_, ?_⟩
  · decide +kernel
  · exact (showsDraft_prefix_iff sourceDuplicateKey_roadWorksCrawls written_roadWorksCrawls List.prefix_rfl hlast).mpr rfl

end TenderPhase1.Spiders.GgzyGovCnDeal
