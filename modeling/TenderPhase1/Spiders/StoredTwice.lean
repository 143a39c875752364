import TenderPhase1.Crawler.SourceDuplicates
import TenderPhase1.Spiders.AttachmentLinks

/-!
# Pages that are stored twice

The notice of a page that is stored already under one of its keys is suppressed. Whether
its version adds a row is decided by the keys that the notices have now.
-/

namespace TenderPhase1.Spiders

open Crawler Jobs Transition

/-- After a notice item that is stored already, the version item of its content adds no row if and only if it finds a
notice that has the content, or does not come to its commit. -/
theorem source_duplicate_adds_iff (python : Python) (context : Context) (conn conn' : Connection)
    (bundle : PageBundle) (noticeItem versionItem : Item) (contentHash : String)
    (hnotice : normalizeNoticeItem python bundle.notice = .ok noticeItem)
    (hnoticeContent : noticeItem.contentHash.asStr = some contentHash)
    (hversion : normalizeNoticeItem python bundle.version = .ok versionItem)
    (hversionContent : versionItem.contentHash.asStr = some contentHash)
    (hseen : noticeItem.SeenIn (context.sourceIdOf conn noticeItem) contentHash context.db) :
    (Committed python (context.step python (conn, .notice bundle.notice)) (conn', .noticeVersion bundle.version) →
      (((context.step python (conn, .notice bundle.notice)).step python (conn', .noticeVersion bundle.version)).db.recordIds =
          context.db.recordIds ↔
        versionItem.FindsContent python conn' ((context.step python (conn, .notice bundle.notice)).sourceIdOf conn' versionItem)
          contentHash context.db)) ∧
    (¬ Committed python (context.step python (conn, .notice bundle.notice)) (conn', .noticeVersion bundle.version) →
      ((context.step python (conn, .notice bundle.notice)).step python (conn', .noticeVersion bundle.version)).db.recordIds =
        context.db.recordIds) := by
  have hrecords : (context.step python (conn, .notice bundle.notice)).db.records = context.db.records :=
    records_suppressed hnotice (hseen.suppressedIn hnoticeContent)
  obtain ⟨hnotices, hversions⟩ := Prod.mk.inj hrecords
  have hids : (context.step python (conn, .notice bundle.notice)).db.recordIds = context.db.recordIds := by
    unfold Db.recordIds
    rw [hnotices, hversions]
  constructor
  · rintro ⟨item, found, last, hcommitted⟩
    obtain rfl := Except.ok.inj (hversion.symm.trans hcommitted.normalized)
    obtain ⟨merged, created, row, versionCreated, hwritten⟩ := ensures_versionWritten.of_run hcommitted.run rfl
    have hfound : found.work.records = context.db.records := hcommitted.sourceFound.records_eq.trans hrecords
    obtain ⟨hfoundNotices, hfoundVersions⟩ := Prod.mk.inj hfound
    have hiff := hwritten.recordIds_eq_iff hversionContent
    unfold Db.recordIds Item.FindsContent at hiff
    rw [hfoundNotices, hfoundVersions] at hiff
    rw [hcommitted.step, recordIds_stored]
    exact hiff
  · intro hnot
    rw [(step_cases python _ conn' (.noticeVersion bundle.version)).resolve_right hnot]
    exact hids

/-! ## A notice that has changed its keys -/

def dealDigests : Digests where
  entries := [("ggzy_gov_cn_deal|k", "d9adfed8e9f055e1b9075584f620f8672f56b45b6c85a9f64a50ac8dc84b86da"),
    ("ggzy_gov_cn_deal|l", "7a353597e6da2fac1419ed7884bf39cdc28582151c2928f691038566e0ef76f6"),
    (pageText "v", "126313ee864fb2c31f30bf5a03a6327ed95f4b1b78a8a41b424bfcad4315d464"),
    (pageText "w", "9910538b0c9586276555fee809588db4bf3a842546045170dcf71f80971dfc7e"),
    ("https://a.cn/1", "ee794e0a9aeae47b1063a768e3ab7c404d986ec41994d98527f9b2b09efa7c2a")]
  stripped := by decide +kernel

def dealPython : Python := plainPython dealDigests

/-- A record of the national platform with the id and the key. -/
def dealRecord (externalId key : String) : GgzyGovCnDeal.GgzyGovCnDealListRecord where
  title := "t"
  normalizedTitle := none
  publishedDate := none
  publishedAtIso := none
  province := none
  sourcePlatform := none
  issuer := none
  noticeType := "announcement"
  detailUrl := none
  normalizedDetailUrl := none
  externalId := some externalId
  sourceDuplicateKey := key
  sourceListItemFingerprint := key
  listItemContentHash := key
  listItemRaw := .str ""

/-- What the spider makes of the detail page of the record. -/
def parseDeal (externalId key title text : String) : Except PyError PageBundle :=
  GgzyGovCnDeal.parseDetail dealPython none (dealRecord externalId key) "https://a.cn/"
    { pageNotice text with title := title, externalId := some externalId } (pageResponse text) epoch [] []

def dealBundle (externalId key title text : String) : PageBundle :=
  (parseDeal externalId key title text).toOption.getD ⟨{}, {}, {}, []⟩

/-- The page of the record 1 is stored under the key k, and then the record comes with another page. -/
def rekeyed : Context :=
  ((⟨[], emptyDb⟩ : Context).step dealPython (sqlite epoch, .noticeVersion (dealBundle "1" "k" "t" "v").version)).step
    dealPython (sqlite epoch, .notice (dealBundle "1" "l" "u" "w").notice)

/-- The bundle of the first page, as the one of the record 2. -/
def againBundle : PageBundle := dealBundle "2" "k" "t" "v"

def normalizedItem (item : Item) : Item := (normalizeNoticeItem dealPython item).toOption.getD {}

/-- After the notice of the bundle -/
def againNotice : Context := rekeyed.step dealPython (sqlite epoch, .notice againBundle.notice)

/-- After its version, too -/
def againVersion : Context := againNotice.step dealPython (sqlite epoch, .noticeVersion againBundle.version)

theorem again_items :
    (parseDeal "2" "k" "t" "v").isOk ∧ (normalizeNoticeItem dealPython againBundle.notice).isOk ∧
      (normalizeNoticeItem dealPython againBundle.version).isOk ∧
      (normalizedItem againBundle.notice).contentHash.asStr = some (dealPython.sha256Text (pageText "v")) ∧
      (normalizedItem againBundle.version).contentHash.asStr = some (dealPython.sha256Text (pageText "v")) ∧
      (normalizedItem againBundle.notice).dedupKey.asStr = some "k" ∧
      (normalizedItem againBundle.version).dedupKey.asStr = some "k" ∧
      (normalizedItem againBundle.notice).sourceDuplicateKey.asStr = some "k" ∧
      (normalizedItem againBundle.version).sourceDuplicateKey.asStr = some "k" ∧
      (normalizedItem againBundle.notice).writtenSourceCode = (normalizedItem againBundle.version).writtenSourceCode := by
  decide +kernel

theorem again_run :
    rekeyed.db.notices.map (fun row ↦ (row.id, row.sourceSiteId)) = [(1, 1)] ∧
      rekeyed.db.versions.map (fun row ↦ (row.noticeId, row.contentHash, row.dedupKey)) =
        [(1, dealPython.sha256Text (pageText "v"), some "k")] ∧
      rekeyed.sourceIdOf (sqlite epoch) (normalizedItem againBundle.notice) = 1 ∧
      rekeyed.db.recordIds = ([1], [1]) ∧ againNotice.db.recordIds = ([1], [1]) ∧
      againVersion.db.recordIds = ([1, 2], [1, 2]) := by
  decide +kernel

/-- The version of the first page is still stored under the key of the bundle. -/
theorem again_seen : (normalizedItem againBundle.notice).SeenIn
    (rekeyed.sourceIdOf (sqlite epoch) (normalizedItem againBundle.notice)) (dealPython.sha256Text (pageText "v")) rekeyed.db := by
  obtain ⟨-, -, -, -, -, hkey, -⟩ := again_items
  obtain ⟨hnotices, hversions, hsource, -⟩ := again_run
  have hnoticeRow := List.mem_singleton_self ((1, 1) : ℕ × ℕ)
  have hversionRow := List.mem_singleton_self (1, dealPython.sha256Text (pageText "v"), some "k")
  rw [← hnotices] at hnoticeRow
  rw [← hversions] at hversionRow
  obtain ⟨notice, hnotice, hnoticeColumns⟩ := List.mem_map.mp hnoticeRow
  obtain ⟨version, hversion, hversionColumns⟩ := List.mem_map.mp hversionRow
  simp only [Prod.mk.injEq] at hnoticeColumns hversionColumns
  obtain ⟨hid, hnoticeSource⟩ := hnoticeColumns
  obtain ⟨hof, hcontent, hrowKey⟩ := hversionColumns
  exact ⟨notice, hnotice, hnoticeSource.trans hsource.symm, version, hversion, hof.trans hid.symm, hcontent,
    Or.inl ⟨"k", hkey, hrowKey⟩⟩

theorem source_duplicate_adds_iff_again :
    (againVersion.db.recordIds = rekeyed.db.recordIds ↔
        (normalizedItem againBundle.version).FindsContent dealPython (sqlite epoch)
          (againNotice.sourceIdOf (sqlite epoch) (normalizedItem againBundle.version)) (dealPython.sha256Text (pageText "v"))
          rekeyed.db) := by
  obtain ⟨-, hnotice, hversion, hnoticeContent, hversionContent, -⟩ := again_items
  obtain ⟨-, -, -, -, hkept, hadded⟩ := again_run
  have hcommitted : Committed dealPython againNotice (sqlite epoch, .noticeVersion againBundle.version) := by
    apply committed_of_ne Db.recordIds
    change againVersion.db.recordIds ≠ againNotice.db.recordIds
    rw [hkept, hadded]
    decide
  exact (source_duplicate_adds_iff dealPython rekeyed (sqlite epoch) (sqlite epoch) againBundle _ _ _
    (eq_ok_of_isOk {} hnotice) hnoticeContent (eq_ok_of_isOk {} hversion) hversionContent again_seen).1 hcommitted

/-- The second record of the day adds a notice and a version to those of the first. -/
theorem source_duplicate_adds_again :
    Emits dealPython (pageText "v") againBundle ∧
      normalizeNoticeItem dealPython againBundle.notice = .ok (normalizedItem againBundle.notice) ∧
      normalizeNoticeItem dealPython againBundle.version = .ok (normalizedItem againBundle.version) ∧
      (normalizedItem againBundle.notice).writtenSourceCode = (normalizedItem againBundle.version).writtenSourceCode ∧
      (normalizedItem againBundle.notice).dedupKey.asStr = (normalizedItem againBundle.version).dedupKey.asStr ∧
      (normalizedItem againBundle.notice).sourceDuplicateKey.asStr =
        (normalizedItem againBundle.version).sourceDuplicateKey.asStr ∧
      (normalizedItem againBundle.notice).contentHash.asStr = some (dealPython.sha256Text (pageText "v")) ∧
      (normalizedItem againBundle.version).contentHash.asStr = some (dealPython.sha256Text (pageText "v")) ∧
      (normalizedItem againBundle.notice).SeenIn
        (rekeyed.sourceIdOf (sqlite epoch) (normalizedItem againBundle.notice)) (dealPython.sha256Text (pageText "v")) rekeyed.db ∧
      againVersion.db.recordIds ≠ rekeyed.db.recordIds := by
  obtain ⟨hparsed, hnotice, hversion, hnoticeContent, hversionContent, hkey, hversionKey, hsourceKey, hversionSourceKey,
    hsource⟩ := again_items
  obtain ⟨-, -, -, hbefore, -, hadded⟩ := again_run
  have hemits : Emits dealPython (pageText "v") againBundle := .parseDetail rfl (eq_ok_of_isOk ⟨{}, {}, {}, []⟩ hparsed)
  refine ⟨hemits, eq_ok_of_isOk {} hnotice, eq_ok_of_isOk {} hversion, hsource,
    hkey.trans hversionKey.symm, hsourceKey.trans hversionSourceKey.symm, hnoticeContent, hversionContent, again_seen, ?_⟩
  rw [hbefore, hadded]
  decide

end TenderPhase1.Spiders
