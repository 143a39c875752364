import TenderPhase1.Crawler.DedupKeys
import TenderPhase1.Crawler.DocumentLinks
import TenderPhase1.Crawler.UrlNormalForm
import TenderPhase1.Spiders.AttachmentLinks

/-!
# The document of a page

A spider names the page of a version by the hash of its normalised URL. The writer
normalises the URL of the raw document a second time before it takes the hash, so the
version finds the document exactly where the second pass changes nothing.
-/

namespace TenderPhase1.Spiders

open PyText Crawler Jobs

/-- What a raw document and a version say of their page. -/
structure PageBundle.NamesPage (python : Python) (bundle : PageBundle) (pageUrl normalizedUrl : String) : Prop where
  url : bundle.rawDocument.url = some (.str pageUrl)
  normalized : normalizeUrl python pageUrl = .ok normalizedUrl
  document : bundle.rawDocument.normalizedUrl = some (.str normalizedUrl)
  version : bundle.version.rawDocumentUrlHash = some (.str (python.sha256Text normalizedUrl))
  source : bundle.version.writtenSourceCode = bundle.rawDocument.writtenSourceCode

section Hashes

variable {python : Python} {text pageUrl : String} {bundle : PageBundle} {split : SplitResult} {item : Item}

/-- Every spider names the page by the hash of the URL that it gives the raw document. -/
theorem Emits.namesPage (h : Emits python text bundle) :
    ∃ pageUrl normalizedUrl, bundle.NamesPage python pageUrl normalizedUrl := by
  cases h with
  | @parse _ _ _ response _ _ _ _ h =>
    obtain ⟨normalizedUrl, hnormalized, h⟩ := bind_eq_ok.mp h
    obtain ⟨items, -, h⟩ := bind_eq_ok.mp h
    rw [← Except.ok.inj h]
    exact ⟨response.url, normalizedUrl, rfl, hnormalized, rfl, rfl, rfl⟩
  | @parseBulletin _ request _ _ _ _ _ _ h =>
    obtain ⟨bulletinUrl, hnormalized, h⟩ := bind_eq_ok.mp h
    obtain ⟨resolved, -, h⟩ := bind_eq_ok.mp h
    obtain ⟨items, -, h⟩ := bind_eq_ok.mp h
    rw [← Except.ok.inj h]
    exact ⟨request.bulletinUrl, bulletinUrl, rfl, hnormalized, rfl, rfl, rfl⟩
  | @parseDetail _ _ _ _ response _ _ _ _ _ h =>
    obtain ⟨normalizedUrl, hnormalized, h⟩ := bind_eq_ok.mp h
    obtain ⟨version, hversion, h⟩ := bind_eq_ok.mp h
    obtain ⟨items, -, h⟩ := bind_eq_ok.mp h
    obtain ⟨rawDocumentUrl, hrawDocumentUrl, hversion⟩ := bind_eq_ok.mp hversion
    obtain rfl : normalizedUrl = rawDocumentUrl := Except.ok.inj (hnormalized.symm.trans hrawDocumentUrl)
    rw [← Except.ok.inj h, ← Except.ok.inj hversion]
    exact ⟨response.url, normalizedUrl, rfl, hnormalized, rfl, rfl, rfl⟩

theorem urlHash_normalizeRawDocumentItem {original : Item} {normalizedUrl : Option String}
    (h : normalizeRawDocumentItem python original = .ok item)
    (hnormalized : normalizeDetailUrl python (original.normalizedUrl.or original.url) = .ok normalizedUrl) :
    item.urlHash = Value.ofText ((normalizedUrl.bind nonEmpty).map python.sha256Text) := by
  obtain ⟨found, hfound, h⟩ := bind_eq_ok.mp h
  obtain rfl : found = normalizedUrl := Except.ok.inj (hfound.symm.trans hnormalized)
  dsimp only at h
  split at h
  · rw [← Except.ok.inj h]
  · obtain ⟨sourceDuplicateKey, -, h⟩ := bind_eq_ok.mp h
    rw [← Except.ok.inj h]

/-- The document is stored under the hash that the version names, if and only if the URL is settled. -/
theorem PageBundle.NamesPage.urlHash_eq_iff {normalizedUrl : String} (urls : CPythonUrls python)
    (hdigest : Function.Injective python.sha256Text) (h : bundle.NamesPage python pageUrl normalizedUrl)
    (hsplit : python.urlsplit (strip pageUrl) = .ok split) (habsolute : split.Absolute)
    (hitem : normalizeRawDocumentItem python bundle.rawDocument = .ok item) :
    ∃ stored, item.urlHash = some (.str (python.sha256Text stored)) ∧
      (python.sha256Text normalizedUrl = python.sha256Text stored ↔ split.Settled python) := by
  obtain ⟨normalized, stored, hnormalized, hstored, hne, hstoredNe, hiff⟩ :=
    normalizeDetailUrl_normalizeUrl urls hsplit habsolute
  obtain rfl : normalized = normalizedUrl := Except.ok.inj (hnormalized.symm.trans h.normalized)
  have hgiven : bundle.rawDocument.normalizedUrl.or bundle.rawDocument.url = some (.str normalized) := by
    rw [h.document]
    exact if_pos (decide_eq_true hne)
  rw [← hgiven] at hstored
  refine ⟨stored, ?_, ?_⟩
  · rw [urlHash_normalizeRawDocumentItem hitem hstored, Option.bind_some, nonEmpty, if_neg hstoredNe]
    rfl
  · rw [hdigest.eq_iff, eq_comm, hiff]

/-- A spider's version item names the hash under which the writer stores the raw document of the page, and is
linked to that document once both are written, if and only if the URL of the page is settled. -/
theorem documentLinked_iff_settled (urls : CPythonUrls python) (hdigest : Function.Injective python.sha256Text)
    (hemits : Emits python text bundle) (hurl : bundle.rawDocument.url = some (.str pageUrl))
    (hsplit : python.urlsplit (strip pageUrl) = .ok split) (habsolute : split.Absolute) :
    (∀ item, normalizeRawDocumentItem python bundle.rawDocument = .ok item →
      (bundle.version.rawDocumentUrlHash = item.urlHash ↔ split.Settled python)) ∧
    ∀ (context after : Context) (stored written : Connection) (between : List (Connection × WriterCall)),
      Committed python context (stored, .rawDocument bundle.rawDocument) →
      after = between.foldl (Context.step python) (context.step python (stored, .rawDocument bundle.rawDocument)) →
      Committed python after (written, .noticeVersion bundle.version) →
      ∃ item dedupHash, normalizeRawDocumentItem python bundle.rawDocument = .ok item ∧
        bundle.version.resolvedDedupHash = some dedupHash ∧
        ∃ document ∈ (after.step python (written, .noticeVersion bundle.version)).db.rawDocuments,
          item.urlHash = some (.str document.urlHash) ∧
          ∃ notice version, CurrentVersion document.sourceSiteId dedupHash
              (after.step python (written, .noticeVersion bundle.version)).db notice version ∧
            (version.rawDocumentId = some document.id ↔ split.Settled python) := by
  obtain ⟨namedUrl, normalizedUrl, hnames⟩ := hemits.namesPage
  obtain rfl : namedUrl = pageUrl := by
    have hsame := hnames.url.symm.trans hurl
    simpa using hsame
  constructor
  · intro item hitem
    obtain ⟨storedUrl, hurlHash, hiff⟩ := hnames.urlHash_eq_iff urls hdigest hsplit habsolute hitem
    rw [hurlHash, hnames.version, ← hiff]
    simp
  · intro context after stored written between hdocument hafter hversion
    obtain ⟨sourceCode, dedupHash, noticeVersionNo, hshape, -⟩ := hemits.shape
    have hcurrent : bundle.version.isCurrent.asBool python true := by
      rw [hshape.versionCurrent]
      exact Value.asBool_ofBool_true python true
    have hnamed : bundle.version.rawDocumentUrlHash.asStr = some (python.sha256Text normalizedUrl) := by
      rw [hnames.version]
      exact python.asStr_sha256Text normalizedUrl
    obtain ⟨item, storedHash, hitem, hstoredHash, document, hmem, notice, version, hdocumentHash, hshown, hlinked⟩ :=
      linked_iff_of_committed hafter hdocument hversion hnames.source hshape.versionHash hcurrent hnamed
    obtain ⟨storedUrl, hurlHash, hiff⟩ := hnames.urlHash_eq_iff urls hdigest hsplit habsolute hitem
    have hsame : python.sha256Text storedUrl = storedHash := by
      rw [hurlHash] at hstoredHash
      exact Option.some.inj ((python.asStr_sha256Text storedUrl).symm.trans hstoredHash)
    refine ⟨item, dedupHash, hitem, hshape.versionHash, document, hmem, ?_, notice, version, hshown, ?_⟩
    · rw [hurlHash, hdocumentHash, hsame]
    · rw [hlinked, ← hsame, hiff]

end Hashes

/-! ## Pages with and without a tracking parameter -/

def documentPython : Python := urllibPython markingPython

def documentUrls : CPythonUrls documentPython := urllibUrls markingPython

theorem digest_injective : Function.Injective documentPython.sha256Text := by
  have hdigest : documentPython.sha256Text = marked := by
    rw [documentPython, urllibPython]
    rfl
  rw [hdigest]
  exact marked_injective

/-- What the base spider makes of the page under the URL. -/
def parseAt (url : String) : Except PyError PageBundle :=
  BaseSourceSpider.parse documentPython "a" none (pageNotice "s") { pageResponse "v" with url := url } epoch []

def bundleAt (url : String) : PageBundle := (parseAt url).toOption.getD ⟨{}, {}, {}, []⟩

/-- After the raw document of the page -/
def archivedAt (url : String) : Context :=
  (⟨[], emptyDb⟩ : Context).step documentPython (sqlite epoch, .rawDocument (bundleAt url).rawDocument)

/-- After its version, too -/
def linkedAt (url : String) : Context :=
  (archivedAt url).step documentPython (sqlite epoch, .noticeVersion (bundleAt url).version)

theorem emits_bundleAt {url : String} (h : (parseAt url).isOk) : Emits documentPython (pageText "v") (bundleAt url) :=
  .parse rfl (eq_ok_of_isOk _ h)

/-- Both calls have committed where they leave a document and a version. -/
theorem committed_linkedAt {url : String} (harchived : (archivedAt url).db.rawDocuments.map RawDocument.id ≠ [])
    (hlinked : (linkedAt url).db.versions.map NoticeVersion.id ≠ (archivedAt url).db.versions.map NoticeVersion.id) :
    Committed documentPython ⟨[], emptyDb⟩ (sqlite epoch, .rawDocument (bundleAt url).rawDocument) ∧
      Committed documentPython (archivedAt url) (sqlite epoch, .noticeVersion (bundleAt url).version) :=
  ⟨committed_of_ne (fun db ↦ db.rawDocuments.map RawDocument.id) harchived,
    committed_of_ne (fun db ↦ db.versions.map NoticeVersion.id) hlinked⟩

theorem plain_run :
    (parseAt "https://a.cn/1?id=2").isOk ∧ (archivedAt "https://a.cn/1?id=2").db.rawDocuments.map RawDocument.id = [1] ∧
      (linkedAt "https://a.cn/1?id=2").db.versions.map NoticeVersion.id ≠
        (archivedAt "https://a.cn/1?id=2").db.versions.map NoticeVersion.id ∧
      (bundleAt "https://a.cn/1?id=2").rawDocument.url = some (.str "https://a.cn/1?id=2") ∧
      documentPython.urlsplit (strip "https://a.cn/1?id=2") = .ok ⟨"https", "a.cn", "/1", "id=2", ""⟩ ∧
      SplitResult.Settled documentPython ⟨"https", "a.cn", "/1", "id=2", ""⟩ := by
  decide +kernel

/-- The version of a page without one is linked to its document. -/
theorem documentLinked_plain :
    ∃ document ∈ (linkedAt "https://a.cn/1?id=2").db.rawDocuments, ∃ notice version dedupHash,
      CurrentVersion document.sourceSiteId dedupHash (linkedAt "https://a.cn/1?id=2").db notice version ∧
        version.rawDocumentId = some document.id := by
  obtain ⟨hparsed, harchived, hlinked, hurl, hsplit, hsettled⟩ := plain_run
  obtain ⟨hdocument, hversion⟩ := committed_linkedAt (by rw [harchived]; exact List.cons_ne_nil _ _) hlinked
  obtain ⟨-, hrun⟩ := documentLinked_iff_settled documentUrls digest_injective (emits_bundleAt hparsed) hurl
    hsplit (by decide)
  have hafter (url : String) : archivedAt url = [].foldl (Context.step documentPython) ((⟨[], emptyDb⟩ : Context).step
      documentPython (sqlite epoch, .rawDocument (bundleAt url).rawDocument)) := rfl
  unfold linkedAt
  obtain ⟨item, dedupHash, -, -, document, hmem, -, notice, version, hshown, hiff⟩ :=
    hrun _ _ _ _ [] hdocument (hafter _) hversion
  exact ⟨document, hmem, notice, version, dedupHash, hshown, hiff.mpr hsettled⟩

theorem tracked_run :
    (parseAt "https://a.cn/1?utm_id=2").isOk ∧
      (archivedAt "https://a.cn/1?utm_id=2").db.rawDocuments.map RawDocument.id = [1] ∧
      (linkedAt "https://a.cn/1?utm_id=2").db.versions.map NoticeVersion.id ≠
        (archivedAt "https://a.cn/1?utm_id=2").db.versions.map NoticeVersion.id ∧
      (linkedAt "https://a.cn/1?utm_id=2").db.versions.map NoticeVersion.rawDocumentId = [none] ∧
      (archivedAt "https://a.cn/1?utm_id=2").db.rawDocuments.map (some ∘ PyObject.str ∘ RawDocument.urlHash) ≠
        [(bundleAt "https://a.cn/1?utm_id=2").version.rawDocumentUrlHash] := by
  decide +kernel

/-- The version of a page with a tracking parameter is linked to nothing, and names a hash that no document has. -/
theorem documentUnlinked_tracked :
    Emits documentPython (pageText "v") (bundleAt "https://a.cn/1?utm_id=2") ∧
      Committed documentPython ⟨[], emptyDb⟩ (sqlite epoch, .rawDocument (bundleAt "https://a.cn/1?utm_id=2").rawDocument) ∧
      Committed documentPython (archivedAt "https://a.cn/1?utm_id=2")
        (sqlite epoch, .noticeVersion (bundleAt "https://a.cn/1?utm_id=2").version) ∧
      (archivedAt "https://a.cn/1?utm_id=2").db.rawDocuments.map (some ∘ PyObject.str ∘ RawDocument.urlHash) ≠
        [(bundleAt "https://a.cn/1?utm_id=2").version.rawDocumentUrlHash] ∧
      (linkedAt "https://a.cn/1?utm_id=2").db.versions.map NoticeVersion.rawDocumentId = [none] := by
  obtain ⟨hparsed, harchived, hlinked, hnone, hhashes⟩ := tracked_run
  obtain ⟨hdocument, hversion⟩ := committed_linkedAt (by rw [harchived]; exact List.cons_ne_nil _ _) hlinked
  exact ⟨emits_bundleAt hparsed, hdocument, hversion, hhashes, hnone⟩

end TenderPhase1.Spiders
