import TenderPhase1.Crawler.AttachmentMerge
import TenderPhase1.Crawler.LinkedVersion
import TenderPhase1.Crawler.SourceCache
import TenderPhase1.Spiders.PageBundle

/-!
# The attachments of a page and its version

The attachments of a bundle belong to the version with the content of the page. Those
without a number follow the current version, which the bundle has just written. Those
of the base spider ask for the version numbered 1, which is an older one where the page
has changed.
-/

namespace TenderPhase1.Spiders

open PyText Crawler Jobs Transition

/-- The calls of a bundle, each over the connection it meets. -/
def PageBundle.events (bundle : PageBundle) (conns : ℕ → Connection) : List (Connection × WriterCall) :=
  bundle.calls.mapIdx fun index call ↦ (conns index, call)

/-- The attachment is stored in the row with the hash. -/
def StoredUnder (python : Python) (urlHash : String) (item : Item) : Prop :=
  ∃ normalized fileUrl fileName, normalizeAttachment python item = .ok normalized ∧
    normalized.file python = .ok (some (urlHash, fileUrl, fileName))

/-- The file belongs to the notice of the bundle, and to a version of it with the content. -/
def PageBundle.Linked (bundle : PageBundle) (urlHash contentHash : String) (context : Context) : Prop :=
  ∃ sourceSiteId, context.sourceCache.lookup bundle.version.writtenSourceCode = some sourceSiteId ∧
    ∃ notice ∈ context.db.notices, notice.sourceSiteId = sourceSiteId ∧
      notice.dedupHash = bundle.version.resolvedDedupHash ∧
      ∃ attachment ∈ context.db.attachments, attachment.sourceSiteId = sourceSiteId ∧ attachment.urlHash = urlHash ∧
        attachment.noticeId = notice.id ∧
        ∃ version ∈ context.db.versions, version.noticeId = notice.id ∧ version.contentHash = contentHash ∧
          attachment.noticeVersionId = some version.id

/-- No version numbered 1 of the notice that the event's item finds has another content. -/
def FirstVersionMatches (python : Python) (contentHash : String) (context : Context)
    (event : Connection × WriterCall) : Prop :=
  ∀ item, event.2.normalized python = .ok item →
    item.FirstVersionMatches python event.1 (context.sourceIdOf event.1 item) contentHash context.db

section Links

variable {python : Python} {conn : Connection} {context : Context} {bundle : PageBundle}
  {sourceCode dedupHash contentHash urlHash : String} {noticeVersionNo : Value}
  {sourceSiteId noticeId current : ℕ} {versions : List VersionColumns} {normalized original : Item}

/-- The normalisation of an attachment changes neither its hash nor its number. -/
theorem normalizeAttachment_keeps (h : normalizeAttachment python original = .ok normalized)
    (hhash : original.resolvedDedupHash = some dedupHash) :
    normalized.resolvedDedupHash = some dedupHash ∧ normalized.noticeVersionNo = original.noticeVersionNo := by
  obtain ⟨notice, hnotice, h⟩ := bind_eq_ok.mp h
  obtain ⟨fileUrl, urlHash, rfl⟩ := normalizeAttachmentItem_eq_ok h
  have hkept := normalizeNoticeItem_resolvedDedupHash hnotice hhash
  refine ⟨hkept, ?_⟩
  obtain ⟨identity, dedupKey, sourceDuplicateKey, rfl⟩ := normalizeNoticeItem_eq_ok hnotice
  rfl

/-- A digest is the content of the normalised item. -/
theorem normalizeNoticeItem_digest {text : String} (h : normalizeNoticeItem python original = .ok normalized)
    (hcontent : original.contentHash = some (.str (python.sha256Text text))) :
    normalized.contentHash.asStr = some (python.sha256Text text) ∧ normalized.isCurrent = original.isCurrent := by
  obtain ⟨identity, dedupKey, sourceDuplicateKey, rfl⟩ := normalizeNoticeItem_eq_ok h
  have hdigest : original.contentHash.asStr = some (python.sha256Text text) := by
    rw [hcontent]
    exact python.asStr_sha256Text text
  have hor : (original.contentHash.or original.rawContentHash).asStr = some (python.sha256Text text) := by
    rw [hcontent, Value.or_str (python.asStr_sha256Text text), ← hcontent, hdigest]
  refine ⟨?_, rfl⟩
  change (Value.ofText (ensureContentHash python (original.contentHash.or original.rawContentHash)
    original.contentText)).asStr = _
  unfold ensureContentHash
  rw [hor]
  exact python.asStr_sha256Text text

/-- A call for an attachment of the bundle that comes to its commit. -/
def AttachmentCommitted (python : Python) (bundle : PageBundle) (context : Context) (event : Connection × WriterCall) :
    Prop :=
  Committed python context event ∧ ∃ item ∈ bundle.attachments, event.2 = .attachment item

/-- What one attachment of a bundle does once the version is written. -/
theorem attachment_step (hshape : bundle.Shape sourceCode dedupHash contentHash noticeVersionNo)
    (hheld : NoticeHeld sourceCode dedupHash sourceSiteId noticeId current versions context)
    (hcommitted : Committed python context (conn, .attachment original)) (hmem : original ∈ bundle.attachments) :
    ∃ item, normalizeAttachment python original = .ok item ∧ item.noticeVersionNo = noticeVersionNo ∧
      NoticeHeld sourceCode dedupHash sourceSiteId noticeId current versions
        (context.step python (conn, .attachment original)) ∧
      AttachmentLinked python item dedupHash sourceSiteId noticeId current versions context.db
        (context.step python (conn, .attachment original)).db := by
  obtain ⟨item, found, last, hcall⟩ := hcommitted
  obtain ⟨hhash, hnumber⟩ := normalizeAttachment_keeps hcall.normalized (hshape.attachmentHash original hmem)
  have hsource := normalized_writtenSourceCode hcall.normalized
  exact ⟨item, hcall.normalized, hnumber.trans (hshape.attachmentNumber original hmem),
    hheld.attachment (hsource.trans (hshape.attachmentSource original hmem)) hhash hcall⟩

/-- After the attachments of a bundle, each of their files is linked to one version. -/
theorem links_attachments (hshape : bundle.Shape sourceCode dedupHash contentHash noticeVersionNo)
    (hheld : NoticeHeld sourceCode dedupHash sourceSiteId noticeId current versions context)
    (events : List (Connection × WriterCall))
    (hevents : Along (Context.step python) (AttachmentCommitted python bundle) context events)
    {event : Connection × WriterCall} (hevent : event ∈ events) (hcall : event.2 = .attachment original)
    (hstored : StoredUnder python urlHash original) :
    NoticeHeld sourceCode dedupHash sourceSiteId noticeId current versions (events.foldl (Context.step python) context) ∧
      (events.foldl (Context.step python) context).db.LinksFile (sourceSiteId, urlHash) noticeId
        (linkedIn (noticeVersionNo.asInt python) noticeId current versions) := by
  have hkeep (before : Context) (next : Connection × WriterCall)
      (hbefore : NoticeHeld sourceCode dedupHash sourceSiteId noticeId current versions before)
      (hnext : AttachmentCommitted python bundle before next) :
      NoticeHeld sourceCode dedupHash sourceSiteId noticeId current versions (before.step python next) := by
    obtain ⟨conn, call⟩ := next
    obtain ⟨hcommitted, item, hmem, rfl⟩ := hnext
    obtain ⟨-, -, -, hafter, -⟩ := attachment_step hshape hbefore hcommitted hmem
    exact hafter
  refine ⟨invariant_foldl hkeep context events hheld hevents, ?_⟩
  let linked (after : Context) : Prop := after.db.LinksFile (sourceSiteId, urlHash) noticeId
    (linkedIn (noticeVersionNo.asInt python) noticeId current versions)
  change linked (events.foldl (Context.step python) context)
  refine reached_foldl hkeep ?_ ?_ context events hheld hevents hevent
  · intro before hbefore hnext
    obtain ⟨conn, call⟩ := event
    obtain rfl : call = .attachment original := hcall
    obtain ⟨hcommitted, item, hmem, hsame⟩ := hnext
    obtain rfl := WriterCall.attachment.inj hsame
    obtain ⟨normalized, hnormalized, hnumber, -, hlinked⟩ := attachment_step hshape hbefore hcommitted hmem
    obtain ⟨stored, fileUrl, fileName, hitem, hfile⟩ := hstored
    obtain rfl := Except.ok.inj (hnormalized.symm.trans hitem)
    dsimp only [linked]
    rw [← hnumber]
    exact hlinked.linked urlHash fileUrl fileName hfile
  · intro before next hbefore hnext hlinks
    dsimp only [linked] at hlinks ⊢
    obtain ⟨conn, call⟩ := next
    obtain ⟨hcommitted, item, hmem, rfl⟩ := hnext
    obtain ⟨normalized, -, hnumber, -, hlinked⟩ := attachment_step hshape hbefore hcommitted hmem
    rw [← hnumber] at hlinks ⊢
    exact hlinked.kept _ hlinks

/-- The events of a bundle: the notice, the version, and one call for each attachment. -/
theorem events_eq (bundle : PageBundle) (conns : ℕ → Connection) :
    bundle.events conns = (conns 0, .notice bundle.notice) :: (conns 1, .noticeVersion bundle.version) ::
      (bundle.attachments.map WriterCall.attachment).mapIdx fun index call ↦ (conns (index + 1 + 1), call) := by
  simp [PageBundle.events, PageBundle.calls, List.mapIdx_cons]

/-- The link of a file decides whether the file belongs to the content. -/
theorem linked_iff {version : VersionColumns} (hshape : bundle.Shape sourceCode dedupHash contentHash noticeVersionNo)
    (hheld : NoticeHeld sourceCode dedupHash sourceSiteId noticeId current versions context)
    (hlink : context.db.LinksFile (sourceSiteId, urlHash) noticeId version.id) (hversion : version ∈ versions)
    (hof : version.noticeId = noticeId) :
    bundle.Linked urlHash contentHash context ↔ version.contentHash = contentHash := by
  obtain ⟨hcached, hunique, hnotice, hcolumns⟩ := hheld
  obtain ⟨-, -, -, hversions, hattachments, -⟩ := unique_iff.mp hunique
  obtain ⟨attachment, hattachment, hattachmentLink⟩ := List.mem_map.mp hlink
  simp only [TenderAttachment.link, TenderAttachment.key, Prod.mk.injEq] at hattachmentLink
  obtain ⟨⟨hattachmentSource, hattachmentUrl⟩, hattachmentNotice, hattachmentVersion⟩ := hattachmentLink
  rw [← hcolumns] at hversion
  obtain ⟨row, hrow, rfl⟩ := List.mem_map.mp hversion
  constructor
  · rintro ⟨otherSource, hotherSource, notice, -, -, -, other, hother, hsource, hurl, -, otherVersion, hotherVersion, -,
      hcontent, hlinked⟩
    have hsameSource : sourceSiteId = otherSource := by
      rw [hshape.versionSource] at hotherSource
      exact Option.some.inj (hcached.symm.trans hotherSource)
    have hsame : other = attachment := by
      apply List.inj_on_of_nodup_map (uniqueAttachments_iff.mp hattachments).2 hother hattachment
      rw [hsource, hurl, hattachmentSource, hattachmentUrl, hsameSource]
    have hid : row.id = otherVersion.id := by
      rw [hsame, hattachmentVersion] at hlinked
      exact Option.some.inj hlinked
    rw [eq_of_id_eq (uniqueVersions_iff.mp hversions).1 hotherVersion hrow hid]
    exact hcontent
  · intro hcontent
    obtain ⟨notice, hnoticeMem, hshown⟩ := List.mem_map.mp hnotice
    simp only [TenderNotice.shownColumns, Prod.mk.injEq] at hshown
    obtain ⟨hid, hsource, hhash, -⟩ := hshown
    refine ⟨sourceSiteId, ?_, notice, hnoticeMem, hsource, ?_, attachment, hattachment, hattachmentSource, hattachmentUrl,
      ?_, row, hrow, ?_, hcontent, hattachmentVersion⟩
    · rw [hshape.versionSource]
      exact hcached
    · rw [hshape.versionHash, hhash]
    · rw [hattachmentNotice, hid]
    · rw [hid]
      exact hof

end Links

/-- Whatever was written before, after a bundle is written a file of it belongs to the content of the page
if and only if its item has no number, or no version numbered 1 of the notice had another content. -/
theorem attachments_linked_iff (python : Python) (hone : python.int "1" = some 1) {text : String} {bundle : PageBundle}
    (hemits : Emits python text bundle) (start : Context) (howned : start.db.VersionsOwned)
    (history : List (Connection × WriterCall)) (context : Context)
    (hcontext : history.foldl (Context.step python) start = context) (conns : ℕ → Connection)
    (hwritten : Along (Context.step python) (Committed python) context (bundle.events conns)) (item : Item)
    (hitem : item ∈ bundle.attachments) (urlHash : String) (hstored : StoredUnder python urlHash item) :
    bundle.Linked urlHash (python.sha256Text text) ((bundle.events conns).foldl (Context.step python) context) ↔
      item.noticeVersionNo = none ∨ FirstVersionMatches python (python.sha256Text text)
        (context.step python (conns 0, .notice bundle.notice)) (conns 1, .noticeVersion bundle.version) := by
  have hkeep (before : Context) (event : Connection × WriterCall) (h : before.db.VersionsOwned) :
      (before.step python event).db.VersionsOwned := versionsOwned_step h
  have hreached : context.db.VersionsOwned := by
    rw [← hcontext]
    exact invariant_run hkeep start history howned
  obtain ⟨sourceCode, dedupHash, noticeVersionNo, hshape, hnumber⟩ := hemits.shape
  rw [events_eq] at hwritten ⊢
  obtain ⟨-, hversion, hattachments⟩ := hwritten
  obtain ⟨version, found, last, hcall⟩ := hversion
  obtain ⟨hcontent, hkeptCurrent⟩ := normalizeNoticeItem_digest hcall.normalized hshape.versionContent
  have hhash := normalizeNoticeItem_resolvedDedupHash hcall.normalized hshape.versionHash
  have hcurrent : version.isCurrent.asBool python true := by
    rw [hkeptCurrent, hshape.versionCurrent]
    exact Value.asBool_ofBool_true python true
  obtain ⟨noticeId, current, versionNo, versions, hheld, hcurrentMem, hfirst⟩ :=
    noticeHeld_of_version (versionsOwned_step hreached) hhash hcontent hcurrent hcall
  have hsource : version.writtenSourceCode = sourceCode :=
    (normalized_writtenSourceCode hcall.normalized).trans hshape.versionSource
  rw [hsource] at hheld
  -- the attachments keep the notice, and each of them links the same version
  have hmember (event : Connection × WriterCall) (hevent : event ∈ (bundle.attachments.map WriterCall.attachment).mapIdx
      fun index call ↦ (conns (index + 1 + 1), call)) : ∃ item ∈ bundle.attachments, event.2 = .attachment item := by
    obtain ⟨index, hindex, rfl⟩ := List.mem_mapIdx.mp hevent
    obtain ⟨original, horiginal, hsame⟩ := List.mem_map.mp (List.getElem_mem hindex)
    exact ⟨original, horiginal, hsame.symm⟩
  have hevents := hattachments.and (along_of_forall_mem hmember _)
  obtain ⟨index, hindex, hat⟩ := List.getElem_of_mem (List.mem_map_of_mem (f := WriterCall.attachment) hitem)
  obtain ⟨hafter, hlinks⟩ := links_attachments hshape hheld _ hevents
    (List.mem_mapIdx.mpr ⟨index, hindex, rfl⟩) hat hstored
  have hnumbers : (versions.map fun version ↦ (version.noticeId, version.versionNo)).Nodup := by
    rw [← hafter.columns, List.map_map]
    exact (uniqueVersions_iff.mp (unique_iff.mp hafter.unique).2.2.2.1).2.1
  obtain ⟨linked, hlinkedMem, hlinkedId, hlinkedOf, hlinkedContent⟩ :=
    linkedIn_content hcurrentMem hnumbers
  rw [← hlinkedId] at hlinks
  have hmatches : FirstVersionMatches python (python.sha256Text text)
      (context.step python (conns 0, .notice bundle.notice)) (conns 1, .noticeVersion bundle.version) ↔
      ∀ version ∈ versions, version.noticeId = noticeId → version.versionNo = 1 →
        version.contentHash = python.sha256Text text := by
    rw [hfirst]
    constructor
    · exact fun hall ↦ hall version hcall.normalized
    · intro hall other hother
      obtain rfl := Except.ok.inj (hcall.normalized.symm.trans hother)
      exact hall
  rw [hmatches, hshape.attachmentNumber item hitem]
  refine (linked_iff hshape hafter hlinks hlinkedMem hlinkedOf).trans (hlinkedContent.trans ?_)
  rcases hnumber with rfl | rfl
  · exact ⟨fun _ ↦ Or.inl rfl, fun _ _ h ↦ (nomatch h)⟩
  · have hasInt : Value.asInt python (some (PyObject.ofInt 1)) = some 1 := by
      have hstrip : strip "1" = "1" := by decide
      change python.int (strip "1") = some 1
      rw [hstrip, hone]
    rw [hasInt]
    constructor
    · exact fun hall ↦ Or.inr (hall 1 rfl)
    · rintro (hnone | hall) other hother
      · cases hnone
      · obtain rfl := Option.some.inj hother
        exact hall

/-! ## A page that changes -/

/-- A page whose parser finds one word and one file, which is named after the word. -/
def pageText (word : String) : String :=
  "<title>t</title><p>" ++ word ++ "</p><a href=\"https://a.cn/" ++ word ++ ".pdf\">file</a>"

/-- The digests of the seeds of two pages and of their files. -/
def pageDigests : Digests where
  entries := [("ccgp_gov_cn||t|https://a.cn/1", "c3fab1666a691a1c955f025a93daf1ea3be759a1fd27164f338c988343550cb1"),
    ("t|-|-|-|-|https://a.cn/1", "c00fafc3a8b3f12836bbc4f5d0c78f3ab753dab2942e9a92f9ab8fa6badb4bbd"),
    ("ccgp_gov_cn|announcement|https://a.cn/1", "057a8a5338446c58e966c44b7fee35052d75e3021d00f8a48f3e3acb4f16f1a5"),
    (pageText "v", "126313ee864fb2c31f30bf5a03a6327ed95f4b1b78a8a41b424bfcad4315d464"),
    (pageText "w", "9910538b0c9586276555fee809588db4bf3a842546045170dcf71f80971dfc7e"),
    ("t|-|-|-|-|-", "fa2ca7c6a9dd6d328e977e5a91c01b01c329558e69e26d455243fb5965723a09"),
    ("https://a.cn/v.pdf", "179125fb03e099e66f3d7e8cf739a4eb06fb4b832481387db3f08ba49af24c1f"),
    ("https://a.cn/w.pdf", "6540f989c19647058ea78a375421dac9b3fd61443b953f131010d3f9474fcabe"),
    ("-|-|-|-|-|https://a.cn/1", "de9251a2a2331d48eb2aeabff1eff76a051d8eccf2048def3060c5b9a0ba1f5a"),
    ("https://a.cn/1", "ee794e0a9aeae47b1063a768e3ab7c404d986ec41994d98527f9b2b09efa7c2a")]
  stripped := by decide +kernel

def pagePython : Python := plainPython pageDigests

/-- What the parser of `ccgp_gov_cn` makes of the page. -/
def pageNotice (word : String) : GgzyGovCnDeal.ParsedNotice where
  title := "t"
  noticeType := "announcement"
  externalId := none
  issuer := none
  region := none
  publishedAt := none
  budgetCurrency := "CNY"
  summary := some word
  contentText := none
  sourceSiteName := none
  sourceSiteUrl := none
  listPageUrl := none
  detailPageUrl := none
  structuredData := [("source_url", some (.str "https://a.cn/1")), ("parser", some (.str "CcgpGovCnParser"))]

/-- The file that the parser finds on the page. -/
def pageFile (word : String) : ParsedAttachment where
  fileName := word ++ ".pdf"
  fileUrl := "https://a.cn/" ++ word ++ ".pdf"
  mimeType := some "application/pdf"

def pageResponse (word : String) : TextResponse where
  url := "https://a.cn/1"
  text := pageText word
  status := 200
  contentType := "text/html"
  encoding := "utf-8"
  title := some "t"
  urljoin url := .ok url

def parsePage (word : String) : Except PyError PageBundle :=
  BaseSourceSpider.parse pagePython "ccgp_gov_cn" none (pageNotice word) (pageResponse word) epoch [pageFile word]

def pageBundle (word : String) : PageBundle := (parsePage word).toOption.getD ⟨{}, {}, {}, []⟩

def pageEvents (word : String) : List (Connection × WriterCall) := (pageBundle word).events fun _ ↦ sqlite epoch

def pageAttachment (word : String) : Item := (pageBundle word).attachments.headD {}

def fileHash (word : String) : String := pagePython.sha256Text ("https://a.cn/" ++ word ++ ".pdf")

section Page

variable {word : String}

theorem emits_pageBundle (h : (parsePage word).isOk) : Emits pagePython (pageText word) (pageBundle word) :=
  .parse rfl (eq_ok_of_isOk _ h)

theorem pageAttachment_mem (h : (pageBundle word).attachments.length = 1) :
    pageAttachment word ∈ (pageBundle word).attachments := by
  obtain ⟨item, hitem⟩ := List.length_eq_one_iff.mp h
  unfold pageAttachment
  rw [hitem]
  exact List.mem_cons_self

/-- The item is stored under the digest of its file. -/
theorem storedUnder_fileHash {item : Item}
    (h : (match normalizeAttachment pagePython item with
      | .ok normalized =>
        match normalized.file pagePython with
        | .ok (some (urlHash, _)) => urlHash == fileHash word
        | _ => false
      | .error _ => false) = true) : StoredUnder pagePython (fileHash word) item := by
  cases hnormalized : normalizeAttachment pagePython item with
  | error error =>
    rw [hnormalized] at h
    cases h
  | ok normalized =>
    rw [hnormalized] at h
    dsimp only at h
    split at h
    · next urlHash rest hfile =>
      obtain rfl := beq_iff_eq.mp h
      exact ⟨normalized, rest.1, rest.2, hnormalized, hfile⟩
    · cases h

end Page

/-- What the writers change in a row of the page. -/
def shownRows (db : Db) : List (Option String) × ℕ × List String :=
  (db.notices.map TenderNotice.summary, db.versions.length, db.attachments.map TenderAttachment.fileName)

/-- The page is written with one word and then with another. Both files belong to the version with the first. -/
theorem changedPage_run :
    Along (Context.step pagePython) (fun before event ↦
        shownRows (before.step pagePython event).db ≠ shownRows before.db) ⟨[], emptyDb⟩ (pageEvents "v" ++ pageEvents "w") ∧
      ∀ attachment ∈ ((pageEvents "v" ++ pageEvents "w").foldl (Context.step pagePython) ⟨[], emptyDb⟩).db.attachments,
        ∀ version ∈ ((pageEvents "v" ++ pageEvents "w").foldl (Context.step pagePython) ⟨[], emptyDb⟩).db.versions,
          attachment.noticeVersionId = some version.id → version.contentHash ≠ pagePython.sha256Text (pageText "w") := by
  decide +kernel

theorem attachments_linked_iff_page :
    (pageBundle "v").Linked (fileHash "v") (pagePython.sha256Text (pageText "v"))
        ((pageEvents "v").foldl (Context.step pagePython) ⟨[], emptyDb⟩) ↔
      (pageAttachment "v").noticeVersionNo = none ∨ FirstVersionMatches pagePython (pagePython.sha256Text (pageText "v"))
        (Context.step pagePython ⟨[], emptyDb⟩ (sqlite epoch, .notice (pageBundle "v").notice))
        (sqlite epoch, .noticeVersion (pageBundle "v").version) := by
  have hchanges := ((along_append _ _ _).mp changedPage_run.1).1
  exact attachments_linked_iff pagePython (by decide) (emits_pageBundle (by decide +kernel)) ⟨[], emptyDb⟩
    (fun _ h ↦ (nomatch h)) [] _ rfl (fun _ ↦ sqlite epoch) (hchanges.mono fun _ _ h ↦ committed_of_ne shownRows h) (pageAttachment "v")
    (pageAttachment_mem (by decide +kernel)) (fileHash "v") (storedUnder_fileHash (by decide +kernel))

theorem attachments_not_linked_page :
    Emits pagePython (pageText "v") (pageBundle "v") ∧ Emits pagePython (pageText "w") (pageBundle "w") ∧
      Along (Context.step pagePython) (Committed pagePython) ⟨[], emptyDb⟩ (pageEvents "v" ++ pageEvents "w") ∧
      pageAttachment "w" ∈ (pageBundle "w").attachments ∧ StoredUnder pagePython (fileHash "w") (pageAttachment "w") ∧
      ¬ (pageBundle "w").Linked (fileHash "w") (pagePython.sha256Text (pageText "w"))
        ((pageEvents "v" ++ pageEvents "w").foldl (Context.step pagePython) ⟨[], emptyDb⟩) := by
  refine ⟨emits_pageBundle (by decide +kernel), emits_pageBundle (by decide +kernel),
    changedPage_run.1.mono fun _ _ h ↦ committed_of_ne shownRows h, pageAttachment_mem (by decide +kernel),
    storedUnder_fileHash (by decide +kernel), ?_⟩
  rintro ⟨-, -, -, -, -, -, attachment, hattachment, -, -, -, version, hversion, -, hcontent, hlinked⟩
  exact changedPage_run.2 attachment hattachment version hversion hlinked hcontent

end TenderPhase1.Spiders
