import TenderPhase1.Crawler.Instances
import TenderPhase1.Crawler.NoticeMerge
import TenderPhase1.Crawler.SourceCache

/-!
# What storing an attachment does to its notice

`write_attachment` merges its item into the notice it belongs to. The spiders give
an attachment no title, type or keys, but the normalisation fills in a type and two
keys, and the merge takes them for data.
-/

namespace TenderPhase1.Crawler

open Jobs Raising

/-- An attachment as the spiders emit it: nothing in it says what the notice is. -/
structure SpiderAttachment (item : Item) : Prop where
  title : item.title = none
  noticeType : item.noticeType = none
  dedupKey : item.dedupKey = none
  sourceDuplicateKey : item.sourceDuplicateKey = none

/-- The two notices are of one type, and have one title and the same keys. -/
structure SameIdentity (notice other : TenderNotice) : Prop where
  noticeType : other.noticeType = notice.noticeType
  title : other.title = notice.title
  dedupKey : other.dedupKey = notice.dedupKey
  sourceDuplicateKey : other.sourceDuplicateKey = notice.sourceDuplicateKey

/-- The notice is in the database with its type, title and keys. -/
def Db.Keeps (db : Db) (notice : TenderNotice) : Prop :=
  ∃ row ∈ db.notices, row.id = notice.id ∧ SameIdentity notice row

section Attachment

variable {python : Python} {conn : Connection} {context : Context} {item normalized : Item}
  {notice merged : TenderNotice}

/-! ## The keys of an attachment -/

theorem Value.asStr_ofText_sha256Text (text : String) :
    (Value.ofText (some (python.sha256Text text))).asStr = some (python.sha256Text text) :=
  python.asStr_sha256Text text

theorem buildNoticeDedupKey_digest {fields : KeyFields} {includeDetailLocator : Bool} {key : String}
    (h : buildNoticeDedupKey python fields includeDetailLocator = .ok key) : ∃ seed, key = python.sha256Text seed := by
  obtain ⟨publishedDate, -, h⟩ := bind_eq_ok.mp h
  obtain ⟨budgetBucket, -, h⟩ := bind_eq_ok.mp h
  obtain ⟨detailLocator, -, h⟩ := bind_eq_ok.mp h
  exact ⟨_, (Except.ok.inj h).symm⟩

theorem buildPersistenceDedupKey_digest {fields : KeyFields} {key : String}
    (h : buildPersistenceDedupKey python fields = .ok key) : ∃ seed, key = python.sha256Text seed := by
  obtain ⟨budgetBucket, -, h⟩ := bind_eq_ok.mp h
  exact buildNoticeDedupKey_digest h

theorem buildSourceDuplicateKey_digest {sourceCode noticeType issuer : Value} {fields : KeyFields} {key : String}
    (h : buildSourceDuplicateKey python sourceCode noticeType issuer fields = .ok key) :
    ∃ seed, key = python.sha256Text seed := by
  obtain ⟨detailLocator, -, h⟩ := bind_eq_ok.mp h
  split at h
  · exact ⟨_, (Except.ok.inj h).symm⟩
  · exact buildPersistenceDedupKey_digest h

/-- The normalisation gives an attachment a type and two keys of its own. -/
theorem normalized_of_spiderAttachment (hshape : SpiderAttachment item)
    (h : normalizeNoticeItem python item = .ok normalized) :
    normalized.title = none ∧ normalized.noticeType.asStr = some "announcement" ∧
      normalized.dedupKey.asStr.isSome ∧ normalized.sourceDuplicateKey.asStr.isSome := by
  obtain ⟨identity, -, h⟩ := bind_eq_ok.mp h
  obtain ⟨dedupKey, hdedupKey, h⟩ := bind_eq_ok.mp h
  obtain ⟨sourceDuplicateKey, hsourceDuplicateKey, h⟩ := bind_eq_ok.mp h
  unfold Item.resolvedDedupKey at hdedupKey
  rw [hshape.dedupKey] at hdedupKey
  obtain ⟨seed, rfl⟩ := buildPersistenceDedupKey_digest hdedupKey
  have hnone : (item.identified python identity (python.sha256Text seed)).sourceDuplicateKey = none :=
    hshape.sourceDuplicateKey
  unfold Item.resolvedSourceDuplicateKey at hsourceDuplicateKey
  rw [hnone] at hsourceDuplicateKey
  obtain ⟨sourceSeed, rfl⟩ := buildSourceDuplicateKey_digest hsourceDuplicateKey
  rw [← Except.ok.inj h]
  refine ⟨hshape.title, ?_, ?_, ?_⟩
  · change (Value.ofText (some (normalizeNoticeType item.noticeType))).asStr = some "announcement"
    rw [hshape.noticeType]
    decide
  · exact Option.isSome_iff_exists.mpr ⟨_, Value.asStr_ofText_sha256Text seed⟩
  · exact Option.isSome_iff_exists.mpr ⟨_, Value.asStr_ofText_sha256Text sourceSeed⟩

/-- The second normalisation concerns the file alone. -/
theorem normalizeAttachmentItem_eq_ok {original : Item} (h : normalizeAttachmentItem python original = .ok normalized) :
    ∃ fileUrl urlHash, normalized = { original with fileUrl := fileUrl, urlHash := urlHash } := by
  obtain ⟨normalizedUrl, -, h⟩ := bind_eq_ok.mp h
  split at h
  · exact ⟨_, _, (Except.ok.inj h).symm⟩
  · exact ⟨_, _, (Except.ok.inj h).symm⟩

/-! ## The merge -/

/-- Merging an attachment makes its notice an announcement with the attachment's keys. -/
theorem sameIdentity_applyFields_iff {fileUrl urlHash : Value} (hshape : SpiderAttachment item)
    (hnormalized : normalizeNoticeItem python item = .ok normalized)
    (hmerged : notice.applyFields python { normalized with fileUrl := fileUrl, urlHash := urlHash } = .ok merged) :
    SameIdentity notice merged ↔ notice.noticeType = "announcement" ∧
      notice.dedupKey = normalized.dedupKey.asStr ∧
      notice.sourceDuplicateKey = normalized.sourceDuplicateKey.asStr := by
  obtain ⟨htitle, htype, hdedupKey, hsourceDuplicateKey⟩ := normalized_of_spiderAttachment hshape hnormalized
  obtain ⟨published, first, latest, rfl⟩ := applyFields_eq_ok hmerged
  obtain ⟨dedupKey, hdedupKey⟩ := Option.isSome_iff_exists.mp hdedupKey
  obtain ⟨sourceDuplicateKey, hsourceDuplicateKey⟩ := Option.isSome_iff_exists.mp hsourceDuplicateKey
  have hannouncement : normalizeNoticeType (Value.ofText (some "announcement")) = "announcement" := by decide
  constructor
  · intro h
    refine ⟨?_, ?_, ?_⟩
    · simpa [TenderNotice.applyTexts, htype, hannouncement] using h.noticeType.symm
    · simpa [TenderNotice.applyTexts, hdedupKey] using h.dedupKey.symm
    · simpa [TenderNotice.applyTexts, hsourceDuplicateKey] using h.sourceDuplicateKey.symm
  · rintro ⟨hnoticeType, hkey, hsourceKey⟩
    refine ⟨?_, ?_, ?_, ?_⟩
    · simp [TenderNotice.applyTexts, htype, hannouncement, hnoticeType]
    · simp [TenderNotice.applyTexts, htitle]
    · simp [TenderNotice.applyTexts, hdedupKey, hkey]
    · simp [TenderNotice.applyTexts, hsourceDuplicateKey, hsourceKey]

/-! ## The call -/

/-- What is left of a session once it has merged its notice: it touches no notice any more. -/
structure NoticesHeld (committed : Db) (notices : List TenderNotice) (state : CallState) : Prop where
  nothingCommitted : state.committed = committed
  noticesKept : state.work.notices = notices

theorem keeps_held_update {committed : Db} {notices : List TenderNotice} {change : Db → Db}
    (h : ∀ db, (change db).notices = db.notices) : Keeps (NoticesHeld committed notices) (update change) := by
  apply keeps_update
  intro state hheld
  exact ⟨hheld.nothingCommitted, (h _).trans hheld.noticesKept⟩

/-- Storing a file leaves the notices alone. -/
theorem yields_held_storeFile {committed : Db} {notices : List TenderNotice} {sourceSiteId : ℕ}
    {urlHash fileUrl fileName : String} :
    Yields (NoticesHeld committed notices) (fun reached ↦ reached = true)
      (storeFile python conn item sourceSiteId notice urlHash fileUrl fileName) := by
  apply yields_bind_of_keeps (keeps_scalar _ _)
  intro existing
  apply yields_bind_of_keeps keeps_attachmentVersionId
  intro noticeVersionId
  apply yields_bind_of_keeps (keeps_rawDocumentIdByHash _)
  intro rawDocumentId
  apply yields_bind_of_keeps (keeps_raisePython _)
  intro fileExt
  apply yields_bind_of_keeps (keeps_raisePython _)
  intro mimeType
  have hput (written : ℕ → TenderAttachment) :
      Keeps (NoticesHeld committed notices) (putAttachment conn existing written) := by
    cases existing with
    | none => exact keeps_held_update fun _ ↦ rfl
    | some existing => exact keeps_held_update fun _ ↦ rfl
  apply yields_bind_of_keeps (hput _)
  intro _
  apply yields_bind_of_keeps (keeps_recordStats _ fun state jobs hheld ↦ ⟨hheld.nothingCommitted, hheld.noticesKept⟩)
  exact fun _ ↦ yields_pure rfl

/-- The part of `write_attachment` that comes to the notice. -/
def attachmentNotice (python : Python) (conn : Connection) (item : Item) : Call (Option (TenderNotice × Bool)) := do
  let item ← raisePython (normalizeAttachment python item)
  let sourceSiteId ← itemSourceSiteId python conn item
  resolveNotice python conn item sourceSiteId

/-- The attachment is resolved to a notice that exists. -/
def ResolvesTo (python : Python) (context : Context) (conn : Connection) (item : Item) (notice : TenderNotice) : Prop :=
  Ends (fun outcome _ ↦ outcome = .ok (some (notice, false))) (attachmentNotice python conn item) context.opened

/-- The call raises, and its transaction is rolled back. -/
def Raises (python : Python) (context : Context) (conn : Connection) (call : WriterCall) : Prop :=
  Ends (fun outcome _ ↦ ∃ error, outcome = .error error) (call.program python conn) context.opened

/-- After the session has found the source: the notice is merged, and the rest leaves it alone. -/
theorem ends_storeAttachment_of_resolved {sourceSiteId : ℕ} {state : CallState}
    (hresolved : Ends (fun outcome _ ↦ outcome = .ok (some (notice, false)))
      (resolveNotice python conn item sourceSiteId) state) :
    Ends (fun outcome after ↦ after.committed = state.committed ∧ notice ∈ state.work.notices ∧
        ∀ reached, outcome = .ok reached → reached = true ∧ ∃ merged, notice.applyFields python item = .ok merged ∧
          after.work.notices = putRow TenderNotice.id merged state.work.notices)
      (storeAttachment python conn item sourceSiteId) state := by
  have hfound : Ends (fun outcome after ↦ outcome = .ok (some (notice, false)) ∧ after = state ∧
      notice ∈ state.work.notices) (resolveNotice python conn item sourceSiteId) state := by
    have hensured := ensures_resolveNotice (some (notice, false)) hresolved
    generalize hafter : ((resolveNotice python conn item sourceSiteId).run.run state).2 = after at hensured
    refine ⟨hresolved, ?_⟩
    rw [hafter]
    cases hensured with
    | found hmem _ _ _ => exact ⟨rfl, hmem⟩
  unfold storeAttachment mergedNotice
  rw [ends_bind, ends_bind]
  apply ends_mono hfound
  rintro _ after ⟨rfl, rfl, hmem⟩
  dsimp only
  rw [ends_bind, ends_raisePython]
  cases hmerged : notice.applyFields python item with
  | error error => exact ⟨rfl, hmem, fun _ h ↦ (by cases h)⟩
  | ok merged =>
    have hrest (next : Option (String × String × String) → _) (hnone : next none = pure true)
        (hsome : ∀ urlHash fileUrl fileName, next (some (urlHash, fileUrl, fileName)) =
          storeFile python conn item sourceSiteId merged urlHash fileUrl fileName) :
        Yields (NoticesHeld after.committed (putRow TenderNotice.id merged after.work.notices))
          (fun reached ↦ reached = true) (raisePython (item.file python) >>= next) := by
      apply yields_bind_of_keeps (keeps_raisePython _)
      intro file
      cases file with
      | none =>
        rw [hnone]
        exact yields_pure rfl
      | some file =>
        rw [hsome]
        exact yields_held_storeFile
    dsimp only
    rw [ends_bind]
    unfold putNotice
    rw [ends_update]
    dsimp only
    rw [ends_pure]
    refine ends_mono (hrest _ rfl (fun _ _ _ ↦ rfl) _ ?_) ?_
    · exact ⟨rfl, rfl⟩
    rintro outcome last ⟨hheld, hreached⟩
    refine ⟨hheld.nothingCommitted, hmem, ?_⟩
    intro reached h
    exact ⟨hreached reached h, merged, rfl, hheld.noticesKept⟩

/-- A call that is resolved to a notice is rolled back, or commits the merged notice. -/
theorem ends_writeAttachment_of_resolved (hresolves : ResolvesTo python context conn item notice) :
    Ends (fun outcome after ↦ notice ∈ context.db.notices ∧ match outcome with
        | .error _ => after.committed = context.db
        | .ok _ => ∃ attachment merged, normalizeAttachment python item = .ok attachment ∧
            notice.applyFields python attachment = .ok merged ∧ after.committed.notices =
              storedRows (TenderNotice.stored conn) context.db.notices
                (putRow TenderNotice.id merged context.db.notices))
      (writeAttachment python conn item) context.opened := by
  unfold ResolvesTo attachmentNotice at hresolves
  rw [ends_bind, ends_raisePython] at hresolves
  unfold writeAttachment
  rw [ends_bind, ends_raisePython]
  cases hattachment : normalizeAttachment python item with
  | error error =>
    rw [hattachment] at hresolves
    cases hresolves
  | ok attachment =>
    rw [hattachment] at hresolves
    dsimp only at hresolves ⊢
    rw [ends_bind] at hresolves
    unfold inSession
    rw [ends_bind]
    apply ends_mono (ends_and hresolves ends_itemSourceSiteId)
    rintro outcome after ⟨hresolved, hfound⟩
    cases outcome with
    | error error => cases hresolved
    | ok sourceSiteId =>
      dsimp only at hresolved hfound ⊢
      have hcommitted : after.committed = context.db := hfound.committed_eq
      have hnotices : after.work.notices = context.db.notices := hfound.notices_eq
      rw [ends_bind]
      apply ends_mono (ends_storeAttachment_of_resolved hresolved)
      rintro stored last ⟨hkept, hmem, hreached⟩
      rw [hcommitted] at hkept
      rw [hnotices] at hmem hreached
      cases stored with
      | error error => exact ⟨hmem, hkept⟩
      | ok reached =>
        obtain ⟨rfl, merged, hmerged, hput⟩ := hreached reached rfl
        change Ends _ (commit conn) last
        rw [ends_commit]
        cases conn.refusal .commit last.work with
        | some error => exact ⟨hmem, hkept⟩
        | none =>
          refine ⟨hmem, attachment, merged, rfl, hmerged, ?_⟩
          change storedRows (TenderNotice.stored conn) last.committed.notices last.work.notices = _
          rw [hkept, hput]

/-- The database keeps the notice if and only if the merge does. -/
theorem keeps_storedRows_iff {db : Db} {before : List TenderNotice} (hmem : notice ∈ before) (hid : merged.id = notice.id)
    (hnotices : db.notices = storedRows (TenderNotice.stored conn) before (putRow TenderNotice.id merged before)) :
    db.Keeps notice ↔ SameIdentity notice merged := by
  have hrow (put : TenderNotice) (hput : put ∈ putRow TenderNotice.id merged before) :
      ∃ row ∈ db.notices, row.id = put.id ∧ SameIdentity put row := by
    rw [hnotices]
    refine ⟨_, List.mem_map_of_mem hput, ?_⟩
    split
    · exact ⟨rfl, rfl, rfl, rfl, rfl⟩
    · exact ⟨rfl, rfl, rfl, rfl, rfl⟩
  have hput (row : TenderNotice) (hmemRow : row ∈ db.notices) :
      ∃ put ∈ putRow TenderNotice.id merged before, row.id = put.id ∧ SameIdentity put row := by
    rw [hnotices] at hmemRow
    obtain ⟨put, hput, rfl⟩ := List.mem_map.mp hmemRow
    refine ⟨put, hput, ?_⟩
    split
    · exact ⟨rfl, rfl, rfl, rfl, rfl⟩
    · exact ⟨rfl, rfl, rfl, rfl, rfl⟩
  constructor
  · rintro ⟨row, hmemRow, hrowId, hkept⟩
    obtain ⟨put, hmemPut, hputId, hsame⟩ := hput row hmemRow
    have hmerged : put = merged := by
      obtain ⟨other, -, hother⟩ := List.mem_map.mp hmemPut
      split at hother
      · exact hother.symm
      · rename_i hne
        rw [hother] at hne
        exact absurd (hputId.symm.trans (hrowId.trans hid.symm)) hne
    subst hmerged
    exact ⟨hsame.noticeType.symm.trans hkept.noticeType, hsame.title.symm.trans hkept.title,
      hsame.dedupKey.symm.trans hkept.dedupKey, hsame.sourceDuplicateKey.symm.trans hkept.sourceDuplicateKey⟩
  · intro hkept
    obtain ⟨row, hmemRow, hrowId, hsame⟩ := hrow merged (mem_putRow hmem hid)
    exact ⟨row, hmemRow, hrowId.trans hid, hsame.noticeType.trans hkept.noticeType, hsame.title.trans hkept.title,
      hsame.dedupKey.trans hkept.dedupKey, hsame.sourceDuplicateKey.trans hkept.sourceDuplicateKey⟩

/-- Whether an attachment leaves its notice's type, title and keys as they were: where the call is
rolled back, or the notice has what the normalisation fills in. -/
theorem attachment_keeps_notice_iff (hshape : SpiderAttachment item)
    (hnormalized : normalizeNoticeItem python item = .ok normalized)
    (hresolves : ResolvesTo python context conn item notice) :
    (context.step python (conn, .attachment item)).db.Keeps notice ↔
      Raises python context conn (.attachment item) ∨
        (notice.noticeType = "announcement" ∧ notice.dedupKey = normalized.dedupKey.asStr ∧
          notice.sourceDuplicateKey = normalized.sourceDuplicateKey.asStr) := by
  obtain ⟨hmem, hends⟩ := ends_writeAttachment_of_resolved hresolves
  change ((writeAttachment python conn item).run.run context.opened).2.committed.Keeps notice ↔
    (∃ error, ((writeAttachment python conn item).run.run context.opened).1 = .error error) ∨ _
  generalize (writeAttachment python conn item).run.run context.opened = result at hends ⊢
  obtain ⟨outcome, after⟩ := result
  cases outcome with
  | error error =>
    have hkept : after.committed.Keeps notice := by
      rw [show after.committed = context.db from hends]
      exact ⟨notice, hmem, rfl, rfl, rfl, rfl, rfl⟩
    exact iff_of_true hkept (Or.inl ⟨error, rfl⟩)
  | ok value =>
    obtain ⟨attachment, merged, hattachment, hmerged, hnotices⟩ := hends
    obtain ⟨first, hfirst, hsecond⟩ := bind_eq_ok.mp hattachment
    obtain rfl := Except.ok.inj (hnormalized.symm.trans hfirst)
    obtain ⟨fileUrl, urlHash, rfl⟩ := normalizeAttachmentItem_eq_ok hsecond
    have hid : merged.id = notice.id := by
      obtain ⟨published, firstDate, latestDate, rfl⟩ := applyFields_eq_ok hmerged
      rfl
    rw [keeps_storedRows_iff hmem hid hnotices, sameIdentity_applyFields_iff hshape hnormalized hmerged]
    simp

end Attachment

/-! ## A notice of results and its attachment -/

/-- The digests of the keys that are made for the attachment below. -/
def attachmentDigests : Digests where
  entries := [("anhui_ggzy_zfcg|external_id|N1", "b91cb5ed43a3427cc0ccca5cd1e40c6cd4b4aefa58955286618b3c4a65ff8719"),
    ("-|2024-05-01|-|-|-|n1", "9bfb3f4043e69b2a4915722726c3fd2999119707363b83489efbced2b2f983f5"),
    ("anhui_ggzy_zfcg|announcement|n1", "b67ee59ec8b4c80678b78244631acc7ce6e0c660c8772d35128811d3a15ca6c0"),
    ("https://ggzy.ah.gov.cn/files/a.pdf", "5c1ee2fcedca46dd7b50ed5f29e0d04787a2635a147183ace4ccef930ea27825")]
  stripped := by decide +kernel

/-- An attachment as the spider of Anhui emits it. -/
def resultAttachment : Item where
  sourceCode := some (.str "anhui_ggzy_zfcg")
  noticeDedupHash := some (.str "d379ff5e698b6de2535be1042b37d14be454b4e4c9c24d238549a6a43ae26090")
  noticeExternalId := some (.str "N1")
  fileName := some (.str "a.pdf")
  attachmentType := some (.str "notice_file")
  fileUrl := some (.str "https://ggzy.ah.gov.cn/files/a.pdf")
  fileExt := some (.str "pdf")
  publishedAt := some (.str "2024-05-01T00:00:00+00:00")
  sourceUrl := some (.str "https://ggzy.ah.gov.cn/detail/1")

/-- The notice of the attachment, with the type and the keys given. -/
def storedNotice (noticeType dedupKey sourceDuplicateKey : String) : TenderNotice where
  id := 1
  sourceSiteId := 1
  externalId := some "N1"
  projectCode := none
  dedupHash := some "d379ff5e698b6de2535be1042b37d14be454b4e4c9c24d238549a6a43ae26090"
  dedupKey := some dedupKey
  sourceDuplicateKey := some sourceDuplicateKey
  title := "Road works"
  noticeType := noticeType
  issuer := none
  region := none
  publishedAt := none
  deadlineAt := none
  budgetAmount := none
  budgetCurrency := "CNY"
  summary := none
  firstPublishedAt := none
  latestPublishedAt := none
  currentVersionId := none

/-- The notice of results, as its spider has stored it. -/
def resultNotice : TenderNotice :=
  storedNotice "result" "b11cbec15cbfaeae79f923c6874bafb2d9aaaec48cbf2a67d53cffe7c696a638"
    "e2aab1e814fd8e21bcd4defd0d6842e2dbd9c6434dde43be66430a433e4599ac"

/-- A database of one source and one notice, as a crawler process finds it. -/
def noticeContext (notice : TenderNotice) : Context :=
  ⟨[], { emptyDb with
    sources := [newSourceSite 1 "anhui_ggzy_zfcg" none "https://ggzy.ah.gov.cn"]
    notices := [notice] }⟩

/-- The keys that the normalisation makes for the attachment. -/
def attachmentDedupKey : String := "9bfb3f4043e69b2a4915722726c3fd2999119707363b83489efbced2b2f983f5"
def attachmentSourceDuplicateKey : String := "b67ee59ec8b4c80678b78244631acc7ce6e0c660c8772d35128811d3a15ca6c0"

/-- An attachment with the keys of its notice changes nothing of the notice. -/
theorem attachment_keeps_notice_iff_merged :
    ((noticeContext (storedNotice "announcement" attachmentDedupKey attachmentSourceDuplicateKey)).step
      (plainPython attachmentDigests) (sqlite epoch, .attachment resultAttachment)).db.Keeps
        (storedNotice "announcement" attachmentDedupKey attachmentSourceDuplicateKey) := by
  have hkeys : (normalizeNoticeItem (plainPython attachmentDigests) resultAttachment).map
      (fun item ↦ (item.dedupKey.asStr, item.sourceDuplicateKey.asStr)) =
        .ok (some attachmentDedupKey, some attachmentSourceDuplicateKey) := by decide +kernel
  have hresolves : ResolvesTo (plainPython attachmentDigests)
      (noticeContext (storedNotice "announcement" attachmentDedupKey attachmentSourceDuplicateKey)) (sqlite epoch)
      resultAttachment (storedNotice "announcement" attachmentDedupKey attachmentSourceDuplicateKey) := by
    unfold ResolvesTo Ends
    decide +kernel
  cases hnormalized : normalizeNoticeItem (plainPython attachmentDigests) resultAttachment with
  | error error =>
    rw [hnormalized] at hkeys
    cases hkeys
  | ok normalized =>
    rw [hnormalized] at hkeys
    obtain ⟨hdedupKey, hsourceDuplicateKey⟩ := Prod.mk.inj (Except.ok.inj hkeys)
    exact (attachment_keeps_notice_iff ⟨rfl, rfl, rfl, rfl⟩ hnormalized hresolves).mpr
      (Or.inr ⟨rfl, hdedupKey.symm, hsourceDuplicateKey.symm⟩)

/-- A notice of results becomes an announcement when its attachment is stored. -/
theorem attachment_reclassifies_result :
    SpiderAttachment resultAttachment ∧
      ResolvesTo (plainPython attachmentDigests) (noticeContext (resultNotice)) (sqlite epoch)
        resultAttachment (resultNotice) ∧
      ¬ ((noticeContext (resultNotice)).step (plainPython attachmentDigests)
        (sqlite epoch, .attachment resultAttachment)).db.Keeps (resultNotice) := by
  refine ⟨⟨rfl, rfl, rfl, rfl⟩, ?_, ?_⟩
  · unfold ResolvesTo Ends
    decide +kernel
  · have hrows : ∀ row ∈ ((noticeContext (resultNotice)).step (plainPython attachmentDigests)
        (sqlite epoch, .attachment resultAttachment)).db.notices, row.noticeType = "announcement" := by decide +kernel
    rintro ⟨row, hrow, -, hkept⟩
    exact absurd ((hrows row hrow).symm.trans hkept.noticeType) (by decide)

end TenderPhase1.Crawler
