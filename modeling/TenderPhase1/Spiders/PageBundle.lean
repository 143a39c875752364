import TenderPhase1.Spiders.GgzyGovCnDeal

/-!
# The bundle of a page

What the spiders emit for a page with a notice on it, in this order: the raw document,
the notice, its version, and its attachments. Three spiders make such bundles, each
with its own keys; one of them numbers its attachments' version.
-/

namespace TenderPhase1.Spiders

open PyText Crawler Jobs GgzyGovCnDeal

/-- `ParsedAttachment` of the parsers -/
structure ParsedAttachment where
  fileName : String
  fileUrl : String
  attachmentType : String := "notice_file"
  mimeType : Option String := none
  fileHash : Option String := none
  fileSizeBytes : Option ℤ := none
  storageUri : Option String := none

/-- A response as the spiders read it: `title` is what the selector of the spider finds first,
`contentType` the decoded header. -/
structure TextResponse where
  url : String
  text : String
  status : ℤ
  contentType : String
  encoding : String
  title : Option String
  /-- `response.urljoin`, which raises where the URL cannot be split. -/
  urljoin : String → Except PyError String

structure PageBundle where
  rawDocument : Item
  notice : Item
  version : Item
  attachments : List Item

section Parts

variable (python : Python) (crawlJobId : Value)

/-- `file_name.rsplit(".", maxsplit=1)[-1] if "." in file_name else None` -/
def fileExt (fileName : String) : Option String := if contains fileName "." then some (afterLast '.' fileName) else none

/-- The hash of a notice whose spider makes it from the id, the title and the URL. -/
def titleDedupHash (sourceCode : String) (parsed : ParsedNotice) (normalizedUrl : String) : String :=
  let externalId := parsed.externalId.getD ""
  python.sha256Text s!"{sourceCode}|{externalId}|{parsed.title}|{normalizedUrl}"

def rawDocumentItem (sourceCode : String) (response : TextResponse) (rawUrl normalizedUrl : String)
    (title : Option String) (fetchedAt : DateTime) (sourceDuplicateKey sourceListItemFingerprint : Option String)
    (extraMeta : Mapping) : Item where
  sourceCode := some (.str sourceCode)
  crawlJobId := crawlJobId
  url := some (.str rawUrl)
  normalizedUrl := some (.str normalizedUrl)
  urlHash := some (.str (python.sha256Text normalizedUrl))
  contentHash := some (.str (python.sha256Text response.text))
  documentType := some (.str "html")
  fetchedAt := some (.str (python.isoformat fetchedAt))
  storageUri := some (.str "")
  rawBody := some (.str response.text)
  httpStatus := some (.ofInt response.status)
  mimeType := some (.str response.contentType)
  charset := some (.str response.encoding)
  title := Value.ofText title
  contentLength := some (.ofInt response.text.utf8ByteSize)
  sourceDuplicateKey := Value.ofText sourceDuplicateKey
  sourceListItemFingerprint := Value.ofText sourceListItemFingerprint
  extraMeta := some extraMeta

/-- An attachment item, of which the spiders choose the hash of the notice, the number of the version,
the name, the URL and its hash. -/
def attachmentItem (sourceCode dedupHash : String) (externalId : Option String) (noticeVersionNo : Value)
    (attachment : ParsedAttachment) (fileName fileUrl urlHash : String) (publishedAt : Option String)
    (sourceUrl : String) : Item where
  sourceCode := some (.str sourceCode)
  crawlJobId := crawlJobId
  noticeDedupHash := some (.str dedupHash)
  noticeExternalId := Value.ofText externalId
  noticeVersionNo := noticeVersionNo
  fileName := some (.str fileName)
  attachmentType := some (.str attachment.attachmentType)
  fileUrl := some (.str fileUrl)
  urlHash := some (.str urlHash)
  fileHash := Value.ofText attachment.fileHash
  storageUri := Value.ofText attachment.storageUri
  mimeType := Value.ofText attachment.mimeType
  fileExt := Value.ofText (fileExt fileName)
  fileSizeBytes := attachment.fileSizeBytes.map PyObject.ofInt
  publishedAt := Value.ofText publishedAt
  sourceUrl := some (.str sourceUrl)

/-- `attachment.file_name or file_url.rsplit("/", maxsplit=1)[-1] or "attachment"` -/
def ParsedAttachment.writtenName (attachment : ParsedAttachment) (fileUrl : String) : String :=
  ((nonEmpty attachment.fileName) <|> nonEmpty (afterLast '/' fileUrl)).getD "attachment"

end Parts

/-! ## Base spider -/

namespace BaseSourceSpider

section Items

variable (python : Python) (sourceCode : String) (crawlJobId : Value) (parsed : ParsedNotice)

def noticeItem (response : TextResponse) (dedupHash : String) : Item where
  sourceCode := some (.str sourceCode)
  crawlJobId := crawlJobId
  externalId := Value.ofText parsed.externalId
  projectCode := Value.ofText parsed.projectCode
  dedupHash := some (.str dedupHash)
  title := some (.str parsed.title)
  noticeType := some (.str parsed.noticeType)
  issuer := Value.ofText parsed.issuer
  region := Value.ofText parsed.region
  publishedAt := Value.ofText (parsed.publishedAt.map python.isoformat)
  deadlineAt := Value.ofText (parsed.deadlineAt.map python.isoformat)
  budgetAmount := Value.ofText parsed.budgetAmount
  budgetCurrency := some (.str parsed.budgetCurrency)
  summary := Value.ofText parsed.summary
  sourceUrl := some (.str response.url)
  rawContentHash := some (.str (python.sha256Text response.text))

def versionItem (response : TextResponse) (dedupHash urlHash : String) : Item where
  sourceCode := some (.str sourceCode)
  crawlJobId := crawlJobId
  noticeDedupHash := some (.str dedupHash)
  noticeExternalId := Value.ofText parsed.externalId
  versionNo := some (.ofInt 1)
  isCurrent := some (.ofBool true)
  contentHash := some (.str (python.sha256Text response.text))
  title := some (.str parsed.title)
  noticeType := some (.str parsed.noticeType)
  issuer := Value.ofText parsed.issuer
  region := Value.ofText parsed.region
  publishedAt := Value.ofText (parsed.publishedAt.map python.isoformat)
  deadlineAt := Value.ofText (parsed.deadlineAt.map python.isoformat)
  budgetAmount := Value.ofText parsed.budgetAmount
  budgetCurrency := some (.str parsed.budgetCurrency)
  structuredData := some parsed.structuredData
  changeSummary := Value.ofText parsed.changeSummary
  rawDocumentUrlHash := some (.str urlHash)

/-- The attachments name the version by the number that the spider gave it. -/
def attachmentItem (response : TextResponse) (dedupHash : String) (attachment : ParsedAttachment) :
    Except PyError Item := do
  let fileUrl ← response.urljoin attachment.fileUrl
  let normalizedUrl ← normalizeUrl python fileUrl
  return Spiders.attachmentItem crawlJobId sourceCode dedupHash parsed.externalId (some (.ofInt 1)) attachment
    attachment.fileName fileUrl (python.sha256Text normalizedUrl) (parsed.publishedAt.map python.isoformat) response.url

/-- `parse` of a page that the parser of the spider has parsed -/
def parse (response : TextResponse) (fetchedAt : DateTime) (attachments : List ParsedAttachment) :
    Except PyError PageBundle := do
  let normalizedUrl ← normalizeUrl python response.url
  let urlHash := python.sha256Text normalizedUrl
  let dedupHash := titleDedupHash python sourceCode parsed normalizedUrl
  let attachmentItems ← attachments.mapM (attachmentItem python sourceCode crawlJobId parsed response dedupHash)
  return {
    rawDocument := rawDocumentItem python crawlJobId sourceCode response response.url normalizedUrl
      (nonEmpty (strip (response.title.getD ""))) fetchedAt none none [("source_url", some (.str response.url))]
    notice := noticeItem python sourceCode crawlJobId parsed response dedupHash
    version := versionItem python sourceCode crawlJobId parsed response dedupHash urlHash
    attachments := attachmentItems }

end Items

end BaseSourceSpider

/-! ## The spider of the Anhui platform -/

namespace AnhuiGgzyZfcg

def sourceCode : String := "anhui_ggzy_zfcg"

/-- What `parse_bulletin` knows of the notice from the pages before. -/
structure BulletinRequest where
  guid : String
  detailUrl : String
  listPageUrl : String
  listItemPublishedAt : Option String
  listItemRegion : Option String
  listItemNoticeType : Option String
  sourceListItemFingerprint : Option String
  listSourceDuplicateKey : Option String

section Items

variable (python : Python) (crawlJobId : Value) (request : BulletinRequest) (parsed : ParsedNotice)

/-- `parsed.published_at or list_item_published_at`; the text of a datetime is not read. -/
def publishedValue : Value :=
  (parsed.publishedAt.map fun moment ↦ PyObject.datetime (python.isoformat moment) moment).or
    (Value.ofText (request.listItemPublishedAt.bind nonEmpty))

def normalizedPublishedDate : Except PyError (Option String) :=
  match publishedValue python request parsed with
  | none => .ok none
  | some value => normalizePublishedDate python (some value)

def publishDateToIsoDatetime (value : Option String) : Except PyError (Option String) := do
  let normalized ← normalizePublishedDate python (Value.ofText value)
  return normalized.map (· ++ "T00:00:00+00:00")

def resolvedPublishedAt (publishedDate : Option String) : Except PyError (Option String) :=
  match parsed.publishedAt with
  | some moment => .ok (some (python.isoformat moment))
  | none => publishDateToIsoDatetime python publishedDate

def resolvedRegion : Option String := parsed.region.bind nonEmpty <|> request.listItemRegion

def resolvedNoticeType : Option String := nonEmpty parsed.noticeType <|> request.listItemNoticeType

def keyFields (publishedDate : Option String) : KeyFields where
  title := some (.str parsed.title)
  publishedAt := Value.ofText publishedDate
  purchaser := none
  publisher := none
  budgetAmount := Value.ofText parsed.budgetAmount
  region := Value.ofText (resolvedRegion request parsed)
  detailUrl := some (.str request.detailUrl)
  detailId := some (.str request.guid)

def resolvedSourceDuplicateKey (publishedDate : Option String) : Except PyError String :=
  match request.listSourceDuplicateKey.bind nonEmpty with
  | some key => .ok key
  | none =>
      buildSourceDuplicateKey python (some (.str sourceCode)) (Value.ofText (resolvedNoticeType request parsed))
        (Value.ofText parsed.issuer) (keyFields request parsed publishedDate)

def persistenceDedupKey (publishedDate : Option String) : Except PyError String :=
  buildPersistenceDedupKey python
    { keyFields request parsed publishedDate with publisher := Value.ofText parsed.issuer }

/-- The keys and the date that the items of a bulletin share. -/
structure Resolved where
  publishedAt : Option String
  sourceDuplicateKey : String
  dedupKey : String
  dedupHash : String

def resolve : Except PyError Resolved := do
  let publishedDate ← normalizedPublishedDate python request parsed
  let publishedAt ← resolvedPublishedAt python parsed publishedDate
  let sourceDuplicateKey ← resolvedSourceDuplicateKey python request parsed publishedDate
  let dedupKey ← persistenceDedupKey python request parsed publishedDate
  let normalizedUrl ← normalizeUrl python request.detailUrl
  return ⟨publishedAt, sourceDuplicateKey, dedupKey, titleDedupHash python sourceCode parsed normalizedUrl⟩

def noticeItem (response : TextResponse) (resolved : Resolved) : Item where
  sourceCode := some (.str sourceCode)
  crawlJobId := crawlJobId
  externalId := Value.ofText parsed.externalId
  projectCode := Value.ofText parsed.projectCode
  dedupHash := some (.str resolved.dedupHash)
  dedupKey := some (.str resolved.dedupKey)
  sourceDuplicateKey := some (.str resolved.sourceDuplicateKey)
  sourceListItemFingerprint := Value.ofText request.sourceListItemFingerprint
  title := some (.str parsed.title)
  noticeType := Value.ofText (resolvedNoticeType request parsed)
  issuer := Value.ofText parsed.issuer
  region := Value.ofText (resolvedRegion request parsed)
  publishedAt := Value.ofText resolved.publishedAt
  deadlineAt := Value.ofText (parsed.deadlineAt.map python.isoformat)
  budgetAmount := Value.ofText parsed.budgetAmount
  budgetCurrency := some (.str parsed.budgetCurrency)
  summary := Value.ofText parsed.summary
  sourceSiteName := Value.ofText parsed.sourceSiteName
  sourceSiteUrl := Value.ofText parsed.sourceSiteUrl
  listPageUrl := Value.ofText parsed.listPageUrl
  detailPageUrl := Value.ofText parsed.detailPageUrl
  contentText := Value.ofText parsed.contentText
  sourceUrl := some (.str request.detailUrl)
  rawContentHash := some (.str (python.sha256Text response.text))

def versionItem (response : TextResponse) (resolved : Resolved) (bulletinUrlHash : String) : Item where
  sourceCode := some (.str sourceCode)
  crawlJobId := crawlJobId
  noticeDedupHash := some (.str resolved.dedupHash)
  noticeExternalId := Value.ofText parsed.externalId
  dedupKey := some (.str resolved.dedupKey)
  sourceDuplicateKey := some (.str resolved.sourceDuplicateKey)
  sourceListItemFingerprint := Value.ofText request.sourceListItemFingerprint
  versionNo := some (.ofInt 1)
  isCurrent := some (.ofBool true)
  contentHash := some (.str (python.sha256Text response.text))
  title := some (.str parsed.title)
  noticeType := Value.ofText (resolvedNoticeType request parsed)
  issuer := Value.ofText parsed.issuer
  region := Value.ofText (resolvedRegion request parsed)
  publishedAt := Value.ofText resolved.publishedAt
  deadlineAt := Value.ofText (parsed.deadlineAt.map python.isoformat)
  budgetAmount := Value.ofText parsed.budgetAmount
  budgetCurrency := some (.str parsed.budgetCurrency)
  sourceSiteName := Value.ofText parsed.sourceSiteName
  sourceSiteUrl := Value.ofText parsed.sourceSiteUrl
  listPageUrl := Value.ofText parsed.listPageUrl
  detailPageUrl := Value.ofText parsed.detailPageUrl
  contentText := Value.ofText parsed.contentText
  structuredData := some parsed.structuredData
  changeSummary := Value.ofText parsed.changeSummary
  rawDocumentUrlHash := some (.str bulletinUrlHash)

def attachmentItem (response : TextResponse) (resolved : Resolved) (attachment : ParsedAttachment) :
    Except PyError Item := do
  let fileUrl ← response.urljoin attachment.fileUrl
  let normalizedUrl ← normalizeUrl python fileUrl
  return Spiders.attachmentItem crawlJobId sourceCode resolved.dedupHash parsed.externalId none attachment
    (attachment.writtenName fileUrl) fileUrl (python.sha256Text normalizedUrl) resolved.publishedAt request.detailUrl

/-- The URL under which the page of a bulletin is stored: the page itself has none of its own. -/
def BulletinRequest.bulletinUrl : String := request.detailUrl ++ "&subType=bulletin"

/-- `parse_bulletin` of a page that the parser has parsed -/
def parseBulletin (response : TextResponse) (fetchedAt : DateTime) (attachments : List ParsedAttachment) :
    Except PyError PageBundle := do
  let bulletinUrl ← normalizeUrl python request.bulletinUrl
  let resolved ← resolve python request parsed
  let attachmentItems ← attachments.mapM (attachmentItem python crawlJobId request parsed response resolved)
  return {
    rawDocument := rawDocumentItem python crawlJobId sourceCode response request.bulletinUrl bulletinUrl
      (nonEmpty (collapseSpaces (response.title.getD ""))) fetchedAt request.listSourceDuplicateKey
      request.sourceListItemFingerprint
      [("role", some (.str "detail_sub_bulletin")), ("guid", some (.str request.guid)),
        ("detail_page_url", some (.str request.detailUrl)), ("list_page_url", some (.str request.listPageUrl))]
    notice := noticeItem python crawlJobId request parsed response resolved
    version := versionItem python crawlJobId request parsed response resolved (python.sha256Text bulletinUrl)
    attachments := attachmentItems }

end Items

end AnhuiGgzyZfcg

/-! ## The spider of the national platform -/

namespace GgzyGovCnDeal

section Items

variable (python : Python) (crawlJobId : Value) (record : GgzyGovCnDealListRecord) (listPageUrl : String)
  (parsed : ParsedNotice)

def attachmentItem (response : TextResponse) (attachment : ParsedAttachment) : Except PyError Item := do
  let joinedUrl ← response.urljoin attachment.fileUrl
  let fileUrl ← normalizeUrl python joinedUrl
  return Spiders.attachmentItem crawlJobId sourceCode (dedupHash python record.sourceDuplicateKey) parsed.externalId
    none attachment (attachment.writtenName fileUrl) fileUrl (python.sha256Text fileUrl)
    (parsed.publishedAtText python record) response.url

/-- `parse_detail` of a page that the parser has parsed -/
def parseDetail (response : TextResponse) (fetchedAt : DateTime) (texts : List String)
    (attachments : List ParsedAttachment) : Except PyError PageBundle := do
  let normalizedUrl ← normalizeUrl python response.url
  let page : DetailPage := ⟨response.url, response.text, response.title, texts⟩
  let version ← detailVersionItem python crawlJobId record page parsed
  let attachmentItems ← attachments.mapM (attachmentItem python crawlJobId record parsed response)
  return {
    rawDocument := rawDocumentItem python crawlJobId sourceCode response response.url normalizedUrl
      (nonEmpty (collapseSpaces (response.title.getD ""))) fetchedAt (some record.sourceDuplicateKey)
      (some record.sourceListItemFingerprint)
      [("role", some (.str "detail")), ("list_page_url", some (.str listPageUrl)),
        ("detail_page_url", some (.str response.url)), ("external_id", Value.ofText record.externalId),
        ("title", some (.str record.title)), ("province", Value.ofText record.province),
        ("source_platform", Value.ofText record.sourcePlatform), ("notice_type", some (.str record.noticeType))]
    notice := detailNoticeItem python crawlJobId record page parsed
    version := version
    attachments := attachmentItems }

end Items

end GgzyGovCnDeal

/-- The bundles that the spiders emit for a page with the text, whatever the record and the parser give them. -/
inductive Emits (python : Python) (text : String) : PageBundle → Prop where
  | parse {sourceCode : String} {crawlJobId : Value} {parsed : ParsedNotice} {response : TextResponse}
      {fetchedAt : DateTime} {attachments : List ParsedAttachment} {bundle : PageBundle} (htext : response.text = text)
      (h : BaseSourceSpider.parse python sourceCode crawlJobId parsed response fetchedAt attachments = .ok bundle) :
      Emits python text bundle
  | parseBulletin {crawlJobId : Value} {request : AnhuiGgzyZfcg.BulletinRequest} {parsed : ParsedNotice}
      {response : TextResponse} {fetchedAt : DateTime} {attachments : List ParsedAttachment} {bundle : PageBundle}
      (htext : response.text = text)
      (h : AnhuiGgzyZfcg.parseBulletin python crawlJobId request parsed response fetchedAt attachments = .ok bundle) :
      Emits python text bundle
  | parseDetail {crawlJobId : Value} {record : GgzyGovCnDealListRecord} {listPageUrl : String} {parsed : ParsedNotice}
      {response : TextResponse} {fetchedAt : DateTime} {texts : List String} {attachments : List ParsedAttachment}
      {bundle : PageBundle} (htext : response.text = text)
      (h : GgzyGovCnDeal.parseDetail python crawlJobId record listPageUrl parsed response fetchedAt texts attachments =
        .ok bundle) : Emits python text bundle

/-- The calls of the writers for a bundle, up to its raw document. -/
def PageBundle.calls (bundle : PageBundle) : List WriterCall :=
  .notice bundle.notice :: .noticeVersion bundle.version :: bundle.attachments.map .attachment

/-- What the items of a bundle have in common: the source, the hash of the notice, and in the version
the hash of the page. The attachments have one number for the version, or none. -/
structure PageBundle.Shape (bundle : PageBundle) (sourceCode dedupHash contentHash : String)
    (noticeVersionNo : Value) : Prop where
  versionSource : bundle.version.writtenSourceCode = sourceCode
  versionHash : bundle.version.resolvedDedupHash = some dedupHash
  versionContent : bundle.version.contentHash = some (.str contentHash)
  versionCurrent : bundle.version.isCurrent = some (.ofBool true)
  attachmentSource : ∀ item ∈ bundle.attachments, item.writtenSourceCode = sourceCode
  attachmentHash : ∀ item ∈ bundle.attachments, item.resolvedDedupHash = some dedupHash
  attachmentNumber : ∀ item ∈ bundle.attachments, item.noticeVersionNo = noticeVersionNo

section Shape

variable {python : Python} {text : String} {bundle : PageBundle}

/-- Each result comes from one of the sources. -/
theorem mapM_mem {Source Result : Type} {make : Source → Except PyError Result} {sources : List Source}
    {results : List Result} (h : sources.mapM make = .ok results) {result : Result} (hresult : result ∈ results) :
    ∃ source ∈ sources, make source = .ok result := by
  induction sources generalizing results with
  | nil =>
    rw [List.mapM_nil] at h
    rw [← Except.ok.inj h] at hresult
    exact absurd hresult List.not_mem_nil
  | cons source sources ih =>
    rw [List.mapM_cons] at h
    obtain ⟨first, hfirst, h⟩ := bind_eq_ok.mp h
    obtain ⟨rest, hrest, h⟩ := bind_eq_ok.mp h
    rw [← Except.ok.inj h] at hresult
    rcases List.mem_cons.mp hresult with rfl | hmem
    · exact ⟨source, List.mem_cons_self, hfirst⟩
    · obtain ⟨found, hfound, hmake⟩ := ih hrest hmem
      exact ⟨found, List.mem_cons_of_mem _ hfound, hmake⟩

/-- The hash that a spider gives to its items is the one that the writers read. -/
theorem resolvedDedupHash_digest {item : Item} {seed : String} (hnone : item.dedupHash = none)
    (hhash : item.noticeDedupHash = some (.str (python.sha256Text seed))) :
    item.resolvedDedupHash = some (python.sha256Text seed) := by
  unfold Item.resolvedDedupHash
  rw [hnone, hhash]
  exact python.asStr_sha256Text seed

theorem dedupHash_resolve {request : AnhuiGgzyZfcg.BulletinRequest} {parsed : ParsedNotice}
    {resolved : AnhuiGgzyZfcg.Resolved} (h : AnhuiGgzyZfcg.resolve python request parsed = .ok resolved) :
    ∃ seed, resolved.dedupHash = python.sha256Text seed := by
  obtain ⟨publishedDate, -, h⟩ := bind_eq_ok.mp h
  obtain ⟨publishedAt, -, h⟩ := bind_eq_ok.mp h
  obtain ⟨sourceDuplicateKey, -, h⟩ := bind_eq_ok.mp h
  obtain ⟨dedupKey, -, h⟩ := bind_eq_ok.mp h
  obtain ⟨normalizedUrl, -, h⟩ := bind_eq_ok.mp h
  rw [← Except.ok.inj h]
  exact ⟨_, rfl⟩

/-- What an attachment item says of its notice. -/
structure NamesNotice (sourceCode dedupHash : String) (noticeVersionNo : Value) (item : Item) : Prop where
  source : item.writtenSourceCode = sourceCode
  hash : item.resolvedDedupHash = some dedupHash
  number : item.noticeVersionNo = noticeVersionNo

theorem namesNotice_attachmentItem {crawlJobId noticeVersionNo : Value} {sourceCode seed : String}
    {externalId : Option String} {attachment : ParsedAttachment} {fileName fileUrl urlHash : String}
    {publishedAt : Option String} {sourceUrl : String} :
    NamesNotice ((asStr (some sourceCode)).getD "unknown_source") (python.sha256Text seed) noticeVersionNo
      (attachmentItem crawlJobId sourceCode (python.sha256Text seed) externalId noticeVersionNo attachment fileName
        fileUrl urlHash publishedAt sourceUrl) where
  source := rfl
  hash := resolvedDedupHash_digest rfl rfl
  number := rfl

/-- A bundle whose attachments are made one by one has the shape where each of them names the notice. -/
theorem shape_of_mapM {Source : Type} {make : Source → Except PyError Item} {sources : List Source}
    {sourceCode dedupHash contentHash : String} {noticeVersionNo : Value}
    (hattachments : sources.mapM make = .ok bundle.attachments)
    (hmake : ∀ source item, make source = .ok item → NamesNotice sourceCode dedupHash noticeVersionNo item)
    (hsource : bundle.version.writtenSourceCode = sourceCode)
    (hhash : bundle.version.resolvedDedupHash = some dedupHash)
    (hcontent : bundle.version.contentHash = some (.str contentHash))
    (hcurrent : bundle.version.isCurrent = some (.ofBool true)) :
    bundle.Shape sourceCode dedupHash contentHash noticeVersionNo := by
  have hnames (item : Item) (hitem : item ∈ bundle.attachments) :
      NamesNotice sourceCode dedupHash noticeVersionNo item := by
    obtain ⟨source, -, hmade⟩ := mapM_mem hattachments hitem
    exact hmake source item hmade
  exact ⟨hsource, hhash, hcontent, hcurrent, fun item hitem ↦ (hnames item hitem).source,
    fun item hitem ↦ (hnames item hitem).hash, fun item hitem ↦ (hnames item hitem).number⟩

/-- Every bundle has the shape; its attachments name the first version, or none. -/
theorem Emits.shape (h : Emits python text bundle) :
    ∃ sourceCode dedupHash noticeVersionNo, bundle.Shape sourceCode dedupHash (python.sha256Text text) noticeVersionNo ∧
      (noticeVersionNo = none ∨ noticeVersionNo = some (.ofInt 1)) := by
  cases h with
  | parse htext h =>
    obtain ⟨normalizedUrl, -, h⟩ := bind_eq_ok.mp h
    obtain ⟨items, hitems, h⟩ := bind_eq_ok.mp h
    subst htext
    rw [← Except.ok.inj h]
    refine ⟨_, _, some (.ofInt 1), shape_of_mapM hitems ?_ rfl (resolvedDedupHash_digest rfl rfl) rfl rfl, Or.inr rfl⟩
    intro attachment item hmake
    obtain ⟨fileUrl, -, hmake⟩ := bind_eq_ok.mp hmake
    obtain ⟨fileNormalized, -, hmake⟩ := bind_eq_ok.mp hmake
    rw [← Except.ok.inj hmake]
    exact namesNotice_attachmentItem
  | parseBulletin htext h =>
    obtain ⟨bulletinUrl, -, h⟩ := bind_eq_ok.mp h
    obtain ⟨resolved, hresolved, h⟩ := bind_eq_ok.mp h
    obtain ⟨items, hitems, h⟩ := bind_eq_ok.mp h
    obtain ⟨seed, hseed⟩ := dedupHash_resolve hresolved
    subst htext
    rw [← Except.ok.inj h]
    refine ⟨_, resolved.dedupHash, none, shape_of_mapM hitems ?_ rfl ?_ rfl rfl, Or.inl rfl⟩
    · intro attachment item hmake
      obtain ⟨fileUrl, -, hmake⟩ := bind_eq_ok.mp hmake
      obtain ⟨fileNormalized, -, hmake⟩ := bind_eq_ok.mp hmake
      rw [← Except.ok.inj hmake, hseed]
      exact namesNotice_attachmentItem
    · rw [hseed]
      apply resolvedDedupHash_digest rfl
      rw [← hseed]
      rfl
  | parseDetail htext h =>
    obtain ⟨normalizedUrl, -, h⟩ := bind_eq_ok.mp h
    obtain ⟨version, hversion, h⟩ := bind_eq_ok.mp h
    obtain ⟨items, hitems, h⟩ := bind_eq_ok.mp h
    obtain ⟨rawDocumentUrl, -, hversion⟩ := bind_eq_ok.mp hversion
    subst htext
    rw [← Except.ok.inj h, ← Except.ok.inj hversion]
    refine ⟨_, _, none, shape_of_mapM hitems ?_ rfl (resolvedDedupHash_digest rfl rfl) rfl rfl, Or.inl rfl⟩
    intro attachment item hmake
    obtain ⟨joinedUrl, -, hmake⟩ := bind_eq_ok.mp hmake
    obtain ⟨fileUrl, -, hmake⟩ := bind_eq_ok.mp hmake
    rw [← Except.ok.inj hmake]
    exact namesNotice_attachmentItem

end Shape

end TenderPhase1.Spiders
