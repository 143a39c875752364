import TenderPhase1.Crawler.CurrentVersion

/-!
# The spider of the national trading platform

The items that `GgzyGovCnDealSpider` makes of one record of its list: a notice and
a draft version from the list itself, and a notice and a version from the detail
page, where the page comes and can be parsed.
-/

namespace TenderPhase1.Spiders.GgzyGovCnDeal

open PyText Crawler Jobs

/-! ## Records of the list -/

structure GgzyGovCnDealListRecord where
  title : String
  normalizedTitle : Option String
  publishedDate : Option String
  publishedAtIso : Option String
  province : Option String
  sourcePlatform : Option String
  issuer : Option String
  noticeType : String
  detailUrl : Option String
  normalizedDetailUrl : Option String
  externalId : Option String
  sourceDuplicateKey : String
  sourceListItemFingerprint : String
  listItemContentHash : String
  listItemRaw : PyObject

/-- A record as `parse_list_record` returns it: there is no record without a title, and the key and
the hash are digests. -/
structure ParsedRecord extends GgzyGovCnDealListRecord where
  title_stripped : asStr (some title) = some title
  sourceDuplicateKey_stripped : asStr (some sourceDuplicateKey) = some sourceDuplicateKey
  listItemContentHash_stripped : asStr (some listItemContentHash) = some listItemContentHash

def sourceCode : String := "ggzy_gov_cn_deal"

def listApiUrl : String := "https://www.ggzy.gov.cn/information/pubTradingInfo/getTradList"

/-- `parser.source_site_name` and `parser.source_site_url` -/
def sourceSiteName : String := "全国公共资源交易平台（政府采购）"
def sourceSiteUrl : String := "https://www.ggzy.gov.cn/"

section Items

variable (python : Python) (crawlJobId : Value) (record : GgzyGovCnDealListRecord) (listPageUrl : String)

/-- The `dedup_hash` of a record, which only its key goes into -/
def dedupHash (sourceDuplicateKey : String) : String :=
  python.sha256Text s!"{sourceCode}|{sourceDuplicateKey}"

def buildListNoticeItem : Item where
  sourceCode := some (.str sourceCode)
  crawlJobId := crawlJobId
  externalId := Value.ofText record.externalId
  projectCode := none
  dedupHash := some (.str (dedupHash python record.sourceDuplicateKey))
  dedupKey := some (.str record.sourceDuplicateKey)
  sourceDuplicateKey := some (.str record.sourceDuplicateKey)
  sourceListItemFingerprint := some (.str record.sourceListItemFingerprint)
  title := some (.str record.title)
  noticeType := some (.str record.noticeType)
  issuer := Value.ofText record.issuer
  region := Value.ofText record.province
  publishedAt := Value.ofText record.publishedAtIso
  deadlineAt := none
  budgetAmount := none
  budgetCurrency := some (.str "CNY")
  summary := none
  sourceSiteName := some (.str sourceSiteName)
  sourceSiteUrl := some (.str sourceSiteUrl)
  listPageUrl := some (.str listPageUrl)
  detailPageUrl := Value.ofText record.detailUrl
  contentText := none
  sourceUrl := (Value.ofText record.detailUrl).or (some (.str listPageUrl))
  rawContentHash := some (.str record.listItemContentHash)

/-- The page behind the draft: the detail page, or the page of the list. -/
def GgzyGovCnDealListRecord.rawDocumentUrl : String :=
  (record.detailUrl.bind nonEmpty).getD s!"{listApiUrl}?list_page={listPageUrl}"

def buildListVersionItem : Except PyError Item := do
  let rawDocumentUrl ← normalizeUrl python (record.rawDocumentUrl listPageUrl)
  return {
    sourceCode := some (.str sourceCode)
    crawlJobId := crawlJobId
    noticeDedupHash := some (.str (dedupHash python record.sourceDuplicateKey))
    noticeExternalId := Value.ofText record.externalId
    dedupKey := some (.str record.sourceDuplicateKey)
    sourceDuplicateKey := some (.str record.sourceDuplicateKey)
    sourceListItemFingerprint := some (.str record.sourceListItemFingerprint)
    versionNo := some (.ofInt 1)
    isCurrent := some (.ofBool true)
    contentHash := some (.str record.listItemContentHash)
    title := some (.str record.title)
    noticeType := some (.str record.noticeType)
    issuer := Value.ofText record.issuer
    region := Value.ofText record.province
    publishedAt := Value.ofText record.publishedAtIso
    deadlineAt := none
    budgetAmount := none
    budgetCurrency := some (.str "CNY")
    sourceSiteName := some (.str sourceSiteName)
    sourceSiteUrl := some (.str sourceSiteUrl)
    listPageUrl := some (.str listPageUrl)
    detailPageUrl := Value.ofText record.detailUrl
    contentText := none
    structuredData := some
      [("source_platform", Value.ofText record.sourcePlatform), ("province", Value.ofText record.province),
        ("list_item_raw", some record.listItemRaw)]
    changeSummary := some (.str "list-draft")
    rawDocumentUrlHash := some (.str (python.sha256Text rawDocumentUrl)) }

/-! ## Detail pages -/

/-- `_deserialize_record(_serialize_record(record))`, the record that the callback of the detail page
gets -/
def GgzyGovCnDealListRecord.deserialized : GgzyGovCnDealListRecord where
  title := record.title
  normalizedTitle := asStr record.normalizedTitle
  publishedDate := asStr record.publishedDate
  publishedAtIso := asStr record.publishedAtIso
  province := asStr record.province
  sourcePlatform := asStr record.sourcePlatform
  issuer := asStr record.issuer
  noticeType := (asStr (some record.noticeType)).getD "announcement"
  detailUrl := asStr record.detailUrl
  normalizedDetailUrl := asStr record.normalizedDetailUrl
  externalId := asStr record.externalId
  sourceDuplicateKey :=
    (asStr (some record.sourceDuplicateKey)).getD (python.sha256Text "missing-source-dup-key")
  sourceListItemFingerprint :=
    (asStr (some record.sourceListItemFingerprint)).getD (python.sha256Text "missing-list-fingerprint")
  listItemContentHash := (asStr (some record.listItemContentHash)).getD (python.sha256Text "missing-content")
  listItemRaw := record.listItemRaw

/-- A response to a request for a detail page: its URL, its text, and what the selectors of the
parser find in it. -/
structure DetailPage where
  url : String
  text : String
  title : Option String
  texts : List String

structure ParsedNotice where
  title : String
  noticeType : String
  externalId : Option String
  projectCode : Option String := none
  issuer : Option String
  region : Option String
  publishedAt : Option DateTime
  deadlineAt : Option DateTime := none
  budgetAmount : Option String := none
  budgetCurrency : String
  summary : Option String
  contentText : Option String
  sourceSiteName : Option String
  sourceSiteUrl : Option String
  listPageUrl : Option String
  detailPageUrl : Option String
  changeSummary : Option String := none
  structuredData : Mapping

/-- `_normalize_text` of the parser -/
def normalizeText (text : String) : Option String := nonEmpty (collapseSpaces (python.nfkc text))

/-- `_extract_detail_text`; no part is empty, so the lines are never three breaks apart. -/
def DetailPage.contentText (page : DetailPage) : Option String :=
  nonEmpty (strip (String.intercalate "\n" (page.texts.filterMap (normalizeText python))))

/-- The date of a record: its `published_at_iso`, or its `published_date`. -/
def GgzyGovCnDealListRecord.publishedAt : Except PyError (Option DateTime) := do
  match ← parseDatetimeLike python (Value.ofText record.publishedAtIso) with
  | some moment => return some moment
  | none => parseDatetimeLike python (Value.ofText record.publishedDate)

/-- `parse_detail_notice`, up to the attachments -/
def parseDetailNotice (page : DetailPage) : Except PyError ParsedNotice := do
  let publishedAt ← record.publishedAt python
  let contentText := page.contentText python
  return {
    title := (page.title.bind (normalizeText python)).getD record.title
    noticeType := record.noticeType
    externalId := record.externalId
    issuer := record.issuer
    region := record.province
    publishedAt := publishedAt
    budgetCurrency := "CNY"
    summary := contentText.map fun text ↦ String.ofList (text.toList.take 2000)
    contentText := contentText
    sourceSiteName := some sourceSiteName
    sourceSiteUrl := some sourceSiteUrl
    listPageUrl := some listPageUrl
    detailPageUrl := some page.url
    structuredData :=
      [("source_site_name", some (.str sourceSiteName)), ("source_site_url", some (.str sourceSiteUrl)),
        ("list_page_url", some (.str listPageUrl)), ("detail_page_url", some (.str page.url)),
        ("source_platform", Value.ofText record.sourcePlatform), ("province", Value.ofText record.province),
        ("notice_type", some (.str record.noticeType)), ("list_item_raw", some record.listItemRaw)] }

/-- `published_at` of the items of a detail page -/
def ParsedNotice.publishedAtText (parsed : ParsedNotice) : Option String :=
  parsed.publishedAt.map python.isoformat <|> record.publishedAtIso

/-- The notice item of `parse_detail` -/
def detailNoticeItem (page : DetailPage) (parsed : ParsedNotice) : Item where
  sourceCode := some (.str sourceCode)
  crawlJobId := crawlJobId
  externalId := Value.ofText parsed.externalId
  projectCode := Value.ofText parsed.projectCode
  dedupHash := some (.str (dedupHash python record.sourceDuplicateKey))
  dedupKey := some (.str record.sourceDuplicateKey)
  sourceDuplicateKey := some (.str record.sourceDuplicateKey)
  sourceListItemFingerprint := some (.str record.sourceListItemFingerprint)
  title := some (.str parsed.title)
  noticeType := some (.str parsed.noticeType)
  issuer := Value.ofText parsed.issuer
  region := Value.ofText parsed.region
  publishedAt := Value.ofText (parsed.publishedAtText python record)
  deadlineAt := Value.ofText (parsed.deadlineAt.map python.isoformat)
  budgetAmount := Value.ofText parsed.budgetAmount
  budgetCurrency := some (.str parsed.budgetCurrency)
  summary := Value.ofText parsed.summary
  sourceSiteName := Value.ofText parsed.sourceSiteName
  sourceSiteUrl := Value.ofText parsed.sourceSiteUrl
  listPageUrl := Value.ofText parsed.listPageUrl
  detailPageUrl := Value.ofText parsed.detailPageUrl
  contentText := Value.ofText parsed.contentText
  sourceUrl := Value.ofText parsed.detailPageUrl
  rawContentHash := some (.str (python.sha256Text page.text))

/-- The version item of `parse_detail` -/
def detailVersionItem (page : DetailPage) (parsed : ParsedNotice) : Except PyError Item := do
  let rawDocumentUrl ← normalizeUrl python page.url
  return {
    sourceCode := some (.str sourceCode)
    crawlJobId := crawlJobId
    noticeDedupHash := some (.str (dedupHash python record.sourceDuplicateKey))
    noticeExternalId := Value.ofText parsed.externalId
    dedupKey := some (.str record.sourceDuplicateKey)
    sourceDuplicateKey := some (.str record.sourceDuplicateKey)
    sourceListItemFingerprint := some (.str record.sourceListItemFingerprint)
    versionNo := some (.ofInt 1)
    isCurrent := some (.ofBool true)
    contentHash := some (.str (python.sha256Text page.text))
    title := some (.str parsed.title)
    noticeType := some (.str parsed.noticeType)
    issuer := Value.ofText parsed.issuer
    region := Value.ofText parsed.region
    publishedAt := Value.ofText (parsed.publishedAtText python record)
    deadlineAt := Value.ofText (parsed.deadlineAt.map python.isoformat)
    budgetAmount := Value.ofText parsed.budgetAmount
    budgetCurrency := some (.str parsed.budgetCurrency)
    sourceSiteName := Value.ofText parsed.sourceSiteName
    sourceSiteUrl := Value.ofText parsed.sourceSiteUrl
    listPageUrl := Value.ofText parsed.listPageUrl
    detailPageUrl := Value.ofText parsed.detailPageUrl
    contentText := Value.ofText parsed.contentText
    structuredData := some parsed.structuredData
    changeSummary := Value.ofText parsed.changeSummary
    rawDocumentUrlHash := some (.str (python.sha256Text rawDocumentUrl)) }

end Items

/-! ## The notice that the items name -/

section Names

variable {python : Python} {crawlJobId : Value} {record : ParsedRecord} {listPageUrl : String} {page : DetailPage}
  {parsed : ParsedNotice} {item : Item}

theorem asStr_dedupHash (sourceDuplicateKey : String) :
    asStr (some (dedupHash python sourceDuplicateKey)) = some (dedupHash python sourceDuplicateKey) :=
  python.asStr_sha256Text _

theorem writtenSourceCode_eq (h : item.sourceCode = some (.str sourceCode)) : item.writtenSourceCode = sourceCode := by
  unfold Item.writtenSourceCode
  rw [h]
  decide

/-- The items of a notice carry its hash and the hash of its content. -/
theorem names_noticeItem {key contentHash title : String} (hcode : item.sourceCode = some (.str sourceCode))
    (hhash : item.dedupHash = some (.str (dedupHash python key))) (htitle : item.title = some (.str title))
    (hcontent : item.contentHash = none) (hraw : item.rawContentHash = some (.str contentHash))
    (htitleText : (asStr (some title)).isSome) (hcontentText : (asStr (some contentHash)).isSome) :
    item.Names sourceCode (dedupHash python key) where
  sourceCode := writtenSourceCode_eq hcode
  dedupHash := by
    unfold Item.resolvedDedupHash
    rw [hhash, Value.or_str (asStr_dedupHash key)]
    exact asStr_dedupHash key
  title := by
    rw [htitle]
    exact htitleText
  contentHash := by
    rw [hcontent, hraw]
    exact hcontentText

/-- What a version item of the spider names. -/
theorem names_versionItem {key contentHash title : String} (hcode : item.sourceCode = some (.str sourceCode))
    (hnone : item.dedupHash = none) (hhash : item.noticeDedupHash = some (.str (dedupHash python key)))
    (htitle : item.title = some (.str title)) (hcontent : item.contentHash = some (.str contentHash))
    (htitleText : (asStr (some title)).isSome) (hcontentText : (asStr (some contentHash)).isSome) :
    item.Names sourceCode (dedupHash python key) where
  sourceCode := writtenSourceCode_eq hcode
  dedupHash := by
    unfold Item.resolvedDedupHash
    rw [hnone, hhash]
    exact asStr_dedupHash key
  title := by
    rw [htitle]
    exact htitleText
  contentHash := by
    obtain ⟨stripped, hstripped⟩ := Option.isSome_iff_exists.mp hcontentText
    rw [hcontent, Value.or_str hstripped]
    exact hcontentText

theorem names_buildListNoticeItem :
    (buildListNoticeItem python crawlJobId record.toGgzyGovCnDealListRecord listPageUrl).Names sourceCode
      (dedupHash python record.sourceDuplicateKey) := by
  apply names_noticeItem rfl rfl rfl rfl rfl
  · rw [record.title_stripped]
    rfl
  · rw [record.listItemContentHash_stripped]
    rfl

/-- The draft is a current version, and says that it is a draft. -/
theorem names_buildListVersionItem
    (h : buildListVersionItem python crawlJobId record.toGgzyGovCnDealListRecord listPageUrl = .ok item) :
    item.Names sourceCode (dedupHash python record.sourceDuplicateKey) ∧ item.isCurrent.asBool python true ∧
      item.changeSummary.asStr = some "list-draft" := by
  obtain ⟨rawDocumentUrl, -, h⟩ := bind_eq_ok.mp h
  rw [← Except.ok.inj h]
  refine ⟨?_, Value.asBool_ofBool_true python true, ?_⟩
  · apply names_versionItem rfl rfl rfl rfl rfl
    · rw [record.title_stripped]
      rfl
    · rw [record.listItemContentHash_stripped]
      rfl
  · change asStr (some "list-draft") = some "list-draft"
    decide

/-- The record that the detail page is parsed with has the key and the title of the list. -/
theorem deserialized_sourceDuplicateKey :
    (record.deserialized python).sourceDuplicateKey = record.sourceDuplicateKey := by
  unfold GgzyGovCnDealListRecord.deserialized
  rw [record.sourceDuplicateKey_stripped]
  rfl

/-- A parsed notice has a title. -/
theorem isSome_title_parseDetailNotice
    (h : parseDetailNotice python (record.deserialized python) listPageUrl page = .ok parsed) :
    (asStr (some parsed.title)).isSome := by
  obtain ⟨publishedAt, -, h⟩ := bind_eq_ok.mp h
  rw [← Except.ok.inj h]
  change (asStr (some ((page.title.bind (normalizeText python)).getD record.title))).isSome
  cases htitle : page.title.bind (normalizeText python) with
  | none =>
    rw [Option.getD_none, record.title_stripped]
    rfl
  | some title =>
    obtain ⟨text, -, htext⟩ := Option.bind_eq_some_iff.mp htitle
    unfold normalizeText nonEmpty at htext
    split at htext
    · cases htext
    · rename_i hne
      rw [Option.getD_some, ← Option.some.inj htext]
      exact isSome_asStr_collapseSpaces hne

theorem changeSummary_parseDetailNotice {record : GgzyGovCnDealListRecord}
    (h : parseDetailNotice python record listPageUrl page = .ok parsed) : parsed.changeSummary = none := by
  obtain ⟨publishedAt, -, h⟩ := bind_eq_ok.mp h
  rw [← Except.ok.inj h]

theorem names_detailNoticeItem
    (h : parseDetailNotice python (record.deserialized python) listPageUrl page = .ok parsed) :
    (detailNoticeItem python crawlJobId (record.deserialized python) page parsed).Names sourceCode
      (dedupHash python record.sourceDuplicateKey) := by
  rw [← deserialized_sourceDuplicateKey]
  apply names_noticeItem rfl rfl rfl rfl rfl
  · exact isSome_title_parseDetailNotice h
  · rw [python.asStr_sha256Text]
    rfl

/-- The version of the detail page is a current version without a change summary. -/
theorem names_detailVersionItem
    (h : parseDetailNotice python (record.deserialized python) listPageUrl page = .ok parsed)
    (hitem : detailVersionItem python crawlJobId (record.deserialized python) page parsed = .ok item) :
    item.Names sourceCode (dedupHash python record.sourceDuplicateKey) ∧ item.isCurrent.asBool python true ∧
      item.changeSummary.asStr = none := by
  obtain ⟨rawDocumentUrl, -, hitem⟩ := bind_eq_ok.mp hitem
  rw [← Except.ok.inj hitem]
  refine ⟨?_, Value.asBool_ofBool_true python true, ?_⟩
  · rw [← deserialized_sourceDuplicateKey]
    apply names_versionItem rfl rfl rfl rfl rfl
    · exact isSome_title_parseDetailNotice h
    · rw [python.asStr_sha256Text]
      rfl
  · rw [changeSummary_parseDetailNotice h]
    rfl

end Names

end TenderPhase1.Spiders.GgzyGovCnDeal
