import TenderPhase1.Spiders.PageBundle
import Mathlib.Algebra.Ring.Nat
import Mathlib.Algebra.Ring.Int.Defs

/-!
# The list pages of the national trading platform

The platform answers with JSON, whatever it holds. `parse_list_record` reads a record of it, and
`parse_list_page` yields the items of the records that are new in the run, the document of the page,
a crawl error and the request for the next page. It is a generator: where a conversion raises, what it
has yielded before stays.
-/

namespace TenderPhase1.Spiders.GgzyGovCnDeal

open PyText Crawler Jobs

/-! ## JSON -/

/-- A `float`: a binary fraction, an infinity or no number. -/
inductive PyFloat where
  | finite (mantissa exponent : ℤ)
  | infinite (negative : Bool)
  | nan

/-- What `json.loads` returns. The keys of a `dict` are texts. -/
inductive Json where
  | null
  | bool (value : Bool)
  | int (value : ℤ)
  | float (value : PyFloat)
  | str (text : String)
  | list (items : List Json)
  | dict (entries : List (String × Json))

/-- `record.get(key)` -/
def get (entries : List (String × Json)) (key : String) : Json := (entries.lookup key).getD .null

def Json.truthy : Json → Bool
  | .null => false
  | .bool value => value
  | .int value => value ≠ 0
  | .float (.finite mantissa _) => mantissa ≠ 0
  | .float _ => true
  | .str text => text ≠ ""
  | .list items => !items.isEmpty
  | .dict entries => !entries.isEmpty

/-- `first or second` -/
def Json.or (first second : Json) : Json := if first.truthy then first else second

def Json.ofText (text : Option String) : Json := (text.map Json.str).getD .null

/-- How a call of `json.loads` ends: with a value, with a `JSONDecodeError` and its text, or with another
exception, for numbers of too many digits and values that are nested too deep. -/
inductive Loaded where
  | value (value : Json)
  | decodeError (text : String)
  | raised (error : PyError)

/-- The functions of the standard library and of Scrapy that the list pages need. -/
structure ListLibrary where
  loads : String → Loaded
  /-- `str` of a `float`, a `list` or a `dict` -/
  repr : Json → String
  /-- `urljoin(base, url)` -/
  urljoin : String → String → Except PyError String
  /-- The digest of `json.dumps(record)`, which has no UTF-8 where a text has half of a surrogate pair. -/
  digest : List (String × Json) → Except PyError String
  /-- `scrapy.Request(url)`, which raises where the URL has no scheme. -/
  request : String → Except PyError Unit

section Values

variable (library : ListLibrary) (python : Python)

def Json.text : Json → String
  | .null => "None"
  | .bool value => if value then "True" else "False"
  | .int value => toString value
  | .str text => text
  | value => library.repr value

/-- The integer part of a number -/
def PyFloat.toInt : PyFloat → Except PyError ℤ
  | .finite mantissa exponent =>
    .ok (if 0 ≤ exponent then mantissa * 2 ^ exponent.toNat else mantissa.tdiv (2 ^ (-exponent).toNat))
  | .infinite _ => .error .overflowError
  | .nan => .error .valueError

/-- `int(value)`; nothing tells its `TypeError` from a `ValueError`. -/
def Json.toInt : Json → Except PyError ℤ
  | .bool value => .ok (if value then 1 else 0)
  | .int value => .ok value
  | .float value => value.toInt
  | .str text => match python.int text with
    | some n => .ok n
    | none => .error .valueError
  | _ => .error .valueError

/-- `_normalize_text` of the parser -/
def normalizeValue (value : Json) : Option String :=
  match value with
  | .null => none
  | value => normalizeText python (value.text library)

def Json.asStr (value : Json) : Option String :=
  match value with
  | .null => none
  | value => PyText.asStr (some (value.text library))

def Json.asInt (value : Json) : Option ℤ := (value.asStr library).bind python.int

end Values

/-! ## Titles -/

/-- The separators before a suffix of a title, besides white space. -/
def titleSeparators : List Char := ['-', '—', '_', ':', '：', ',', '，', '。', '；', ';', '·']

/-- `_MEANINGLESS_TITLE_TRAILING_TOKENS` -/
def trailingTokens : List String :=
  ["采购", "招标", "竞争性磋商", "竞争性谈判", "询价", "中标", "成交", "结果", "更正", "澄清", "终止", "废标", "流标"]

def suffixWords : List String := ["公告", "公示", "通知", "信息"]

/-- Whether all of the characters match `_MEANINGLESS_TITLE_SUFFIX_RE`. -/
def isMeaninglessSuffix (chars : List Char) : Bool :=
  let text := String.ofList (chars.dropWhile fun c ↦ isSpace c || titleSeparators.contains c)
  ("" :: trailingTokens).any fun token ↦ suffixWords.any fun word ↦ text = token ++ word

/-- `_MEANINGLESS_TITLE_SUFFIX_RE.sub("", text).strip()` -/
def dropSuffix (text : String) : String :=
  let kept := text.toList.tails.findSome? fun tail ↦
    if isMeaninglessSuffix tail then some (text.length - tail.length) else none
  strip (String.ofList (text.toList.take (kept.getD text.length)))

/-- Repeats a step until it changes nothing; each change makes the text shorter, so its length bounds them. -/
def repeatUntilSame (step : String → String) : ℕ → String → String
  | 0, text => text
  | fuel + 1, text => if step text = text then text else repeatUntilSame step fuel (step text)

/-- `text.rstrip("-—_:：,，。；;· ").strip()` -/
def stripSeparators (text : String) : String :=
  strip (String.ofList (text.toList.reverse.dropWhile fun c ↦ c = ' ' || titleSeparators.contains c).reverse)

def endsWith (text suf : String) : Bool := suf.toList.isSuffixOf text.toList

section Parser

variable (library : ListLibrary) (python : Python)

/-- The second loop of `normalize_title_for_source_dedup`; each token makes the text shorter. -/
def dropTrailingTokens : ℕ → String → String
  | 0, text => text
  | fuel + 1, text =>
    let stripped := stripSeparators text
    match trailingTokens.find? fun token ↦ endsWith (python.lower stripped) (python.lower token) with
    | some token =>
      dropTrailingTokens fuel
        (stripSeparators (String.ofList (stripped.toList.take (stripped.length - token.length))))
    | none => stripped

def normalizeTitleForSourceDedup (title : String) : Option String :=
  (normalizeText python title).bind fun normalized ↦
    let collapsed := collapseSpaces (python.nfkc normalized)
    let dropped := repeatUntilSame dropSuffix collapsed.length collapsed
    let trimmed := dropTrailingTokens python (dropped.length + 1) dropped
    let joined := replaceChar (stripSeparators trimmed) ' ' ""
    (nonEmpty (collapseSpaces joined)).map python.lower

def inferNoticeType (title : String) (infoText : Option String) : String :=
  let combined := title ++ " " ++ infoText.getD ""
  if ["更正", "变更", "澄清", "延期", "终止", "废标", "流标"].any (contains combined) then "change"
  else if ["中标", "成交", "结果", "合同"].any (contains combined) then "result"
  else "announcement"

/-! ## Records -/

def normalizeIdentityText (value : Option String) : String :=
  match value.bind (normalizeText python) with
  | none => "-"
  | some normalized => (nonEmpty (python.lower (collapseSpaces (python.nfkc normalized)))).getD "-"

/-- The seed of a key; `kind` is the word between the source and the URL. -/
def keySeed (kind : String) (normalizedDetailUrl province sourcePlatform normalizedTitle publishedDate : Option String) :
    String :=
  match normalizedDetailUrl.bind nonEmpty with
  | some url => s!"{sourceCode}|{kind}|{url}"
  | none => String.intercalate "|"
    [sourceCode, normalizeIdentityText python province, normalizeIdentityText python sourcePlatform,
      (normalizedTitle.bind nonEmpty).getD "-", (publishedDate.bind nonEmpty).getD "-"]

variable (record : List (String × Json))

/-- The title of a record, nothing where there is none. -/
def recordTitle : Option String := normalizeValue library python ((get record "title").or (get record "titleShow"))

def recordUrl : Option String :=
  normalizeValue library python ((get record "url").or ((get record "detailUrl").or (get record "linkUrl")))

def recordDate : Option String :=
  normalizeValue library python
    ((get record "publishTime").or ((get record "publishedAt").or (get record "publishDate")))

def recordDetailUrl : Except PyError (Option String) :=
  (recordUrl library python record).mapM fun rawUrl ↦ do
    let joined ← library.urljoin sourceSiteUrl rawUrl
    normalizeUrl python joined

/-- The keys of `_extract_external_id` -/
def externalIdKeys : List String :=
  ["id", "infoId", "infoID", "noticeId", "noticeID", "dealId", "dealID", "guid", "uuid"]

def extractExternalId (detailUrl : Option String) : Except PyError (Option String) :=
  match externalIdKeys.findSome? fun key ↦ normalizeValue library python (get record key) with
  | some value => .ok (some value)
  | none =>
    match detailUrl.bind nonEmpty with
    | none => .ok none
    | some url => do
      let split ← python.urlsplit url
      let query := python.parseQsl split.query false
      match ["id", "guid", "noticeId", "detailId"].findSome? fun key ↦
          (query.lookup key).bind (normalizeText python) with
      | some value => return some value
      | none =>
        let locator ← extractDetailLocator python (some (.str url)) none
        let normalized ← normalizeDetailUrl python (some (.str url))
        return (locator.bind nonEmpty).filter fun locator ↦ some locator ≠ normalized

def parseListRecord : Except PyError (Option GgzyGovCnDealListRecord) :=
  match recordTitle library python record with
  | none => .ok none
  | some title => do
    let detailUrl ← recordDetailUrl library python record
    let normalizedDetailUrl ← normalizeDetailUrl python (Value.ofText detailUrl)
    let publishedDate ← normalizePublishedDate python (Value.ofText (recordDate library python record))
    let externalId ← extractExternalId library python record detailUrl
    let listItemContentHash ← library.digest record
    let province := normalizeValue library python ((get record "provinceText").or (get record "province"))
    let sourcePlatform := normalizeValue library python
      ((get record "transactionSourcesPlatformText").or ((get record "sourcePlatform").or (get record "platformName")))
    let issuer := normalizeValue library python
      ((get record "issuer").or ((get record "publisher").or (.ofText sourcePlatform)))
    let infoText := normalizeValue library python
      ((get record "informationTypeText").or ((get record "infoType").or (get record "businessTypeText")))
    let normalizedTitle := normalizeTitleForSourceDedup python title
    return some {
      title := title
      normalizedTitle := normalizedTitle
      publishedDate := publishedDate
      publishedAtIso := (publishedDate.bind nonEmpty).map (· ++ "T00:00:00+00:00")
      province := province
      sourcePlatform := sourcePlatform
      issuer := issuer
      noticeType := inferNoticeType title infoText
      detailUrl := detailUrl
      normalizedDetailUrl := normalizedDetailUrl
      externalId := externalId
      sourceDuplicateKey := python.sha256Text
        (keySeed python "detail_url" normalizedDetailUrl province sourcePlatform normalizedTitle publishedDate)
      sourceListItemFingerprint := python.sha256Text
        (keySeed python "fingerprint" normalizedDetailUrl province sourcePlatform normalizedTitle publishedDate)
      listItemContentHash := listItemContentHash
      listItemRaw := .other (library.repr (.dict record)) (!record.isEmpty) }

end Parser

/-! ## The spider -/

/-- The arguments of the spider, as `__init__` leaves them. -/
structure DealConfig where
  crawlJobId : Value
  jobType : String
  maxPages : Option ℕ
  backfillYear : Option ℤ
  sourceType : String
  dealClassify : String
  dealStage : String
  dealTime : String
  keyword : String
  timeBegin : Option String
  timeEnd : Option String

structure DealSpider where
  seenSourceDuplicateKeys : List String := []
  pagesScraped : ℤ := 0
  listItemsSeen : ℤ := 0
  listItemsUnique : ℤ := 0
  listItemsSourceDuplicatesSkipped : ℤ := 0

def shouldIncludeStage (stage : String) : Bool :=
  let chars := (strip stage).toList
  chars ≠ [] ∧ ¬ (4 ≤ chars.length ∧ (chars.drop 2).take 2 = ['0', '0']) ∧
    ¬ (6 ≤ chars.length ∧ (chars.drop 4).take 2 = ['0', '0'])

structure ListRequest where
  page : ℕ
  formdata : List (String × String)
  listPageUrl : String
  deriving DecidableEq

def buildListFormdata (config : DealConfig) (page : ℕ) : List (String × String) :=
  [("SOURCE_TYPE", config.sourceType), ("DEAL_TIME", config.dealTime), ("PAGENUMBER", toString page),
      ("isShowAll", "1"), ("FINDTXT", config.keyword)] ++
    (if config.dealClassify ≠ "00" then [("DEAL_CLASSIFY", config.dealClassify)] else []) ++
    (if shouldIncludeStage config.dealStage then [("DEAL_STAGE", config.dealStage)] else []) ++
    match config.timeBegin.bind nonEmpty, config.timeEnd.bind nonEmpty with
    | some timeBegin, some timeEnd =>
      if config.dealTime = "06" then [("TIMEBEGIN", timeBegin), ("TIMEEND", timeEnd)] else []
    | _, _ => []

def buildListRequest (config : DealConfig) (page : ℕ) (listPageUrl : String) : ListRequest :=
  ⟨page, buildListFormdata config page, listPageUrl⟩

/-- What `parse_list_page` yields. -/
inductive Yielded where
  | notice (item : Item)
  | version (item : Item)
  | detailRequest (url : String) (record : GgzyGovCnDealListRecord)
  | rawDocument (item : Item)
  | crawlError (item : Item)
  | listRequest (request : ListRequest)

/-! ## Replies -/

/-- What `parse_list_page` reads of a reply, besides its records. -/
structure ListReply where
  parseError : Option String
  code : ℤ
  message : Option String
  records : List Json
  total : Option ℤ
  pages : Option ℤ
  current : Option ℤ

section Replies

variable (library : ListLibrary) (python : Python)

/-- The object of a reply, and what is wrong with a text that holds none. -/
def loadPayload (text : String) : Except PyError (List (String × Json) × Option String) :=
  match library.loads text with
  | .value (.dict payload) => .ok (payload, none)
  | .value _ => .ok ([], some "列表解析失败: 响应JSON不是对象")
  | .decodeError error => .ok ([], some ("列表解析失败: 响应不是JSON (" ++ error ++ ")"))
  | .raised error => .error error

/-- `int(payload.get("code") or 0)` -/
def replyCode (payload : List (String × Json)) : Except PyError ℤ :=
  if (get payload "code").truthy then (get payload "code").toInt python else .ok 0

/-- The entries of a `dict`, none of any other value. -/
def Json.entries : Json → List (String × Json)
  | .dict entries => entries
  | _ => []

def Json.items : Json → List Json
  | .list items => items
  | _ => []

def readReply (text : String) : Except PyError ListReply := do
  let (payload, parseError) ← loadPayload library text
  let code ← replyCode python payload
  let data := (get payload "data").entries
  return {
    parseError := parseError
    code := code
    message := (get payload "message").asStr library
    records := (get data "records").items
    total := (get data "total").asInt library python
    pages := (get data "pages").asInt library python
    current := (get data "current").asInt library python }

/-- The message of the crawl error of a page, nothing for a page that can be read. -/
def ListReply.error (reply : ListReply) : Option String :=
  match reply.parseError with
  | some parseError => some parseError
  | none =>
    if reply.code = 200 then none
    else if reply.code = 829 then some "页面获取失败: 列表接口触发验证码，当前实现不破解验证码"
    else some ("页面获取失败: 列表接口返回 code=" ++ toString reply.code ++ " message=" ++ (reply.message.bind nonEmpty).getD "-")

end Replies

/-! ## The callback -/

section Callback

variable (library : ListLibrary) (python : Python) (config : DealConfig) (listPageUrl : String)

/-- What a record yields, and the exception that ends it. -/
def recordYields (record : GgzyGovCnDealListRecord) : List Yielded × Option PyError :=
  let notice := Yielded.notice (buildListNoticeItem python config.crawlJobId record listPageUrl)
  match buildListVersionItem python config.crawlJobId record listPageUrl with
  | .error error => ([notice], some error)
  | .ok version =>
    match record.detailUrl.bind nonEmpty with
    | none => ([notice, .version version], none)
    | some url =>
      match library.request url with
      | .error error => ([notice, .version version], some error)
      | .ok _ => ([notice, .version version, .detailRequest url record], none)

structure RecordsRead where
  seen : List String
  yields : List Yielded
  unique : ℕ
  skipped : ℕ
  raised : Option PyError

/-- The loop over the records. -/
def readRecords : List String → List Json → RecordsRead
  | seen, [] => ⟨seen, [], 0, 0, none⟩
  | seen, .dict entries :: records =>
    match parseListRecord library python entries with
    | .error error => ⟨seen, [], 0, 0, some error⟩
    | .ok none => readRecords seen records
    | .ok (some record) =>
      if seen.contains record.sourceDuplicateKey then
        let later := readRecords seen records
        { later with skipped := later.skipped + 1 }
      else
        match recordYields library python config listPageUrl record with
        | (yields, some error) => ⟨record.sourceDuplicateKey :: seen, yields, 1, 0, some error⟩
        | (yields, none) =>
          let later := readRecords (record.sourceDuplicateKey :: seen) records
          { later with yields := yields ++ later.yields, unique := later.unique + 1 }
  | seen, _ :: records => readRecords seen records

def listPageMeta (spider : DealSpider) (page : ℕ) (reply : ListReply) (read : RecordsRead) : Mapping :=
  [("role", some (.str "list")),
    ("list_page_url", some (.str listPageUrl)),
    ("current_page", some (.ofInt page)),
    ("api_code", some (.ofInt reply.code)),
    ("api_message", Value.ofText reply.message),
    ("api_total", reply.total.map .ofInt),
    ("api_pages", reply.pages.map .ofInt),
    ("api_current", reply.current.map .ofInt),
    ("page_item_count", some (.ofInt reply.records.length)),
    ("new_unique_item_count", some (.ofInt read.unique)),
    ("page_source_duplicates_skipped", some (.ofInt read.skipped)),
    ("list_items_seen_total", some (.ofInt spider.listItemsSeen)),
    ("list_items_unique_total", some (.ofInt spider.listItemsUnique)),
    ("list_items_source_duplicates_skipped_total", some (.ofInt spider.listItemsSourceDuplicatesSkipped)),
    ("job_type", some (.str config.jobType)),
    ("max_pages", config.maxPages.map fun maxPages ↦ .ofInt maxPages),
    ("backfill_year", config.backfillYear.map .ofInt),
    ("parse_error", Value.ofText reply.error)]

def listRawUrl (page : ℕ) : String :=
  listApiUrl ++ "?page=" ++ toString page ++ "&deal_time=" ++ config.dealTime ++ "&deal_classify=" ++ config.dealClassify

/-- `_build_error_item` for a page -/
def listErrorItem (url message : String) (occurredAt : DateTime) : Item where
  sourceCode := some (.str sourceCode)
  crawlJobId := config.crawlJobId
  stage := some (.str (if startsWith message "页面获取失败" then "fetch" else "parse"))
  url := some (.str url)
  errorType := some (.str "ListPageError")
  errorMessage := some (.str message)
  traceback := some (.str "")
  retryable := some (.ofBool true)
  occurredAt := some (.str (python.isoformat occurredAt))

/-- A call of `parse_list_page`: the spider after it, what it has yielded and the exception that has ended it. -/
structure ListCall where
  spider : DealSpider
  yields : List Yielded
  raised : Option PyError

def nextRequests (page : ℕ) (reply : ListReply) : List Yielded :=
  if config.maxPages.any (· ≤ page) then []
  else if reply.pages.any fun pages ↦ 0 < pages ∧ (page : ℤ) < pages then
    [.listRequest (buildListRequest config (page + 1) listPageUrl)]
  else []

/-- What comes after the document of a page: a crawl error, or the request for the next page. -/
def closingYields (response : Spiders.TextResponse) (page : ℕ) (fetchedAt : DateTime) (reply : ListReply) : List Yielded :=
  match reply.error with
  | some message => [.crawlError (listErrorItem python config response.url message fetchedAt)]
  | none => nextRequests config listPageUrl page reply

def parseListPage (spider : DealSpider) (response : Spiders.TextResponse) (page : ℕ) (fetchedAt : DateTime) : ListCall :=
  let counted := { spider with pagesScraped := spider.pagesScraped + 1 }
  match readReply library python response.text with
  | .error error => ⟨counted, [], some error⟩
  | .ok reply =>
    let seen := { counted with listItemsSeen := counted.listItemsSeen + reply.records.length }
    let read :=
      if reply.error.isNone then
        readRecords library python config listPageUrl spider.seenSourceDuplicateKeys reply.records
      else ⟨spider.seenSourceDuplicateKeys, [], 0, 0, none⟩
    match read.raised with
    | some error => ⟨{ seen with seenSourceDuplicateKeys := read.seen }, read.yields, some error⟩
    | none =>
      let summed := { seen with
        seenSourceDuplicateKeys := read.seen
        listItemsUnique := seen.listItemsUnique + read.unique
        listItemsSourceDuplicatesSkipped := seen.listItemsSourceDuplicatesSkipped + read.skipped }
      match normalizeUrl python (listRawUrl config page) with
      | .error error => ⟨summed, read.yields, some error⟩
      | .ok normalized =>
        let document := Spiders.rawDocumentItem python config.crawlJobId sourceCode response (listRawUrl config page)
          normalized (nonEmpty (collapseSpaces (response.title.getD ""))) fetchedAt none none
          (listPageMeta config listPageUrl summed page reply read)
        ⟨summed, read.yields ++ .rawDocument document :: closingYields python config listPageUrl response page fetchedAt reply,
          none⟩

end Callback

end TenderPhase1.Spiders.GgzyGovCnDeal
