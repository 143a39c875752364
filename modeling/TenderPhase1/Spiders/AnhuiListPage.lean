import TenderPhase1.Crawler.DedupKeys
import TenderPhase1.Spiders.AnhuiList
import TenderPhase1.Spiders.PaginationTarget

/-!
# What the Anhui spider finds on a page of the list

The selectors give anchors, texts and attributes. From them come the items of the list with their
keys, the numbers of the pager and the target of the link to the next page.
-/

namespace TenderPhase1.Spiders.AnhuiGgzyZfcg

open PyText Crawler Jobs IsoDates

/-! ## What the selectors give -/

/-- A link to a detail page: its text, the texts of the element around it, those two levels up, and the
first text of a date in the same list entry. -/
structure ListAnchor where
  href : Option String
  texts : List String
  contextNodes : List String
  outerNodes : List String
  siblingDate : Option String

structure PagerLink where
  texts : List String
  className : Option String
  href : Option String
  onclick : Option String

structure PageInput where
  name : Option String
  id : Option String
  value : Option String

structure ListPage extends TextResponse where
  currentPageValue : Option String
  /-- The texts of the links and spans of the pager -/
  pagerTexts : List String
  inputs : List PageInput
  pagerLinks : List PagerLink
  anchors : List ListAnchor

/-- `_clean_text(" ".join(texts))` -/
def cleanTexts (texts : List String) : String := collapseSpaces (String.intercalate " " texts)

/-- `_clean_text` of a text that may be missing -/
def cleanText (text : Option String) : String := collapseSpaces (text.getD "")

/-- `text.isdigit()` -/
def isDigitText (text : String) : Bool := text ≠ "" ∧ text.toList.all isDigitLike

section Extraction

variable (python : Python)

/-! ## Items -/

/-- The length of the date at the start of the characters, where there is one. -/
def dateLength (chars : List Char) : ℕ :=
  let month := ((chars.drop 5).take 2).takeWhile Char.isDigit
  let day := ((chars.drop (6 + month.length)).take 2).takeWhile Char.isDigit
  6 + month.length + day.length

/-- The length of a match of `(?:\s*[0-9]{1,2}:[0-9]{2}(?::[0-9]{2})?)?` -/
def timeLength (chars : List Char) : ℕ :=
  let spaces := chars.takeWhile isSpace
  let rest := chars.drop spaces.length
  let hour := (rest.take 2).takeWhile Char.isDigit
  let afterHour := rest.drop hour.length
  let colonAndDigits := fun chars : List Char ↦
    chars.head? = some ':' ∧ ((chars.tail.take 2).takeWhile Char.isDigit).length = 2
  if hour ≠ [] ∧ colonAndDigits afterHour then
    spaces.length + hour.length + 3 + if colonAndDigits (afterHour.drop 3) then 3 else 0
  else 0

/-- A match of the pattern of `_extract_published_at` at the start of the characters -/
def matchDateTime (chars : List Char) : Option String :=
  (matchDate chars).map fun _ ↦
    String.ofList (chars.take (dateLength chars + timeLength (chars.drop (dateLength chars))))

def extractPublishedAt (text : String) : Except PyError (Option String) :=
  match text.toList.tails.findSome? matchDateTime with
  | none => .ok none
  | some matched => normalizePublishedDate python (some (.str matched))

def publishedAtOf (siblingDateText contextText title : String) : Except PyError (Option String) := do
  match (← extractPublishedAt python siblingDateText).bind nonEmpty with
  | some publishedAt => return some publishedAt
  | none =>
    match (← extractPublishedAt python contextText).bind nonEmpty with
    | some publishedAt => return some publishedAt
    | none => extractPublishedAt python title

/-- A match of `【([^】]+)】` at the start of the characters -/
def matchRegion : List Char → Option String
  | '【' :: rest =>
    let region := rest.takeWhile (· ≠ '】')
    if region ≠ [] ∧ region.length < rest.length then some (String.ofList region) else none
  | _ => none

def extractRegion (title contextText : String) : Option String :=
  [title, contextText].findSome? fun sourceText ↦
    (sourceText.toList.tails.findSome? matchRegion).bind fun region ↦ nonEmpty (collapseSpaces region)

def inferNoticeType (title : String) : String :=
  if ["更正", "变更", "澄清", "延期"].any (contains title) then "change"
  else if ["中标", "成交", "结果", "中选"].any (contains title) then "result"
  else "announcement"

def extractGuid (url : String) : Except PyError (Option String) := do
  let split ← python.urlsplit url
  return (python.parseQsl split.query false).lookup "guid"

/-- `_extract_anchor_context_text` -/
def ListAnchor.contextText (anchor : ListAnchor) : String :=
  cleanTexts (if anchor.contextNodes = [] then anchor.outerNodes else anchor.contextNodes)

/-- The fields of the item that `build_source_list_item_fingerprint` gets. -/
def ListItemCandidate.fingerprintFields (detailUrl title noticeType : String) (publishedAt region : Option String) :
    ListItemFields where
  sourceCode := some (.str sourceCode)
  title := some (.str title)
  detailUrl := some (.str detailUrl)
  publishedAt := Value.ofText publishedAt
  region := Value.ofText region
  noticeType := some (.str noticeType)

/-- The item of an anchor, nothing for an anchor without a link or a text. -/
def listItem (response : TextResponse) (anchor : ListAnchor) : Except PyError (Option ListItemCandidate) :=
  let href := strip (anchor.href.getD "")
  if href = "" then .ok none
  else do
    let detailUrl ← response.urljoin href
    let title := cleanTexts anchor.texts
    if title = "" then return none
    let publishedAt ← publishedAtOf python (cleanText anchor.siblingDate) anchor.contextText title
    let region := extractRegion title anchor.contextText
    let noticeType := inferNoticeType title
    let guid ← extractGuid python detailUrl
    let sourceListItemFingerprint ← buildSourceListItemFingerprint python
      (ListItemCandidate.fingerprintFields detailUrl title noticeType publishedAt region) false
    let sourceDuplicateKey ← buildSourceDuplicateKey python (some (.str sourceCode)) (some (.str noticeType)) none
      { title := some (.str title)
        publishedAt := Value.ofText publishedAt
        purchaser := none
        publisher := none
        budgetAmount := none
        region := Value.ofText region
        detailUrl := some (.str detailUrl)
        detailId := Value.ofText guid }
    return some ⟨detailUrl, title, publishedAt, region, noticeType, sourceListItemFingerprint, sourceDuplicateKey⟩

def ListPage.extractListItems (page : ListPage) : Except PyError (List ListItemCandidate) :=
  (page.anchors.mapM (listItem python page.toTextResponse)).map (List.filterMap id)

/-! ## The pager -/

/-- What `_next_page_no` makes of the link to the next page: nothing if it is disabled, else its target. -/
def PagerLink.control (link : PagerLink) : Except PyError (Option (Option ℤ)) :=
  let className := python.lower (link.className.getD "")
  let href := python.lower (strip (link.href.getD ""))
  let onclick := python.lower (strip (link.onclick.getD ""))
  if contains className "disabled" ∨
      ["", "#", "javascript:void(0)", "javascript:;"].contains href ∧ onclick = "" then .ok none
  else do
    match (← parsePaginationTarget python.int onclick).filter (· ≠ 0) with
    | some target => return some (some target)
    | none => return some (← parsePaginationTarget python.int href)

/-- The first link to a next page decides. -/
def ListPage.nextControl (page : ListPage) : Except PyError (Option (Option ℤ)) :=
  match page.pagerLinks.find? fun link ↦ contains (cleanTexts link.texts) "下一页" with
  | none => .ok none
  | some link => link.control python

/-- The number of an input that counts pages -/
def PageInput.pageCount (input : PageInput) : Option ℤ :=
  let name := python.lower (strip (input.name.getD ""))
  let id := python.lower (strip (input.id.getD ""))
  if ["totalpage", "pagecount"].any (fun token ↦ contains name token || contains id token) then
    (nonEmpty (cleanText input.value)).bind python.int
  else none

/-- The numbers of `_max_page_no` -/
def ListPage.pageNumbers (page : ListPage) : Except PyError (List ℤ) := do
  let numbers ← ((page.pagerTexts.map collapseSpaces).filter isDigitText).mapM (intOrRaise python.int)
  return numbers ++ page.inputs.filterMap (PageInput.pageCount python)

/-! ## The callback -/

/-- What `parse` reads of a page, with the numbers of its pager and its link to the next page.
`exceptionText` is the name and the text of an exception. -/
def ListPage.response (page : ListPage) (exceptionText : PyError → String × String) (numbers : List ℤ)
    (control : Option (Option ℤ)) : ListResponse where
  toTextResponse := page.toTextResponse
  currentPageValue := page.currentPageValue
  pageNumbers := numbers
  nextControl := control
  listItems := (page.extractListItems python).mapError exceptionText

/-- How a call of `parse` ends: before it has touched the spider, at an item whose request cannot be built,
after it has issued the requests for the details, or in one of the ways of `ListOutcome`. -/
inductive PageOutcome where
  | pagerRaised (error : PyError)
  | requestRaised (error : PyError) (detailRequests : List ListItemCandidate)
  | controlRaised (error : PyError) (detailRequests : List ListItemCandidate)
  | ended (outcome : ListOutcome)

/-- The first item whose request cannot be built, with the items before it and the exception. -/
def firstRefused (scrapyRequest : String → Except PyError Unit) :
    List ListItemCandidate → Option (List ListItemCandidate × ListItemCandidate × PyError)
  | [] => none
  | candidate :: candidates =>
    match scrapyRequest candidate.detailUrl with
    | .error error => some ([], candidate, error)
    | .ok _ => (firstRefused scrapyRequest candidates).map fun (requested, refused) ↦ (candidate :: requested, refused)

/-- The spider where the request for the last item of `tried` raises: the page is not summed up. -/
def ListSpider.interrupted (spider after : ListSpider) (tried : List ListItemCandidate) : ListSpider :=
  { after with
    seenSourceListItemFingerprints :=
      (tried.map ListItemCandidate.sourceListItemFingerprint).reverse ++ spider.seenSourceListItemFingerprints
    listItemsUnique := spider.listItemsUnique
    listItemsSourceDuplicatesSkipped := spider.listItemsSourceDuplicatesSkipped
    consecutiveNoNewPages := spider.consecutiveNoNewPages }

variable (config : ListConfig) (dateFromisoformat : String → Option IsoDate)

/-- `parse` of a page as it comes. `scrapyRequest` is `scrapy.Request(url)`, which raises where the URL has no
scheme; an exception in `_next_page_no` comes after the items. -/
def parsePage (scrapyRequest : String → Except PyError Unit) (exceptionText : PyError → String × String)
    (spider : ListSpider) (page : ListPage) (fetchedAt : DateTime) : ListSpider × PageOutcome :=
  match page.pageNumbers python with
  | .error error => (spider, .pagerRaised error)
  | .ok numbers =>
    let control := page.nextControl python
    -- neither the spider nor the requests for details depend on the link to the next page
    let response := page.response python exceptionText numbers (control.toOption.getD none)
    let ended := parse python config dateFromisoformat spider response fetchedAt
    match ended.2 with
    | .parsed parsed =>
      match firstRefused scrapyRequest parsed.detailRequests with
      | some (requested, refused, error) =>
        (spider.interrupted ended.1 (requested ++ [refused]), .requestRaised error requested)
      | none =>
        match control with
        | .error error => (ended.1, .controlRaised error parsed.detailRequests)
        | .ok _ => (ended.1, .ended (.parsed parsed))
    | outcome => (ended.1, .ended outcome)

/-! ## The arguments of the spider -/

/-- The arguments of `__init__` -/
structure SpiderArguments where
  crawlJobId : Value := none
  maxPages : Value := none
  bulletinNature : PyObject := .str "1"
  time : Value := none
  backfillYear : Value := none
  stopAfterConsecutiveNoNewPages : PyObject := .ofInt 5
  stopAfterConsecutiveEmptyPages : Value := none
  dedupWithinRun : PyObject := .ofBool true

def parseOptionalPositiveInt (value : Value) : Except PyError (Option ℤ) :=
  match value.asStr with
  | none => .ok none
  | some text => (intOrRaise python.int text).map fun n ↦ some (max 1 n)

/-- `date(year, 1, 1)` -/
def firstOfYear (year : ℤ) : Except PyError IsoDate :=
  if h : year.toNat ≤ 9999 then .ok ⟨year.toNat, 1, 1, h, by decide, by decide⟩ else .error .valueError

/-- `_as_bool` of the spider -/
def spiderAsBool (value : PyObject) (default : Bool) : Bool :=
  let text := python.lower (strip value.text)
  if ["1", "true", "yes", "y"].contains text then true
  else if ["0", "false", "no", "n"].contains text then false
  else default

/-- The override, else the threshold itself. -/
def SpiderArguments.threshold (arguments : SpiderArguments) : Except PyError ℤ := do
  match ← parseOptionalPositiveInt python arguments.stopAfterConsecutiveEmptyPages with
  | some threshold => return threshold
  | none => intOrRaise python.int arguments.stopAfterConsecutiveNoNewPages.text

/-- `__init__`, after that of `BaseSourceSpider` -/
def ListConfig.init (arguments : SpiderArguments) : Except PyError ListConfig := do
  let crawlJobId ← arguments.crawlJobId.mapM fun given ↦ PyObject.ofInt <$> intOrRaise python.int given.text
  let maxPages ← parseOptionalPositiveInt python arguments.maxPages
  let backfillYear ← parseOptionalPositiveInt python arguments.backfillYear
  let backfillStartDate ← backfillYear.mapM firstOfYear
  let threshold ← arguments.threshold python
  return {
    crawlJobId := crawlJobId
    maxPages := maxPages
    bulletinNature := arguments.bulletinNature.text
    timeFilter := match arguments.time.asStr with
      | some filter => some filter
      | none => if backfillYear.isSome then some "" else some "1"
    backfillStartDate := backfillStartDate
    stopAfterConsecutiveNoNewPages := max 1 threshold
    dedupWithinRun := spiderAsBool python arguments.dedupWithinRun true }

end Extraction

end TenderPhase1.Spiders.AnhuiGgzyZfcg
