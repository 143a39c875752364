import TenderPhase1.Crawler.Values
import Mathlib.Algebra.Ring.Nat
import Mathlib.Data.List.Sort

/-!
# The deduplication service

The normal forms of texts, URLs, dates and amounts, the keys that are hashed from
them, and the normalisation of an item before a writer sees it. The keys an item
comes without are filled in here.
-/

namespace TenderPhase1.Crawler

open PyText

/-! ## Texts -/

def noticeTypes : List String := ["announcement", "change", "result"]

def normalizeNoticeType (value : Value) : String :=
  match value.asStr with
  | some text => if noticeTypes.contains text then text else "announcement"
  | none => "announcement"

/-- `re.sub(r"\s+", " ", text).strip()` -/
def collapseSpaces (text : String) : String :=
  String.intercalate " " (((text.toList.splitOnP isSpace).filter (· ≠ [])).map String.ofList)

/-- No piece between white space has white space in it. -/
theorem not_isSpace_of_mem_splitOnP {chars piece : List Char} (hpiece : piece ∈ chars.splitOnP isSpace) :
    ∀ c ∈ piece, isSpace c = false := by
  induction chars generalizing piece with
  | nil =>
    rw [List.splitOnP_nil, List.mem_singleton] at hpiece
    rw [hpiece]
    exact fun _ h ↦ absurd h List.not_mem_nil
  | cons first chars ih =>
    rw [List.splitOnP_cons_eq_if_modifyHead] at hpiece
    split at hpiece
    · rcases List.mem_cons.mp hpiece with rfl | hrest
      · exact fun _ h ↦ absurd h List.not_mem_nil
      · exact ih hrest
    · rename_i hfirst
      cases hpieces : chars.splitOnP isSpace with
      | nil => exact absurd hpieces (List.splitOnP_ne_nil _ _)
      | cons head pieces =>
        rw [hpieces, List.modifyHead_cons] at hpiece
        rcases List.mem_cons.mp hpiece with rfl | hrest
        · intro c hc
          rcases List.mem_cons.mp hc with rfl | hhead
          · exact Bool.not_eq_true _ ▸ hfirst
          · exact ih (hpieces ▸ List.mem_cons_self) c hhead
        · exact ih (hpieces ▸ List.mem_cons_of_mem _ hrest)

/-- What is left of a text whose spaces are collapsed is not white space. -/
theorem isSome_asStr_collapseSpaces {text : String} (h : collapseSpaces text ≠ "") :
    (asStr (some (collapseSpaces text))).isSome := by
  unfold collapseSpaces at h ⊢
  cases hwords : (text.toList.splitOnP isSpace).filter (· ≠ []) with
  | nil =>
    rw [hwords] at h
    exact absurd rfl h
  | cons word words =>
    obtain ⟨hword, hne⟩ := List.mem_filter.mp (hwords ▸ List.mem_cons_self : word ∈ _)
    obtain ⟨c, hc⟩ := List.exists_mem_of_ne_nil word (of_decide_eq_true hne)
    refine isSome_asStr_of_mem ?_ (not_isSpace_of_mem_splitOnP hword c hc)
    rw [String.toList_intercalate, List.map_cons, List.map_cons, String.toList_ofList]
    cases words with
    | nil => simpa using hc
    | cons next words => simp [List.intercalate_cons_cons, hc]

/-- `re.sub(r"\s+", "", text)` -/
def removeSpaces (text : String) : String := String.ofList (text.toList.filter (!isSpace ·))

/-- `_PUNCT_TRANSLATIONS` -/
def translatePunctuation (c : Char) : Char :=
  match c with
  | '，' | '、' => ','
  | '。' => '.'
  | '；' => ';'
  | '：' => ':'
  | '（' => '('
  | '）' => ')'
  | '【' => '['
  | '】' => ']'
  | '“' | '”' => '"'
  | '‘' | '’' => '\''
  | '－' => '-'
  | other => other

/-- `value or None`, for a text -/
def nonEmpty (text : String) : Option String := if text = "" then none else some text

section Service

variable (python : Python)

def normalizeText (value : Value) (lowercase : Bool) : Option String :=
  (value.asStr.bind fun text ↦ nonEmpty (collapseSpaces (python.nfkc text))).map fun normalized ↦
    if lowercase then python.lower normalized else normalized

/-- `normalize_title`, and `normalize_purchaser_or_publisher`, which has the same body -/
def normalizeTitle (value : Value) : Option String :=
  (normalizeText python value true).bind fun text ↦
    nonEmpty (removeSpaces (String.ofList (text.toList.map translatePunctuation)))

def normalizePurchaserOrPublisher (value : Value) : Option String := normalizeTitle python value

def normalizeRegion (value : Value) : Option String := normalizeText python value true

/-! ## Amounts -/

/-- A finite `Decimal`: (-1) ^ negative * coefficient * 10 ^ exponent. -/
structure Decimal where
  negative : Bool
  coefficient : ℕ
  exponent : ℤ

def decimalPrecision : ℕ := 28

def digitCount (n : ℕ) : ℕ := (Nat.toDigits 10 n).length

/-- The result of an operation in the default context: 28 digits, half to even. -/
def Decimal.rounded (amount : Decimal) : Decimal :=
  let excess := digitCount amount.coefficient - decimalPrecision
  if excess = 0 then amount
  else
    let unit := 10 ^ excess
    let quotient := amount.coefficient / unit
    let rest := amount.coefficient % unit
    let up := unit < 2 * rest || 2 * rest = unit && quotient % 2 = 1
    { amount with
      coefficient := if up then quotient + 1 else quotient
      exponent := amount.exponent + excess }

/-- `amount.quantize(Decimal("1"), rounding=ROUND_HALF_UP)`, as a coefficient -/
def Decimal.quantizeHalfUp (amount : Decimal) : Except PyError ℕ :=
  let quantized :=
    if 0 ≤ amount.exponent then amount.coefficient * 10 ^ amount.exponent.toNat
    else
      let unit := 10 ^ (-amount.exponent).toNat
      if unit ≤ 2 * (amount.coefficient % unit) then amount.coefficient / unit + 1
      else amount.coefficient / unit
  if decimalPrecision < digitCount quantized then .error .invalidOperation else .ok quantized

def digitsValue (digits : List Char) : ℕ := digits.foldl (fun n c ↦ 10 * n + (c.toNat - '0'.toNat)) 0

/-- A match of `-?[0-9]+(?:\.[0-9]+)?` at the start of the text -/
def matchNumber (chars : List Char) : Option Decimal :=
  let negative := chars.head? = some '-'
  let rest := if negative then chars.tail else chars
  let digits := rest.takeWhile Char.isDigit
  let fraction := match rest.dropWhile Char.isDigit with
    | '.' :: tail => tail.takeWhile Char.isDigit
    | _ => []
  if digits = [] then none
  else some ⟨negative, digitsValue (digits ++ fraction), -fraction.length⟩

def normalizeBudgetBucket (value : Value) : Except PyError (Option String) :=
  match normalizeText python value false with
  | none => .ok none
  | some normalized =>
      let multiplier := if contains normalized "万" then 10000 else 1
      match (replaceChar normalized ',' "").toList.tails.findSome? matchNumber with
      | none => .ok none
      | some number => do
          let amount := { number with coefficient := number.coefficient * multiplier }.rounded
          let steps ← { amount with exponent := amount.exponent - 3 }.rounded.quantizeHalfUp
          let bucket ← (Decimal.rounded ⟨amount.negative, steps * 1000, 0⟩).quantizeHalfUp
          return some ((if amount.negative ∧ bucket ≠ 0 then "-" else "") ++ toString bucket)

/-! ## URLs -/

/-- The order of `sorted` on pairs of texts -/
def pairLe (pair other : String × String) : Bool :=
  pair.1 < other.1 || pair.1 = other.1 && (pair.2 < other.2 || pair.2 = other.2)

def sortPairs (pairs : List (String × String)) : List (String × String) :=
  pairs.insertionSort fun pair other ↦ pairLe pair other

def normalizeUrl (url : String) : Except PyError String := do
  let split ← python.urlsplit (strip url)
  let query := python.urlencode (sortPairs (python.parseQsl split.query true))
  return python.urlunsplit
    { scheme := python.lower split.scheme
      netloc := python.lower split.netloc
      path := if split.path = "" then "/" else split.path
      query := query
      fragment := "" }

def irrelevantQueryParamNames : List String :=
  ["_", "_t", "_ts", "from", "rand", "random", "ref", "referer", "sessionid", "sid", "spm", "timestamp",
    "track", "tracking"]

def irrelevantQueryParamPrefixes : List String := ["utm_"]

def dropIrrelevantQueryParams (url : String) : Except PyError String := do
  let split ← python.urlsplit (strip url)
  let filteredQuery := (python.parseQsl split.query true).filter fun pair ↦
    let lowered := python.lower (strip pair.1)
    ¬ irrelevantQueryParamNames.contains lowered ∧ ¬ irrelevantQueryParamPrefixes.any (startsWith lowered)
  return python.urlunsplit { split with query := python.urlencode (sortPairs filteredQuery), fragment := "" }

def normalizeDetailUrl (value : Value) : Except PyError (Option String) :=
  match value.asStr with
  | none => .ok none
  | some text => do
      let cleaned ← dropIrrelevantQueryParams python text
      return some (← normalizeUrl python cleaned)

def detailLocatorKeys : List String :=
  ["guid", "detail_id", "detailid", "id", "notice_id", "noticeid", "article_id", "articleid"]

def extractDetailLocator (detailUrl detailId : Value) : Except PyError (Option String) :=
  match normalizeText python (Value.ofText detailId.asStr) true with
  | some normalizedDetailId => .ok (some normalizedDetailId)
  | none => do
      match ← normalizeDetailUrl python detailUrl with
      | none => return none
      | some normalizedDetailUrl =>
          let split ← python.urlsplit normalizedDetailUrl
          let query := python.parseQsl split.query false
          let located := detailLocatorKeys.findSome? fun key ↦
            (query.lookup key <|> query.lookup (python.upper key)).bind fun value ↦
              normalizeText python (some (.str value)) true
          return some (located.getD normalizedDetailUrl)

/-! ## Dates -/

def datetimeLikeFormats : List String :=
  ["%Y-%m-%d %H:%M:%S", "%Y-%m-%d %H:%M", "%Y/%m/%d %H:%M:%S", "%Y/%m/%d %H:%M", "%Y-%m-%d", "%Y/%m/%d",
    "%Y%m%d", "%Y年%m月%d日 %H点%M分", "%Y年%m月%d日%H点%M分", "%Y年%m月%d日"]

def parseDatetimeLike (value : Value) : Except PyError (Option DateTime) :=
  match value with
  | some (.datetime _ moment) => moment.aware.astimezone.map some
  | _ =>
      match normalizeText python value false with
      | none => .ok none
      | some text =>
          match python.fromisoformat (replaceChar text 'Z' "+00:00") with
          | some moment => moment.aware.astimezone.map some
          | none => .ok ((datetimeLikeFormats.findSome? (python.strptime text)).map DateTime.replaceUtc)

/-- A match of the date pattern at the start of the text: four digits, a separator (`-`, `/`, `年`),
one or two digits, a separator (`-`, `/`, `月`), one or two digits. -/
def matchDate (chars : List Char) : Option (ℕ × ℕ × ℕ) :=
  let year := (chars.take 4).takeWhile Char.isDigit
  let afterYear := chars.drop 4
  let month := (afterYear.tail.take 2).takeWhile Char.isDigit
  let afterMonth := afterYear.tail.drop month.length
  let day := (afterMonth.tail.take 2).takeWhile Char.isDigit
  if year.length = 4 ∧ afterYear.head?.any ['-', '/', '年'].contains ∧ month ≠ [] ∧
      afterMonth.head?.any ['-', '/', '月'].contains ∧ day ≠ [] then
    some (digitsValue year, digitsValue month, digitsValue day)
  else none

def normalizePublishedDate (value : Value) : Except PyError (Option String) := do
  match ← parseDatetimeLike python value with
  | some moment => return some (python.isoDate (← moment.astimezone))
  | none =>
      match (normalizeText python value false).bind fun text ↦ text.toList.tails.findSome? matchDate with
      | none => return none
      | some (year, month, day) => return some (python.isoDate (← (← python.date year month day).astimezone))

/-! ## Keys -/

def stableSeedText (text : Option String) : String := (text.bind nonEmpty).getD "-"

/-- `sha256_text` of the components of a key -/
def hashSeed (components : List (Option String)) : String :=
  python.sha256Text (String.intercalate "|" (components.map stableSeedText))

/-- The fields of an item that its keys are built from. -/
structure KeyFields where
  title : Value
  publishedAt : Value
  purchaser : Value
  publisher : Value
  budgetAmount : Value
  region : Value
  detailUrl : Value := none
  detailId : Value := none

/-- The detail locator of a key that includes one. -/
def KeyFields.detailLocator (fields : KeyFields) (includeDetailLocator : Bool) : Except PyError (Option String) :=
  if includeDetailLocator then extractDetailLocator python fields.detailUrl fields.detailId else .ok none

def buildNoticeDedupKey (fields : KeyFields) (includeDetailLocator : Bool) : Except PyError String := do
  let publishedDate ← normalizePublishedDate python fields.publishedAt
  let purchaserOrPublisher :=
    normalizePurchaserOrPublisher python fields.purchaser <|> normalizePurchaserOrPublisher python fields.publisher
  let budgetBucket ← normalizeBudgetBucket python fields.budgetAmount
  let detailLocator ← fields.detailLocator python includeDetailLocator
  return hashSeed python
    [normalizeTitle python fields.title, publishedDate, purchaserOrPublisher, budgetBucket,
      normalizeRegion python fields.region, detailLocator]

def buildPersistenceDedupKey (fields : KeyFields) : Except PyError String := do
  let purchaserOrPublisher :=
    normalizePurchaserOrPublisher python fields.purchaser <|> normalizePurchaserOrPublisher python fields.publisher
  let budgetBucket ← normalizeBudgetBucket python fields.budgetAmount
  let signals := [purchaserOrPublisher, budgetBucket, normalizeRegion python fields.region]
  let signalCount := (signals.filter Option.isSome).length
  buildNoticeDedupKey python fields (signalCount < 2)

/-- `build_source_duplicate_key`; `issuer` stands in for a missing `publisher`. -/
def buildSourceDuplicateKey (sourceCode noticeType issuer : Value) (fields : KeyFields) :
    Except PyError String := do
  match (← extractDetailLocator python fields.detailUrl fields.detailId).bind nonEmpty with
  | some detailLocator =>
      return hashSeed python
        [normalizeText python sourceCode true, some (normalizeNoticeType noticeType), some detailLocator]
  | none =>
      buildPersistenceDedupKey python
        { fields with publisher := fields.publisher.or issuer, detailUrl := none, detailId := none }

def ensureContentHash (contentHash rawBody : Value) : Option String :=
  contentHash.asStr <|> rawBody.asStr.map python.sha256Text

structure NoticeIdentity where
  dedupHash : Option String
  externalId : Option String
  normalizedDetailUrl : Option String
  normalizedTitle : Option String
  mergeStrategy : String

def buildNoticeIdentity (item : Item) : Except PyError NoticeIdentity := do
  let sourceCode := item.sourceCode.asStr.getD "unknown_source"
  let externalId := (item.externalId.or item.noticeExternalId).asStr
  let title := normalizeTitle python item.title
  let detailUrl ← normalizeDetailUrl python ((item.detailPageUrl.or item.sourceUrl).or item.url)
  let identity := fun (dedupHash : Option String) mergeStrategy ↦
    NoticeIdentity.mk dedupHash externalId detailUrl title mergeStrategy
  match externalId, detailUrl.bind nonEmpty, title with
  | some externalId, _, _ =>
      return identity (some (python.sha256Text s!"{sourceCode}|external_id|{externalId}")) "external_id"
  | none, some detailUrl, _ =>
      return identity (some (python.sha256Text s!"{sourceCode}|detail_url|{detailUrl}")) "detail_url"
  | none, none, some title =>
      return identity (some (python.sha256Text s!"{sourceCode}|title|{title}")) "title"
  | none, none, none =>
      match (item.dedupHash.or item.noticeDedupHash).asStr with
      | some providedDedup => return identity (some providedDedup) "provided"
      | none => return identity none "fallback"

/-! ## Items -/

/-- The fields that `normalize_notice_item` builds the `dedup_key` from. -/
def Item.dedupKeyFields (item : Item) : KeyFields where
  title := item.title
  publishedAt := item.publishedAt
  purchaser := item.purchaser
  publisher := item.issuer.or item.publisher
  budgetAmount := item.budgetAmount
  region := item.region
  detailUrl := (item.detailPageUrl.or item.sourceUrl).or item.url
  detailId := item.externalId.or item.noticeExternalId

/-- The `dedup_key` of an item, built where it has none. -/
def Item.resolvedDedupKey (item : Item) : Except PyError String :=
  match item.dedupKey.asStr with
  | some dedupKey => .ok dedupKey
  | none => buildPersistenceDedupKey python item.dedupKeyFields

/-- The `source_duplicate_key` of an item, built where it has none. -/
def Item.resolvedSourceDuplicateKey (item : Item) : Except PyError String :=
  match item.sourceDuplicateKey.asStr with
  | some sourceDuplicateKey => .ok sourceDuplicateKey
  | none =>
      buildSourceDuplicateKey python item.sourceCode item.noticeType item.issuer
        { item.dedupKeyFields with publisher := item.publisher }

/-- The first assignments of `normalize_notice_item`, up to the detail URL. -/
def Item.identified (item : Item) (identity : NoticeIdentity) (dedupKey : String) : Item :=
  let dedupHash := (item.dedupHash.or item.noticeDedupHash).asStr <|> identity.dedupHash
  { item with
    dedupKey := Value.ofText (some dedupKey)
    dedupHash := Value.ofText dedupHash
    noticeDedupHash := Value.ofText dedupHash
    externalId := Value.ofText identity.externalId
    noticeExternalId := Value.ofText identity.externalId
    noticeType := Value.ofText (some (normalizeNoticeType item.noticeType))
    contentHash := Value.ofText (ensureContentHash python (item.contentHash.or item.rawContentHash) item.contentText)
    detailPageUrl :=
      if item.detailPageUrl.asStr.isNone ∧ (identity.normalizedDetailUrl.bind nonEmpty).isSome then
        Value.ofText identity.normalizedDetailUrl
      else item.detailPageUrl }

def normalizeNoticeItem (item : Item) : Except PyError Item := do
  let identity ← buildNoticeIdentity python item
  let dedupKey ← item.resolvedDedupKey python
  let identified := item.identified python identity dedupKey
  let sourceDuplicateKey ← identified.resolvedSourceDuplicateKey python
  return { identified with sourceDuplicateKey := Value.ofText (some sourceDuplicateKey) }

def normalizeRawDocumentItem (item : Item) : Except PyError Item := do
  let normalizedUrl ← normalizeDetailUrl python (item.normalizedUrl.or item.url)
  let normalized := { item with
    normalizedUrl := Value.ofText normalizedUrl
    urlHash := Value.ofText ((normalizedUrl.bind nonEmpty).map python.sha256Text)
    contentHash := Value.ofText (ensureContentHash python item.contentHash item.rawBody) }
  match item.sourceDuplicateKey.asStr with
  | some _ => return normalized
  | none =>
      let extraMeta := fun key ↦ (item.extraMeta.map (Mapping.get · key)).join
      let sourceDuplicateKey ← buildSourceDuplicateKey python item.sourceCode (extraMeta "notice_type") (extraMeta "issuer")
        { title := item.title
          publishedAt := extraMeta "published_at"
          purchaser := none
          publisher := none
          budgetAmount := none
          region := extraMeta "region"
          detailUrl := item.url.or normalized.normalizedUrl }
      return { normalized with sourceDuplicateKey := Value.ofText (some sourceDuplicateKey) }

def normalizeAttachmentItem (item : Item) : Except PyError Item := do
  match (← normalizeDetailUrl python item.fileUrl).bind nonEmpty with
  | some normalizedUrl =>
      return { item with
        fileUrl := Value.ofText (some normalizedUrl)
        urlHash := Value.ofText (some (python.sha256Text normalizedUrl)) }
  | none => return { item with urlHash := none }

end Service

end TenderPhase1.Crawler
