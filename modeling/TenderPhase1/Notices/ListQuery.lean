import TenderPhase1.Crawler.Database
import TenderPhase1.Foundation.OrderedRows

/-!
# The notice list

The queries behind the list of notices and its exports. Both build the same
filtered rows, keep the first row of each dedup key where duplicates are folded, and
sort; the list also counts the rows and reads one page of them. What the databases
do differently (collation, ILIKE, where a null sorts) is a parameter, and so is the
order in which each statement reads its rows.
-/

namespace TenderPhase1.Notices

open PyText Sources Crawler OrderedRows

/-! ## The tables -/

/-- A row with the columns of `TimestampMixin` that the list reads. -/
structure Timestamped (Row : Type) where
  row : Row
  createdAt : DateTime

structure NoticeDb where
  sources : List SourceSite
  notices : List (Timestamped TenderNotice)
  versions : List (Timestamped NoticeVersion)
  /-- The primary keys of the joined tables. -/
  sources_nodup : (sources.map SourceSite.id).Nodup
  notices_nodup : (notices.map (·.row.id)).Nodup

/-- How a database compares texts and amounts, and where a null sorts. -/
structure Engine where
  /-- `column ILIKE pattern` -/
  ilike : String → String → Bool
  collation : String → String → Ordering
  collation_trans : Std.TransCmp collation
  amounts : String → String → Ordering
  amounts_trans : Std.TransCmp amounts
  nullsLeast : Bool

/-- The order in which a statement reads its rows before it sorts them. -/
structure Scan where
  answer : {Row : Type} → List Row → List Row
  answer_perm : ∀ {Row : Type} (rows : List Row), (answer rows).Perm rows

/-! ## Filters -/

/-- A `date`, by the days since 1970-01-01. -/
abbrev Date := ℤ

structure NoticeQueryFilters where
  keyword : Option String := none
  sourceCode : Option String := none
  noticeType : Option String := none
  region : Option String := none
  recentHours : Option ℤ := none
  dateFrom : Option Date := none
  dateTo : Option Date := none

def microsPerHour : ℤ := 3600000000
def microsPerDay : ℤ := 86400000000

def toStartOfDay (day : Date) : DateTime := ⟨day * microsPerDay, some 0⟩

def toEndOfDay (day : Date) : DateTime := ⟨day * microsPerDay + microsPerDay - 1, some 0⟩

/-- `datetime.now(timezone.utc) - timedelta(hours=hours)` -/
def hoursBefore (now : DateTime) (hours : ℤ) : Except PyError DateTime :=
  let wall := now.wall - hours * microsPerHour
  if minWall ≤ wall ∧ wall ≤ maxWall then .ok { now with wall } else .error .overflowError

section Rows

variable (engine : Engine) (db : NoticeDb)

/-- The notice, or a version of it, has been created since. -/
def createdSince (start : DateTime) (notice : Timestamped TenderNotice) : Bool :=
  start.instant ≤ notice.createdAt.instant ||
    db.versions.any fun version ↦
      version.row.noticeId = notice.row.id && start.instant ≤ version.createdAt.instant

/-- `if filters.…:` on a filter that is compared with a column -/
def matchesText (filter column : Option String) : Bool :=
  match filter with
  | none => true
  | some text => text = "" || column = some text

/-- The conditions of `_build_base_rows_query`; a comparison with a null keeps no row. -/
def NoticeQueryFilters.keeps (filters : NoticeQueryFilters) (recentStart : Option DateTime) (source : SourceSite)
    (notice : Timestamped TenderNotice) : Bool :=
  let normalizedKeyword := strip (filters.keyword.getD "")
  let pattern := "%" ++ normalizedKeyword ++ "%"
  (normalizedKeyword = "" ||
    (engine.ilike notice.row.title pattern || notice.row.issuer.any (engine.ilike · pattern) ||
      notice.row.region.any (engine.ilike · pattern))) &&
  matchesText filters.sourceCode (some source.code) &&
  matchesText filters.noticeType (some notice.row.noticeType) &&
  matchesText filters.region notice.row.region &&
  recentStart.all (createdSince db · notice) &&
  filters.dateFrom.all (fun day ↦
    notice.row.publishedAt.any fun published ↦ (toStartOfDay day).instant ≤ published.instant) &&
  filters.dateTo.all fun day ↦
    notice.row.publishedAt.any fun published ↦ published.instant ≤ (toEndOfDay day).instant

/-! ## The filtered rows -/

/-- SQL `trim`, which only removes blanks -/
def sqlTrim (text : String) : String :=
  String.ofList ((text.toList.dropWhile (· = ' ')).reverse.dropWhile (· = ' ')).reverse

/-- `nullif(trim(column), '')` -/
def nullifBlank (column : Option String) : Option String :=
  column.bind fun text ↦ if sqlTrim text = "" then none else some (sqlTrim text)

/-- `coalesce(trim(column), '')` -/
def trimmedOrEmpty (column : Option String) : String := (column.map sqlTrim).getD ""

/-- `_dedup_key_expr` -/
def dedupKeyOf (notice : TenderNotice) : String :=
  let fallback := "fallback:" ++ toString notice.sourceSiteId ++ "|" ++ trimmedOrEmpty notice.externalId ++ "|" ++
    trimmedOrEmpty notice.projectCode ++ "|" ++ trimmedOrEmpty (some notice.title)
  ((nullifBlank notice.dedupKey <|> nullifBlank notice.sourceDuplicateKey) <|>
    nullifBlank notice.dedupHash).getD fallback

structure NoticeRow where
  id : ℕ
  sourceCode : String
  sourceName : String
  title : String
  noticeType : String
  issuer : Option String
  region : Option String
  publishedAt : Option DateTime
  deadlineAt : Option DateTime
  budgetAmount : Option String
  currentVersionId : Option ℕ
  dedupKey : String
  isRecentNew : Bool
  deriving DecidableEq, Repr

def noticeRow (recentStartAt : DateTime) (source : SourceSite) (notice : Timestamped TenderNotice) : NoticeRow where
  id := notice.row.id
  sourceCode := source.code
  sourceName := source.name
  title := notice.row.title
  noticeType := notice.row.noticeType
  issuer := notice.row.issuer
  region := notice.row.region
  publishedAt := notice.row.publishedAt
  deadlineAt := notice.row.deadlineAt
  budgetAmount := notice.row.budgetAmount
  currentVersionId := notice.row.currentVersionId
  dedupKey := dedupKeyOf notice.row
  isRecentNew := createdSince db recentStartAt notice

/-- The rows of `_build_base_rows_query`: each kept notice with its source. -/
def baseRows (now : DateTime) (filters : NoticeQueryFilters) : Except PyError (List NoticeRow) := do
  let recentStartAt ← hoursBefore now 24
  let recentStart ← filters.recentHours.mapM (hoursBefore now)
  return db.notices.flatMap fun notice ↦
    (db.sources.filter fun source ↦
      source.id = notice.row.sourceSiteId && filters.keeps engine db recentStart source notice).map
        (noticeRow db recentStartAt · notice)

end Rows

/-! ## Folding duplicates -/

section Order

variable (engine : Engine)

/-- A nullable column of a query, as an ORDER BY meets it. -/
structure Column (Row : Type) where
  isNull : SortKey Row
  asc : SortKey Row

def Column.desc {Row : Type} (column : Column Row) : SortKey Row := column.asc.desc

def Engine.column {Row Value : Type} (cmp : Value → Value → Ordering) [Std.TransCmp cmp] (value : Row → Option Value) :
    Column Row where
  isNull := .on compare fun row ↦ (value row).isNone
  asc := .on (compareNullable engine.nullsLeast cmp) value

def compareInstants (a b : DateTime) : Ordering := compare a.instant b.instant

instance : Std.TransCmp compareInstants := inferInstanceAs (Std.TransCmp (compareOn DateTime.instant))

/-- The order of `_build_ranked_rows_query`. -/
def rankOrder : List (SortKey NoticeRow) :=
  let publishedAt : Column NoticeRow := engine.column compareInstants NoticeRow.publishedAt
  [(SortKey.on compare NoticeRow.isRecentNew).desc, publishedAt.isNull, publishedAt.desc,
    (SortKey.on compare NoticeRow.id).desc]

structure NoticeListRow extends NoticeRow where
  duplicateCount : ℕ
  deriving DecidableEq, Repr

/-- `_build_list_query` over the filtered rows -/
def listRows (dedup : Bool) (rows : List NoticeRow) : List NoticeListRow :=
  if dedup then (firsts NoticeRow.dedupKey (rankOrder engine) rows).map fun ranked ↦ ⟨ranked.row, ranked.count⟩
  else rows.map fun row ↦ ⟨row, 1⟩

/-! ## Sorting -/

def noticeSortFields : List String := ["published_at", "deadline_at", "budget_amount", "source_name"]
def noticeSortOrders : List String := ["asc", "desc"]

def normalizeSortBy (sortBy : String) : String := if noticeSortFields.contains sortBy then sortBy else "published_at"

def normalizeSortOrder (sortOrder : String) : String :=
  if noticeSortOrders.contains sortOrder then sortOrder else "desc"

def sortColumn (normalizedSortBy : String) : Column NoticeListRow :=
  have := engine.collation_trans
  have := engine.amounts_trans
  if normalizedSortBy = "deadline_at" then engine.column compareInstants fun row ↦ row.deadlineAt
  else if normalizedSortBy = "budget_amount" then engine.column engine.amounts fun row ↦ row.budgetAmount
  else if normalizedSortBy = "source_name" then engine.column engine.collation fun row ↦ some row.sourceName
  else engine.column compareInstants fun row ↦ row.publishedAt

/-- `table.c.id.desc()` -/
def idDesc : SortKey NoticeListRow := (SortKey.on compare fun row : NoticeListRow ↦ row.id).desc

def buildOrderBy (sortBy sortOrder : String) : List (SortKey NoticeListRow) :=
  let normalizedSortBy := normalizeSortBy sortBy
  let normalizedSortOrder := normalizeSortOrder sortOrder
  let column := sortColumn engine normalizedSortBy
  if normalizedSortOrder = "asc" then [column.isNull, column.asc, idDesc]
  else if normalizedSortBy = "published_at" then
    [(SortKey.on compare fun row : NoticeListRow ↦ row.isRecentNew).desc, column.isNull, column.desc, idDesc]
  else [column.isNull, column.desc, idDesc]

end Order

/-! ## The list and its exports -/

structure NoticeListItemRecord extends NoticeRow where
  duplicateCount : ℕ
  deriving DecidableEq, Repr

structure NoticeListResult where
  items : List NoticeListItemRecord
  total : ℕ
  limit : ℕ
  offset : ℕ
  deriving DecidableEq, Repr

def toListItem (row : NoticeListRow) : NoticeListItemRecord where
  toNoticeRow := row.toNoticeRow
  duplicateCount := if row.duplicateCount = 0 then 1 else row.duplicateCount

section Queries

variable (engine : Engine) (db : NoticeDb) (now : DateTime) (filters : NoticeQueryFilters) (dedup : Bool)
  (sortBy sortOrder : String)

/-- The rows of the subquery `notice_list`, as a statement reads them. -/
def buildListQuery (scan : Scan) : Except PyError (List NoticeListRow) := do
  let rows ← baseRows engine db now filters
  return scan.answer (listRows engine dedup (scan.answer rows))

/-- `list_notices`: one statement counts the rows, and another one reads the page. -/
def listNotices (limit offset : ℕ) (counting reading : Scan) : Except PyError NoticeListResult := do
  let counted ← buildListQuery engine db now filters dedup counting
  let rows ← buildListQuery engine db now filters dedup reading
  return {
    items := (page limit offset (orderBy (buildOrderBy engine sortBy sortOrder) rows)).map toListItem
    total := counted.length
    limit := limit
    offset := offset }

def listNoticesForExport (reading : Scan) : Except PyError (List NoticeListItemRecord) := do
  let rows ← buildListQuery engine db now filters dedup reading
  return (orderBy (buildOrderBy engine sortBy sortOrder) rows).map toListItem

end Queries

/-- The service normalises the sort before the repository does so again. -/
theorem buildOrderBy_normalized (engine : Engine) (sortBy sortOrder : String) :
    buildOrderBy engine (normalizeSortBy sortBy) (normalizeSortOrder sortOrder) =
      buildOrderBy engine sortBy sortOrder := by
  have hsortBy : normalizeSortBy (normalizeSortBy sortBy) = normalizeSortBy sortBy := by
    unfold normalizeSortBy
    split_ifs with h
    · rfl
    · rfl
    · rfl
  have hsortOrder : normalizeSortOrder (normalizeSortOrder sortOrder) = normalizeSortOrder sortOrder := by
    unfold normalizeSortOrder
    split_ifs with h
    · rfl
    · rfl
    · rfl
  unfold buildOrderBy
  rw [hsortBy, hsortOrder]

end TenderPhase1.Notices
