import TenderPhase1.Crawler.Values
import TenderPhase1.Foundation.Raising
import TenderPhase1.Sources.Model

/-!
# The database as the writers meet it

The rows of the crawler's tables, the constraints that a flush checks, and the
transaction of one writer call. A writer's session flushes before each of its
queries, so a call works on the rows it has changed; they are lost unless it
commits. The cache of source ids is not part of the transaction.
-/

namespace TenderPhase1.Crawler

open Jobs Sources Raising

/-! ## Rows -/

structure RawDocument where
  id : ℕ
  sourceSiteId : ℕ
  crawlJobId : Option ℤ
  url : String
  normalizedUrl : String
  urlHash : String
  contentHash : Option String
  sourceDuplicateKey : Option String
  sourceListItemFingerprint : Option String
  documentType : String
  httpStatus : Option ℤ
  mimeType : Option String
  charset : Option String
  title : Option String
  fetchedAt : DateTime
  storageUri : String
  contentLength : Option ℤ
  isDuplicateUrl : Bool
  isDuplicateContent : Bool
  extraMeta : Option Mapping
  deriving DecidableEq, Repr

structure TenderNotice where
  id : ℕ
  sourceSiteId : ℕ
  externalId : Option String
  projectCode : Option String
  dedupHash : Option String
  dedupKey : Option String
  sourceDuplicateKey : Option String
  title : String
  noticeType : String
  issuer : Option String
  region : Option String
  publishedAt : Option DateTime
  deadlineAt : Option DateTime
  budgetAmount : Option String
  budgetCurrency : String
  summary : Option String
  firstPublishedAt : Option DateTime
  latestPublishedAt : Option DateTime
  currentVersionId : Option ℕ
  deriving DecidableEq, Repr

structure NoticeVersion where
  id : ℕ
  noticeId : ℕ
  rawDocumentId : Option ℕ
  versionNo : ℤ
  isCurrent : Bool
  contentHash : String
  dedupKey : Option String
  sourceDuplicateKey : Option String
  title : String
  noticeType : String
  issuer : Option String
  region : Option String
  publishedAt : Option DateTime
  deadlineAt : Option DateTime
  budgetAmount : Option String
  budgetCurrency : String
  structuredData : Mapping
  changeSummary : Option String
  deriving DecidableEq, Repr

structure TenderAttachment where
  id : ℕ
  sourceSiteId : ℕ
  noticeId : ℕ
  noticeVersionId : Option ℕ
  rawDocumentId : Option ℕ
  fileName : String
  attachmentType : String
  fileUrl : String
  urlHash : String
  fileHash : Option String
  storageUri : Option String
  mimeType : Option String
  fileExt : Option String
  fileSizeBytes : Option ℤ
  publishedAt : Option DateTime
  downloadedAt : Option DateTime
  isDeleted : Bool
  deriving DecidableEq, Repr

structure CrawlError where
  id : ℕ
  sourceSiteId : ℕ
  crawlJobId : Option ℤ
  rawDocumentId : Option ℕ
  stage : String
  url : Option String
  errorType : String
  errorMessage : String
  traceback : Option String
  retryable : Bool
  occurredAt : DateTime
  resolved : Bool
  deriving DecidableEq, Repr

structure Db where
  sources : List SourceSite
  jobs : List CrawlJob
  rawDocuments : List RawDocument
  notices : List TenderNotice
  versions : List NoticeVersion
  attachments : List TenderAttachment
  errors : List CrawlError

/-! ## The connection -/

/-- Where the database may refuse a call for reasons of its own: a value that does not fit its
column, a lost connection. -/
inductive Stage where
  | newSource
  | statement
  | commit
  deriving DecidableEq

/-- The database and the clock during one call. SQLite hands out the greatest id plus one and
forgets the offset of a datetime, PostgreSQL uses sequences and checks foreign keys. -/
structure Connection where
  nextId : List ℕ → ℕ
  nextId_notMem : ∀ ids, nextId ids ∉ ids
  /-- The order in which the rows of a query without ORDER BY come back. -/
  answer : {Row : Type} → List Row → List Row
  answer_perm : ∀ {Row : Type} (rows : List Row), (answer rows).Perm rows
  /-- A datetime or an amount as it is read back from its column. -/
  storedDatetime : DateTime → DateTime
  storedAmount : String → String
  foreignKeys : Bool
  fails : Stage → Bool
  now : DateTime

/-- The unique constraints of each table; those on nullable columns do not count nulls. -/
def uniqueSources (rows : List SourceSite) : Bool :=
  (rows.map SourceSite.id).Nodup ∧ (rows.map SourceSite.code).Nodup

def uniqueRawDocuments (rows : List RawDocument) : Bool :=
  (rows.map RawDocument.id).Nodup ∧ (rows.map fun row ↦ (row.sourceSiteId, row.urlHash)).Nodup

def TenderNotice.externalIdKey (row : TenderNotice) : Option (ℕ × String) :=
  row.externalId.map (row.sourceSiteId, ·)

def TenderNotice.dedupHashKey (row : TenderNotice) : Option (ℕ × String) :=
  row.dedupHash.map (row.sourceSiteId, ·)

def uniqueNotices (rows : List TenderNotice) : Bool :=
  (rows.map TenderNotice.id).Nodup ∧ (rows.filterMap TenderNotice.externalIdKey).Nodup ∧
    (rows.filterMap TenderNotice.dedupHashKey).Nodup

def uniqueVersions (rows : List NoticeVersion) : Bool :=
  (rows.map NoticeVersion.id).Nodup ∧ (rows.map fun row ↦ (row.noticeId, row.versionNo)).Nodup ∧
    (rows.map fun row ↦ (row.noticeId, row.contentHash)).Nodup

def uniqueAttachments (rows : List TenderAttachment) : Bool :=
  (rows.map TenderAttachment.id).Nodup ∧ (rows.map fun row ↦ (row.sourceSiteId, row.urlHash)).Nodup

def Db.unique (db : Db) : Bool :=
  uniqueSources db.sources && uniqueRawDocuments db.rawDocuments && uniqueNotices db.notices &&
    uniqueVersions db.versions && uniqueAttachments db.attachments && (db.errors.map CrawlError.id).Nodup

/-- The foreign keys to `crawl_job`, the only ones that an item can break. -/
def Db.jobsExist (db : Db) : Bool :=
  ((db.rawDocuments.filterMap RawDocument.crawlJobId) ++ (db.errors.filterMap CrawlError.crawlJobId)).all
    fun jobId ↦ db.jobs.any fun job ↦ (job.id : ℤ) = jobId

def Connection.accepts (conn : Connection) (db : Db) : Bool :=
  db.unique && (!conn.foreignKeys || db.jobsExist)

/-! ## Stored rows -/

section Stored

variable (conn : Connection)

def RawDocument.stored (row : RawDocument) : RawDocument :=
  { row with fetchedAt := conn.storedDatetime row.fetchedAt }

def TenderNotice.stored (row : TenderNotice) : TenderNotice :=
  { row with
    publishedAt := row.publishedAt.map conn.storedDatetime
    deadlineAt := row.deadlineAt.map conn.storedDatetime
    budgetAmount := row.budgetAmount.map conn.storedAmount
    firstPublishedAt := row.firstPublishedAt.map conn.storedDatetime
    latestPublishedAt := row.latestPublishedAt.map conn.storedDatetime }

def NoticeVersion.stored (row : NoticeVersion) : NoticeVersion :=
  { row with
    publishedAt := row.publishedAt.map conn.storedDatetime
    deadlineAt := row.deadlineAt.map conn.storedDatetime
    budgetAmount := row.budgetAmount.map conn.storedAmount }

def TenderAttachment.stored (row : TenderAttachment) : TenderAttachment :=
  { row with
    publishedAt := row.publishedAt.map conn.storedDatetime
    downloadedAt := row.downloadedAt.map conn.storedDatetime }

def CrawlError.stored (row : CrawlError) : CrawlError :=
  { row with occurredAt := conn.storedDatetime row.occurredAt }

/-- The rows that a commit leaves: those the call has changed go through their columns. -/
def storedRows {Row : Type} [DecidableEq Row] (stored : Row → Row) (committed work : List Row) : List Row :=
  work.map fun row ↦ if row ∈ committed then row else stored row

def Db.stored (committed work : Db) : Db :=
  { work with
    rawDocuments := storedRows (RawDocument.stored conn) committed.rawDocuments work.rawDocuments
    notices := storedRows (TenderNotice.stored conn) committed.notices work.notices
    versions := storedRows (NoticeVersion.stored conn) committed.versions work.versions
    attachments := storedRows (TenderAttachment.stored conn) committed.attachments work.attachments
    errors := storedRows (CrawlError.stored conn) committed.errors work.errors }

end Stored

/-! ## The transaction of a call -/

inductive WriterError where
  | python (error : PyError)
  | service (error : ServiceError)
  | integrityError
  | databaseError
  deriving DecidableEq, Repr

/-- The cache of the writer context, the committed rows, and the rows as the call sees them. -/
structure CallState where
  sourceCache : List (String × ℕ)
  committed : Db
  work : Db

abbrev Call := Program CallState WriterError

def raisePython {Result : Type} : Except PyError Result → Call Result
  | .ok result => pure result
  | .error error => throw (.python error)

section Statements

variable (conn : Connection)

def flush (stage : Stage) : Call Unit := do
  let state ← get
  if conn.fails stage then throw .databaseError
  else if conn.accepts state.work then pure ()
  else throw .integrityError

/-- The rows of a query, once what is pending is sent. -/
def scalars {Row : Type} (table : Db → List Row) (filter : Row → Bool) : Call (List Row) := do
  flush conn .statement
  let state ← get
  return conn.answer ((table state.work).filter filter)

def scalar {Row : Type} (table : Db → List Row) (filter : Row → Bool) : Call (Option Row) := do
  return (← scalars conn table filter).head?

def update (change : Db → Db) : Call Unit := modify fun state ↦ { state with work := change state.work }

def commit : Call Unit := do
  flush conn .commit
  modify fun state ↦
    let stored := Db.stored conn state.committed state.work
    { state with committed := stored, work := stored }

end Statements

def putRow {Row : Type} (id : Row → ℕ) (row : Row) (rows : List Row) : List Row :=
  rows.map fun other ↦ if id other = id row then row else other

def putNotice (notice : TenderNotice) : Call Unit :=
  update fun db ↦ { db with notices := putRow TenderNotice.id notice db.notices }

def putVersion (version : NoticeVersion) : Call Unit :=
  update fun db ↦ { db with versions := putRow NoticeVersion.id version db.versions }

end TenderPhase1.Crawler
