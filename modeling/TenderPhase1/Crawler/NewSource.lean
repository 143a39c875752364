import TenderPhase1.Crawler.Constraints

/-!
# Items of a new source

A session that has just inserted its source comes to its commit for every item
that has the fields its writer needs, whose published date fits the calendar of
UTC, and whose crawl job exists. No notice of the source exists yet, so the
lookups find none and no constraint can break.
-/

namespace TenderPhase1.Crawler

open Jobs Sources Raising

/-! ## What an item must meet -/

theorem isOk_iff {Result : Type} {result : Except PyError Result} : result.isOk ↔ ∃ value, result = .ok value := by
  cases result <;> simp [Except.isOk, Except.toBool]

/-- The bounds of the day a notice is looked for on, where it is looked for by its day. -/
def Item.dayConverts (python : Python) (item : Item) : Except PyError (Option (ℤ × ℤ)) := do
  let normalizedDate ← normalizePublishedDate python item.publishedAt
  match normalizeTitle python item.title, normalizedDate.bind nonEmpty with
  | some _, some date => some <$> dayBounds python date
  | _, _ => return none

/-- The published date of an item can be compared on the time line of UTC. -/
def Item.publishedConverts (python : Python) (item : Item) : Bool :=
  (item.dayConverts python).isOk && (coerceUtcDatetime (item.publishedAt.asDatetime python)).isOk

/-- The URL and the name of an attachment can be parsed for its name, its extension and its type. -/
def Item.fileConverts (python : Python) (item : Item) : Bool :=
  match item.file python with
  | .ok (some (_, fileUrl, fileName)) =>
      (item.writtenFileExt python fileName fileUrl).isOk &&
        (inferAttachmentMimeType python item.mimeType.asStr fileName fileUrl).isOk
  | .ok none => true
  | .error _ => false

/-- The crawl job of an item exists where the database checks it. -/
def Item.jobExists (python : Python) (conn : Connection) (db : Db) (item : Item) : Bool :=
  !conn.foreignKeys || (item.crawlJobId.asInt python).all fun jobId ↦ db.jobs.any fun job ↦ (job.id : ℤ) = jobId

/-- What a call needs of its item to come to the commit once it has inserted the source. -/
def WriterCall.storable (python : Python) (conn : Connection) (db : Db) (item : Item) (call : WriterCall) : Bool :=
  call.complete item &&
    match call with
    | .rawDocument _ | .error _ => item.jobExists python conn db
    | .notice _ | .noticeVersion _ => item.publishedConverts python
    | .attachment _ => item.publishedConverts python && item.fileConverts python

/-! ## The session with a new source -/

/-- The database as a session has it that has inserted its source. -/
structure NewSource (conn : Connection) (sourceSiteId : ℕ) (db : Db) : Prop where
  accepted : conn.accepts db
  noNotice : ∀ notice ∈ db.notices, notice.sourceSiteId ≠ sourceSiteId

section Session

variable {python : Python} {conn : Connection} {item : Item} {sourceSiteId : ℕ} {state : CallState}

theorem recordStatsInSession_of_nonNegative (job : CrawlJob) {deltas : JobCounters}
    (h : ∀ entry ∈ deltas.entries, 0 ≤ entry.2) :
    recordStatsInSession job deltas = .ok { job with counters := job.counters.add deltas } := by
  have hnone : deltas.entries.find? (·.2 < 0) = none := by
    rw [List.find?_eq_none]
    intro entry hentry
    simpa using h entry hentry
  unfold recordStatsInSession
  rw [hnone]

theorem returns_recordStats {deltas : JobCounters} (hfails : conn.fails .statement = false)
    (haccepts : conn.accepts state.work) (hdeltas : ∀ entry ∈ deltas.entries, 0 ≤ entry.2) :
    Returns (fun _ after ↦ conn.accepts after.work) (recordStats python conn item deltas) state := by
  unfold recordStats
  split
  · exact returns_pure haccepts
  · apply returns_bind
    apply returns_scalar hfails haccepts
    split
    · exact returns_pure haccepts
    · rename_i job _
      rw [recordStatsInSession_of_nonNegative job hdeltas]
      exact returns_update (accepts_jobs haccepts)

/-- Counting comes last before the commit, and never stands in its way. -/
theorem returns_counted {deltas : JobCounters} (hfails : conn.fails .statement = false)
    (haccepts : conn.accepts state.work) (hdeltas : ∀ entry ∈ deltas.entries, 0 ≤ entry.2) :
    Returns (fun _ after ↦ conn.accepts after.work)
      (do recordStats python conn item deltas; return true : Call Bool) state := by
  apply returns_bind
  apply returns_mono (returns_recordStats hfails haccepts hdeltas)
  exact fun _ after hafter ↦ returns_pure hafter

theorem count_nonNegative (flag : Bool) : 0 ≤ count flag := by
  cases flag <;> simp [count]

theorem nonNegativeInt_nonNegative (value : Value) : 0 ≤ value.nonNegativeInt python := le_max_left _ _

/-! ## Raw documents and errors -/

theorem pageDeltas_nonNegative (python : Python) (item : Item) :
    ∀ entry ∈ (item.pageDeltas python).entries, 0 ≤ entry.2 := by
  unfold Item.pageDeltas
  split
  · decide
  · dsimp only
    split
    · simp [JobCounters.entries, nonNegativeInt_nonNegative]
    · split <;> decide

/-- The rows that name a crawl job still name jobs that exist. -/
theorem jobsExist_of_crawlJobIds {before after : Db} (h : before.jobsExist) (hjobs : after.jobs = before.jobs)
    (hids : ∀ jobId, jobId ∈ after.rawDocuments.filterMap RawDocument.crawlJobId ++
        after.errors.filterMap CrawlError.crawlJobId →
      jobId ∈ before.rawDocuments.filterMap RawDocument.crawlJobId ++ before.errors.filterMap CrawlError.crawlJobId ∨
        (before.jobs.any fun job ↦ (job.id : ℤ) = jobId)) : after.jobsExist := by
  unfold Db.jobsExist at h ⊢
  rw [List.all_eq_true] at h ⊢
  intro jobId hmem
  rw [hjobs]
  rcases hids jobId hmem with hbefore | hexists
  · exact h jobId hbefore
  · exact hexists

theorem jobExists_of_crawlJobId {jobId : ℤ} {db : Db} (h : item.jobExists python conn db)
    (hkeys : conn.foreignKeys) (hid : item.crawlJobId.asInt python = some jobId) :
    db.jobs.any fun job ↦ (job.id : ℤ) = jobId := by
  simpa [Item.jobExists, hkeys, hid] using h

/-- The constraints accept a new document under a key that is free. -/
theorem accepts_append_rawDocument {db : Db} {document : RawDocument} (haccepts : conn.accepts db)
    (hjob : item.jobExists python conn db) (hjobId : document.crawlJobId = item.crawlJobId.asInt python)
    (hid : document.id = conn.nextId (db.rawDocuments.map RawDocument.id))
    (hfresh : ∀ row ∈ db.rawDocuments, ¬ (row.sourceSiteId = document.sourceSiteId ∧ row.urlHash = document.urlHash)) :
    conn.accepts { db with rawDocuments := db.rawDocuments ++ [document] } := by
  rw [accepts_iff] at haccepts ⊢
  obtain ⟨hsources, hdocuments, hnotices, hversions, hattachments, herrors, hjobs⟩ := haccepts
  rw [uniqueRawDocuments_iff] at hdocuments
  refine ⟨hsources, uniqueRawDocuments_iff.mpr ⟨?_, ?_⟩, hnotices, hversions, hattachments, herrors, ?_⟩
  · apply nodup_map_append hdocuments.1
    intro other hother
    rw [hid]
    exact conn.nextId_ne hother
  · apply nodup_map_append hdocuments.2
    intro other hother heq
    exact hfresh other hother (Prod.mk.inj heq)
  · intro hkeys
    refine jobsExist_of_crawlJobIds (hjobs hkeys) rfl ?_
    intro jobId hmem
    simp only [List.filterMap_append, List.mem_append, List.mem_filterMap, List.mem_singleton,
      exists_eq_left] at hmem ⊢
    rcases hmem with (hold | hnew) | herror
    · exact Or.inl (Or.inl hold)
    · exact Or.inr (jobExists_of_crawlJobId hjob hkeys (hjobId.symm.trans hnew))
    · exact Or.inl (Or.inr herror)

/-- They accept a document in the place of one with its key. -/
theorem accepts_put_rawDocument {db : Db} {document existing : RawDocument} (haccepts : conn.accepts db)
    (hjob : item.jobExists python conn db) (hjobId : document.crawlJobId = item.crawlJobId.asInt python)
    (hexisting : existing ∈ db.rawDocuments) (hid : document.id = existing.id)
    (hsource : document.sourceSiteId = existing.sourceSiteId) (hhash : document.urlHash = existing.urlHash) :
    conn.accepts { db with rawDocuments := putRow RawDocument.id document db.rawDocuments } := by
  rw [accepts_iff] at haccepts ⊢
  obtain ⟨hsources, hdocuments, hnotices, hversions, hattachments, herrors, hjobs⟩ := haccepts
  rw [uniqueRawDocuments_iff] at hdocuments
  refine ⟨hsources, uniqueRawDocuments_iff.mpr ⟨?_, ?_⟩, hnotices, hversions, hattachments, herrors, ?_⟩
  · rw [map_id_putRow]
    exact hdocuments.1
  · rw [map_putRow hdocuments.1 hexisting hid (Prod.ext hsource hhash)]
    exact hdocuments.2
  · intro hkeys
    refine jobsExist_of_crawlJobIds (hjobs hkeys) rfl ?_
    intro jobId hmem
    simp only [putRow, List.mem_append, List.mem_filterMap, List.mem_map] at hmem ⊢
    rcases hmem with ⟨_, ⟨row, hrow, rfl⟩, hrowJob⟩ | herror
    · split at hrowJob
      · exact Or.inr (jobExists_of_crawlJobId hjob hkeys (hjobId.symm.trans hrowJob))
      · exact Or.inl (Or.inl ⟨row, hrow, hrowJob⟩)
    · exact Or.inl (Or.inr herror)

/-- A document is put where its job exists and the database takes rows. -/
theorem returns_putRawDocument {urlHash : String} {existing : Option RawDocument} {duplicateContent : Bool}
    (haccepts : conn.accepts state.work) (hjob : item.jobExists python conn state.work)
    (hfound : (conn.answer (state.work.rawDocuments.filter
      fun row ↦ row.sourceSiteId = sourceSiteId ∧ row.urlHash = urlHash)).head? = existing) :
    Returns (fun _ after ↦ conn.accepts after.work)
      (putRawDocument python conn item sourceSiteId urlHash existing duplicateContent) state := by
  unfold putRawDocument
  cases existing with
  | none =>
    apply returns_update
    apply accepts_append_rawDocument haccepts hjob rfl rfl
    intro row hrow
    exact of_decide_eq_false (filter_eq_false_of_head?_answer hfound row hrow)
  | some existing =>
    obtain ⟨hmem, hkey⟩ := mem_of_head?_answer hfound
    have hkeys := of_decide_eq_true hkey
    apply returns_update
    exact accepts_put_rawDocument haccepts hjob rfl hmem rfl hkeys.1.symm hkeys.2.symm

theorem returns_duplicateContentId {post : Option ℕ → CallState → Prop} (hfails : conn.fails .statement = false)
    (haccepts : conn.accepts state.work) (hpost : ∀ found, post found state) :
    Returns post (duplicateContentId conn item sourceSiteId) state := by
  unfold duplicateContentId
  split
  · exact returns_pure (hpost none)
  · apply returns_bind
    apply returns_scalar hfails haccepts
    exact returns_pure (hpost _)

theorem returns_storeRawDocumentAt {urlHash : String} (hfails : conn.fails .statement = false)
    (haccepts : conn.accepts state.work) (hjob : item.jobExists python conn state.work) :
    Returns (fun _ after ↦ conn.accepts after.work) (storeRawDocumentAt python conn item urlHash sourceSiteId) state := by
  apply returns_bind
  apply returns_scalar hfails haccepts
  apply returns_bind
  apply returns_duplicateContentId hfails haccepts
  intro duplicateContentId
  apply returns_bind
  apply returns_mono (returns_putRawDocument haccepts hjob rfl)
  intro _ after hafter
  apply returns_counted hfails hafter
  have hpage := pageDeltas_nonNegative python item
  simp only [JobCounters.entries, List.forall_mem_cons] at hpage
  simp [JobCounters.entries, count_nonNegative, hpage]

/-- An error is stored where the job it names exists. -/
theorem returns_storeError (hfails : conn.fails .statement = false) (haccepts : conn.accepts state.work)
    (hjob : item.jobExists python conn state.work) :
    Returns (fun _ after ↦ conn.accepts after.work) (storeError python conn item sourceSiteId) state := by
  apply returns_bind
  apply returns_update
  have hinserted (error : CrawlError) (hid : error.id = conn.nextId (state.work.errors.map CrawlError.id))
      (hjobId : error.crawlJobId = item.crawlJobId.asInt python) :
      conn.accepts { state.work with errors := state.work.errors ++ [error] } := by
    rw [accepts_iff] at haccepts ⊢
    obtain ⟨hsources, hdocuments, hnotices, hversions, hattachments, herrors, hjobs⟩ := haccepts
    refine ⟨hsources, hdocuments, hnotices, hversions, hattachments, ?_, ?_⟩
    · apply nodup_map_append herrors
      intro other hother
      rw [hid]
      exact conn.nextId_ne hother
    · intro hkeys
      refine jobsExist_of_crawlJobIds (hjobs hkeys) rfl ?_
      intro jobId hmem
      simp only [List.filterMap_append, List.mem_append, List.mem_filterMap, List.mem_singleton,
        exists_eq_left] at hmem ⊢
      rcases hmem with hdocument | hold | hnew
      · exact Or.inl (Or.inl hdocument)
      · exact Or.inl (Or.inr hold)
      · exact Or.inr (jobExists_of_crawlJobId hjob hkeys (hjobId.symm.trans hnew))
  exact returns_counted hfails (hinserted _ rfl rfl) (by decide)

/-! ## Notices -/

theorem returns_firstNotice_none {post : Option TenderNotice → CallState → Prop}
    {queries : List (TenderNotice → Bool)} (hfails : conn.fails .statement = false)
    (haccepts : conn.accepts state.work)
    (hnone : ∀ query ∈ queries, ∀ notice ∈ state.work.notices, query notice = false) (hpost : post none state) :
    Returns post (firstNotice conn queries) state := by
  induction queries with
  | nil => exact returns_pure hpost
  | cons query queries ih =>
    apply returns_bind
    apply returns_scalar hfails haccepts
    rw [answer_eq_nil (hnone query List.mem_cons_self)]
    exact ih fun other hother ↦ hnone other (List.mem_cons_of_mem _ hother)

/-- A source without notices has none that is similar. -/
theorem returns_findNoticeByHighSimilarity_none {post : Option TenderNotice → CallState → Prop}
    (hfails : conn.fails .statement = false) (haccepts : conn.accepts state.work)
    (hday : (item.dayConverts python).isOk)
    (hnone : ∀ notice ∈ state.work.notices, notice.sourceSiteId ≠ sourceSiteId) (hpost : post none state) :
    Returns post (findNoticeByHighSimilarity python conn sourceSiteId item) state := by
  obtain ⟨day, hday⟩ := isOk_iff.mp hday
  obtain ⟨normalizedDate, hdate, hday⟩ := bind_eq_ok.mp hday
  unfold findNoticeByHighSimilarity
  apply returns_bind
  apply returns_raisePython hdate
  cases htitle : normalizeTitle python item.title with
  | none => exact returns_pure hpost
  | some title =>
    cases hnormalized : normalizedDate.bind nonEmpty with
    | none => exact returns_pure hpost
    | some date =>
      simp only [htitle, hnormalized] at hday
      cases hbounds : dayBounds python date with
      | error error =>
        rw [hbounds] at hday
        cases hday
      | ok bounds =>
        apply returns_bind
        apply returns_raisePython hbounds
        apply returns_bind
        apply returns_scalars hfails haccepts
        rw [answer_eq_nil, if_pos rfl]
        · exact returns_pure hpost
        · intro notice hnotice
          simp [hnone notice hnotice]

/-- A notice that the session has just created and merged its item into. -/
structure NewNotice (python : Python) (conn : Connection) (item : Item) (notice : TenderNotice) (db : Db) :
    Prop where
  accepted : conn.accepts db
  mem : notice ∈ db.notices
  firstPublished : notice.firstPublishedAt = item.publishedAt.asDatetime python
  latestPublished : notice.latestPublishedAt = item.publishedAt.asDatetime python

/-- A notice of a new source breaks no key. -/
theorem uniqueNotices_append {rows : List TenderNotice} {notice : TenderNotice} (h : uniqueNotices rows)
    (hid : notice.id = conn.nextId (rows.map TenderNotice.id))
    (hsource : ∀ other ∈ rows, other.sourceSiteId ≠ notice.sourceSiteId) : uniqueNotices (rows ++ [notice]) := by
  rw [uniqueNotices_iff] at h ⊢
  have hkeys (column : TenderNotice → Option String) (key : ℕ × String)
      (hkey : (column notice).map (notice.sourceSiteId, ·) = some key) (other : TenderNotice) (hother : other ∈ rows) :
      (column other).map (other.sourceSiteId, ·) ≠ some key := by
    intro heq
    obtain ⟨value, -, rfl⟩ := Option.map_eq_some_iff.mp hkey
    obtain ⟨otherValue, -, hpair⟩ := Option.map_eq_some_iff.mp heq
    exact hsource other hother (Prod.mk.inj hpair).1
  refine ⟨?_, ?_, ?_⟩
  · apply nodup_map_append h.1
    intro other hother
    rw [hid]
    exact conn.nextId_ne hother
  · exact nodup_filterMap_append h.2.1 (hkeys TenderNotice.externalId)
  · exact nodup_filterMap_append h.2.2 (hkeys TenderNotice.dedupHash)

theorem applyPublished_of_coerced {notice : TenderNotice} {published : DateTime} {first latest : Option DateTime}
    (hfirst : coerceUtcDatetime notice.firstPublishedAt = .ok first)
    (hlatest : coerceUtcDatetime notice.latestPublishedAt = .ok latest) :
    notice.applyPublished published = .ok { notice with
      publishedAt := some published
      firstPublishedAt :=
        if first.all (published.instant < ·.instant) then some published else notice.firstPublishedAt
      latestPublishedAt :=
        if latest.all (·.instant < published.instant) then some published else notice.latestPublishedAt } := by
  unfold TenderNotice.applyPublished
  rw [hfirst, hlatest]
  rfl

/-- Merging an item into the notice made of it changes neither its keys nor its dates. -/
theorem applyFields_newNotice {id : ℕ} {title : String}
    (hconverts : (coerceUtcDatetime (item.publishedAt.asDatetime python)).isOk) :
    ∃ merged, (item.newNotice python id sourceSiteId title).applyFields python item = .ok merged ∧ merged.id = id ∧
      merged.externalIdKey = (item.newNotice python id sourceSiteId title).externalIdKey ∧
      merged.dedupHashKey = (item.newNotice python id sourceSiteId title).dedupHashKey ∧
      merged.firstPublishedAt = item.publishedAt.asDatetime python ∧
      merged.latestPublishedAt = item.publishedAt.asDatetime python := by
  have hor (value : Option String) : (value <|> value) = value := by cases value <;> rfl
  obtain ⟨coerced, hcoerced⟩ := isOk_iff.mp hconverts
  unfold TenderNotice.applyFields
  split
  · rename_i published hpublished
    refine ⟨_, applyPublished_of_coerced hcoerced hcoerced, rfl, ?_, ?_, ?_, ?_⟩
    · exact congrArg (Option.map _) (hor _)
    · exact congrArg (Option.map _) (hor _)
    · exact ite_eq_iff'.mpr ⟨fun _ ↦ hpublished.symm, fun _ ↦ rfl⟩
    · exact ite_eq_iff'.mpr ⟨fun _ ↦ hpublished.symm, fun _ ↦ rfl⟩
  · refine ⟨_, rfl, rfl, ?_, ?_, rfl, rfl⟩
    · exact congrArg (Option.map _) (hor _)
    · exact congrArg (Option.map _) (hor _)

/-- The first notice of a source can be inserted. -/
theorem returns_createNotice {title : String} (hfails : conn.fails .statement = false)
    (hnew : NewSource conn sourceSiteId state.work) :
    Returns (fun notice after ↦ ∃ id, notice = item.newNotice python id sourceSiteId title ∧
        conn.accepts after.work ∧ notice ∈ after.work.notices)
      (createNotice python conn item sourceSiteId title) state := by
  have haccepts (notice : TenderNotice) (hid : notice.id = conn.nextId (state.work.notices.map TenderNotice.id))
      (hsource : notice.sourceSiteId = sourceSiteId) :
      conn.accepts { state.work with notices := state.work.notices ++ [notice] } := by
    apply accepts_notices hnew.accepted
    apply uniqueNotices_append (accepts_iff.mp hnew.accepted).2.2.1 hid
    rw [hsource]
    exact hnew.noNotice
  apply returns_bind
  apply returns_get
  apply returns_bind
  apply returns_update
  apply returns_bind
  apply returns_flush hfails
  · exact haccepts _ rfl rfl
  exact returns_pure ⟨_, rfl, haccepts _ rfl rfl, List.mem_append_right _ List.mem_cons_self⟩

/-- An item of a new source with a title comes to a new notice. -/
theorem returns_mergedNotice (hfails : conn.fails .statement = false) (hnew : NewSource conn sourceSiteId state.work)
    (hconverts : item.publishedConverts python) (htitle : item.title.asStr.isSome) :
    Returns (fun found after ↦ ∃ notice, found = some (notice, true) ∧ NewNotice python conn item notice after.work)
      (mergedNotice python conn item sourceSiteId) state := by
  obtain ⟨title, htitle⟩ := Option.isSome_iff_exists.mp htitle
  obtain ⟨hday, hcoerced⟩ := Bool.and_eq_true_iff.mp hconverts
  have hnoMatch (query : TenderNotice → Bool) (hquery : query ∈ item.noticeQueries sourceSiteId)
      (notice : TenderNotice) (hnotice : notice ∈ state.work.notices) : query notice = false := by
    by_contra hmatches
    rw [Bool.not_eq_false] at hmatches
    exact hnew.noNotice notice hnotice (sourceSiteId_of_noticeQuery hquery hmatches)
  have hresolved : Returns (fun found after ↦ ∃ id, found = some (item.newNotice python id sourceSiteId title, true) ∧
      conn.accepts after.work ∧ item.newNotice python id sourceSiteId title ∈ after.work.notices)
      (resolveNotice python conn item sourceSiteId) state := by
    apply returns_bind
    apply returns_firstNotice_none hfails hnew.accepted hnoMatch
    apply returns_bind
    apply returns_findNoticeByHighSimilarity_none hfails hnew.accepted hday hnew.noNotice
    rw [htitle]
    apply returns_bind
    apply returns_mono (returns_createNotice hfails hnew)
    rintro _ after ⟨id, rfl, haccepts, hmem⟩
    exact returns_pure ⟨id, rfl, haccepts, hmem⟩
  apply returns_bind
  apply returns_mono hresolved
  rintro _ after ⟨id, rfl, haccepts, hmem⟩
  obtain ⟨merged, hmerged, hid, hexternal, hhash, hfirst, hlatest⟩ := applyFields_newNotice hcoerced
  apply returns_bind
  apply returns_raisePython hmerged
  apply returns_bind
  apply returns_update
  refine returns_pure ⟨merged, rfl, ?_, mem_putRow hmem hid, hfirst, hlatest⟩
  apply accepts_notices haccepts
  exact uniqueNotices_putRow (accepts_iff.mp haccepts).2.2.1 hmem hid hexternal hhash

/-- A source without notices has stored nothing that could suppress an item. -/
theorem returns_suppressed {post : Bool → CallState → Prop} (hfails : conn.fails .statement = false)
    (hnew : NewSource conn sourceSiteId state.work) (hpost : post false state) :
    Returns post (suppressed conn item sourceSiteId) state := by
  unfold suppressed existsNoticeVersionWithIdentityContent
  dsimp only
  split
  · exact returns_pure hpost
  · split
    · exact returns_pure hpost
    · apply returns_bind
      apply returns_scalars hfails hnew.accepted
      rw [answer_eq_nil fun notice hnotice ↦ decide_eq_false (hnew.noNotice notice hnotice)]
      apply returns_bind
      apply returns_scalar hfails hnew.accepted
      simp only [List.any_nil, Bool.false_and]
      rw [answer_eq_nil fun _ _ ↦ rfl]
      exact returns_pure hpost

theorem returns_storeNotice (hfails : conn.fails .statement = false) (hnew : NewSource conn sourceSiteId state.work)
    (hconverts : item.publishedConverts python) (htitle : item.title.asStr.isSome) :
    Returns (fun _ after ↦ conn.accepts after.work) (storeNotice python conn item sourceSiteId) state := by
  apply returns_bind
  apply returns_suppressed hfails hnew
  apply returns_bind
  apply returns_mono (returns_mergedNotice hfails hnew hconverts htitle)
  rintro _ after ⟨notice, rfl, hnotice⟩
  exact returns_counted hfails hnotice.accepted (by decide)

/-! ## Versions -/

theorem uniqueVersions_append {rows : List NoticeVersion} {version : NoticeVersion} (h : uniqueVersions rows)
    (hid : version.id = conn.nextId (rows.map NoticeVersion.id))
    (hnumber : ∀ other ∈ rows, ¬ (other.noticeId = version.noticeId ∧ other.versionNo = version.versionNo))
    (hcontent : ∀ other ∈ rows, ¬ (other.noticeId = version.noticeId ∧ other.contentHash = version.contentHash)) :
    uniqueVersions (rows ++ [version]) := by
  rw [uniqueVersions_iff] at h ⊢
  refine ⟨?_, ?_, ?_⟩
  · apply nodup_map_append h.1
    intro other hother
    rw [hid]
    exact conn.nextId_ne hother
  · exact nodup_map_append h.2.1 fun other hother heq ↦ hnumber other hother (Prod.mk.inj heq)
  · exact nodup_map_append h.2.2 fun other hother heq ↦ hcontent other hother (Prod.mk.inj heq)

theorem versionNo_le_maxVersionNo {rows : List NoticeVersion} {version : NoticeVersion} (h : version ∈ rows) :
    version.versionNo ≤ maxVersionNo version.noticeId rows := by
  unfold maxVersionNo
  have hmem : version.versionNo ∈ (rows.filter (·.noticeId = version.noticeId)).map NoticeVersion.versionNo :=
    List.mem_map_of_mem (List.mem_filter.mpr ⟨h, decide_eq_true rfl⟩)
  cases hmax : ((rows.filter (·.noticeId = version.noticeId)).map NoticeVersion.versionNo).max? with
  | none =>
    rw [List.max?_eq_none_iff.mp hmax] at hmem
    exact absurd hmem List.not_mem_nil
  | some greatest => exact (List.max?_eq_some_iff.mp hmax).2 _ hmem

/-- A version with the item's content, found or created. -/
structure ItemVersion (conn : Connection) (contentHash : String) (version : NoticeVersion) (db : Db) : Prop where
  accepted : conn.accepts db
  mem : version ∈ db.versions
  content : version.contentHash = contentHash

/-- So can a version with a content and a number of its own. -/
theorem returns_createVersion {noticeId : ℕ} {versionNo : ℤ} {title contentHash : String}
    (hfails : conn.fails .statement = false) (haccepts : conn.accepts state.work)
    (htitle : item.title.asStr = some title) (hcontent : item.contentHash.asStr = some contentHash)
    (hnumbers : ∀ other ∈ state.work.versions, ¬ (other.noticeId = noticeId ∧ other.versionNo = versionNo))
    (hcontents : ∀ other ∈ state.work.versions, ¬ (other.noticeId = noticeId ∧ other.contentHash = contentHash)) :
    Returns (fun found after ↦ after.work.notices = state.work.notices ∧ ∃ version created,
        found = some (version, created) ∧ ItemVersion conn contentHash version after.work)
      (createVersion python conn item noticeId versionNo) state := by
  have hinserted (version : NoticeVersion) (hid : version.id = conn.nextId (state.work.versions.map NoticeVersion.id))
      (hnotice : version.noticeId = noticeId) (hno : version.versionNo = versionNo)
      (hhash : version.contentHash = contentHash) :
      conn.accepts { state.work with versions := state.work.versions ++ [version] } := by
    apply accepts_versions haccepts
    apply uniqueVersions_append (accepts_iff.mp haccepts).2.2.2.1 hid
    · rw [hnotice, hno]
      exact hnumbers
    · rw [hnotice, hhash]
      exact hcontents
  unfold createVersion
  rw [htitle, hcontent]
  apply returns_bind
  apply returns_get
  apply returns_bind
  apply returns_update
  apply returns_bind
  apply returns_flush hfails
  · exact hinserted _ rfl rfl rfl rfl
  refine returns_pure ⟨rfl, _, true, rfl, ?_, List.mem_append_right _ List.mem_cons_self, rfl⟩
  exact hinserted _ rfl rfl rfl rfl

/-- Resolving the version of a complete item breaks no constraint. -/
theorem returns_resolveNoticeVersion {noticeId : ℕ} {title contentHash : String}
    (hfails : conn.fails .statement = false) (haccepts : conn.accepts state.work)
    (htitle : item.title.asStr = some title) (hcontent : item.contentHash.asStr = some contentHash) :
    Returns (fun found after ↦ after.work.notices = state.work.notices ∧ ∃ version created,
        found = some (version, created) ∧ ItemVersion conn contentHash version after.work)
      (resolveNoticeVersion python conn item noticeId) state := by
  unfold resolveNoticeVersion
  rw [hcontent]
  apply returns_bind
  apply returns_scalar hfails haccepts
  cases hsame : (conn.answer (state.work.versions.filter fun version ↦
      version.noticeId = noticeId ∧ version.contentHash = contentHash)).head? with
  | some version =>
    obtain ⟨hmem, hkey⟩ := mem_of_head?_answer hsame
    exact returns_pure ⟨rfl, version, false, rfl, haccepts, hmem, (of_decide_eq_true hkey).2⟩
  | none =>
    have hcontents := fun version hversion ↦ of_decide_eq_false (filter_eq_false_of_head?_answer hsame version hversion)
    apply returns_bind
    apply returns_scalar hfails haccepts
    cases hnumbered : (conn.answer (state.work.versions.filter fun version ↦
        version.noticeId = noticeId ∧ version.versionNo = item.requestedVersionNo python)).head? with
    | none =>
      have hnumbers :=
        fun version hversion ↦ of_decide_eq_false (filter_eq_false_of_head?_answer hnumbered version hversion)
      exact returns_createVersion hfails haccepts htitle hcontent hnumbers hcontents
    | some version =>
      dsimp only
      split
      · rename_i hhash
        rw [hcontent, Option.all_some, decide_eq_true_eq] at hhash
        exact returns_pure ⟨rfl, version, false, rfl, haccepts, (mem_of_head?_answer hnumbered).1, hhash⟩
      · apply returns_bind
        apply returns_flush hfails haccepts
        apply returns_bind
        apply returns_get
        apply returns_createVersion hfails haccepts htitle hcontent _ hcontents
        rintro other hother ⟨rfl, hnumber⟩
        have hle := versionNo_le_maxVersionNo hother
        omega

theorem returns_rawDocumentIdByHash {post : Option ℕ → CallState → Prop} {urlHash : Option String}
    (hfails : conn.fails .statement = false) (haccepts : conn.accepts state.work) (hpost : ∀ found, post found state) :
    Returns post (rawDocumentIdByHash conn sourceSiteId urlHash) state := by
  unfold rawDocumentIdByHash
  split
  · exact returns_pure (hpost none)
  · apply returns_bind
    apply returns_scalar hfails haccepts
    exact returns_pure (hpost _)

theorem widenPublished_of_coerced {notice : TenderNotice} {published coerced first latest : Option DateTime}
    (hpublished : coerceUtcDatetime published = .ok coerced)
    (hfirst : coerceUtcDatetime notice.firstPublishedAt = .ok first)
    (hlatest : coerceUtcDatetime notice.latestPublishedAt = .ok latest) :
    ∃ widened, notice.widenPublished published = .ok widened := by
  unfold TenderNotice.widenPublished
  rw [hpublished, hfirst, hlatest]
  cases coerced with
  | none => exact ⟨_, rfl⟩
  | some moment => exact ⟨_, rfl⟩

theorem widenPublished_keys {notice widened : TenderNotice} {published : Option DateTime}
    (h : notice.widenPublished published = .ok widened) :
    widened.id = notice.id ∧ widened.externalIdKey = notice.externalIdKey ∧
      widened.dedupHashKey = notice.dedupHashKey := by
  obtain ⟨first, latest, rfl⟩ := widenPublished_eq_ok h
  exact ⟨rfl, rfl, rfl⟩

/-- Promoting a version changes no key of a version. -/
theorem uniqueVersions_promote {db : Db} (version : NoticeVersion) (notice : TenderNotice)
    (h : uniqueVersions db.versions) : uniqueVersions (version.promote notice db).versions := by
  have hkeys {Key : Type} (key : NoticeVersion → Key)
      (hkey : ∀ other : NoticeVersion, key { other with isCurrent := false } = key other) :
      (version.promote notice db).versions.map key = db.versions.map key := by
    unfold NoticeVersion.promote
    rw [List.map_map]
    apply List.map_congr_left
    intro other _
    rw [Function.comp_apply]
    split
    · exact hkey other
    · rfl
  rw [uniqueVersions_iff] at h ⊢
  rw [hkeys _ fun _ ↦ rfl, hkeys _ fun _ ↦ rfl, hkeys _ fun _ ↦ rfl]
  exact h

/-- The notice comes to point at its current version. -/
theorem returns_promoteCurrent {notice : TenderNotice} {version : NoticeVersion} {post : Unit → CallState → Prop}
    (haccepts : conn.accepts state.work) (hnotice : notice ∈ state.work.notices)
    (hpost : ∀ after, conn.accepts after.work →
      (if version.isCurrent then { notice with currentVersionId := some version.id } else notice) ∈ after.work.notices →
        post () after) : Returns post (promoteCurrent version notice) state := by
  unfold promoteCurrent
  split
  · rename_i hcurrent
    apply returns_update
    apply hpost
    · have hversions := accepts_versions haccepts
        (uniqueVersions_promote version notice (accepts_iff.mp haccepts).2.2.2.1)
      exact accepts_notices hversions (uniqueNotices_putRow (accepts_iff.mp haccepts).2.2.1 hnotice rfl rfl rfl)
    · rw [if_pos hcurrent]
      exact mem_putRow hnotice rfl
  · rename_i hcurrent
    apply returns_pure
    apply hpost state haccepts
    rw [if_neg hcurrent]
    exact hnotice

/-- A version that has been found is updated and promoted without an exception. -/
theorem returns_storeFoundVersion {notice : TenderNotice} {found : NoticeVersion} {created : Bool}
    {contentHash : String} (hfails : conn.fails .statement = false) (hnotice : notice ∈ state.work.notices)
    (hfound : ItemVersion conn contentHash found state.work) (hcontent : item.contentHash.asStr = some contentHash)
    (hcoerced : (coerceUtcDatetime (item.publishedAt.asDatetime python)).isOk)
    (hfirst : notice.firstPublishedAt = item.publishedAt.asDatetime python)
    (hlatest : notice.latestPublishedAt = item.publishedAt.asDatetime python) :
    Returns (fun _ after ↦ conn.accepts after.work)
      (storeFoundVersion python conn item sourceSiteId notice found created) state := by
  obtain ⟨coerced, hcoerced⟩ := isOk_iff.mp hcoerced
  apply returns_bind
  apply returns_rawDocumentIdByHash hfails hfound.accepted
  intro rawDocumentId
  apply returns_bind
  apply returns_update
  have hkept : (found.applyFields python item notice rawDocumentId).contentHash = found.contentHash := by
    rw [hfound.content]
    exact congrArg (Option.getD · _) hcontent
  have hput : uniqueVersions
      (putRow NoticeVersion.id (found.applyFields python item notice rawDocumentId) state.work.versions) :=
    uniqueVersions_putRow (accepts_iff.mp hfound.accepted).2.2.2.1 hfound.mem rfl rfl rfl hkept
  have haccepts := accepts_versions hfound.accepted hput
  apply returns_bind
  apply returns_flush hfails
  · exact haccepts
  apply returns_bind
  refine returns_promoteCurrent haccepts hnotice ?_
  intro after hpromoted hmem
  obtain ⟨widened, hwidened⟩ : ∃ widened, TenderNotice.widenPublished
      (if (found.applyFields python item notice rawDocumentId).isCurrent then
        { notice with currentVersionId := some (found.applyFields python item notice rawDocumentId).id }
      else notice) (item.publishedAt.asDatetime python) = .ok widened := by
    apply widenPublished_of_coerced hcoerced
    · split <;> exact hfirst ▸ hcoerced
    · split <;> exact hlatest ▸ hcoerced
  apply returns_bind
  apply returns_raisePython hwidened
  obtain ⟨hid, hexternal, hhash⟩ := widenPublished_keys hwidened
  apply returns_bind
  apply returns_update
  have hwidenedNotices := uniqueNotices_putRow (accepts_iff.mp hpromoted).2.2.1 hmem hid hexternal hhash
  exact returns_counted hfails (accepts_notices hpromoted hwidenedNotices) (by simp [JobCounters.entries, count_nonNegative])

/-- A version with its fields is stored under a new source. -/
theorem returns_storeNoticeVersion (hfails : conn.fails .statement = false)
    (hnew : NewSource conn sourceSiteId state.work) (hconverts : item.publishedConverts python)
    (htitle : item.title.asStr.isSome) (hcontent : item.contentHash.asStr.isSome) :
    Returns (fun _ after ↦ conn.accepts after.work) (storeNoticeVersion python conn item sourceSiteId) state := by
  apply returns_bind
  apply returns_mono (returns_mergedNotice hfails hnew hconverts htitle)
  rintro _ after ⟨notice, rfl, hnotice⟩
  obtain ⟨title, htitle⟩ := Option.isSome_iff_exists.mp htitle
  obtain ⟨contentHash, hcontent⟩ := Option.isSome_iff_exists.mp hcontent
  apply returns_bind
  apply returns_mono (returns_resolveNoticeVersion hfails hnotice.accepted htitle hcontent)
  rintro _ last ⟨hnotices, version, created, rfl, hversion⟩
  have hmem : notice ∈ last.work.notices := by
    rw [hnotices]
    exact hnotice.mem
  exact returns_storeFoundVersion hfails hmem hversion hcontent (Bool.and_eq_true_iff.mp hconverts).2
    hnotice.firstPublished hnotice.latestPublished

/-! ## Attachments -/

theorem returns_attachmentVersionId {notice : TenderNotice} {post : Option ℕ → CallState → Prop}
    (hfails : conn.fails .statement = false) (haccepts : conn.accepts state.work) (hpost : ∀ found, post found state) :
    Returns post (attachmentVersionId python conn item notice) state := by
  unfold attachmentVersionId
  split
  · exact returns_pure (hpost _)
  · apply returns_bind
    apply returns_scalar hfails haccepts
    exact returns_pure (hpost _)

/-- The row of a file is inserted or updated without an exception. -/
theorem returns_putAttachment {urlHash : String} {existing : Option TenderAttachment} {written : ℕ → TenderAttachment}
    (haccepts : conn.accepts state.work)
    (hfound : (conn.answer (state.work.attachments.filter
      fun row ↦ row.sourceSiteId = sourceSiteId ∧ row.urlHash = urlHash)).head? = existing)
    (hwritten : ∀ id, (written id).id = id ∧ (written id).sourceSiteId = sourceSiteId ∧ (written id).urlHash = urlHash) :
    Returns (fun _ after ↦ conn.accepts after.work) (putAttachment conn existing written) state := by
  have hunique := uniqueAttachments_iff.mp (accepts_iff.mp haccepts).2.2.2.2.1
  unfold putAttachment
  cases existing with
  | none =>
    apply returns_update
    apply accepts_attachments haccepts
    rw [uniqueAttachments_iff]
    obtain ⟨hid, hsource, hhash⟩ := hwritten (conn.nextId (state.work.attachments.map TenderAttachment.id))
    refine ⟨nodup_map_append hunique.1 ?_, nodup_map_append hunique.2 ?_⟩
    · intro other hother
      rw [hid]
      exact conn.nextId_ne hother
    · intro other hother heq
      rw [hsource, hhash] at heq
      exact of_decide_eq_false (filter_eq_false_of_head?_answer hfound other hother) (Prod.mk.inj heq)
  | some existing =>
    obtain ⟨hmem, -⟩ := mem_of_head?_answer hfound
    apply returns_update
    apply accepts_attachments haccepts
    rw [uniqueAttachments_iff, map_id_putRow]
    have hkeys (key : TenderAttachment → ℕ × String)
        (hkey : key (existing.overwrite (written existing.id)) = key existing) :
        (putRow TenderAttachment.id (existing.overwrite (written existing.id)) state.work.attachments).map key =
          state.work.attachments.map key :=
      map_putRow hunique.1 hmem rfl hkey
    rw [hkeys _ rfl]
    exact hunique

/-- An attachment of a new source is stored with its notice. -/
theorem returns_storeAttachment (hfails : conn.fails .statement = false)
    (hnew : NewSource conn sourceSiteId state.work) (hconverts : item.publishedConverts python)
    (hfile : item.fileConverts python) (htitle : item.title.asStr.isSome) :
    Returns (fun _ after ↦ conn.accepts after.work) (storeAttachment python conn item sourceSiteId) state := by
  apply returns_bind
  apply returns_mono (returns_mergedNotice hfails hnew hconverts htitle)
  rintro _ after ⟨notice, rfl, hnotice⟩
  unfold Item.fileConverts at hfile
  apply returns_bind
  cases hread : item.file python with
  | error error => simp [hread] at hfile
  | ok file =>
    apply returns_raisePython rfl
    cases file with
    | none => exact returns_pure hnotice.accepted
    | some file =>
      obtain ⟨urlHash, fileUrl, fileName⟩ := file
      rw [hread] at hfile
      obtain ⟨hext, htype⟩ := Bool.and_eq_true_iff.mp hfile
      obtain ⟨fileExt, hfileExt⟩ := isOk_iff.mp hext
      obtain ⟨mimeType, hmimeType⟩ := isOk_iff.mp htype
      apply returns_bind
      apply returns_scalar hfails hnotice.accepted
      apply returns_bind
      apply returns_attachmentVersionId hfails hnotice.accepted
      intro noticeVersionId
      apply returns_bind
      apply returns_rawDocumentIdByHash hfails hnotice.accepted
      intro rawDocumentId
      apply returns_bind
      apply returns_raisePython hfileExt
      apply returns_bind
      apply returns_raisePython hmimeType
      apply returns_bind
      refine returns_mono (returns_putAttachment hnotice.accepted rfl ?_) ?_
      · exact fun _ ↦ ⟨rfl, rfl, rfl⟩
      intro _ last haccepts
      exact returns_counted hfails haccepts (by simp [JobCounters.entries, count_nonNegative])

/-! ## All writers -/

/-- A call that is storable stores under a new source, whichever it is. -/
theorem returns_store {call : WriterCall} (hfails : conn.fails .statement = false)
    (hnew : NewSource conn sourceSiteId state.work) (h : call.storable python conn state.work item) :
    Returns (fun _ after ↦ conn.accepts after.work) (call.store python conn item sourceSiteId) state := by
  obtain ⟨hcomplete, hmore⟩ := Bool.and_eq_true_iff.mp h
  cases call with
  | rawDocument _ =>
    obtain ⟨urlHash, hhash⟩ := Option.isSome_iff_exists.mp hcomplete
    change Returns _ (storeRawDocument python conn item sourceSiteId) state
    unfold storeRawDocument
    rw [hhash]
    exact returns_storeRawDocumentAt hfails hnew.accepted hmore
  | notice _ => exact returns_storeNotice hfails hnew hmore hcomplete
  | noticeVersion _ =>
    obtain ⟨htitle, hcontent⟩ := Bool.and_eq_true_iff.mp hcomplete
    exact returns_storeNoticeVersion hfails hnew hmore htitle hcontent
  | attachment _ =>
    obtain ⟨hconverts, hfile⟩ := Bool.and_eq_true_iff.mp hmore
    exact returns_storeAttachment hfails hnew hconverts hfile hcomplete
  | error _ => exact returns_storeError hfails hnew.accepted hmore

end Session

end TenderPhase1.Crawler
