import TenderPhase1.Crawler.Writers

/-!
# What a writer leaves alone

Once a writer has its source, its session changes neither the cache nor the
sources, commits nothing by itself, and touches only rows of that source. Whether
it comes to its commit depends on the fields the item has.
-/

namespace TenderPhase1.Crawler

open Jobs Sources Raising

/-! ## Rules for the statements -/

section Rules

variable {conn : Connection} {inv : CallState → Prop} {state : CallState}

/-- Why the database refuses to take what is pending, if it does. -/
def Connection.refusal (conn : Connection) (stage : Stage) (db : Db) : Option WriterError :=
  if conn.fails stage then some .databaseError
  else if conn.accepts db then none
  else some .integrityError

theorem ends_flush {post : Except WriterError Unit → CallState → Prop} {stage : Stage} :
    Ends post (flush conn stage) state ↔
      post (match conn.refusal stage state.work with
        | some error => .error error
        | none => .ok ()) state := by
  unfold flush Connection.refusal
  rw [ends_bind, ends_get]
  dsimp only
  split
  · exact Iff.rfl
  · split <;> exact Iff.rfl

theorem ends_update {post : Except WriterError Unit → CallState → Prop} {change : Db → Db} :
    Ends post (update change) state ↔ post (.ok ()) { state with work := change state.work } := Iff.rfl

theorem ends_raisePython {Result : Type} {post : Except WriterError Result → CallState → Prop}
    {result : Except PyError Result} :
    Ends post (raisePython result) state ↔
      post (match result with
        | .ok value => .ok value
        | .error error => .error (.python error)) state := by
  cases result <;> exact Iff.rfl

theorem ends_scalars {Row : Type} {post : Except WriterError (List Row) → CallState → Prop}
    {table : Db → List Row} {filter : Row → Bool} :
    Ends post (scalars conn table filter) state ↔
      post (match conn.refusal .statement state.work with
        | some error => .error error
        | none => .ok (conn.answer ((table state.work).filter filter))) state := by
  unfold scalars
  rw [ends_bind, ends_flush]
  cases conn.refusal .statement state.work <;> exact Iff.rfl

theorem ends_scalar {Row : Type} {post : Except WriterError (Option Row) → CallState → Prop}
    {table : Db → List Row} {filter : Row → Bool} :
    Ends post (scalar conn table filter) state ↔
      post (match conn.refusal .statement state.work with
        | some error => .error error
        | none => .ok (conn.answer ((table state.work).filter filter)).head?) state := by
  unfold scalar
  rw [ends_bind, ends_scalars]
  cases conn.refusal .statement state.work <;> exact Iff.rfl

theorem ends_commit {post : Except WriterError Unit → CallState → Prop} :
    Ends post (commit conn) state ↔
      match conn.refusal .commit state.work with
      | some error => post (.error error) state
      | none =>
          let stored := Db.stored conn state.committed state.work
          post (.ok ()) { state with committed := stored, work := stored } := by
  unfold commit
  rw [ends_bind, ends_flush]
  cases conn.refusal .commit state.work <;> exact Iff.rfl

theorem keeps_flush (stage : Stage) : Keeps inv (flush conn stage) := by
  intro state hinv
  rw [ends_flush]
  exact hinv

theorem keeps_update {change : Db → Db} (h : ∀ state, inv state → inv { state with work := change state.work }) :
    Keeps inv (update change) :=
  fun state hinv ↦ h state hinv

theorem yields_raisePython {Result : Type} (result : Except PyError Result) :
    Yields inv (fun value ↦ result = .ok value) (raisePython result) := by
  cases result with
  | ok value => exact yields_pure rfl
  | error error => exact yields_throw _

theorem keeps_raisePython {Result : Type} (result : Except PyError Result) : Keeps inv (raisePython result) :=
  keeps_of_yields (yields_raisePython result)

/-- The rows of a query meet its condition. -/
theorem yields_scalars {Row : Type} (table : Db → List Row) (filter : Row → Bool) :
    Yields inv (fun rows ↦ ∀ row ∈ rows, filter row) (scalars conn table filter) := by
  intro state hinv
  rw [ends_scalars]
  refine ⟨hinv, ?_⟩
  intro rows hrows row hrow
  cases hrefusal : conn.refusal .statement state.work with
  | some error =>
    rw [hrefusal] at hrows
    cases hrows
  | none =>
    rw [hrefusal] at hrows
    obtain rfl := Except.ok.inj hrows
    have hmem := (conn.answer_perm _).mem_iff.mp hrow
    exact (List.mem_filter.mp hmem).2

theorem yields_scalar {Row : Type} (table : Db → List Row) (filter : Row → Bool) :
    Yields inv (fun found ↦ ∀ row ∈ found, filter row) (scalar conn table filter) := by
  apply yields_bind (yields_scalars table filter)
  intro rows hrows
  apply yields_pure
  intro row hrow
  exact hrows row (List.mem_of_mem_head? hrow)

theorem keeps_scalars {Row : Type} (table : Db → List Row) (filter : Row → Bool) :
    Keeps inv (scalars conn table filter) := keeps_of_yields (yields_scalars table filter)

theorem keeps_scalar {Row : Type} (table : Db → List Row) (filter : Row → Bool) :
    Keeps inv (scalar conn table filter) := keeps_of_yields (yields_scalar table filter)

end Rules

/-! ## Rows of one source -/

section Rows

variable {Row : Type} {id source : Row → ℕ} {sourceSiteId : ℕ} {before rows : List Row} {row : Row}

/-- A row belongs to the source, or it has kept the source it had before. -/
def OwnedOrKept (id source : Row → ℕ) (sourceSiteId : ℕ) (before after : List Row) : Prop :=
  ∀ row ∈ after, source row = sourceSiteId ∨ ∃ old ∈ before, id old = id row ∧ source old = source row

theorem ownedOrKept_self : OwnedOrKept id source sourceSiteId rows rows :=
  fun row hrow ↦ Or.inr ⟨row, hrow, rfl, rfl⟩

theorem OwnedOrKept.append (h : OwnedOrKept id source sourceSiteId before rows) (hrow : source row = sourceSiteId) :
    OwnedOrKept id source sourceSiteId before (rows ++ [row]) := by
  intro other hother
  rcases List.mem_append.mp hother with hold | hnew
  · exact h other hold
  · rw [List.mem_singleton.mp hnew]
    exact Or.inl hrow

theorem OwnedOrKept.putRow (h : OwnedOrKept id source sourceSiteId before rows) (hrow : source row = sourceSiteId) :
    OwnedOrKept id source sourceSiteId before (putRow id row rows) := by
  intro other hother
  obtain ⟨old, hold, rfl⟩ := List.mem_map.mp hother
  split
  · exact Or.inl hrow
  · exact h old hold

theorem OwnedOrKept.storedRows [DecidableEq Row] {stored : Row → Row} (committed : List Row)
    (h : OwnedOrKept id source sourceSiteId before rows) (hid : ∀ row, id (stored row) = id row)
    (hsource : ∀ row, source (stored row) = source row) :
    OwnedOrKept id source sourceSiteId before (storedRows stored committed rows) := by
  intro other hother
  obtain ⟨old, hold, rfl⟩ := List.mem_map.mp hother
  split
  · exact h old hold
  · rw [hid, hsource]
    exact h old hold

end Rows

/-- Between the two databases only rows of the source are new or changed their source. -/
structure WritesFor (sourceSiteId : ℕ) (before after : Db) : Prop where
  rawDocuments :
    OwnedOrKept RawDocument.id RawDocument.sourceSiteId sourceSiteId before.rawDocuments after.rawDocuments
  notices : OwnedOrKept TenderNotice.id TenderNotice.sourceSiteId sourceSiteId before.notices after.notices
  attachments :
    OwnedOrKept TenderAttachment.id TenderAttachment.sourceSiteId sourceSiteId before.attachments after.attachments
  errors : OwnedOrKept CrawlError.id CrawlError.sourceSiteId sourceSiteId before.errors after.errors

theorem WritesFor.stored {sourceSiteId : ℕ} {before work : Db} (h : WritesFor sourceSiteId before work)
    (conn : Connection) (committed : Db) : WritesFor sourceSiteId before (Db.stored conn committed work) where
  rawDocuments := h.rawDocuments.storedRows _ (fun _ ↦ rfl) fun _ ↦ rfl
  notices := h.notices.storedRows _ (fun _ ↦ rfl) fun _ ↦ rfl
  attachments := h.attachments.storedRows _ (fun _ ↦ rfl) fun _ ↦ rfl
  errors := h.errors.storedRows _ (fun _ ↦ rfl) fun _ ↦ rfl

/-- What a session keeps once it has its source: the cache, the committed rows and the sources it
has found or inserted, and every row of another source. -/
structure Confined (sourceCache : List (String × ℕ)) (committed : Db) (sources : List SourceSite)
    (sourceSiteId : ℕ) (state : CallState) : Prop where
  cacheKept : state.sourceCache = sourceCache
  nothingCommitted : state.committed = committed
  sourcesKept : state.work.sources = sources
  writes : WritesFor sourceSiteId committed state.work

section Confined

variable {python : Python} {conn : Connection} {sourceCache : List (String × ℕ)} {committed : Db}
  {sources : List SourceSite} {sourceSiteId : ℕ} {item : Item}

/-- A change of the tables a writer may touch. -/
theorem keeps_confined_update {change : Db → Db}
    (hsources : ∀ db, (change db).sources = db.sources)
    (hwrites : ∀ db, WritesFor sourceSiteId committed db → WritesFor sourceSiteId committed (change db)) :
    Keeps (Confined sourceCache committed sources sourceSiteId) (update change) := by
  apply keeps_update
  intro state hconfined
  refine ⟨hconfined.cacheKept, hconfined.nothingCommitted, (hsources _).trans hconfined.sourcesKept, ?_⟩
  exact hwrites _ hconfined.writes

theorem keeps_confined_putNotice {notice : TenderNotice} (h : notice.sourceSiteId = sourceSiteId) :
    Keeps (Confined sourceCache committed sources sourceSiteId) (putNotice notice) := by
  apply keeps_confined_update
  · exact fun _ ↦ rfl
  · exact fun _ hwrites ↦ { hwrites with notices := hwrites.notices.putRow h }

theorem keeps_recordStats {inv : CallState → Prop} (deltas : JobCounters)
    (hjobs : ∀ state jobs, inv state → inv { state with work := { state.work with jobs := jobs } }) :
    Keeps inv (recordStats python conn item deltas) := by
  unfold recordStats
  split
  · exact keeps_pure ()
  · apply keeps_bind (keeps_scalar _ _)
    intro found
    cases found with
    | none => exact keeps_pure ()
    | some job =>
      dsimp only
      cases recordStatsInSession job deltas with
      | error error => exact keeps_throw _
      | ok counted => exact keeps_update fun state hinv ↦ hjobs state _ hinv

theorem keeps_confined_recordStats (deltas : JobCounters) :
    Keeps (Confined sourceCache committed sources sourceSiteId) (recordStats python conn item deltas) := by
  apply keeps_recordStats
  intro state jobs hconfined
  exact ⟨hconfined.cacheKept, hconfined.nothingCommitted, hconfined.sourcesKept, { hconfined.writes with }⟩

/-- Counting comes last before the commit. -/
theorem yields_confined_counted (deltas : JobCounters) :
    Yields (Confined sourceCache committed sources sourceSiteId) (fun reached ↦ reached = true)
      (do recordStats python conn item deltas; return true) :=
  yields_bind_of_keeps (keeps_confined_recordStats deltas) fun _ ↦ yields_pure rfl

/-! ## Raw documents and errors -/

theorem keeps_rawDocumentIdByHash {inv : CallState → Prop} (urlHash : Option String) :
    Keeps inv (rawDocumentIdByHash conn sourceSiteId urlHash) := by
  cases urlHash with
  | none => exact keeps_pure none
  | some urlHash => exact keeps_bind (keeps_scalar _ _) fun document ↦ keeps_pure _

theorem keeps_duplicateContentId {inv : CallState → Prop} : Keeps inv (duplicateContentId conn item sourceSiteId) := by
  unfold duplicateContentId
  cases item.contentHash.asStr with
  | none => exact keeps_pure none
  | some contentHash => exact keeps_bind (keeps_scalar _ _) fun duplicate ↦ keeps_pure _

theorem keeps_confined_putRawDocument (urlHash : String) (existing : Option RawDocument) (isDuplicateContent : Bool) :
    Keeps (Confined sourceCache committed sources sourceSiteId)
      (putRawDocument python conn item sourceSiteId urlHash existing isDuplicateContent) := by
  cases existing with
  | none =>
    exact keeps_confined_update (fun _ ↦ rfl) fun _ hwrites ↦
      { hwrites with rawDocuments := hwrites.rawDocuments.append rfl }
  | some existing =>
    exact keeps_confined_update (fun _ ↦ rfl) fun _ hwrites ↦
      { hwrites with rawDocuments := hwrites.rawDocuments.putRow rfl }

theorem yields_confined_storeRawDocumentAt (urlHash : String) :
    Yields (Confined sourceCache committed sources sourceSiteId) (fun reached ↦ reached = true)
      (storeRawDocumentAt python conn item urlHash sourceSiteId) := by
  apply yields_bind_of_keeps (keeps_scalar _ _)
  intro existing
  apply yields_bind_of_keeps keeps_duplicateContentId
  intro duplicateContentId
  apply yields_bind_of_keeps (keeps_confined_putRawDocument urlHash existing _)
  exact fun _ ↦ yields_confined_counted _

theorem yields_confined_storeError :
    Yields (Confined sourceCache committed sources sourceSiteId) (fun reached ↦ reached = true)
      (storeError python conn item sourceSiteId) := by
  apply yields_bind_of_keeps _ fun _ ↦ yields_confined_counted _
  exact keeps_confined_update (fun _ ↦ rfl) fun _ hwrites ↦ { hwrites with errors := hwrites.errors.append rfl }

/-! ## Notices -/

/-- The notice found answers one of the queries. -/
theorem yields_firstNotice {inv : CallState → Prop} (queries : List (TenderNotice → Bool)) :
    Yields inv (fun found ↦ ∀ notice ∈ found, ∃ query ∈ queries, query notice) (firstNotice conn queries) := by
  induction queries with
  | nil => exact yields_pure fun _ h ↦ (nomatch h)
  | cons query queries ih =>
    apply yields_bind (yields_scalar _ _)
    intro found hfound
    cases found with
    | some notice =>
      apply yields_pure
      intro other hother
      exact ⟨query, List.mem_cons_self, hfound other hother⟩
    | none =>
      apply yields_mono ih
      intro later hlater notice hnotice
      obtain ⟨other, hother, hmatches⟩ := hlater notice hnotice
      exact ⟨other, List.mem_cons_of_mem _ hother, hmatches⟩

/-- Every lookup asks for the source. -/
theorem sourceSiteId_of_noticeQuery {query : TenderNotice → Bool} {notice : TenderNotice}
    (hquery : query ∈ item.noticeQueries sourceSiteId) (h : query notice) : notice.sourceSiteId = sourceSiteId := by
  simp only [Item.noticeQueries, List.mem_filterMap, List.mem_cons, List.not_mem_nil, or_false, id_eq,
    exists_eq_right] at hquery
  rcases hquery with hkey | hkey | hkey | hkey
  all_goals
    obtain ⟨key, -, rfl⟩ := Option.map_eq_some_iff.mp hkey.symm
    simp only [Bool.and_eq_true, decide_eq_true_eq] at h
    exact h.1

theorem firstSimilar_mem {title issuer region budget : Option String} {candidates : List TenderNotice}
    {notice : TenderNotice} (h : firstSimilar python title issuer region budget candidates = .ok (some notice)) :
    notice ∈ candidates := by
  induction candidates with
  | nil => cases h
  | cons candidate candidates ih =>
    rw [firstSimilar] at h
    obtain ⟨similar, -, h⟩ := bind_eq_ok.mp h
    cases similar with
    | true =>
      obtain rfl := Option.some.inj (Except.ok.inj h)
      exact List.mem_cons_self
    | false => exact List.mem_cons_of_mem _ (ih h)

/-- A similar notice belongs to the source. -/
theorem yields_findNoticeByHighSimilarity {inv : CallState → Prop} :
    Yields inv (fun found ↦ ∀ notice ∈ found, notice.sourceSiteId = sourceSiteId)
      (findNoticeByHighSimilarity python conn sourceSiteId item) := by
  unfold findNoticeByHighSimilarity
  apply yields_bind (yields_raisePython _)
  intro normalizedDate _
  split
  · apply yields_bind (yields_raisePython _)
    intro bounds _
    apply yields_bind (yields_scalars _ _)
    intro candidates hcandidates
    split
    · exact yields_pure fun _ h ↦ (nomatch h)
    · apply yields_bind (yields_raisePython _)
      intro budget _
      apply yields_mono (yields_raisePython _)
      intro found hfound notice hnotice
      obtain rfl : found = some notice := hnotice
      have hcandidate := hcandidates notice (firstSimilar_mem hfound)
      simp only [Bool.decide_and, Bool.and_eq_true, decide_eq_true_eq] at hcandidate
      exact hcandidate.1
  · exact yields_pure fun _ h ↦ (nomatch h)

theorem yields_confined_createNotice (title : String) :
    Yields (Confined sourceCache committed sources sourceSiteId) (fun notice ↦ notice.sourceSiteId = sourceSiteId)
      (createNotice python conn item sourceSiteId title) := by
  apply yields_bind_of_keeps keeps_get
  intro state
  have hinsert (notice : TenderNotice) (h : notice.sourceSiteId = sourceSiteId) :
      Keeps (Confined sourceCache committed sources sourceSiteId)
        (update fun db ↦ { db with notices := db.notices ++ [notice] }) :=
    keeps_confined_update (fun _ ↦ rfl) fun _ hwrites ↦ { hwrites with notices := hwrites.notices.append h }
  apply yields_bind_of_keeps (hinsert _ rfl)
  intro _
  exact yields_bind_of_keeps (keeps_flush _) fun _ ↦ yields_pure rfl

/-- The notice of an item belongs to its source; an item with a title always comes to one. -/
theorem yields_confined_resolveNotice :
    Yields (Confined sourceCache committed sources sourceSiteId)
      (fun found ↦ (∀ pair ∈ found, pair.1.sourceSiteId = sourceSiteId) ∧ (item.title.asStr.isSome → found.isSome))
      (resolveNotice python conn item sourceSiteId) := by
  unfold resolveNotice
  apply yields_bind (yields_firstNotice _)
  intro found hfound
  cases found with
  | some notice =>
    apply yields_pure
    refine ⟨?_, fun _ ↦ rfl⟩
    intro pair hpair
    obtain rfl := Option.some.inj hpair
    obtain ⟨query, hquery, hmatches⟩ := hfound notice rfl
    exact sourceSiteId_of_noticeQuery hquery hmatches
  | none =>
    apply yields_bind yields_findNoticeByHighSimilarity
    intro similar hsimilar
    cases similar with
    | some notice =>
      apply yields_pure
      refine ⟨?_, fun _ ↦ rfl⟩
      intro pair hpair
      obtain rfl := Option.some.inj hpair
      exact hsimilar notice rfl
    | none =>
      dsimp only
      cases item.title.asStr with
      | none => exact yields_pure ⟨fun _ h ↦ (nomatch h), fun h ↦ (nomatch h)⟩
      | some title =>
        apply yields_bind (yields_confined_createNotice title)
        intro notice hnotice
        apply yields_pure
        refine ⟨?_, fun _ ↦ rfl⟩
        intro pair hpair
        obtain rfl := Option.some.inj hpair
        exact hnotice

/-- Applying a published date changes three columns. -/
theorem applyPublished_eq_ok {notice merged : TenderNotice} {published : DateTime}
    (h : notice.applyPublished published = .ok merged) :
    ∃ first latest, merged =
      { notice with publishedAt := some published, firstPublishedAt := first, latestPublishedAt := latest } := by
  obtain ⟨first, -, h⟩ := bind_eq_ok.mp h
  obtain ⟨latest, -, h⟩ := bind_eq_ok.mp h
  exact ⟨_, _, (Except.ok.inj h).symm⟩

/-- Up to the published dates, merging is what `applyTexts` does. -/
theorem applyFields_eq_ok {notice merged : TenderNotice} (h : notice.applyFields python item = .ok merged) :
    ∃ published first latest, merged =
      { notice.applyTexts python item with
        publishedAt := published, firstPublishedAt := first, latestPublishedAt := latest } := by
  unfold TenderNotice.applyFields at h
  split at h
  · obtain ⟨first, latest, hmerged⟩ := applyPublished_eq_ok h
    exact ⟨_, first, latest, hmerged⟩
  · exact ⟨_, _, _, (Except.ok.inj h).symm⟩

theorem applyFields_sourceSiteId {notice merged : TenderNotice}
    (h : notice.applyFields python item = .ok merged) : merged.sourceSiteId = notice.sourceSiteId := by
  obtain ⟨published, first, latest, rfl⟩ := applyFields_eq_ok h
  rfl

/-- Widening changes the first and the latest published date. -/
theorem widenPublished_eq_ok {notice widened : TenderNotice} {published : Option DateTime}
    (h : notice.widenPublished published = .ok widened) :
    ∃ first latest, widened = { notice with firstPublishedAt := first, latestPublishedAt := latest } := by
  obtain ⟨coerced, -, h⟩ := bind_eq_ok.mp h
  cases coerced with
  | none => exact ⟨_, _, (Except.ok.inj h).symm⟩
  | some published =>
    obtain ⟨first, -, h⟩ := bind_eq_ok.mp h
    obtain ⟨latest, -, h⟩ := bind_eq_ok.mp h
    exact ⟨_, _, (Except.ok.inj h).symm⟩

theorem widenPublished_sourceSiteId {notice widened : TenderNotice} {published : Option DateTime}
    (h : notice.widenPublished published = .ok widened) : widened.sourceSiteId = notice.sourceSiteId := by
  obtain ⟨first, latest, rfl⟩ := widenPublished_eq_ok h
  rfl

/-- A merge stays within the source, and an item with a title has a notice. -/
theorem yields_confined_mergedNotice :
    Yields (Confined sourceCache committed sources sourceSiteId)
      (fun found ↦ (∀ pair ∈ found, pair.1.sourceSiteId = sourceSiteId) ∧ (item.title.asStr.isSome → found.isSome))
      (mergedNotice python conn item sourceSiteId) := by
  unfold mergedNotice
  apply yields_bind yields_confined_resolveNotice
  intro found hfound
  cases found with
  | none => exact yields_pure ⟨fun _ h ↦ (nomatch h), hfound.2⟩
  | some pair =>
    apply yields_bind (yields_raisePython _)
    intro merged hmerged
    have hsource : merged.sourceSiteId = sourceSiteId :=
      (applyFields_sourceSiteId hmerged).trans (hfound.1 pair rfl)
    apply yields_bind_of_keeps (keeps_confined_putNotice hsource)
    intro _
    apply yields_pure
    refine ⟨?_, fun _ ↦ rfl⟩
    intro other hother
    obtain rfl := Option.some.inj hother
    exact hsource

theorem keeps_suppressed {inv : CallState → Prop} : Keeps inv (suppressed conn item sourceSiteId) := by
  unfold suppressed existsNoticeVersionWithIdentityContent
  dsimp only
  split
  · exact keeps_pure false
  · split
    · exact keeps_pure false
    · apply keeps_bind (keeps_scalars _ _)
      intro notices
      exact keeps_bind (keeps_scalar _ _) fun _ ↦ keeps_pure _

theorem yields_confined_storeNotice :
    Yields (Confined sourceCache committed sources sourceSiteId) (fun reached ↦ item.title.asStr.isSome → reached = true)
      (storeNotice python conn item sourceSiteId) := by
  unfold storeNotice
  apply yields_bind_of_keeps keeps_suppressed
  intro suppressed
  cases suppressed with
  | true => exact yields_mono (yields_confined_counted _) fun _ hreached _ ↦ hreached
  | false =>
    apply yields_bind yields_confined_mergedNotice
    intro found hfound
    cases found with
    | none => exact yields_pure fun htitle ↦ nomatch hfound.2 htitle
    | some pair => exact yields_mono (yields_confined_counted _) fun _ hreached _ ↦ hreached

/-! ## Versions -/

theorem keeps_confined_putVersion (version : NoticeVersion) :
    Keeps (Confined sourceCache committed sources sourceSiteId) (putVersion version) :=
  keeps_confined_update (fun _ ↦ rfl) fun _ hwrites ↦ { hwrites with }

/-- So does a new version, which needs a title and a content. -/
theorem yields_confined_createVersion (noticeId : ℕ) (versionNo : ℤ) :
    Yields (Confined sourceCache committed sources sourceSiteId)
      (fun found ↦ item.title.asStr.isSome → item.contentHash.asStr.isSome → found.isSome)
      (createVersion python conn item noticeId versionNo) := by
  unfold createVersion
  cases item.title.asStr with
  | none => exact yields_pure fun h ↦ (nomatch h)
  | some title =>
    cases item.contentHash.asStr with
    | none => exact yields_pure fun _ h ↦ (nomatch h)
    | some contentHash =>
      apply yields_bind_of_keeps keeps_get
      intro state
      have hinsert (version : NoticeVersion) :
          Keeps (Confined sourceCache committed sources sourceSiteId)
            (update fun db ↦ { db with versions := db.versions ++ [version] }) :=
        keeps_confined_update (fun _ ↦ rfl) fun _ hwrites ↦ { hwrites with }
      apply yields_bind_of_keeps (hinsert _)
      intro _
      exact yields_bind_of_keeps (keeps_flush _) fun _ ↦ yields_pure fun _ _ ↦ rfl

/-- An item with title and content gets a version. -/
theorem yields_confined_resolveVersionByNumber (noticeId : ℕ) :
    Yields (Confined sourceCache committed sources sourceSiteId)
      (fun found ↦ item.title.asStr.isSome → item.contentHash.asStr.isSome → found.isSome)
      (resolveVersionByNumber python conn item noticeId) := by
  apply yields_bind_of_keeps (keeps_scalar _ _)
  intro found
  cases found with
  | none => exact yields_confined_createVersion noticeId _
  | some version =>
    dsimp only
    split
    · exact yields_pure fun _ _ ↦ rfl
    · apply yields_bind_of_keeps (keeps_flush _)
      intro _
      apply yields_bind_of_keeps keeps_get
      exact fun state ↦ yields_confined_createVersion noticeId _

theorem yields_confined_resolveNoticeVersion (noticeId : ℕ) :
    Yields (Confined sourceCache committed sources sourceSiteId)
      (fun found ↦ item.title.asStr.isSome → item.contentHash.asStr.isSome → found.isSome)
      (resolveNoticeVersion python conn item noticeId) := by
  unfold resolveNoticeVersion
  split
  · exact yields_confined_resolveVersionByNumber noticeId
  · apply yields_bind_of_keeps (keeps_scalar _ _)
    intro found
    cases found with
    | some version => exact yields_pure fun _ _ ↦ rfl
    | none => exact yields_confined_resolveVersionByNumber noticeId

theorem keeps_confined_promoteCurrent {version : NoticeVersion} {notice : TenderNotice}
    (h : notice.sourceSiteId = sourceSiteId) :
    Keeps (Confined sourceCache committed sources sourceSiteId) (promoteCurrent version notice) := by
  unfold promoteCurrent
  split
  · exact keeps_confined_update (fun _ ↦ rfl) fun _ hwrites ↦
      { hwrites with notices := hwrites.notices.putRow h }
  · exact keeps_pure ()

/-- So does a version that is stored for a notice of the source. -/
theorem yields_confined_storeFoundVersion {notice : TenderNotice} {found : NoticeVersion} {created : Bool}
    (h : notice.sourceSiteId = sourceSiteId) :
    Yields (Confined sourceCache committed sources sourceSiteId) (fun reached ↦ reached = true)
      (storeFoundVersion python conn item sourceSiteId notice found created) := by
  apply yields_bind_of_keeps (keeps_rawDocumentIdByHash _)
  intro rawDocumentId
  apply yields_bind_of_keeps (keeps_confined_putVersion _)
  intro _
  apply yields_bind_of_keeps (keeps_flush _)
  intro _
  apply yields_bind_of_keeps (keeps_confined_promoteCurrent h)
  intro _
  apply yields_bind (yields_raisePython _)
  intro widened hwidened
  have hsource : widened.sourceSiteId = sourceSiteId := by
    rw [widenPublished_sourceSiteId hwidened]
    split
    · exact h
    · exact h
  apply yields_bind_of_keeps (keeps_confined_putNotice hsource)
  exact fun _ ↦ yields_confined_counted _

theorem yields_confined_storeNoticeVersion :
    Yields (Confined sourceCache committed sources sourceSiteId)
      (fun reached ↦ item.title.asStr.isSome → item.contentHash.asStr.isSome → reached = true)
      (storeNoticeVersion python conn item sourceSiteId) := by
  apply yields_bind yields_confined_mergedNotice
  intro merged hmerged
  cases merged with
  | none => exact yields_pure fun htitle ↦ nomatch hmerged.2 htitle
  | some pair =>
    apply yields_bind (yields_confined_resolveNoticeVersion pair.1.id)
    intro found hfound
    cases found with
    | none => exact yields_pure fun htitle hhash ↦ nomatch hfound htitle hhash
    | some version =>
      exact yields_mono (yields_confined_storeFoundVersion (hmerged.1 pair rfl)) fun _ hreached _ _ ↦ hreached

/-! ## Attachments -/

theorem keeps_attachmentVersionId {inv : CallState → Prop} {notice : TenderNotice} :
    Keeps inv (attachmentVersionId python conn item notice) := by
  unfold attachmentVersionId
  split
  · exact keeps_pure _
  · exact keeps_bind (keeps_scalar _ _) fun _ ↦ keeps_pure _

theorem keeps_confined_putAttachment {existing : Option TenderAttachment} {written : ℕ → TenderAttachment}
    (hexisting : ∀ row ∈ existing, row.sourceSiteId = sourceSiteId)
    (hwritten : ∀ id, (written id).sourceSiteId = sourceSiteId) :
    Keeps (Confined sourceCache committed sources sourceSiteId) (putAttachment conn existing written) := by
  cases existing with
  | none =>
    exact keeps_confined_update (fun _ ↦ rfl) fun _ hwrites ↦
      { hwrites with attachments := hwrites.attachments.append (hwritten _) }
  | some existing =>
    exact keeps_confined_update (fun _ ↦ rfl) fun _ hwrites ↦
      { hwrites with attachments := hwrites.attachments.putRow (hexisting existing rfl) }

/-- Once a file is stored the call comes to its commit. -/
theorem yields_confined_storeFile (notice : TenderNotice) (urlHash fileUrl fileName : String) :
    Yields (Confined sourceCache committed sources sourceSiteId) (fun reached ↦ reached = true)
      (storeFile python conn item sourceSiteId notice urlHash fileUrl fileName) := by
  apply yields_bind (yields_scalar _ _)
  intro existing hexisting
  apply yields_bind_of_keeps keeps_attachmentVersionId
  intro noticeVersionId
  apply yields_bind_of_keeps (keeps_rawDocumentIdByHash _)
  intro rawDocumentId
  apply yields_bind_of_keeps (keeps_raisePython _)
  intro fileExt
  apply yields_bind_of_keeps (keeps_raisePython _)
  intro mimeType
  have hkept (row : TenderAttachment) (hrow : row ∈ existing) : row.sourceSiteId = sourceSiteId :=
    (of_decide_eq_true (hexisting row hrow)).1
  apply yields_bind_of_keeps (keeps_confined_putAttachment hkept fun _ ↦ rfl)
  exact fun _ ↦ yields_confined_counted _

theorem yields_confined_storeAttachment :
    Yields (Confined sourceCache committed sources sourceSiteId) (fun reached ↦ item.title.asStr.isSome → reached = true)
      (storeAttachment python conn item sourceSiteId) := by
  apply yields_bind yields_confined_mergedNotice
  intro merged hmerged
  cases merged with
  | none => exact yields_pure fun htitle ↦ nomatch hmerged.2 htitle
  | some pair =>
    apply yields_bind_of_keeps (keeps_raisePython _)
    intro file
    cases file with
    | none => exact yields_pure fun _ ↦ rfl
    | some file => exact yields_mono (yields_confined_storeFile _ _ _ _) fun _ hreached _ ↦ hreached

/-! ## All writers -/

/-- The fields without which a writer returns before its commit. -/
def WriterCall.complete (item : Item) : WriterCall → Bool
  | .rawDocument _ => item.urlHash.asStr.isSome
  | .notice _ | .attachment _ => item.title.asStr.isSome
  | .noticeVersion _ => item.title.asStr.isSome && item.contentHash.asStr.isSome
  | .error _ => true

/-- A complete item comes to its commit, whichever call it is. -/
theorem yields_confined_store (call : WriterCall) :
    Yields (Confined sourceCache committed sources sourceSiteId) (fun reached ↦ call.complete item → reached = true)
      (call.store python conn item sourceSiteId) := by
  cases call with
  | rawDocument _ =>
    change Yields _ (fun reached ↦ item.urlHash.asStr.isSome → reached = true) (storeRawDocument python conn item _)
    unfold storeRawDocument
    cases item.urlHash.asStr with
    | none => exact yields_pure fun h ↦ (nomatch h)
    | some urlHash => exact yields_mono (yields_confined_storeRawDocumentAt urlHash) fun _ hreached _ ↦ hreached
  | notice _ => exact yields_confined_storeNotice
  | noticeVersion _ =>
    apply yields_mono yields_confined_storeNoticeVersion
    intro reached hreached hcomplete
    have hfields := Bool.and_eq_true_iff.mp hcomplete
    exact hreached hfields.1 hfields.2
  | attachment _ => exact yields_confined_storeAttachment
  | error _ => exact yields_mono yields_confined_storeError fun _ hreached _ ↦ hreached

end Confined

end TenderPhase1.Crawler
