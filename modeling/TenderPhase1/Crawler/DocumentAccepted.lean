import TenderPhase1.Crawler.RawDocumentStore

/-!
# When a raw document is archived

A call archives its document exactly where the item can be normalised, its source is known or can
be inserted, its job exists, and the database refuses neither a statement nor the commit. All of
this is known before the call.
-/

namespace TenderPhase1.Crawler

open Jobs Sources Raising

/-- What the call for a raw document needs besides the normalised item. -/
structure Context.Takes (context : Context) (python : Python) (conn : Connection) (item : Item) : Prop where
  urlFound : ∃ sourceUrl, item.writtenSourceUrl python = .ok sourceUrl
  source : (context.sourceCache.lookup item.writtenSourceCode).isSome ∨
    (∃ source ∈ context.db.sources, source.code = item.writtenSourceCode) ∨ conn.fails .newSource = false
  jobExists : item.jobExists python conn context.db
  accepted : conn.accepts context.db
  statements : conn.fails .statement = false
  commits : conn.fails .commit = false

/-- The item can be normalised, has a URL, and is taken. -/
def Context.TakesDocument (context : Context) (python : Python) (conn : Connection) (original : Item) : Prop :=
  ∃ item, normalizeRawDocumentItem python original = .ok item ∧ item.urlHash.asStr.isSome ∧
    context.Takes python conn item

/-- The key under which the document of an item is archived. -/
def Context.documentKey (context : Context) (python : Python) (conn : Connection) (original : Item) :
    Option (ℕ × String) :=
  match normalizeRawDocumentItem python original with
  | .ok item => item.urlHash.asStr.map (context.sourceIdOf conn item, ·)
  | .error _ => none

section Statements

variable {conn : Connection} {state : CallState}

/-- A statement that returned was not refused. -/
theorem ensures_flush_held {post : Unit → CallState → Prop} {stage : Stage}
    (hpost : conn.fails stage = false → conn.accepts state.work → post () state) :
    Ensures post (flush conn stage) state := by
  unfold Ensures
  rw [ends_flush]
  cases hrefusal : conn.refusal stage state.work with
  | some error => exact fun _ h ↦ (nomatch h)
  | none =>
    obtain ⟨hfails, haccepts⟩ := refusal_eq_none.mp hrefusal
    exact ensures_pure (hpost hfails haccepts)

theorem ensures_scalar_held {Row : Type} {post : Option Row → CallState → Prop} {table : Db → List Row}
    {filter : Row → Bool} (hpost : conn.fails .statement = false → conn.accepts state.work →
      post (conn.answer ((table state.work).filter filter)).head? state) :
    Ensures post (scalar conn table filter) state := by
  apply ensures_bind
  apply ensures_bind
  apply ensures_flush_held
  intro hfails haccepts
  apply ensures_bind
  exact ensures_get (ensures_pure (ensures_pure (hpost hfails haccepts)))

end Statements

section Document

variable {python : Python} {conn : Connection} {item : Item} {context : Context} {state : CallState}
  {sourceSiteId : ℕ}

theorem jobs_putRawDocument {urlHash : String} {existing : Option RawDocument} {isDuplicateContent : Bool} :
    Ensures (fun _ after ↦ after.work.jobs = state.work.jobs)
      (putRawDocument python conn item sourceSiteId urlHash existing isDuplicateContent) state := by
  unfold putRawDocument
  cases existing <;> exact ensures_update rfl

/-- A document that is written names a job that exists, once a statement has been sent. -/
theorem DocumentWritten.jobExists {key : ℕ × String} {before : List RawDocument} {db : Db}
    (h : DocumentWritten key (item.page python) before db.rawDocuments) (haccepts : conn.accepts db) :
    item.jobExists python conn db := by
  obtain ⟨document, -, hpage, hrows⟩ := h.written
  unfold Item.jobExists
  cases hkeys : conn.foreignKeys with
  | false => rfl
  | true =>
    cases hjobId : item.crawlJobId.asInt python with
    | none => rfl
    | some jobId =>
      have hjobs : db.jobsExist := (accepts_iff.mp haccepts).2.2.2.2.2.2 hkeys
      have hdocument : document.crawlJobId = some jobId := (congrArg ArchivedPage.crawlJobId hpage).trans hjobId
      have hmem : jobId ∈ db.rawDocuments.filterMap RawDocument.crawlJobId :=
        List.mem_filterMap.mpr ⟨document, (hrows document).mpr (Or.inl rfl), hdocument⟩
      unfold Db.jobsExist at hjobs
      exact List.all_eq_true.mp hjobs jobId (List.mem_append_left _ hmem)

theorem jobExists_of_jobs {db other : Db} (hjobs : other.jobs = db.jobs) :
    item.jobExists python conn other = item.jobExists python conn db := by
  unfold Item.jobExists
  rw [hjobs]

theorem ensures_recordStats_held {deltas : JobCounters} {key : ℕ × String} {before : List RawDocument}
    (hwritten : DocumentWritten key (item.page python) before state.work.rawDocuments) :
    Ensures (fun _ _ ↦ item.jobExists python conn state.work) (recordStats python conn item deltas) state := by
  unfold recordStats
  cases hjobId : item.crawlJobId.asInt python with
  | none =>
    apply ensures_pure
    simp [Item.jobExists, hjobId]
  | some jobId =>
    apply ensures_bind
    apply ensures_scalar_held
    intro _ haccepts
    exact ensures_of_forall fun _ _ ↦ hwritten.jobExists haccepts

/-- What has been stored could be stored: the statements did not fail and the keys held. -/
theorem ensures_storeRawDocumentAt_held {urlHash : String} :
    Ensures (fun stored _ ↦ stored = true ∧ conn.fails .statement = false ∧ conn.accepts state.work ∧
        item.jobExists python conn state.work)
      (storeRawDocumentAt python conn item urlHash sourceSiteId) state := by
  apply ensures_bind
  apply ensures_scalar_held
  intro hfails haccepts
  apply ensures_bind
  refine ensures_of_reads (fun _ ↦ keeps_duplicateContentId) ?_
  intro duplicateContentId
  apply ensures_bind
  refine ensures_mono (ensures_and (ensures_putRawDocument (unique_of_accepts haccepts) rfl) jobs_putRawDocument) ?_
  rintro _ put ⟨hwritten, hjobs⟩
  apply ensures_bind
  refine ensures_mono (ensures_recordStats_held hwritten) ?_
  intro _ _ hexists
  rw [jobExists_of_jobs hjobs] at hexists
  exact ensures_pure ⟨rfl, hfails, haccepts, hexists⟩

theorem ensures_itemSourceSiteId_held :
    Ensures (fun id found ↦ (∃ sourceUrl, item.writtenSourceUrl python = .ok sourceUrl) ∧
        SourceFound python conn item state id found)
      (itemSourceSiteId python conn item) state := by
  refine ensures_and ?_ ensures_itemSourceSiteId
  apply ensures_bind
  apply ensures_raisePython
  intro sourceUrl hurl
  exact ensures_of_forall fun _ _ ↦ ⟨sourceUrl, hurl⟩

/-- A call that returned was taken. -/
theorem ensures_takes (hhash : item.urlHash.asStr.isSome) :
    Ensures (fun _ _ ↦ context.Takes python conn item)
      (inSession python conn item (storeRawDocument python conn item)) context.opened := by
  obtain ⟨urlHash, hurlHash⟩ := Option.isSome_iff_exists.mp hhash
  unfold inSession
  apply ensures_bind
  refine ensures_mono ensures_itemSourceSiteId_held ?_
  rintro id found ⟨hurl, hfound⟩
  apply ensures_bind
  unfold storeRawDocument
  rw [hurlHash]
  refine ensures_mono ensures_storeRawDocumentAt_held ?_
  rintro _ last ⟨rfl, hstatements, haccepts, hexists⟩
  change Ensures _ (commit conn) last
  apply ensures_bind
  apply ensures_flush_held
  intro hcommits _
  apply ensures_of_forall
  intro _ _
  cases hfound with
  | cached hcached => exact ⟨hurl, Or.inl (Option.isSome_of_eq_some hcached), hexists, haccepts, hstatements, hcommits⟩
  | stored hmem hcode _ =>
    exact ⟨hurl, Or.inr (Or.inl ⟨_, hmem, hcode⟩), hexists, haccepts, hstatements, hcommits⟩
  | inserted hinserts _ _ _ _ =>
    exact ⟨hurl, Or.inr (Or.inr hinserts.newSource), hexists, hinserts.accepted, hstatements, hcommits⟩

/-! ## A call that is taken returns -/

theorem uniqueSources_iff {rows : List SourceSite} :
    uniqueSources rows ↔ (rows.map SourceSite.id).Nodup ∧ (rows.map SourceSite.code).Nodup := by
  simp [uniqueSources]

theorem accepts_newSource {db : Db} {source : SourceSite} (haccepts : conn.accepts db)
    (hid : source.id = conn.nextId (db.sources.map SourceSite.id)) (hcode : ∀ other ∈ db.sources, other.code ≠ source.code) :
    conn.accepts { db with sources := db.sources ++ [source] } := by
  rw [accepts_iff] at haccepts ⊢
  obtain ⟨hsources, hrest⟩ := haccepts
  rw [uniqueSources_iff] at hsources
  refine ⟨uniqueSources_iff.mpr ⟨nodup_map_append hsources.1 ?_, nodup_map_append hsources.2 hcode⟩, hrest⟩
  intro other hother
  rw [hid]
  exact conn.nextId_ne hother

theorem returns_insertSource {sourceCode sourceUrl : String} {sourceName : Option String}
    (hfails : conn.fails .newSource = false) (haccepts : conn.accepts state.work)
    (hmissing : ∀ source ∈ state.work.sources, source.code ≠ sourceCode) :
    Returns (fun _ after ↦ conn.accepts after.work ∧ after.work.jobs = state.work.jobs)
      (insertSource conn sourceCode sourceName sourceUrl) state := by
  have hinserted : conn.accepts { state.work with sources := state.work.sources ++ [newSourceSite
      (conn.nextId (state.work.sources.map SourceSite.id)) sourceCode sourceName sourceUrl] } :=
    accepts_newSource haccepts rfl hmissing
  apply returns_bind
  apply returns_get
  apply returns_bind
  apply returns_update
  apply returns_bind
  refine returns_flush hfails hinserted ?_
  exact returns_pure ⟨hinserted, rfl⟩

/-- The source is loaded where it is known or can be inserted. -/
theorem returns_loadSource {sourceCode sourceUrl : String} {sourceName : Option String}
    (hstatements : conn.fails .statement = false) (haccepts : conn.accepts state.work)
    (hsource : (∃ source ∈ state.work.sources, source.code = sourceCode) ∨ conn.fails .newSource = false) :
    Returns (fun _ after ↦ conn.accepts after.work ∧ after.work.jobs = state.work.jobs)
      (loadSource conn sourceCode sourceName sourceUrl) state := by
  unfold loadSource
  apply returns_bind
  apply returns_scalar hstatements haccepts
  cases hfirst : (conn.answer (state.work.sources.filter (·.code = sourceCode))).head? with
  | some source => exact returns_pure ⟨haccepts, rfl⟩
  | none =>
    have hmissing (source : SourceSite) (hmem : source ∈ state.work.sources) : source.code ≠ sourceCode :=
      of_decide_eq_false (filter_eq_false_of_head?_answer hfirst source hmem)
    have hnew : conn.fails .newSource = false := by
      rcases hsource with ⟨source, hmem, hcode⟩ | hnew
      · exact absurd hcode (hmissing source hmem)
      · exact hnew
    exact returns_insertSource hnew haccepts hmissing

/-- The source is found or inserted where the database carries out the statements. -/
theorem returns_itemSourceSiteId (hurl : ∃ sourceUrl, item.writtenSourceUrl python = .ok sourceUrl)
    (hsource : (context.sourceCache.lookup item.writtenSourceCode).isSome ∨
      (∃ source ∈ context.db.sources, source.code = item.writtenSourceCode) ∨ conn.fails .newSource = false)
    (haccepts : conn.accepts context.db) (hstatements : conn.fails .statement = false) :
    Returns (fun _ found ↦ conn.accepts found.work ∧ found.work.jobs = context.db.jobs)
      (itemSourceSiteId python conn item) context.opened := by
  obtain ⟨sourceUrl, hurl⟩ := hurl
  apply returns_bind
  apply returns_raisePython hurl
  apply returns_bind
  apply returns_get
  unfold Context.opened
  dsimp only
  cases hcached : context.sourceCache.lookup item.writtenSourceCode with
  | some cached => exact returns_pure ⟨haccepts, rfl⟩
  | none =>
    rw [hcached] at hsource
    apply returns_bind
    refine returns_mono (returns_loadSource hstatements haccepts (hsource.resolve_left Bool.false_ne_true)) ?_
    intro id found hfound
    apply returns_bind
    exact returns_pure (returns_pure hfound)

/-- Under the conditions of a stored document the session comes to its end. -/
theorem returns_inSession (hhash : item.urlHash.asStr.isSome) (h : context.Takes python conn item) :
    Returns (fun _ _ ↦ True) (inSession python conn item (storeRawDocument python conn item)) context.opened := by
  obtain ⟨urlHash, hurlHash⟩ := Option.isSome_iff_exists.mp hhash
  unfold inSession
  apply returns_bind
  refine returns_mono (returns_itemSourceSiteId h.urlFound h.source h.accepted h.statements) ?_
  rintro id found ⟨haccepts, hjobs⟩
  have hexists : item.jobExists python conn found.work := by
    rw [jobExists_of_jobs hjobs]
    exact h.jobExists
  unfold storeRawDocument
  rw [hurlHash]
  change Returns _ (storeRawDocumentAt python conn item urlHash id >>= fun stored ↦
    if stored then commit conn else pure ()) _
  apply returns_bind
  refine returns_mono (Returns.of_ensures (returns_storeRawDocumentAt h.statements haccepts hexists)
    ensures_storeRawDocumentAt_held) ?_
  rintro _ last ⟨hlast, rfl, -⟩
  exact returns_commit h.commits hlast fun _ ↦ trivial

/-- What a call archives, by the document that its item is normalised to. -/
theorem archives_eq {original : Item} (hitem : normalizeRawDocumentItem python original = .ok item) :
    context.archives python (conn, .rawDocument original) =
      match ((inSession python conn item (storeRawDocument python conn item)).run.run context.opened).1 with
      | .ok () => item.urlHash.asStr.map fun urlHash ↦ ((context.sourceIdOf conn item, urlHash), item.page python)
      | .error _ => none := by
  have hprogram : (WriterCall.rawDocument original).program python conn =
      inSession python conn item (storeRawDocument python conn item) := by
    rw [WriterCall.program_eq]
    change (do let item ← raisePython (normalizeRawDocumentItem python original); _) = _
    rw [hitem]
    rfl
  simp only [Context.archives, WriterCall.normalized, hprogram, hitem]
  cases ((inSession python conn item (storeRawDocument python conn item)).run.run context.opened).1 <;> rfl

/-- A document is archived where it is taken. -/
theorem isSome_archives_iff (original : Item) :
    (context.archives python (conn, .rawDocument original)).isSome ↔ context.TakesDocument python conn original := by
  cases hitem : normalizeRawDocumentItem python original with
  | error error =>
    have hnothing : context.archives python (conn, .rawDocument original) = none := by
      simp only [Context.archives, WriterCall.normalized, hitem]
    rw [hnothing]
    constructor
    · intro h
      cases h
    · rintro ⟨item, hother, -⟩
      rw [hitem] at hother
      cases hother
  | ok item =>
    rw [archives_eq hitem]
    constructor
    · intro hsome
      cases houtcome : ((inSession python conn item (storeRawDocument python conn item)).run.run context.opened).1 with
      | error error =>
        rw [houtcome] at hsome
        cases hsome
      | ok =>
        rw [houtcome] at hsome
        have hhash : item.urlHash.asStr.isSome := by simpa using hsome
        exact ⟨item, hitem, hhash, ensures_takes hhash () houtcome⟩
    · rintro ⟨other, hother, hhash, htakes⟩
      obtain rfl : item = other := Except.ok.inj (hitem.symm.trans hother)
      obtain ⟨returned, houtcome, -⟩ := returns_inSession hhash htakes
      rw [houtcome]
      simpa using hhash

theorem documentKey_of_archives {original : Item} {key : ℕ × String} {page : ArchivedPage}
    (h : context.archives python (conn, .rawDocument original) = some (key, page)) :
    context.documentKey python conn original = some key ∧
      ∃ item, normalizeRawDocumentItem python original = .ok item ∧ page = item.page python := by
  obtain ⟨item, hitem, -⟩ := (isSome_archives_iff original).mp (Option.isSome_of_eq_some h)
  rw [archives_eq hitem] at h
  split at h
  · obtain ⟨urlHash, hhash, hpair⟩ := Option.map_eq_some_iff.mp h
    obtain ⟨rfl, rfl⟩ := Prod.mk.inj hpair
    refine ⟨?_, item, hitem, rfl⟩
    simp only [Context.documentKey, hitem, hhash, Option.map_some]
  · cases h

/-- Where a document is archived, and where it is taken. -/
theorem map_fst_archives (original : Item) [Decidable (context.TakesDocument python conn original)] :
    (context.archives python (conn, .rawDocument original)).map Prod.fst =
      if context.TakesDocument python conn original then context.documentKey python conn original else none := by
  cases harchives : context.archives python (conn, .rawDocument original) with
  | none =>
    have hnot : ¬ context.TakesDocument python conn original := by
      rw [← isSome_archives_iff, harchives]
      exact Bool.false_ne_true
    rw [if_neg hnot, Option.map_none]
  | some write =>
    have htakes : context.TakesDocument python conn original := by
      rw [← isSome_archives_iff, harchives]
      rfl
    rw [if_pos htakes, (documentKey_of_archives harchives).1, Option.map_some]

/-- The page of a document is that of its item. -/
theorem normalizeRawDocumentItem_page {original : Item} (h : normalizeRawDocumentItem python original = .ok item) :
    item.page python = ⟨original.crawlJobId.asInt python,
      ensureContentHash python original.contentHash original.rawBody, original.extraMeta⟩ := by
  have hasStr : (Value.ofText (ensureContentHash python original.contentHash original.rawBody)).asStr =
      ensureContentHash python original.contentHash original.rawBody := by
    unfold ensureContentHash
    cases hcontent : original.contentHash.asStr with
    | some text =>
      have hkept := Value.asStr_ofText_asStr original.contentHash
      rw [hcontent] at hkept
      exact hkept
    | none =>
      cases hbody : original.rawBody.asStr with
      | none => rfl
      | some text => exact python.asStr_sha256Text text
  unfold normalizeRawDocumentItem at h
  obtain ⟨normalizedUrl, -, h⟩ := bind_eq_ok.mp h
  dsimp only at h
  split at h
  · rw [← Except.ok.inj h]
    simp only [Item.page, hasStr]
  · obtain ⟨sourceDuplicateKey, -, h⟩ := bind_eq_ok.mp h
    rw [← Except.ok.inj h]
    simp only [Item.page, hasStr]

end Document

/-- A call leaves the unique constraints as they are. -/
theorem unique_step {python : Python} {context : Context} (hunique : context.db.unique)
    (event : Connection × WriterCall) : (context.step python event).db.unique := by
  rcases step_cases python context event.1 event.2 with hkept | ⟨item, found, last, hcommitted⟩
  · rw [hkept]
    exact hunique
  · rw [hcommitted.step]
    exact unique_stored (unique_of_accepts hcommitted.accepted)

end TenderPhase1.Crawler
