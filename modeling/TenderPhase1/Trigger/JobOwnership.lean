import TenderPhase1.Foundation.UnmodifiedObjects
import TenderPhase1.Trigger.LaunchCommands

/-!
# Whose job a request creates

`_create_crawl_job` is given a source, checks that this source has no active job, and then lets
`_ensure_source_site` look the source up again by its code, with the names of earlier versions and
the title of the platform as fallbacks. The job belongs to the row that the lookup finds. Workers
get the code of a row and refuse a job of another one.
-/

namespace TenderPhase1.Trigger

open Jobs Sources ObjectSession PyText Raising

/-! ## The lookup of the source -/

/-- The row that the queries of `_ensure_source_site` find in a table. -/
def lookupSource (sources : List SourceSite) (sourceCode : String) : Option SourceSite :=
  (sourceSiteQueries (strip sourceCode) (normalizeSourceCode sourceCode)).findSome? (·.firstRow sources)

/-- The row has the canonical code. Or no row has it, and the row is found in its place: by an old
code written without white space around it, or because its name is the first one with the title of
the platform, while no row has an old code. -/
def FoundFirst (sources : List SourceSite) (source : SourceSite) : Prop :=
  source.code = normalizeSourceCode source.code ∨
    (∀ row ∈ sources, row.code ≠ normalizeSourceCode source.code) ∧
      (source.code = strip source.code ∨
        normalizeSourceCode source.code = "ggzy_gov_cn_deal" ∧
          (∀ row ∈ sources, row.code ≠ "2" ∧ row.code ≠ "ggzy_gov_cn") ∧
          contains source.name "全国公共资源交易平台" ∧
          ∀ row ∈ sources, contains row.name "全国公共资源交易平台" → source.id ≤ row.id)

/-- The primary key and the unique constraint of the table. -/
structure SourceKeys (sources : List SourceSite) : Prop where
  ids : (sources.map SourceSite.id).Nodup
  codes : (sources.map SourceSite.code).Nodup

section Lookup

variable {sources : List SourceSite} {source row : SourceSite}

theorem SourceKeys.eq_of_id_eq (hkeys : SourceKeys sources) (hsource : source ∈ sources) (hrow : row ∈ sources)
    (h : source.id = row.id) : source = row := List.inj_on_of_nodup_map hkeys.ids hsource hrow h

theorem SourceKeys.eq_of_code_eq (hkeys : SourceKeys sources) (hsource : source ∈ sources) (hrow : row ∈ sources)
    (h : source.code = row.code) : source = row := List.inj_on_of_nodup_map hkeys.codes hsource hrow h

/-- A lookup by code finds the row with the code. -/
theorem firstRow_sourceByCode (hkeys : SourceKeys sources) (hsource : source ∈ sources) :
    (sourceByCode source.code).firstRow sources = some source := by
  refine firstRow_eq_some (fun _ _ ↦ Or.inl rfl) (fun _ _ _ _ _ ↦ rfl) hsource (decide_eq_true rfl) ?_
  intro other hother hmatches _
  exact hkeys.eq_of_code_eq hother hsource (of_decide_eq_true hmatches)

theorem firstRow_sourceByCode_none {code : String} (h : ∀ row ∈ sources, row.code ≠ code) :
    (sourceByCode code).firstRow sources = none := by
  rw [firstRow_eq_none_iff]
  intro row hrow hmatches
  exact h row hrow (of_decide_eq_true hmatches)

theorem code_of_firstRow_sourceByCode {code : String} (h : (sourceByCode code).firstRow sources = some row) :
    row.code = code := of_decide_eq_true (firstRow_mem h).2

/-- A query ordered by id finds the matching row with the lowest id. -/
theorem firstRow_byId_iff (hkeys : SourceKeys sources) (filter : SourceSite → Bool) (hsource : source ∈ sources) :
    ({ filter := filter, order := byId } : Query SourceSite).firstRow sources = some source ↔
      filter source ∧ ∀ row ∈ sources, filter row → source.id ≤ row.id := by
  have htotal (first second : SourceSite) : byId first second ∨ byId second first := by
    simp only [byId, decide_eq_true_eq]
    omega
  have htrans (first second third : SourceSite) (h : byId first second) (hnext : byId second third) :
      byId first third := by
    simp only [byId, decide_eq_true_eq] at h hnext ⊢
    omega
  constructor
  · intro h
    refine ⟨(firstRow_mem h).2, ?_⟩
    intro row hrow hmatches
    exact of_decide_eq_true (firstRow_order htotal htrans h row hrow hmatches)
  · rintro ⟨hmatches, hfirst⟩
    refine firstRow_eq_some htotal htrans hsource hmatches ?_
    intro other hother hmatchesOther hbefore
    have hlower := hfirst other hother hmatchesOther
    have hother' : other.id ≤ source.id := of_decide_eq_true hbefore
    exact hkeys.eq_of_id_eq hother hsource (by omega)

/-- A code stands for itself, or is one of the two old ones. -/
theorem normalizeSourceCode_cases (code : String) :
    normalizeSourceCode code = strip code ∨
      (strip code = "2" ∨ strip code = "ggzy_gov_cn") ∧ normalizeSourceCode code = "ggzy_gov_cn_deal" := by
  unfold normalizeSourceCode
  dsimp only
  split
  · exact Or.inl rfl
  · by_cases htwo : strip code = "2"
    · exact Or.inr ⟨Or.inl htwo, by rw [htwo]; rfl⟩
    · by_cases hlegacy : strip code = "ggzy_gov_cn"
      · exact Or.inr ⟨Or.inr hlegacy, by rw [hlegacy]; rfl⟩
      · left
        simp only [legacySourceCodeAliases, List.lookup_cons, beq_false_of_ne htwo, beq_false_of_ne hlegacy,
          List.lookup_nil, Option.getD_none]

/-- The fallbacks of a code that no row has, for a source whose code has white space around it. -/
theorem fallback_iff (hkeys : SourceKeys sources) (hsource : source ∈ sources) (hpadded : source.code ≠ strip source.code) :
    ([{ filter := fun source ↦ ["2", "ggzy_gov_cn"].contains source.code, order := byId },
        { filter := fun source ↦ contains source.name "全国公共资源交易平台", order := byId }] :
          List (Query SourceSite)).findSome? (·.firstRow sources) = some source ↔
      (∀ row ∈ sources, row.code ≠ "2" ∧ row.code ≠ "ggzy_gov_cn") ∧ contains source.name "全国公共资源交易平台" ∧
        ∀ row ∈ sources, contains row.name "全国公共资源交易平台" → source.id ≤ row.id := by
  rw [List.findSome?_cons]
  cases hold : ({ filter := fun source ↦ ["2", "ggzy_gov_cn"].contains source.code, order := byId } :
      Query SourceSite).firstRow sources with
  | some row =>
    -- a row with an old code comes first, and it is not the source
    obtain ⟨hrow, hmatches⟩ := firstRow_mem hold
    have hcode : row.code = "2" ∨ row.code = "ggzy_gov_cn" := by simpa using hmatches
    apply iff_of_false
    · intro h
      rw [Option.some.inj h] at hcode
      rcases hcode with hcode | hcode <;>
      · rw [hcode] at hpadded
        exact hpadded (by rfl)
    · rintro ⟨hnone, -⟩
      exact hcode.elim (hnone row hrow).1 (hnone row hrow).2
  | none =>
    have hnone : ∀ row ∈ sources, row.code ≠ "2" ∧ row.code ≠ "ggzy_gov_cn" := by
      intro row hrow
      simpa using firstRow_eq_none_iff.mp hold row hrow
    have hname := firstRow_byId_iff hkeys (fun source ↦ contains source.name "全国公共资源交易平台") hsource
    rw [and_iff_right hnone, ← hname, List.findSome?_singleton]

/-- The lookup by the code of a source comes to the source itself exactly when it is found first. -/
theorem lookupSource_eq_some_iff (hkeys : SourceKeys sources) (hsource : source ∈ sources) :
    lookupSource sources source.code = some source ↔ FoundFirst sources source := by
  unfold lookupSource sourceSiteQueries FoundFirst
  rw [List.append_assoc, List.findSome?_append, List.findSome?_singleton]
  by_cases hcanonical : ∃ row ∈ sources, row.code = normalizeSourceCode source.code
  · obtain ⟨row, hrow, hcode⟩ := hcanonical
    rw [← hcode, firstRow_sourceByCode hkeys hrow, Option.some_or]
    constructor
    · intro h
      rw [← Option.some.inj h]
      exact Or.inl rfl
    · rintro (hsame | ⟨hnone, -⟩)
      · rw [hkeys.eq_of_code_eq hsource hrow hsame]
      · exact absurd rfl (hnone row hrow)
  · have hnone : ∀ row ∈ sources, row.code ≠ normalizeSourceCode source.code := by
      intro row hrow hcode
      exact hcanonical ⟨row, hrow, hcode⟩
    rw [firstRow_sourceByCode_none hnone, Option.none_or, List.findSome?_append,
      or_iff_right (hnone source hsource), and_iff_right hnone]
    by_cases hplain : source.code = strip source.code
    · have hraw : strip source.code ≠ normalizeSourceCode source.code := by
        rw [← hplain]
        exact hnone source hsource
      rw [if_pos hraw, List.findSome?_singleton, ← hplain, firstRow_sourceByCode hkeys hsource, Option.some_or]
      simp
    · rw [or_iff_right hplain]
      rcases normalizeSourceCode_cases source.code with hsame | ⟨hold, hdeal⟩
      · rw [hsame, if_neg (by simp), List.findSome?_nil, Option.none_or]
        by_cases hdeal : strip source.code = "ggzy_gov_cn_deal"
        · rw [if_pos hdeal, and_iff_right hdeal]
          exact fallback_iff hkeys hsource hplain
        · simp [hdeal]
      · have hraw : strip source.code ≠ normalizeSourceCode source.code := by
          rw [hdeal]
          rcases hold with hold | hold <;> simp [hold]
        rw [if_pos hraw, if_pos hdeal, and_iff_right hdeal, List.findSome?_singleton]
        cases hfound : (sourceByCode (strip source.code)).firstRow sources with
        | some row =>
          -- the row with the old code is not the source, which has white space around it
          have hcode := code_of_firstRow_sourceByCode hfound
          rw [Option.some_or]
          apply iff_of_false
          · intro h
            rw [Option.some.inj h] at hcode
            exact hplain hcode
          · rintro ⟨hnoOld, -⟩
            have hrow := hnoOld row (firstRow_mem hfound).1
            rw [hcode] at hrow
            exact hold.elim hrow.1 hrow.2
        | none =>
          rw [Option.none_or]
          exact fallback_iff hkeys hsource hplain

/-- The lookup finds a row of the table. -/
theorem lookupSource_mem {code : String} (h : lookupSource sources code = some row) : row ∈ sources := by
  obtain ⟨query, -, hquery⟩ := List.exists_of_findSome?_eq_some h
  exact (firstRow_mem hquery).1

end Lookup

/-! ## What the session has not sent -/

/-- The session has sent nothing: its sources are as they were, its jobs those of the table. -/
structure Unsent (sources : UnitOfWork SourceSite) (jobs : List CrawlJob) (session : Session) : Prop where
  sources : session.sources = sources
  visible : session.jobs.visible = jobs
  added : session.jobs.added = []

section Unsent

variable {sources : UnitOfWork SourceSite} {jobs : List CrawlJob} {session : Session}

theorem foldl_track_added (rows : List CrawlJob) (work : UnitOfWork CrawlJob) :
    (rows.foldl UnitOfWork.track work).added = work.added := by
  have htrack (work : UnitOfWork CrawlJob) (row : CrawlJob) : (work.track row).added = work.added := by
    unfold UnitOfWork.track
    split <;> rfl
  induction rows generalizing work with
  | nil => rfl
  | cons row rows ih => rw [List.foldl_cons, ih, htrack]

theorem Unsent.track (h : Unsent sources jobs session) (rows : List CrawlJob) :
    Unsent sources jobs { session with jobs := rows.foldl UnitOfWork.track session.jobs } where
  sources := h.sources
  visible := (foldl_track_frame session.jobs rows).2.trans h.visible
  added := (foldl_track_added rows session.jobs).trans h.added

theorem keeps_unsent_expireAllInSession (now : Instant) (expired : List CrawlJob) :
    Keeps (Unsent sources jobs) (expireAllInSession now expired) := by
  induction expired with
  | nil => exact keeps_pure ()
  | cons job expired ih =>
    refine keeps_bind ?_ fun _ ↦ ih
    intro session h
    unfold expireInSession
    cases expireJob job now with
    | error error => exact h
    | ok expired => exact ⟨h.sources, h.visible, h.added⟩

theorem keeps_unsent_reconcile (moment : Instant) (limit : Option ℕ) :
    Keeps (Unsent sources jobs) (reconcileExpiredJobsInSession moment limit) := by
  intro session h
  rw [reconcileExpiredJobsInSession, ends_bind, ends_onJobs]
  exact keeps_unsent_expireAllInSession moment _ _ (h.track _)

/-- The check passes only when no job of the source is active. -/
theorem ensures_raiseIfSourceHasActiveJob (source : SourceSite) (h : Unsent sources jobs session) :
    Ensures (fun _ after ↦ Unsent sources jobs after ∧
        ∀ job ∈ jobs, job.sourceSiteId = source.id → job.status.isActive = false)
      (raiseIfSourceHasActiveJob source) session := by
  have hnone := scalar_eq_none_iff session.jobs (activeJobsOf source.id)
  rw [h.visible] at hnone
  unfold raiseIfSourceHasActiveJob loadActiveJobForSource
  apply ensures_bind
  change Ends _ _ _
  rw [ends_onJobs]
  rintro active ⟨⟩
  cases hactive : (session.jobs.scalar (activeJobsOf source.id)).1 with
  | some job => exact ensures_throw _
  | none =>
    refine ensures_pure ⟨h.track _, ?_⟩
    intro job hjob hsource
    have hfilter := hnone.mp hactive job hjob
    simpa [activeJobsOf, hsource] using hfilter

end Unsent

/-! ## The source in the session -/

section Site

variable {sources : List SourceSite} {session : Session}

/-- The loop over the queries finds what they find in the table, and has it loaded. -/
theorem ends_firstSource (hkeys : SourceKeys sources) (queries : List (Query SourceSite))
    (h : session.sources.Unmodified sources) :
    Ends (fun outcome after ↦ outcome = .ok (queries.findSome? (·.firstRow sources)) ∧ after.jobs = session.jobs ∧
        after.sources.Unmodified sources ∧
        ∀ found, queries.findSome? (·.firstRow sources) = some found →
          after.sources.identity found.id = some ⟨found, found⟩)
      (firstSource queries) session := by
  induction queries generalizing session with
  | nil => exact ⟨rfl, rfl, h, fun _ hfound ↦ nomatch hfound⟩
  | cons query queries ih =>
    have hscalar := scalar_unmodified h hkeys.ids query
    have hafter := unmodified_scalar h query
    rw [firstSource, ends_bind, ends_onSources, hscalar]
    cases hfirst : query.firstRow sources with
    | some found =>
      have hloaded := identity_scalar h hkeys.ids hfirst
      simp only [List.findSome?_cons, hfirst]
      refine ⟨rfl, rfl, hafter, ?_⟩
      rintro _ ⟨⟩
      exact hloaded
    | none =>
      simp only [List.findSome?_cons, hfirst]
      exact ih hafter

/-- The table once a found row has got the canonical code, where no row has it. -/
def canonicalRows (sources : List SourceSite) (found : SourceSite) (code : String) : List SourceSite :=
  if found.code ≠ code ∧ sources.all (·.code ≠ code) then
    sources.map fun row ↦ if row.id = found.id then { found with code := code } else row
  else sources

/-- Assigning to the code writes the code. -/
theorem writeBack_code (found : SourceSite) (code : String) :
    SourceSite.writeBack found { found with code := code } found = { found with code := code } := by
  simp [SourceSite.writeBack]

/-- The canonical source is the row that was found, with its columns set. -/
theorem ends_canonicalSource (hkeys : SourceKeys sources) {found : SourceSite} (hfound : found ∈ sources)
    (h : session.sources.Unmodified sources) (hloaded : session.sources.identity found.id = some ⟨found, found⟩)
    (code : String) :
    Ends (fun outcome after ↦ ∃ site, outcome = .ok site ∧ site.id = found.id ∧ after.jobs = session.jobs ∧
        after.sources.flushedRows = canonicalRows sources found code)
      (canonicalSource found code) session := by
  unfold canonicalSource canonicalRows
  rw [ends_bind, ends_get]
  dsimp only
  rw [h.visible]
  split
  · rw [ends_bind, ends_onSources]
    have hflushed : (session.sources.assign { found with code := code }).flushedRows = _ :=
      flushedRows_assign h hkeys.ids hfound hloaded rfl
    refine ⟨_, rfl, rfl, rfl, hflushed.trans ?_⟩
    apply List.map_congr_left
    intro row _
    change (if row.id = found.id then SourceSite.writeBack found { found with code := code } found else row) = _
    rw [writeBack_code]
  · exact ⟨found, rfl, rfl, rfl, (flushedRows_of_unchanged (fun _ ht ↦ (h.tracked _ ht).1) h.added).trans h.visible⟩

/-- The key that the database gives to a new source. -/
def newSourceId (env : Environment) (sources : List SourceSite) : ℕ :=
  if env.sqlite then maxId sources + 1 else env.sourceSequence

/-- The ids of the jobs that the session sees, while it has added none. -/
structure SeesJobs (ids : List ℕ) (session : Session) : Prop where
  visible : session.jobs.visible.map CrawlJob.id = ids
  added : session.jobs.added = []

theorem ensures_flush (env : Environment) (session : Session) :
    Ensures (fun _ after ↦ after = ⟨session.sources.flush, session.jobs.flush⟩) (flush env) session := by
  refine ensures_bind (ensures_get ?_)
  split
  · exact ensures_bind (ensures_of_forall fun _ _ ↦ ensures_throw _)
  · exact fun _ _ ↦ rfl

theorem seesJobs_flush {ids : List ℕ} (h : SeesJobs ids session) :
    SeesJobs ids ⟨session.sources.flush, session.jobs.flush⟩ where
  visible := by
    have hkeys : session.jobs.flushedRows.map CrawlJob.id = session.jobs.visible.map CrawlJob.id ++ _ :=
      map_key_flushedRows session.jobs
    rw [h.added, List.map_nil, List.append_nil, h.visible] at hkeys
    exact hkeys
  added := rfl

/-- The source of the new job is the one the lookup finds, or a new row. -/
theorem ensures_ensureSourceSite (env : Environment) (hkeys : SourceKeys sources) (sourceCode : String)
    (sourceName sourceUrl : Option String) {ids : List ℕ} (h : session.sources.Unmodified sources)
    (hids : SeesJobs ids session) :
    Ensures (fun site after ↦ SeesJobs ids after ∧
        (∀ found, lookupSource sources sourceCode = some found → site.id = found.id ∧
          after.sources.flushedRows = canonicalRows sources found (normalizeSourceCode sourceCode)) ∧
        (lookupSource sources sourceCode = none → site.id = newSourceId env sources))
      (ensureSourceSite env sourceCode sourceName sourceUrl) session := by
  unfold ensureSourceSite
  rw [asStr_some]
  split
  · exact ensures_throw _
  · rename_i hcode
    split at hcode
    · cases hcode
    · obtain rfl := Option.some.inj hcode
      have hnormal : normalizeSourceCode (strip sourceCode) = normalizeSourceCode sourceCode := by
        simp only [normalizeSourceCode, strip_strip]
      rw [hnormal]
      apply ensures_bind
      apply ends_mono (ends_firstSource hkeys _ h)
      rintro outcome after ⟨rfl, hjobs, hunmodified, hloaded⟩ site hsite
      obtain rfl := Except.ok.inj hsite
      have hread : (sourceSiteQueries (strip sourceCode) (normalizeSourceCode sourceCode)).findSome?
          (fun query ↦ query.firstRow sources) = lookupSource sources sourceCode := rfl
      rw [hread]
      cases hlookup : lookupSource sources sourceCode with
      | some found =>
        have hcanonical := ends_canonicalSource hkeys (lookupSource_mem hlookup) hunmodified (hloaded found hlookup)
          (normalizeSourceCode sourceCode)
        apply ends_mono hcanonical
        rintro outcome last ⟨site, rfl, hid, hlast, hflushed⟩ _ ⟨⟩
        have hsees : SeesJobs ids last := by
          refine ⟨?_, ?_⟩
          · rw [hlast, hjobs, hids.visible]
          · rw [hlast, hjobs, hids.added]
        refine ⟨hsees, ?_, fun hnone ↦ (by cases hnone)⟩
        rintro _ ⟨⟩
        exact ⟨hid, hflushed⟩
      | none =>
        refine ensures_bind (ensures_get ?_)
        rw [hunmodified.visible]
        refine ensures_bind ?_
        rintro _ ⟨⟩
        refine ensures_bind (ensures_mono (ensures_flush env _) ?_)
        rintro _ last rfl
        refine ensures_pure ⟨seesJobs_flush ⟨?_, ?_⟩, fun _ hfound ↦ (by cases hfound), fun _ ↦ rfl⟩
        · change after.jobs.visible.map CrawlJob.id = ids
          rw [hjobs, hids.visible]
        · change after.jobs.added = []
          rw [hjobs, hids.added]

end Site

/-! ## The job in the session -/

section Job

variable {sources : List SourceSite} {session : Session}

def newJobId (env : Environment) (jobs : List CrawlJob) : ℕ :=
  if env.sqlite then maxId jobs + 1 else env.jobSequence

/-- Primary keys outside SQLite come from sequences that are past the keys of the table. -/
structure FreshSequences (env : Environment) (sources : List SourceSite) (jobs : List CrawlJob) : Prop where
  source : env.sqlite = false → ∀ row ∈ sources, row.id ≠ env.sourceSequence
  job : env.sqlite = false → ∀ row ∈ jobs, row.id ≠ env.jobSequence

theorem le_foldl_max {ids : List ℕ} {id start : ℕ} (h : id ∈ ids ∨ id ≤ start) : id ≤ ids.foldl max start := by
  induction ids generalizing start with
  | nil => simpa using h
  | cons first ids ih =>
    apply ih
    rcases h with hmem | hstart
    · rcases List.mem_cons.mp hmem with rfl | hrest
      · exact Or.inr (le_max_right start id)
      · exact Or.inl hrest
    · exact Or.inr (hstart.trans (le_max_left start first))

theorem newSourceId_fresh {env : Environment} {jobs : List CrawlJob} (hfresh : FreshSequences env sources jobs) :
    ∀ row ∈ sources, row.id ≠ newSourceId env sources := by
  intro row hrow
  unfold newSourceId
  cases hsqlite : env.sqlite with
  | true =>
    have hle : row.id ≤ maxId sources := le_foldl_max (Or.inl (List.mem_map.mpr ⟨row, hrow, rfl⟩))
    rw [if_pos rfl]
    omega
  | false =>
    rw [if_neg Bool.false_ne_true]
    exact hfresh.source hsqlite row hrow

theorem newJobId_fresh {env : Environment} {jobs visible : List CrawlJob} (hfresh : FreshSequences env sources jobs)
    (hvisible : visible.map CrawlJob.id = jobs.map CrawlJob.id) :
    ∀ id ∈ visible.map CrawlJob.id, id ≠ newJobId env visible := by
  intro id hid
  unfold newJobId
  cases hsqlite : env.sqlite with
  | true =>
    have hle : id ≤ maxId visible := le_foldl_max (Or.inl hid)
    rw [if_pos rfl]
    omega
  | false =>
    rw [hvisible] at hid
    obtain ⟨row, hrow, rfl⟩ := List.mem_map.mp hid
    rw [if_neg Bool.false_ne_true]
    exact hfresh.job hsqlite row hrow

/-- A new row is found by its fresh key once it is flushed. -/
theorem find?_flushedRows_add {work : UnitOfWork CrawlJob} (hadded : work.added = []) {job : CrawlJob}
    (hfresh : ∀ id ∈ work.visible.map CrawlJob.id, id ≠ job.id) :
    (work.add job).flushedRows.find? (·.id = job.id) = some job := by
  have hkeys : (work.flushedRows).map CrawlJob.id = work.visible.map CrawlJob.id ++ _ := map_key_flushedRows work
  rw [hadded, List.map_nil, List.append_nil] at hkeys
  have hrows : (work.add job).flushedRows = work.flushedRows ++ [job] := by
    have hnew : (work.add job).added = [job] := by
      change work.added ++ [job] = [job]
      rw [hadded, List.nil_append]
    rw [UnitOfWork.flushedRows, UnitOfWork.flushedRows, hnew, hadded, List.append_nil]
    rfl
  have hnone : work.flushedRows.find? (·.id = job.id) = none := by
    rw [List.find?_eq_none]
    intro row hrow hid
    apply hfresh row.id
    · rw [← hkeys]
      exact List.mem_map.mpr ⟨row, hrow, rfl⟩
    · exact of_decide_eq_true hid
  rw [hrows, List.find?_append, hnone]
  simp

/-- The new job is sent, and belongs to the source that the lookup finds, whose row is sent with it, or
to a new row. -/
structure JobSent (env : Environment) (sources : List SourceSite) (sourceCode : String) (job : CrawlJob)
    (session : Session) : Prop where
  sent : session.jobs.visible.find? (·.id = job.id) = some job
  jobsSettled : session.jobs.flushedRows = session.jobs.visible
  sourcesSettled : session.sources.flushedRows = session.sources.visible
  found : ∀ found, lookupSource sources sourceCode = some found → job.sourceSiteId = found.id ∧
    session.sources.visible = canonicalRows sources found (normalizeSourceCode sourceCode)
  created : lookupSource sources sourceCode = none → job.sourceSiteId = newSourceId env sources

/-- A job that is created belongs to the source of its code. -/
theorem ensures_createJobInSession (env : Environment) (hkeys : SourceKeys sources) (sourceCode : String)
    (sourceName sourceUrl : Option String) (args : CreateArgs) {jobs : List CrawlJob}
    (hfresh : FreshSequences env sources jobs) (h : session.sources.Unmodified sources)
    (hids : SeesJobs (jobs.map CrawlJob.id) session) :
    Ensures (JobSent env sources sourceCode) (createJobInSession env sourceCode sourceName sourceUrl args)
      session := by
  unfold createJobInSession
  refine ensures_bind (ensures_mono (ensures_ensureSourceSite env hkeys sourceCode sourceName sourceUrl h hids) ?_)
  rintro site after ⟨hafter, hfound, hnew⟩
  extract_lets insertJob
  have hinsert (last : Session) (hlast : SeesJobs (jobs.map CrawlJob.id) last) (hsources : last.sources = after.sources) :
      Ensures (JobSent env sources sourceCode) (insertJob ()) last := by
    refine ensures_bind (ensures_get (ensures_bind ?_))
    rintro _ ⟨⟩
    refine ensures_bind (ensures_mono (ensures_flush env _) ?_)
    rintro _ flushed rfl
    refine ensures_pure ⟨?_, flushedRows_flush _, flushedRows_flush _, ?_, hnew⟩
    · exact find?_flushedRows_add hlast.added (newJobId_fresh hfresh hlast.visible)
    · intro found hlookup
      obtain ⟨hid, hflushed⟩ := hfound found hlookup
      refine ⟨hid, ?_⟩
      change last.sources.flushedRows = _
      rw [hsources]
      exact hflushed
  cases args.retryOfJobId with
  | none => exact hinsert after hafter rfl
  | some originalJobId =>
    refine ensures_bind ?_
    rintro original ⟨⟩
    have hget : SeesJobs (jobs.map CrawlJob.id) { after with jobs := (after.jobs.get originalJobId).2 } := by
      unfold UnitOfWork.get
      cases after.jobs.identity originalJobId with
      | some tracked => exact hafter
      | none =>
        cases after.jobs.visible.find? (Entity.key · = originalJobId) with
        | none => exact hafter
        | some row =>
          exact ⟨by rw [← hafter.visible, track_visible], (foldl_track_added [row] after.jobs).trans hafter.added⟩
    change Ensures _ (if (after.jobs.get originalJobId).1.isNone = true then _ else insertJob ())
      { after with jobs := (after.jobs.get originalJobId).2 }
    by_cases hnone : (after.jobs.get originalJobId).1.isNone
    · rw [if_pos hnone]
      exact ensures_bind (ensures_throw _)
    · rw [if_neg hnone]
      exact hinsert _ hget rfl

/-- A commit makes the rows that a session has sent the committed ones. -/
theorem ensures_commit (env : Environment) {session : Session} (hjobs : session.jobs.flushedRows = session.jobs.visible)
    (hsources : session.sources.flushedRows = session.sources.visible) :
    Ensures (fun _ after ↦ after.jobs.committed = session.jobs.visible ∧ after.sources.committed = session.sources.visible)
      (commit env) session := by
  refine ensures_bind (ensures_mono (ensures_flush env session) ?_)
  rintro _ flushed rfl _ ⟨⟩
  refine ⟨?_, ?_⟩
  · change session.jobs.flush.flushedRows = _
    rw [flushedRows_flush]
    exact hjobs
  · change session.sources.flush.flushedRows = _
    rw [flushedRows_flush]
    exact hsources

/-- The handler always raises. -/
theorem ensures_integrityHandler (source : SourceSite) (retryOfJobId : Option ℕ) (raised : ServiceError)
    (session : Session) : Ensures (fun _ _ ↦ False) (integrityHandler source retryOfJobId raised) session := by
  unfold integrityHandler
  split
  · refine ensures_bind (ensures_of_forall fun _ _ ↦ ensures_bind (ensures_of_forall fun conflict _ ↦ ?_))
    cases conflict with
    | some conflict => exact ensures_throw _
    | none =>
      dsimp only
      split
      · exact ensures_bind (ensures_of_forall fun _ _ ↦ ensures_throw _)
      · exact ensures_throw _
  · exact ensures_throw _

/-- A handler that always raises changes nothing about what a program ensures. -/
theorem ensures_tryCatch {post : ℕ → Session → Prop} {program : Transaction ℕ} {handler : ServiceError → Transaction ℕ}
    (h : Ensures post program session) (hhandler : ∀ raised after, Ensures (fun _ _ ↦ False) (handler raised) after) :
    Ensures post (tryCatch program handler) session := by
  unfold Ensures at h ⊢
  rw [ends_tryCatch]
  apply ends_mono h
  intro outcome after hafter
  cases outcome with
  | ok value => exact hafter
  | error raised => exact fun value hvalue ↦ (hhandler raised after value hvalue).elim

end Job

/-! ## Ownership -/

/-- The job belongs to the source; no job of its row was active when the service looked; and the codes
that the request and the sweep take from the two rows bring a worker to the source. -/
structure OwnsJob (source : SourceSite) (jobs : List CrawlJob) (sources : List SourceSite) (job : CrawlJob) : Prop where
  owner : job.sourceSiteId = source.id
  checked : ∀ other ∈ jobs, other.sourceSiteId = job.sourceSiteId → other.status.isActive = false
  enqueued : ∃ row ∈ sources, row.id = source.id ∧ getModelByCode sources (strip row.code) = some row
  swept : ∃ row ∈ sources, row.id = job.sourceSiteId ∧ getModelByCode sources (strip row.code) = some row

section Ownership

variable {sources : List SourceSite} {source : SourceSite}

/-- A code that one row has brings a worker to that row. -/
theorem getModelByCode_eq_some {row : SourceSite} (hrow : row ∈ sources)
    (hunique : ∀ other ∈ sources, other.code = row.code → other = row) : getModelByCode sources row.code = some row := by
  unfold getModelByCode
  cases hfound : sources.find? (·.code = row.code) with
  | none => exact absurd (decide_eq_true rfl) (List.find?_eq_none.mp hfound row hrow)
  | some found =>
    have hcode : found.code = row.code := by simpa using List.find?_some hfound
    rw [hunique found (List.mem_of_find?_eq_some hfound) hcode]

/-- A source that is found first gets the canonical code, and that brings a worker to it. -/
theorem getModelByCode_canonicalRows (hkeys : SourceKeys sources) (hsource : source ∈ sources)
    (hfirst : FoundFirst sources source) :
    ∃ row ∈ canonicalRows sources source (normalizeSourceCode source.code), row.id = source.id ∧
      getModelByCode (canonicalRows sources source (normalizeSourceCode source.code)) (strip row.code) = some row := by
  have hstripped : strip (normalizeSourceCode source.code) = normalizeSourceCode source.code := by
    rcases normalizeSourceCode_cases source.code with hsame | ⟨-, hdeal⟩
    · rw [hsame, strip_strip]
    · rw [hdeal]
      rfl
  rcases hfirst with hcanonical | ⟨hnone, -⟩
  · have hkept : ¬ (source.code ≠ normalizeSourceCode source.code ∧
        sources.all (·.code ≠ normalizeSourceCode source.code)) := fun h ↦ h.1 hcanonical
    have hplain : strip source.code = source.code := by
      rw [← hcanonical] at hstripped
      exact hstripped
    rw [canonicalRows, if_neg hkept]
    refine ⟨source, hsource, rfl, ?_⟩
    rw [hplain]
    exact getModelByCode_eq_some hsource fun other hother hcode ↦ hkeys.eq_of_code_eq hother hsource hcode
  · generalize normalizeSourceCode source.code = code at hnone hstripped
    have hrenamed : source.code ≠ code ∧ sources.all (·.code ≠ code) :=
      ⟨hnone source hsource, List.all_eq_true.mpr fun row hrow ↦ decide_eq_true (hnone row hrow)⟩
    rw [canonicalRows, if_pos hrenamed]
    set renamed : SourceSite := { source with code := code } with hrenamedRow
    have hrow : renamed ∈ sources.map fun row ↦ if row.id = source.id then renamed else row :=
      List.mem_map.mpr ⟨source, hsource, if_pos rfl⟩
    have hplain : strip renamed.code = renamed.code := hstripped
    refine ⟨renamed, hrow, rfl, ?_⟩
    rw [hplain]
    apply getModelByCode_eq_some hrow
    intro other hother hcode
    obtain ⟨row, hmem, rfl⟩ := List.mem_map.mp hother
    by_cases hid : row.id = source.id
    · rw [if_pos hid]
    · rw [if_neg hid] at hcode
      exact absurd hcode (hnone row hmem)

/-- The inserted job belongs to the source that the code leads to. -/
theorem ensures_insertCrawlJob (env : Environment) (hkeys : SourceKeys sources) {jobs : List CrawlJob}
    (hfresh : FreshSequences env sources jobs) (args : CreateArgs) {session : Session}
    (h : session.sources.Unmodified sources) (hids : SeesJobs (jobs.map CrawlJob.id) session) :
    Ensures (fun jobId after ↦ ∃ job, job.id = jobId ∧ after.jobs.committed.find? (·.id = jobId) = some job ∧
        (∀ found, lookupSource sources source.code = some found → job.sourceSiteId = found.id ∧
          after.sources.committed = canonicalRows sources found (normalizeSourceCode source.code)) ∧
        (lookupSource sources source.code = none → job.sourceSiteId = newSourceId env sources))
      (insertCrawlJob env source args) session := by
  unfold insertCrawlJob
  refine ensures_tryCatch ?_ (ensures_integrityHandler source args.retryOfJobId)
  refine ensures_bind (ensures_mono (ensures_createJobInSession env hkeys source.code _ _ args hfresh h hids) ?_)
  intro job sent hsent
  refine ensures_bind (ensures_mono (ensures_commit env hsent.jobsSettled hsent.sourcesSettled) ?_)
  rintro _ committed ⟨hjobs, hsources⟩
  refine ensures_pure ⟨job, rfl, ?_, ?_, hsent.created⟩
  · rw [hjobs]
    exact hsent.sent
  · rw [hsources]
    exact hsent.found

/-- Where the service succeeds, the job is the source's own exactly when the lookup finds the source first. -/
theorem ensures_createCrawlJob_ownership (env : Environment) (hkeys : SourceKeys sources) (hsource : source ∈ sources)
    {jobs : List CrawlJob} (hfresh : FreshSequences env sources jobs) (args : CreateArgs) :
    Ensures (fun job after ↦ OwnsJob source jobs after.sources.committed job ↔ FoundFirst sources source)
      (createCrawlJob env source args) (.opened sources jobs) := by
  have hopened : Unsent (.opened sources) jobs (.opened sources jobs) := ⟨rfl, rfl, rfl⟩
  unfold createCrawlJob
  split
  · exact ensures_throw _
  · refine ensures_bind (ends_mono (keeps_unsent_reconcile env.reconciledAt none _ hopened) ?_)
    intro _ reconciled hreconciled _ _
    refine ensures_bind (ensures_mono (ensures_raiseIfSourceHasActiveJob source hreconciled) ?_)
    rintro _ checked ⟨hchecked, hinactive⟩
    have hids : SeesJobs (jobs.map CrawlJob.id) checked := ⟨by rw [hchecked.visible], hchecked.added⟩
    have hunmodified : checked.sources.Unmodified sources := by
      rw [hchecked.sources]
      exact unmodified_opened sources
    refine ensures_bind (ensures_mono (ensures_insertCrawlJob env hkeys hfresh args hunmodified hids) ?_)
    rintro jobId committed ⟨job, rfl, hfind, hfound, hnew⟩
    refine ensures_bind (ensures_bind (ensures_get ?_))
    rw [hfind]
    refine ensures_pure (ensures_pure ?_)
    have howner : job.snapshot.sourceSiteId = job.sourceSiteId := rfl
    constructor
    · intro howns
      rw [← lookupSource_eq_some_iff hkeys hsource]
      cases hlookup : lookupSource sources source.code with
      | some found =>
        have hid : found.id = source.id := (hfound found hlookup).1.symm.trans howns.owner
        rw [hkeys.eq_of_id_eq (lookupSource_mem hlookup) hsource hid]
      | none =>
        have hid : source.id = newSourceId env sources := howns.owner.symm.trans (hnew hlookup)
        exact absurd hid (newSourceId_fresh hfresh source hsource)
    · intro hfirst
      obtain ⟨hid, hrows⟩ := hfound source ((lookupSource_eq_some_iff hkeys hsource).mpr hfirst)
      obtain ⟨row, hrow, hrowId, hrowFound⟩ := getModelByCode_canonicalRows hkeys hsource hfirst
      rw [← hrows] at hrow hrowFound
      refine ⟨hid, ?_, ⟨row, hrow, hrowId, hrowFound⟩, ⟨row, hrow, hrowId.trans hid.symm, hrowFound⟩⟩
      intro other hother hsame
      exact hinactive other hother (hsame.trans hid)

end Ownership

/-- Whenever `_create_crawl_job` succeeds for a source of the table, the job is the source's own, and
workers that are given its code accept it, if and only if the lookup finds the source first. -/
theorem created_job_owned_iff (env : Environment) {sources : List SourceSite} (hkeys : SourceKeys sources)
    {source : SourceSite} (hsource : source ∈ sources) {jobs : List CrawlJob} (hfresh : FreshSequences env sources jobs)
    (args : CreateArgs) {job : CrawlJob} {after : Session}
    (hcreated : (createCrawlJob env source args).run.run (.opened sources jobs) = (.ok job, after)) :
    OwnsJob source jobs after.sources.committed job ↔ FoundFirst sources source :=
  (ensures_createCrawlJob_ownership env hkeys hsource hfresh args).of_run hcreated

/-- The deal source under its first code. -/
def oldDealSource : SourceSite := { dealSource with id := 2, code := "2" }

theorem created_job_owned_iff_oldDealSource :
    ∃ job after, (createCrawlJob afterLease oldDealSource {}).run.run (.opened [oldDealSource] []) = (.ok job, after) ∧
      OwnsJob oldDealSource [] after.sources.committed job := by
  have hkeys : SourceKeys [oldDealSource] := ⟨by decide, by decide⟩
  have hfresh : FreshSequences afterLease [oldDealSource] [] := ⟨fun h ↦ (nomatch h), fun h ↦ (nomatch h)⟩
  have hfirst : FoundFirst [oldDealSource] oldDealSource := by
    refine Or.inr ⟨?_, Or.inl (by decide)⟩
    intro row hrow
    rw [List.mem_singleton.mp hrow]
    decide
  have hrun : (createCrawlJob afterLease oldDealSource {}).run.run (.opened [oldDealSource] []) =
      (.ok (CrawlJob.created 1 2 {} (seconds 1800) (seconds 1800)),
        ((createCrawlJob afterLease oldDealSource {}).run.run (.opened [oldDealSource] [])).2) := by rfl
  exact ⟨_, _, hrun, (created_job_owned_iff afterLease hkeys List.mem_cons_self hfresh {} hrun).mpr hfirst⟩

/-- With a row under the canonical code beside it, the job of the old row is the other row's, and the
worker that gets the code of the old row refuses it. -/
theorem not_created_job_owned_oldDealSource :
    ∃ job after, (createCrawlJob afterLease oldDealSource {}).run.run (.opened [dealSource, oldDealSource] []) =
        (.ok job, after) ∧
      ¬ OwnsJob oldDealSource [] after.sources.committed job ∧
      getModelByCode after.sources.committed "2" = some oldDealSource ∧
      startExistingCrawlJob after.jobs.committed oldDealSource 1 .manual [("job_type", "manual")] 0 =
        .error (.valueError "crawl_job source mismatch: crawl_job_id=1, source_site_id=1, expected=2") := by
  have hrun : (createCrawlJob afterLease oldDealSource {}).run.run (.opened [dealSource, oldDealSource] []) =
      (.ok (CrawlJob.created 1 1 {} (seconds 1800) (seconds 1800)),
        ((createCrawlJob afterLease oldDealSource {}).run.run (.opened [dealSource, oldDealSource] [])).2) := by rfl
  refine ⟨_, _, hrun, ?_, by rfl, by rfl⟩
  intro howns
  exact absurd howns.owner (by decide)

end TenderPhase1.Trigger
