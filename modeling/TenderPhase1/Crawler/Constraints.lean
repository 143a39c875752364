import TenderPhase1.Crawler.WriterFrame
import Mathlib.Data.List.Pairwise

/-!
# Statements that the database accepts

A statement returns where the connection holds and the pending rows keep the
unique constraints and the foreign keys. Appending a row with fresh keys and
replacing a row by one with the same keys keep them.
-/

namespace TenderPhase1.Crawler

open Jobs Sources Raising

/-! ## Statements that return -/

section Returns

variable {conn : Connection} {state : CallState}

theorem refusal_eq_none {stage : Stage} {db : Db} :
    conn.refusal stage db = none ↔ conn.fails stage = false ∧ conn.accepts db := by
  unfold Connection.refusal
  cases conn.fails stage <;> cases conn.accepts db <;> simp

theorem returns_flush {post : Unit → CallState → Prop} {stage : Stage} (hfails : conn.fails stage = false)
    (haccepts : conn.accepts state.work) (hpost : post () state) : Returns post (flush conn stage) state := by
  unfold Returns
  rw [ends_flush, refusal_eq_none.mpr ⟨hfails, haccepts⟩]
  exact ⟨(), rfl, hpost⟩

theorem returns_update {post : Unit → CallState → Prop} {change : Db → Db}
    (hpost : post () { state with work := change state.work }) : Returns post (update change) state :=
  ⟨(), rfl, hpost⟩

theorem returns_raisePython {Result : Type} {post : Result → CallState → Prop} {result : Except PyError Result}
    {value : Result} (h : result = .ok value) (hpost : post value state) :
    Returns post (raisePython result) state := by
  subst h
  exact returns_pure hpost

theorem returns_scalars {Row : Type} {post : List Row → CallState → Prop} {table : Db → List Row}
    {filter : Row → Bool} (hfails : conn.fails .statement = false) (haccepts : conn.accepts state.work)
    (hpost : post (conn.answer ((table state.work).filter filter)) state) :
    Returns post (scalars conn table filter) state := by
  apply returns_bind
  apply returns_flush hfails haccepts
  apply returns_bind
  exact returns_get (returns_pure hpost)

theorem returns_scalar {Row : Type} {post : Option Row → CallState → Prop} {table : Db → List Row}
    {filter : Row → Bool} (hfails : conn.fails .statement = false) (haccepts : conn.accepts state.work)
    (hpost : post (conn.answer ((table state.work).filter filter)).head? state) :
    Returns post (scalar conn table filter) state := by
  apply returns_bind
  apply returns_scalars hfails haccepts
  exact returns_pure hpost

theorem returns_commit {post : Unit → CallState → Prop} (hfails : conn.fails .commit = false)
    (haccepts : conn.accepts state.work) (hpost : ∀ after, post () after) : Returns post (commit conn) state := by
  apply returns_bind
  apply returns_flush hfails haccepts
  exact ⟨(), rfl, hpost _⟩

/-- A query that no row of the table answers. -/
theorem answer_eq_nil {Row : Type} {rows : List Row} {filter : Row → Bool} (h : ∀ row ∈ rows, filter row = false) :
    conn.answer (rows.filter filter) = [] := by
  have hnone : rows.filter filter = [] := by
    rw [List.filter_eq_nil_iff]
    intro row hrow
    rw [h row hrow]
    exact Bool.false_ne_true
  have hperm := conn.answer_perm (rows.filter filter)
  rw [hnone] at hperm ⊢
  exact hperm.eq_nil

/-- The first row of an answer is a row of the table that meets the condition. -/
theorem mem_of_head?_answer {Row : Type} {rows : List Row} {filter : Row → Bool} {row : Row}
    (h : (conn.answer (rows.filter filter)).head? = some row) : row ∈ rows ∧ filter row := by
  have hmem : row ∈ conn.answer (rows.filter filter) := List.mem_of_mem_head? h
  exact List.mem_filter.mp ((conn.answer_perm _).mem_iff.mp hmem)

/-- Where a query finds nothing, no row of the table meets its condition. -/
theorem filter_eq_false_of_head?_answer {Row : Type} {rows : List Row} {filter : Row → Bool}
    (h : (conn.answer (rows.filter filter)).head? = none) : ∀ row ∈ rows, filter row = false := by
  have hnil : conn.answer (rows.filter filter) = [] := List.head?_eq_none_iff.mp h
  have hperm := conn.answer_perm (rows.filter filter)
  rw [hnil] at hperm
  intro row hrow
  have hnone := List.filter_eq_nil_iff.mp hperm.nil_eq.symm row hrow
  simpa using hnone

end Returns

/-! ## Keys of a table -/

section Keys

variable {Row Key : Type} {key : Row → Key} {optionalKey : Row → Option Key} {id : Row → ℕ} {rows : List Row}
  {row old : Row}

theorem nodup_map_append (h : (rows.map key).Nodup) (hfresh : ∀ other ∈ rows, key other ≠ key row) :
    ((rows ++ [row]).map key).Nodup := by
  rw [List.map_append, List.nodup_append]
  refine ⟨h, List.nodup_singleton _, ?_⟩
  intro taken htaken new hnew
  obtain ⟨other, hother, rfl⟩ := List.mem_map.mp htaken
  rw [List.mem_singleton.mp hnew]
  exact hfresh other hother

theorem nodup_filterMap_append (h : (rows.filterMap optionalKey).Nodup)
    (hfresh : ∀ key, optionalKey row = some key → ∀ other ∈ rows, optionalKey other ≠ some key) :
    ((rows ++ [row]).filterMap optionalKey).Nodup := by
  rw [List.filterMap_append, List.nodup_append]
  cases hkey : optionalKey row with
  | none => simpa [hkey] using h
  | some key =>
    refine ⟨h, by simp [hkey], ?_⟩
    intro taken htaken new hnew
    obtain ⟨other, hother, htakenKey⟩ := List.mem_filterMap.mp htaken
    have hnewKey : new = key := by simpa [hkey] using hnew
    rintro rfl
    rw [hnewKey] at htakenKey
    exact hfresh key hkey other hother htakenKey

/-- Two rows of a table with one id are one row. -/
theorem eq_of_id_eq (h : (rows.map id).Nodup) (hold : old ∈ rows) (hrow : row ∈ rows) (heq : id row = id old) :
    row = old :=
  List.inj_on_of_nodup_map h hrow hold heq

theorem map_putRow (h : (rows.map id).Nodup) (hold : old ∈ rows) (hid : id row = id old) (hkey : key row = key old) :
    (putRow id row rows).map key = rows.map key := by
  unfold putRow
  rw [List.map_map]
  apply List.map_congr_left
  intro other hother
  by_cases heq : id other = id row
  · have hsame := eq_of_id_eq h hold hother (heq.trans hid)
    rw [Function.comp_apply, if_pos heq, hkey, hsame]
  · rw [Function.comp_apply, if_neg heq]

theorem filterMap_putRow (h : (rows.map id).Nodup) (hold : old ∈ rows) (hid : id row = id old)
    (hkey : optionalKey row = optionalKey old) :
    (putRow id row rows).filterMap optionalKey = rows.filterMap optionalKey := by
  have hmap : (putRow id row rows).map optionalKey = rows.map optionalKey := map_putRow h hold hid hkey
  simpa [List.filterMap_map, Function.comp_def] using congrArg (List.filterMap fun key ↦ key) hmap

theorem map_id_putRow : (putRow id row rows).map id = rows.map id := by
  unfold putRow
  rw [List.map_map]
  apply List.map_congr_left
  intro other _
  by_cases heq : id other = id row
  · simp [heq]
  · simp [heq]

theorem mem_putRow (hold : old ∈ rows) (hid : id row = id old) : row ∈ putRow id row rows := by
  apply List.mem_map.mpr
  exact ⟨old, hold, if_pos hid.symm⟩

/-- Where ids are distinct, keys are distinct if and only if rows with one key have one id. -/
theorem nodup_filterMap_iff (hids : (rows.map id).Nodup) :
    (rows.filterMap optionalKey).Nodup ↔
      ∀ first ∈ rows, ∀ second ∈ rows, ∀ value, optionalKey first = some value → optionalKey second = some value →
        id first = id second := by
  constructor
  · intro hkeys first hfirst second hsecond value hfirstKey hsecondKey
    have hsymm : Std.Symm fun (first second : Row) ↦ ∀ value, optionalKey first = some value →
        ∀ other, optionalKey second = some other → value ≠ other :=
      ⟨fun _ _ hne value hvalue other hother ↦ (hne other hother value hvalue).symm⟩
    by_contra hne
    have hrows : first ≠ second := fun heq ↦ hne (congrArg id heq)
    exact (List.pairwise_filterMap.mp hkeys).forall hfirst hsecond hrows value hfirstKey value hsecondKey rfl
  · intro hsame
    apply List.pairwise_filterMap.mpr
    refine (List.pairwise_map.mp hids).imp_of_mem ?_
    rintro first second hfirst hsecond hne value hfirstKey other hsecondKey rfl
    exact hne (hsame first hfirst second hsecond value hfirstKey hsecondKey)

/-- A row may take any keys that no other row holds. -/
theorem nodup_filterMap_putRow (hids : (rows.map id).Nodup) (h : (rows.filterMap optionalKey).Nodup)
    (hfree : ∀ other ∈ rows, id other ≠ id row → ∀ value, optionalKey row = some value → optionalKey other ≠ some value) :
    ((putRow id row rows).filterMap optionalKey).Nodup := by
  have hputIds : ((putRow id row rows).map id).Nodup := by
    rw [map_id_putRow]
    exact hids
  rw [nodup_filterMap_iff hputIds]
  rw [nodup_filterMap_iff hids] at h
  intro first hfirst second hsecond value hfirstKey hsecondKey
  obtain ⟨oldFirst, holdFirst, rfl⟩ := List.mem_map.mp hfirst
  obtain ⟨oldSecond, holdSecond, rfl⟩ := List.mem_map.mp hsecond
  by_cases hfirstSelf : id oldFirst = id row
  · by_cases hsecondSelf : id oldSecond = id row
    · rw [if_pos hfirstSelf, if_pos hsecondSelf]
    · rw [if_pos hfirstSelf] at hfirstKey
      rw [if_neg hsecondSelf] at hsecondKey
      exact absurd hsecondKey (hfree oldSecond holdSecond hsecondSelf value hfirstKey)
  · rw [if_neg hfirstSelf] at hfirstKey ⊢
    by_cases hsecondSelf : id oldSecond = id row
    · rw [if_pos hsecondSelf] at hsecondKey
      exact absurd hfirstKey (hfree oldFirst holdFirst hfirstSelf value hsecondKey)
    · rw [if_neg hsecondSelf] at hsecondKey ⊢
      exact h oldFirst holdFirst oldSecond holdSecond value hfirstKey hsecondKey

end Keys

/-! ## Tables -/

section Tables

variable {conn : Connection} {db : Db}

theorem Connection.nextId_ne {Row : Type} {id : Row → ℕ} {rows : List Row} {row : Row} (hrow : row ∈ rows) :
    id row ≠ conn.nextId (rows.map id) := by
  intro heq
  apply conn.nextId_notMem (rows.map id)
  rw [← heq]
  exact List.mem_map_of_mem hrow

theorem accepts_iff :
    conn.accepts db ↔ uniqueSources db.sources ∧ uniqueRawDocuments db.rawDocuments ∧ uniqueNotices db.notices ∧
      uniqueVersions db.versions ∧ uniqueAttachments db.attachments ∧ (db.errors.map CrawlError.id).Nodup ∧
      (conn.foreignKeys → db.jobsExist) := by
  simp only [Connection.accepts, Db.unique, Bool.and_eq_true, Bool.or_eq_true, Bool.not_eq_true', decide_eq_true_eq,
    and_assoc]
  cases conn.foreignKeys <;> simp

theorem uniqueNotices_iff {rows : List TenderNotice} :
    uniqueNotices rows ↔ (rows.map TenderNotice.id).Nodup ∧ (rows.filterMap TenderNotice.externalIdKey).Nodup ∧
      (rows.filterMap TenderNotice.dedupHashKey).Nodup := by
  simp [uniqueNotices]

theorem uniqueVersions_iff {rows : List NoticeVersion} :
    uniqueVersions rows ↔ (rows.map NoticeVersion.id).Nodup ∧
      (rows.map fun row ↦ (row.noticeId, row.versionNo)).Nodup ∧
      (rows.map fun row ↦ (row.noticeId, row.contentHash)).Nodup := by
  simp [uniqueVersions]

theorem uniqueRawDocuments_iff {rows : List RawDocument} :
    uniqueRawDocuments rows ↔ (rows.map RawDocument.id).Nodup ∧
      (rows.map fun row ↦ (row.sourceSiteId, row.urlHash)).Nodup := by
  simp [uniqueRawDocuments]

theorem uniqueAttachments_iff {rows : List TenderAttachment} :
    uniqueAttachments rows ↔ (rows.map TenderAttachment.id).Nodup ∧
      (rows.map fun row ↦ (row.sourceSiteId, row.urlHash)).Nodup := by
  simp [uniqueAttachments]

/-- A foreign key to the jobs holds whatever happens to the other columns of the jobs. -/
theorem jobsExist_putRow {counted : CrawlJob} (h : db.jobsExist) :
    Db.jobsExist { db with jobs := putRow CrawlJob.id counted db.jobs } := by
  have hany (jobId : ℤ) (jobs : List CrawlJob) :
      (jobs.any fun job ↦ (job.id : ℤ) = jobId) = (jobs.map CrawlJob.id).any fun (id : ℕ) ↦ (id : ℤ) = jobId := by
    rw [List.any_map]
    rfl
  unfold Db.jobsExist at h ⊢
  simp only [hany, map_id_putRow] at h ⊢
  exact h

theorem accepts_jobs {counted : CrawlJob} (h : conn.accepts db) :
    conn.accepts { db with jobs := putRow CrawlJob.id counted db.jobs } := by
  rw [accepts_iff] at h ⊢
  obtain ⟨hsources, hdocuments, hnotices, hversions, hattachments, herrors, hjobs⟩ := h
  exact ⟨hsources, hdocuments, hnotices, hversions, hattachments, herrors, fun hkeys ↦ jobsExist_putRow (hjobs hkeys)⟩

theorem accepts_notices {rows : List TenderNotice} (h : conn.accepts db) (hrows : uniqueNotices rows) :
    conn.accepts { db with notices := rows } := by
  rw [accepts_iff] at h ⊢
  exact ⟨h.1, h.2.1, hrows, h.2.2.2⟩

theorem accepts_versions {rows : List NoticeVersion} (h : conn.accepts db) (hrows : uniqueVersions rows) :
    conn.accepts { db with versions := rows } := by
  rw [accepts_iff] at h ⊢
  exact ⟨h.1, h.2.1, h.2.2.1, hrows, h.2.2.2.2⟩

theorem accepts_attachments {rows : List TenderAttachment} (h : conn.accepts db) (hrows : uniqueAttachments rows) :
    conn.accepts { db with attachments := rows } := by
  rw [accepts_iff] at h ⊢
  exact ⟨h.1, h.2.1, h.2.2.1, h.2.2.2.1, hrows, h.2.2.2.2.2⟩

/-- A new version of a notice that replaces the row keeps the constraints as long as its keys stay. -/
theorem uniqueNotices_putRow {rows : List TenderNotice} {row old : TenderNotice} (h : uniqueNotices rows)
    (hold : old ∈ rows) (hid : row.id = old.id) (hexternal : row.externalIdKey = old.externalIdKey)
    (hhash : row.dedupHashKey = old.dedupHashKey) : uniqueNotices (putRow TenderNotice.id row rows) := by
  rw [uniqueNotices_iff] at h ⊢
  rw [map_id_putRow, filterMap_putRow h.1 hold hid hexternal, filterMap_putRow h.1 hold hid hhash]
  exact h

theorem uniqueVersions_putRow {rows : List NoticeVersion} {row old : NoticeVersion} (h : uniqueVersions rows)
    (hold : old ∈ rows) (hid : row.id = old.id) (hnotice : row.noticeId = old.noticeId)
    (hnumber : row.versionNo = old.versionNo) (hcontent : row.contentHash = old.contentHash) :
    uniqueVersions (putRow NoticeVersion.id row rows) := by
  rw [uniqueVersions_iff] at h ⊢
  rw [map_id_putRow, map_putRow h.1 hold hid (by rw [hnotice, hnumber]),
    map_putRow h.1 hold hid (by rw [hnotice, hcontent])]
  exact h

end Tables

end TenderPhase1.Crawler
