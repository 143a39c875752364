import TenderPhase1.Crawler.LinkedVersion
import TenderPhase1.Crawler.NoticeIdentity

/-!
# Source duplicates

A notice item whose content is stored under one of its keys is suppressed, by the keys
of the versions. The version item that follows is looked up by the keys of the notices,
which later items may have changed: it adds no row only where it finds a notice that has
its content.
-/

namespace TenderPhase1.Crawler

open Jobs Raising

/-- Some notice of the source has a version with the content and with one of the item's keys. -/
def Item.SeenIn (item : Item) (sourceSiteId : ℕ) (contentHash : String) (db : Db) : Prop :=
  ∃ notice ∈ db.notices, notice.sourceSiteId = sourceSiteId ∧
    ∃ version ∈ db.versions, version.noticeId = notice.id ∧ version.contentHash = contentHash ∧
      ((∃ key, item.dedupKey.asStr = some key ∧ version.dedupKey = some key) ∨
        ∃ key, item.sourceDuplicateKey.asStr = some key ∧ version.sourceDuplicateKey = some key)

/-- The notice that the item finds has a version with the content. -/
def Item.FindsContent (python : Python) (conn : Connection) (item : Item) (sourceSiteId : ℕ) (contentHash : String)
    (db : Db) : Prop :=
  ∃ notice, item.noticeIn python conn sourceSiteId db.notices = .ok (some notice) ∧
    ∃ version ∈ db.versions, version.noticeId = notice.id ∧ version.contentHash = contentHash

def Db.recordIds (db : Db) : List ℕ × List ℕ := (db.notices.map TenderNotice.id, db.versions.map NoticeVersion.id)

section Duplicates

variable {python : Python} {conn : Connection} {context : Context} {notice version item : Item} {contentHash : String}
  {sourceSiteId : ℕ} {state after : CallState}

/-- An item whose content has been seen is suppressed. -/
theorem Item.SeenIn.suppressedIn {db : Db} (h : item.SeenIn sourceSiteId contentHash db)
    (hcontent : item.contentHash.asStr = some contentHash) : item.suppressedIn sourceSiteId db = true := by
  obtain ⟨notice, hnotice, hsource, version, hversion, hof, hversionContent, hkey⟩ := h
  unfold Item.suppressedIn
  rw [List.any_eq_true]
  refine ⟨version, hversion, ?_⟩
  rw [Bool.and_eq_true, Bool.and_eq_true, Bool.or_eq_true]
  refine ⟨⟨?_, ?_⟩, ?_⟩
  · rw [List.any_eq_true]
    exact ⟨notice, hnotice, by simp [hsource, hof]⟩
  · rcases hkey with ⟨key, hitem, hrow⟩ | ⟨key, hitem, hrow⟩
    · left
      simp [hitem, hrow]
    · right
      simp [hitem, hrow]
  · simp [hcontent, hversionContent]

/-- An item that is suppressed leaves notices and versions alone. -/
theorem ensures_suppressed (h : item.suppressedIn sourceSiteId state.work = true) :
    Ensures (fun _ after ↦ after.records = state.records) (storeNotice python conn item sourceSiteId) state := by
  apply ensures_bind
  refine ensures_mono ensures_suppressedIn ?_
  rintro suppressed after ⟨rfl, hsuppressed⟩
  rw [hsuppressed, h]
  apply ensures_bind
  apply ensures_recordStats
  intro jobs
  exact ensures_pure rfl

theorem storedRows_self {Row : Type} [DecidableEq Row] (stored : Row → Row) (rows : List Row) :
    storedRows stored rows rows = rows := by
  unfold storedRows
  rw [List.map_congr_left fun row hrow ↦ if_pos hrow, List.map_id']

/-- A call that leaves both tables alone until its commit leaves them as they were committed. -/
theorem records_stored {work : Db} (h : work.records = context.db.records) :
    (Db.stored conn context.db work).records = context.db.records := by
  obtain ⟨hnotices, hversions⟩ := Prod.mk.inj h
  unfold Db.records Db.stored
  rw [hnotices, hversions, storedRows_self, storedRows_self]

/-- The first call of a bundle that is stored already adds no row and changes none. -/
theorem records_suppressed (hnormalized : normalizeNoticeItem python notice = .ok item)
    (hseen : item.suppressedIn (context.sourceIdOf conn item) context.db = true) :
    (context.step python (conn, .notice notice)).db.records = context.db.records := by
  rcases step_cases python context conn (.notice notice) with hkept | ⟨other, found, last, hcommitted⟩
  · rw [hkept]
  · obtain rfl := Except.ok.inj (hnormalized.symm.trans hcommitted.normalized)
    have hfound : found.records = context.opened.records := hcommitted.sourceFound.records_eq
    have hsuppressed : item.suppressedIn (context.sourceIdOf conn item) found.work = true := by
      rw [suppressedIn_of_records hfound]
      exact hseen
    have hlast : last.records = found.records := (ensures_suppressed hsuppressed).of_run hcommitted.run
    rw [hcommitted.step]
    exact records_stored (hlast.trans hfound)

theorem Merged.noticeIds_eq {merged : TenderNotice} {created : Bool}
    (h : Merged python conn item sourceSiteId state (some (merged, created)) after) :
    after.work.notices.map TenderNotice.id =
      state.work.notices.map TenderNotice.id ++ if created then [merged.id] else [] := by
  cases h with
  | merged hresolved happlied =>
    rw [map_id_putRow, (applyFields_pointer happlied).1]
    cases hresolved with
    | found _ _ _ _ => exact (List.append_nil _).symm
    | created _ _ _ => rw [List.map_append]; rfl

theorem ResolvedVersion.versionIds_eq {noticeId : ℕ} {found : NoticeVersion} {created : Bool}
    (h : ResolvedVersion python conn item noticeId state (some (found, created)) after) :
    after.work.versions.map NoticeVersion.id =
      state.work.versions.map NoticeVersion.id ++ if created then [found.id] else [] := by
  cases h with
  | found _ _ _ _ _ => exact (List.append_nil _).symm
  | created _ _ _ _ => rw [List.map_append]; rfl

/-- A version is created where the notice has none with the content. -/
theorem ResolvedVersion.created_iff {noticeId : ℕ} {found : NoticeVersion} {created : Bool}
    (h : ResolvedVersion python conn item noticeId state (some (found, created)) after)
    (hcontent : item.contentHash.asStr = some contentHash) :
    created = false ↔ ∃ version ∈ state.work.versions, version.noticeId = noticeId ∧ version.contentHash = contentHash := by
  cases h with
  | found hmem _ hnotice hsame _ => exact ⟨fun _ ↦ ⟨found, hmem, hnotice, hsame contentHash hcontent⟩, fun _ ↦ rfl⟩
  | created _ _ hnew _ =>
    constructor
    · intro h
      cases h
    · rintro ⟨version, hversion, hof, hversionContent⟩
      exact absurd hversionContent (hnew contentHash hcontent version hversion hof)

/-- A version that is written adds no row if and only if its item finds a notice with its content. -/
theorem VersionWritten.recordIds_eq_iff {merged : TenderNotice} {created versionCreated : Bool} {found : NoticeVersion}
    (h : VersionWritten python conn item sourceSiteId state after merged created found versionCreated)
    (hcontent : item.contentHash.asStr = some contentHash) :
    after.work.recordIds = state.work.recordIds ↔ item.FindsContent python conn sourceSiteId contentHash state.work := by
  obtain ⟨⟨middle, resolved, hmerged, hresolved, hstored⟩, hmergedIn⟩ := h
  have hnotices : after.work.notices.map TenderNotice.id =
      state.work.notices.map TenderNotice.id ++ if created then [merged.id] else [] := by
    rw [hstored.noticeIds_eq, hresolved.mem.2.2, hmerged.noticeIds_eq]
  have hversions : after.work.versions.map NoticeVersion.id =
      state.work.versions.map NoticeVersion.id ++ if versionCreated then [found.id] else [] := by
    have hcolumns := congrArg (List.map VersionColumns.id) (VersionStored.columns_eq hresolved hstored)
    rw [List.map_map, List.map_map] at hcolumns
    rw [← hmerged.marks_eq.2.1, ← hresolved.versionIds_eq]
    exact hcolumns
  have hcreated := hresolved.created_iff hcontent
  rw [hmerged.marks_eq.2.1] at hcreated
  unfold Db.recordIds Item.FindsContent
  rw [Prod.mk.injEq, hnotices, hversions, List.append_right_eq_self, List.append_right_eq_self]
  cases created with
  | true =>
    constructor
    · intro h
      cases h.1
    · rintro ⟨notice, hnotice, -⟩
      cases hmergedIn.symm.trans hnotice
  | false =>
    obtain ⟨notice, hnotice, happlied⟩ := hmergedIn
    rw [(applyFields_pointer happlied).1] at hcreated
    have hnone : (if versionCreated then [found.id] else []) = [] ↔ versionCreated = false := by
      cases versionCreated <;> simp
    rw [hnone, hcreated]
    constructor
    · rintro ⟨-, hcontained⟩
      exact ⟨notice, hnotice, hcontained⟩
    · rintro ⟨other, hother, hcontained⟩
      obtain rfl := Option.some.inj (Except.ok.inj (hnotice.symm.trans hother))
      exact ⟨rfl, hcontained⟩

/-- The commit changes no id. -/
theorem recordIds_stored (conn : Connection) (committed work : Db) :
    (Db.stored conn committed work).recordIds = work.recordIds := by
  apply Prod.ext
  · apply map_storedRows
    exact fun _ ↦ rfl
  · apply map_storedRows
    exact fun _ ↦ rfl

end Duplicates

end TenderPhase1.Crawler
