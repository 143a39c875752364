import TenderPhase1.Crawler.Lookups

/-!
# The current version of a notice

The version that a notice shows is the one it names, and the one whose flag is set.
Writing a current version of a notice makes it that version, whatever the notice
showed before; writing the notice itself does not change what it shows.
-/

namespace TenderPhase1.Crawler

open Jobs Sources Raising

/-! ## What a notice shows -/

/-- The version is the one that the notice of the source with the hash shows: the notice names it,
and no other version of the notice is current. -/
structure CurrentVersion (sourceSiteId : ℕ) (dedupHash : String) (db : Db) (notice : TenderNotice)
    (version : NoticeVersion) : Prop where
  noticeMem : notice ∈ db.notices
  sourceSiteId : notice.sourceSiteId = sourceSiteId
  dedupHash : notice.dedupHash = some dedupHash
  versionMem : version ∈ db.versions
  noticeId : version.noticeId = notice.id
  named : notice.currentVersionId = some version.id
  current : version.isCurrent
  alone : ∀ other ∈ db.versions, other.noticeId = notice.id → other.isCurrent → other.id = version.id

/-- The notice of the source with the hash shows one version, with the change summary. -/
structure Db.Shows (sourceCode dedupHash : String) (changeSummary : Option String) (db : Db) : Prop where
  unique : db.unique
  shown : ∃ source ∈ db.sources, source.code = sourceCode ∧ ∃ notice version,
    CurrentVersion source.id dedupHash db notice version ∧ version.changeSummary = changeSummary

/-- A current version of the notice, by its flag or by the notice, has the change summary. -/
def Db.showsSummary (sourceCode dedupHash : String) (changeSummary : Option String) (db : Db) : Prop :=
  ∃ source ∈ db.sources, source.code = sourceCode ∧ ∃ notice ∈ db.notices,
    (notice.sourceSiteId = source.id ∧ notice.dedupHash = some dedupHash) ∧ ∃ version ∈ db.versions,
      version.changeSummary = changeSummary ∧
        (notice.currentVersionId = some version.id ∨ version.noticeId = notice.id ∧ version.isCurrent)

section Keys

variable {db : Db} {conn : Connection}

theorem unique_iff : db.unique ↔ uniqueSources db.sources ∧ uniqueRawDocuments db.rawDocuments ∧
    uniqueNotices db.notices ∧ uniqueVersions db.versions ∧ uniqueAttachments db.attachments ∧
      (db.errors.map CrawlError.id).Nodup := by
  simp [Db.unique, and_assoc]

/-- Two sources with one code are one source. -/
theorem eq_of_sourceCode {sources : List SourceSite} {source other : SourceSite} (h : uniqueSources sources)
    (hsource : source ∈ sources) (hother : other ∈ sources) (hcode : source.code = other.code) : source = other := by
  have hcodes : (sources.map SourceSite.id).Nodup ∧ (sources.map SourceSite.code).Nodup := by
    simpa [uniqueSources] using h
  exact List.inj_on_of_nodup_map hcodes.2 hsource hother hcode

/-- Two notices of one source with one hash are one notice. -/
theorem eq_of_dedupHash {notices : List TenderNotice} {notice other : TenderNotice} {dedupHash : String}
    (h : uniqueNotices notices) (hnotice : notice ∈ notices) (hother : other ∈ notices)
    (hsource : notice.sourceSiteId = other.sourceSiteId) (hhash : notice.dedupHash = some dedupHash)
    (hotherHash : other.dedupHash = some dedupHash) : notice = other := by
  obtain ⟨hids, -, hkeys⟩ := uniqueNotices_iff.mp h
  rw [nodup_filterMap_iff hids] at hkeys
  refine eq_of_id_eq hids hother hnotice (hkeys notice hnotice other hother (notice.sourceSiteId, dedupHash) ?_ ?_)
  · exact congrArg (Option.map (notice.sourceSiteId, ·)) hhash
  · rw [hsource]
    exact congrArg (Option.map (other.sourceSiteId, ·)) hotherHash

theorem unique_of_accepts (h : conn.accepts db) : db.unique := by
  rw [accepts_iff] at h
  rw [unique_iff]
  obtain ⟨hsources, hdocuments, hnotices, hversions, hattachments, herrors, -⟩ := h
  exact ⟨hsources, hdocuments, hnotices, hversions, hattachments, herrors⟩

/-- Where a notice shows one version, that version decides what it shows. -/
theorem Db.Shows.showsSummary_iff {sourceCode dedupHash : String} {shown changeSummary : Option String}
    (h : db.Shows sourceCode dedupHash shown) :
    db.showsSummary sourceCode dedupHash changeSummary ↔ shown = changeSummary := by
  obtain ⟨hunique, source, hsource, hcode, notice, version, hcurrent, rfl⟩ := h
  obtain ⟨hsources, -, hnotices, hversions, -, -⟩ := unique_iff.mp hunique
  constructor
  · rintro ⟨other, hother, hotherCode, row, hrow, ⟨hrowSource, hrowHash⟩, candidate, hcandidate, rfl, hshows⟩
    have hsameSource : other = source := eq_of_sourceCode hsources hother hsource (hotherCode.trans hcode.symm)
    have hsameNotice : row = notice := by
      apply eq_of_dedupHash hnotices hrow hcurrent.noticeMem _ hrowHash hcurrent.dedupHash
      rw [hrowSource, hcurrent.sourceSiteId, hsameSource]
    subst hsameNotice
    have hid : candidate.id = version.id := by
      rcases hshows with hnamed | ⟨hof, hflag⟩
      · exact (Option.some.inj (hcurrent.named.symm.trans hnamed)).symm
      · exact hcurrent.alone candidate hcandidate hof hflag
    have hsame := eq_of_id_eq (uniqueVersions_iff.mp hversions).1 hcurrent.versionMem hcandidate hid
    rw [hsame]
  · rintro rfl
    exact ⟨source, hsource, hcode, notice, hcurrent.noticeMem, ⟨hcurrent.sourceSiteId, hcurrent.dedupHash⟩, version,
      hcurrent.versionMem, rfl, Or.inl hcurrent.named⟩

end Keys

/-! ## Rows as they are stored -/

section Stored

variable {conn : Connection} {committed db : Db} {sourceSiteId : ℕ} {dedupHash : String} {notice : TenderNotice}
  {version : NoticeVersion}

/-- The columns that say what a notice shows. -/
def TenderNotice.shownColumns (notice : TenderNotice) : ℕ × ℕ × Option String × Option ℕ :=
  (notice.id, notice.sourceSiteId, notice.dedupHash, notice.currentVersionId)

def NoticeVersion.shownColumns (version : NoticeVersion) : ℕ × ℕ × Bool × Option String :=
  (version.id, version.noticeId, version.isCurrent, version.changeSummary)

/-- A commit changes none of the columns that its conversions leave alone. -/
theorem map_storedRows {Row Key : Type} [DecidableEq Row] {stored : Row → Row} {key : Row → Key}
    (hkey : ∀ row, key (stored row) = key row) (before rows : List Row) :
    (storedRows stored before rows).map key = rows.map key := by
  unfold storedRows
  rw [List.map_map]
  apply List.map_congr_left
  intro row _
  rw [Function.comp_apply]
  split
  · rfl
  · exact hkey row

theorem filterMap_storedRows {Row Key : Type} [DecidableEq Row] {stored : Row → Row} {key : Row → Option Key}
    (hkey : ∀ row, key (stored row) = key row) (before rows : List Row) :
    (storedRows stored before rows).filterMap key = rows.filterMap key := by
  have hmap := congrArg (List.filterMap fun key ↦ key) (map_storedRows hkey before rows)
  simpa [List.filterMap_map, Function.comp_def] using hmap

theorem unique_stored (h : db.unique) : (Db.stored conn committed db).unique := by
  rw [unique_iff, uniqueRawDocuments_iff, uniqueNotices_iff, uniqueVersions_iff, uniqueAttachments_iff] at h ⊢
  dsimp only [Db.stored]
  rw [map_storedRows, map_storedRows, map_storedRows, filterMap_storedRows, filterMap_storedRows, map_storedRows,
    map_storedRows, map_storedRows, map_storedRows, map_storedRows, map_storedRows]
  · exact h
  all_goals exact fun _ ↦ rfl

/-- What a notice shows depends on the columns above alone. -/
theorem CurrentVersion.of_shownColumns {after : Db} (h : CurrentVersion sourceSiteId dedupHash db notice version)
    (hnotices : after.notices.map TenderNotice.shownColumns = db.notices.map TenderNotice.shownColumns)
    (hversions : after.versions.map NoticeVersion.shownColumns = db.versions.map NoticeVersion.shownColumns) :
    ∃ keptNotice keptVersion, CurrentVersion sourceSiteId dedupHash after keptNotice keptVersion ∧
      keptVersion.shownColumns = version.shownColumns := by
  have hnotice := List.mem_map_of_mem (f := TenderNotice.shownColumns) h.noticeMem
  have hversion := List.mem_map_of_mem (f := NoticeVersion.shownColumns) h.versionMem
  rw [← hnotices] at hnotice
  rw [← hversions] at hversion
  obtain ⟨keptNotice, hkeptNotice, hnoticeColumns⟩ := List.mem_map.mp hnotice
  obtain ⟨keptVersion, hkeptVersion, hversionColumns⟩ := List.mem_map.mp hversion
  have hcolumns := hversionColumns
  simp only [TenderNotice.shownColumns, Prod.mk.injEq] at hnoticeColumns
  simp only [NoticeVersion.shownColumns, Prod.mk.injEq] at hversionColumns
  obtain ⟨hid, hsource, hhash, hnamed⟩ := hnoticeColumns
  obtain ⟨hversionId, hof, hcurrent, -⟩ := hversionColumns
  refine ⟨keptNotice, keptVersion, ⟨hkeptNotice, ?_, ?_, hkeptVersion, ?_, ?_, ?_, ?_⟩, hcolumns⟩
  · rw [hsource, h.sourceSiteId]
  · rw [hhash, h.dedupHash]
  · rw [hof, h.noticeId, hid]
  · rw [hnamed, h.named, hversionId]
  · rw [hcurrent, h.current]
  · intro other hother hotherOf hotherCurrent
    have hmem := List.mem_map_of_mem (f := NoticeVersion.shownColumns) hother
    rw [hversions] at hmem
    obtain ⟨old, hold, hcolumns⟩ := List.mem_map.mp hmem
    simp only [NoticeVersion.shownColumns, Prod.mk.injEq] at hcolumns
    obtain ⟨holdId, holdOf, holdCurrent, -⟩ := hcolumns
    rw [← holdId, hversionId]
    apply h.alone old hold
    · rw [holdOf, hotherOf, hid]
    · rw [holdCurrent, hotherCurrent]

theorem changeSummary_of_shownColumns {kept : NoticeVersion} (h : kept.shownColumns = version.shownColumns) :
    kept.changeSummary = version.changeSummary :=
  congrArg (fun columns : ℕ × ℕ × Bool × Option String ↦ columns.2.2.2) h

theorem CurrentVersion.stored (h : CurrentVersion sourceSiteId dedupHash db notice version) (conn : Connection)
    (committed : Db) :
    ∃ keptNotice keptVersion, CurrentVersion sourceSiteId dedupHash (Db.stored conn committed db) keptNotice keptVersion ∧
      keptVersion.shownColumns = version.shownColumns := by
  apply h.of_shownColumns
  · apply map_storedRows
    exact fun _ ↦ rfl
  · apply map_storedRows
    exact fun _ ↦ rfl

end Stored

/-! ## Writing a version -/

section Writes

variable {python : Python} {conn : Connection} {item : Item} {sourceSiteId : ℕ} {state after : CallState}
  {dedupHash : String} {notice merged : TenderNotice} {found version : NoticeVersion} {created : Bool}

/-- Storing a current version makes it the one its notice shows. -/
theorem VersionStored.currentVersion (h : VersionStored python conn item notice found state after)
    (hnotice : notice ∈ state.work.notices) (hsource : notice.sourceSiteId = sourceSiteId)
    (hhash : notice.dedupHash = some dedupHash) (hfound : found ∈ state.work.versions)
    (hof : found.noticeId = notice.id) (hcurrent : item.isCurrent.asBool python true) :
    ∃ shownNotice shownVersion, CurrentVersion sourceSiteId dedupHash after.work shownNotice shownVersion ∧
      shownVersion.changeSummary = item.changeSummary.asStr ∧ shownNotice.id = notice.id ∧
        shownVersion.id = found.id := by
  cases h with
  | @stored version put rawDocumentId widened jobs hversion hput haccepts hwidened =>
    have hid : version.id = found.id := by rw [hversion]; rfl
    have hversionOf : version.noticeId = notice.id := by rw [hversion]; exact hof
    have hflag : version.isCurrent = true := by rw [hversion]; exact hcurrent
    have hsummary : version.changeSummary = item.changeSummary.asStr := by rw [hversion]; rfl
    rw [if_pos hflag] at hwidened
    obtain ⟨first, latest, rfl⟩ := widenPublished_eq_ok hwidened
    unfold NoticeVersion.promotedIn
    rw [if_pos hflag]
    have hversions : version ∈ put.versions := by
      rw [hput]
      exact mem_putRow hfound hid
    have hnotices : notice ∈ put.notices := by
      rw [hput]
      exact hnotice
    refine ⟨_, version, ⟨mem_putRow (mem_putRow hnotices rfl) rfl, hsource, hhash, ?_, hversionOf, rfl, hflag, ?_⟩, hsummary,
      rfl, hid⟩
    · apply List.mem_map.mpr
      exact ⟨version, hversions, if_neg fun hother ↦ hother.2 rfl⟩
    · intro other hother hotherOf hotherFlag
      obtain ⟨old, hold, rfl⟩ := List.mem_map.mp hother
      by_cases hother : old.noticeId = notice.id ∧ old.id ≠ version.id
      · rw [if_pos hother] at hotherFlag
        cases hotherFlag
      · rw [if_neg hother] at hotherOf ⊢
        by_contra hne
        exact hother ⟨hotherOf, hne⟩

theorem ResolvedVersion.mem {noticeId : ℕ}
    (h : ResolvedVersion python conn item noticeId state (some (found, created)) after) :
    found ∈ after.work.versions ∧ found.noticeId = noticeId ∧ after.work.notices = state.work.notices := by
  cases h with
  | found hmem _ hnotice _ _ => exact ⟨hmem, hnotice, rfl⟩
  | created _ _ _ _ => exact ⟨List.mem_append_right _ List.mem_cons_self, rfl, rfl⟩

theorem Resolved.mem (h : Resolved python conn item sourceSiteId state (some (notice, created)) after) :
    notice ∈ after.work.notices ∧ notice.sourceSiteId = sourceSiteId := by
  cases h with
  | found hmem _ hsource _ => exact ⟨hmem, hsource⟩
  | created _ _ _ => exact ⟨List.mem_append_right _ List.mem_cons_self, rfl⟩

theorem applyFields_shownColumns (hhash : item.resolvedDedupHash = some dedupHash)
    (h : notice.applyFields python item = .ok merged) :
    merged.shownColumns = (notice.id, notice.sourceSiteId, some dedupHash, notice.currentVersionId) := by
  obtain ⟨published, first, latest, rfl⟩ := applyFields_eq_ok h
  simp [TenderNotice.shownColumns, TenderNotice.applyTexts, hhash]

/-- A merged notice is a row of its source, and has the hash of the item. -/
theorem Merged.mem (hhash : item.resolvedDedupHash = some dedupHash)
    (h : Merged python conn item sourceSiteId state (some (merged, created)) after) :
    merged ∈ after.work.notices ∧ merged.sourceSiteId = sourceSiteId ∧ merged.dedupHash = some dedupHash := by
  cases h with
  | @merged notice _ _ resolved hresolved happlied =>
    obtain ⟨hmem, hsource⟩ := hresolved.mem
    have hcolumns := applyFields_shownColumns hhash happlied
    simp only [TenderNotice.shownColumns, Prod.mk.injEq] at hcolumns
    obtain ⟨hid, hmergedSource, hmergedHash, -⟩ := hcolumns
    exact ⟨mem_putRow hmem hid, hmergedSource.trans hsource, hmergedHash⟩

/-- Whatever the notice of the item showed before, it shows the version that is written. -/
theorem ensures_storeNoticeVersion (hhash : item.resolvedDedupHash = some dedupHash)
    (hcurrent : item.isCurrent.asBool python true) :
    Ensures (fun reached after ↦ reached = true → ∃ shownNotice shownVersion,
        CurrentVersion sourceSiteId dedupHash after.work shownNotice shownVersion ∧
          shownVersion.changeSummary = item.changeSummary.asStr)
      (storeNoticeVersion python conn item sourceSiteId) state := by
  refine ensures_mono ensures_versionWritten ?_
  intro reached after hwritten hreached
  obtain ⟨merged, created, found, versionCreated, ⟨middle, resolved, hmerged, hresolved, hstored⟩, -⟩ :=
    hwritten hreached
  obtain ⟨hmem, hsource, hmergedHash⟩ := hmerged.mem hhash
  obtain ⟨hfound, hof, hnotices⟩ := hresolved.mem
  rw [← hnotices] at hmem
  obtain ⟨shownNotice, shownVersion, hshown, hsummary, -⟩ :=
    hstored.currentVersion hmem hsource hmergedHash hfound hof hcurrent
  exact ⟨shownNotice, shownVersion, hshown, hsummary⟩

/-! ## Writing the notice -/

/-- One notice of the source is written, and it has the hash; a row that it replaces named the same
version, and the other rows are kept. -/
structure NoticeWritten (sourceSiteId : ℕ) (dedupHash : String) (before after : List TenderNotice)
    (written : TenderNotice) : Prop where
  mem : written ∈ after
  sourceSiteId : written.sourceSiteId = sourceSiteId
  dedupHash : written.dedupHash = some dedupHash
  replaced : ∀ row ∈ before, row.id = written.id → row.currentVersionId = written.currentVersionId
  kept : ∀ row ∈ before, row.id ≠ written.id → row ∈ after

theorem mem_putRow_of_ne {Row : Type} {id : Row → ℕ} {rows : List Row} {row other : Row} (hother : other ∈ rows)
    (hne : id other ≠ id row) : other ∈ putRow id row rows := by
  apply List.mem_map.mpr
  exact ⟨other, hother, if_neg hne⟩

theorem eq_or_mem_of_mem_putRow {Row : Type} {id : Row → ℕ} {rows : List Row} {row other : Row}
    (h : other ∈ putRow id row rows) : other = row ∨ other ∈ rows := by
  obtain ⟨old, hold, rfl⟩ := List.mem_map.mp h
  split
  · exact Or.inl rfl
  · exact Or.inr hold

/-- A merge by the hash writes the notice of that hash, and no version. -/
theorem Merged.noticeWritten (hhash : item.resolvedDedupHash = some dedupHash)
    (h : Merged python conn item sourceSiteId state (some (merged, created)) after) :
    NoticeWritten sourceSiteId dedupHash state.work.notices after.work.notices merged ∧
      after.work.versions = state.work.versions := by
  obtain ⟨hmem, hsource, hmergedHash⟩ := h.mem hhash
  cases h with
  | @merged notice _ _ resolved hresolved happlied =>
    have hcolumns := applyFields_shownColumns hhash happlied
    simp only [TenderNotice.shownColumns, Prod.mk.injEq] at hcolumns
    obtain ⟨hid, -, -, hnamed⟩ := hcolumns
    cases hresolved with
    | found hfound haccepts _ _ =>
      refine ⟨⟨hmem, hsource, hmergedHash, ?_, fun row hrow hne ↦ mem_putRow_of_ne hrow hne⟩, rfl⟩
      intro row hrow hrowId
      have hids := (uniqueNotices_iff.mp (accepts_iff.mp haccepts).2.2.1).1
      rw [eq_of_id_eq hids hfound hrow (hrowId.trans hid), hnamed]
    | created _ _ _ =>
      refine ⟨⟨hmem, hsource, hmergedHash, ?_, ?_⟩, rfl⟩
      · intro row hrow hrowId
        exact absurd (hrowId.trans hid) (conn.nextId_ne hrow)
      · exact fun row hrow hne ↦ mem_putRow_of_ne (List.mem_append_left _ hrow) hne

/-- A notice item is suppressed, or one notice is written; no version changes. -/
theorem ensures_storeNotice (hhash : item.resolvedDedupHash = some dedupHash) :
    Ensures (fun _ after ↦ after.work.versions = state.work.versions ∧
        (after.work.notices = state.work.notices ∨
          ∃ written, NoticeWritten sourceSiteId dedupHash state.work.notices after.work.notices written))
      (storeNotice python conn item sourceSiteId) state := by
  apply ensures_bind
  refine ensures_of_reads (fun _ ↦ keeps_suppressed) ?_
  intro suppressed
  cases suppressed with
  | true =>
    apply ensures_bind
    apply ensures_recordStats
    intro jobs
    exact ensures_pure ⟨rfl, Or.inl rfl⟩
  | false =>
    apply ensures_bind
    refine ensures_mono ensures_mergedNotice ?_
    intro merging afterMerge hmerged
    cases merging with
    | none =>
      cases hmerged with
      | missing _ => exact ensures_pure ⟨rfl, Or.inl rfl⟩
    | some pair =>
      obtain ⟨hwritten, hversions⟩ := hmerged.noticeWritten hhash
      apply ensures_bind
      apply ensures_recordStats
      intro jobs
      exact ensures_pure ⟨hversions, Or.inr ⟨pair.1, hwritten⟩⟩

/-- A notice that is written with the hash of a notice that shows a version is that notice. -/
theorem CurrentVersion.noticeWritten {db written : Db} {row : TenderNotice}
    (h : CurrentVersion sourceSiteId dedupHash db notice version) (hversions : written.versions = db.versions)
    (hunique : uniqueNotices written.notices)
    (hwritten : NoticeWritten sourceSiteId dedupHash db.notices written.notices row) :
    CurrentVersion sourceSiteId dedupHash written row version := by
  have hid : notice.id = row.id := by
    by_contra hne
    have hkept := hwritten.kept notice h.noticeMem hne
    apply hne
    rw [eq_of_dedupHash hunique hkept hwritten.mem (h.sourceSiteId.trans hwritten.sourceSiteId.symm) h.dedupHash
      hwritten.dedupHash]
  have hnamed := hwritten.replaced notice h.noticeMem hid
  refine ⟨hwritten.mem, hwritten.sourceSiteId, hwritten.dedupHash, ?_, ?_, ?_, h.current, ?_⟩
  · rw [hversions]
    exact h.versionMem
  · rw [h.noticeId, hid]
  · rw [← hnamed, h.named]
  · rw [hversions, ← hid]
    exact h.alone

end Writes

/-! ## The items of a record -/

section Items

variable {python : Python} {original item : Item} {sourceCode dedupHash : String}

/-- An item of the source that names a notice by its hash and can be stored. -/
structure Item.Names (sourceCode dedupHash : String) (item : Item) : Prop where
  sourceCode : item.writtenSourceCode = sourceCode
  dedupHash : item.resolvedDedupHash = some dedupHash
  title : item.title.asStr.isSome
  contentHash : (item.contentHash.or item.rawContentHash).asStr.isSome

theorem Value.or_self (value : Value) : value.or value = value := by
  cases value with
  | none => rfl
  | some object => exact ite_self _

theorem normalizeNoticeItem_eq_ok (h : normalizeNoticeItem python original = .ok item) :
    ∃ identity dedupKey sourceDuplicateKey, item =
      { original.identified python identity dedupKey with
        sourceDuplicateKey := Value.ofText (some sourceDuplicateKey) } := by
  obtain ⟨identity, -, h⟩ := bind_eq_ok.mp h
  obtain ⟨dedupKey, -, h⟩ := bind_eq_ok.mp h
  obtain ⟨sourceDuplicateKey, -, h⟩ := bind_eq_ok.mp h
  exact ⟨identity, dedupKey, sourceDuplicateKey, (Except.ok.inj h).symm⟩

/-- The normalisation keeps the hash that an item comes with. -/
theorem normalizeNoticeItem_resolvedDedupHash (h : normalizeNoticeItem python original = .ok item)
    (hhash : original.resolvedDedupHash = some dedupHash) : item.resolvedDedupHash = some dedupHash := by
  obtain ⟨identity, dedupKey, sourceDuplicateKey, rfl⟩ := normalizeNoticeItem_eq_ok h
  have hidentified :
      ((original.dedupHash.or original.noticeDedupHash).asStr <|> identity.dedupHash) = some dedupHash := by
    rw [show (original.dedupHash.or original.noticeDedupHash).asStr = some dedupHash from hhash]
    rfl
  change ((Value.ofText ((original.dedupHash.or original.noticeDedupHash).asStr <|> identity.dedupHash)).or
    (Value.ofText ((original.dedupHash.or original.noticeDedupHash).asStr <|> identity.dedupHash))).asStr = _
  rw [Value.or_self, hidentified, ← hhash]
  exact Value.asStr_ofText_asStr _

theorem normalizeNoticeItem_contentHash (h : normalizeNoticeItem python original = .ok item)
    (hcontent : (original.contentHash.or original.rawContentHash).asStr.isSome) : item.contentHash.asStr.isSome := by
  obtain ⟨identity, dedupKey, sourceDuplicateKey, rfl⟩ := normalizeNoticeItem_eq_ok h
  obtain ⟨contentHash, hcontent⟩ := Option.isSome_iff_exists.mp hcontent
  have hensured : ensureContentHash python (original.contentHash.or original.rawContentHash) original.contentText =
      (original.contentHash.or original.rawContentHash).asStr := by
    unfold ensureContentHash
    rw [hcontent]
    rfl
  change (Value.ofText (ensureContentHash python _ _)).asStr.isSome
  rw [hensured, Value.asStr_ofText_asStr, hcontent]
  rfl

end Items

/-! ## Calls -/

/-- The call returns. -/
def Written (python : Python) (context : Context) (conn : Connection) (call : WriterCall) : Prop :=
  Ends (fun outcome _ ↦ outcome = .ok ()) (call.program python conn) context.opened

/-- What a call did that returned from its commit: the source it found, and the run that stored its
item. -/
structure CommittedCall (python : Python) (context : Context) (conn : Connection) (call : WriterCall) (item : Item)
    (id : ℕ) (found last : CallState) : Prop where
  normalized : call.normalized python = .ok item
  sourceFound : SourceFound python conn item context.opened id found
  run : (call.store python conn item id).run.run found = (.ok true, last)
  sourcesKept : last.work.sources = found.work.sources
  accepted : conn.accepts last.work
  step : context.step python (conn, call) = ⟨found.sourceCache, Db.stored conn context.db last.work⟩

section Calls

variable {python : Python} {conn : Connection} {context : Context} {call : WriterCall} {original item : Item} {id : ℕ}
  {found last : CallState} {sourceCode dedupHash : String} {changeSummary : Option String}

theorem ensures_itemSourceSiteId {state : CallState} :
    Ensures (SourceFound python conn item state) (itemSourceSiteId python conn item) state := by
  apply ends_mono ends_itemSourceSiteId
  rintro outcome after hafter id rfl
  exact hafter

/-- A call changes no committed row, or it returns from its commit. It returns without one only where
its item is not complete. -/
theorem ends_program (python : Python) (context : Context) (conn : Connection) (call : WriterCall) :
    Ends (fun outcome after ↦
        (after.committed = context.db ∧
          (outcome = .ok () → ∃ item, call.normalized python = .ok item ∧ ¬ call.complete item)) ∨
        ∃ item found last, call.normalized python = .ok item ∧
          SourceFound python conn item context.opened (context.sourceIdOf conn item) found ∧
          (call.store python conn item (context.sourceIdOf conn item)).run.run found = (.ok true, last) ∧
          last.work.sources = found.work.sources ∧ conn.accepts last.work ∧
          after.closed = ⟨found.sourceCache, Db.stored conn context.db last.work⟩ ∧ outcome = .ok ())
      (call.program python conn) context.opened := by
  rw [call.program_eq, ends_bind, ends_raisePython]
  cases hitem : call.normalized python with
  | error error => exact Or.inl ⟨rfl, fun h ↦ (nomatch h)⟩
  | ok item =>
    dsimp only
    unfold inSession
    rw [ends_bind]
    apply ends_mono (ends_and ends_itemSourceSiteId ensures_sourceIdOf)
    rintro outcome found ⟨hfound, hid⟩
    cases outcome with
    | error error => exact Or.inl ⟨hfound.2, fun h ↦ (nomatch h)⟩
    | ok id =>
      obtain rfl := hid id rfl
      have hstart : Confined found.sourceCache context.db found.work.sources (context.sourceIdOf conn item) found :=
        ⟨rfl, hfound.committed_eq, rfl, hfound.writesFor⟩
      dsimp only
      rw [ends_bind]
      apply ends_mono (ends_and (yields_confined_store call found hstart) ensures_run)
      rintro stored last ⟨⟨hconfined, hcomplete⟩, hrun⟩
      cases stored with
      | error error => exact Or.inl ⟨hconfined.nothingCommitted, fun h ↦ (nomatch h)⟩
      | ok reached =>
        cases reached with
        | false =>
          refine Or.inl ⟨hconfined.nothingCommitted, fun _ ↦ ⟨item, rfl, ?_⟩⟩
          exact fun h ↦ absurd (hcomplete false rfl h) Bool.false_ne_true
        | true =>
          change Ends _ (commit conn) last
          rw [ends_commit]
          cases hrefusal : conn.refusal .commit last.work with
          | some error => exact Or.inl ⟨hconfined.nothingCommitted, fun h ↦ (nomatch h)⟩
          | none =>
            refine Or.inr ⟨item, found, last, rfl, hfound, hrun true rfl, hconfined.sourcesKept,
              (refusal_eq_none.mp hrefusal).2, ?_, rfl⟩
            unfold CallState.closed
            dsimp only
            rw [hconfined.cacheKept, hconfined.nothingCommitted]

/-- A call leaves the committed rows as they are, or it has committed. -/
theorem step_cases (python : Python) (context : Context) (conn : Connection) (call : WriterCall) :
    (context.step python (conn, call)).db = context.db ∨
      ∃ item found last,
        CommittedCall python context conn call item (context.sourceIdOf conn item) found last := by
  rcases ends_program python context conn call with hkept | hcommitted
  · exact Or.inl hkept.1
  · obtain ⟨item, found, last, hitem, hfound, hrun, hsources, haccepts, hclosed, -⟩ := hcommitted
    exact Or.inr ⟨item, found, last, hitem, hfound, hrun, hsources, haccepts, hclosed⟩

/-- A call with a complete item that returned has committed. -/
theorem committedCall_of_written (hcomplete : ∀ item, call.normalized python = .ok item → call.complete item)
    (h : Written python context conn call) :
    ∃ item id found last, CommittedCall python context conn call item id found last := by
  rcases ends_program python context conn call with hkept | hcommitted
  · obtain ⟨item, hitem, hnot⟩ := hkept.2 h
    exact absurd (hcomplete item hitem) hnot
  · obtain ⟨item, found, last, hitem, hfound, hrun, hsources, haccepts, hclosed, -⟩ := hcommitted
    exact ⟨item, context.sourceIdOf conn item, found, last, hitem, hfound, hrun, hsources, haccepts, hclosed⟩

theorem CommittedCall.cacheSound (h : CommittedCall python context conn call item id found last)
    (hsound : context.CacheSound) : (context.step python (conn, call)).CacheSound := by
  rw [h.step]
  apply h.sourceFound.cacheSound hsound
  intro source hsource
  rw [← h.sourcesKept] at hsource
  exact hsource

/-- A version that is written is the one that its notice shows. -/
theorem CommittedCall.shows_noticeVersion
    (h : CommittedCall python context conn (.noticeVersion original) item id found last)
    (hsound : context.CacheSound) (hnames : original.Names sourceCode dedupHash)
    (hcurrent : original.isCurrent.asBool python true) :
    (context.step python (conn, .noticeVersion original)).db.Shows sourceCode dedupHash original.changeSummary.asStr := by
  have hhash := normalizeNoticeItem_resolvedDedupHash h.normalized hnames.dedupHash
  have hcode := normalized_writtenSourceCode h.normalized
  obtain ⟨identity, dedupKey, sourceDuplicateKey, rfl⟩ := normalizeNoticeItem_eq_ok h.normalized
  obtain ⟨site, hsite, hid, hsiteCode⟩ := h.sourceFound.site hsound
  have hstored := (ensures_storeNoticeVersion hhash hcurrent).of_run h.run rfl
  obtain ⟨notice, version, hversion, hsummary⟩ := hstored
  obtain ⟨keptNotice, keptVersion, hkept, hcolumns⟩ := hversion.stored conn context.db
  rw [h.step]
  refine ⟨unique_stored (unique_of_accepts h.accepted), site, ?_, ?_, keptNotice, keptVersion, ?_, ?_⟩
  · rw [← h.sourcesKept] at hsite
    exact hsite
  · rw [hsiteCode, hcode]
    exact hnames.sourceCode
  · rw [hid]
    exact hkept
  · rw [changeSummary_of_shownColumns hcolumns, hsummary]
    rfl

/-- Writing a notice does not change what it shows. -/
theorem CommittedCall.shows_notice (h : CommittedCall python context conn (.notice original) item id found last)
    (hsound : context.CacheSound) (hnames : original.Names sourceCode dedupHash)
    (hshows : context.db.Shows sourceCode dedupHash changeSummary) :
    (context.step python (conn, .notice original)).db.Shows sourceCode dedupHash changeSummary := by
  have hhash := normalizeNoticeItem_resolvedDedupHash h.normalized hnames.dedupHash
  obtain ⟨-, source, hsource, hsourceCode, notice, version, hversion, rfl⟩ := hshows
  have hunique := unique_of_accepts h.accepted
  obtain ⟨hsources, -, hnotices, -, -, -⟩ := unique_iff.mp hunique
  have hmem : source ∈ last.work.sources := by
    rw [h.sourcesKept]
    exact h.sourceFound.mem_sources hsource
  have hid : source.id = id := by
    obtain ⟨site, hsite, hid, hsiteCode⟩ := h.sourceFound.site hsound
    rw [← h.sourcesKept] at hsite
    have hsiteSource : site.code = source.code := by
      rw [hsiteCode, normalized_writtenSourceCode h.normalized, hsourceCode]
      exact hnames.sourceCode
    rw [← hid, eq_of_sourceCode hsources hsite hmem hsiteSource]
  have hkept : ∃ keptNotice, CurrentVersion source.id dedupHash last.work keptNotice version := by
    obtain ⟨hversions, hnoticesKept⟩ := (ensures_storeNotice hhash).of_run h.run
    rw [h.sourceFound.versions_eq] at hversions
    rw [h.sourceFound.notices_eq, hid.symm] at hnoticesKept
    rcases hnoticesKept with hsame | ⟨written, hwritten⟩
    · refine ⟨notice, ?_, hversion.sourceSiteId, hversion.dedupHash, ?_, hversion.noticeId, hversion.named,
        hversion.current, ?_⟩
      · rw [hsame]
        exact hversion.noticeMem
      · rw [hversions]
        exact hversion.versionMem
      · rw [hversions]
        exact hversion.alone
    · exact ⟨written, hversion.noticeWritten hversions hnotices hwritten⟩
  obtain ⟨keptNotice, hkept⟩ := hkept
  obtain ⟨storedNotice, storedVersion, hstored, hcolumns⟩ := hkept.stored conn context.db
  rw [h.step]
  exact ⟨unique_stored hunique, source, hmem, hsourceCode, storedNotice, storedVersion, hstored,
    changeSummary_of_shownColumns hcolumns⟩

end Calls

end TenderPhase1.Crawler
