import TenderPhase1.Crawler.AttachmentStore
import TenderPhase1.Crawler.CurrentRecords

/-!
# The version that an attachment is linked to

Once a version of a notice is written, the attachments that follow find the notice by
its hash, and link the version that it names, or the one with the number that they give.
They change none of that for each other.
-/

namespace TenderPhase1.Crawler

open Jobs Raising Transition

/-! ## Columns -/

structure VersionColumns where
  id : ℕ
  noticeId : ℕ
  versionNo : ℤ
  contentHash : String

def NoticeVersion.columns (version : NoticeVersion) : VersionColumns :=
  ⟨version.id, version.noticeId, version.versionNo, version.contentHash⟩

/-- The columns by which an attachment belongs to a version. -/
def TenderAttachment.link (attachment : TenderAttachment) : (ℕ × String) × ℕ × Option ℕ :=
  (attachment.key, attachment.noticeId, attachment.noticeVersionId)

/-- The version of the notice with the number, or the current one where there is none. -/
def linkedIn (number : Option ℤ) (noticeId current : ℕ) (versions : List VersionColumns) : ℕ :=
  match number with
  | none => current
  | some versionNo =>
      ((versions.find? fun version ↦ version.noticeId = noticeId ∧ version.versionNo = versionNo).map
        VersionColumns.id).getD current

section Linked

variable {python : Python} {conn : Connection} {item : Item} {notice : TenderNotice} {versions : List NoticeVersion}
  {current noticeId : ℕ} {number : Option ℤ} {columns : List VersionColumns} {contentHash : String}

/-- At most one version of a notice has the number, so the order of the rows does not matter. -/
theorem linkedVersionId_eq (h : uniqueVersions versions) (hcurrent : notice.currentVersionId = some current) :
    item.linkedVersionId python conn notice versions =
      some (linkedIn (item.noticeVersionNo.asInt python) notice.id current (versions.map NoticeVersion.columns)) := by
  unfold Item.linkedVersionId linkedIn
  cases item.noticeVersionNo.asInt python with
  | none => exact hcurrent
  | some versionNo =>
    dsimp only
    have hfind : (versions.map NoticeVersion.columns).find? (fun version ↦ version.noticeId = notice.id ∧
        version.versionNo = versionNo) = (versions.find? fun version ↦ version.noticeId = notice.id ∧
          version.versionNo = versionNo).map NoticeVersion.columns := by
      rw [List.find?_map]
      rfl
    rw [hfind, hcurrent]
    cases hfirst : conn.first (fun version ↦ version.noticeId = notice.id ∧ version.versionNo = versionNo) versions with
    | none =>
      have hnone : (versions.find? fun version ↦ version.noticeId = notice.id ∧ version.versionNo = versionNo) = none := by
        rw [List.find?_eq_none]
        intro version hversion
        rw [filter_eq_false_of_head?_answer hfirst version hversion]
        exact Bool.false_ne_true
      rw [hnone]
      rfl
    | some version =>
      obtain ⟨hmem, hkey⟩ := mem_of_head?_answer hfirst
      cases hother : versions.find? fun version ↦ version.noticeId = notice.id ∧ version.versionNo = versionNo with
      | none => exact absurd hkey (List.find?_eq_none.mp hother version hmem)
      | some other =>
        have hotherKey := List.find?_some hother
        obtain ⟨hof, hnumber⟩ := of_decide_eq_true hkey
        obtain ⟨hotherOf, hotherNumber⟩ := of_decide_eq_true hotherKey
        have hsame : version = other := by
          apply List.inj_on_of_nodup_map (uniqueVersions_iff.mp h).2.1 hmem (List.mem_of_find?_eq_some hother)
          exact Prod.ext (hof.trans hotherOf.symm) (hnumber.trans hotherNumber.symm)
        rw [hsame]
        rfl

/-- The version that is linked has the content of the current one, unless the version with the number has
another. -/
theorem linkedIn_content {currentNo : ℤ} (hcurrent : ⟨current, noticeId, currentNo, contentHash⟩ ∈ columns)
    (hnumbers : (columns.map fun version ↦ (version.noticeId, version.versionNo)).Nodup) :
    ∃ version ∈ columns, version.id = linkedIn number noticeId current columns ∧ version.noticeId = noticeId ∧
      (version.contentHash = contentHash ↔ ∀ versionNo, number = some versionNo → ∀ other ∈ columns,
        other.noticeId = noticeId → other.versionNo = versionNo → other.contentHash = contentHash) := by
  unfold linkedIn
  cases number with
  | none => exact ⟨_, hcurrent, rfl, rfl, ⟨fun _ _ h ↦ (nomatch h), fun _ ↦ rfl⟩⟩
  | some versionNo =>
    dsimp only
    cases hfind : columns.find? fun version ↦ version.noticeId = noticeId ∧ version.versionNo = versionNo with
    | none =>
      refine ⟨_, hcurrent, rfl, rfl, ⟨fun _ _ hnumber other hother hof hother' ↦ ?_, fun _ ↦ rfl⟩⟩
      obtain rfl := Option.some.inj hnumber
      exact absurd (decide_eq_true ⟨hof, hother'⟩) (List.find?_eq_none.mp hfind other hother)
    | some version =>
      have hmem := List.mem_of_find?_eq_some hfind
      have hkey := List.find?_some hfind
      obtain ⟨hof, hnumber⟩ := of_decide_eq_true hkey
      refine ⟨version, hmem, rfl, hof, ?_, fun h ↦ h versionNo rfl version hmem hof hnumber⟩
      intro hcontent otherNo hsame other hother hotherOf hotherNo
      obtain rfl := Option.some.inj hsame
      have heq : other = version := by
        apply List.inj_on_of_nodup_map hnumbers hother hmem
        exact Prod.ext (hotherOf.trans hof.symm) (hotherNo.trans hnumber.symm)
      rw [heq, hcontent]

end Linked

/-! ## A notice between two calls -/

/-- The call comes to its commit. -/
def Committed (python : Python) (context : Context) (event : Connection × WriterCall) : Prop :=
  ∃ item found last,
    CommittedCall python context event.1 event.2 item (context.sourceIdOf event.1 item) found last

/-- A call that changes what is shown of the database has committed. -/
theorem committed_of_ne {python : Python} {context : Context} {event : Connection × WriterCall} {Shown : Type}
    (shown : Db → Shown) (h : shown (context.step python event).db ≠ shown context.db) :
    Committed python context event := by
  rcases step_cases python context event.1 event.2 with hkept | hcommitted
  · exact absurd (congrArg shown hkept) h
  · exact hcommitted

/-- The context knows the source, and its database has a notice of the source with the hash and the current
version, and the versions with the columns. -/
structure NoticeHeld (sourceCode dedupHash : String) (sourceSiteId noticeId current : ℕ)
    (versions : List VersionColumns) (context : Context) : Prop where
  cached : context.sourceCache.lookup sourceCode = some sourceSiteId
  unique : context.db.unique
  notice : (noticeId, sourceSiteId, some dedupHash, some current) ∈
    context.db.notices.map TenderNotice.shownColumns
  columns : context.db.versions.map NoticeVersion.columns = versions

/-- A row links the file to the version of the notice. -/
def Db.LinksFile (key : ℕ × String) (noticeId linked : ℕ) (db : Db) : Prop :=
  (key, noticeId, some linked) ∈ db.attachments.map TenderAttachment.link

section Step

variable {python : Python} {conn : Connection} {item : Item} {call : WriterCall} {context : Context} {found last : CallState}
  {sourceCode dedupHash : String} {sourceSiteId noticeId current : ℕ} {versions : List VersionColumns}

/-- A source that is found is in the cache from then on. -/
theorem SourceFound.cached_eq {state after : CallState} {id : ℕ} (h : SourceFound python conn item state id after) :
    after.sourceCache.lookup item.writtenSourceCode = some id := by
  cases h with
  | cached hcached => exact hcached
  | stored _ _ _ => exact List.lookup_cons_self
  | inserted _ _ _ _ _ => exact List.lookup_cons_self

theorem SourceFound.attachments_eq {state after : CallState} {id : ℕ} (h : SourceFound python conn item state id after) :
    after.work.attachments = state.work.attachments := by
  cases h <;> rfl

theorem sourceIdOf_cached (h : context.sourceCache.lookup item.writtenSourceCode = some sourceSiteId) :
    context.sourceIdOf conn item = sourceSiteId := by
  unfold Context.sourceIdOf
  rw [h]

/-- The commit changes none of the columns. -/
theorem columns_stored (conn : Connection) (committed db : Db) :
    (Db.stored conn committed db).notices.map TenderNotice.shownColumns = db.notices.map TenderNotice.shownColumns ∧
      (Db.stored conn committed db).versions.map NoticeVersion.columns = db.versions.map NoticeVersion.columns ∧
        (Db.stored conn committed db).attachments.map TenderAttachment.link = db.attachments.map TenderAttachment.link := by
  refine ⟨?_, ?_, ?_⟩
  · apply map_storedRows
    exact fun _ ↦ rfl
  · apply map_storedRows
    exact fun _ ↦ rfl
  · apply map_storedRows
    exact fun _ ↦ rfl

/-- An item with the hash of a notice of its source is merged into that notice. -/
theorem Merged.held {state after : CallState} {merged : TenderNotice} {created : Bool}
    (h : Merged python conn item sourceSiteId state (some (merged, created)) after)
    (hhash : item.resolvedDedupHash = some dedupHash) (hunique : uniqueNotices after.work.notices)
    (hnotice : (noticeId, sourceSiteId, some dedupHash, some current) ∈
      state.work.notices.map TenderNotice.shownColumns) :
    merged ∈ after.work.notices ∧ merged.shownColumns = (noticeId, sourceSiteId, some dedupHash, some current) := by
  obtain ⟨row, hrow, hcolumns⟩ := List.mem_map.mp hnotice
  simp only [TenderNotice.shownColumns, Prod.mk.injEq] at hcolumns
  obtain ⟨hid, hsource, hrowHash, hcurrent⟩ := hcolumns
  have hwritten := (h.noticeWritten hhash).1
  have hsame : row.id = merged.id := by
    by_contra hne
    apply hne
    rw [eq_of_dedupHash hunique (hwritten.kept row hrow hne) hwritten.mem (hsource.trans hwritten.sourceSiteId.symm)
      hrowHash hwritten.dedupHash]
  refine ⟨hwritten.mem, ?_⟩
  simp only [TenderNotice.shownColumns, Prod.mk.injEq]
  refine ⟨hsame.symm.trans hid, hwritten.sourceSiteId, hwritten.dedupHash, ?_⟩
  rw [← hwritten.replaced row hrow hsame, hcurrent]

/-- An attachment that is merged into the notice keeps the columns, links its file and keeps the links
that are like its own. -/
structure AttachmentLinked (python : Python) (item : Item) (dedupHash : String) (sourceSiteId noticeId current : ℕ)
    (versions : List VersionColumns) (before after : Db) : Prop where
  notice : (noticeId, sourceSiteId, some dedupHash, some current) ∈ after.notices.map TenderNotice.shownColumns
  columns : after.versions.map NoticeVersion.columns = versions
  linked : ∀ urlHash fileUrl fileName, item.file python = .ok (some (urlHash, fileUrl, fileName)) →
    after.LinksFile (sourceSiteId, urlHash) noticeId
      (linkedIn (item.noticeVersionNo.asInt python) noticeId current versions)
  kept : ∀ key, before.LinksFile key noticeId (linkedIn (item.noticeVersionNo.asInt python) noticeId current versions) →
    after.LinksFile key noticeId (linkedIn (item.noticeVersionNo.asInt python) noticeId current versions)

/-- The stored attachment is linked to the version that the item asks for. -/
theorem AttachmentStored.linked {state after : CallState} {merged : TenderNotice} {created : Bool}
    (h : AttachmentStored python conn item sourceSiteId state after merged created)
    (hhash : item.resolvedDedupHash = some dedupHash) (hunique : after.work.unique)
    (hnotice : (noticeId, sourceSiteId, some dedupHash, some current) ∈
      state.work.notices.map TenderNotice.shownColumns)
    (hversions : state.work.versions.map NoticeVersion.columns = versions) :
    AttachmentLinked python item dedupHash sourceSiteId noticeId current versions state.work after.work := by
  obtain ⟨middle, hmerged, hrecords⟩ := h.merging
  obtain ⟨hnotices, hkeptVersions⟩ := Prod.mk.inj hrecords
  obtain ⟨-, -, hnoticesUnique, hversionsUnique, -, -⟩ := unique_iff.mp hunique
  rw [hnotices] at hnoticesUnique
  obtain ⟨hmem, hcolumns⟩ := hmerged.held hhash hnoticesUnique hnotice
  have hafter : after.work.versions.map NoticeVersion.columns = versions := by
    rw [hkeptVersions, hmerged.marks_eq.2.1, hversions]
  have hparts := hcolumns
  simp only [TenderNotice.shownColumns, Prod.mk.injEq] at hparts
  obtain ⟨hid, -, -, hcurrent⟩ := hparts
  have hlink : item.linkedVersionId python conn merged after.work.versions =
      some (linkedIn (item.noticeVersionNo.asInt python) noticeId current versions) := by
    rw [linkedVersionId_eq hversionsUnique hcurrent, hafter, hid]
  have hfile (urlHash fileUrl fileName : String)
      (hfile : item.file python = .ok (some (urlHash, fileUrl, fileName))) := h.file urlHash fileUrl fileName hfile
  rw [hlink, hid] at hfile
  refine ⟨?_, hafter, ?_, ?_⟩
  · rw [hnotices, ← hcolumns]
    exact List.mem_map_of_mem hmem
  · intro urlHash fileUrl fileName hname
    obtain ⟨row, hrow, hkey, hof, hversion⟩ := (hfile urlHash fileUrl fileName hname).written
    refine List.mem_map.mpr ⟨row, hrow, ?_⟩
    rw [TenderAttachment.link, hkey, hof, hversion]
  · unfold Db.LinksFile
    intro key hkey
    obtain ⟨row, hrow, hrowLink⟩ := List.mem_map.mp hkey
    obtain ⟨file, hname⟩ := h.fileRead
    cases file with
    | none =>
      rw [h.noFile hname]
      exact hkey
    | some file =>
      obtain ⟨urlHash, fileUrl, fileName⟩ := file
      have hwritten := hfile urlHash fileUrl fileName hname
      by_cases hsame : row.key = (sourceSiteId, urlHash)
      · obtain ⟨put, hput, hputKey, hof, hversion⟩ := hwritten.written
        have hkeySame : key = (sourceSiteId, urlHash) := (Prod.mk.inj hrowLink).1.symm.trans hsame
        refine List.mem_map.mpr ⟨put, hput, ?_⟩
        rw [TenderAttachment.link, hputKey, hof, hversion, hkeySame]
      · rw [← hrowLink]
        exact List.mem_map_of_mem (hwritten.kept row hrow hsame)

/-- A call for an attachment of the notice keeps the notice and links its file. -/
theorem NoticeHeld.attachment {original : Item}
    (h : NoticeHeld sourceCode dedupHash sourceSiteId noticeId current versions context)
    (hsource : item.writtenSourceCode = sourceCode) (hhash : item.resolvedDedupHash = some dedupHash)
    (hcommitted : CommittedCall python context conn (.attachment original) item (context.sourceIdOf conn item) found last) :
    NoticeHeld sourceCode dedupHash sourceSiteId noticeId current versions
        (context.step python (conn, .attachment original)) ∧
      AttachmentLinked python item dedupHash sourceSiteId noticeId current versions context.db
        (context.step python (conn, .attachment original)).db := by
  subst hsource
  have hid : context.sourceIdOf conn item = sourceSiteId := sourceIdOf_cached h.cached
  rw [hid] at hcommitted
  have hfound := hcommitted.sourceFound
  have hnotices : found.work.notices = context.db.notices := hfound.notices_eq
  have hversions : found.work.versions = context.db.versions := hfound.versions_eq
  obtain ⟨merged, created, hstored⟩ := ensures_attachmentStored.of_run hcommitted.run rfl
  have hunique := unique_of_accepts hcommitted.accepted
  have hnotice := h.notice
  have hcolumns := h.columns
  rw [← hnotices] at hnotice
  rw [← hversions] at hcolumns
  obtain ⟨hnotice, hcolumns, hlinks, hkept⟩ := hstored.linked hhash hunique hnotice hcolumns
  obtain ⟨hstoredNotices, hstoredVersions, hstoredAttachments⟩ := columns_stored conn context.db last.work
  have hattachments : found.work.attachments = context.db.attachments := hfound.attachments_eq
  unfold Db.LinksFile at hlinks hkept
  rw [← hstoredNotices] at hnotice
  rw [← hstoredVersions] at hcolumns
  rw [hattachments, ← hstoredAttachments] at hkept
  rw [← hstoredAttachments] at hlinks
  rw [hcommitted.step]
  exact ⟨⟨hfound.cached_eq, unique_stored hunique, hnotice, hcolumns⟩, ⟨hnotice, hcolumns, hlinks, hkept⟩⟩

/-! ## The call for a version -/

/-- No version numbered 1 of the notice that the item finds has another content. -/
def Item.FirstVersionMatches (python : Python) (conn : Connection) (item : Item) (sourceSiteId : ℕ)
    (contentHash : String) (db : Db) : Prop :=
  ∀ notice, item.noticeIn python conn sourceSiteId db.notices = .ok (some notice) →
    ∀ version ∈ db.versions, version.noticeId = notice.id → version.versionNo = 1 → version.contentHash = contentHash

/-- Storing a version changes none of its columns: it has the content of the item already. -/
theorem VersionStored.columns_eq {notice : TenderNotice} {version : NoticeVersion} {created : Bool}
    {state resolved after : CallState}
    (hresolved : ResolvedVersion python conn item notice.id state (some (version, created)) resolved)
    (hstored : VersionStored python conn item notice version resolved after) :
    after.work.versions.map NoticeVersion.columns = resolved.work.versions.map NoticeVersion.columns := by
  obtain ⟨hmem, hof, -⟩ := hresolved.mem
  have hcontent := hresolved.contentHash
  cases hstored with
  | @stored written put rawDocumentId widened jobs hversion hput haccepts hwidened =>
    have hids : (resolved.work.versions.map NoticeVersion.id).Nodup := by
      have hputIds := (uniqueVersions_iff.mp (accepts_iff.mp haccepts).2.2.2.1).1
      rw [hput, map_id_putRow] at hputIds
      exact hputIds
    have hid : written.id = version.id := by rw [hversion]; rfl
    have hcolumns : written.columns = version.columns := by
      rw [hversion]
      exact congrArg (VersionColumns.mk version.id version.noticeId version.versionNo) hcontent
    calc ((written.promotedIn notice put).versions).map NoticeVersion.columns
        = put.versions.map NoticeVersion.columns := by
          rw [promotedIn_versions, List.map_map]
          rfl
      _ = resolved.work.versions.map NoticeVersion.columns := by
          rw [hput, map_putRow hids hmem hid hcolumns]

/-- No notice loses its row. -/
theorem Merged.ids_kept {found : Option (TenderNotice × Bool)} {state after : CallState}
    (h : Merged python conn item sourceSiteId state found after) :
    ∀ id ∈ state.work.notices.map TenderNotice.id, id ∈ after.work.notices.map TenderNotice.id := by
  intro id hid
  cases h with
  | missing _ => exact hid
  | merged hresolved happlied =>
    rw [map_id_putRow]
    cases hresolved with
    | found _ _ _ _ => exact hid
    | created _ _ _ =>
      rw [List.map_append]
      exact List.mem_append_left _ hid

theorem versionsOwned_iff {db : Db} :
    db.VersionsOwned ↔ ∀ version ∈ db.versions, version.noticeId ∈ db.notices.map TenderNotice.id := by
  simp [Db.VersionsOwned]

/-- Every version has its notice after a call as before. -/
theorem RecordsMerged.versionsOwned {state after : CallState}
    (h : RecordsMerged python conn item sourceSiteId state after) (howned : state.work.VersionsOwned) :
    after.work.VersionsOwned := by
  rw [versionsOwned_iff] at howned ⊢
  cases h with
  | kept hrecords =>
    obtain ⟨hnotices, hversions⟩ := Prod.mk.inj hrecords
    rw [hnotices, hversions]
    exact howned
  | merged hmerged hrecords =>
    obtain ⟨hnotices, hversions⟩ := Prod.mk.inj hrecords
    rw [hnotices, hversions, hmerged.marks_eq.2.1]
    exact fun version hversion ↦ hmerged.ids_kept _ (howned version hversion)

theorem versionsOwned_stored {committed db : Db} (h : db.VersionsOwned) (conn : Connection) :
    (Db.stored conn committed db).VersionsOwned := by
  have hids : (Db.stored conn committed db).notices.map TenderNotice.id = db.notices.map TenderNotice.id := by
    apply map_storedRows
    exact fun _ ↦ rfl
  have howners : (Db.stored conn committed db).versions.map NoticeVersion.noticeId =
      db.versions.map NoticeVersion.noticeId := by
    apply map_storedRows
    exact fun _ ↦ rfl
  rw [versionsOwned_iff] at h ⊢
  rw [hids]
  rw [← List.forall_mem_map (P := (· ∈ db.notices.map TenderNotice.id))] at h ⊢
  rw [howners]
  exact h

/-- Storing a version changes the id of no notice. -/
theorem VersionStored.noticeIds_eq {notice : TenderNotice} {version : NoticeVersion} {resolved after : CallState}
    (hstored : VersionStored python conn item notice version resolved after) :
    after.work.notices.map TenderNotice.id = resolved.work.notices.map TenderNotice.id := by
  cases hstored with
  | @stored written put _ _ _ _ hput _ _ =>
    have hputNotices : put.notices = resolved.work.notices := by rw [hput]
    rw [map_id_putRow, ← hputNotices]
    unfold NoticeVersion.promotedIn NoticeVersion.promote
    split
    · exact map_id_putRow
    · rfl

/-- Storing a version moves no version. -/
theorem VersionStored.versionsOwned {notice : TenderNotice} {version : NoticeVersion} {created : Bool}
    {state resolved after : CallState}
    (hresolved : ResolvedVersion python conn item notice.id state (some (version, created)) resolved)
    (hstored : VersionStored python conn item notice version resolved after) (hnotice : notice ∈ state.work.notices)
    (howned : state.work.VersionsOwned) : after.work.VersionsOwned := by
  have hcolumns := VersionStored.columns_eq hresolved hstored
  have howners : after.work.versions.map NoticeVersion.noticeId = resolved.work.versions.map NoticeVersion.noticeId := by
    simpa [NoticeVersion.columns, Function.comp_def] using congrArg (List.map VersionColumns.noticeId) hcolumns
  have hids : after.work.notices.map TenderNotice.id = state.work.notices.map TenderNotice.id := by
    rw [hstored.noticeIds_eq, hresolved.mem.2.2]
  rw [versionsOwned_iff] at howned ⊢
  rw [← List.forall_mem_map (P := (· ∈ after.work.notices.map TenderNotice.id)), howners, hids, List.forall_mem_map]
  cases hresolved with
  | found _ _ _ _ _ => exact howned
  | created _ _ _ _ =>
    rw [List.forall_mem_append]
    refine ⟨howned, ?_⟩
    rw [List.forall_mem_singleton]
    exact List.mem_map_of_mem hnotice

/-- Every version has its notice after every call. -/
theorem versionsOwned_step (howned : context.db.VersionsOwned) :
    (context.step python (conn, call)).db.VersionsOwned := by
  rcases step_cases python context conn call with hkept | ⟨item, found, last, hcommitted⟩
  · rw [hkept]
    exact howned
  · rw [hcommitted.step]
    apply versionsOwned_stored
    have hfound : found.work.VersionsOwned := by
      unfold Db.VersionsOwned
      rw [hcommitted.sourceFound.notices_eq, hcommitted.sourceFound.versions_eq]
      exact howned
    by_cases hversion : ∃ original, call = .noticeVersion original
    · obtain ⟨original, rfl⟩ := hversion
      obtain ⟨merged, created, version, versionCreated, hwritten⟩ := ensures_versionWritten.of_run hcommitted.run rfl
      obtain ⟨middle, resolved, hmerged, hresolved, hstored⟩ := hwritten.steps
      have hmiddle := (RecordsMerged.merged hmerged rfl).versionsOwned hfound
      exact VersionStored.versionsOwned hresolved hstored hmerged.marks_eq.2.2 hmiddle
    · exact ((ensures_recordsMerged (not_exists.mp hversion)).of_run hcommitted.run).versionsOwned hfound

/-- A notice that is created has an id that no notice had. -/
theorem Merged.created_id {merged : TenderNotice} {state after : CallState}
    (h : Merged python conn item sourceSiteId state (some (merged, true)) after) :
    ∀ notice ∈ state.work.notices, notice.id ≠ merged.id := by
  intro notice hnotice
  cases h with
  | merged hresolved happlied =>
    rw [(applyFields_pointer happlied).1]
    cases hresolved with
    | created _ _ _ => exact conn.nextId_ne hnotice

/-- The version that is resolved is one of those before, or a new one with the content of the item. -/
theorem ResolvedVersion.numbered_iff {contentHash : String} {version : NoticeVersion} {created : Bool}
    {state resolved : CallState} (hcontent : item.contentHash.asStr = some contentHash)
    (h : ResolvedVersion python conn item noticeId state (some (version, created)) resolved) :
    (∀ columns ∈ resolved.work.versions.map NoticeVersion.columns,
        columns.noticeId = noticeId → columns.versionNo = 1 → columns.contentHash = contentHash) ↔
      ∀ other ∈ state.work.versions, other.noticeId = noticeId → other.versionNo = 1 →
        other.contentHash = contentHash := by
  rw [List.forall_mem_map]
  cases h with
  | found _ _ _ _ _ => rfl
  | created _ hnewContent _ _ =>
    obtain rfl := Option.some.inj (hnewContent.symm.trans hcontent)
    rw [List.forall_mem_append]
    constructor
    · exact fun hall ↦ hall.1
    · refine fun hall ↦ ⟨hall, ?_⟩
      rw [List.forall_mem_singleton]
      exact fun _ _ ↦ rfl

/-- A call for a version leaves its notice with the version as the current one. -/
theorem noticeHeld_of_version {original : Item} {contentHash : String} (howned : context.db.VersionsOwned)
    (hhash : item.resolvedDedupHash = some dedupHash) (hcontent : item.contentHash.asStr = some contentHash)
    (hcurrent : item.isCurrent.asBool python true)
    (hcommitted : CommittedCall python context conn (.noticeVersion original) item sourceSiteId found last) :
    ∃ noticeId current versionNo versions, NoticeHeld item.writtenSourceCode dedupHash sourceSiteId noticeId current
        versions (context.step python (conn, .noticeVersion original)) ∧
      ⟨current, noticeId, versionNo, contentHash⟩ ∈ versions ∧
      ((∀ version ∈ versions, version.noticeId = noticeId → version.versionNo = 1 → version.contentHash = contentHash) ↔
        item.FirstVersionMatches python conn sourceSiteId contentHash context.db) := by
  have hfound := hcommitted.sourceFound
  have hnotices : found.work.notices = context.db.notices := hfound.notices_eq
  have hversions : found.work.versions = context.db.versions := hfound.versions_eq
  obtain ⟨merged, created, version, versionCreated, hwritten⟩ := ensures_versionWritten.of_run hcommitted.run rfl
  obtain ⟨⟨middle, resolved, hmerged, hresolved, hstored⟩, hmergedIn⟩ := hwritten
  have hunique := unique_of_accepts hcommitted.accepted
  obtain ⟨hmem, hsource, hmergedHash⟩ := hmerged.mem hhash
  obtain ⟨hversionMem, hof, hresolvedNotices⟩ := hresolved.mem
  rw [← hresolvedNotices] at hmem
  obtain ⟨shownNotice, shownVersion, hshown, -, hshownId, hshownVersion⟩ :=
    hstored.currentVersion hmem hsource hmergedHash hversionMem hof hcurrent
  obtain ⟨hstoredNotices, hstoredVersions, -⟩ := columns_stored conn context.db last.work
  have hcolumns := VersionStored.columns_eq hresolved hstored
  refine ⟨merged.id, version.id, version.versionNo, last.work.versions.map NoticeVersion.columns, ?_, ?_, ?_⟩
  · rw [hcommitted.step]
    refine ⟨hfound.cached_eq, unique_stored hunique, ?_, hstoredVersions⟩
    rw [hstoredNotices]
    refine List.mem_map.mpr ⟨shownNotice, hshown.noticeMem, ?_⟩
    rw [TenderNotice.shownColumns, hshownId, hshown.sourceSiteId, hshown.dedupHash, hshown.named, hshownVersion]
  · have hcontentHash := hresolved.contentHash
    rw [hcontent, Option.getD_some] at hcontentHash
    rw [hcolumns, hcontentHash, ← hof]
    exact List.mem_map_of_mem hversionMem
  · rw [hcolumns, hresolved.numbered_iff hcontent, hmerged.marks_eq.2.1, hversions]
    rw [hnotices] at hmergedIn
    unfold Item.FirstVersionMatches
    cases created with
    | true =>
      constructor
      · intro _ notice hnotice
        cases hmergedIn.symm.trans hnotice
      · intro _ other hother hotherOf _
        obtain ⟨notice, hnotice, hid⟩ := howned other hother
        rw [← hnotices] at hnotice
        exact absurd (hid.trans hotherOf) (hmerged.created_id notice hnotice)
    | false =>
      obtain ⟨notice, hnotice, happlied⟩ := hmergedIn
      have hid := (applyFields_pointer happlied).1
      constructor
      · intro hall other hother
        obtain rfl := Option.some.inj (Except.ok.inj (hnotice.symm.trans hother))
        rw [← hid]
        exact hall
      · intro hall
        rw [hid]
        exact hall notice hnotice

end Step

end TenderPhase1.Crawler
