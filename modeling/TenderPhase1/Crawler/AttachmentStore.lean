import TenderPhase1.Crawler.VersionSet

/-!
# The row of an attachment

An attachment is stored in the one row of its source that has the hash of its URL: that
row names the notice of the item and a version of it from then on, whatever it named
before. Every other row is left as it is.
-/

namespace TenderPhase1.Crawler

open Jobs Raising

def TenderAttachment.key (attachment : TenderAttachment) : ℕ × String :=
  (attachment.sourceSiteId, attachment.urlHash)

/-- The version that `write_attachment` links: the one with the number of the item, where the notice
has it, and otherwise the one that the notice names. -/
def Item.linkedVersionId (python : Python) (conn : Connection) (item : Item) (notice : TenderNotice)
    (versions : List NoticeVersion) : Option ℕ :=
  match item.noticeVersionNo.asInt python with
  | none => notice.currentVersionId
  | some versionNo =>
      (conn.first (fun version ↦ version.noticeId = notice.id ∧ version.versionNo = versionNo) versions).map
        NoticeVersion.id <|> notice.currentVersionId

/-- The id of the notice that the item is merged into: the one that it finds, or the next id. -/
def Item.resolvedNoticeId (python : Python) (conn : Connection) (item : Item) (sourceSiteId : ℕ)
    (notices : List TenderNotice) : Option ℕ :=
  match item.noticeIn python conn sourceSiteId notices with
  | .ok (some notice) => some notice.id
  | .ok none => some (conn.nextId (notices.map TenderNotice.id))
  | .error _ => none

/-- One row is written, which has the key, the notice and the version; the rows with other keys are kept.
No row is marked as deleted. -/
structure FileWritten (key : ℕ × String) (noticeId : ℕ) (noticeVersionId : Option ℕ)
    (before after : List TenderAttachment) : Prop where
  written : ∃ row ∈ after, row.key = key ∧ row.noticeId = noticeId ∧ row.noticeVersionId = noticeVersionId
  kept : ∀ row ∈ before, row.key ≠ key → row ∈ after
  origin : ∀ row ∈ after, row.key ≠ key → row ∈ before
  listed : (∀ row ∈ before, row.isDeleted = false) → ∀ row ∈ after, row.isDeleted = false

section Store

variable {python : Python} {conn : Connection} {item : Item} {sourceSiteId : ℕ} {state : CallState}
  {notice : TenderNotice}

theorem ensures_attachmentVersionId :
    Ensures (fun linked after ↦ after = state ∧ linked = item.linkedVersionId python conn notice state.work.versions)
      (attachmentVersionId python conn item notice) state := by
  unfold attachmentVersionId Item.linkedVersionId
  cases item.noticeVersionNo.asInt python with
  | none => exact ensures_pure ⟨rfl, rfl⟩
  | some versionNo =>
    apply ensures_bind
    apply ensures_scalar
    intro _
    exact ensures_pure ⟨rfl, rfl⟩

section Rows

variable {key : ℕ × String} {noticeId : ℕ} {noticeVersionId : Option ℕ} {row : TenderAttachment}
  {rows : List TenderAttachment}

theorem fileWritten_append (hkey : row.key = key) (hnotice : row.noticeId = noticeId)
    (hversion : row.noticeVersionId = noticeVersionId) (hlisted : row.isDeleted = false) :
    FileWritten key noticeId noticeVersionId rows (rows ++ [row]) where
  written := ⟨row, List.mem_append_right _ List.mem_cons_self, hkey, hnotice, hversion⟩
  kept _ hother _ := List.mem_append_left _ hother
  origin other hother hne := by
    rcases List.mem_append.mp hother with hold | hnew
    · exact hold
    · rw [List.mem_singleton.mp hnew] at hne
      exact absurd hkey hne
  listed hrows := by
    rw [List.forall_mem_append, List.forall_mem_singleton]
    exact ⟨hrows, hlisted⟩

/-- Overwriting a row changes no row with another key. -/
theorem fileWritten_putRow {existing : TenderAttachment} (hids : (rows.map TenderAttachment.id).Nodup)
    (hexisting : existing ∈ rows) (hid : row.id = existing.id) (hsame : existing.key = key) (hkey : row.key = key)
    (hnotice : row.noticeId = noticeId) (hversion : row.noticeVersionId = noticeVersionId)
    (hlisted : row.isDeleted = existing.isDeleted) :
    FileWritten key noticeId noticeVersionId rows (putRow TenderAttachment.id row rows) where
  written := ⟨row, mem_putRow hexisting hid, hkey, hnotice, hversion⟩
  kept other hother hne := by
    refine mem_putRow_of_ne hother fun hotherId ↦ hne ?_
    rw [eq_of_id_eq hids hexisting hother (hotherId.trans hid), hsame]
  origin other hother hne := by
    rcases eq_or_mem_of_mem_putRow hother with rfl | hold
    · exact absurd hkey hne
    · exact hold
  listed hrows other hother := by
    rcases eq_or_mem_of_mem_putRow hother with rfl | hold
    · exact hlisted.trans (hrows existing hexisting)
    · exact hrows other hold

/-- The attachment is inserted, or written over the row that has its key. -/
theorem ensures_putAttachment {existing : Option TenderAttachment} {written : ℕ → TenderAttachment}
    (hids : (state.work.attachments.map TenderAttachment.id).Nodup)
    (hexisting : ∀ row ∈ existing, row ∈ state.work.attachments ∧ row.key = key)
    (hwritten : ∀ id, (written id).key = key ∧ (written id).noticeId = noticeId ∧
      (written id).noticeVersionId = noticeVersionId ∧ (written id).isDeleted = false) :
    Ensures (fun _ after ↦ after.records = state.records ∧
        FileWritten key noticeId noticeVersionId state.work.attachments after.work.attachments)
      (putAttachment conn existing written) state := by
  unfold putAttachment
  cases existing with
  | none =>
    obtain ⟨hkey, hnotice, hversion, hlisted⟩ := hwritten (conn.nextId (state.work.attachments.map TenderAttachment.id))
    apply ensures_update
    exact ⟨rfl, fileWritten_append hkey hnotice hversion hlisted⟩
  | some existing =>
    obtain ⟨hmem, hsame⟩ := hexisting existing rfl
    obtain ⟨hkey, hnotice, hversion, -⟩ := hwritten existing.id
    apply ensures_update
    exact ⟨rfl, fileWritten_putRow hids hmem rfl hsame hsame hnotice hversion rfl⟩

end Rows

/-- The file is written under its source and URL hash, and the records stay. -/
theorem ensures_storeFile {urlHash fileUrl fileName : String} :
    Ensures (fun _ after ↦ after.records = state.records ∧
        FileWritten (sourceSiteId, urlHash) notice.id (item.linkedVersionId python conn notice state.work.versions)
          state.work.attachments after.work.attachments)
      (storeFile python conn item sourceSiteId notice urlHash fileUrl fileName) state := by
  apply ensures_bind
  apply ensures_scalar
  intro haccepts
  have hids := (uniqueAttachments_iff.mp (accepts_iff.mp haccepts).2.2.2.2.1).1
  have hexisting (row : TenderAttachment) (hrow : row ∈ (conn.answer (state.work.attachments.filter fun row ↦
      row.sourceSiteId = sourceSiteId ∧ row.urlHash = urlHash)).head?) :
      row ∈ state.work.attachments ∧ row.key = (sourceSiteId, urlHash) := by
    obtain ⟨hmem, hkey⟩ := mem_of_head?_answer hrow
    obtain ⟨hsource, hhash⟩ := of_decide_eq_true hkey
    exact ⟨hmem, Prod.ext hsource hhash⟩
  apply ensures_bind
  refine ensures_mono ensures_attachmentVersionId ?_
  rintro linked _ ⟨rfl, rfl⟩
  apply ensures_bind
  refine ensures_of_reads (fun _ ↦ keeps_rawDocumentIdByHash _) ?_
  intro rawDocumentId
  apply ensures_bind
  apply ensures_raisePython
  intro fileExt _
  apply ensures_bind
  apply ensures_raisePython
  intro mimeType _
  apply ensures_bind
  refine ensures_mono (ensures_putAttachment hids hexisting fun _ ↦ ⟨rfl, rfl, rfl, rfl⟩) ?_
  rintro _ put ⟨hrecords, hput⟩
  apply ensures_bind
  apply ensures_recordStats
  intro jobs
  exact ensures_pure ⟨hrecords, hput⟩

/-- What `write_attachment` leaves behind where it comes to its commit: the merged notice, and the row of
the file where the item has one. -/
structure AttachmentStored (python : Python) (conn : Connection) (item : Item) (sourceSiteId : ℕ)
    (state after : CallState) (merged : TenderNotice) (created : Bool) : Prop where
  merging : ∃ middle, Merged python conn item sourceSiteId state (some (merged, created)) middle ∧
    after.records = middle.records
  file : ∀ urlHash fileUrl fileName, item.file python = .ok (some (urlHash, fileUrl, fileName)) →
    FileWritten (sourceSiteId, urlHash) merged.id (item.linkedVersionId python conn merged after.work.versions)
      state.work.attachments after.work.attachments
  noFile : item.file python = .ok none → after.work.attachments = state.work.attachments
  fileRead : ∃ file, item.file python = .ok file
  resolvedNoticeId : item.resolvedNoticeId python conn sourceSiteId state.work.notices = some merged.id

theorem Merged.attachments_eq {found : Option (TenderNotice × Bool)} {after : CallState}
    (h : Merged python conn item sourceSiteId state found after) : after.work.attachments = state.work.attachments := by
  cases h with
  | merged hresolved _ => cases hresolved <;> rfl
  | missing _ => rfl

/-- The merged notice has the id that the item resolves to. -/
theorem Merged.resolvedNoticeId {merged : TenderNotice} {created : Bool} {after : CallState}
    (h : Merged python conn item sourceSiteId state (some (merged, created)) after)
    (hmergedIn : if created then item.noticeIn python conn sourceSiteId state.work.notices = .ok none
      else ∃ notice, item.noticeIn python conn sourceSiteId state.work.notices = .ok (some notice) ∧
        notice.applyFields python item = .ok merged) :
    item.resolvedNoticeId python conn sourceSiteId state.work.notices = some merged.id := by
  unfold Item.resolvedNoticeId
  cases created with
  | true =>
    cases h with
    | merged hresolved happlied =>
      rw [hmergedIn, (applyFields_pointer happlied).1]
      cases hresolved with
      | created _ _ _ => rfl
  | false =>
    obtain ⟨notice, hnotice, happlied⟩ := hmergedIn
    rw [hnotice, (applyFields_pointer happlied).1]

/-- A call that gets as far as the file has merged a notice and stored the file for it. -/
theorem ensures_attachmentStored :
    Ensures (fun reached after ↦ reached = true →
        ∃ merged created, AttachmentStored python conn item sourceSiteId state after merged created)
      (storeAttachment python conn item sourceSiteId) state := by
  apply ensures_bind
  refine ensures_mono (ensures_and ensures_mergedNotice ensures_mergedIn) ?_
  rintro found middle ⟨hmerged, hmergedIn⟩
  have hattachments := hmerged.attachments_eq
  cases found with
  | none => exact ensures_pure fun h ↦ (nomatch h)
  | some pair =>
    obtain ⟨merged, created⟩ := pair
    have hresolved := hmerged.resolvedNoticeId (hmergedIn merged created rfl)
    apply ensures_bind
    apply ensures_raisePython
    intro file hfile
    cases file with
    | none =>
      refine ensures_pure fun _ ↦ ⟨merged, created, ⟨middle, hmerged, rfl⟩, ?_, fun _ ↦ hattachments, ⟨_, hfile⟩, hresolved⟩
      intro urlHash fileUrl fileName hsome
      cases hfile.symm.trans hsome
    | some file =>
      obtain ⟨urlHash, fileUrl, fileName⟩ := file
      refine ensures_mono ensures_storeFile ?_
      rintro _ after ⟨hrecords, hwritten⟩ _
      refine ⟨merged, created, ⟨middle, hmerged, hrecords⟩, ?_, ?_, ⟨_, hfile⟩, hresolved⟩
      · intro otherHash otherUrl otherName hsome
        obtain ⟨rfl, rfl, rfl⟩ : urlHash = otherHash ∧ fileUrl = otherUrl ∧ fileName = otherName := by
          simpa using hfile.symm.trans hsome
        have hversions : after.work.versions = middle.work.versions := congrArg Prod.snd hrecords
        rw [hversions, ← hattachments]
        exact hwritten
      · intro hnone
        cases hfile.symm.trans hnone

end Store

end TenderPhase1.Crawler
