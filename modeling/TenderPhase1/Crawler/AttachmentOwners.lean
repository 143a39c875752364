import TenderPhase1.Crawler.LinkedVersion
import TenderPhase1.Crawler.NoticeIdentity

/-!
# The notices of the attachments

A file belongs to the notice that archived it last: a call for an attachment moves the
row that its source has for the hash of the URL to its own notice, and touches no other
row. A notice lists a file from the call that archives it until another notice of the
source archives the same URL.
-/

namespace TenderPhase1.Crawler

open Jobs Raising Transition

/-- `_get_attachments` -/
def Db.noticeAttachments (db : Db) (noticeId : ℕ) : List TenderAttachment :=
  (db.attachments.filter fun attachment ↦ attachment.noticeId = noticeId ∧ attachment.isDeleted = false).insertionSort
    fun attachment other ↦ attachment.id ≤ other.id

/-- The attachments name versions of their notices, and none is marked as deleted. -/
structure Db.AttachmentsOwned (db : Db) : Prop where
  versionOwned : ∀ attachment ∈ db.attachments, ∀ id, attachment.noticeVersionId = some id →
    ∃ version ∈ db.versions, version.id = id ∧ version.noticeId = attachment.noticeId
  listed : ∀ attachment ∈ db.attachments, attachment.isDeleted = false

/-- The key of the file that a call archives, and the notice that it archives it for. -/
def Context.archived (context : Context) (python : Python) (event : Connection × WriterCall) : Option ((ℕ × String) × ℕ) :=
  match event.2 with
  | .attachment original =>
    match normalizeAttachment python original with
    | .ok item =>
      let sourceSiteId := context.sourceIdOf event.1 item
      match item.file python, item.resolvedNoticeId python event.1 sourceSiteId context.db.notices with
      | .ok (some (urlHash, _, _)), some noticeId => some ((sourceSiteId, urlHash), noticeId)
      | _, _ => none
    | .error _ => none
  | _ => none

/-- What a call does to the attachments of the notices. -/
structure FilesMoved (python : Python) (event : Connection × WriterCall) (before after : Context) : Prop where
  /-- Every row stays as it is that is not the one of the file that the call archives. -/
  kept : ∀ attachment ∈ before.db.attachments,
    (∀ noticeId, before.archived python event ≠ some (attachment.key, noticeId)) → attachment ∈ after.db.attachments
  /-- The version of every row belongs to its notice. -/
  versionOwned : ∀ attachment ∈ after.db.attachments, ∀ id, attachment.noticeVersionId = some id →
    ∃ version ∈ after.db.versions, version.id = id ∧ version.noticeId = attachment.noticeId
  /-- The row of the file that the call archives belongs to its notice, whichever had it before. -/
  moved : Committed python before event → ∀ key noticeId, before.archived python event = some (key, noticeId) →
    (∃ attachment ∈ after.db.noticeAttachments noticeId, attachment.key = key) ∧
      ∀ attachment ∈ after.db.attachments, attachment.key = key → attachment.noticeId = noticeId

section Calls

variable {python : Python} {conn : Connection} {context : Context} {call : WriterCall} {item : Item} {id : ℕ}
  {found last : CallState}

theorem archived_attachment {original : Item} (h : normalizeAttachment python original = .ok item) :
    context.archived python (conn, .attachment original) =
      match item.file python,
        item.resolvedNoticeId python conn (context.sourceIdOf conn item) context.db.notices with
      | .ok (some (urlHash, _, _)), some noticeId => some ((context.sourceIdOf conn item, urlHash), noticeId)
      | _, _ => none := by
  simp only [Context.archived, h]

theorem archived_eq_none (hcall : ∀ original, call ≠ .attachment original) :
    context.archived python (conn, call) = none := by
  cases call with
  | attachment original => exact absurd rfl (hcall original)
  | _ => rfl

/-- A call for anything but an attachment leaves the attachments alone. -/
theorem CommittedCall.attachments_eq (h : CommittedCall python context conn call item id found last)
    (hcall : ∀ original, call ≠ .attachment original) : last.work.attachments = context.db.attachments := by
  have hfound : found.work.attachments = context.db.attachments := h.sourceFound.attachments_eq
  rw [← hfound]
  have hlast {program : Call Bool} (hkeeps : Keeps (fun state ↦ state.work.attachments = found.work.attachments) program)
      (hrun : program.run.run found = (.ok true, last)) : last.work.attachments = found.work.attachments := by
    have hkept := hkeeps found rfl
    unfold Ends at hkept
    rw [hrun] at hkept
    exact hkept
  have hrun := h.run
  cases call with
  | rawDocument _ => exact hlast (keeps_view_storeRawDocument Db.attachments (fun _ _ ↦ rfl) fun _ _ ↦ rfl) hrun
  | notice _ => exact hlast (keeps_view_storeNotice Db.attachments (fun _ _ ↦ rfl) fun _ _ ↦ rfl) hrun
  | noticeVersion _ =>
    obtain ⟨merged, created, version, versionCreated, hwritten⟩ := ensures_versionWritten.of_run hrun rfl
    obtain ⟨middle, resolved, hmerged, hresolved, hstored⟩ := hwritten.steps
    have hresolvedAttachments : resolved.work.attachments = middle.work.attachments := by
      cases hresolved <;> rfl
    rw [← hmerged.attachments_eq, ← hresolvedAttachments]
    cases hstored with
    | @stored written put _ _ _ _ hput _ _ =>
      have hputAttachments : put.attachments = resolved.work.attachments := by rw [hput]
      rw [← hputAttachments]
      unfold NoticeVersion.promotedIn NoticeVersion.promote
      split
      · rfl
      · rfl
  | attachment original => exact absurd rfl (hcall original)
  | error _ => exact hlast (keeps_view_storeError Db.attachments (fun _ _ ↦ rfl) fun _ _ ↦ rfl) hrun

/-- What a committed call does to the attachments: it leaves them alone, or it writes the row of the file that it
archives. -/
inductive AttachmentsStep (python : Python) (context : Context) (event : Connection × WriterCall) (work : Db) : Prop where
  | kept (h : work.attachments = context.db.attachments)
      (hnone : context.archived python event = none)
  | written {key : ℕ × String} {noticeId : ℕ} {noticeVersionId : Option ℕ}
      (harchived : context.archived python event = some (key, noticeId))
      (hversion : ∀ id, noticeVersionId = some id → work.marks.owner id = some noticeId)
      (h : FileWritten key noticeId noticeVersionId context.db.attachments work.attachments)

/-- The version that is linked is one of the notice. -/
theorem linkedVersionId_owner {db : Db} {notice : TenderNotice} (hsound : db.MarksSound) (hnotice : notice ∈ db.notices)
    {versionId : ℕ} (h : item.linkedVersionId python conn notice db.versions = some versionId) :
    db.marks.owner versionId = some notice.id := by
  have hnamed (hpointer : notice.currentVersionId = some versionId) : db.marks.owner versionId = some notice.id :=
    hsound.namesOwn notice.id versionId ((named_of_mem hsound.unique hnotice).trans hpointer)
  unfold Item.linkedVersionId at h
  cases hnumber : item.noticeVersionNo.asInt python with
  | none =>
    rw [hnumber] at h
    exact hnamed h
  | some versionNo =>
    rw [hnumber] at h
    dsimp only at h
    cases hfirst : conn.first (fun version ↦ version.noticeId = notice.id ∧ version.versionNo = versionNo) db.versions with
    | none =>
      rw [hfirst] at h
      exact hnamed h
    | some version =>
      rw [hfirst] at h
      obtain rfl := Option.some.inj h
      obtain ⟨hmem, hkey⟩ := mem_of_head?_answer hfirst
      rw [owner_of_mem hsound.unique hmem, (of_decide_eq_true hkey).1]

/-- What a committed call does to the attachments -/
theorem attachmentsStep_of_committed
    (h : CommittedCall python context conn call item (context.sourceIdOf conn item) found last)
    (hsound : last.work.MarksSound) : AttachmentsStep python context (conn, call) last.work := by
  have hfoundAttachments : found.work.attachments = context.db.attachments := h.sourceFound.attachments_eq
  have hfoundNotices : found.work.notices = context.db.notices := h.sourceFound.notices_eq
  by_cases hattachment : ∃ original, call = .attachment original
  · obtain ⟨original, rfl⟩ := hattachment
    obtain ⟨merged, created, hstored⟩ := ensures_attachmentStored.of_run h.run rfl
    obtain ⟨file, hfile⟩ := hstored.fileRead
    cases file with
    | none =>
      refine .kept ((hstored.noFile hfile).trans hfoundAttachments) ?_
      rw [archived_attachment h.normalized, hfile]
    | some file =>
      obtain ⟨urlHash, fileUrl, fileName⟩ := file
      have hwritten := hstored.file urlHash fileUrl fileName hfile
      have hresolved := hstored.resolvedNoticeId
      rw [hfoundAttachments] at hwritten
      rw [hfoundNotices] at hresolved
      obtain ⟨middle, hmerged, hrecords⟩ := hstored.merging
      have hnotices : last.work.notices = middle.work.notices := congrArg Prod.fst hrecords
      have hmem : merged ∈ last.work.notices := by
        rw [hnotices]
        exact hmerged.marks_eq.2.2
      refine .written ?_ (fun versionId hlinked ↦ linkedVersionId_owner hsound hmem hlinked) hwritten
      rw [archived_attachment h.normalized, hfile, hresolved]
  · have hnot := not_exists.mp hattachment
    exact .kept (h.attachments_eq hnot) (archived_eq_none hnot)

end Calls

section Steps

variable {python : Python} {context : Context} {event : Connection × WriterCall} {noticeId : ℕ} {key : ℕ × String}

theorem mem_noticeAttachments {db : Db} {attachment : TenderAttachment} : attachment ∈ db.noticeAttachments noticeId ↔
    attachment ∈ db.attachments ∧ attachment.noticeId = noticeId ∧ attachment.isDeleted = false := by
  unfold Db.noticeAttachments
  rw [List.mem_insertionSort, List.mem_filter, decide_eq_true_eq]

theorem mem_storedRows {Row : Type} [DecidableEq Row] {stored : Row → Row} {committed work : List Row} {row : Row}
    (hold : row ∈ committed) (hwork : row ∈ work) : row ∈ storedRows stored committed work :=
  List.mem_map.mpr ⟨row, hwork, if_pos hold⟩

/-- What of an attachment says where it belongs. -/
def TenderAttachment.place (attachment : TenderAttachment) : (ℕ × String) × ℕ × Option ℕ × Bool :=
  (attachment.key, attachment.noticeId, attachment.noticeVersionId, attachment.isDeleted)

theorem place_stored (conn : Connection) (committed work : Db) :
    (Db.stored conn committed work).attachments.map TenderAttachment.place = work.attachments.map TenderAttachment.place := by
  apply map_storedRows
  exact fun _ ↦ rfl

/-- A version never changes its notice. -/
theorem owner_step {versionId : ℕ} (h : context.db.marks.owner versionId = some noticeId) :
    (context.step python event).db.marks.owner versionId = some noticeId := by
  obtain ⟨conn, call⟩ := event
  cases marks_step python conn context call with
  | kept hmarks =>
    rw [hmarks]
    exact h
  | @stored original item storedId member _ _ howner hmarks _ =>
    rw [hmarks]
    by_cases hmember : versionId = member
    · rw [hmember] at h ⊢
      rw [howner noticeId h]
      exact CurrentMarks.Marks.store_owner_self
    · rw [CurrentMarks.Marks.store_owner_of_ne hmember]
      exact h

theorem attachmentsOwned_iff {db : Db} (hunique : db.unique) : db.AttachmentsOwned ↔
    ∀ place ∈ db.attachments.map TenderAttachment.place,
      (∀ id, place.2.2.1 = some id → db.marks.owner id = some place.2.1) ∧ place.2.2.2 = false := by
  rw [List.forall_mem_map]
  constructor
  · intro h attachment hattachment
    refine ⟨fun id hid ↦ ?_, h.listed attachment hattachment⟩
    obtain ⟨version, hversion, rfl, hof⟩ := h.versionOwned attachment hattachment id hid
    exact (owner_of_mem hunique hversion).trans (congrArg some hof)
  · intro h
    refine ⟨fun attachment hattachment id hid ↦ ?_, fun attachment hattachment ↦ (h attachment hattachment).2⟩
    exact mem_of_owner ((h attachment hattachment).1 id hid)

/-- The row with the key of the file is the one that is written. -/
theorem FileWritten.of_key {noticeVersionId : Option ℕ} {before after : List TenderAttachment} {row : TenderAttachment}
    (h : FileWritten key noticeId noticeVersionId before after) (hunique : uniqueAttachments after) (hrow : row ∈ after)
    (hkey : row.key = key) : row.noticeId = noticeId ∧ row.noticeVersionId = noticeVersionId := by
  obtain ⟨written, hwritten, hwrittenKey, hnotice, hversion⟩ := h.written
  have hsame : row = written :=
    List.inj_on_of_nodup_map (uniqueAttachments_iff.mp hunique).2 hrow hwritten (hkey.trans hwrittenKey.symm)
  rw [hsame]
  exact ⟨hnotice, hversion⟩

/-- What the rows that a call leaves say of their places, before they are stored. -/
theorem AttachmentsStep.places {work : Db} (h : AttachmentsStep python context event work) (hunique : work.unique)
    (hcontext : context.db.unique) (howned : context.db.AttachmentsOwned)
    (howner : ∀ id notice, context.db.marks.owner id = some notice → work.marks.owner id = some notice) :
    ∀ place ∈ work.attachments.map TenderAttachment.place,
      (∀ id, place.2.2.1 = some id → work.marks.owner id = some place.2.1) ∧ place.2.2.2 = false := by
  have hplaces := (attachmentsOwned_iff hcontext).mp howned
  rw [List.forall_mem_map] at hplaces ⊢
  have hold (attachment : TenderAttachment) (hattachment : attachment ∈ context.db.attachments) (id : ℕ)
      (hid : attachment.noticeVersionId = some id) : work.marks.owner id = some attachment.noticeId :=
    howner id attachment.noticeId ((hplaces attachment hattachment).1 id hid)
  cases h with
  | kept h _ =>
    rw [h]
    exact fun attachment hattachment ↦ ⟨hold attachment hattachment, howned.listed attachment hattachment⟩
  | @written key noticeId noticeVersionId _ hversion h =>
    intro attachment hattachment
    refine ⟨fun id hid ↦ ?_, h.listed howned.listed attachment hattachment⟩
    by_cases hkey : attachment.key = key
    · obtain ⟨hnotice, hwritten⟩ := h.of_key (unique_iff.mp hunique).2.2.2.2.1 hattachment hkey
      rw [TenderAttachment.place, hnotice]
      exact hversion id (hwritten.symm.trans hid)
    · exact hold attachment (h.origin attachment hattachment hkey) id hid

/-- Every call moves the row of its file alone, to its own notice. -/
theorem filesMoved_step (hsound : context.db.MarksSound) (howned : context.db.AttachmentsOwned) :
    FilesMoved python event context (context.step python event) ∧ (context.step python event).db.AttachmentsOwned := by
  have hafter : (context.step python event).db.MarksSound := hsound.step event
  by_cases hcommitted : Committed python context event
  · obtain ⟨item, found, last, hcall⟩ := hcommitted
    have hdb : (context.step python event).db = Db.stored event.1 context.db last.work := by rw [hcall.step]
    have hmarks := marks_stored event.1 context.db last.work
    rw [← hdb] at hmarks
    have hlast : last.work.MarksSound :=
      ⟨unique_of_accepts hcall.accepted, hmarks ▸ hafter.oneFlagged, hmarks ▸ hafter.namesOwn⟩
    have hstep := attachmentsStep_of_committed hcall hlast
    have hplaces := hstep.places hlast.unique hsound.unique howned fun id notice howner ↦ by
      rw [← hmarks]
      exact owner_step howner
    have hplacesAfter := place_stored event.1 context.db last.work
    rw [← hdb] at hplacesAfter
    rw [← hplacesAfter, ← hmarks] at hplaces
    have hownedAfter := (attachmentsOwned_iff hafter.unique).mpr hplaces
    refine ⟨⟨?_, hownedAfter.versionOwned, ?_⟩, hownedAfter⟩
    · intro attachment hattachment hnot
      rw [hdb]
      apply mem_storedRows hattachment
      cases hstep with
      | kept h _ =>
        rw [h]
        exact hattachment
      | @written key noticeId _ harchived _ h =>
        apply h.kept attachment hattachment
        intro hkey
        rw [← hkey] at harchived
        exact hnot noticeId harchived
    · intro _ key noticeId harchived
      cases hstep with
      | kept _ hnone => cases hnone.symm.trans harchived
      | written hother _ h =>
        obtain ⟨rfl, rfl⟩ := Prod.mk.inj (Option.some.inj (hother.symm.trans harchived))
        constructor
        · obtain ⟨row, hrow, hkey, hnotice, -⟩ := h.written
          have hmem := List.mem_map_of_mem (f := TenderAttachment.place) hrow
          rw [← hplacesAfter] at hmem
          obtain ⟨attachment, hattachment, hplace⟩ := List.mem_map.mp hmem
          simp only [TenderAttachment.place, Prod.mk.injEq] at hplace
          exact ⟨attachment, mem_noticeAttachments.mpr ⟨hattachment, hplace.2.1.trans hnotice,
            hownedAfter.listed attachment hattachment⟩, hplace.1.trans hkey⟩
        · intro attachment hattachment hkey
          have hmem := List.mem_map_of_mem (f := TenderAttachment.place) hattachment
          rw [hplacesAfter] at hmem
          obtain ⟨row, hrow, hplace⟩ := List.mem_map.mp hmem
          simp only [TenderAttachment.place, Prod.mk.injEq] at hplace
          rw [← hplace.2.1]
          exact (h.of_key (unique_iff.mp hlast.unique).2.2.2.2.1 hrow (hplace.1.trans hkey)).1
  · have hkept : (context.step python event).db = context.db :=
      (step_cases python context event.1 event.2).resolve_right hcommitted
    have hownedAfter : (context.step python event).db.AttachmentsOwned := by
      rw [hkept]
      exact howned
    refine ⟨⟨fun attachment hattachment _ ↦ ?_, hownedAfter.versionOwned, fun h ↦ absurd h hcommitted⟩, hownedAfter⟩
    rw [hkept]
    exact hattachment

/-- Where attachments are sound, and the notice lists the file. -/
structure Lists (key : ℕ × String) (noticeId : ℕ) (context : Context) : Prop where
  sound : context.db.MarksSound
  owned : context.db.AttachmentsOwned
  listed : ∃ attachment ∈ context.db.noticeAttachments noticeId, attachment.key = key

/-- An event that gives the attachment to no other notice leaves it in the list of its own. -/
theorem Lists.step (h : Lists key noticeId context)
    (hother : ∀ otherId, context.archived python event = some (key, otherId) → otherId = noticeId) :
    Lists key noticeId (context.step python event) := by
  have hstep : FilesMoved python event context (context.step python event) ∧
      (context.step python event).db.AttachmentsOwned := filesMoved_step h.sound h.owned
  obtain ⟨hmoved, howned⟩ := hstep
  refine ⟨h.sound.step event, howned, ?_⟩
  by_cases harchived : ∃ otherId, context.archived python event = some (key, otherId)
  · obtain ⟨otherId, harchived⟩ := harchived
    obtain rfl := hother otherId harchived
    by_cases hcommitted : Committed python context event
    · exact (hmoved.moved hcommitted key otherId harchived).1
    · rw [(step_cases python context event.1 event.2).resolve_right hcommitted]
      exact h.listed
  · obtain ⟨attachment, hattachment, rfl⟩ := h.listed
    obtain ⟨hmem, hof, hlisted⟩ := mem_noticeAttachments.mp hattachment
    have hkept := hmoved.kept attachment hmem (not_exists.mp harchived)
    exact ⟨attachment, mem_noticeAttachments.mpr ⟨hkept, hof, hlisted⟩, rfl⟩

end Steps

/-- In every run each call moves the row of the file that it archives to its own notice and leaves every other row
as it is. A notice lists a file from then on, as long as the file is not archived for another notice. -/
theorem attachments_moved (python : Python) (start : Context) (hunique : start.db.unique)
    (howned : start.db.VersionsOwned) (hsets : ∀ notice ∈ start.db.notices, start.db.VersionSet notice)
    (hattachments : start.db.AttachmentsOwned) (events : List (Connection × WriterCall)) :
    Along (Context.step python) (fun before event ↦ FilesMoved python event before (before.step python event))
        start events ∧
      ∀ earlier event later key noticeId, events = earlier ++ event :: later →
        (earlier.foldl (Context.step python) start).archived python event = some (key, noticeId) →
        Committed python (earlier.foldl (Context.step python) start) event →
        Along (Context.step python) (fun before next ↦
            ∀ otherId, before.archived python next = some (key, otherId) → otherId = noticeId)
          ((earlier.foldl (Context.step python) start).step python event) later →
        ∃ attachment ∈ (events.foldl (Context.step python) start).db.noticeAttachments noticeId,
          attachment.key = key := by
  let sound (context : Context) : Prop := context.db.MarksSound ∧ context.db.AttachmentsOwned
  have hstart : sound start := ⟨marksSound_of_versionSets hunique howned hsets, hattachments⟩
  have hkeep (before : Context) (event : Connection × WriterCall) (h : sound before) :
      sound (before.step python event) := ⟨h.1.step event, (filesMoved_step h.1 h.2).2⟩
  constructor
  · refine along_of_invariant (fun before event h _ ↦ hkeep before event h) ?_ start events hstart
      (along_of_forall_mem (fun _ _ ↦ trivial) start)
    exact fun before event h _ ↦ (filesMoved_step h.1 h.2).1
  · intro earlier event later key noticeId hevents harchived hcommitted hlater
    have hbefore : sound (earlier.foldl (Context.step python) start) := invariant_run hkeep start earlier hstart
    have hmoved : FilesMoved python event (earlier.foldl (Context.step python) start)
        ((earlier.foldl (Context.step python) start).step python event) := (filesMoved_step hbefore.1 hbefore.2).1
    have hafter := hkeep _ event hbefore
    have hlists : Lists key noticeId ((earlier.foldl (Context.step python) start).step python event) :=
      ⟨hafter.1, hafter.2, (hmoved.moved hcommitted key noticeId harchived).1⟩
    rw [hevents, List.foldl_append, List.foldl_cons]
    exact (invariant_foldl (fun _ _ h hother ↦ h.step hother) _ later hlists hlater).listed

/-! ## A file that two notices share -/

/-- The digest of the URL of the file. -/
def fileDigests : Digests where
  entries := [("https://a.cn/f.pdf", "c5b07ad45939488186e7d2a4e9fa6f8c2a13e25452094d450898aa6e5de1c2f2")]
  stripped := by
    rw [List.forall_mem_singleton]
    exact PyText.asStr_ofList (by decide +kernel) (by decide +kernel)

def keyedAttachment (externalId sourceDuplicateKey dedupHash : String) : Item :=
  { keyedNotice externalId sourceDuplicateKey dedupHash with
    fileName := some (.str "f.pdf")
    fileUrl := some (.str "https://a.cn/f.pdf") }

/-- Two notices, and a file of the first one. -/
def oneFile : List (Connection × WriterCall) :=
  [(sqlite epoch, .notice (keyedNotice "1" "k" "h")), (sqlite epoch, .notice (keyedNotice "2" "l" "g")),
    (sqlite epoch, .attachment (keyedAttachment "1" "k" "h"))]

/-- The same file for the second notice. -/
def sharedFile : Connection × WriterCall := (sqlite epoch, .attachment (keyedAttachment "2" "l" "g"))

def oneFileContext : Context := oneFile.foldl (Context.step (plainPython fileDigests)) ⟨[], emptyDb⟩

def fileOwners (db : Db) : List ((ℕ × String) × ℕ) := db.attachments.map fun row ↦ (row.key, row.noticeId)

theorem sharedFile_run :
    oneFileContext.archived (plainPython fileDigests) sharedFile =
        some ((1, "c5b07ad45939488186e7d2a4e9fa6f8c2a13e25452094d450898aa6e5de1c2f2"), 2) ∧
      fileOwners oneFileContext.db = [((1, "c5b07ad45939488186e7d2a4e9fa6f8c2a13e25452094d450898aa6e5de1c2f2"), 1)] ∧
      fileOwners (oneFileContext.step (plainPython fileDigests) sharedFile).db =
        [((1, "c5b07ad45939488186e7d2a4e9fa6f8c2a13e25452094d450898aa6e5de1c2f2"), 2)] := by
  decide +kernel

theorem attachments_moved_shared :
    Along (Context.step (plainPython fileDigests)) (fun before event ↦
        FilesMoved (plainPython fileDigests) event before (before.step (plainPython fileDigests) event))
        ⟨[], emptyDb⟩ (oneFile ++ [sharedFile]) ∧
      ∃ attachment ∈ ((oneFile ++ [sharedFile]).foldl (Context.step (plainPython fileDigests))
          ⟨[], emptyDb⟩).db.noticeAttachments 2,
        attachment.key = (1, "c5b07ad45939488186e7d2a4e9fa6f8c2a13e25452094d450898aa6e5de1c2f2") := by
  obtain ⟨harchived, hbefore, hafter⟩ := sharedFile_run
  have hmoved := attachments_moved (plainPython fileDigests) ⟨[], emptyDb⟩ (by decide) (fun _ h ↦ (nomatch h))
    (fun _ h ↦ (nomatch h)) ⟨fun _ h ↦ (nomatch h), fun _ h ↦ (nomatch h)⟩ (oneFile ++ [sharedFile])
  have hcommitted : Committed (plainPython fileDigests) oneFileContext sharedFile := by
    apply committed_of_ne fileOwners
    rw [hbefore, hafter]
    decide
  exact ⟨hmoved.1, hmoved.2 oneFile sharedFile [] _ 2 rfl harchived hcommitted trivial⟩

/-- The last call archives the file for the second notice, and the first one loses it. -/
theorem attachments_not_kept_shared :
    ¬ Along (Context.step (plainPython fileDigests)) (fun before event ↦
        ∀ key noticeId, before.archived (plainPython fileDigests) event = some (key, noticeId) →
          ∀ attachment ∈ before.db.attachments, attachment.noticeId ≠ noticeId →
            ∃ kept ∈ (before.step (plainPython fileDigests) event).db.attachments, kept.key = attachment.key ∧
              kept.noticeId = attachment.noticeId) ⟨[], emptyDb⟩ (oneFile ++ [sharedFile]) := by
  obtain ⟨harchived, hbefore, hafter⟩ := sharedFile_run
  intro h
  obtain ⟨hkept, -⟩ := ((along_append _ _ _).mp h).2
  have hrow : ((1, "c5b07ad45939488186e7d2a4e9fa6f8c2a13e25452094d450898aa6e5de1c2f2"), 1) ∈
      fileOwners oneFileContext.db := by
    rw [hbefore]
    exact List.mem_cons_self
  obtain ⟨attachment, hattachment, howner⟩ := List.mem_map.mp hrow
  obtain ⟨hkey, hnotice⟩ := Prod.mk.inj howner
  obtain ⟨kept, hmem, hkeptKey, hkeptNotice⟩ := hkept _ 2 harchived attachment hattachment (by omega)
  have hlost : (kept.key, kept.noticeId) ∈ fileOwners (oneFileContext.step (plainPython fileDigests) sharedFile).db :=
    List.mem_map_of_mem (f := fun row ↦ (row.key, row.noticeId)) hmem
  rw [hafter, List.mem_singleton, hkeptNotice, hnotice] at hlost
  cases (Prod.mk.inj hlost).2

end TenderPhase1.Crawler
