import TenderPhase1.Crawler.CurrentVersion

/-!
# Which calls touch notices and versions

Raw documents, errors, files and counters leave both tables alone. A notice or an
attachment changes the row of one notice and no version.
-/

namespace TenderPhase1.Crawler

open Jobs Raising

section Rules

variable {conn : Connection} {inv : CallState → Prop} {state : CallState}

theorem keeps_bind_raisePython {Value Result : Type} {result : Except PyError Value} {next : Value → Call Result}
    (hnext : ∀ value, result = .ok value → Keeps inv (next value)) : Keeps inv (raisePython result >>= next) := by
  cases result with
  | error error => exact keeps_throw _
  | ok value => exact hnext value rfl

theorem upholds_raisePython {Result : Type} {post : Result → CallState → Prop} {result : Except PyError Result}
    (hinv : inv state) (hpost : ∀ value, result = .ok value → post value state) :
    Upholds inv post (raisePython result) state :=
  (keeps_raisePython result).upholds (ensures_raisePython hpost) hinv

theorem upholds_update {change : Db → Db} {post : Unit → CallState → Prop}
    (hinv : inv { state with work := change state.work }) (hpost : post () { state with work := change state.work }) :
    Upholds inv post (update change) state :=
  upholds_pure hinv hpost

theorem upholds_flush {stage : Stage} {post : Unit → CallState → Prop} (hinv : inv state) (hpost : post () state) :
    Upholds inv post (flush conn stage) state :=
  (keeps_flush stage).upholds (ensures_flush fun _ ↦ hpost) hinv

theorem upholds_scalar {Row : Type} {table : Db → List Row} {filter : Row → Bool}
    {post : Option Row → CallState → Prop} (hinv : inv state)
    (hpost : post (conn.first filter (table state.work)) state) :
    Upholds inv post (scalar conn table filter) state :=
  (keeps_scalar table filter).upholds (ensures_scalar fun _ ↦ hpost) hinv

end Rules

section Records

variable {python : Python} {conn : Connection} {item : Item} {sourceSiteId : ℕ} {state : CallState}

/-- The notices and the versions as the call sees them. -/
def CallState.records (state : CallState) : List TenderNotice × List NoticeVersion :=
  (state.work.notices, state.work.versions)

theorem SourceFound.records_eq {id : ℕ} {after : CallState} (h : SourceFound python conn item state id after) :
    after.records = state.records :=
  Prod.ext h.notices_eq h.versions_eq

/-! ## Views of the tables -/

section View

variable {View : Type} {seen : View} (view : Db → View)

theorem keeps_view_update {change : Db → Db} (h : ∀ db, view (change db) = view db) :
    Keeps (fun state ↦ view state.work = seen) (update change) := by
  apply keeps_update
  intro state hseen
  exact (h state.work).trans hseen

theorem keeps_view_recordStats (hjobs : ∀ db jobs, view { db with jobs := jobs } = view db) (deltas : JobCounters) :
    Keeps (fun state ↦ view state.work = seen) (recordStats python conn item deltas) := by
  apply keeps_recordStats
  intro state jobs hseen
  exact (hjobs state.work jobs).trans hseen

/-- Looking up a source keeps what does not depend on the sources. -/
theorem keeps_view_itemSourceSiteId (hsources : ∀ db sources, view { db with sources := sources } = view db) :
    Keeps (fun state ↦ view state.work = seen) (itemSourceSiteId python conn item) := by
  apply keeps_bind (keeps_raisePython _)
  intro sourceUrl
  apply keeps_bind keeps_get
  intro state
  split
  · exact keeps_pure _
  · have hload : Keeps (fun state ↦ view state.work = seen)
        (loadSource conn item.writtenSourceCode item.sourceSiteName.asStr sourceUrl) := by
      apply keeps_bind (keeps_scalar _ _)
      intro found
      cases found with
      | some source => exact keeps_pure _
      | none =>
        apply keeps_bind keeps_get
        intro state
        refine keeps_bind (keeps_view_update view ?_) fun _ ↦ ?_
        · exact fun db ↦ hsources db _
        · exact keeps_bind (keeps_flush _) fun _ ↦ keeps_pure _
    apply keeps_bind hload
    intro id
    have hcache : Keeps (fun state ↦ view state.work = seen)
        (modify fun state ↦ { state with sourceCache := (item.writtenSourceCode, id) :: state.sourceCache } : Call Unit) :=
      fun _ hseen ↦ hseen
    exact keeps_bind hcache fun _ ↦ keeps_pure _

/-- A raw document changes no view that looks at other tables. -/
theorem keeps_view_storeRawDocument (hjobs : ∀ db jobs, view { db with jobs := jobs } = view db)
    (hdocuments : ∀ db documents, view { db with rawDocuments := documents } = view db) :
    Keeps (fun state ↦ view state.work = seen) (storeRawDocument python conn item sourceSiteId) := by
  unfold storeRawDocument
  split
  · exact keeps_pure false
  · apply keeps_bind (keeps_scalar _ _)
    intro existing
    apply keeps_bind keeps_duplicateContentId
    intro duplicateContentId
    have hput (urlHash : String) (isDuplicateContent : Bool) : Keeps (fun state ↦ view state.work = seen)
        (putRawDocument python conn item sourceSiteId urlHash existing isDuplicateContent) := by
      cases existing with
      | none => exact keeps_view_update view fun db ↦ hdocuments db _
      | some existing => exact keeps_view_update view fun db ↦ hdocuments db _
    apply keeps_bind (hput _ _)
    intro _
    exact keeps_bind (keeps_view_recordStats view hjobs _) fun _ ↦ keeps_pure true

theorem keeps_view_storeError (hjobs : ∀ db jobs, view { db with jobs := jobs } = view db)
    (herrors : ∀ db errors, view { db with errors := errors } = view db) :
    Keeps (fun state ↦ view state.work = seen) (storeError python conn item sourceSiteId) := by
  refine keeps_bind (keeps_view_update view ?_) fun _ ↦ ?_
  · exact fun db ↦ herrors db _
  · exact keeps_bind (keeps_view_recordStats view hjobs _) fun _ ↦ keeps_pure true

/-- Storing a file keeps what depends neither on the attachments nor on the jobs. -/
theorem keeps_view_storeFile {notice : TenderNotice} {urlHash fileUrl fileName : String}
    (hjobs : ∀ db jobs, view { db with jobs := jobs } = view db)
    (hattachments : ∀ db attachments, view { db with attachments := attachments } = view db) :
    Keeps (fun state ↦ view state.work = seen)
      (storeFile python conn item sourceSiteId notice urlHash fileUrl fileName) := by
  apply keeps_bind (keeps_scalar _ _)
  intro existing
  apply keeps_bind keeps_attachmentVersionId
  intro noticeVersionId
  apply keeps_bind (keeps_rawDocumentIdByHash _)
  intro rawDocumentId
  apply keeps_bind (keeps_raisePython _)
  intro fileExt
  apply keeps_bind (keeps_raisePython _)
  intro mimeType
  have hput (written : ℕ → TenderAttachment) :
      Keeps (fun state ↦ view state.work = seen) (putAttachment conn existing written) := by
    cases existing with
    | none => exact keeps_view_update view fun db ↦ hattachments db _
    | some existing => exact keeps_view_update view fun db ↦ hattachments db _
  apply keeps_bind (hput _)
  intro _
  exact keeps_bind (keeps_view_recordStats view hjobs _) fun _ ↦ keeps_pure true

theorem keeps_findNoticeByHighSimilarity {inv : CallState → Prop} :
    Keeps inv (findNoticeByHighSimilarity python conn sourceSiteId item) :=
  keeps_of_yields yields_findNoticeByHighSimilarity

/-- Resolving a notice keeps what does not depend on the notices. -/
theorem keeps_view_resolveNotice (hnotices : ∀ db notices, view { db with notices := notices } = view db) :
    Keeps (fun state ↦ view state.work = seen) (resolveNotice python conn item sourceSiteId) := by
  apply keeps_bind (keeps_of_yields (yields_firstNotice _))
  intro found
  cases found with
  | some notice => exact keeps_pure _
  | none =>
    apply keeps_bind keeps_findNoticeByHighSimilarity
    intro similar
    cases similar with
    | some notice => exact keeps_pure _
    | none =>
      dsimp only
      split
      · exact keeps_pure none
      · apply keeps_bind _ fun _ ↦ keeps_pure _
        apply keeps_bind keeps_get
        intro state
        refine keeps_bind (keeps_view_update view ?_) fun _ ↦ ?_
        · exact fun db ↦ hnotices db _
        · exact keeps_bind (keeps_flush _) fun _ ↦ keeps_pure _

theorem keeps_view_mergedNotice (hnotices : ∀ db notices, view { db with notices := notices } = view db) :
    Keeps (fun state ↦ view state.work = seen) (mergedNotice python conn item sourceSiteId) := by
  apply keeps_bind (keeps_view_resolveNotice view hnotices)
  intro found
  cases found with
  | none => exact keeps_pure none
  | some pair =>
    apply keeps_bind (keeps_raisePython _)
    intro merged
    refine keeps_bind (keeps_view_update view ?_) fun _ ↦ keeps_pure _
    exact fun db ↦ hnotices db _

theorem keeps_view_storeNotice (hjobs : ∀ db jobs, view { db with jobs := jobs } = view db)
    (hnotices : ∀ db notices, view { db with notices := notices } = view db) :
    Keeps (fun state ↦ view state.work = seen) (storeNotice python conn item sourceSiteId) := by
  apply keeps_bind keeps_suppressed
  intro suppressed
  cases suppressed with
  | true => exact keeps_bind (keeps_view_recordStats view hjobs _) fun _ ↦ keeps_pure true
  | false =>
    apply keeps_bind (keeps_view_mergedNotice view hnotices)
    intro found
    cases found with
    | none => exact keeps_pure false
    | some pair => exact keeps_bind (keeps_view_recordStats view hjobs _) fun _ ↦ keeps_pure true

theorem keeps_view_createVersion (hversions : ∀ db versions, view { db with versions := versions } = view db)
    (noticeId : ℕ) (versionNo : ℤ) :
    Keeps (fun state ↦ view state.work = seen) (createVersion python conn item noticeId versionNo) := by
  unfold createVersion
  split
  · apply keeps_bind keeps_get
    intro state
    refine keeps_bind (keeps_view_update view ?_) fun _ ↦ ?_
    · exact fun db ↦ hversions db _
    · exact keeps_bind (keeps_flush _) fun _ ↦ keeps_pure _
  · exact keeps_pure none

/-- Resolving a version keeps what does not depend on the versions. -/
theorem keeps_view_resolveNoticeVersion (hversions : ∀ db versions, view { db with versions := versions } = view db)
    (noticeId : ℕ) :
    Keeps (fun state ↦ view state.work = seen) (resolveNoticeVersion python conn item noticeId) := by
  have hnumber : Keeps (fun state ↦ view state.work = seen) (resolveVersionByNumber python conn item noticeId) := by
    apply keeps_bind (keeps_scalar _ _)
    intro found
    cases found with
    | none => exact keeps_view_createVersion view hversions noticeId _
    | some version =>
      dsimp only
      split
      · exact keeps_pure _
      · apply keeps_bind (keeps_flush _)
        intro _
        apply keeps_bind keeps_get
        exact fun state ↦ keeps_view_createVersion view hversions noticeId _
  unfold resolveNoticeVersion
  split
  · exact hnumber
  · apply keeps_bind (keeps_scalar _ _)
    intro found
    cases found with
    | some version => exact keeps_pure _
    | none => exact hnumber

/-- Storing a version keeps what does not depend on its notice, the versions and the jobs. -/
theorem keeps_view_storeFoundVersion {notice : TenderNotice} {found : NoticeVersion} {created : Bool}
    (hjobs : ∀ db jobs, view { db with jobs := jobs } = view db)
    (hnotices : ∀ db notices, view { db with notices := notices } = view db)
    (hversions : ∀ db versions, view { db with versions := versions } = view db) :
    Keeps (fun state ↦ view state.work = seen)
      (storeFoundVersion python conn item sourceSiteId notice found created) := by
  apply keeps_bind (keeps_rawDocumentIdByHash _)
  intro rawDocumentId
  refine keeps_bind (keeps_view_update view fun db ↦ hversions db _) fun _ ↦ ?_
  apply keeps_bind (keeps_flush _)
  intro _
  have hpromote (version : NoticeVersion) :
      Keeps (fun state ↦ view state.work = seen) (promoteCurrent version notice) := by
    unfold promoteCurrent
    split
    · apply keeps_view_update view
      intro db
      have hrows := hnotices { db with versions := (version.promote notice db).versions } (version.promote notice db).notices
      exact hrows.trans (hversions db _)
    · exact keeps_pure ()
  apply keeps_bind (hpromote _)
  intro _
  apply keeps_bind (keeps_raisePython _)
  intro widened
  refine keeps_bind (keeps_view_update view fun db ↦ hnotices db _) fun _ ↦ ?_
  exact keeps_bind (keeps_view_recordStats view hjobs _) fun _ ↦ keeps_pure true

theorem keeps_view_storeNoticeVersion (hjobs : ∀ db jobs, view { db with jobs := jobs } = view db)
    (hnotices : ∀ db notices, view { db with notices := notices } = view db)
    (hversions : ∀ db versions, view { db with versions := versions } = view db) :
    Keeps (fun state ↦ view state.work = seen) (storeNoticeVersion python conn item sourceSiteId) := by
  apply keeps_bind (keeps_view_mergedNotice view hnotices)
  intro merged
  cases merged with
  | none => exact keeps_pure false
  | some pair =>
    apply keeps_bind (keeps_view_resolveNoticeVersion view hversions _)
    intro found
    cases found with
    | none => exact keeps_pure false
    | some version => exact keeps_view_storeFoundVersion view hjobs hnotices hversions

theorem keeps_view_storeAttachment (hjobs : ∀ db jobs, view { db with jobs := jobs } = view db)
    (hnotices : ∀ db notices, view { db with notices := notices } = view db)
    (hattachments : ∀ db attachments, view { db with attachments := attachments } = view db) :
    Keeps (fun state ↦ view state.work = seen) (storeAttachment python conn item sourceSiteId) := by
  apply keeps_bind (keeps_view_mergedNotice view hnotices)
  intro merged
  cases merged with
  | none => exact keeps_pure false
  | some pair =>
    apply keeps_bind (keeps_raisePython _)
    intro file
    cases file with
    | none => exact keeps_pure true
    | some file => exact keeps_view_storeFile view hjobs hattachments

end View

/-! ## Neither table -/

section Kept

variable {seen : List TenderNotice × List NoticeVersion}

def Db.records (db : Db) : List TenderNotice × List NoticeVersion := (db.notices, db.versions)

theorem keeps_records_recordStats (deltas : JobCounters) :
    Keeps (fun state ↦ state.records = seen) (recordStats python conn item deltas) :=
  keeps_view_recordStats Db.records (fun _ _ ↦ rfl) deltas

theorem keeps_records_itemSourceSiteId :
    Keeps (fun state ↦ state.records = seen) (itemSourceSiteId python conn item) :=
  keeps_view_itemSourceSiteId Db.records fun _ _ ↦ rfl

theorem keeps_records_storeRawDocument :
    Keeps (fun state ↦ state.records = seen) (storeRawDocument python conn item sourceSiteId) :=
  keeps_view_storeRawDocument Db.records (fun _ _ ↦ rfl) fun _ _ ↦ rfl

theorem keeps_records_storeError :
    Keeps (fun state ↦ state.records = seen) (storeError python conn item sourceSiteId) :=
  keeps_view_storeError Db.records (fun _ _ ↦ rfl) fun _ _ ↦ rfl

theorem keeps_records_storeFile {notice : TenderNotice} {urlHash fileUrl fileName : String} :
    Keeps (fun state ↦ state.records = seen)
      (storeFile python conn item sourceSiteId notice urlHash fileUrl fileName) :=
  keeps_view_storeFile Db.records (fun _ _ ↦ rfl) fun _ _ ↦ rfl

end Kept

/-! ## The versions -/

section Versions

variable {seen : List NoticeVersion}

theorem keeps_versions_update {change : Db → Db} (h : ∀ db, (change db).versions = db.versions) :
    Keeps (fun state ↦ state.work.versions = seen) (update change) :=
  keeps_view_update Db.versions h

theorem keeps_versions_mergedNotice :
    Keeps (fun state ↦ state.work.versions = seen) (mergedNotice python conn item sourceSiteId) :=
  keeps_view_mergedNotice Db.versions fun _ _ ↦ rfl

/-- A program that touches neither table leaves the versions alone. -/
theorem keeps_versions_of_records {Result : Type} {program : Call Result}
    (h : ∀ records, Keeps (fun state ↦ state.records = records) program) :
    Keeps (fun state ↦ state.work.versions = seen) program :=
  keeps_of_view h fun records ↦ records.2 = seen

theorem keeps_versions_storeNotice :
    Keeps (fun state ↦ state.work.versions = seen) (storeNotice python conn item sourceSiteId) :=
  keeps_view_storeNotice Db.versions (fun _ _ ↦ rfl) fun _ _ ↦ rfl

theorem keeps_versions_storeAttachment :
    Keeps (fun state ↦ state.work.versions = seen) (storeAttachment python conn item sourceSiteId) :=
  keeps_view_storeAttachment Db.versions (fun _ _ ↦ rfl) (fun _ _ ↦ rfl) fun _ _ ↦ rfl

end Versions

/-! ## The notice of a call -/

/-- A notice or an attachment that is stored leaves the tables as they were, or as the merge has them. -/
inductive RecordsMerged (python : Python) (conn : Connection) (item : Item) (sourceSiteId : ℕ) (state : CallState) :
    CallState → Prop where
  | kept {after : CallState} (h : after.records = state.records) :
      RecordsMerged python conn item sourceSiteId state after
  | merged {pair : TenderNotice × Bool} {middle after : CallState}
      (hmerged : Merged python conn item sourceSiteId state (some pair) middle) (h : after.records = middle.records) :
      RecordsMerged python conn item sourceSiteId state after

/-- A notice call changes records by its merge only. -/
theorem ensures_recordsMerged_storeNotice :
    Ensures (fun _ after ↦ RecordsMerged python conn item sourceSiteId state after)
      (storeNotice python conn item sourceSiteId) state := by
  apply ensures_bind
  refine ensures_of_reads (fun _ ↦ keeps_suppressed) ?_
  intro suppressed
  cases suppressed with
  | true =>
    apply ensures_bind
    apply ensures_recordStats
    intro jobs
    exact ensures_pure (.kept rfl)
  | false =>
    apply ensures_bind
    refine ensures_mono ensures_mergedNotice ?_
    intro found middle hmerged
    cases found with
    | none =>
      cases hmerged with
      | missing _ => exact ensures_pure (.kept rfl)
    | some pair =>
      apply ensures_bind
      apply ensures_recordStats
      intro jobs
      exact ensures_pure (.merged hmerged rfl)

/-- So does an attachment call. -/
theorem ensures_recordsMerged_storeAttachment :
    Ensures (fun _ after ↦ RecordsMerged python conn item sourceSiteId state after)
      (storeAttachment python conn item sourceSiteId) state := by
  apply ensures_bind
  refine ensures_mono ensures_mergedNotice ?_
  intro found middle hmerged
  cases found with
  | none =>
    cases hmerged with
    | missing _ => exact ensures_pure (.kept rfl)
  | some pair =>
    apply ensures_bind
    apply ensures_raisePython
    intro file _
    cases file with
    | none => exact ensures_pure (.merged hmerged rfl)
    | some file =>
      intro reached _
      have hkept : Keeps (fun last ↦ last.records = middle.records)
          (storeFile python conn item sourceSiteId pair.1 file.1 file.2.1 file.2.2) := keeps_records_storeFile
      exact .merged hmerged (hkept middle rfl)

/-- Every call but that of a version leaves the tables as they were or merges an item into a notice. -/
theorem ensures_recordsMerged {call : WriterCall} (hcall : ∀ original, call ≠ .noticeVersion original) :
    Ensures (fun _ after ↦ RecordsMerged python conn item sourceSiteId state after)
      (call.store python conn item sourceSiteId) state := by
  cases call with
  | rawDocument _ =>
    intro reached _
    have hkept : Keeps (fun last ↦ last.records = state.records) (storeRawDocument python conn item sourceSiteId) :=
      keeps_records_storeRawDocument
    exact .kept (hkept state rfl)
  | notice _ => exact ensures_recordsMerged_storeNotice
  | noticeVersion original => exact absurd rfl (hcall original)
  | attachment _ => exact ensures_recordsMerged_storeAttachment
  | error _ =>
    intro reached _
    have hkept : Keeps (fun last ↦ last.records = state.records) (storeError python conn item sourceSiteId) :=
      keeps_records_storeError
    exact .kept (hkept state rfl)

end Records

/-! ## Calls that fail -/

/-- The call fails on the constraint: it ends with an IntegrityError over rows that break it. -/
def FailsOn (python : Python) (constraint : Db → Prop) (context : Context) (event : Connection × WriterCall) : Prop :=
  Ends (fun outcome after ↦ outcome = .error .integrityError ∧ ¬ constraint after.work)
    (event.2.program python event.1) context.opened

section Fails

variable {python : Python} {conn : Connection} {call : WriterCall} {context : Context} {inv : CallState → Prop}
  {constraint : Db → Prop}

/-- What the parts of a call keep holds wherever the call ends. -/
theorem ends_program_of_store (hopened : inv context.opened)
    (hsource : ∀ item, Keeps inv (itemSourceSiteId python conn item)) (hcommit : Keeps inv (commit conn))
    (hstore : ∀ item found, call.normalized python = .ok item →
      SourceFound python conn item context.opened (context.sourceIdOf conn item) found → inv found →
      Ends (fun _ after ↦ inv after) (call.store python conn item (context.sourceIdOf conn item)) found) :
    Ends (fun _ after ↦ inv after) (call.program python conn) context.opened := by
  rw [call.program_eq, ends_bind, ends_raisePython]
  cases hitem : call.normalized python with
  | error error => exact hopened
  | ok item =>
    dsimp only
    unfold inSession
    rw [ends_bind]
    apply ends_mono (ends_and (hsource item context.opened hopened) (ends_and ends_itemSourceSiteId ensures_sourceIdOf))
    rintro outcome found ⟨hinv, hfound, hid⟩
    cases outcome with
    | error error => exact hinv
    | ok id =>
      obtain rfl := hid id rfl
      dsimp only
      rw [ends_bind]
      apply ends_mono (hstore item found hitem hfound hinv)
      intro stored last hlast
      cases stored with
      | error error => exact hlast
      | ok reached =>
        cases reached with
        | false => exact hlast
        | true => exact hcommit last hlast

/-- A call over whose rows the constraint holds in the end does not fail on it. -/
theorem not_failsOn_of_ends (h : Ends (fun _ after ↦ constraint after.work) (call.program python conn) context.opened) :
    ¬ FailsOn python constraint context (conn, call) :=
  fun hfails ↦ hfails.2 h

end Fails

end TenderPhase1.Crawler
