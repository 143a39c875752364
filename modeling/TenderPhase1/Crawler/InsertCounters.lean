import TenderPhase1.Crawler.AttachmentMerge
import TenderPhase1.Crawler.LinkedVersion

/-!
# What a job counts and what its writers insert

Every writer counts the row it is named after and commits the counter with the row. The
notice that a version or an attachment makes on its way is inserted and not counted. This
module keeps the account of a job against the tables along a call and along a run.
-/

namespace TenderPhase1.Crawler

open Jobs Raising Transition

/-! ## The account of a job -/

/-- The rows that the writers insert and count as records. -/
def Db.recordRows (db : Db) : ℕ :=
  db.rawDocuments.length + db.notices.length + db.versions.length + db.attachments.length

def Db.errorRows (jobId : ℕ) (db : Db) : ℕ := db.errors.countP (·.crawlJobId = some (jobId : ℤ))

/-- The counters of the job run ahead of the tables by `records` and `errors`. -/
structure Balance (jobId : ℕ) (records errors : ℤ) (db : Db) : Prop where
  keys : (db.jobs.map CrawlJob.id).Nodup
  account : ∃ job ∈ db.jobs, job.id = jobId ∧ job.counters.recordsInserted = db.recordRows + records ∧
    job.counters.errorCount = db.errorRows jobId + errors

/-- The jobs and the sizes of the tables, which decide the account. -/
def Db.accountView (jobId : ℕ) (db : Db) : List CrawlJob × ℕ × ℕ := (db.jobs, db.recordRows, db.errorRows jobId)

section Account

variable {jobId : ℕ} {records errors : ℤ} {db after : Db}

theorem Balance.of_view (h : Balance jobId records errors db)
    (hview : after.accountView jobId = db.accountView jobId) : Balance jobId records errors after := by
  simp only [Db.accountView, Prod.mk.injEq] at hview
  obtain ⟨hjobs, hrecords, herrors⟩ := hview
  refine ⟨?_, ?_⟩
  · rw [hjobs]
    exact h.keys
  · rw [hjobs, hrecords, herrors]
    exact h.account

/-- A row that is inserted and not counted puts the account behind. -/
theorem Balance.inserted (h : Balance jobId records errors db) (hjobs : after.jobs = db.jobs)
    (hrows : after.recordRows = db.recordRows + 1) (herrors : after.errorRows jobId = db.errorRows jobId) :
    Balance jobId (records - 1) errors after := by
  obtain ⟨job, hjob, hid, hrecords, herrorCount⟩ := h.account
  refine ⟨?_, job, ?_, hid, ?_, ?_⟩
  · rw [hjobs]
    exact h.keys
  · rw [hjobs]
    exact hjob
  · omega
  · omega

/-- So does an error of the job. -/
theorem Balance.insertedError (h : Balance jobId records errors db) (hjobs : after.jobs = db.jobs)
    (hrows : after.recordRows = db.recordRows) (herrors : after.errorRows jobId = db.errorRows jobId + 1) :
    Balance jobId records (errors - 1) after := by
  obtain ⟨job, hjob, hid, hrecords, herrorCount⟩ := h.account
  refine ⟨?_, job, ?_, hid, ?_, ?_⟩
  · rw [hjobs]
    exact h.keys
  · rw [hjobs]
    exact hjob
  · omega
  · omega

/-- Counting brings it forward. -/
theorem Balance.count (h : Balance jobId records errors db) {job : CrawlJob} (hjob : job ∈ db.jobs)
    (hid : job.id = jobId) (deltas : JobCounters) :
    Balance jobId (records + deltas.recordsInserted) (errors + deltas.errorCount)
      { db with jobs := putRow CrawlJob.id { job with counters := job.counters.add deltas } db.jobs } := by
  obtain ⟨found, hfound, hfoundId, hrecords, herrorCount⟩ := h.account
  obtain rfl : found = job := List.inj_on_of_nodup_map h.keys hfound hjob (hfoundId.trans hid.symm)
  refine ⟨?_, { found with counters := found.counters.add deltas }, ?_, hid, ?_, ?_⟩
  · rw [map_id_putRow]
    exact h.keys
  · exact mem_putRow hjob rfl
  · change found.counters.recordsInserted + deltas.recordsInserted = (db.recordRows : ℤ) + _
    omega
  · change found.counters.errorCount + deltas.errorCount = (db.errorRows jobId : ℤ) + _
    omega

end Account

/-! ## Programs -/

section Programs

variable {python : Python} {conn : Connection} {item : Item} {sourceSiteId jobId : ℕ} {records errors : ℤ}
  {state : CallState}

theorem keeps_balance_update {change : Db → Db}
    (h : ∀ db, (change db).accountView jobId = db.accountView jobId) :
    Keeps (fun state ↦ Balance jobId records errors state.work) (update change) := by
  apply keeps_update
  intro state hbalance
  exact hbalance.of_view (h _)

theorem accountView_putNotice (notice : TenderNotice) (db : Db) :
    { db with notices := putRow TenderNotice.id notice db.notices }.accountView jobId = db.accountView jobId := by
  simp [Db.accountView, Db.recordRows, Db.errorRows, putRow]

theorem accountView_putVersion (version : NoticeVersion) (db : Db) :
    { db with versions := putRow NoticeVersion.id version db.versions }.accountView jobId = db.accountView jobId := by
  simp [Db.accountView, Db.recordRows, Db.errorRows, putRow]

theorem accountView_promote (version : NoticeVersion) (notice : TenderNotice) (db : Db) :
    (version.promote notice db).accountView jobId = db.accountView jobId := by
  simp [NoticeVersion.promote, Db.accountView, Db.recordRows, Db.errorRows, putRow]

/-- The job of the item is counted. -/
theorem ensures_recordStats_balance (hitem : item.crawlJobId.asInt python = some (jobId : ℤ)) {deltas : JobCounters}
    (h : Balance jobId records errors state.work) :
    Ensures (fun _ after ↦ Balance jobId (records + deltas.recordsInserted) (errors + deltas.errorCount) after.work)
      (recordStats python conn item deltas) state := by
  unfold recordStats
  rw [hitem]
  dsimp only
  apply ensures_bind
  apply ensures_scalar
  intro _
  cases hfound : (conn.answer (state.work.jobs.filter fun job ↦ (job.id : ℤ) = jobId)).head? with
  | none =>
    obtain ⟨job, hjob, hid, -⟩ := h.account
    have hmissing := filter_eq_false_of_head?_answer hfound job hjob
    rw [hid] at hmissing
    simp at hmissing
  | some job =>
    obtain ⟨hjob, hid⟩ := mem_of_head?_answer hfound
    have hjobId : job.id = jobId := Int.ofNat_inj.mp (of_decide_eq_true hid)
    dsimp only
    cases hcounted : recordStatsInSession job deltas with
    | error error => exact ensures_throw _
    | ok counted =>
      obtain rfl := recordStatsInSession_eq_ok hcounted
      exact ensures_update (h.count hjob hjobId deltas)

/-- Counting comes last before the commit. -/
theorem ensures_counted_balance (hitem : item.crawlJobId.asInt python = some (jobId : ℤ)) {deltas : JobCounters}
    (h : Balance jobId records errors state.work) :
    Ensures (fun _ after ↦ Balance jobId (records + deltas.recordsInserted) (errors + deltas.errorCount) after.work)
      (do recordStats python conn item deltas; return true) state := by
  apply ensures_bind
  refine ensures_mono (ensures_recordStats_balance hitem h) ?_
  intro _ after hbalance
  exact ensures_pure hbalance

/-- A part of a program that keeps the account. -/
theorem ensures_bind_keeps {Value Result : Type} {first : Call Value} {next : Value → Call Result}
    {post : Result → CallState → Prop}
    (hkeeps : Keeps (fun state ↦ Balance jobId records errors state.work) first)
    (h : Balance jobId records errors state.work)
    (hnext : ∀ value after, Balance jobId records errors after.work → Ensures post (next value) after) :
    Ensures post (first >>= next) state := by
  apply ensures_bind
  intro value _
  exact hnext value _ (hkeeps state h)

theorem sub_count_false (records : ℤ) : records - count false = records := Int.sub_zero records

/-! ### Raw documents and errors -/

theorem ensures_putRawDocument_balance {urlHash : String} {existing : Option RawDocument} {isDuplicateContent : Bool}
    (h : Balance jobId records errors state.work) :
    Ensures (fun _ after ↦ Balance jobId (records - count existing.isNone) errors after.work)
      (putRawDocument python conn item sourceSiteId urlHash existing isDuplicateContent) state := by
  unfold putRawDocument
  split
  · refine ensures_update (h.inserted rfl ?_ rfl)
    simp only [Db.recordRows, List.length_append, List.length_singleton]
    omega
  · rw [Option.isNone_some, sub_count_false]
    refine ensures_update (h.of_view ?_)
    simp [Db.accountView, Db.recordRows, Db.errorRows, putRow]

theorem errorCount_pageDeltas : (item.pageDeltas python).errorCount = 0 := by
  unfold Item.pageDeltas
  split
  · rfl
  · dsimp only
    split
    · rfl
    · split <;> rfl

/-- A stored document keeps the balance of rows and counters. -/
theorem ensures_storeRawDocument_balance (hitem : item.crawlJobId.asInt python = some (jobId : ℤ))
    (h : Balance jobId records errors state.work) :
    Ensures (fun _ after ↦ Balance jobId records errors after.work) (storeRawDocument python conn item sourceSiteId) state := by
  unfold storeRawDocument
  split
  · exact ensures_pure h
  · unfold storeRawDocumentAt
    refine ensures_bind_keeps (keeps_scalar _ _) h ?_
    intro existing found hfound
    refine ensures_bind_keeps keeps_duplicateContentId hfound ?_
    intro duplicateContentId looked hlooked
    apply ensures_bind
    refine ensures_mono (ensures_putRawDocument_balance hlooked) ?_
    intro _ after hafter
    refine ensures_mono (ensures_counted_balance hitem hafter) ?_
    intro _ last hlast
    simpa only [errorCount_pageDeltas, Int.sub_add_cancel, Int.add_zero] using hlast

theorem ensures_storeError_balance (hitem : item.crawlJobId.asInt python = some (jobId : ℤ))
    (h : Balance jobId records errors state.work) :
    Ensures (fun _ after ↦ Balance jobId records errors after.work) (storeError python conn item sourceSiteId) state := by
  apply ensures_bind
  have hinserted : Balance jobId records (errors - 1) { state.work with
      errors := state.work.errors ++
        [item.crawlError python conn (conn.nextId (state.work.errors.map CrawlError.id)) sourceSiteId] } := by
    refine h.insertedError rfl rfl ?_
    simp only [Db.errorRows, List.countP_append]
    rw [List.countP_singleton]
    simp [Item.crawlError, hitem]
  apply ensures_update
  refine ensures_mono (ensures_counted_balance hitem hinserted) ?_
  intro _ after hafter
  simpa only [Int.sub_add_cancel, Int.add_zero] using hafter

/-! ### Notices -/

/-- The notice that an item creates puts the account behind. -/
theorem Resolved.balance {notice : TenderNotice} {created : Bool} {after : CallState}
    (hresolved : Resolved python conn item sourceSiteId state (some (notice, created)) after)
    (h : Balance jobId records errors state.work) : Balance jobId (records - count created) errors after.work := by
  cases hresolved with
  | found _ _ _ _ =>
    rw [sub_count_false]
    exact h
  | created _ _ _ =>
    refine h.inserted rfl ?_ rfl
    simp only [Db.recordRows, List.length_append, List.length_singleton]
    omega

theorem Merged.balance {merged : TenderNotice} {created : Bool} {after : CallState}
    (hmerged : Merged python conn item sourceSiteId state (some (merged, created)) after)
    (h : Balance jobId records errors state.work) : Balance jobId (records - count created) errors after.work := by
  cases hmerged with
  | merged hresolved _ => exact (hresolved.balance h).of_view (accountView_putNotice _ _)

/-- A notice that is created is counted, any other one is not. -/
theorem ensures_storeNotice_balance (hitem : item.crawlJobId.asInt python = some (jobId : ℤ))
    (h : Balance jobId records errors state.work) :
    Ensures (fun _ after ↦ Balance jobId records errors after.work) (storeNotice python conn item sourceSiteId) state := by
  refine ensures_bind_keeps keeps_suppressed h ?_
  intro suppressed found hfound
  cases suppressed with
  | true =>
    refine ensures_mono (ensures_counted_balance hitem hfound) ?_
    intro _ after hafter
    simpa only [Int.add_zero] using hafter
  | false =>
    apply ensures_bind
    refine ensures_mono ensures_mergedNotice ?_
    intro merging after hmerged
    cases merging with
    | none =>
      cases hmerged with
      | missing _ => exact ensures_pure hfound
    | some pair =>
      refine ensures_mono (ensures_counted_balance hitem (hmerged.balance hfound)) ?_
      intro _ last hlast
      simpa only [Int.sub_add_cancel, Int.add_zero] using hlast

/-! ### Versions -/

theorem ResolvedVersion.balance {noticeId : ℕ} {version : NoticeVersion} {created : Bool} {after : CallState}
    (hresolved : ResolvedVersion python conn item noticeId state (some (version, created)) after)
    (h : Balance jobId records errors state.work) : Balance jobId (records - count created) errors after.work := by
  cases hresolved with
  | found _ _ _ _ _ =>
    rw [sub_count_false]
    exact h
  | created _ _ _ _ =>
    refine h.inserted rfl ?_ rfl
    simp only [Db.recordRows, List.length_append, List.length_singleton]
    omega

/-- A version is counted once its number is settled. -/
theorem ensures_storeFoundVersion_balance {notice : TenderNotice} {found : NoticeVersion} {created : Bool}
    (hitem : item.crawlJobId.asInt python = some (jobId : ℤ)) (h : Balance jobId (records - count created) errors state.work) :
    Ensures (fun _ after ↦ Balance jobId records errors after.work)
      (storeFoundVersion python conn item sourceSiteId notice found created) state := by
  refine ensures_bind_keeps (keeps_rawDocumentIdByHash _) h ?_
  intro rawDocumentId looked hlooked
  refine ensures_bind_keeps (keeps_balance_update (accountView_putVersion _)) hlooked ?_
  intro _ put hput
  refine ensures_bind_keeps (keeps_flush _) hput ?_
  intro _ flushed hflushed
  have hpromote (version : NoticeVersion) :
      Keeps (fun state ↦ Balance jobId (records - count created) errors state.work) (promoteCurrent version notice) := by
    unfold promoteCurrent
    split
    · exact keeps_balance_update (accountView_promote _ _)
    · exact keeps_pure ()
  refine ensures_bind_keeps (hpromote _) hflushed ?_
  intro _ promoted hpromoted
  refine ensures_bind_keeps (keeps_raisePython _) hpromoted ?_
  intro widened raised hraised
  refine ensures_bind_keeps (keeps_balance_update (accountView_putNotice _)) hraised ?_
  intro _ last hlast
  refine ensures_mono (ensures_counted_balance hitem hlast) ?_
  intro _ counted hcounted
  simpa only [Int.sub_add_cancel, Int.add_zero] using hcounted

/-! ### Attachments -/

theorem ensures_putAttachment_balance {existing : Option TenderAttachment} {written : ℕ → TenderAttachment}
    (h : Balance jobId records errors state.work) :
    Ensures (fun _ after ↦ Balance jobId (records - count existing.isNone) errors after.work)
      (putAttachment conn existing written) state := by
  unfold putAttachment
  split
  · refine ensures_update (h.inserted rfl ?_ rfl)
    simp only [Db.recordRows, List.length_append, List.length_singleton]
    omega
  · rw [Option.isNone_some, sub_count_false]
    refine ensures_update (h.of_view ?_)
    simp [Db.accountView, Db.recordRows, Db.errorRows, putRow]

/-- A file is counted where its row is new. -/
theorem ensures_storeFile_balance {notice : TenderNotice} {urlHash fileUrl fileName : String}
    (hitem : item.crawlJobId.asInt python = some (jobId : ℤ)) (h : Balance jobId records errors state.work) :
    Ensures (fun _ after ↦ Balance jobId records errors after.work)
      (storeFile python conn item sourceSiteId notice urlHash fileUrl fileName) state := by
  refine ensures_bind_keeps (keeps_scalar _ _) h ?_
  intro existing found hfound
  refine ensures_bind_keeps keeps_attachmentVersionId hfound ?_
  intro noticeVersionId linked hlinked
  refine ensures_bind_keeps (keeps_rawDocumentIdByHash _) hlinked ?_
  intro rawDocumentId looked hlooked
  refine ensures_bind_keeps (keeps_raisePython _) hlooked ?_
  intro fileExt parsed hparsed
  refine ensures_bind_keeps (keeps_raisePython _) hparsed ?_
  intro mimeType raised hraised
  apply ensures_bind
  refine ensures_mono (ensures_putAttachment_balance hraised) ?_
  intro _ put hput
  refine ensures_mono (ensures_counted_balance hitem hput) ?_
  intro _ counted hcounted
  simpa only [Int.sub_add_cancel, Int.add_zero] using hcounted

/-! ### Calls -/

/-- The item's notice is not stored, and the item has the title that a new one needs. -/
def Item.MakesNotice (python : Python) (conn : Connection) (sourceSiteId : ℕ) (notices : List TenderNotice)
    (item : Item) : Prop :=
  item.noticeIn python conn sourceSiteId notices = .ok none ∧ item.title.asStr ≠ none

/-- The call makes a notice on its way to the row it is named after. -/
def WriterCall.MakesNoticeOnWay (python : Python) (conn : Connection) (sourceSiteId : ℕ) (notices : List TenderNotice)
    (item : Item) : WriterCall → Prop
  | .noticeVersion _ => item.MakesNotice python conn sourceSiteId notices ∧ item.contentHash.asStr ≠ none
  | .attachment _ => item.MakesNotice python conn sourceSiteId notices
  | .rawDocument _ | .notice _ | .error _ => False

/-- A merge that creates its notice is one of an item that makes a notice. -/
theorem Merged.makesNotice {merged : TenderNotice} {created : Bool} {after : CallState}
    (hmerged : Merged python conn item sourceSiteId state (some (merged, created)) after)
    (hmergedIn : if created then item.noticeIn python conn sourceSiteId state.work.notices = .ok none
      else ∃ notice, item.noticeIn python conn sourceSiteId state.work.notices = .ok (some notice) ∧
        notice.applyFields python item = .ok merged) (hcreated : created = true) :
    item.MakesNotice python conn sourceSiteId state.work.notices := by
  rw [if_pos hcreated] at hmergedIn
  subst hcreated
  refine ⟨hmergedIn, ?_⟩
  cases hmerged with
  | merged hresolved _ =>
    cases hresolved with
    | created htitle _ _ =>
      rw [htitle]
      exact Option.some_ne_none _

/-- A version is found under the id of its notice, so a new notice has none. -/
theorem ResolvedVersion.not_found_of_fresh {noticeId : ℕ} {version : NoticeVersion} {after : CallState}
    (hresolved : ResolvedVersion python conn item noticeId state (some (version, false)) after)
    (hfresh : ∀ other ∈ state.work.versions, other.noticeId ≠ noticeId) : False := by
  cases hresolved with
  | found hmem _ hnotice _ _ => exact hfresh version hmem hnotice

/-- A version item keeps the balance unless it makes a notice that nobody counts. -/
theorem ensures_storeNoticeVersion_balance (hitem : item.crawlJobId.asInt python = some (jobId : ℤ))
    (h : Balance jobId records errors state.work) (howned : state.work.VersionsOwned)
    (hlisted : ¬ (item.MakesNotice python conn sourceSiteId state.work.notices ∧ item.contentHash.asStr ≠ none)) :
    Ensures (fun reached after ↦ reached = true → Balance jobId records errors after.work)
      (storeNoticeVersion python conn item sourceSiteId) state := by
  apply ensures_bind
  refine ensures_mono (ensures_and ensures_mergedNotice ensures_mergedIn) ?_
  rintro merging middle ⟨hmerged, hmergedIn⟩
  cases merging with
  | none => exact ensures_pure fun hreached ↦ (nomatch hreached)
  | some pair =>
    obtain ⟨merged, created⟩ := pair
    apply ensures_bind
    refine ensures_mono ensures_resolveNoticeVersion ?_
    intro resolution resolved hresolved
    cases resolution with
    | none => exact ensures_pure fun hreached ↦ (nomatch hreached)
    | some pair =>
      obtain ⟨found, versionCreated⟩ := pair
      cases created with
      | false =>
        have hmiddle := hmerged.balance h
        rw [sub_count_false] at hmiddle
        have hbalance : Balance jobId (records - count versionCreated) errors resolved.work :=
          hresolved.balance hmiddle
        refine ensures_mono (ensures_storeFoundVersion_balance hitem hbalance) ?_
        intro _ after hafter _
        exact hafter
      | true =>
        -- the new notice has no version, and without content the item makes none
        have hcontent : item.contentHash.asStr = none := by
          by_contra hcontent
          exact hlisted ⟨hmerged.makesNotice (hmergedIn merged true rfl) rfl, hcontent⟩
        exfalso
        cases versionCreated with
        | false =>
          apply hresolved.not_found_of_fresh
          rw [hmerged.marks_eq.2.1]
          intro other hother heq
          obtain ⟨notice, hnotice, hid⟩ := howned other hother
          exact hmerged.created_id notice hnotice (hid.trans heq)
        | true =>
          cases hresolved with
          | created _ hcontentHash _ _ =>
            rw [hcontent] at hcontentHash
            cases hcontentHash

/-- So does an attachment item. -/
theorem ensures_storeAttachment_balance (hitem : item.crawlJobId.asInt python = some (jobId : ℤ))
    (h : Balance jobId records errors state.work) (hlisted : ¬ item.MakesNotice python conn sourceSiteId state.work.notices) :
    Ensures (fun reached after ↦ reached = true → Balance jobId records errors after.work)
      (storeAttachment python conn item sourceSiteId) state := by
  apply ensures_bind
  refine ensures_mono (ensures_and ensures_mergedNotice ensures_mergedIn) ?_
  rintro merging middle ⟨hmerged, hmergedIn⟩
  cases merging with
  | none => exact ensures_pure fun hreached ↦ (nomatch hreached)
  | some pair =>
    obtain ⟨merged, created⟩ := pair
    have hbalance : Balance jobId records errors middle.work := by
      cases created with
      | false =>
        have hmiddle := hmerged.balance h
        rw [sub_count_false] at hmiddle
        exact hmiddle
      | true => exact absurd (hmerged.makesNotice (hmergedIn merged true rfl) rfl) hlisted
    refine ensures_bind_keeps (keeps_raisePython _) hbalance ?_
    intro file raised hraised
    cases file with
    | none => exact ensures_pure fun _ ↦ hraised
    | some file =>
      refine ensures_mono (ensures_storeFile_balance hitem hraised) ?_
      intro _ after hafter _
      exact hafter

/-- A call that makes no notice on its way keeps the account where it comes to its commit. -/
theorem ensures_store_balance {call : WriterCall} (hitem : item.crawlJobId.asInt python = some (jobId : ℤ))
    (h : Balance jobId records errors state.work) (howned : state.work.VersionsOwned)
    (hlisted : ¬ call.MakesNoticeOnWay python conn sourceSiteId state.work.notices item) :
    Ensures (fun reached after ↦ reached = true → Balance jobId records errors after.work)
      (call.store python conn item sourceSiteId) state := by
  cases call with
  | rawDocument _ => exact ensures_mono (ensures_storeRawDocument_balance hitem h) fun _ _ hafter _ ↦ hafter
  | notice _ => exact ensures_mono (ensures_storeNotice_balance hitem h) fun _ _ hafter _ ↦ hafter
  | noticeVersion _ => exact ensures_storeNoticeVersion_balance hitem h howned hlisted
  | attachment _ => exact ensures_storeAttachment_balance hitem h hlisted
  | error _ => exact ensures_mono (ensures_storeError_balance hitem h) fun _ _ hafter _ ↦ hafter

end Programs

/-! ## Runs -/

/-- The call commits a notice that it makes on its way to another row. -/
def CommitsNoticeOnWay (python : Python) (context : Context) (event : Connection × WriterCall) : Prop :=
  ¬ Raises python context event.1 event.2 ∧
    ∃ item, event.2.normalized python = .ok item ∧
      event.2.MakesNoticeOnWay python event.1 (context.sourceIdOf event.1 item) context.db.notices item

section Runs

variable {python : Python} {conn : Connection} {context : Context} {call : WriterCall} {item : Item} {jobId : ℕ}
  {records errors : ℤ}

theorem normalizeNoticeItem_crawlJobId {original : Item} (h : normalizeNoticeItem python original = .ok item) :
    item.crawlJobId = original.crawlJobId := by
  obtain ⟨identity, -, h⟩ := bind_eq_ok.mp h
  obtain ⟨dedupKey, -, h⟩ := bind_eq_ok.mp h
  obtain ⟨sourceDuplicateKey, -, h⟩ := bind_eq_ok.mp h
  rw [← Except.ok.inj h]
  rfl

/-- Normalisation leaves the job of an item alone. -/
theorem normalized_crawlJobId (h : call.normalized python = .ok item) :
    item.crawlJobId = call.item.crawlJobId := by
  cases call with
  | rawDocument original =>
    obtain ⟨normalizedUrl, -, h⟩ := bind_eq_ok.mp h
    dsimp only at h
    split at h
    · rw [← Except.ok.inj h]
      rfl
    · obtain ⟨sourceDuplicateKey, -, h⟩ := bind_eq_ok.mp h
      rw [← Except.ok.inj h]
      rfl
  | notice original => exact normalizeNoticeItem_crawlJobId h
  | noticeVersion original => exact normalizeNoticeItem_crawlJobId h
  | attachment original =>
    obtain ⟨notice, hnotice, h⟩ := bind_eq_ok.mp h
    obtain ⟨fileUrl, urlHash, rfl⟩ := normalizeAttachmentItem_eq_ok h
    change notice.crawlJobId = original.crawlJobId
    exact normalizeNoticeItem_crawlJobId hnotice
  | error original =>
    rw [← Except.ok.inj h]
    rfl

theorem balance_stored {records errors : ℤ} {committed db : Db} (h : Balance jobId records errors db)
    (conn : Connection) : Balance jobId records errors (Db.stored conn committed db) := by
  apply h.of_view
  have herrors : (Db.stored conn committed db).errorRows jobId = db.errorRows jobId := by
    simp only [Db.errorRows, Db.stored, storedRows, List.countP_map]
    apply List.countP_congr
    intro row _
    simp only [Function.comp_apply]
    split <;> rfl
  have hrecords : (Db.stored conn committed db).recordRows = db.recordRows := by
    simp [Db.recordRows, Db.stored, storedRows]
  simp only [Db.accountView, herrors, hrecords]
  rfl

/-- Finding its source does not touch the account. -/
theorem SourceFound.accountView_eq {id : ℕ} {state after : CallState}
    (h : SourceFound python conn item state id after) : after.work.accountView jobId = state.work.accountView jobId := by
  cases h with
  | cached _ => rfl
  | stored _ _ _ => rfl
  | inserted _ _ _ _ _ => rfl

/-- A call for the job keeps its account, unless it commits a notice that it makes on its way. -/
theorem balance_step (hjob : call.item.crawlJobId.asInt python = some (jobId : ℤ))
    (h : Balance jobId records errors context.db) (howned : context.db.VersionsOwned)
    (hlisted : ¬ CommitsNoticeOnWay python context (conn, call)) :
    Balance jobId records errors (context.step python (conn, call)).db := by
  have hends := ends_program python context conn call
  change Balance jobId records errors (CallState.closed _).db
  rcases hends with ⟨hkept, -⟩ | ⟨item, found, last, hnormalized, hfound, hrun, -, -, hclosed, hreturned⟩
  · unfold CallState.closed
    dsimp only
    rw [hkept]
    exact h
  · have hitem : item.crawlJobId.asInt python = some (jobId : ℤ) := by
      rw [normalized_crawlJobId hnormalized]
      exact hjob
    have hnotRaises : ¬ Raises python context conn call := by
      rintro ⟨error, hraised⟩
      rw [hreturned] at hraised
      cases hraised
    have hnotOnWay : ¬ call.MakesNoticeOnWay python conn (context.sourceIdOf conn item) found.work.notices item := by
      rw [hfound.notices_eq]
      exact fun honWay ↦ hlisted ⟨hnotRaises, item, hnormalized, honWay⟩
    have hbalance : Balance jobId records errors found.work := h.of_view hfound.accountView_eq
    have hfoundOwned : found.work.VersionsOwned := by
      unfold Db.VersionsOwned
      rw [hfound.notices_eq, hfound.versions_eq]
      exact howned
    rw [hclosed]
    apply balance_stored
    exact (ensures_store_balance hitem hbalance hfoundOwned hnotOnWay).of_run hrun rfl

/-- In a run for one job that commits no notice on the way to another row, the job has counted as inserted the rows
that were inserted, and as errors the errors that were stored for it. -/
theorem inserts_counted (python : Python) (context : Context) (job : CrawlJob) (hjob : job ∈ context.db.jobs)
    (hkeys : (context.db.jobs.map CrawlJob.id).Nodup) (howned : context.db.VersionsOwned)
    (events : List (Connection × WriterCall))
    (hitems : ∀ event ∈ events, event.2.item.crawlJobId.asInt python = some (job.id : ℤ))
    (h : Along (Context.step python) (fun before event ↦ ¬ CommitsNoticeOnWay python before event) context events) :
    ∃ counted ∈ (events.foldl (Context.step python) context).db.jobs, counted.id = job.id ∧
      counted.counters.recordsInserted - job.counters.recordsInserted =
        (events.foldl (Context.step python) context).db.recordRows - context.db.recordRows ∧
      counted.counters.errorCount - job.counters.errorCount =
        (events.foldl (Context.step python) context).db.errorRows job.id - context.db.errorRows job.id := by
  have hinitial : Balance job.id (job.counters.recordsInserted - context.db.recordRows)
      (job.counters.errorCount - context.db.errorRows job.id) context.db := by
    refine ⟨hkeys, job, hjob, rfl, ?_, ?_⟩
    · omega
    · omega
  have hkeep (before : Context) (event : Connection × WriterCall)
      (hbefore : Balance job.id (job.counters.recordsInserted - context.db.recordRows)
        (job.counters.errorCount - context.db.errorRows job.id) before.db ∧ before.db.VersionsOwned)
      (hevent : event.2.item.crawlJobId.asInt python = some (job.id : ℤ) ∧
        ¬ CommitsNoticeOnWay python before event) :
      Balance job.id (job.counters.recordsInserted - context.db.recordRows)
        (job.counters.errorCount - context.db.errorRows job.id) (before.step python event).db ∧
          (before.step python event).db.VersionsOwned :=
    ⟨balance_step hevent.1 hbefore.1 hbefore.2 hevent.2, versionsOwned_step hbefore.2⟩
  have hfinal := invariant_foldl hkeep context events ⟨hinitial, howned⟩ ((along_of_forall_mem hitems context).and h)
  obtain ⟨counted, hcounted, hid, hrecords, herrors⟩ := hfinal.1.account
  refine ⟨counted, hcounted, hid, ?_, ?_⟩
  · omega
  · omega

end Runs

/-- A job that has just been created, and nothing else. -/
def jobDb : Db := { emptyDb with jobs := [.created 1 1 {} 0 0] }

def jobVersion : Item := { titledVersion true with crawlJobId := some (.str "1") }

/-- Nothing is made on the way where the notice of the item is stored or its title is missing. -/
theorem not_commitsNoticeOnWay_of_check {python : Python} {context : Context} {event : Connection × WriterCall}
    (hcheck : (match event.2.normalized python with
      | .ok item => (match item.noticeIn python event.1 (context.sourceIdOf event.1 item) context.db.notices with
        | .ok none => false
        | .ok (some _) | .error _ => true)
      | .error _ => true) = true) : ¬ CommitsNoticeOnWay python context event := by
  rintro ⟨-, item, hnormalized, honWay⟩
  rw [hnormalized] at hcheck
  have hmakes : item.MakesNotice python event.1 (context.sourceIdOf event.1 item) context.db.notices := by
    obtain ⟨conn, call⟩ := event
    cases call with
    | noticeVersion original => exact honWay.1
    | attachment original => exact honWay
    | rawDocument | notice | error => cases honWay
  dsimp only at hcheck
  rw [hmakes.1] at hcheck
  cases hcheck

/-- A notice and its version are two inserts. -/
theorem inserts_counted_noticeThenVersion :
    ∃ counted ∈ ([(sqlite epoch, .notice jobVersion), (sqlite epoch, .noticeVersion jobVersion)].foldl
        (Context.step (plainPython titleDigests)) ⟨[], jobDb⟩).db.jobs, counted.id = 1 ∧
      counted.counters.recordsInserted - 0 =
        ([(sqlite epoch, .notice jobVersion), (sqlite epoch, .noticeVersion jobVersion)].foldl
          (Context.step (plainPython titleDigests)) ⟨[], jobDb⟩).db.recordRows - jobDb.recordRows ∧
      counted.counters.errorCount - 0 =
        ([(sqlite epoch, .notice jobVersion), (sqlite epoch, .noticeVersion jobVersion)].foldl
          (Context.step (plainPython titleDigests)) ⟨[], jobDb⟩).db.errorRows 1 - jobDb.errorRows 1 := by
  apply inserts_counted (plainPython titleDigests) ⟨[], jobDb⟩ (.created 1 1 {} 0 0) (by decide) (by decide)
    (fun _ h ↦ (nomatch h))
  · intro event hevent
    have hjob : event.2.item.crawlJobId = some (.str "1") := by
      simp only [List.mem_cons, List.not_mem_nil, or_false] at hevent
      rcases hevent with rfl | rfl <;> rfl
    rw [hjob]
    decide +kernel
  · refine ⟨?_, ?_, trivial⟩
    · rintro ⟨-, item, -, honWay⟩
      exact honWay
    · exact not_commitsNoticeOnWay_of_check (by decide +kernel)

/-- A version whose notice is not stored yet: two rows are inserted and one is counted. -/
theorem inserts_not_counted_versionAlone :
    ¬ ∃ counted ∈ ((⟨[], jobDb⟩ : Context).step (plainPython titleDigests) (sqlite epoch, .noticeVersion jobVersion)).db.jobs,
      counted.id = 1 ∧ counted.counters.recordsInserted - 0 =
        (((⟨[], jobDb⟩ : Context).step (plainPython titleDigests)
          (sqlite epoch, .noticeVersion jobVersion)).db.recordRows : ℤ) - jobDb.recordRows := by
  decide +kernel

end TenderPhase1.Crawler
