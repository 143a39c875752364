import TenderPhase1.Crawler.NoticeMerge

/-!
# Finding a version and storing it

What `_resolve_notice_version` and `write_notice_version` do where they return: the
version they come to, and the rows that the version, its siblings and its notice
have then.
-/

namespace TenderPhase1.Crawler

open Jobs Raising

section Versions

variable {python : Python} {conn : Connection} {item : Item} {sourceSiteId : ℕ} {state : CallState}

/-! ## The version of an item -/

/-- No version of the notice has the content of the item. -/
def Item.NewContent (item : Item) (noticeId : ℕ) (versions : List NoticeVersion) : Prop :=
  ∀ contentHash, item.contentHash.asStr = some contentHash →
    ∀ version ∈ versions, version.noticeId = noticeId → version.contentHash ≠ contentHash

/-- What `_resolve_notice_version` comes to: a version of the notice with the content of the item, or
with its number where the item has no content; a new version; or none. -/
inductive ResolvedVersion (python : Python) (conn : Connection) (item : Item) (noticeId : ℕ) (state : CallState) :
    Option (NoticeVersion × Bool) → CallState → Prop where
  | found {version : NoticeVersion} (hmem : version ∈ state.work.versions) (haccepts : conn.accepts state.work)
      (hnotice : version.noticeId = noticeId)
      (hcontent : ∀ contentHash, item.contentHash.asStr = some contentHash → version.contentHash = contentHash)
      (hnumber : item.contentHash.asStr = none → version.versionNo = item.requestedVersionNo python) :
      ResolvedVersion python conn item noticeId state (some (version, false)) state
  | created {versionNo : ℤ} {title contentHash : String} (htitle : item.title.asStr = some title)
      (hcontent : item.contentHash.asStr = some contentHash) (hnew : item.NewContent noticeId state.work.versions)
      (haccepts : conn.accepts { state.work with versions := state.work.versions ++
        [item.newVersion python (conn.nextId (state.work.versions.map NoticeVersion.id)) noticeId versionNo
          contentHash title] }) :
      ResolvedVersion python conn item noticeId state
        (some (item.newVersion python (conn.nextId (state.work.versions.map NoticeVersion.id)) noticeId versionNo
          contentHash title, true))
        { state with work := { state.work with versions := state.work.versions ++
          [item.newVersion python (conn.nextId (state.work.versions.map NoticeVersion.id)) noticeId versionNo
            contentHash title] } }
  | missing (hfields : item.title.asStr = none ∨ item.contentHash.asStr = none) :
      ResolvedVersion python conn item noticeId state none state

/-- A new content gets a version of its own. -/
theorem ensures_createVersion {noticeId : ℕ} {versionNo : ℤ} (hnew : item.NewContent noticeId state.work.versions) :
    Ensures (ResolvedVersion python conn item noticeId state) (createVersion python conn item noticeId versionNo)
      state := by
  unfold createVersion
  cases htitle : item.title.asStr with
  | none => exact ensures_pure (.missing (Or.inl htitle))
  | some title =>
    cases hcontent : item.contentHash.asStr with
    | none => exact ensures_pure (.missing (Or.inr hcontent))
    | some contentHash =>
      apply ensures_bind
      apply ensures_get
      apply ensures_bind
      apply ensures_update
      apply ensures_bind
      apply ensures_flush
      intro haccepts
      exact ensures_pure (.created htitle hcontent hnew haccepts)

/-- New content gets a number of its own. -/
theorem ensures_resolveVersionByNumber {noticeId : ℕ} (hnew : item.NewContent noticeId state.work.versions) :
    Ensures (ResolvedVersion python conn item noticeId state) (resolveVersionByNumber python conn item noticeId)
      state := by
  apply ensures_bind
  apply ensures_scalar
  intro haccepts
  cases hfound : (conn.answer (state.work.versions.filter fun version ↦
      version.noticeId = noticeId ∧ version.versionNo = item.requestedVersionNo python)).head? with
  | none => exact ensures_createVersion hnew
  | some version =>
    obtain ⟨hmem, hkey⟩ := mem_of_head?_answer hfound
    obtain ⟨hnotice, hnumber⟩ := of_decide_eq_true hkey
    dsimp only
    split
    · rename_i hsame
      refine ensures_pure (.found hmem haccepts hnotice ?_ fun _ ↦ hnumber)
      intro contentHash hcontent
      rw [hcontent, Option.all_some, decide_eq_true_eq] at hsame
      exact hsame
    · apply ensures_bind
      apply ensures_flush
      intro _
      apply ensures_bind
      exact ensures_get (ensures_createVersion hnew)

/-- The version of an item is the one with its content, or a new one. -/
theorem ensures_resolveNoticeVersion {noticeId : ℕ} :
    Ensures (ResolvedVersion python conn item noticeId state) (resolveNoticeVersion python conn item noticeId)
      state := by
  unfold resolveNoticeVersion
  cases hcontent : item.contentHash.asStr with
  | none =>
    apply ensures_resolveVersionByNumber
    intro contentHash h
    rw [hcontent] at h
    cases h
  | some contentHash =>
    apply ensures_bind
    apply ensures_scalar
    intro haccepts
    cases hfound : (conn.answer (state.work.versions.filter fun version ↦
        version.noticeId = noticeId ∧ version.contentHash = contentHash)).head? with
    | some version =>
      obtain ⟨hmem, hkey⟩ := mem_of_head?_answer hfound
      obtain ⟨hnotice, hsame⟩ := of_decide_eq_true hkey
      refine ensures_pure (.found hmem haccepts hnotice ?_ ?_)
      · intro other hother
        exact hsame.trans (Option.some.inj (hcontent.symm.trans hother))
      · intro h
        rw [hcontent] at h
        cases h
    | none =>
      apply ensures_resolveVersionByNumber
      intro other hother version hversion hnotice hsame
      have hmissing := of_decide_eq_false (filter_eq_false_of_head?_answer hfound version hversion)
      apply hmissing
      exact ⟨hnotice, hsame.trans (Option.some.inj (hother.symm.trans hcontent))⟩

/-! ## Storing it -/

/-- What `promoteCurrent` makes of the database. -/
def NoticeVersion.promotedIn (version : NoticeVersion) (notice : TenderNotice) (db : Db) : Db :=
  if version.isCurrent then version.promote notice db else db

theorem ensures_promoteCurrent {version : NoticeVersion} {notice : TenderNotice} {post : Unit → CallState → Prop}
    (hpost : post () { state with work := version.promotedIn notice state.work }) :
    Ensures post (promoteCurrent version notice) state := by
  unfold NoticeVersion.promotedIn at hpost
  unfold promoteCurrent
  split
  · rename_i hcurrent
    rw [if_pos hcurrent] at hpost
    exact ensures_update hpost
  · rename_i hcurrent
    rw [if_neg hcurrent] at hpost
    exact ensures_pure hpost

/-- Counting changes no row but the job's. -/
theorem ensures_recordStats {deltas : JobCounters} {post : Unit → CallState → Prop}
    (hpost : ∀ jobs, post () { state with work := { state.work with jobs := jobs } }) :
    Ensures post (recordStats python conn item deltas) state := by
  unfold recordStats
  split
  · exact ensures_pure (hpost state.work.jobs)
  · apply ensures_bind
    apply ensures_scalar
    intro _
    split
    · exact ensures_pure (hpost state.work.jobs)
    · split
      · exact ensures_update (hpost _)
      · exact ensures_throw _

/-- What `write_notice_version` leaves behind once it has the notice and the version. -/
inductive VersionStored (python : Python) (conn : Connection) (item : Item) (notice : TenderNotice)
    (found : NoticeVersion) (state : CallState) : CallState → Prop where
  | stored {version : NoticeVersion} {put : Db} {rawDocumentId : Option ℕ} {widened : TenderNotice}
      {jobs : List CrawlJob} (hversion : version = found.applyFields python item notice rawDocumentId)
      (hput : put = { state.work with versions := putRow NoticeVersion.id version state.work.versions })
      (haccepts : conn.accepts put)
      (hwidened : (if version.isCurrent then { notice with currentVersionId := some version.id }
        else notice).widenPublished version.publishedAt = .ok widened) :
      VersionStored python conn item notice found state
        { state with work :=
          { version.promotedIn notice put with
            notices := putRow TenderNotice.id widened (version.promotedIn notice put).notices
            jobs := jobs } }

/-- Storing a version updates it, clears the other flags and points the notice at it. -/
theorem ensures_storeFoundVersion {notice : TenderNotice} {found : NoticeVersion} {created : Bool} :
    Ensures (fun _ after ↦ VersionStored python conn item notice found state after)
      (storeFoundVersion python conn item sourceSiteId notice found created) state := by
  apply ensures_bind
  refine ensures_of_reads (fun _ ↦ keeps_rawDocumentIdByHash _) ?_
  intro rawDocumentId
  apply ensures_bind
  apply ensures_update
  apply ensures_bind
  apply ensures_flush
  intro haccepts
  apply ensures_bind
  apply ensures_promoteCurrent
  apply ensures_bind
  apply ensures_raisePython
  intro widened hwidened
  apply ensures_bind
  apply ensures_update
  apply ensures_bind
  apply ensures_recordStats
  intro jobs
  exact ensures_pure (.stored rfl rfl haccepts hwidened)

end Versions

end TenderPhase1.Crawler
