import TenderPhase1.Crawler.RecordFrame
import TenderPhase1.Foundation.CurrentMarks

/-!
# The versions of a notice

What the writers make of the versions of each notice, its current flags and its
pointer. Every call leaves the marks of the database as they were or stores one
version of one notice in them, and no call breaks the uniqueness of version numbers
and contents.
-/

namespace TenderPhase1.Crawler

open Jobs Raising Transition CurrentMarks

/-! ## Rows by their id -/

section RowLookup

variable {Row : Type} {id : Row → ℕ} {rows : List Row} {row : Row} {key : ℕ}

theorem mem_of_find? (h : rows.find? (id · = key) = some row) : row ∈ rows ∧ id row = key :=
  ⟨List.mem_of_find?_eq_some h, by simpa using List.find?_some h⟩

theorem exists_find?_eq_some (hrow : row ∈ rows) : ∃ found, rows.find? (id · = id row) = some found := by
  rw [← Option.isSome_iff_exists, List.find?_isSome]
  exact ⟨row, hrow, decide_eq_true rfl⟩

theorem find?_eq_some_of_mem (h : (rows.map id).Nodup) (hrow : row ∈ rows) :
    rows.find? (id · = id row) = some row := by
  obtain ⟨found, hfound⟩ := exists_find?_eq_some hrow
  obtain ⟨hmem, hid⟩ := mem_of_find? hfound
  rw [hfound, eq_of_id_eq h hrow hmem hid]

theorem find?_eq_none_of_fresh (h : ∀ other ∈ rows, id other ≠ key) : rows.find? (id · = key) = none := by
  rw [List.find?_eq_none]
  intro other hother
  simpa using h other hother

theorem find?_map_row {change : Row → Row} (hid : ∀ row, id (change row) = id row) :
    (rows.map change).find? (id · = key) = (rows.find? (id · = key)).map change := by
  rw [List.find?_map]
  congr 2
  funext row
  rw [Function.comp_apply, hid row]

theorem id_putRow (other : Row) : id (if id other = id row then row else other) = id other := by
  split
  · rename_i heq
    exact heq.symm
  · rfl

theorem find?_putRow (hkey : key ≠ id row) : (putRow id row rows).find? (id · = key) = rows.find? (id · = key) := by
  unfold putRow
  rw [find?_map_row id_putRow]
  cases hfound : rows.find? (id · = key) with
  | none => rfl
  | some found => rw [Option.map_some, if_neg ((mem_of_find? hfound).2.trans_ne hkey)]

theorem find?_putRow_self {old : Row} (hold : old ∈ rows) (hid : id row = id old) :
    (putRow id row rows).find? (id · = id row) = some row := by
  obtain ⟨found, hfound⟩ := exists_find?_eq_some hold
  unfold putRow
  rw [find?_map_row id_putRow, hid, hfound, Option.map_some, if_pos (mem_of_find? hfound).2]

theorem find?_append_row (hkey : key ≠ id row) : (rows ++ [row]).find? (id · = key) = rows.find? (id · = key) := by
  rw [List.find?_append]
  simp [hkey.symm]

end RowLookup

/-! ## The marks of a database -/

/-- The notice of each version, the versions that are flagged as current, and the version that each
notice names. -/
def Db.marks (db : Db) : Marks ℕ ℕ where
  owner id := (db.versions.find? (·.id = id)).map NoticeVersion.noticeId
  flagged id := (db.versions.find? (·.id = id)).any NoticeVersion.isCurrent
  named id := (db.notices.find? (·.id = id)).bind TenderNotice.currentVersionId

section Marks

variable {python : Python} {conn : Connection} {item : Item} {sourceSiteId : ℕ} {state after : CallState}
  {notice merged : TenderNotice} {found : NoticeVersion} {created : Bool}

theorem applyFields_pointer (h : notice.applyFields python item = .ok merged) :
    merged.id = notice.id ∧ merged.currentVersionId = notice.currentVersionId := by
  obtain ⟨published, first, latest, rfl⟩ := applyFields_eq_ok h
  exact ⟨rfl, rfl⟩

/-- Merging an item into its notice leaves every mark as it is: a notice that is created names no version. -/
theorem Merged.marks_eq (h : Merged python conn item sourceSiteId state (some (merged, created)) after) :
    after.work.marks = state.work.marks ∧ after.work.versions = state.work.versions ∧
      merged ∈ after.work.notices := by
  cases h with
  | @merged notice _ _ resolved hresolved happlied =>
    obtain ⟨hid, hpointer⟩ := applyFields_pointer happlied
    have hmem := mem_putRow hresolved.mem.1 hid
    have hself := find?_putRow_self hresolved.mem.1 hid
    cases hresolved with
    | found hfound haccepts _ _ =>
      refine ⟨?_, rfl, hmem⟩
      have hids := (uniqueNotices_iff.mp (accepts_iff.mp haccepts).2.2.1).1
      apply Marks.ext
      · rfl
      · rfl
      · funext key
        change ((putRow TenderNotice.id merged state.work.notices).find? (·.id = key)).bind _ =
          (state.work.notices.find? (·.id = key)).bind _
        by_cases hkey : key = merged.id
        · rw [hkey, hself, hid, find?_eq_some_of_mem hids hfound]
          exact hpointer
        · rw [find?_putRow hkey]
    | created _ _ _ =>
      refine ⟨?_, rfl, hmem⟩
      apply Marks.ext
      · rfl
      · rfl
      · funext key
        change ((putRow TenderNotice.id merged (state.work.notices ++ [_])).find? (·.id = key)).bind _ =
          (state.work.notices.find? (·.id = key)).bind _
        by_cases hkey : key = merged.id
        · have hfresh : state.work.notices.find? (·.id = merged.id) = none := by
            rw [hid]
            exact find?_eq_none_of_fresh fun other hother ↦ conn.nextId_ne hother
          rw [hkey, hself, hfresh]
          exact hpointer
        · rw [find?_putRow hkey, find?_append_row (hid ▸ hkey)]

/-- The row of a merged notice says what the notice names. -/
theorem Merged.named (h : Merged python conn item sourceSiteId state (some (merged, created)) after) :
    after.work.marks.named merged.id = merged.currentVersionId := by
  cases h with
  | @merged notice _ _ resolved hresolved happlied =>
    dsimp only [Db.marks]
    rw [find?_putRow_self hresolved.mem.1 (applyFields_pointer happlied).1, Option.bind_some]

/-- A notice that is created names no version. -/
theorem Merged.created_pointer (h : Merged python conn item sourceSiteId state (some (merged, true)) after) :
    merged.currentVersionId = none := by
  cases h with
  | @merged notice _ _ resolved hresolved happlied =>
    rw [(applyFields_pointer happlied).2]
    cases hresolved with
    | created _ _ _ => rfl

/-- A version that is created has an id that no version had, and one that is found belongs to its notice. -/
theorem ResolvedVersion.owner_eq {noticeId : ℕ}
    (h : ResolvedVersion python conn item noticeId state (some (found, created)) after) :
    state.work.marks.owner found.id = if created then none else some noticeId := by
  dsimp only [Db.marks]
  cases h with
  | found hmem haccepts hnotice _ _ =>
    have hids := (uniqueVersions_iff.mp (accepts_iff.mp haccepts).2.2.2.1).1
    rw [find?_eq_some_of_mem hids hmem, Option.map_some, hnotice]
    rfl
  | created _ _ _ _ =>
    rw [find?_eq_none_of_fresh]
    · rfl
    · exact fun other hother ↦ conn.nextId_ne hother

/-- The flags of the other versions once a version of the notice is stored. -/
def NoticeVersion.besides (version : NoticeVersion) (notice : TenderNotice) (other : NoticeVersion) : NoticeVersion :=
  { other with isCurrent :=
      other.isCurrent && !(version.isCurrent && other.noticeId = notice.id && other.id ≠ version.id) }

/-- Promoting a version takes the mark from its siblings. -/
theorem promotedIn_versions (version : NoticeVersion) (notice : TenderNotice) (db : Db) :
    (version.promotedIn notice db).versions = db.versions.map (version.besides notice) := by
  unfold NoticeVersion.promotedIn NoticeVersion.promote
  split
  · rename_i hcurrent
    apply List.map_congr_left
    intro other _
    unfold NoticeVersion.besides
    by_cases hother : other.noticeId = notice.id ∧ other.id ≠ version.id
    · simp [hcurrent, hother]
    · rw [if_neg hother]
      rcases not_and_or.mp hother with hof | hid
      · simp [hof]
      · simp [hid]
  · rename_i hcurrent
    have hself : version.besides notice = fun other ↦ other := by
      funext other
      simp [NoticeVersion.besides, hcurrent]
    rw [hself, List.map_id']

theorem widenPublished_pointer {published : Option DateTime} {widened : TenderNotice}
    (h : notice.widenPublished published = .ok widened) :
    widened.id = notice.id ∧ widened.currentVersionId = notice.currentVersionId := by
  obtain ⟨first, latest, rfl⟩ := widenPublished_eq_ok h
  exact ⟨rfl, rfl⟩

/-- Promoting a version touches the row of its notice alone. -/
theorem find?_promotedIn_notices {version : NoticeVersion} {db : Db} {key : ℕ} (hkey : key ≠ notice.id) :
    (version.promotedIn notice db).notices.find? (·.id = key) = db.notices.find? (·.id = key) := by
  unfold NoticeVersion.promotedIn NoticeVersion.promote
  split
  · exact find?_putRow hkey
  · rfl

theorem exists_mem_promotedIn_notices (version : NoticeVersion) {db : Db} (hnotice : notice ∈ db.notices) :
    ∃ row ∈ (version.promotedIn notice db).notices, notice.id = row.id := by
  unfold NoticeVersion.promotedIn NoticeVersion.promote
  split
  · exact ⟨_, mem_putRow hnotice rfl, rfl⟩
  · exact ⟨notice, hnotice, rfl⟩

/-- After a version is stored its notice names it where it is current, and every other notice names
what it named. -/
theorem named_putRow_promotedIn {version : NoticeVersion} {db : Db} {widened : TenderNotice} {key : ℕ}
    (hwidened : (if version.isCurrent then { notice with currentVersionId := some version.id }
      else notice).widenPublished version.publishedAt = .ok widened)
    (hids : (db.notices.map TenderNotice.id).Nodup) (hnotice : notice ∈ db.notices) :
    ((putRow TenderNotice.id widened (version.promotedIn notice db).notices).find? (·.id = key)).bind
        TenderNotice.currentVersionId =
      if version.isCurrent ∧ key = notice.id then some version.id
      else (db.notices.find? (·.id = key)).bind TenderNotice.currentVersionId := by
  obtain ⟨hid, hpointer⟩ := widenPublished_pointer hwidened
  have hnoticeId : widened.id = notice.id := by
    rw [hid]
    split <;> rfl
  by_cases hkey : key = notice.id
  · obtain ⟨row, hrow, hrowId⟩ := exists_mem_promotedIn_notices version hnotice
    have hself := find?_putRow_self hrow (hnoticeId.trans hrowId)
    rw [hnoticeId] at hself
    rw [hkey, hself, find?_eq_some_of_mem hids hnotice, Option.bind_some, Option.bind_some, hpointer]
    by_cases hcurrent : version.isCurrent
    · rw [if_pos hcurrent, if_pos ⟨hcurrent, rfl⟩]
    · rw [if_neg hcurrent, if_neg fun h ↦ hcurrent h.1]
  · rw [find?_putRow (hnoticeId ▸ hkey), find?_promotedIn_notices hkey, if_neg fun h ↦ hkey h.2]

/-- Storing a version of a notice stores it in the marks. -/
theorem VersionStored.marks_eq {resolved : CallState} (hnotice : notice ∈ state.work.notices)
    (hresolved : ResolvedVersion python conn item notice.id state (some (found, created)) resolved)
    (hstored : VersionStored python conn item notice found resolved after) :
    after.work.marks = state.work.marks.store notice.id found.id (item.isCurrent.asBool python true) := by
  obtain ⟨hfound, hof, hnotices⟩ := hresolved.mem
  have hothers (key : ℕ) (hkey : key ≠ found.id) :
      resolved.work.versions.find? (·.id = key) = state.work.versions.find? (·.id = key) := by
    cases hresolved with
    | found _ _ _ _ _ => rfl
    | created _ _ _ _ => exact find?_append_row hkey
  cases hstored with
  | @stored version put rawDocumentId widened jobs hversion hput haccepts hwidened =>
    have hid : version.id = found.id := by rw [hversion]; rfl
    have hversionOf : version.noticeId = notice.id := by rw [hversion]; exact hof
    have hflag : version.isCurrent = item.isCurrent.asBool python true := by rw [hversion]; rfl
    have hself : put.versions.find? (·.id = found.id) = some version := by
      rw [hput, ← hid]
      exact find?_putRow_self hfound hid
    have hputOthers (key : ℕ) (hkey : key ≠ found.id) :
        put.versions.find? (·.id = key) = state.work.versions.find? (·.id = key) := by
      rw [← hothers key hkey, hput]
      exact find?_putRow (hid ▸ hkey)
    have hfind (key : ℕ) : (version.promotedIn notice put).versions.find? (·.id = key) =
        (put.versions.find? (·.id = key)).map (version.besides notice) := by
      rw [promotedIn_versions]
      exact find?_map_row fun _ ↦ rfl
    have hputNotices : put.notices = state.work.notices := by rw [hput]; exact hnotices
    have hids := (uniqueNotices_iff.mp (accepts_iff.mp haccepts).2.2.1).1
    apply Marks.ext
    · funext key
      change ((version.promotedIn notice put).versions.find? (·.id = key)).map _ = _
      rw [hfind]
      by_cases hkey : key = found.id
      · subst hkey
        rw [hself, Marks.store_owner_self]
        exact congrArg some hversionOf
      · rw [hputOthers key hkey, Marks.store_owner_of_ne hkey, Option.map_map]
        rfl
    · funext key
      change ((version.promotedIn notice put).versions.find? (·.id = key)).any _ = _
      rw [hfind]
      by_cases hkey : key = found.id
      · subst hkey
        rw [hself, Marks.store_flagged_self, ← hflag]
        simp [NoticeVersion.besides]
      · rw [hputOthers key hkey, Marks.store_flagged_of_ne hkey, ← hflag]
        cases hrow : state.work.versions.find? (·.id = key) with
        | none => simp [Db.marks, hrow]
        | some row =>
          have hrowId : row.id ≠ version.id := by
            rw [(mem_of_find? hrow).2, hid]
            exact hkey
          simp [Db.marks, hrow, NoticeVersion.besides, hrowId]
    · funext key
      change ((putRow TenderNotice.id widened (version.promotedIn notice put).notices).find? (·.id = key)).bind _ = _
      rw [named_putRow_promotedIn hwidened hids (hputNotices ▸ hnotice), hputNotices, hid, hflag]
      unfold Marks.store
      cases item.isCurrent.asBool python true with
      | false => rfl
      | true =>
        by_cases hkey : key = notice.id
        · subst hkey
          simp
        · simp [hkey, Db.marks]

end Marks

/-! ## Version numbers and contents -/

section Unique

variable {python : Python} {conn : Connection} {item : Item} {sourceSiteId noticeId : ℕ} {state : CallState}
  {context : Context} {call : WriterCall}

/-- The uniqueness constraints of the versions hold of the rows as the call sees them. -/
def CallState.VersionsUnique (state : CallState) : Prop := uniqueVersions state.work.versions

theorem keeps_unique_of_versions {Result : Type} {program : Call Result}
    (h : ∀ versions, Keeps (fun state ↦ state.work.versions = versions) program) :
    Keeps CallState.VersionsUnique program :=
  keeps_of_view h fun versions ↦ uniqueVersions versions

/-- A version with a new number and a new content can be inserted. -/
theorem upholds_createVersion {versionNo : ℤ} (hunique : state.VersionsUnique)
    (hnew : item.NewContent noticeId state.work.versions)
    (hnumber : ∀ version ∈ state.work.versions, version.noticeId = noticeId → version.versionNo ≠ versionNo) :
    Upholds CallState.VersionsUnique (fun _ _ ↦ True) (createVersion python conn item noticeId versionNo) state := by
  unfold createVersion
  cases item.title.asStr with
  | none => exact upholds_pure hunique trivial
  | some title =>
    cases hcontent : item.contentHash.asStr with
    | none => exact upholds_pure hunique trivial
    | some contentHash =>
      dsimp only
      apply upholds_bind
      apply upholds_get hunique
      let version := item.newVersion python (conn.nextId (state.work.versions.map NoticeVersion.id)) noticeId versionNo
        contentHash title
      let inserted : CallState := { state with work := { state.work with versions := state.work.versions ++ [version] } }
      have hinserted : inserted.VersionsUnique := by
        have hid : version.id = conn.nextId (state.work.versions.map NoticeVersion.id) := rfl
        refine uniqueVersions_append hunique hid ?_ ?_
        · exact fun other hother hsame ↦ hnumber other hother hsame.1 hsame.2
        · exact fun other hother hsame ↦ hnew contentHash hcontent other hother hsame.1 hsame.2
      apply upholds_bind
      refine ⟨hinserted, ?_⟩
      rintro _ _
      apply upholds_bind
      exact upholds_flush hinserted (upholds_pure hinserted trivial)

/-- A version whose content is new gets the number asked for where that is free, and the next one
otherwise. -/
theorem upholds_resolveVersionByNumber (hunique : state.VersionsUnique)
    (hnew : item.NewContent noticeId state.work.versions) :
    Upholds CallState.VersionsUnique (fun _ _ ↦ True) (resolveVersionByNumber python conn item noticeId) state := by
  apply upholds_bind
  apply upholds_scalar hunique
  cases hfound : conn.first (fun version : NoticeVersion ↦
      version.noticeId = noticeId ∧ version.versionNo = item.requestedVersionNo python) state.work.versions with
  | none =>
    apply upholds_createVersion hunique hnew
    intro version hversion hnotice hnumber
    exact of_decide_eq_false (filter_eq_false_of_head?_answer hfound version hversion) ⟨hnotice, hnumber⟩
  | some version =>
    dsimp only
    split
    · exact upholds_pure hunique trivial
    · apply upholds_bind
      apply upholds_flush hunique
      apply upholds_bind
      apply upholds_get hunique
      apply upholds_createVersion hunique hnew
      intro other hother hnotice hnumber
      have hle := versionNo_le_maxVersionNo hother
      rw [hnotice, hnumber] at hle
      omega

/-- Resolving keeps the numbers and the contents of the versions unique. -/
theorem upholds_resolveNoticeVersion (hunique : state.VersionsUnique) :
    Upholds CallState.VersionsUnique (ResolvedVersion python conn item noticeId state)
      (resolveNoticeVersion python conn item noticeId) state := by
  have hkept : Upholds CallState.VersionsUnique (fun _ _ ↦ True) (resolveNoticeVersion python conn item noticeId)
      state := by
    unfold resolveNoticeVersion
    cases hcontent : item.contentHash.asStr with
    | none =>
      apply upholds_resolveVersionByNumber hunique
      intro contentHash h
      rw [hcontent] at h
      cases h
    | some contentHash =>
      apply upholds_bind
      apply upholds_scalar hunique
      cases hfound : conn.first (fun version : NoticeVersion ↦
          version.noticeId = noticeId ∧ version.contentHash = contentHash) state.work.versions with
      | some version => exact upholds_pure hunique trivial
      | none =>
        apply upholds_resolveVersionByNumber hunique
        intro other hother version hversion hnotice hsame
        rw [hcontent] at hother
        obtain rfl := Option.some.inj hother
        exact of_decide_eq_false (filter_eq_false_of_head?_answer hfound version hversion) ⟨hnotice, hsame⟩
  exact ⟨hkept.1, ensures_resolveNoticeVersion⟩

/-- The version that an item comes to has the content of the item. -/
theorem ResolvedVersion.contentHash {found : NoticeVersion} {created : Bool} {after : CallState}
    (h : ResolvedVersion python conn item noticeId state (some (found, created)) after) :
    item.contentHash.asStr.getD found.contentHash = found.contentHash := by
  cases h with
  | found _ _ _ hcontent _ =>
    cases hitem : item.contentHash.asStr with
    | none => rfl
    | some contentHash => exact (hcontent contentHash hitem).symm
  | created _ hcontent _ _ =>
    rw [hcontent]
    rfl

theorem keeps_unique_promoteCurrent {version : NoticeVersion} {notice : TenderNotice} :
    Keeps CallState.VersionsUnique (promoteCurrent version notice) := by
  unfold promoteCurrent
  split
  · exact keeps_update fun _ hunique ↦ uniqueVersions_promote version notice hunique
  · exact keeps_pure ()

/-- Storing a version of which the content stays changes no key of a version. -/
theorem upholds_storeFoundVersion {notice : TenderNotice} {found : NoticeVersion} {created : Bool}
    (hunique : state.VersionsUnique) (hfound : found ∈ state.work.versions)
    (hcontent : item.contentHash.asStr.getD found.contentHash = found.contentHash) :
    Upholds CallState.VersionsUnique (fun _ _ ↦ True)
      (storeFoundVersion python conn item sourceSiteId notice found created) state := by
  apply upholds_bind
  refine (keeps_rawDocumentIdByHash _).upholds (ensures_of_reads (fun _ ↦ keeps_rawDocumentIdByHash _) ?_) hunique
  intro rawDocumentId
  let version := found.applyFields python item notice rawDocumentId
  let put : CallState :=
    { state with work := { state.work with versions := putRow NoticeVersion.id version state.work.versions } }
  have hput : put.VersionsUnique := uniqueVersions_putRow hunique hfound rfl rfl rfl hcontent
  apply upholds_bind
  refine ⟨hput, ?_⟩
  rintro _ _
  refine Keeps.upholds ?_ (ensures_of_forall fun _ _ ↦ trivial) hput
  apply keeps_bind (keeps_flush _)
  intro _
  apply keeps_bind keeps_unique_promoteCurrent
  intro _
  apply keeps_bind (keeps_raisePython _)
  intro widened
  refine keeps_bind (keeps_unique_of_versions fun _ ↦ keeps_versions_update ?_) fun _ ↦ ?_
  · exact fun _ ↦ rfl
  · refine keeps_bind (keeps_unique_of_versions fun _ ↦ ?_) fun _ ↦ keeps_pure true
    exact keeps_versions_of_records fun _ ↦ keeps_records_recordStats _

/-- However the call ends, no two versions share a key. -/
theorem ends_unique_storeNoticeVersion (hunique : state.VersionsUnique) :
    Ends (fun _ after ↦ after.VersionsUnique) (storeNoticeVersion python conn item sourceSiteId) state := by
  have hstore : Upholds CallState.VersionsUnique (fun _ _ ↦ True)
      (storeNoticeVersion python conn item sourceSiteId) state := by
    apply upholds_bind
    refine upholds_mono (keeps_unique_of_versions (fun _ ↦ keeps_versions_mergedNotice) |>.upholds
      (ensures_of_forall fun _ _ ↦ trivial) hunique) ?_
    intro merged middle hmiddle _
    cases merged with
    | none => exact upholds_pure hmiddle trivial
    | some pair =>
      apply upholds_bind
      refine upholds_mono (upholds_resolveNoticeVersion hmiddle) ?_
      intro found resolved hresolvedUnique hresolved
      cases found with
      | none => exact upholds_pure hresolvedUnique trivial
      | some pair => exact upholds_storeFoundVersion hresolvedUnique hresolved.mem.1 hresolved.contentHash
  exact hstore.1

/-- The converted rows of a commit have the keys that the rows had. -/
theorem keeps_unique_commit : Keeps CallState.VersionsUnique (commit conn) := by
  intro state hunique
  rw [ends_commit]
  cases conn.refusal .commit state.work with
  | some error => exact hunique
  | none =>
    dsimp only [CallState.VersionsUnique, Db.stored] at hunique ⊢
    rw [uniqueVersions_iff] at hunique ⊢
    rw [map_storedRows, map_storedRows, map_storedRows]
    · exact hunique
    all_goals exact fun _ ↦ rfl

/-- Wherever a call ends, the uniqueness constraints of the versions hold of the rows it has written. -/
theorem ends_unique_program (hunique : uniqueVersions context.db.versions) :
    Ends (fun _ after ↦ after.VersionsUnique) (call.program python conn) context.opened := by
  apply ends_program_of_store
  · exact hunique
  · intro item
    exact keeps_unique_of_versions fun _ ↦ keeps_versions_of_records fun _ ↦ keeps_records_itemSourceSiteId
  · exact keeps_unique_commit
  · intro item found _ _ hfound
    cases call with
    | rawDocument _ =>
      exact keeps_unique_of_versions (fun _ ↦ keeps_versions_of_records fun _ ↦ keeps_records_storeRawDocument) found hfound
    | notice _ => exact keeps_unique_of_versions (fun _ ↦ keeps_versions_storeNotice) found hfound
    | noticeVersion _ => exact ends_unique_storeNoticeVersion hfound
    | attachment _ => exact keeps_unique_of_versions (fun _ ↦ keeps_versions_storeAttachment) found hfound
    | error _ =>
      exact keeps_unique_of_versions (fun _ ↦ keeps_versions_of_records fun _ ↦ keeps_records_storeError) found hfound

end Unique

/-! ## One call -/

section Step

variable {python : Python} {conn : Connection} {context : Context} {call : WriterCall} {db : Db}

theorem marks_of_records {state after : CallState} (h : after.records = state.records) :
    after.work.marks = state.work.marks := by
  obtain ⟨hnotices, hversions⟩ := Prod.mk.inj h
  unfold Db.marks
  rw [hnotices, hversions]

/-- A commit changes no mark. -/
theorem marks_stored (conn : Connection) (committed db : Db) : (Db.stored conn committed db).marks = db.marks := by
  have hversions (key : ℕ) : (Db.stored conn committed db).versions.find? (·.id = key) =
      (db.versions.find? (·.id = key)).map fun row ↦ if row ∈ committed.versions then row else row.stored conn :=
    find?_map_row fun row ↦ by split <;> rfl
  have hnotices (key : ℕ) : (Db.stored conn committed db).notices.find? (·.id = key) =
      (db.notices.find? (·.id = key)).map fun row ↦ if row ∈ committed.notices then row else row.stored conn :=
    find?_map_row fun row ↦ by split <;> rfl
  apply Marks.ext
  · funext key
    dsimp only [Db.marks]
    rw [hversions]
    cases db.versions.find? (·.id = key) with
    | none => rfl
    | some row =>
      dsimp only [Option.map_some]
      split <;> rfl
  · funext key
    dsimp only [Db.marks]
    rw [hversions]
    cases db.versions.find? (·.id = key) with
    | none => rfl
    | some row =>
      dsimp only [Option.map_some, Option.any_some]
      split <;> rfl
  · funext key
    dsimp only [Db.marks]
    rw [hnotices]
    cases db.notices.find? (·.id = key) with
    | none => rfl
    | some row =>
      dsimp only [Option.map_some, Option.bind_some]
      split <;> rfl

/-- The item is written to a version that the notice it finds names as its current one. -/
def Item.FindsNamed (python : Python) (conn : Connection) (context : Context) (item : Item) (notice : TenderNotice)
    (version : NoticeVersion) : Prop :=
  item.noticeIn python conn (context.sourceIdOf conn item) context.db.notices = .ok (some notice) ∧
    version ∈ context.db.versions ∧ item.NamesVersion python notice.id version ∧
      notice.currentVersionId = some version.id

/-- How a call changes the marks: not at all, or by storing a version of a notice, with the flag of
the item. -/
inductive MarksStep (python : Python) (conn : Connection) (context : Context) (call : WriterCall) (after : Db) :
    Prop where
  | kept (h : after.marks = context.db.marks)
  | stored {original item : Item} {noticeId versionId : ℕ} (hcall : call = .noticeVersion original)
      (hitem : normalizeNoticeItem python original = .ok item)
      (howner : ∀ owner, context.db.marks.owner versionId = some owner → owner = noticeId)
      (h : after.marks = context.db.marks.store noticeId versionId (item.isCurrent.asBool python true))
      (hnamed : context.db.marks.named noticeId = some versionId → context.db.marks.owner versionId = some noticeId →
        ∃ notice version, item.FindsNamed python conn context notice version)

theorem RecordsMerged.marks_eq {item : Item} {sourceSiteId : ℕ} {state after : CallState}
    (h : RecordsMerged python conn item sourceSiteId state after) : after.work.marks = state.work.marks := by
  cases h with
  | kept h => exact marks_of_records h
  | merged hmerged h => exact (marks_of_records h).trans hmerged.marks_eq.1

/-- Storing a version of an item stores it in the marks of the rows it started from. -/
theorem marks_storeNoticeVersion {original item : Item} {found last : CallState}
    (hitem : normalizeNoticeItem python original = .ok item) (hfound : found.records = context.opened.records)
    (hrun : (storeNoticeVersion python conn item (context.sourceIdOf conn item)).run.run found = (.ok true, last)) :
    MarksStep python conn context (.noticeVersion original) last.work := by
  have hstored : Ensures (fun reached after ↦ reached = true →
      MarksStep python conn context (.noticeVersion original) after.work)
      (storeNoticeVersion python conn item (context.sourceIdOf conn item)) found := by
    refine ensures_mono ensures_versionWritten ?_
    intro reached after hwritten hreached
    obtain ⟨notice, created, version, versionCreated, ⟨middle, resolved, hmerged, hresolved, hstored⟩, hmergedIn⟩ :=
      hwritten hreached
    obtain ⟨hmarks, hversions, hmem⟩ := hmerged.marks_eq
    have hbefore : middle.work.marks = context.db.marks := hmarks.trans (marks_of_records hfound)
    have hstore := hstored.marks_eq hmem hresolved
    have howner := hresolved.owner_eq
    rw [hbefore] at hstore howner
    refine .stored rfl hitem ?_ hstore ?_
    · intro owner hof
      cases versionCreated with
      | true => cases howner.symm.trans hof
      | false => exact (Option.some.inj (howner.symm.trans hof)).symm
    · intro hnamed hof
      have hpointer := hmerged.named
      rw [hbefore, hnamed] at hpointer
      cases created with
      | true => cases hpointer.trans hmerged.created_pointer
      | false =>
        cases versionCreated with
        | true => cases howner.symm.trans hof
        | false =>
          obtain ⟨row, hrow, happlied⟩ := hmergedIn
          obtain ⟨hid, hkept⟩ := applyFields_pointer happlied
          have hnames := hresolved.namesVersion
          rw [hid] at hnames
          cases hresolved with
          | found hversion _ _ _ _ =>
            obtain ⟨hnotices, hfoundVersions⟩ := Prod.mk.inj hfound
            rw [hversions, hfoundVersions] at hversion
            rw [hnotices] at hrow
            exact ⟨row, version, hrow, hversion, hnames, hkept.symm.trans hpointer.symm⟩
  exact hstored.of_run hrun rfl

/-- A call leaves the marks of the database as they are, or stores one version in them. -/
theorem marks_step (python : Python) (conn : Connection) (context : Context) (call : WriterCall) :
    MarksStep python conn context call (context.step python (conn, call)).db := by
  rcases step_cases python context conn call with hkept | ⟨item, found, last, hcommitted⟩
  · exact .kept (congrArg Db.marks hkept)
  · have hstep : (context.step python (conn, call)).db.marks = last.work.marks := by
      rw [hcommitted.step]
      exact marks_stored conn context.db last.work
    have hrecords : found.records = context.opened.records := hcommitted.sourceFound.records_eq
    by_cases hversion : ∃ original, call = .noticeVersion original
    · obtain ⟨original, rfl⟩ := hversion
      have hmarks := marks_storeNoticeVersion hcommitted.normalized hrecords hcommitted.run
      cases hmarks with
      | kept h => exact .kept (hstep.trans h)
      | stored hcall hitem howner h hnamed => exact .stored hcall hitem howner (hstep.trans h) hnamed
    · have hmerged := (ensures_recordsMerged (not_exists.mp hversion)).of_run hcommitted.run
      exact .kept (hstep.trans (hmerged.marks_eq.trans (marks_of_records hrecords)))

end Step

end TenderPhase1.Crawler
