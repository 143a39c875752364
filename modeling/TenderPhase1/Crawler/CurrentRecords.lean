import TenderPhase1.Crawler.Instances
import TenderPhase1.Crawler.VersionSet

/-!
# Version sets and current versions over runs

In every run each notice has versions with distinct numbers and distinct contents, at
most one of them current, and names none but its own. The flag and the pointer say the
same of every version as long as no call takes the flag from a version that its notice
names.
-/

namespace TenderPhase1.Crawler

open Jobs Raising Transition CurrentMarks

/-! ## What is read of a notice -/

/-- `_get_versions`: the versions of a notice, the greatest number first. -/
def Db.versionsOf (db : Db) (noticeId : ℕ) : List NoticeVersion :=
  (db.versions.filter (·.noticeId = noticeId)).insertionSort fun version other ↦
    other.versionNo < version.versionNo ∨ other.versionNo = version.versionNo ∧ other.id ≤ version.id

def TenderNotice.namedVersion (notice : TenderNotice) (versions : List NoticeVersion) : Option NoticeVersion :=
  notice.currentVersionId.bind fun id ↦ versions.find? (·.id = id)

/-- The first version that is flagged as current. -/
def flaggedVersion (versions : List NoticeVersion) : Option NoticeVersion := versions.find? (·.isCurrent)

def TenderNotice.resolveCurrentVersion (notice : TenderNotice) (versions : List NoticeVersion) :
    Option NoticeVersion :=
  notice.namedVersion versions <|> flaggedVersion versions <|> versions.head?

/-- The facts that hold of the versions of every notice. -/
structure Db.VersionSet (db : Db) (notice : TenderNotice) : Prop where
  versionNos : ((db.versionsOf notice.id).map NoticeVersion.versionNo).Nodup
  contentHashes : ((db.versionsOf notice.id).map NoticeVersion.contentHash).Nodup
  oneCurrent : ∀ version ∈ db.versionsOf notice.id, ∀ other ∈ db.versionsOf notice.id,
    version.isCurrent → other.isCurrent → version = other
  named : ∀ id, notice.currentVersionId = some id → ∃ version ∈ db.versionsOf notice.id, version.id = id

/-- The two records of the current version of a notice agree: its pointer names exactly the version
that is flagged, and a reader finds the same version by either. -/
structure Db.CurrentRecords (db : Db) (notice : TenderNotice) : Prop where
  agree : ∀ version ∈ db.versionsOf notice.id, notice.currentVersionId = some version.id ↔ version.isCurrent
  resolved : (∃ version ∈ db.versionsOf notice.id, version.isCurrent) →
    notice.namedVersion (db.versionsOf notice.id) = flaggedVersion (db.versionsOf notice.id) ∧
      notice.resolveCurrentVersion (db.versionsOf notice.id) = flaggedVersion (db.versionsOf notice.id)

/-- The foreign key of the versions to their notices. -/
def Db.VersionsOwned (db : Db) : Prop := ∀ version ∈ db.versions, ∃ notice ∈ db.notices, notice.id = version.noticeId

/-! ## Rows and marks -/

section Rows

variable {db : Db} {notice : TenderNotice} {version : NoticeVersion}

theorem mem_versionsOf {noticeId : ℕ} : version ∈ db.versionsOf noticeId ↔ version ∈ db.versions ∧ version.noticeId = noticeId := by
  unfold Db.versionsOf
  rw [List.mem_insertionSort, List.mem_filter, decide_eq_true_eq]

theorem versionIds_nodup (h : db.unique) : (db.versions.map NoticeVersion.id).Nodup :=
  (uniqueVersions_iff.mp (unique_iff.mp h).2.2.2.1).1

theorem noticeIds_nodup (h : db.unique) : (db.notices.map TenderNotice.id).Nodup :=
  (uniqueNotices_iff.mp (unique_iff.mp h).2.2.1).1

theorem owner_of_mem (h : db.unique) (hversion : version ∈ db.versions) :
    db.marks.owner version.id = some version.noticeId := by
  dsimp only [Db.marks]
  rw [find?_eq_some_of_mem (versionIds_nodup h) hversion, Option.map_some]

theorem flagged_of_mem (h : db.unique) (hversion : version ∈ db.versions) :
    db.marks.flagged version.id = version.isCurrent := by
  dsimp only [Db.marks]
  rw [find?_eq_some_of_mem (versionIds_nodup h) hversion, Option.any_some]

theorem named_of_mem (h : db.unique) (hnotice : notice ∈ db.notices) :
    db.marks.named notice.id = notice.currentVersionId := by
  dsimp only [Db.marks]
  rw [find?_eq_some_of_mem (noticeIds_nodup h) hnotice, Option.bind_some]

theorem mem_of_owner {owner id : ℕ} (h : db.marks.owner id = some owner) :
    ∃ version ∈ db.versions, version.id = id ∧ version.noticeId = owner := by
  obtain ⟨version, hfound, howner⟩ := Option.map_eq_some_iff.mp h
  obtain ⟨hmem, hid⟩ := mem_of_find? hfound
  exact ⟨version, hmem, hid, howner⟩

theorem mem_of_named {owner id : ℕ} (h : db.marks.named owner = some id) :
    ∃ notice ∈ db.notices, notice.id = owner ∧ notice.currentVersionId = some id := by
  obtain ⟨notice, hfound, hnamed⟩ := Option.bind_eq_some_iff.mp h
  obtain ⟨hmem, hid⟩ := mem_of_find? hfound
  exact ⟨notice, hmem, hid, hnamed⟩

end Rows

/-- What every call keeps of the database: its constraints, at most one flag for each notice, and
pointers to own versions. -/
structure Db.MarksSound (db : Db) : Prop where
  unique : db.unique
  oneFlagged : db.marks.OneFlagged
  namesOwn : db.marks.NamesOwn

section Sound

variable {db : Db} {notice : TenderNotice}

/-- Where every version set is sound, the marks are. -/
theorem marksSound_of_versionSets (hunique : db.unique) (howned : db.VersionsOwned)
    (hsets : ∀ notice ∈ db.notices, db.VersionSet notice) : db.MarksSound := by
  refine ⟨hunique, ?_, ?_⟩
  · intro owner member other hmember hother hflagged hotherFlagged
    obtain ⟨version, hversion, rfl, hof⟩ := mem_of_owner hmember
    obtain ⟨sibling, hsibling, rfl, hsiblingOf⟩ := mem_of_owner hother
    obtain ⟨notice, hnotice, hid⟩ := howned version hversion
    rw [flagged_of_mem hunique hversion] at hflagged
    rw [flagged_of_mem hunique hsibling] at hotherFlagged
    have hsame := (hsets notice hnotice).oneCurrent version (mem_versionsOf.mpr ⟨hversion, hid.symm⟩) sibling
      (mem_versionsOf.mpr ⟨hsibling, hsiblingOf.trans (hof.symm.trans hid.symm)⟩) hflagged hotherFlagged
    rw [hsame]
  · intro owner member hnamed
    obtain ⟨notice, hnotice, rfl, hpointer⟩ := mem_of_named hnamed
    obtain ⟨version, hversion, rfl⟩ := (hsets notice hnotice).named member hpointer
    obtain ⟨hmem, hof⟩ := mem_versionsOf.mp hversion
    rw [owner_of_mem hunique hmem, hof]

/-- Sound marks are the version set of every notice. -/
theorem Db.MarksSound.versionSet (h : db.MarksSound) (hnotice : notice ∈ db.notices) : db.VersionSet notice := by
  have hperm : (db.versionsOf notice.id).Perm (db.versions.filter (·.noticeId = notice.id)) :=
    List.perm_insertionSort _ _
  obtain ⟨-, hnumbers, hcontents⟩ := uniqueVersions_iff.mp (unique_iff.mp h.unique).2.2.2.1
  have hdistinct {Key : Type} (key : NoticeVersion → Key)
      (hkeys : (db.versions.map fun row ↦ (row.noticeId, key row)).Nodup) :
      ((db.versionsOf notice.id).map key).Nodup := by
    have hpairs := List.Pairwise.filter (fun version : NoticeVersion ↦ version.noticeId = notice.id)
      (List.pairwise_map.mp hkeys)
    rw [(hperm.map key).nodup_iff]
    apply List.pairwise_map.mpr
    refine hpairs.imp_of_mem ?_
    intro version other hversion hother hne hkey
    have hof : version.noticeId = notice.id := of_decide_eq_true (List.mem_filter.mp hversion).2
    have hotherOf : other.noticeId = notice.id := of_decide_eq_true (List.mem_filter.mp hother).2
    exact hne (Prod.ext (hof.trans hotherOf.symm) hkey)
  refine ⟨hdistinct _ hnumbers, hdistinct _ hcontents, ?_, ?_⟩
  · intro version hversion other hother hcurrent hotherCurrent
    obtain ⟨hmem, hof⟩ := mem_versionsOf.mp hversion
    obtain ⟨hotherMem, hotherOf⟩ := mem_versionsOf.mp hother
    have hid : version.id = other.id := by
      apply h.oneFlagged notice.id
      · rw [owner_of_mem h.unique hmem, hof]
      · rw [owner_of_mem h.unique hotherMem, hotherOf]
      · rw [flagged_of_mem h.unique hmem]
        exact hcurrent
      · rw [flagged_of_mem h.unique hotherMem]
        exact hotherCurrent
    exact eq_of_id_eq (versionIds_nodup h.unique) hotherMem hmem hid
  · intro id hpointer
    have howner := h.namesOwn notice.id id ((named_of_mem h.unique hnotice).trans hpointer)
    obtain ⟨version, hmem, hid, hof⟩ := mem_of_owner howner
    exact ⟨version, mem_versionsOf.mpr ⟨hmem, hof⟩, hid⟩

theorem Db.MarksSound.step {python : Python} {context : Context} (event : Connection × WriterCall)
    (h : context.db.MarksSound) : (context.step python event).db.MarksSound := by
  obtain ⟨conn, call⟩ := event
  have hunique : (context.step python (conn, call)).db.unique := by
    rcases step_cases python context conn call with hkept | ⟨item, found, last, hcommitted⟩
    · rw [hkept]
      exact h.unique
    · rw [hcommitted.step]
      exact unique_stored (unique_of_accepts hcommitted.accepted)
  cases marks_step python conn context call with
  | kept hmarks => exact ⟨hunique, hmarks ▸ h.oneFlagged, hmarks ▸ h.namesOwn⟩
  | stored _ _ howner hmarks _ => exact ⟨hunique, hmarks ▸ h.oneFlagged.store, hmarks ▸ h.namesOwn.store howner⟩

end Sound

/-! ## Version sets -/

/-- The uniqueness constraint of the version numbers. -/
def Db.DistinctVersionNos (db : Db) : Prop := (db.versions.map fun row ↦ (row.noticeId, row.versionNo)).Nodup

def Db.DistinctContentHashes (db : Db) : Prop := (db.versions.map fun row ↦ (row.noticeId, row.contentHash)).Nodup

/-- In every run, after each call, each notice has a sound set of versions, and no call fails on the
constraints of the versions. -/
theorem versionSet_sound (python : Python) (context : Context) (hunique : context.db.unique)
    (howned : context.db.VersionsOwned) (hsets : ∀ notice ∈ context.db.notices, context.db.VersionSet notice)
    (events : List (Connection × WriterCall)) :
    Along (Context.step python) (fun before event ↦
      (∀ notice ∈ (before.step python event).db.notices, (before.step python event).db.VersionSet notice) ∧
        ¬ FailsOn python Db.DistinctVersionNos before event ∧
        ¬ FailsOn python Db.DistinctContentHashes before event) context events := by
  have hkeep (before : Context) (event : Connection × WriterCall) (hbefore : before.db.MarksSound) (_ : True) :
      (before.step python event).db.MarksSound := hbefore.step event
  refine along_of_invariant hkeep ?_ context events (marksSound_of_versionSets hunique howned hsets)
    (along_of_forall_mem (fun _ _ ↦ trivial) context)
  intro before event hbefore _
  have hversions := (unique_iff.mp hbefore.unique).2.2.2.1
  have hends : Ends (fun _ after ↦ after.VersionsUnique) (event.2.program python event.1) before.opened :=
    ends_unique_program hversions
  refine ⟨fun notice hnotice ↦ (hbefore.step event).versionSet hnotice, ?_, ?_⟩
  · exact not_failsOn_of_ends (ends_mono hends fun _ after hafter ↦ (uniqueVersions_iff.mp hafter).2.1)
  · exact not_failsOn_of_ends (ends_mono hends fun _ after hafter ↦ (uniqueVersions_iff.mp hafter).2.2)

/-- An item of the source a, titled t, with one content; current or not. -/
def titledVersion (current : Bool) : Item where
  sourceCode := some (.str "a")
  title := some (.str "t")
  contentHash := some (.str "h")
  isCurrent := some (.ofBool current)

theorem versionSet_sound_titled :
    Along (Context.step (plainPython titleDigests)) (fun before event ↦
      (∀ notice ∈ (before.step (plainPython titleDigests) event).db.notices,
        (before.step (plainPython titleDigests) event).db.VersionSet notice) ∧
        ¬ FailsOn (plainPython titleDigests) Db.DistinctVersionNos before event ∧
        ¬ FailsOn (plainPython titleDigests) Db.DistinctContentHashes before event)
      ⟨[], emptyDb⟩ [(sqlite epoch, .noticeVersion (titledVersion true)), (sqlite epoch, .notice (titledVersion true)),
        (sqlite epoch, .noticeVersion (titledVersion false)), (sqlite epoch, .attachment (titledVersion true))] :=
  versionSet_sound (plainPython titleDigests) ⟨[], emptyDb⟩ (by decide) (fun _ h ↦ (nomatch h)) (fun _ h ↦ (nomatch h)) _

/-! ## The two records of the current version -/

/-- The call writes an item that is not current to the version that its notice names. -/
def Unflags (python : Python) (context : Context) (event : Connection × WriterCall) : Prop :=
  ∃ original item notice version, event.2 = .noticeVersion original ∧ normalizeNoticeItem python original = .ok item ∧
    item.isCurrent.asBool python true = false ∧ item.FindsNamed python event.1 context notice version

section Records

variable {python : Python} {db : Db} {notice : TenderNotice}

theorem agrees_of_currentRecords (hunique : db.unique) (howned : db.VersionsOwned)
    (hrecords : ∀ notice ∈ db.notices, db.CurrentRecords notice) : db.marks.Agrees := by
  intro owner member howner
  obtain ⟨version, hversion, rfl, rfl⟩ := mem_of_owner howner
  obtain ⟨notice, hnotice, hid⟩ := howned version hversion
  rw [← hid, named_of_mem hunique hnotice, flagged_of_mem hunique hversion]
  exact (hrecords notice hnotice).agree version (mem_versionsOf.mpr ⟨hversion, hid.symm⟩)

/-- Sound marks that agree are the current records of every notice. -/
theorem Db.MarksSound.currentRecords (h : db.MarksSound) (hagrees : db.marks.Agrees) (hnotice : notice ∈ db.notices) :
    db.CurrentRecords notice := by
  have hagree (version : NoticeVersion) (hversion : version ∈ db.versionsOf notice.id) :
      notice.currentVersionId = some version.id ↔ version.isCurrent := by
    obtain ⟨hmem, hof⟩ := mem_versionsOf.mp hversion
    rw [← named_of_mem h.unique hnotice, ← flagged_of_mem h.unique hmem]
    exact hagrees notice.id version.id ((owner_of_mem h.unique hmem).trans (congrArg some hof))
  refine ⟨hagree, ?_⟩
  rintro ⟨version, hversion, hcurrent⟩
  have hpointer := (hagree version hversion).mpr hcurrent
  have hids : ((db.versionsOf notice.id).map NoticeVersion.id).Nodup := by
    have hperm : (db.versionsOf notice.id).Perm (db.versions.filter (·.noticeId = notice.id)) :=
      List.perm_insertionSort _ _
    rw [(hperm.map NoticeVersion.id).nodup_iff]
    exact (versionIds_nodup h.unique).sublist (List.filter_sublist.map NoticeVersion.id)
  have hnamed : notice.namedVersion (db.versionsOf notice.id) = some version := by
    unfold TenderNotice.namedVersion
    rw [hpointer, Option.bind_some]
    exact find?_eq_some_of_mem hids hversion
  have hflagged : flaggedVersion (db.versionsOf notice.id) = some version := by
    have hsome : (flaggedVersion (db.versionsOf notice.id)).isSome := by
      unfold flaggedVersion
      rw [List.find?_isSome]
      exact ⟨version, hversion, hcurrent⟩
    obtain ⟨first, hfirst⟩ := Option.isSome_iff_exists.mp hsome
    rw [hfirst, (h.versionSet hnotice).oneCurrent first (List.mem_of_find?_eq_some hfirst) version hversion
      (List.find?_some (p := fun version : NoticeVersion ↦ version.isCurrent) hfirst) hcurrent]
  unfold TenderNotice.resolveCurrentVersion
  rw [hnamed, hflagged]
  exact ⟨rfl, rfl⟩

/-- A call that does not take the flag from the named version keeps the two records in agreement. -/
theorem agrees_step {context : Context} {event : Connection × WriterCall} (h : context.db.MarksSound)
    (hagrees : context.db.marks.Agrees) (hflag : ¬ Unflags python context event) :
    (context.step python event).db.marks.Agrees := by
  obtain ⟨conn, call⟩ := event
  cases marks_step python conn context call with
  | kept hmarks => exact hmarks ▸ hagrees
  | stored hcall hitem howner hmarks hfinds =>
    rw [hmarks, Marks.agrees_store_iff hagrees]
    intro hnotCurrent hnamed
    obtain ⟨notice, version, hfound⟩ := hfinds hnamed (h.namesOwn _ _ hnamed)
    exact hflag ⟨_, _, notice, version, hcall, hitem, hnotCurrent, hfound⟩

end Records

/-- In every run of which no call takes the flag from a version that its notice names, the two records
of the current version of each notice agree after each call. -/
theorem currentRecords_agree (python : Python) (context : Context) (hunique : context.db.unique)
    (howned : context.db.VersionsOwned) (hsets : ∀ notice ∈ context.db.notices, context.db.VersionSet notice)
    (hrecords : ∀ notice ∈ context.db.notices, context.db.CurrentRecords notice)
    (events : List (Connection × WriterCall))
    (hflags : Along (Context.step python) (fun before event ↦ ¬ Unflags python before event) context events) :
    Along (Context.step python) (fun before event ↦ ∀ notice ∈ (before.step python event).db.notices,
      (before.step python event).db.CurrentRecords notice) context events := by
  have hkeep (before : Context) (event : Connection × WriterCall)
      (hbefore : before.db.MarksSound ∧ before.db.marks.Agrees) (hflag : ¬ Unflags python before event) :
      (before.step python event).db.MarksSound ∧ (before.step python event).db.marks.Agrees :=
    ⟨hbefore.1.step event, agrees_step hbefore.1 hbefore.2 hflag⟩
  refine along_of_invariant hkeep ?_ context events
    ⟨marksSound_of_versionSets hunique howned hsets, agrees_of_currentRecords hunique howned hrecords⟩ hflags
  intro before event hbefore hflag notice hnotice
  obtain ⟨hsound, hagrees⟩ := hkeep before event hbefore hflag
  exact hsound.currentRecords hagrees hnotice

/-- A version that is delivered twice as the current one. -/
theorem currentRecords_agree_titled :
    Along (Context.step (plainPython titleDigests)) (fun before event ↦
      ∀ notice ∈ (before.step (plainPython titleDigests) event).db.notices,
        (before.step (plainPython titleDigests) event).db.CurrentRecords notice)
      ⟨[], emptyDb⟩ [(sqlite epoch, .noticeVersion (titledVersion true)),
        (sqlite epoch, .noticeVersion (titledVersion true))] := by
  have hflag (before : Context) :
      ¬ Unflags (plainPython titleDigests) before (sqlite epoch, .noticeVersion (titledVersion true)) := by
    rintro ⟨original, item, notice, version, ⟨⟩, hitem, hnotCurrent, -⟩
    obtain ⟨identity, dedupKey, sourceDuplicateKey, rfl⟩ := normalizeNoticeItem_eq_ok hitem
    have hcurrent : (titledVersion true).isCurrent.asBool (plainPython titleDigests) true = false := hnotCurrent
    rw [show (titledVersion true).isCurrent = some (PyObject.ofBool true) from rfl,
      Value.asBool_ofBool_true] at hcurrent
    cases hcurrent
  exact currentRecords_agree (plainPython titleDigests) ⟨[], emptyDb⟩ (by decide) (fun _ h ↦ (nomatch h))
    (fun _ h ↦ (nomatch h)) (fun _ h ↦ (nomatch h)) _ ⟨hflag _, hflag _, trivial⟩

/-- A version is written as current, and then once more as not current: its notice still names it. -/
theorem currentRecords_disagree_titled :
    ¬ Along (Context.step (plainPython titleDigests)) (fun before event ↦
      ∀ notice ∈ (before.step (plainPython titleDigests) event).db.notices,
        (before.step (plainPython titleDigests) event).db.CurrentRecords notice)
      ⟨[], emptyDb⟩ [(sqlite epoch, .noticeVersion (titledVersion true)),
        (sqlite epoch, .noticeVersion (titledVersion false))] := by
  intro h
  have hrows : ∃ notice ∈ (((⟨[], emptyDb⟩ : Context).step (plainPython titleDigests)
        (sqlite epoch, .noticeVersion (titledVersion true))).step (plainPython titleDigests)
        (sqlite epoch, .noticeVersion (titledVersion false))).db.notices,
      ∃ version ∈ (((⟨[], emptyDb⟩ : Context).step (plainPython titleDigests)
        (sqlite epoch, .noticeVersion (titledVersion true))).step (plainPython titleDigests)
        (sqlite epoch, .noticeVersion (titledVersion false))).db.versionsOf notice.id,
      notice.currentVersionId = some version.id ∧ version.isCurrent = false := by decide +kernel
  obtain ⟨notice, hnotice, version, hversion, hnamed, hflag⟩ := hrows
  have hcurrent := ((h.2.1 notice hnotice).agree version hversion).mp hnamed
  exact absurd (hcurrent.symm.trans hflag) (by decide)

end TenderPhase1.Crawler
