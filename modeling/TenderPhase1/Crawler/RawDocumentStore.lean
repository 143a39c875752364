import TenderPhase1.Crawler.LinkedVersion
import TenderPhase1.Foundation.KeyedRows

/-!
# The archive of raw documents

The raw documents of a source lie under the hashes of their normalised URLs. A call archives at
most one document, and what lies under its key is replaced; the rest of the archive is as it was.
-/

namespace TenderPhase1.Crawler

open Jobs Raising KeyedRows

/-- What a raw document holds of its page: the job that fetched it, the content and the metadata. -/
structure ArchivedPage where
  crawlJobId : Option ℤ
  contentHash : Option String
  extraMeta : Option Mapping
  deriving DecidableEq, Repr

def RawDocument.key (document : RawDocument) : ℕ × String := (document.sourceSiteId, document.urlHash)

def RawDocument.page (document : RawDocument) : ArchivedPage :=
  ⟨document.crawlJobId, document.contentHash, document.extraMeta⟩

/-- The archive as a store of pages under keys. -/
def Db.archive (db : Db) (key : ℕ × String) : Option ArchivedPage :=
  (rowAt RawDocument.key db.rawDocuments key).map RawDocument.page

def Item.page (python : Python) (item : Item) : ArchivedPage :=
  ⟨item.crawlJobId.asInt python, item.contentHash.asStr, item.extraMeta⟩

/-- The key and the page that a call archives: a raw document with a URL, where the call returns. -/
def Context.archives (context : Context) (python : Python) (event : Connection × WriterCall) :
    Option ((ℕ × String) × ArchivedPage) :=
  match event.2, event.2.normalized python, ((event.2.program python event.1).run.run context.opened).1 with
  | .rawDocument _, .ok item, .ok () =>
      item.urlHash.asStr.map fun urlHash ↦ ((context.sourceIdOf event.1 item, urlHash), item.page python)
  | _, _, _ => none

section Store

variable {python : Python} {conn : Connection} {context : Context} {call : WriterCall} {original item : Item}
  {sourceSiteId : ℕ} {state found last : CallState}

/-- The table after a document is written: the document, and otherwise the rows with other keys. -/
structure DocumentWritten (key : ℕ × String) (page : ArchivedPage) (before after : List RawDocument) : Prop where
  keys : (after.map RawDocument.key).Nodup
  written : ∃ document : RawDocument, document.key = key ∧ document.page = page ∧
    ∀ row, row ∈ after ↔ row = document ∨ row ∈ before ∧ row.key ≠ key

theorem DocumentWritten.archive {key : ℕ × String} {page : ArchivedPage} {before after : List RawDocument}
    (h : DocumentWritten key page before after) (hkeys : (before.map RawDocument.key).Nodup) :
    (fun at' ↦ (rowAt RawDocument.key after at').map RawDocument.page) =
      Function.update (fun at' ↦ (rowAt RawDocument.key before at').map RawDocument.page) key (some page) := by
  obtain ⟨document, rfl, rfl, hrows⟩ := h.written
  rw [rowAt_written hkeys h.keys hrows]
  funext at'
  by_cases hat : at' = document.key
  · subst hat
    simp
  · simp [Function.update_of_ne hat]

theorem rawDocumentIds_nodup {db : Db} (h : db.unique) : (db.rawDocuments.map RawDocument.id).Nodup :=
  (uniqueRawDocuments_iff.mp (unique_iff.mp h).2.1).1

theorem rawDocumentKeys_nodup {db : Db} (h : db.unique) : (db.rawDocuments.map RawDocument.key).Nodup :=
  (uniqueRawDocuments_iff.mp (unique_iff.mp h).2.1).2

/-- A new row writes its page under its key. -/
theorem documentWritten_append {row : RawDocument} {rows : List RawDocument} {key : ℕ × String} {page : ArchivedPage}
    (hkeys : (rows.map RawDocument.key).Nodup) (hkey : row.key = key) (hpage : row.page = page)
    (hfresh : ∀ other ∈ rows, other.key ≠ key) : DocumentWritten key page rows (rows ++ [row]) where
  keys := by
    rw [← hkey] at hfresh
    exact nodup_map_append hkeys hfresh
  written := by
    refine ⟨row, hkey, hpage, fun other ↦ ?_⟩
    rw [List.mem_append, List.mem_singleton]
    constructor
    · rintro (hold | rfl)
      · exact Or.inr ⟨hold, hfresh other hold⟩
      · exact Or.inl rfl
    · rintro (rfl | ⟨hold, -⟩)
      · exact Or.inr rfl
      · exact Or.inl hold

/-- Replacing the row of a key writes the page of that key. -/
theorem documentWritten_putRow {row existing : RawDocument} {rows : List RawDocument} {key : ℕ × String}
    {page : ArchivedPage} (hids : (rows.map RawDocument.id).Nodup) (hkeys : (rows.map RawDocument.key).Nodup)
    (hexisting : existing ∈ rows) (hid : row.id = existing.id) (hsame : existing.key = key) (hkey : row.key = key)
    (hpage : row.page = page) : DocumentWritten key page rows (putRow RawDocument.id row rows) where
  keys := by
    rw [map_putRow hids hexisting hid (hkey.trans hsame.symm)]
    exact hkeys
  written := by
    refine ⟨row, hkey, hpage, fun other ↦ ?_⟩
    constructor
    · intro hother
      obtain ⟨old, hold, rfl⟩ := List.mem_map.mp hother
      by_cases hreplaced : old.id = row.id
      · rw [if_pos hreplaced]
        exact Or.inl rfl
      · rw [if_neg hreplaced]
        refine Or.inr ⟨hold, fun holdKey ↦ hreplaced ?_⟩
        rw [List.inj_on_of_nodup_map hkeys hold hexisting (holdKey.trans hsame.symm), hid]
    · rintro (rfl | ⟨hold, hne⟩)
      · exact mem_putRow hexisting hid
      · refine mem_putRow_of_ne hold fun hotherId ↦ hne ?_
        rw [eq_of_id_eq hids hexisting hold (hotherId.trans hid), hsame]

/-- The document is inserted, or written over the one under its key. -/
theorem ensures_putRawDocument {urlHash : String} {existing : Option RawDocument} {isDuplicateContent : Bool}
    (hunique : state.work.unique)
    (hexisting : existing = conn.first (fun row ↦ row.sourceSiteId = sourceSiteId ∧ row.urlHash = urlHash)
      state.work.rawDocuments) :
    Ensures (fun _ after ↦
        DocumentWritten (sourceSiteId, urlHash) (item.page python) state.work.rawDocuments after.work.rawDocuments)
      (putRawDocument python conn item sourceSiteId urlHash existing isDuplicateContent) state := by
  have hids := rawDocumentIds_nodup hunique
  have hkeys := rawDocumentKeys_nodup hunique
  unfold putRawDocument
  cases existing with
  | none =>
    apply ensures_update
    refine documentWritten_append hkeys rfl rfl ?_
    intro other hother hkey
    have hmissing := filter_eq_false_of_head?_answer hexisting.symm other hother
    rw [decide_eq_false_iff_not] at hmissing
    exact hmissing ⟨congrArg Prod.fst hkey, congrArg Prod.snd hkey⟩
  | some existing =>
    obtain ⟨hmem, hmatches⟩ := mem_of_head?_answer hexisting.symm
    obtain ⟨hsource, hhash⟩ := of_decide_eq_true hmatches
    apply ensures_update
    exact documentWritten_putRow hids hkeys hmem rfl (Prod.ext hsource hhash) rfl rfl

/-- The page of the item is written under its key, and every other row stays. -/
theorem ensures_storeRawDocumentAt {urlHash : String} :
    Ensures (fun _ after ↦
        DocumentWritten (sourceSiteId, urlHash) (item.page python) state.work.rawDocuments after.work.rawDocuments)
      (storeRawDocumentAt python conn item urlHash sourceSiteId) state := by
  apply ensures_bind
  apply ensures_scalar
  intro haccepts
  apply ensures_bind
  refine ensures_of_reads (fun _ ↦ keeps_duplicateContentId) ?_
  intro duplicateContentId
  apply ensures_bind
  refine ensures_mono (ensures_putRawDocument (unique_of_accepts haccepts) rfl) ?_
  intro _ put hput
  apply ensures_bind
  apply ensures_recordStats
  intro jobs
  exact ensures_pure hput

/-- Filling the column defaults changes no page. -/
theorem archive_stored (committed work : Db) : (Db.stored conn committed work).archive = work.archive := by
  funext key
  have hkey (document : RawDocument) :
      (if document ∈ committed.rawDocuments then document else document.stored conn).key = document.key := by
    split <;> rfl
  have hpage : (RawDocument.page ∘ fun document ↦
      if document ∈ committed.rawDocuments then document else document.stored conn) = RawDocument.page := by
    funext document
    simp only [Function.comp_apply]
    split <;> rfl
  calc (Db.stored conn committed work).archive key
      = ((rowAt RawDocument.key work.rawDocuments key).map fun document ↦
          if document ∈ committed.rawDocuments then document else document.stored conn).map RawDocument.page := by
        rw [← rowAt_map hkey]
        rfl
    _ = work.archive key := by
        rw [Option.map_map, hpage]
        rfl

/-- A call for anything but a raw document leaves the archive alone. -/
theorem CommittedCall.rawDocuments_eq {id : ℕ} (h : CommittedCall python context conn call item id found last)
    (hcall : ∀ original, call ≠ .rawDocument original) : last.work.rawDocuments = context.db.rawDocuments := by
  have hfound : found.work.rawDocuments = context.db.rawDocuments := by
    cases h.sourceFound <;> rfl
  rw [← hfound]
  have hlast {program : Call Bool} (hkeeps : Keeps (fun state ↦ state.work.rawDocuments = found.work.rawDocuments) program)
      (hrun : program.run.run found = (.ok true, last)) : last.work.rawDocuments = found.work.rawDocuments := by
    have hkept := hkeeps found rfl
    unfold Ends at hkept
    rw [hrun] at hkept
    exact hkept
  have hrun := h.run
  cases call with
  | rawDocument original => exact absurd rfl (hcall original)
  | notice _ => exact hlast (keeps_view_storeNotice Db.rawDocuments (fun _ _ ↦ rfl) fun _ _ ↦ rfl) hrun
  | noticeVersion _ =>
    exact hlast (keeps_view_storeNoticeVersion Db.rawDocuments (fun _ _ ↦ rfl) (fun _ _ ↦ rfl) fun _ _ ↦ rfl) hrun
  | attachment _ =>
    exact hlast (keeps_view_storeAttachment Db.rawDocuments (fun _ _ ↦ rfl) (fun _ _ ↦ rfl) fun _ _ ↦ rfl) hrun
  | error _ => exact hlast (keeps_view_storeError Db.rawDocuments (fun _ _ ↦ rfl) fun _ _ ↦ rfl) hrun

/-- What one call does to the archive. -/
theorem archive_step (python : Python) (context : Context) (conn : Connection) (call : WriterCall)
    (hunique : context.db.unique) :
    (context.step python (conn, call)).db.archive =
      (context.archives python (conn, call)).elim context.db.archive fun write ↦
        Function.update context.db.archive write.1 (some write.2) := by
  have hends := ends_program python context conn call
  unfold Ends at hends
  rcases hends with ⟨hkept, hincomplete⟩ | ⟨item, found, last, hitem, hfound, hrun, hsources, haccepts, hclosed, houtcome⟩
  · have hdb : (context.step python (conn, call)).db = context.db := hkept
    have hnothing : context.archives python (conn, call) = none := by
      cases call with
      | rawDocument original =>
        unfold Context.archives
        split
        · rename_i item hcall hitem houtcome
          obtain ⟨found, hfound, hnot⟩ := hincomplete houtcome
          obtain rfl : found = item := Except.ok.inj (hfound.symm.trans hitem)
          have hmissing : found.urlHash.asStr = none := by simpa [WriterCall.complete] using hnot
          rw [hmissing, Option.map_none]
        · rfl
      | _ => rfl
    rw [hdb, hnothing, Option.elim_none]
  · have hcommitted : CommittedCall python context conn call item (context.sourceIdOf conn item) found last :=
      ⟨hitem, hfound, hrun, hsources, haccepts, hclosed⟩
    rw [hcommitted.step, archive_stored]
    cases call with
    | rawDocument original =>
      have hfoundDocuments : found.work.rawDocuments = context.db.rawDocuments := by
        cases hfound <;> rfl
      have hstore : (storeRawDocument python conn item (context.sourceIdOf conn item)).run.run found =
          (.ok true, last) := hrun
      unfold storeRawDocument at hstore
      cases hhash : item.urlHash.asStr with
      | none =>
        rw [hhash] at hstore
        cases hstore
      | some urlHash =>
        rw [hhash] at hstore
        have hwritten := ensures_storeRawDocumentAt.of_run hstore
        rw [hfoundDocuments] at hwritten
        have harchives : context.archives python (conn, .rawDocument original) =
            some ((context.sourceIdOf conn item, urlHash), item.page python) := by
          simp only [Context.archives, hitem, houtcome, hhash, Option.map_some]
        rw [harchives, Option.elim_some]
        exact hwritten.archive (rawDocumentKeys_nodup hunique)
    | _ =>
      have hkept := hcommitted.rawDocuments_eq fun _ ↦ WriterCall.noConfusion
      unfold Db.archive
      rw [hkept]
      rfl

end Store

end TenderPhase1.Crawler
