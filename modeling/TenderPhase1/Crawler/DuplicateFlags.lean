import TenderPhase1.Crawler.DocumentAccepted
import TenderPhase1.Crawler.Instances

/-!
# The duplicate flags of a raw document

A call looks up one document with the content of its item, and compares it with the
document under its URL. The lookup may return that very document while others have
the content, too: then, and only then, the flag for the content is wrong.
-/

namespace TenderPhase1.Crawler

open Jobs Sources Raising Transition

/-- The flags say whether another document of the source has the content, and whether the URL was
archived before. -/
structure RawDocument.FlagsRight (document : RawDocument) (before : List RawDocument) : Prop where
  content : document.isDuplicateContent ↔ ∃ contentHash, document.contentHash = some contentHash ∧
    ∃ row ∈ before, row.id ≠ document.id ∧ row.sourceSiteId = document.sourceSiteId ∧
      row.contentHash = some contentHash
  url : document.isDuplicateUrl ↔ ∃ row ∈ before, row.key = document.key

/-- The document that the call leaves under its key has the right flags. -/
def Context.FlagsRight (context : Context) (python : Python) (conn : Connection) (original : Item) : Prop :=
  ∃ document ∈ (context.step python (conn, .rawDocument original)).db.rawDocuments,
    context.documentKey python conn original = some document.key ∧ document.FlagsRight context.db.rawDocuments

/-- A document of the source with the content, as the call looks it up. -/
def Item.sameContent (conn : Connection) (item : Item) (sourceSiteId : ℕ) (rows : List RawDocument) : Option RawDocument :=
  item.contentHash.asStr.bind fun contentHash ↦
    conn.first (fun row ↦ row.sourceSiteId = sourceSiteId ∧ row.contentHash = some contentHash) rows

/-- The lookup by the content returns the document under the key, though another one has the content. -/
def Item.FindsItself (conn : Connection) (item : Item) (key : ℕ × String) (rows : List RawDocument) : Prop :=
  ∃ own, item.sameContent conn key.1 rows = some own ∧ own.key = key ∧
    ∃ row ∈ rows, row.id ≠ own.id ∧ row.sourceSiteId = key.1 ∧ row.contentHash = item.contentHash.asStr

def Context.FindsItself (context : Context) (python : Python) (conn : Connection) (original : Item) : Prop :=
  ∃ item key, normalizeRawDocumentItem python original = .ok item ∧
    context.documentKey python conn original = some key ∧ item.FindsItself conn key context.db.rawDocuments

section Flags

variable {python : Python} {conn : Connection} {context : Context} {original item : Item} {sourceSiteId : ℕ}
  {urlHash : String} {state found last : CallState} {rows : List RawDocument}

/-- The document that a call has written, by the rows it found. -/
structure DocumentPut (conn : Connection) (item : Item) (key : ℕ × String) (before : List RawDocument)
    (document : RawDocument) : Prop where
  hasKey : document.key = key
  contentHash : document.contentHash = item.contentHash.asStr
  id : ∀ row ∈ before, row.id = document.id ↔ row.key = key
  duplicateUrl : document.isDuplicateUrl ↔ ∃ row ∈ before, row.key = key
  duplicateContent : document.isDuplicateContent ↔
    ∃ same, item.sameContent conn key.1 before = some same ∧ same.id ≠ document.id

theorem mem_of_sameContent {same : RawDocument} (h : item.sameContent conn sourceSiteId rows = some same) :
    same ∈ rows ∧ same.sourceSiteId = sourceSiteId ∧ same.contentHash = item.contentHash.asStr := by
  obtain ⟨contentHash, hcontent, hfirst⟩ := Option.bind_eq_some_iff.mp h
  obtain ⟨hmem, hmatches⟩ := mem_of_head?_answer hfirst
  obtain ⟨hsource, hhash⟩ := of_decide_eq_true hmatches
  exact ⟨hmem, hsource, hhash.trans hcontent.symm⟩

/-- Where some document of the source has the content, the lookup returns one. -/
theorem exists_sameContent {row : RawDocument} {contentHash : String} (hrow : row ∈ rows)
    (hsource : row.sourceSiteId = sourceSiteId) (hcontent : item.contentHash.asStr = some contentHash)
    (hhash : row.contentHash = some contentHash) : ∃ same, item.sameContent conn sourceSiteId rows = some same := by
  unfold Item.sameContent
  rw [hcontent, Option.bind_some]
  cases hfirst : conn.first (fun row ↦ row.sourceSiteId = sourceSiteId ∧ row.contentHash = some contentHash) rows with
  | some same => exact ⟨same, rfl⟩
  | none =>
    have hmissing := filter_eq_false_of_head?_answer hfirst row hrow
    rw [decide_eq_false_iff_not] at hmissing
    exact absurd ⟨hsource, hhash⟩ hmissing

theorem ensures_duplicateContentId :
    Ensures (fun id after ↦ after = state ∧
        id = (item.sameContent conn sourceSiteId state.work.rawDocuments).map RawDocument.id)
      (duplicateContentId conn item sourceSiteId) state := by
  unfold duplicateContentId Item.sameContent
  cases item.contentHash.asStr with
  | none => exact ensures_pure ⟨rfl, rfl⟩
  | some contentHash =>
    apply ensures_bind
    apply ensures_scalar
    intro _
    exact ensures_pure ⟨rfl, rfl⟩

/-- The document that a put leaves has the flag of the call and the content of the item. -/
theorem ensures_putRawDocument_put {existing : Option RawDocument} (hunique : state.work.unique)
    (hexisting : existing = conn.first (fun row ↦ row.sourceSiteId = sourceSiteId ∧ row.urlHash = urlHash)
      state.work.rawDocuments) :
    Ensures (fun _ after ↦ ∃ document ∈ after.work.rawDocuments,
        DocumentPut conn item (sourceSiteId, urlHash) state.work.rawDocuments document)
      (putRawDocument python conn item sourceSiteId urlHash existing
        (((item.sameContent conn sourceSiteId state.work.rawDocuments).map RawDocument.id).any fun id ↦
          existing.all (·.id ≠ id))) state := by
  have hids := rawDocumentIds_nodup hunique
  have hkeys := rawDocumentKeys_nodup hunique
  unfold putRawDocument
  cases existing with
  | none =>
    have hmissing (row : RawDocument) (hrow : row ∈ state.work.rawDocuments) : row.key ≠ (sourceSiteId, urlHash) := by
      intro hkey
      have hfilter := filter_eq_false_of_head?_answer hexisting.symm row hrow
      rw [decide_eq_false_iff_not] at hfilter
      exact hfilter ⟨congrArg Prod.fst hkey, congrArg Prod.snd hkey⟩
    apply ensures_update
    refine ⟨_, List.mem_append_right _ List.mem_cons_self, rfl, rfl, ?_, ?_, ?_⟩
    · intro row hrow
      exact iff_of_false (conn.nextId_ne hrow) (hmissing row hrow)
    · refine iff_of_false Bool.false_ne_true ?_
      rintro ⟨row, hrow, hkey⟩
      exact hmissing row hrow hkey
    · change (((item.sameContent conn sourceSiteId state.work.rawDocuments).map RawDocument.id).any fun _ ↦ true) = true ↔
        ∃ same : RawDocument, item.sameContent conn sourceSiteId state.work.rawDocuments = some same ∧
          same.id ≠ conn.nextId (state.work.rawDocuments.map RawDocument.id)
      cases hsame : item.sameContent conn sourceSiteId state.work.rawDocuments with
      | none => simp
      | some same => simpa using conn.nextId_ne (mem_of_sameContent hsame).1
  | some existing =>
    obtain ⟨hmem, hmatches⟩ := mem_of_head?_answer hexisting.symm
    obtain ⟨hsource, hhash⟩ := of_decide_eq_true hmatches
    have hkey : existing.key = (sourceSiteId, urlHash) := Prod.ext hsource hhash
    apply ensures_update
    refine ⟨_, mem_putRow hmem rfl, rfl, rfl, ?_, ?_, ?_⟩
    · intro row hrow
      constructor
      · intro hid
        rw [eq_of_id_eq hids hmem hrow hid, hkey]
      · intro hrowKey
        rw [List.inj_on_of_nodup_map hkeys hrow hmem (hrowKey.trans hkey.symm)]
        rfl
    · exact iff_of_true rfl ⟨existing, hmem, hkey⟩
    · change (((item.sameContent conn sourceSiteId state.work.rawDocuments).map RawDocument.id).any fun id ↦
          decide (existing.id ≠ id)) = true ↔
        ∃ same : RawDocument, item.sameContent conn sourceSiteId state.work.rawDocuments = some same ∧
          same.id ≠ existing.id
      cases item.sameContent conn sourceSiteId state.work.rawDocuments with
      | none => simp
      | some same => simp [ne_comm]

/-- The stored document is that of the item, with the flag that the earlier rows give it. -/
theorem ensures_storeRawDocumentAt_put :
    Ensures (fun _ after ↦ ∃ document ∈ after.work.rawDocuments,
        DocumentPut conn item (sourceSiteId, urlHash) state.work.rawDocuments document)
      (storeRawDocumentAt python conn item urlHash sourceSiteId) state := by
  apply ensures_bind
  apply ensures_scalar
  intro haccepts
  apply ensures_bind
  refine ensures_mono ensures_duplicateContentId ?_
  rintro _ _ ⟨rfl, rfl⟩
  apply ensures_bind
  refine ensures_mono (ensures_putRawDocument_put (unique_of_accepts haccepts) rfl) ?_
  intro _ put hput
  apply ensures_bind
  apply ensures_recordStats
  intro jobs
  exact ensures_pure hput

/-- The flag for the URL is right; the one for the content unless the lookup found the document itself. -/
theorem DocumentPut.flagsRight_iff {key : ℕ × String} {document : RawDocument} {before : List RawDocument}
    (h : DocumentPut conn item key before document) :
    document.FlagsRight before ↔ ¬ item.FindsItself conn key before := by
  have hsource : document.sourceSiteId = key.1 := congrArg Prod.fst h.hasKey
  have hother : (∃ contentHash, document.contentHash = some contentHash ∧
      ∃ row ∈ before, row.id ≠ document.id ∧ row.sourceSiteId = document.sourceSiteId ∧
        row.contentHash = some contentHash) ↔
      ∃ same, item.sameContent conn key.1 before = some same ∧ ∃ row ∈ before, row.id ≠ document.id ∧
        row.sourceSiteId = key.1 ∧ row.contentHash = item.contentHash.asStr := by
    rw [h.contentHash, hsource]
    constructor
    · rintro ⟨contentHash, hcontent, row, hrow, hne, hrowSource, hhash⟩
      obtain ⟨same, hsame⟩ : ∃ same, item.sameContent conn key.1 before = some same :=
        exists_sameContent hrow hrowSource hcontent hhash
      exact ⟨same, hsame, row, hrow, hne, hrowSource, hhash.trans hcontent.symm⟩
    · rintro ⟨same, hsame, row, hrow, hne, hrowSource, hhash⟩
      obtain ⟨contentHash, hcontent, -⟩ := Option.bind_eq_some_iff.mp hsame
      exact ⟨contentHash, hcontent, row, hrow, hne, hrowSource, hhash.trans hcontent⟩
  constructor
  · rintro ⟨hcontent, -⟩ ⟨own, hown, hkey, row, hrow, hne, hrowSource, hhash⟩
    have hsameId : own.id = document.id := (h.id own (mem_of_sameContent hown).1).mpr hkey
    obtain ⟨same, hsame, hnot⟩ := h.duplicateContent.mp (hcontent.mpr (hother.mpr
      ⟨own, hown, row, hrow, hsameId ▸ hne, hrowSource, hhash⟩))
    obtain rfl := Option.some.inj (hown.symm.trans hsame)
    exact hnot hsameId
  · intro hnot
    refine ⟨?_, ?_⟩
    · rw [h.duplicateContent, hother]
      constructor
      · rintro ⟨same, hsame, hne⟩
        obtain ⟨hmem, hsameSource, hhash⟩ := mem_of_sameContent hsame
        exact ⟨same, hsame, same, hmem, hne, hsameSource, hhash⟩
      · rintro ⟨same, hsame, row, hrow, hne, hrowSource, hhash⟩
        refine ⟨same, hsame, fun hid ↦ hnot ⟨same, hsame, ?_, row, hrow, hid ▸ hne, hrowSource, hhash⟩⟩
        exact (h.id same (mem_of_sameContent hsame).1).mp hid
    · rw [h.duplicateUrl, h.hasKey]

/-- The commit changes neither the columns nor the flags. -/
theorem DocumentPut.stored {key : ℕ × String} {document : RawDocument} {before : List RawDocument}
    (h : DocumentPut conn item key before document) : DocumentPut conn item key before (document.stored conn) :=
  ⟨h.hasKey, h.contentHash, h.id, h.duplicateUrl, h.duplicateContent⟩

theorem written_of_takesDocument (h : context.TakesDocument python conn original) :
    Written python context conn (.rawDocument original) := by
  have harchives := (isSome_archives_iff original).mpr h
  unfold Context.archives at harchives
  split at harchives
  · rename_i houtcome
    exact houtcome
  · cases harchives

/-- What a call that is taken leaves under its key. -/
theorem documentPut_step (h : context.TakesDocument python conn original) :
    ∃ item key, normalizeRawDocumentItem python original = .ok item ∧
      context.documentKey python conn original = some key ∧
      ∃ document ∈ (context.step python (conn, .rawDocument original)).db.rawDocuments,
        DocumentPut conn item key context.db.rawDocuments document := by
  have hwritten := written_of_takesDocument h
  obtain ⟨item, hitem, hhash, -⟩ := h
  obtain ⟨urlHash, hhash⟩ := Option.isSome_iff_exists.mp hhash
  refine ⟨item, (context.sourceIdOf conn item, urlHash), hitem, ?_, ?_⟩
  · simp only [Context.documentKey, hitem, hhash, Option.map_some]
  · rcases ends_program python context conn (.rawDocument original) with ⟨-, hincomplete⟩ | hcommitted
    · obtain ⟨other, hother, hnot⟩ := hincomplete hwritten
      obtain rfl := Except.ok.inj (hitem.symm.trans hother)
      exact absurd (Option.isSome_of_eq_some hhash) hnot
    · obtain ⟨other, found, last, hother, hfound, hrun, hsources, haccepts, hclosed, -⟩ := hcommitted
      obtain rfl := Except.ok.inj (hitem.symm.trans hother)
      have hcall : CommittedCall python context conn (.rawDocument original) item (context.sourceIdOf conn item) found last :=
        ⟨hother, hfound, hrun, hsources, haccepts, hclosed⟩
      have hfoundDocuments : found.work.rawDocuments = context.db.rawDocuments := by
        cases hfound <;> rfl
      have hstore : (storeRawDocument python conn item (context.sourceIdOf conn item)).run.run found = (.ok true, last) :=
        hrun
      unfold storeRawDocument at hstore
      rw [hhash] at hstore
      obtain ⟨document, hmem, hput⟩ := ensures_storeRawDocumentAt_put.of_run hstore
      rw [hfoundDocuments] at hput
      rw [hcall.step]
      refine ⟨_, List.mem_map_of_mem hmem, ?_⟩
      split
      · exact hput
      · exact hput.stored

/-- A call that is taken leaves its document with the right flags, unless its lookup found the document itself. -/
theorem flagsRight_step (h : context.TakesDocument python conn original) :
    context.FlagsRight python conn original ↔ ¬ context.FindsItself python conn original := by
  obtain ⟨item, key, hitem, hkey, document, hmem, hput⟩ := documentPut_step h
  obtain ⟨_, _, _, htakes⟩ := h
  have hunique : (context.step python (conn, .rawDocument original)).db.unique :=
    unique_step (unique_of_accepts htakes.accepted) _
  have hfinds : context.FindsItself python conn original ↔ item.FindsItself conn key context.db.rawDocuments := by
    constructor
    · rintro ⟨other, otherKey, hother, hotherKey, hfinds⟩
      obtain rfl := Except.ok.inj (hitem.symm.trans hother)
      obtain rfl := Option.some.inj (hkey.symm.trans hotherKey)
      exact hfinds
    · exact fun hfinds ↦ ⟨item, key, hitem, hkey, hfinds⟩
  rw [hfinds, ← hput.flagsRight_iff]
  constructor
  · rintro ⟨other, hother, hotherKey, hright⟩
    have hsame : other.key = document.key :=
      (Option.some.inj (hotherKey.symm.trans hkey)).trans hput.hasKey.symm
    obtain rfl := List.inj_on_of_nodup_map (rawDocumentKeys_nodup hunique) hother hmem hsame
    exact hright
  · intro hright
    refine ⟨document, hmem, ?_, hright⟩
    rw [hkey, hput.hasKey]

/-- In every run, the flags of each document that a call writes are right if and only if its lookup by the content
did not find the document itself while another one had the content. -/
theorem duplicateFlags_iff (python : Python) (start : Context) (events : List (Connection × WriterCall)) :
    Along (Context.step python) (fun before event ↦ ∀ original, event.2 = .rawDocument original →
      before.TakesDocument python event.1 original →
        (before.FlagsRight python event.1 original ↔ ¬ before.FindsItself python event.1 original)) start events := by
  have hstep (before : Context) (event : Connection × WriterCall) (original : Item)
      (hcall : event.2 = .rawDocument original) (htakes : before.TakesDocument python event.1 original) :
      before.FlagsRight python event.1 original ↔ ¬ before.FindsItself python event.1 original :=
    flagsRight_step htakes
  exact along_of_invariant (fun _ _ (_ : True) (_ : True) ↦ trivial) (fun before event _ _ ↦ hstep before event) start
    events trivial (along_of_forall_mem (fun _ _ ↦ trivial) start)

end Flags

/-! ## A document that is archived twice -/

def pageDigests : Digests where
  entries := [("a", "ca978112ca1bbdcafac231b39a23dc4da786eff8147c4e72b9807785afee48bb"),
    ("b", "3e23e8160039594a33894f6564e1b1348bbd7a0088d42c4acb73eeaed59c009d")]
  stripped := by decide +kernel

/-- A page of the source s with the content h. -/
def archivedPage (url : String) : Item where
  sourceCode := some (.str "s")
  url := some (.str url)
  sourceDuplicateKey := some (.str "k")
  contentHash := some (.str "h")

/-- Two pages with one content, and the first of them again. -/
def archivedTwice : List (Connection × WriterCall) :=
  [(sqlite epoch, .rawDocument (archivedPage "a")), (sqlite epoch, .rawDocument (archivedPage "b")),
    (sqlite epoch, .rawDocument (archivedPage "a"))]

def twoPages : Context :=
  ((⟨[], emptyDb⟩ : Context).step (plainPython pageDigests) (sqlite epoch, .rawDocument (archivedPage "a"))).step
    (plainPython pageDigests) (sqlite epoch, .rawDocument (archivedPage "b"))

/-- The third call finds the document that it writes, and misses the other page with the content. -/
theorem duplicateFlags_not_archivedTwice :
    ¬ Along (Context.step (plainPython pageDigests)) (fun before event ↦ ∀ original, event.2 = .rawDocument original →
      before.TakesDocument (plainPython pageDigests) event.1 original →
        before.FlagsRight (plainPython pageDigests) event.1 original) ⟨[], emptyDb⟩ archivedTwice := by
  rintro ⟨-, -, hthird, -⟩
  have hrun : (twoPages.archives (plainPython pageDigests) (sqlite epoch, .rawDocument (archivedPage "a"))).isSome ∧
      (∀ row ∈ (twoPages.step (plainPython pageDigests) (sqlite epoch, .rawDocument (archivedPage "a"))).db.rawDocuments,
        twoPages.documentKey (plainPython pageDigests) (sqlite epoch) (archivedPage "a") = some row.key →
        row.isDuplicateContent = false ∧ row.contentHash = some "h" ∧ row.id = 1 ∧ row.sourceSiteId = 1) ∧
      ∃ row ∈ twoPages.db.rawDocuments, row.id = 2 ∧ row.sourceSiteId = 1 ∧ row.contentHash = some "h" := by
    decide +kernel
  obtain ⟨hsome, hdocument, row, hrow, hrowId, hrowSource, hrowContent⟩ := hrun
  have htakes := (isSome_archives_iff (archivedPage "a")).mp hsome
  have hflags : twoPages.FlagsRight (plainPython pageDigests) (sqlite epoch) (archivedPage "a") :=
    hthird (archivedPage "a") rfl htakes
  obtain ⟨document, hmem, hkey, hright⟩ := hflags
  obtain ⟨hflag, hcontent, hid, hsource⟩ := hdocument document hmem hkey
  have htrue := hright.content.mpr ⟨"h", hcontent, row, hrow, by omega, hrowSource.trans hsource.symm, hrowContent⟩
  rw [hflag] at htrue
  cases htrue

end TenderPhase1.Crawler
