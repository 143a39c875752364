import TenderPhase1.Crawler.RawDocumentStore
import TenderPhase1.Crawler.DocumentAccepted
import TenderPhase1.Foundation.Transition

/-!
# The links of versions to raw documents

A version is linked to the raw document that its source has under the hash that the
version item names. Documents keep their ids and their hashes, and the context keeps
the id of a source it knows, so the link does not depend on what is written between
the document and the version.
-/

namespace TenderPhase1.Crawler

open Jobs Raising KeyedRows Transition

/-- What identifies a raw document: its id, its source and the hash of its URL. -/
def RawDocument.identity (document : RawDocument) : ℕ × ℕ × String := (document.id, document.key)

section Documents

variable {python : Python} {conn : Connection} {context : Context} {item : Item} {sourceSiteId : ℕ} {state : CallState}

/-! ## What later calls keep -/

theorem SourceFound.lookup_of_ne {found : CallState} {id : ℕ} {code : String}
    (h : SourceFound python conn item context.opened sourceSiteId found) (hcode : code ≠ item.writtenSourceCode)
    (hcached : context.sourceCache.lookup code = some id) : found.sourceCache.lookup code = some id := by
  have hbeside : List.lookup code ((item.writtenSourceCode, sourceSiteId) :: context.sourceCache) = some id := by
    rw [List.lookup_cons, beq_false_of_ne hcode]
    exact hcached
  cases h with
  | cached _ => exact hcached
  | stored _ _ _ => exact hbeside
  | inserted _ _ _ _ _ => exact hbeside

/-- A source that the context knows keeps its id. -/
theorem lookup_step {code : String} {id : ℕ} (h : context.sourceCache.lookup code = some id)
    (event : Connection × WriterCall) : (context.step python event).sourceCache.lookup code = some id := by
  obtain ⟨conn, call⟩ := event
  change Ends (fun _ after ↦ after.closed.sourceCache.lookup code = some id) (call.program python conn) context.opened
  rw [call.program_eq, ends_bind, ends_raisePython]
  cases hitem : call.normalized python with
  | error error => exact h
  | ok item =>
    dsimp only
    unfold inSession
    rw [ends_bind]
    apply ends_mono (ends_and ends_itemSourceSiteId ensures_sourceIdOf)
    rintro outcome found ⟨hfound, hid⟩
    cases outcome with
    | error error =>
      change found.sourceCache.lookup code = some id
      rw [hfound.1]
      exact h
    | ok sourceId =>
      obtain rfl := hid sourceId rfl
      have hcached : found.sourceCache.lookup code = some id := by
        by_cases hcode : code = item.writtenSourceCode
        · subst hcode
          rw [hfound.cached_eq, sourceIdOf_cached h]
        · exact hfound.lookup_of_ne hcode h
      have hstart : Confined found.sourceCache context.db found.work.sources (context.sourceIdOf conn item) found :=
        ⟨rfl, hfound.committed_eq, rfl, hfound.writesFor⟩
      dsimp only
      rw [ends_bind]
      apply ends_mono (yields_confined_store call found hstart)
      rintro stored last ⟨hconfined, -⟩
      have hlast : last.closed.sourceCache.lookup code = some id := by
        change last.sourceCache.lookup code = some id
        rw [hconfined.cacheKept]
        exact hcached
      cases stored with
      | error error => exact hlast
      | ok reached =>
        cases reached with
        | false => exact hlast
        | true =>
          change Ends _ (commit conn) last
          rw [ends_commit]
          cases conn.refusal .commit last.work with
          | some error => exact hlast
          | none => exact hlast

/-- A put keeps the identity of every document. -/
theorem ensures_documentIdentities_putRawDocument {urlHash : String} {existing : Option RawDocument}
    {isDuplicateContent : Bool} (hids : (state.work.rawDocuments.map RawDocument.id).Nodup)
    (hexisting : existing = conn.first (fun row ↦ row.sourceSiteId = sourceSiteId ∧ row.urlHash = urlHash)
      state.work.rawDocuments) :
    Ensures (fun _ after ↦ state.work.rawDocuments.map RawDocument.identity ⊆
        after.work.rawDocuments.map RawDocument.identity)
      (putRawDocument python conn item sourceSiteId urlHash existing isDuplicateContent) state := by
  unfold putRawDocument
  cases existing with
  | none =>
    apply ensures_update
    change _ ⊆ List.map RawDocument.identity (_ ++ [_])
    rw [List.map_append]
    exact List.subset_append_left _ _
  | some existing =>
    obtain ⟨hmem, hmatches⟩ := mem_of_head?_answer hexisting.symm
    obtain ⟨hsource, hhash⟩ := of_decide_eq_true hmatches
    apply ensures_update
    let written := item.rawDocument python conn existing.id sourceSiteId urlHash true isDuplicateContent
    have hid : written.id = existing.id := rfl
    have hidentity : written.identity = existing.identity := by
      subst hsource hhash
      rfl
    change _ ⊆ List.map RawDocument.identity (putRow RawDocument.id written _)
    rw [map_putRow hids hmem hid hidentity]
    exact List.Subset.refl _

/-- So does the whole call. -/
theorem ensures_documentIdentities_storeRawDocument :
    Ensures (fun _ after ↦ state.work.rawDocuments.map RawDocument.identity ⊆
        after.work.rawDocuments.map RawDocument.identity)
      (storeRawDocument python conn item sourceSiteId) state := by
  unfold storeRawDocument
  split
  · exact ensures_pure (List.Subset.refl _)
  · apply ensures_bind
    apply ensures_scalar
    intro haccepts
    apply ensures_bind
    refine ensures_of_reads (fun _ ↦ keeps_duplicateContentId) ?_
    intro duplicateContentId
    apply ensures_bind
    have hids := rawDocumentIds_nodup (unique_of_accepts haccepts)
    refine ensures_mono (ensures_documentIdentities_putRawDocument hids rfl) ?_
    intro _ put hput
    apply ensures_bind
    apply ensures_recordStats
    intro jobs
    exact ensures_pure hput

/-- The documents keep their ids, their sources and their hashes. -/
theorem documentIdentities_step (event : Connection × WriterCall) :
    context.db.rawDocuments.map RawDocument.identity ⊆
      (context.step python event).db.rawDocuments.map RawDocument.identity := by
  obtain ⟨conn, call⟩ := event
  rcases step_cases python context conn call with hkept | ⟨item, found, last, hcommitted⟩
  · rw [hkept]
    exact List.Subset.refl _
  · have hfound : found.work.rawDocuments = context.db.rawDocuments := by
      cases hcommitted.sourceFound <;> rfl
    have hstored : (Db.stored conn context.db last.work).rawDocuments.map RawDocument.identity =
        last.work.rawDocuments.map RawDocument.identity := by
      apply map_storedRows
      exact fun _ ↦ rfl
    rw [hcommitted.step, hstored, ← hfound]
    have hrun := hcommitted.run
    cases call with
    | rawDocument original => exact ensures_documentIdentities_storeRawDocument.of_run hrun
    | _ =>
      rw [hcommitted.rawDocuments_eq fun _ ↦ WriterCall.noConfusion, hfound]
      exact List.Subset.refl _

/-! ## The link -/

/-- The id of the document of the source with the hash -/
def Connection.documentId (conn : Connection) (sourceSiteId : ℕ) (urlHash : Option String)
    (documents : List RawDocument) : Option ℕ :=
  urlHash.bind fun urlHash ↦
    (conn.first (fun row : RawDocument ↦ row.sourceSiteId = sourceSiteId ∧ row.urlHash = urlHash) documents).map
      RawDocument.id

/-- A source has one document under a hash, so the name leads to a document exactly where the hashes agree. -/
theorem documentId_eq_iff {documents : List RawDocument} {document : RawDocument} {urlHash : String}
    (hunique : uniqueRawDocuments documents) (hdocument : document ∈ documents) :
    conn.documentId document.sourceSiteId (some urlHash) documents = some document.id ↔ urlHash = document.urlHash := by
  obtain ⟨hids, hkeys⟩ := uniqueRawDocuments_iff.mp hunique
  change (conn.first _ documents).map RawDocument.id = _ ↔ _
  rw [Option.map_eq_some_iff]
  constructor
  · rintro ⟨other, hother, hid⟩
    obtain ⟨hmem, hmatches⟩ := mem_of_head?_answer hother
    have hsame := List.inj_on_of_nodup_map hids hmem hdocument hid
    rw [← hsame]
    exact (of_decide_eq_true hmatches).2.symm
  · rintro rfl
    cases hfirst : conn.first (fun row : RawDocument ↦ row.sourceSiteId = document.sourceSiteId ∧
        row.urlHash = document.urlHash) documents with
    | none =>
      have hnone := filter_eq_false_of_head?_answer hfirst document hdocument
      exact absurd ⟨rfl, rfl⟩ (of_decide_eq_false hnone)
    | some other =>
      obtain ⟨hmem, hmatches⟩ := mem_of_head?_answer hfirst
      obtain ⟨hsource, hhash⟩ := of_decide_eq_true hmatches
      exact ⟨other, rfl, congrArg RawDocument.id (List.inj_on_of_nodup_map hkeys hmem hdocument (Prod.ext hsource hhash))⟩

theorem ensures_rawDocumentIdByHash {urlHash : Option String} {post : Option ℕ → CallState → Prop}
    (hpost : post (conn.documentId sourceSiteId urlHash state.work.rawDocuments) state) :
    Ensures post (rawDocumentIdByHash conn sourceSiteId urlHash) state := by
  unfold rawDocumentIdByHash
  cases urlHash with
  | none => exact ensures_pure hpost
  | some urlHash =>
    apply ensures_bind
    apply ensures_scalar
    intro _
    exact ensures_pure hpost

/-- The version that is stored is linked, whatever it was linked to before. -/
theorem ensures_linked_storeFoundVersion {notice : TenderNotice} {found : NoticeVersion} {created : Bool} :
    Ensures (fun _ after ↦ ∀ version ∈ after.work.versions, version.id = found.id → version.rawDocumentId =
        conn.documentId sourceSiteId item.rawDocumentUrlHash.asStr state.work.rawDocuments)
      (storeFoundVersion python conn item sourceSiteId notice found created) state := by
  let link := conn.documentId sourceSiteId item.rawDocumentUrlHash.asStr state.work.rawDocuments
  let version := found.applyFields python item notice link
  let put := { state.work with versions := putRow NoticeVersion.id version state.work.versions }
  have hlinked (other : NoticeVersion) (hother : other ∈ (version.promotedIn notice put).versions)
      (hid : other.id = found.id) : other.rawDocumentId = link := by
    rw [promotedIn_versions] at hother
    obtain ⟨row, hrow, rfl⟩ := List.mem_map.mp hother
    obtain ⟨old, -, rfl⟩ := List.mem_map.mp hrow
    change (if old.id = version.id then version else old).id = found.id at hid
    change (if old.id = version.id then version else old).rawDocumentId = link
    split at hid
    · rename_i hsame
      rw [if_pos hsame]
      rfl
    · rename_i hne
      exact absurd hid hne
  apply ensures_bind
  apply ensures_rawDocumentIdByHash
  apply ensures_bind
  apply ensures_update
  apply ensures_bind
  apply ensures_flush
  intro _
  apply ensures_bind
  apply ensures_promoteCurrent
  apply ensures_bind
  apply ensures_raisePython
  intro widened _
  apply ensures_bind
  apply ensures_update
  apply ensures_bind
  apply ensures_recordStats
  intro jobs
  exact ensures_pure hlinked

/-- The version that the notice of the item shows is linked to the document that the item names. -/
theorem ensures_linked_storeNoticeVersion {dedupHash : String} (hhash : item.resolvedDedupHash = some dedupHash)
    (hcurrent : item.isCurrent.asBool python true) :
    Ensures (fun reached after ↦ reached = true → ∃ shownNotice shownVersion,
        CurrentVersion sourceSiteId dedupHash after.work shownNotice shownVersion ∧
          shownVersion.rawDocumentId =
            conn.documentId sourceSiteId item.rawDocumentUrlHash.asStr state.work.rawDocuments)
      (storeNoticeVersion python conn item sourceSiteId) state := by
  have hkept {Result : Type} {program : Call Result} {start : CallState}
      (hkeeps : Keeps (fun after ↦ after.work.rawDocuments = start.work.rawDocuments) program) :
      Ensures (fun _ after ↦ after.work.rawDocuments = start.work.rawDocuments) program start := by
    apply ends_mono (hkeeps start rfl)
    exact fun _ _ h _ _ ↦ h
  apply ensures_bind
  refine ensures_mono (ensures_and ensures_mergedNotice
    (hkept (keeps_view_mergedNotice Db.rawDocuments fun _ _ ↦ rfl))) ?_
  rintro merging middle ⟨hmerged, hmiddle⟩
  cases merging with
  | none => exact ensures_pure fun h ↦ (nomatch h)
  | some pair =>
    obtain ⟨merged, created⟩ := pair
    apply ensures_bind
    refine ensures_mono (ensures_and ensures_resolveNoticeVersion
      (hkept (keeps_view_resolveNoticeVersion Db.rawDocuments (fun _ _ ↦ rfl) _))) ?_
    rintro resolution resolved ⟨hresolved, hrawDocuments⟩
    cases resolution with
    | none => exact ensures_pure fun h ↦ (nomatch h)
    | some pair =>
      obtain ⟨found, versionCreated⟩ := pair
      refine ensures_mono (ensures_and ensures_storeFoundVersion ensures_linked_storeFoundVersion) ?_
      rintro _ after ⟨hstored, hlinked⟩ -
      obtain ⟨hmem, hsource, hmergedHash⟩ := hmerged.mem hhash
      obtain ⟨hfound, hof, hnotices⟩ := hresolved.mem
      rw [← hnotices] at hmem
      obtain ⟨shownNotice, shownVersion, hshown, -, -, hid⟩ :=
        hstored.currentVersion hmem hsource hmergedHash hfound hof hcurrent
      refine ⟨shownNotice, shownVersion, hshown, ?_⟩
      rw [hlinked shownVersion hshown.versionMem hid, hrawDocuments, hmiddle]

end Documents

/-! ## From the document to the version -/

section Runs

variable {python : Python} {conn : Connection} {context : Context} {original item : Item} {found last : CallState}
  {sourceSiteId : ℕ} {dedupHash : String}

/-- A call for a raw document leaves the document under the hash of its item. -/
theorem CommittedCall.document
    (h : CommittedCall python context conn (.rawDocument original) item sourceSiteId found last) :
    ∃ urlHash, item.urlHash.asStr = some urlHash ∧ ∃ document ∈ last.work.rawDocuments,
      document.key = (sourceSiteId, urlHash) := by
  have hstore : (storeRawDocument python conn item sourceSiteId).run.run found = (.ok true, last) := h.run
  unfold storeRawDocument at hstore
  cases hhash : item.urlHash.asStr with
  | none =>
    rw [hhash] at hstore
    cases hstore
  | some urlHash =>
    rw [hhash] at hstore
    obtain ⟨document, hkey, -, hrows⟩ := (ensures_storeRawDocumentAt.of_run hstore).written
    exact ⟨urlHash, rfl, document, (hrows document).mpr (Or.inl rfl), hkey⟩

/-- A call for a version leaves its notice with a version that is linked to the document of the source that the
item names, and the documents as they were. -/
theorem CommittedCall.linked
    (h : CommittedCall python context conn (.noticeVersion original) item sourceSiteId found last)
    (hhash : item.resolvedDedupHash = some dedupHash) (hcurrent : item.isCurrent.asBool python true) :
    ∃ notice version, CurrentVersion sourceSiteId dedupHash (context.step python (conn, .noticeVersion original)).db
        notice version ∧
      version.rawDocumentId =
        conn.documentId sourceSiteId item.rawDocumentUrlHash.asStr context.db.rawDocuments := by
  have hfound : found.work.rawDocuments = context.db.rawDocuments := by
    cases h.sourceFound <;> rfl
  obtain ⟨notice, version, hshown, hlink⟩ := (ensures_linked_storeNoticeVersion hhash hcurrent).of_run h.run rfl
  obtain ⟨keptNotice, kept, hkept, hcolumns⟩ := hshown.stored conn context.db
  rw [h.step]
  refine ⟨keptNotice, kept, hkept, ?_⟩
  have hlinks : (Db.stored conn context.db last.work).versions.map (fun row ↦ (row.id, row.rawDocumentId)) =
      last.work.versions.map fun row ↦ (row.id, row.rawDocumentId) := by
    apply map_storedRows
    exact fun _ ↦ rfl
  have hmem := List.mem_map_of_mem (f := fun row : NoticeVersion ↦ (row.id, row.rawDocumentId)) hkept.versionMem
  rw [hlinks] at hmem
  obtain ⟨row, hrow, hrowColumns⟩ := List.mem_map.mp hmem
  obtain ⟨hid, hrowLink⟩ := Prod.mk.inj hrowColumns
  have hsame : row = version := by
    obtain ⟨-, -, -, hversions, -, -⟩ := unique_iff.mp (unique_of_accepts h.accepted)
    refine List.inj_on_of_nodup_map (uniqueVersions_iff.mp hversions).1 hrow hshown.versionMem ?_
    exact hid.trans (congrArg (fun columns : ℕ × ℕ × Bool × Option String ↦ columns.1) hcolumns)
  rw [← hrowLink, hsame, hlink, hfound]

theorem normalizeNoticeItem_rawDocumentUrlHash (h : normalizeNoticeItem python original = .ok item) :
    item.rawDocumentUrlHash = original.rawDocumentUrlHash := by
  obtain ⟨identity, dedupKey, sourceDuplicateKey, rfl⟩ := normalizeNoticeItem_eq_ok h
  rfl

/-- The context knows the source, and its database has the document. -/
structure DocumentHeld (sourceCode : String) (document : RawDocument) (context : Context) : Prop where
  cached : context.sourceCache.lookup sourceCode = some document.sourceSiteId
  mem : document.identity ∈ context.db.rawDocuments.map RawDocument.identity

theorem DocumentHeld.step {sourceCode : String} {document : RawDocument} (h : DocumentHeld sourceCode document context)
    (event : Connection × WriterCall) : DocumentHeld sourceCode document (context.step python event) :=
  ⟨lookup_step h.cached event, documentIdentities_step event h.mem⟩

/-- A call for a raw document that commits leaves the context with the document. -/
theorem CommittedCall.documentHeld
    (h : CommittedCall python context conn (.rawDocument original) item sourceSiteId found last) :
    ∃ urlHash document, item.urlHash.asStr = some urlHash ∧ document.urlHash = urlHash ∧
      DocumentHeld original.writtenSourceCode document (context.step python (conn, .rawDocument original)) := by
  obtain ⟨urlHash, hhash, document, hmem, hkey⟩ := h.document
  obtain ⟨hsource, hurlHash⟩ := Prod.mk.inj hkey
  have hcode : item.writtenSourceCode = original.writtenSourceCode := normalized_writtenSourceCode h.normalized
  refine ⟨urlHash, document, hhash, hurlHash, ?_⟩
  rw [h.step, ← hcode]
  constructor
  · rw [hsource]
    exact h.sourceFound.cached_eq
  · have hstored : (Db.stored conn context.db last.work).rawDocuments.map RawDocument.identity =
        last.work.rawDocuments.map RawDocument.identity := by
      apply map_storedRows
      exact fun _ ↦ rfl
    rw [hstored]
    exact List.mem_map_of_mem hmem

/-- A version that a call writes while the context has the document is linked to it exactly where it names its
hash. -/
theorem DocumentHeld.linked_iff {document : RawDocument} {urlHash : String}
    (h : DocumentHeld original.writtenSourceCode document context)
    (hcommitted : Committed python context (conn, .noticeVersion original))
    (hhash : original.resolvedDedupHash = some dedupHash) (hcurrent : original.isCurrent.asBool python true)
    (hnamed : original.rawDocumentUrlHash.asStr = some urlHash) :
    ∃ notice version, CurrentVersion document.sourceSiteId dedupHash
        (context.step python (conn, .noticeVersion original)).db notice version ∧
      (version.rawDocumentId = some document.id ↔ urlHash = document.urlHash) := by
  obtain ⟨item, found, last, hcommitted⟩ := hcommitted
  have hcode : item.writtenSourceCode = original.writtenSourceCode :=
    normalized_writtenSourceCode hcommitted.normalized
  have hid : context.sourceIdOf conn item = document.sourceSiteId := by
    apply sourceIdOf_cached
    rw [hcode]
    exact h.cached
  have hitemHash := normalizeNoticeItem_resolvedDedupHash hcommitted.normalized hhash
  have hitemNamed := normalizeNoticeItem_rawDocumentUrlHash hcommitted.normalized
  have hitemCurrent : item.isCurrent.asBool python true := by
    obtain ⟨identity, dedupKey, sourceDuplicateKey, rfl⟩ := normalizeNoticeItem_eq_ok hcommitted.normalized
    exact hcurrent
  have hdocuments : uniqueRawDocuments context.db.rawDocuments := by
    obtain ⟨-, hunique, -⟩ := unique_iff.mp (unique_of_accepts hcommitted.accepted)
    rw [hcommitted.rawDocuments_eq fun _ ↦ WriterCall.noConfusion] at hunique
    exact hunique
  obtain ⟨row, hrow, hidentity⟩ := List.mem_map.mp h.mem
  obtain ⟨hrowId, hrowKey⟩ := Prod.mk.inj hidentity
  obtain ⟨hrowSource, hrowHash⟩ := Prod.mk.inj hrowKey
  rw [hid] at hcommitted
  obtain ⟨notice, version, hshown, hlink⟩ := hcommitted.linked hitemHash hitemCurrent
  refine ⟨notice, version, hshown, ?_⟩
  rw [hlink, hitemNamed, hnamed, ← hrowSource, ← hrowId, ← hrowHash]
  exact documentId_eq_iff hdocuments hrow

/-- Whatever is written between a document and a version of its source, the version that is then shown is linked
to the document if and only if it names the hash under which the document is stored. -/
theorem linked_iff_of_committed {stored written : Connection} {version : Item}
    {between : List (Connection × WriterCall)} {urlHash : String} {after : Context}
    (hafter : after = between.foldl (Context.step python) (context.step python (stored, .rawDocument original)))
    (hdocument : Committed python context (stored, .rawDocument original))
    (hversion : Committed python after (written, .noticeVersion version))
    (hsource : version.writtenSourceCode = original.writtenSourceCode)
    (hhash : version.resolvedDedupHash = some dedupHash) (hcurrent : version.isCurrent.asBool python true)
    (hnamed : version.rawDocumentUrlHash.asStr = some urlHash) :
    ∃ storedItem storedHash, normalizeRawDocumentItem python original = .ok storedItem ∧
      storedItem.urlHash.asStr = some storedHash ∧
      ∃ document ∈ (after.step python (written, .noticeVersion version)).db.rawDocuments, ∃ notice row,
        document.urlHash = storedHash ∧
        CurrentVersion document.sourceSiteId dedupHash (after.step python (written, .noticeVersion version)).db notice row ∧
        (row.rawDocumentId = some document.id ↔ urlHash = storedHash) := by
  obtain ⟨storedItem, found, last, hstored⟩ := hdocument
  obtain ⟨storedHash, document, hstoredHash, hdocumentHash, hheld⟩ := hstored.documentHeld
  have hkept : DocumentHeld original.writtenSourceCode document after := by
    rw [hafter]
    exact invariant_run (fun _ event h ↦ h.step event) _ between hheld
  obtain ⟨row, hrow, hidentity⟩ := List.mem_map.mp (hkept.step (written, .noticeVersion version)).mem
  obtain ⟨hrowId, hrowKey⟩ := Prod.mk.inj hidentity
  obtain ⟨hrowSource, hrowHash⟩ := Prod.mk.inj hrowKey
  rw [← hsource] at hkept
  obtain ⟨notice, shown, hshown, hiff⟩ := hkept.linked_iff hversion hhash hcurrent hnamed
  refine ⟨storedItem, storedHash, hstored.normalized, hstoredHash, row, hrow, notice, shown, ?_, ?_, ?_⟩
  · exact hrowHash.trans hdocumentHash
  · rw [hrowSource]
    exact hshown
  · rw [hrowId, hiff, hdocumentHash]

end Runs

end TenderPhase1.Crawler
