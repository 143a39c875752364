import TenderPhase1.Crawler.Instances
import TenderPhase1.Crawler.NewSource
import TenderPhase1.Foundation.Transition

/-!
# The cache of source ids

The writer context keeps the ids of its sources across calls. A source that a call
inserts enters the cache before the call commits, so the cache names a source that
does not exist once such a call returns early or is rolled back. Where every call
that inserts a source comes to its commit, the cache is sound in every run.
-/

namespace TenderPhase1.Crawler

open Jobs Sources Raising Transition

section SourceFound

variable {python : Python} {conn : Connection} {item : Item} {state : CallState}

/-- What a call needs to insert the source of its item: the source is in neither the cache nor the
table, and the database takes it. -/
structure InsertsSource (python : Python) (conn : Connection) (item : Item) (state : CallState) : Prop where
  notCached : state.sourceCache.lookup item.writtenSourceCode = none
  missing : ∀ source ∈ state.work.sources, source.code ≠ item.writtenSourceCode
  urlFound : ∃ sourceUrl, item.writtenSourceUrl python = .ok sourceUrl
  statements : conn.fails .statement = false
  newSource : conn.fails .newSource = false
  accepted : conn.accepts state.work

/-- How a call comes to the id of its source, and what it leaves behind. -/
inductive SourceFound (python : Python) (conn : Connection) (item : Item) (state : CallState) (id : ℕ) :
    CallState → Prop where
  | cached (h : state.sourceCache.lookup item.writtenSourceCode = some id) :
      SourceFound python conn item state id state
  | stored {source : SourceSite} (hmem : source ∈ state.work.sources) (hcode : source.code = item.writtenSourceCode)
      (hid : source.id = id) :
      SourceFound python conn item state id
        { state with sourceCache := (item.writtenSourceCode, id) :: state.sourceCache }
  | inserted {source : SourceSite} (h : InsertsSource python conn item state)
      (hcode : source.code = item.writtenSourceCode) (hid : source.id = id)
      (hfresh : id = conn.nextId (state.work.sources.map SourceSite.id))
      (haccepts : conn.accepts { state.work with sources := state.work.sources ++ [source] }) :
      SourceFound python conn item state id
        { state with
          sourceCache := (item.writtenSourceCode, id) :: state.sourceCache
          work := { state.work with sources := state.work.sources ++ [source] } }

/-- An inserted source is found once it is entered into the cache. -/
theorem ends_insertSource {sourceUrl : String} {sourceName : Option String}
    (hinserts : conn.fails .newSource = false → InsertsSource python conn item state) :
    Ends (fun outcome after ↦ after.sourceCache = state.sourceCache ∧ after.committed = state.committed ∧
        ∀ id, outcome = .ok id → SourceFound python conn item state id
          { after with sourceCache := (item.writtenSourceCode, id) :: after.sourceCache })
      (insertSource conn item.writtenSourceCode sourceName sourceUrl) state := by
  let id := conn.nextId (state.work.sources.map SourceSite.id)
  let source := newSourceSite id item.writtenSourceCode sourceName sourceUrl
  unfold insertSource
  rw [ends_bind, ends_get]
  dsimp only
  rw [ends_bind, ends_update]
  dsimp only
  rw [ends_bind, ends_flush]
  cases hrefusal : conn.refusal .newSource { state.work with sources := state.work.sources ++ [source] } with
  | some error => exact ⟨rfl, rfl, fun _ h ↦ (nomatch h)⟩
  | none =>
    obtain ⟨hfails, haccepts⟩ := refusal_eq_none.mp hrefusal
    refine ⟨rfl, rfl, ?_⟩
    intro found hfound
    have hid : found = id := (Except.ok.inj hfound).symm
    have hsourceId : source.id = found := hid.symm
    exact .inserted (hinserts hfails) rfl hsourceId hid haccepts

/-- Loading a source that the cache does not know finds it or inserts it. -/
theorem ends_loadSource {sourceUrl : String} {sourceName : Option String}
    (hurl : item.writtenSourceUrl python = .ok sourceUrl)
    (hcache : state.sourceCache.lookup item.writtenSourceCode = none) :
    Ends (fun outcome after ↦ after.sourceCache = state.sourceCache ∧ after.committed = state.committed ∧
        ∀ id, outcome = .ok id → SourceFound python conn item state id
          { after with sourceCache := (item.writtenSourceCode, id) :: after.sourceCache })
      (loadSource conn item.writtenSourceCode sourceName sourceUrl) state := by
  unfold loadSource
  rw [ends_bind, ends_scalar]
  cases hrefusal : conn.refusal .statement state.work with
  | some error => exact ⟨rfl, rfl, fun _ h ↦ (nomatch h)⟩
  | none =>
    obtain ⟨hfails, haccepts⟩ := refusal_eq_none.mp hrefusal
    dsimp only
    cases hfound : (conn.answer (state.work.sources.filter (·.code = item.writtenSourceCode))).head? with
    | some source =>
      obtain ⟨hmem, hcode⟩ := mem_of_head?_answer hfound
      refine ⟨rfl, rfl, ?_⟩
      intro id hid
      exact .stored hmem (of_decide_eq_true hcode) (Except.ok.inj hid)
    | none =>
      have hmissing (source : SourceSite) (hsource : source ∈ state.work.sources) :
          source.code ≠ item.writtenSourceCode :=
        of_decide_eq_false (filter_eq_false_of_head?_answer hfound source hsource)
      exact ends_insertSource fun hnewSource ↦ ⟨hcache, hmissing, ⟨sourceUrl, hurl⟩, hfails, hnewSource, haccepts⟩

/-- The source of an item is found, or the call ends with the cache as it was. -/
theorem ends_itemSourceSiteId :
    Ends (fun outcome after ↦ match outcome with
        | .ok id => SourceFound python conn item state id after
        | .error _ => after.sourceCache = state.sourceCache ∧ after.committed = state.committed)
      (itemSourceSiteId python conn item) state := by
  unfold itemSourceSiteId
  rw [ends_bind, ends_raisePython]
  cases hurl : item.writtenSourceUrl python with
  | error error => exact ⟨rfl, rfl⟩
  | ok sourceUrl =>
    dsimp only
    unfold sourceSiteId
    rw [ends_bind, ends_get]
    dsimp only
    cases hcache : state.sourceCache.lookup item.writtenSourceCode with
    | some cached => exact .cached hcache
    | none =>
      dsimp only
      rw [ends_bind]
      apply ends_mono (ends_loadSource hurl hcache)
      rintro outcome after ⟨hkept, hcommitted, hfound⟩
      cases outcome with
      | error error => exact ⟨hkept, hcommitted⟩
      | ok id => exact hfound id rfl

end SourceFound

/-! ## One call -/

/-- The foreign key of the notices to their sources. -/
def Db.NoticesNamed (db : Db) : Prop := ∀ notice ∈ db.notices, ∃ source ∈ db.sources, source.id = notice.sourceSiteId

/-- Nothing keeps a call that inserts its source from its commit. -/
structure Promised (python : Python) (context : Context) (conn : Connection) (call : WriterCall) (item : Item) :
    Prop where
  inserts : InsertsSource python conn item context.opened
  noticesNamed : context.db.NoticesNamed
  commits : conn.fails .commit = false
  storable : call.storable python conn context.db item

/-- What a call leaves behind: the source it found in the cache, and the rows where it committed. -/
inductive CallResult (python : Python) (context : Context) (conn : Connection) (call : WriterCall) :
    Context → Prop where
  | unchanged : CallResult python context conn call context
  | dropped {item : Item} {id : ℕ} {after : CallState} (hitem : call.normalized python = .ok item)
      (hsource : SourceFound python conn item context.opened id after)
      (hbroken : ¬ Promised python context conn call item) :
      CallResult python context conn call ⟨after.sourceCache, context.db⟩
  | committed {item : Item} {id : ℕ} {after : CallState} {work : Db} (hitem : call.normalized python = .ok item)
      (hsource : SourceFound python conn item context.opened id after) (hsources : work.sources = after.work.sources)
      (hwrites : WritesFor id context.db work) :
      CallResult python context conn call ⟨after.sourceCache, work⟩

section Call

variable {python : Python} {conn : Connection} {call : WriterCall} {item : Item} {context : Context} {id : ℕ}
  {after : CallState}

theorem SourceFound.committed_eq {state : CallState} (h : SourceFound python conn item state id after) :
    after.committed = state.committed := by
  cases h <;> rfl

/-- Finding the source touches no notice and no version. -/
theorem SourceFound.notices_eq {state : CallState} (h : SourceFound python conn item state id after) :
    after.work.notices = state.work.notices := by
  cases h <;> rfl

theorem SourceFound.versions_eq {state : CallState} (h : SourceFound python conn item state id after) :
    after.work.versions = state.work.versions := by
  cases h <;> rfl

theorem SourceFound.writesFor (h : SourceFound python conn item context.opened id after) :
    WritesFor id context.db after.work := by
  cases h <;> exact ⟨ownedOrKept_self, ownedOrKept_self, ownedOrKept_self, ownedOrKept_self⟩

/-- A call that inserts its source and is promised its commit stores its item. -/
theorem returns_store_of_promised (hsource : SourceFound python conn item context.opened id after)
    (h : Promised python context conn call item) :
    Returns (fun _ last ↦ conn.accepts last.work) (call.store python conn item id) after := by
  cases hsource with
  | cached hcached =>
    rw [h.inserts.notCached] at hcached
    cases hcached
  | stored hmem hcode _ => exact absurd hcode (h.inserts.missing _ hmem)
  | inserted hinserts hcode hid hfresh haccepts =>
    refine returns_store hinserts.statements ⟨haccepts, ?_⟩ h.storable
    intro notice hnotice hsame
    obtain ⟨source, hsource, hsourceId⟩ := h.noticesNamed notice hnotice
    exact conn.nextId_ne hsource (hsourceId.trans (hsame.trans hfresh))

/-- What a call leaves of the cache and the database, by the place where it ends. -/
theorem step_result (python : Python) (context : Context) (conn : Connection) (call : WriterCall) :
    CallResult python context conn call (context.step python (conn, call)) := by
  change Ends (fun _ after ↦ CallResult python context conn call after.closed) (call.program python conn) context.opened
  rw [call.program_eq, ends_bind, ends_raisePython]
  cases hitem : call.normalized python with
  | error error => exact .unchanged
  | ok item =>
    dsimp only
    unfold inSession
    rw [ends_bind]
    apply ends_mono ends_itemSourceSiteId
    intro outcome after hafter
    cases outcome with
    | error error =>
      have hclosed : after.closed = context := congrArg₂ Context.mk hafter.1 hafter.2
      rw [hclosed]
      exact .unchanged
    | ok id =>
      dsimp only at hafter ⊢
      have hstart : Confined after.sourceCache context.db after.work.sources id after :=
        ⟨rfl, hafter.committed_eq, rfl, hafter.writesFor⟩
      have hstored : Ends (fun stored last ↦
          (Confined after.sourceCache context.db after.work.sources id last ∧
            ∀ reached, stored = .ok reached → call.complete item → reached = true) ∧
          (Promised python context conn call item → ∃ reached, stored = .ok reached ∧ conn.accepts last.work))
          (call.store python conn item id) after :=
        ⟨yields_confined_store call after hstart, returns_store_of_promised hafter⟩
      have hdropped (last : CallState) (hlast : Confined after.sourceCache context.db after.work.sources id last)
          (hbroken : ¬ Promised python context conn call item) :
          CallResult python context conn call last.closed := by
        have hclosed : last.closed = ⟨after.sourceCache, context.db⟩ :=
          congrArg₂ Context.mk hlast.cacheKept hlast.nothingCommitted
        rw [hclosed]
        exact .dropped hitem hafter hbroken
      rw [ends_bind]
      apply ends_mono hstored
      rintro stored last ⟨⟨hlast, hcomplete⟩, hpromise⟩
      cases stored with
      | error error =>
        apply hdropped last hlast
        intro promised
        obtain ⟨reached, hreached, -⟩ := hpromise promised
        cases hreached
      | ok reached =>
        cases reached with
        | false =>
          apply hdropped last hlast
          intro promised
          have hreached := hcomplete false rfl (Bool.and_eq_true_iff.mp promised.storable).1
          cases hreached
        | true =>
          change Ends _ (commit conn) last
          rw [ends_commit]
          cases hrefusal : conn.refusal .commit last.work with
          | some error =>
            apply hdropped last hlast
            intro promised
            obtain ⟨-, -, haccepts⟩ := hpromise promised
            rw [refusal_eq_none.mpr ⟨promised.commits, haccepts⟩] at hrefusal
            cases hrefusal
          | none =>
            have hclosed : CallState.closed ⟨last.sourceCache, Db.stored conn last.committed last.work,
                Db.stored conn last.committed last.work⟩ =
                ⟨after.sourceCache, Db.stored conn last.committed last.work⟩ :=
              congrArg₂ Context.mk hlast.cacheKept rfl
            change CallResult python context conn call (CallState.closed _)
            rw [hclosed]
            exact .committed hitem hafter hlast.sourcesKept (hlast.writes.stored conn _)

end Call

/-! ## Runs -/

/-- Every entry of the cache names a source of the table with its id and its code. -/
def Context.CacheSound (context : Context) : Prop :=
  ∀ code id, context.sourceCache.lookup code = some id →
    ∃ source ∈ context.db.sources, source.id = id ∧ source.code = code

/-- What every call keeps: a sound cache, and notices that name their sources. -/
structure Context.Sound (context : Context) : Prop where
  cache : context.CacheSound
  notices : context.db.NoticesNamed

/-- A row with a source names a source with the code, or it has kept the source it had before. -/
def NamedOrKept {Row : Type} (id source : Row → ℕ) (sourceCode : String) (sources : List SourceSite)
    (before after : List Row) : Prop :=
  ∀ row ∈ after, (∃ site ∈ sources, site.id = source row ∧ site.code = sourceCode) ∨
    ∃ old ∈ before, id old = id row ∧ source old = source row

/-- The rows that a call writes name the source of its item. -/
structure WritesNamed (sourceCode : String) (before after : Db) : Prop where
  rawDocuments : NamedOrKept RawDocument.id RawDocument.sourceSiteId sourceCode after.sources
    before.rawDocuments after.rawDocuments
  notices : NamedOrKept TenderNotice.id TenderNotice.sourceSiteId sourceCode after.sources
    before.notices after.notices
  attachments : NamedOrKept TenderAttachment.id TenderAttachment.sourceSiteId sourceCode after.sources
    before.attachments after.attachments
  errors : NamedOrKept CrawlError.id CrawlError.sourceSiteId sourceCode after.sources before.errors after.errors

def WriterCall.item : WriterCall → Item
  | .rawDocument item | .notice item | .noticeVersion item | .attachment item | .error item => item

/-- A call that inserts its source has an item that can be stored, and its commit is not refused. -/
def CommitsNewSource (python : Python) (context : Context) (event : Connection × WriterCall) : Prop :=
  ∀ item, event.2.normalized python = .ok item → InsertsSource python event.1 item context.opened →
    event.1.fails .commit = false ∧ event.2.storable python event.1 context.db item

section Runs

variable {python : Python} {conn : Connection} {call : WriterCall} {item : Item} {context : Context} {id : ℕ}
  {after : CallState}

theorem normalizeNoticeItem_sourceCode {original : Item} (h : normalizeNoticeItem python original = .ok item) :
    item.sourceCode = original.sourceCode := by
  obtain ⟨identity, -, h⟩ := bind_eq_ok.mp h
  obtain ⟨dedupKey, -, h⟩ := bind_eq_ok.mp h
  obtain ⟨sourceDuplicateKey, -, h⟩ := bind_eq_ok.mp h
  rw [← Except.ok.inj h]
  rfl

theorem normalizeRawDocumentItem_sourceCode {original : Item}
    (h : normalizeRawDocumentItem python original = .ok item) : item.sourceCode = original.sourceCode := by
  obtain ⟨normalizedUrl, -, h⟩ := bind_eq_ok.mp h
  dsimp only at h
  split at h
  · rw [← Except.ok.inj h]
  · obtain ⟨sourceDuplicateKey, -, h⟩ := bind_eq_ok.mp h
    rw [← Except.ok.inj h]

theorem normalizeAttachmentItem_sourceCode {original : Item}
    (h : normalizeAttachmentItem python original = .ok item) : item.sourceCode = original.sourceCode := by
  obtain ⟨normalizedUrl, -, h⟩ := bind_eq_ok.mp h
  split at h
  · rw [← Except.ok.inj h]
  · rw [← Except.ok.inj h]

/-- Normalisation leaves the source of an item alone. -/
theorem normalized_writtenSourceCode (h : call.normalized python = .ok item) :
    item.writtenSourceCode = call.item.writtenSourceCode := by
  have hcode : item.sourceCode = call.item.sourceCode := by
    cases call with
    | rawDocument original => exact normalizeRawDocumentItem_sourceCode h
    | notice original => exact normalizeNoticeItem_sourceCode h
    | noticeVersion original => exact normalizeNoticeItem_sourceCode h
    | attachment original =>
      obtain ⟨notice, hnotice, h⟩ := bind_eq_ok.mp h
      exact (normalizeAttachmentItem_sourceCode h).trans (normalizeNoticeItem_sourceCode hnotice)
    | error original => rw [← Except.ok.inj h]; rfl
  unfold Item.writtenSourceCode
  rw [hcode]

/-- A sound cache gives a source of the item's code. -/
theorem SourceFound.site (h : SourceFound python conn item context.opened id after) (hsound : context.CacheSound) :
    ∃ site ∈ after.work.sources, site.id = id ∧ site.code = item.writtenSourceCode := by
  cases h with
  | cached hcached => exact hsound _ _ hcached
  | stored hmem hcode hid => exact ⟨_, hmem, hid, hcode⟩
  | inserted _ hcode hid _ _ => exact ⟨_, List.mem_append_right _ List.mem_cons_self, hid, hcode⟩

theorem SourceFound.mem_sources (h : SourceFound python conn item context.opened id after) {source : SourceSite}
    (hsource : source ∈ context.db.sources) : source ∈ after.work.sources := by
  cases h with
  | cached _ => exact hsource
  | stored _ _ _ => exact hsource
  | inserted _ _ _ _ _ => exact List.mem_append_left _ hsource

theorem SourceFound.lookup (h : SourceFound python conn item context.opened id after) {code : String} {found : ℕ}
    (hfound : after.sourceCache.lookup code = some found) :
    code = item.writtenSourceCode ∧ found = id ∨ context.sourceCache.lookup code = some found := by
  have hcons (hcache : List.lookup code ((item.writtenSourceCode, id) :: context.sourceCache) = some found) :
      code = item.writtenSourceCode ∧ found = id ∨ context.sourceCache.lookup code = some found := by
    rw [List.lookup_cons] at hcache
    split at hcache
    · rename_i heq
      exact Or.inl ⟨eq_of_beq heq, (Option.some.inj hcache).symm⟩
    · exact Or.inr hcache
  cases h with
  | cached _ => exact Or.inr hfound
  | stored _ _ _ => exact hcons hfound
  | inserted _ _ _ _ _ => exact hcons hfound

/-- Every entry that a call leaves in the cache names a source that the call has seen. -/
theorem SourceFound.cacheSound (h : SourceFound python conn item context.opened id after)
    (hsound : context.CacheSound) {db : Db} (hdb : ∀ source ∈ after.work.sources, source ∈ db.sources) :
    Context.CacheSound ⟨after.sourceCache, db⟩ := by
  intro code found hfound
  rcases h.lookup hfound with ⟨rfl, rfl⟩ | hbefore
  · obtain ⟨site, hsite, hid, hcode⟩ := h.site hsound
    exact ⟨site, hdb site hsite, hid, hcode⟩
  · obtain ⟨site, hsite, hid, hcode⟩ := hsound code found hbefore
    exact ⟨site, hdb site (h.mem_sources hsite), hid, hcode⟩

theorem OwnedOrKept.namedOrKept {Row : Type} {rowId source : Row → ℕ} {before rows : List Row}
    {sources : List SourceSite} {sourceCode : String} (h : OwnedOrKept rowId source id before rows)
    (hsite : ∃ site ∈ sources, site.id = id ∧ site.code = sourceCode) :
    NamedOrKept rowId source sourceCode sources before rows := by
  intro row hrow
  rcases h row hrow with howned | hkept
  · rw [howned]
    exact Or.inl hsite
  · exact Or.inr hkept

theorem writesNamed_self (sourceCode : String) (db : Db) : WritesNamed sourceCode db db :=
  ⟨fun row hrow ↦ Or.inr ⟨row, hrow, rfl, rfl⟩, fun row hrow ↦ Or.inr ⟨row, hrow, rfl, rfl⟩,
    fun row hrow ↦ Or.inr ⟨row, hrow, rfl, rfl⟩, fun row hrow ↦ Or.inr ⟨row, hrow, rfl, rfl⟩⟩

/-- One call keeps the cache sound and the notices named, and writes rows of its source only. -/
theorem sound_step (event : Connection × WriterCall) (hsound : context.Sound)
    (hcommits : CommitsNewSource python context event) :
    (context.step python event).Sound ∧
      WritesNamed event.2.item.writtenSourceCode context.db (context.step python event).db := by
  obtain ⟨conn, call⟩ := event
  have hresult := step_result python context conn call
  generalize context.step python (conn, call) = closed at hresult ⊢
  cases hresult with
  | unchanged => exact ⟨hsound, writesNamed_self _ _⟩
  | dropped hitem hsource hbroken =>
    refine ⟨⟨?_, hsound.notices⟩, writesNamed_self _ _⟩
    apply hsource.cacheSound hsound.cache
    intro source hmem
    cases hsource with
    | cached _ => exact hmem
    | stored _ _ _ => exact hmem
    | inserted hinserts _ _ _ _ =>
      obtain ⟨hcommit, hstorable⟩ := hcommits _ hitem hinserts
      exact absurd ⟨hinserts, hsound.notices, hcommit, hstorable⟩ hbroken
  | committed hitem hsource hsources hwrites =>
    have hsite := hsource.site hsound.cache
    rw [← hsources, normalized_writtenSourceCode hitem] at hsite
    refine ⟨⟨hsource.cacheSound hsound.cache fun source hmem ↦ hsources ▸ hmem, ?_⟩, ?_⟩
    · intro notice hnotice
      rcases hwrites.notices notice hnotice with howned | ⟨old, hold, -, hkept⟩
      · obtain ⟨site, hmem, hid, -⟩ := hsite
        exact ⟨site, hmem, hid.trans howned.symm⟩
      · obtain ⟨site, hmem, hid⟩ := hsound.notices old hold
        rw [← hkept]
        exact ⟨site, hsources ▸ hsource.mem_sources hmem, hid⟩
    · exact ⟨hwrites.rawDocuments.namedOrKept hsite, hwrites.notices.namedOrKept hsite,
        hwrites.attachments.namedOrKept hsite, hwrites.errors.namedOrKept hsite⟩

/-- In every run whose calls commit the sources they insert, the cache names committed sources after
each call, and each call writes rows of its own source. -/
theorem sourceCache_sound (db : Db) (hnamed : db.NoticesNamed) (events : List (Connection × WriterCall))
    (hcommits : Along (Context.step python) (CommitsNewSource python) ⟨[], db⟩ events) :
    Along (Context.step python) (fun before event ↦ (before.step python event).CacheSound ∧
      WritesNamed event.2.item.writtenSourceCode before.db (before.step python event).db) ⟨[], db⟩ events := by
  have hinitial : Context.Sound ⟨[], db⟩ := ⟨fun _ _ h ↦ (nomatch h), hnamed⟩
  have hkeep (before : Context) (event : Connection × WriterCall) (hbefore : before.Sound)
      (hcommit : CommitsNewSource python before event) : (before.step python event).Sound :=
    (sound_step event hbefore hcommit).1
  refine along_of_invariant hkeep ?_ ⟨[], db⟩ events hinitial hcommits
  intro before event hbefore hcommit
  obtain ⟨hafter, hwrites⟩ := sound_step event hbefore hcommit
  exact ⟨hafter.cache, hwrites⟩

/-- A call commits its source if its item can be stored, whatever source it is of. -/
theorem commitsNewSource_of_storable {event : Connection × WriterCall}
    (hcheck : (match event.2.normalized python with
      | .ok item => event.2.storable python event.1 context.db item
      | .error _ => true) = true)
    (hcommit : event.1.fails .commit = false) : CommitsNewSource python context event := by
  intro item hitem _
  rw [hitem] at hcheck
  exact ⟨hcommit, hcheck⟩

end Runs

def emptyDb : Db := ⟨[], [], [], [], [], [], []⟩

/-- The digests of the keys of a notice titled t of the source a, and of an item without fields. -/
def titleDigests : Digests where
  entries := [("a|title|t", "9007f47694ff4b879184c69b448f4a3565a795c1290ccfd177433f0b6c8c911d"),
    ("t|-|-|-|-|-", "fa2ca7c6a9dd6d328e977e5a91c01b01c329558e69e26d455243fb5965723a09"),
    ("-|-|-|-|-|-", "66fe485321ad2d45d00835158bd3a0ce062c77c0eeca42f4a361df139d85aa1a")]
  stripped := by
    simp only [List.forall_mem_cons]
    refine ⟨?_, ?_, ?_, fun _ h ↦ (nomatch h)⟩ <;> exact PyText.asStr_ofList (by decide +kernel) (by decide +kernel)

def epoch : DateTime := ⟨0, some 0⟩

def noticeThenError : List (Connection × WriterCall) :=
  [(sqlite epoch, .notice { sourceCode := some (.str "a"), title := some (.str "t") }),
    (sqlite epoch, .error { sourceCode := some (.str "b") })]

theorem sourceCache_sound_noticeThenError :
    Along (Context.step (plainPython titleDigests)) (fun before event ↦
      (before.step (plainPython titleDigests) event).CacheSound ∧
        WritesNamed event.2.item.writtenSourceCode before.db (before.step (plainPython titleDigests) event).db)
      ⟨[], emptyDb⟩ noticeThenError := by
  apply sourceCache_sound emptyDb (fun _ h ↦ (nomatch h))
  refine ⟨commitsNewSource_of_storable ?_ rfl, commitsNewSource_of_storable ?_ rfl, trivial⟩
  · decide +kernel
  · decide +kernel

instance {Row : Type} (id source : Row → ℕ) (sourceCode : String) (sources : List SourceSite) (before after : List Row) :
    Decidable (NamedOrKept id source sourceCode sources before after) :=
  inferInstanceAs (Decidable (∀ row ∈ after, _ ∨ _))

/-- An item without a title makes its writer return early; the id of its source goes to the next
source, and the cache still gives it to the first one. -/
def earlyReturn : List (Connection × WriterCall) :=
  [(sqlite epoch, .notice { sourceCode := some (.str "a") }), (sqlite epoch, .error { sourceCode := some (.str "b") }),
    (sqlite epoch, .error { sourceCode := some (.str "a") })]

/-- Neither half holds in every run: the cache names a source that was never committed, and the last
row names a source of another code. -/
theorem sourceCache_not_sound_earlyReturn :
    ¬ Along (Context.step (plainPython titleDigests)) (fun before event ↦
        (before.step (plainPython titleDigests) event).CacheSound) ⟨[], emptyDb⟩ earlyReturn ∧
      ¬ Along (Context.step (plainPython titleDigests)) (fun before event ↦
        WritesNamed event.2.item.writtenSourceCode before.db (before.step (plainPython titleDigests) event).db)
        ⟨[], emptyDb⟩ earlyReturn := by
  constructor
  · intro h
    obtain ⟨source, hsource, -⟩ := h.1 "a" 1 (by decide +kernel)
    exact absurd (List.ne_nil_of_mem hsource) (by decide +kernel)
  · intro h
    exact absurd h.2.2.1.errors (by decide +kernel)

end TenderPhase1.Crawler
