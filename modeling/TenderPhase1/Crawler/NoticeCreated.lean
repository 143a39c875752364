import TenderPhase1.Crawler.DocumentAccepted
import TenderPhase1.Crawler.SourceDuplicates

/-!
# Which notice items create a notice

A call of `write_notice` adds one row to `tender_notice` or none. It adds one where
its item can be stored, is not suppressed and finds no notice; the row has the
columns of the item as they are read back.
-/

namespace TenderPhase1.Crawler

open Jobs Sources Raising

/-- The database carries out what it accepts. -/
def Connection.Reliable (conn : Connection) : Prop := ∀ stage, conn.fails stage = false

/-- What the call needs to create the notice of a normalised item. -/
structure Context.CreatesNotice (context : Context) (python : Python) (conn : Connection) (item : Item) : Prop where
  urlFound : ∃ sourceUrl, item.writtenSourceUrl python = .ok sourceUrl
  title : item.title.asStr.isSome
  converts : (coerceUtcDatetime (item.publishedAt.asDatetime python)).isOk
  fresh : item.suppressedIn (context.sourceIdOf conn item) context.db = false
  unknown : item.noticeIn python conn (context.sourceIdOf conn item) context.db.notices = .ok none

section Created

variable {python : Python} {conn : Connection} {item : Item} {sourceSiteId : ℕ} {state last : CallState}

/-! ## The row of a new notice -/

/-- The row of a notice that is made of the item, as it is read back. -/
def Item.createdNotice (python : Python) (conn : Connection) (item : Item) (id sourceSiteId : ℕ) (title : String) :
    TenderNotice :=
  ((item.newNotice python id sourceSiteId title).applyTexts python item).stored conn

theorem converts_of_applyFields {id : ℕ} {title : String} {merged : TenderNotice}
    (happlied : (item.newNotice python id sourceSiteId title).applyFields python item = .ok merged) :
    (coerceUtcDatetime (item.publishedAt.asDatetime python)).isOk := by
  unfold TenderNotice.applyFields at happlied
  split at happlied
  · obtain ⟨first, hfirst, -⟩ := bind_eq_ok.mp happlied
    exact isOk_iff.mpr ⟨first, hfirst⟩
  · rename_i hpublished
    rw [hpublished]
    rfl

/-- A notice is made with the dates of its item already. -/
theorem applyFields_newNotice_eq {id : ℕ} {title : String}
    (hconverts : (coerceUtcDatetime (item.publishedAt.asDatetime python)).isOk) :
    (item.newNotice python id sourceSiteId title).applyFields python item =
      .ok ((item.newNotice python id sourceSiteId title).applyTexts python item) := by
  unfold TenderNotice.applyFields
  split
  · rename_i published hpublished
    obtain ⟨coerced, hcoerced⟩ := isOk_iff.mp hconverts
    refine (applyPublished_of_coerced hcoerced hcoerced).trans (congrArg Except.ok ?_)
    simp only [TenderNotice.applyTexts, Item.newNotice, hpublished, ite_self]
  · rfl

/-! ## What a call has done that comes to its commit -/

/-- The item is suppressed, or merged into the notice that it finds, or into a new one. -/
inductive NoticeStored (python : Python) (conn : Connection) (item : Item) (sourceSiteId : ℕ) (state last : CallState) :
    Prop where
  | suppressed (hseen : item.suppressedIn sourceSiteId state.work = true)
      (hrecords : last.work.records = state.work.records)
  | merged {merged : TenderNotice} {created : Bool} {middle : CallState}
      (hseen : item.suppressedIn sourceSiteId state.work = false)
      (hmerged : Merged python conn item sourceSiteId state (some (merged, created)) middle)
      (hfound : if created then item.noticeIn python conn sourceSiteId state.work.notices = .ok none
        else ∃ notice, item.noticeIn python conn sourceSiteId state.work.notices = .ok (some notice) ∧
          notice.applyFields python item = .ok merged)
      (hrecords : last.work.records = middle.work.records)

/-- A call that reaches its end has stored its notice. -/
theorem ensures_noticeStored :
    Ensures (fun reached last ↦ reached = true → NoticeStored python conn item sourceSiteId state last)
      (storeNotice python conn item sourceSiteId) state := by
  apply ensures_bind
  refine ensures_mono ensures_suppressedIn ?_
  rintro seen _ ⟨rfl, hseen⟩
  cases seen with
  | true =>
    apply ensures_bind
    apply ensures_recordStats
    intro jobs
    exact ensures_pure fun _ ↦ .suppressed hseen.symm rfl
  | false =>
    apply ensures_bind
    refine ensures_mono (ensures_and ensures_mergedNotice ensures_mergedIn) ?_
    rintro merging middle ⟨hmerged, hfound⟩
    cases merging with
    | none => exact ensures_pure fun h ↦ (nomatch h)
    | some pair =>
      apply ensures_bind
      apply ensures_recordStats
      intro jobs
      exact ensures_pure fun _ ↦ .merged hseen.symm hmerged (hfound _ _ rfl) rfl

/-! ## An item that can be stored and finds nothing -/

theorem returns_firstNotice (hfails : conn.fails .statement = false) (haccepts : conn.accepts state.work)
    (queries : List (TenderNotice → Bool)) :
    Returns (fun found after ↦ after = state ∧ queries.findSome? (conn.first · state.work.notices) = found)
      (firstNotice conn queries) state := by
  induction queries with
  | nil => exact returns_pure ⟨rfl, rfl⟩
  | cons query queries ih =>
    rw [List.findSome?_cons]
    apply returns_bind
    apply returns_scalar hfails haccepts
    unfold Connection.first
    cases (conn.answer (state.work.notices.filter query)).head? with
    | some notice => exact returns_pure ⟨rfl, rfl⟩
    | none => exact ih

/-- Where the statements run, the search finds what `similarIn` says. -/
theorem returns_similarIn {found : Option TenderNotice} (hfails : conn.fails .statement = false)
    (haccepts : conn.accepts state.work)
    (hsimilar : item.similarIn python conn sourceSiteId state.work.notices = .ok found) :
    Returns (fun other after ↦ after = state ∧ other = found)
      (findNoticeByHighSimilarity python conn sourceSiteId item) state := by
  unfold Item.similarIn at hsimilar
  obtain ⟨normalizedDate, hdate, hsimilar⟩ := bind_eq_ok.mp hsimilar
  unfold findNoticeByHighSimilarity
  apply returns_bind
  apply returns_raisePython hdate
  cases htitle : normalizeTitle python item.title with
  | none =>
    simp only [htitle] at hsimilar
    exact returns_pure ⟨rfl, Except.ok.inj hsimilar⟩
  | some title =>
    cases hday : normalizedDate.bind nonEmpty with
    | none =>
      simp only [htitle, hday] at hsimilar
      exact returns_pure ⟨rfl, Except.ok.inj hsimilar⟩
    | some date =>
      simp only [htitle, hday] at hsimilar
      obtain ⟨bounds, hbounds, hsimilar⟩ := bind_eq_ok.mp hsimilar
      apply returns_bind
      apply returns_raisePython hbounds
      apply returns_bind
      apply returns_scalars hfails haccepts
      split at hsimilar
      · rename_i hnone
        rw [if_pos hnone]
        exact returns_pure ⟨rfl, Except.ok.inj hsimilar⟩
      · rename_i hsome
        obtain ⟨budget, hbudget, hsimilar⟩ := bind_eq_ok.mp hsimilar
        rw [if_neg hsome]
        apply returns_bind
        apply returns_raisePython hbudget
        exact returns_raisePython hsimilar ⟨rfl, rfl⟩

/-- A new notice whose keys lead to no notice breaks no constraint. -/
theorem uniqueNotices_newNotice {rows : List TenderNotice} {title : String} (h : uniqueNotices rows)
    (hkeys : ∀ other ∈ rows, ¬ item.leadsTo sourceSiteId other) :
    uniqueNotices (rows ++ [item.newNotice python (conn.nextId (rows.map TenderNotice.id)) sourceSiteId title]) := by
  rw [uniqueNotices_iff] at h ⊢
  refine ⟨nodup_map_append h.1 fun other hother ↦ conn.nextId_ne hother, nodup_filterMap_append h.2.1 ?_,
    nodup_filterMap_append h.2.2 ?_⟩
  · intro key hkey other hother hheld
    obtain ⟨text, hitem, rfl⟩ := Option.map_eq_some_iff.mp hkey
    obtain ⟨same, hcolumn, hpair⟩ := Option.map_eq_some_iff.mp hheld
    obtain ⟨hsource, rfl⟩ := Prod.mk.inj hpair
    exact hkeys other hother (leadsTo_of_externalId ⟨hsource, same, hitem, hcolumn⟩)
  · intro key hkey other hother hheld
    obtain ⟨text, hitem, rfl⟩ := Option.map_eq_some_iff.mp hkey
    obtain ⟨same, hcolumn, hpair⟩ := Option.map_eq_some_iff.mp hheld
    obtain ⟨hsource, rfl⟩ := Prod.mk.inj hpair
    exact hkeys other hother (leadsTo_of_dedupHash ⟨hsource, same, hitem, hcolumn⟩)

/-- Where the lookup by the keys comes to nothing, no key leads to a notice. -/
theorem not_leadsTo_of_findSome? {rows : List TenderNotice}
    (h : (item.noticeQueries sourceSiteId).findSome? (conn.first · rows) = none) :
    ∀ other ∈ rows, ¬ item.leadsTo sourceSiteId other := by
  rintro other hother ⟨query, hquery, hmatches⟩
  have hnone := List.findSome?_eq_none_iff.mp h query hquery
  have hmissing := filter_eq_false_of_head?_answer hnone other hother
  rw [hmatches] at hmissing
  cases hmissing

/-- What finds nothing by its keys finds nothing by similarity, either. -/
theorem noticeIn_eq_none {rows : List TenderNotice} :
    item.noticeIn python conn sourceSiteId rows = .ok none ↔
      (item.noticeQueries sourceSiteId).findSome? (conn.first · rows) = none ∧
        item.similarIn python conn sourceSiteId rows = .ok none := by
  unfold Item.noticeIn
  cases (item.noticeQueries sourceSiteId).findSome? (conn.first · rows) with
  | some notice => simp
  | none => simp

/-- The test for a seen content reads the tables and writes nothing. -/
theorem returns_suppressedIn (hfails : conn.fails .statement = false) (haccepts : conn.accepts state.work) :
    Returns (fun seen after ↦ after = state ∧ seen = item.suppressedIn sourceSiteId state.work)
      (suppressed conn item sourceSiteId) state := by
  have hreturns : Returns (fun _ _ ↦ True) (suppressed conn item sourceSiteId) state := by
    unfold suppressed existsNoticeVersionWithIdentityContent
    dsimp only
    split
    · exact returns_pure trivial
    · split
      · exact returns_pure trivial
      · apply returns_bind
        apply returns_scalars hfails haccepts
        apply returns_bind
        apply returns_scalar hfails haccepts
        exact returns_pure trivial
  exact returns_mono (hreturns.of_ensures ensures_suppressedIn) fun _ _ h ↦ h.2

/-- An item that no notice matches creates one. -/
theorem returns_mergedNotice_new (hfails : conn.fails .statement = false) (haccepts : conn.accepts state.work)
    (htitle : item.title.asStr.isSome) (hconverts : (coerceUtcDatetime (item.publishedAt.asDatetime python)).isOk)
    (hunknown : item.noticeIn python conn sourceSiteId state.work.notices = .ok none) :
    Returns (fun found after ↦ found.isSome ∧ conn.accepts after.work) (mergedNotice python conn item sourceSiteId)
      state := by
  obtain ⟨hkeys, hsimilar⟩ := noticeIn_eq_none.mp hunknown
  obtain ⟨title, htitle⟩ := Option.isSome_iff_exists.mp htitle
  let notice := item.newNotice python (conn.nextId (state.work.notices.map TenderNotice.id)) sourceSiteId title
  have haccepted : conn.accepts { state.work with notices := state.work.notices ++ [notice] } :=
    accepts_notices haccepts
      (uniqueNotices_newNotice (accepts_iff.mp haccepts).2.2.1 (not_leadsTo_of_findSome? hkeys))
  have hresolved : Returns (fun found after ↦ found = some (notice, true) ∧ conn.accepts after.work ∧
      notice ∈ after.work.notices) (resolveNotice python conn item sourceSiteId) state := by
    apply returns_bind
    apply returns_mono (returns_firstNotice hfails haccepts _)
    rintro found _ ⟨rfl, hfound⟩
    obtain rfl := hkeys.symm.trans hfound
    apply returns_bind
    apply returns_mono (returns_similarIn hfails haccepts hsimilar)
    rintro _ _ ⟨rfl, rfl⟩
    rw [htitle]
    apply returns_bind
    apply returns_bind
    apply returns_get
    apply returns_bind
    apply returns_update
    apply returns_bind
    refine returns_flush hfails haccepted ?_
    exact returns_pure (returns_pure ⟨rfl, haccepted, List.mem_append_right _ List.mem_cons_self⟩)
  obtain ⟨merged, happlied, hid, hexternal, hhash, -⟩ := applyFields_newNotice hconverts
  apply returns_bind
  apply returns_mono hresolved
  rintro _ after ⟨rfl, hafter, hmem⟩
  apply returns_bind
  apply returns_raisePython happlied
  apply returns_bind
  apply returns_update
  refine returns_pure ⟨rfl, accepts_notices hafter ?_⟩
  exact uniqueNotices_putRow (accepts_iff.mp hafter).2.2.1 hmem hid hexternal hhash

theorem returns_storeNotice_new (hfails : conn.fails .statement = false) (haccepts : conn.accepts state.work)
    (htitle : item.title.asStr.isSome) (hconverts : (coerceUtcDatetime (item.publishedAt.asDatetime python)).isOk)
    (hfresh : item.suppressedIn sourceSiteId state.work = false)
    (hunknown : item.noticeIn python conn sourceSiteId state.work.notices = .ok none) :
    Returns (fun _ after ↦ conn.accepts after.work) (storeNotice python conn item sourceSiteId) state := by
  apply returns_bind
  apply returns_mono (returns_suppressedIn hfails haccepts)
  rintro _ _ ⟨rfl, rfl⟩
  rw [hfresh]
  apply returns_bind
  apply returns_mono (returns_mergedNotice_new hfails haccepts htitle hconverts hunknown)
  rintro found after ⟨hfound, hafter⟩
  obtain ⟨⟨merged, created⟩, rfl⟩ := Option.isSome_iff_exists.mp hfound
  refine returns_counted hfails hafter ?_
  cases created <;> decide

/-! ## The rows of a call that comes to its commit -/

/-- A row that is put in place of the last one, which has an id of its own. -/
theorem putRow_append {Row : Type} {id : Row → ℕ} {rows : List Row} {old row : Row}
    (hfresh : ∀ other ∈ rows, id other ≠ id row) (hid : id old = id row) :
    putRow id row (rows ++ [old]) = rows ++ [row] := by
  have hkept : putRow id row rows = rows := by
    unfold putRow
    rw [List.map_congr_left fun other hother ↦ if_neg (hfresh other hother), List.map_id']
  calc putRow id row (rows ++ [old]) = putRow id row rows ++ [if id old = id row then row else old] :=
        List.map_append
    _ = rows ++ [row] := by rw [hkept, if_pos hid]

theorem storedRows_append {Row : Type} [DecidableEq Row] {stored : Row → Row} {rows : List Row} {row : Row}
    (hfresh : row ∉ rows) : storedRows stored rows (rows ++ [row]) = rows ++ [stored row] := by
  calc storedRows stored rows (rows ++ [row])
      = storedRows stored rows rows ++ [if row ∈ rows then row else stored row] := List.map_append
    _ = rows ++ [stored row] := by rw [storedRows_self, if_neg hfresh]

/-- An item that can be stored and finds nothing has added its row. -/
theorem NoticeStored.records_eq_created {title : String} (h : NoticeStored python conn item sourceSiteId state last)
    (htitle : item.title.asStr = some title)
    (hconverts : (coerceUtcDatetime (item.publishedAt.asDatetime python)).isOk)
    (hfresh : item.suppressedIn sourceSiteId state.work = false)
    (hunknown : item.noticeIn python conn sourceSiteId state.work.notices = .ok none) :
    last.work.records = (state.work.notices ++
      [(item.newNotice python (conn.nextId (state.work.notices.map TenderNotice.id)) sourceSiteId title).applyTexts
        python item], state.work.versions) := by
  cases h with
  | suppressed hseen _ =>
    rw [hfresh] at hseen
    cases hseen
  | merged _ hmerged hfound hrecords =>
    rw [hrecords]
    cases hmerged with
    | merged hresolved happlied =>
      cases hresolved with
      | found _ _ _ _ =>
        obtain ⟨notice, hnotice, -⟩ := hfound
        cases hunknown.symm.trans hnotice
      | created hother _ _ =>
        obtain rfl := Option.some.inj (htitle.symm.trans hother)
        obtain rfl := Except.ok.inj (happlied.symm.trans (applyFields_newNotice_eq hconverts))
        refine Prod.ext ?_ rfl
        exact putRow_append (fun other hother ↦ conn.nextId_ne hother) rfl

/-- An item that is suppressed or finds a notice has added none, and moved none to another source. -/
theorem NoticeStored.sources_eq (h : NoticeStored python conn item sourceSiteId state last)
    (hkept : ∀ title, item.title.asStr = some title → item.suppressedIn sourceSiteId state.work = false →
      (coerceUtcDatetime (item.publishedAt.asDatetime python)).isOk →
      item.noticeIn python conn sourceSiteId state.work.notices ≠ .ok none) :
    last.work.notices.map TenderNotice.sourceSiteId = state.work.notices.map TenderNotice.sourceSiteId := by
  cases h with
  | suppressed _ hrecords => rw [(Prod.mk.inj hrecords).1]
  | merged hseen hmerged hfound hrecords =>
    rw [(Prod.mk.inj hrecords).1]
    cases hmerged with
    | merged hresolved happlied =>
      cases hresolved with
      | found hmem haccepts _ _ =>
        obtain ⟨published, first, latest, rfl⟩ := applyFields_eq_ok happlied
        have hids := (uniqueNotices_iff.mp (accepts_iff.mp haccepts).2.2.1).1
        exact map_putRow hids hmem rfl rfl
      | created htitle _ _ =>
        exact absurd hfound (hkept _ htitle hseen (converts_of_applyFields happlied))

end Created

/-! ## The step -/

section Step

variable {python : Python} {conn : Connection} {context : Context} {call : WriterCall} {original item other : Item}
  {found last : CallState}

/-- The commit leaves the constraints as they are. -/
theorem accepts_stored {committed work : Db} (h : conn.accepts work) : conn.accepts (Db.stored conn committed work) := by
  unfold Connection.accepts at h ⊢
  rw [Bool.and_eq_true, Bool.or_eq_true] at h ⊢
  refine ⟨unique_stored h.1, h.2.imp_right fun hjobs ↦ ?_⟩
  unfold Db.jobsExist Db.stored at *
  rw [filterMap_storedRows, filterMap_storedRows]
  · exact hjobs
  all_goals exact fun _ ↦ rfl

theorem accepts_step (haccepts : conn.accepts context.db) : conn.accepts (context.step python (conn, call)).db := by
  rcases step_cases python context conn call with hkept | ⟨item, found, last, hcommitted⟩
  · rw [hkept]
    exact haccepts
  · rw [hcommitted.step]
    exact accepts_stored hcommitted.accepted

theorem sourceIdOf_congr (hcode : other.writtenSourceCode = item.writtenSourceCode) :
    context.sourceIdOf conn other = context.sourceIdOf conn item := by
  unfold Context.sourceIdOf
  rw [hcode]

/-- A call leaves the id of the source of its item as it is. -/
theorem sourceIdOf_step (hcode : other.writtenSourceCode = call.item.writtenSourceCode) :
    (context.step python (conn, call)).sourceIdOf conn other = context.sourceIdOf conn other := by
  change Ends (fun _ after ↦ after.closed.sourceIdOf conn other = context.sourceIdOf conn other)
    (call.program python conn) context.opened
  rw [call.program_eq, ends_bind, ends_raisePython]
  cases hitem : call.normalized python with
  | error error => exact rfl
  | ok item =>
    have hsame : other.writtenSourceCode = item.writtenSourceCode :=
      hcode.trans (normalized_writtenSourceCode hitem).symm
    dsimp only
    unfold inSession
    rw [ends_bind]
    apply ends_mono (ends_and ends_itemSourceSiteId ensures_sourceIdOf)
    rintro outcome found ⟨hfound, hid⟩
    cases outcome with
    | error error =>
      have hclosed : found.closed = context := congrArg₂ Context.mk hfound.1 hfound.2
      rw [hclosed]
    | ok id =>
      obtain rfl := hid id rfl
      -- The cache names the source from here on, whatever becomes of the rest of the call.
      have hcached (after : CallState) (hcache : after.sourceCache = found.sourceCache) :
          after.closed.sourceIdOf conn other = context.sourceIdOf conn other := by
        rw [sourceIdOf_congr hsame, sourceIdOf_congr hsame]
        apply sourceIdOf_cached
        exact (congrArg (List.lookup _) hcache).trans hfound.cached_eq
      have hstart : Confined found.sourceCache context.db found.work.sources (context.sourceIdOf conn item) found :=
        ⟨rfl, hfound.committed_eq, rfl, hfound.writesFor⟩
      dsimp only
      rw [ends_bind]
      apply ends_mono (yields_confined_store call found hstart)
      rintro stored last ⟨hconfined, -⟩
      cases stored with
      | error error => exact hcached last hconfined.cacheKept
      | ok reached =>
        cases reached with
        | false => exact hcached last hconfined.cacheKept
        | true =>
          change Ends _ (commit conn) last
          rw [ends_commit]
          cases conn.refusal .commit last.work <;> exact hcached _ hconfined.cacheKept

/-- A call whose item has no URL for its source changes nothing. -/
theorem step_of_noUrl (hitem : call.normalized python = .ok item)
    (hurl : ¬ ∃ sourceUrl, item.writtenSourceUrl python = .ok sourceUrl) :
    context.step python (conn, call) = context := by
  change Ends (fun _ after ↦ after.closed = context) (call.program python conn) context.opened
  rw [call.program_eq, hitem]
  cases hfound : item.writtenSourceUrl python with
  | ok sourceUrl => exact absurd ⟨sourceUrl, hfound⟩ hurl
  | error error =>
    change Ends _ (inSession python conn item (call.store python conn item)) context.opened
    unfold inSession itemSourceSiteId
    rw [hfound]
    exact rfl

/-- What a call of `write_notice` does to the notices. -/
inductive NoticeStep (python : Python) (conn : Connection) (context : Context) (original : Item) : Prop where
  | created {item : Item} {title : String} (hitem : normalizeNoticeItem python original = .ok item)
      (hcreates : context.CreatesNotice python conn item) (htitle : item.title.asStr = some title)
      (hrecords : (context.step python (conn, .notice original)).db.records =
        (context.db.notices ++ [item.createdNotice python conn
          (conn.nextId (context.db.notices.map TenderNotice.id)) (context.sourceIdOf conn item) title],
          context.db.versions))
  | kept (hnone : ∀ item, normalizeNoticeItem python original = .ok item → ¬ context.CreatesNotice python conn item)
      (hsources : (context.step python (conn, .notice original)).db.notices.map TenderNotice.sourceSiteId =
        context.db.notices.map TenderNotice.sourceSiteId)

/-- An item that can be stored and finds nothing is committed. -/
theorem written_of_createsNotice (hreliable : conn.Reliable) (haccepts : conn.accepts context.db)
    (hitem : normalizeNoticeItem python original = .ok item) (hcreates : context.CreatesNotice python conn item) :
    Written python context conn (.notice original) := by
  have hreturns : Returns (fun _ _ ↦ True) (inSession python conn item (storeNotice python conn item))
      context.opened := by
    unfold inSession
    apply returns_bind
    refine returns_mono (Returns.of_ensures (returns_itemSourceSiteId hcreates.urlFound
      (Or.inr (Or.inr (hreliable .newSource))) haccepts (hreliable .statement))
      (ensures_and ensures_itemSourceSiteId ensures_sourceIdOf)) ?_
    rintro _ found ⟨⟨hfoundAccepts, -⟩, hfound, rfl⟩
    have hfresh : item.suppressedIn (context.sourceIdOf conn item) found.work = false := by
      rw [suppressedIn_of_records hfound.records_eq]
      exact hcreates.fresh
    have hunknown : item.noticeIn python conn (context.sourceIdOf conn item) found.work.notices = .ok none := by
      rw [hfound.notices_eq]
      exact hcreates.unknown
    apply returns_bind
    refine returns_mono (returns_storeNotice_new (hreliable .statement) hfoundAccepts hcreates.title
      hcreates.converts hfresh hunknown) ?_
    intro reached last hlast
    cases reached with
    | false => exact returns_pure trivial
    | true => exact returns_commit (hreliable .commit) hlast fun _ ↦ trivial
  obtain ⟨_, houtcome, -⟩ := hreturns
  unfold Written
  rw [WriterCall.program_eq]
  change Ends _ (raisePython (normalizeNoticeItem python original) >>= _) _
  rw [hitem]
  exact houtcome

theorem CommittedCall.noticeStored
    (h : CommittedCall python context conn (.notice original) item (context.sourceIdOf conn item) found last) :
    NoticeStored python conn item (context.sourceIdOf conn item) found last :=
  ensures_noticeStored.of_run h.run rfl

/-- A call that creates a notice and comes to its commit leaves the row as it is read back. -/
theorem CommittedCall.records_eq_created {title : String}
    (h : CommittedCall python context conn (.notice original) item (context.sourceIdOf conn item) found last)
    (hcreates : context.CreatesNotice python conn item) (htitle : item.title.asStr = some title) :
    (context.step python (conn, .notice original)).db.records =
      (context.db.notices ++ [item.createdNotice python conn
        (conn.nextId (context.db.notices.map TenderNotice.id)) (context.sourceIdOf conn item) title],
        context.db.versions) := by
  have hnotices : found.work.notices = context.db.notices := h.sourceFound.notices_eq
  have hversions : found.work.versions = context.db.versions := h.sourceFound.versions_eq
  have hrecords := h.noticeStored.records_eq_created htitle hcreates.converts
    ((suppressedIn_of_records h.sourceFound.records_eq).trans hcreates.fresh) (hnotices ▸ hcreates.unknown)
  rw [hnotices, hversions] at hrecords
  obtain ⟨hlastNotices, hlastVersions⟩ := Prod.mk.inj hrecords
  have hfresh (row : TenderNotice) (hrow : row ∈ context.db.notices) :
      row.id ≠ conn.nextId (context.db.notices.map TenderNotice.id) := conn.nextId_ne hrow
  rw [h.step]
  unfold Db.records Db.stored
  rw [hlastNotices, hlastVersions, storedRows_self, storedRows_append]
  · rfl
  · intro hmem
    exact hfresh _ hmem rfl

/-- What a notice call does, failures included, in terms of the notices before it. -/
theorem noticeStep (hreliable : conn.Reliable) (haccepts : conn.accepts context.db) :
    NoticeStep python conn context original := by
  by_cases hcreates : ∃ item, normalizeNoticeItem python original = .ok item ∧ context.CreatesNotice python conn item
  · obtain ⟨item, hitem, hcreates⟩ := hcreates
    obtain ⟨title, htitle⟩ := Option.isSome_iff_exists.mp hcreates.title
    rcases ends_program python context conn (.notice original) with ⟨-, hincomplete⟩ | hcommitted
    · obtain ⟨other, hother, hincomplete⟩ := hincomplete (written_of_createsNotice hreliable haccepts hitem hcreates)
      obtain rfl := Except.ok.inj (hitem.symm.trans hother)
      exact absurd hcreates.title hincomplete
    · obtain ⟨other, found, last, hother, hfound, hrun, hsources, haccepted, hclosed, -⟩ := hcommitted
      obtain rfl := Except.ok.inj (hitem.symm.trans hother)
      have hcall : CommittedCall python context conn (.notice original) item (context.sourceIdOf conn item) found last :=
        ⟨hother, hfound, hrun, hsources, haccepted, hclosed⟩
      exact .created hitem hcreates htitle (hcall.records_eq_created hcreates htitle)
  · have hnone (item : Item) (hitem : normalizeNoticeItem python original = .ok item) :
        ¬ context.CreatesNotice python conn item := fun h ↦ hcreates ⟨item, hitem, h⟩
    refine .kept hnone ?_
    rcases step_cases python context conn (.notice original) with hkept | ⟨item, found, last, hcommitted⟩
    · rw [hkept]
    · have hnotices : found.work.notices = context.db.notices := hcommitted.sourceFound.notices_eq
      by_cases hurl : ∃ sourceUrl, item.writtenSourceUrl python = .ok sourceUrl
      · have hsources : last.work.notices.map TenderNotice.sourceSiteId =
            found.work.notices.map TenderNotice.sourceSiteId := by
          apply hcommitted.noticeStored.sources_eq
          intro title htitle hfresh hconverts hunknown
          refine hnone item hcommitted.normalized ⟨hurl, Option.isSome_of_eq_some htitle, hconverts, ?_, ?_⟩
          · exact (suppressedIn_of_records hcommitted.sourceFound.records_eq).symm.trans hfresh
          · rw [← hnotices]
            exact hunknown
        rw [hcommitted.step, ← hnotices, ← hsources]
        apply map_storedRows
        exact fun _ ↦ rfl
      · rw [step_of_noUrl hcommitted.normalized hurl]

end Step

end TenderPhase1.Crawler
