import TenderPhase1.Crawler.SourceCache
import TenderPhase1.Crawler.VersionMerge

/-!
# Which rows an item finds

The lookups of the writers as functions of the rows they read: the source of an
item, its notice, and the versions that have its content. The programs of the
writers come to exactly these rows, so a condition on a call can be stated before
the call.
-/

namespace TenderPhase1.Crawler

open Jobs Sources Raising

/-- The first of the rows that meet the condition, in the order in which the connection returns them. -/
def Connection.first {Row : Type} (conn : Connection) (filter : Row → Bool) (rows : List Row) : Option Row :=
  (conn.answer (rows.filter filter)).head?

/-! ## The source -/

/-- The id that a call finds for the source of its item. -/
def Context.sourceIdOf (context : Context) (conn : Connection) (item : Item) : ℕ :=
  match context.sourceCache.lookup item.writtenSourceCode with
  | some cached => cached
  | none =>
      match conn.first (fun source : SourceSite ↦ source.code = item.writtenSourceCode) context.db.sources with
      | some source => source.id
      | none => conn.nextId (context.db.sources.map SourceSite.id)

section Source

variable {python : Python} {conn : Connection} {item : Item} {context : Context}

/-- The first statement of a call finds the source that the context and the database name. -/
theorem ensures_sourceIdOf :
    Ensures (fun id _ ↦ id = context.sourceIdOf conn item) (itemSourceSiteId python conn item) context.opened := by
  apply ensures_bind
  apply ensures_raisePython
  intro sourceUrl _
  apply ensures_bind
  apply ensures_get
  unfold Context.sourceIdOf
  change Ensures _ (match context.sourceCache.lookup item.writtenSourceCode with | some _ => _ | none => _) _
  cases context.sourceCache.lookup item.writtenSourceCode with
  | some cached => exact ensures_pure rfl
  | none =>
    apply ensures_bind
    apply ensures_bind
    apply ensures_scalar
    intro _
    change Ensures _ (match conn.first (fun source : SourceSite ↦ source.code = item.writtenSourceCode)
      context.db.sources with | some _ => _ | none => _) _
    cases conn.first (fun source : SourceSite ↦ source.code = item.writtenSourceCode) context.db.sources with
    | some source =>
      refine ensures_pure ?_
      apply ensures_bind
      exact ensures_pure (ensures_pure rfl)
    | none =>
      apply ensures_bind
      apply ensures_get
      apply ensures_bind
      apply ensures_update
      apply ensures_bind
      apply ensures_flush
      intro _
      refine ensures_pure ?_
      apply ensures_bind
      exact ensures_pure (ensures_pure rfl)

end Source

/-! ## The notice -/

section Notice

variable (python : Python) (conn : Connection) (item : Item) (sourceSiteId : ℕ) (notices : List TenderNotice)

/-- The notice that `_find_notice_by_high_similarity` finds among the rows. -/
def Item.similarIn : Except PyError (Option TenderNotice) := do
  let normalizedDate ← normalizePublishedDate python item.publishedAt
  match normalizeTitle python item.title, normalizedDate.bind nonEmpty with
  | some title, some date =>
      let (dayStart, dayEnd) ← dayBounds python date
      let candidates := conn.answer (notices.filter fun notice ↦
        notice.sourceSiteId = sourceSiteId ∧
          notice.publishedAt.any fun published ↦ dayStart ≤ published.instant && published.instant < dayEnd)
      if candidates = [] then return none
      else
        let budget ← normalizeBudgetBucket python item.budgetAmount
        firstSimilar python (some title) (normalizePurchaserOrPublisher python item.issuer)
          (normalizeRegion python item.region) budget candidates
  | _, _ => return none

/-- The notice that `_resolve_notice` finds among the rows: by the first key that leads to one, or
by similarity. -/
def Item.noticeIn : Except PyError (Option TenderNotice) :=
  match (item.noticeQueries sourceSiteId).findSome? (conn.first · notices) with
  | some notice => .ok (some notice)
  | none => item.similarIn python conn sourceSiteId notices

end Notice

section Resolve

variable {python : Python} {conn : Connection} {item : Item} {sourceSiteId : ℕ} {state : CallState}

theorem ensures_findSome (queries : List (TenderNotice → Bool)) :
    Ensures (fun found after ↦ after = state ∧ queries.findSome? (conn.first · state.work.notices) = found)
      (firstNotice conn queries) state := by
  induction queries with
  | nil => exact ensures_pure ⟨rfl, rfl⟩
  | cons query queries ih =>
    rw [List.findSome?_cons]
    apply ensures_bind
    apply ensures_scalar
    intro _
    change Ensures _ (match conn.first query state.work.notices with | some _ => _ | none => _) _
    cases conn.first query state.work.notices with
    | some notice => exact ensures_pure ⟨rfl, rfl⟩
    | none => exact ih

/-- The search for similar notices finds what `similarIn` says, and changes nothing. -/
theorem ensures_similarIn :
    Ensures (fun found after ↦ after = state ∧ item.similarIn python conn sourceSiteId state.work.notices = .ok found)
      (findNoticeByHighSimilarity python conn sourceSiteId item) state := by
  unfold findNoticeByHighSimilarity Item.similarIn
  apply ensures_bind
  apply ensures_raisePython
  intro normalizedDate hdate
  simp only [hdate, ok_bind]
  cases normalizeTitle python item.title with
  | none => exact ensures_pure ⟨rfl, rfl⟩
  | some title =>
    cases normalizedDate.bind nonEmpty with
    | none => exact ensures_pure ⟨rfl, rfl⟩
    | some date =>
      apply ensures_bind
      apply ensures_raisePython
      intro bounds hbounds
      simp only [hbounds, ok_bind]
      apply ensures_bind
      apply ensures_scalars
      intro _
      split
      · exact ensures_pure ⟨rfl, rfl⟩
      · apply ensures_bind
        apply ensures_raisePython
        intro budget hbudget
        simp only [hbudget, ok_bind]
        apply ensures_raisePython
        exact fun found hfound ↦ ⟨rfl, hfound⟩

/-- `_resolve_notice` comes to the notice that the item finds, and creates one where it finds none. -/
theorem ensures_noticeIn :
    Ensures (fun found _ ↦ ∀ notice created, found = some (notice, created) →
        item.noticeIn python conn sourceSiteId state.work.notices = .ok (if created then none else some notice))
      (resolveNotice python conn item sourceSiteId) state := by
  unfold Item.noticeIn
  apply ensures_bind
  refine ensures_mono (ensures_findSome _) ?_
  rintro found after ⟨rfl, hfound⟩
  simp only [hfound]
  cases found with
  | some notice =>
    apply ensures_pure
    rintro _ _ ⟨⟩
    rfl
  | none =>
    apply ensures_bind
    refine ensures_mono ensures_similarIn ?_
    rintro similar last ⟨rfl, hsimilar⟩
    simp only [hsimilar]
    cases similar with
    | some notice =>
      apply ensures_pure
      rintro _ _ ⟨⟩
      rfl
    | none =>
      dsimp only
      cases item.title.asStr with
      | none =>
        apply ensures_pure
        rintro _ _ ⟨⟩
      | some title =>
        apply ensures_bind
        refine ensures_of_forall fun created after ↦ ?_
        apply ensures_pure
        rintro _ _ ⟨⟩
        rfl

/-- The merged notice is the one that the item finds, or a new one where it finds none. -/
theorem ensures_mergedIn :
    Ensures (fun found _ ↦ ∀ merged created, found = some (merged, created) →
        if created then item.noticeIn python conn sourceSiteId state.work.notices = .ok none
        else ∃ notice, item.noticeIn python conn sourceSiteId state.work.notices = .ok (some notice) ∧
          notice.applyFields python item = .ok merged)
      (mergedNotice python conn item sourceSiteId) state := by
  apply ensures_bind
  refine ensures_mono ensures_noticeIn ?_
  intro found resolved hfound
  cases found with
  | none => exact ensures_pure fun _ _ h ↦ (nomatch h)
  | some pair =>
    obtain ⟨notice, created⟩ := pair
    have hnotice := hfound notice created rfl
    apply ensures_bind
    apply ensures_raisePython
    intro merged hmerged
    apply ensures_bind
    apply ensures_update
    apply ensures_pure
    rintro _ _ ⟨⟩
    cases created with
    | true => exact hnotice
    | false => exact ⟨notice, hnotice, hmerged⟩

/-! ## Suppression -/

/-- A version of a notice of the source has one of the keys and the content: what
`_exists_notice_version_with_identity_content` looks for. -/
def Item.suppressedIn (item : Item) (sourceSiteId : ℕ) (db : Db) : Bool :=
  db.versions.any fun version ↦
    db.notices.any (fun notice ↦ notice.sourceSiteId = sourceSiteId && notice.id = version.noticeId) &&
      ((item.dedupKey.asStr <|> item.sourceDuplicateKey.asStr).any (version.dedupKey = some ·) ||
        item.sourceDuplicateKey.asStr.any (version.sourceDuplicateKey = some ·)) &&
      item.contentHash.asStr.any (version.contentHash = ·)

theorem isSome_head?_answer {Row : Type} {filter : Row → Bool} {rows : List Row} :
    (conn.answer (rows.filter filter)).head?.isSome = rows.any filter := by
  rw [Bool.eq_iff_iff, List.any_eq_true, Option.isSome_iff_exists]
  constructor
  · rintro ⟨row, hrow⟩
    exact ⟨row, mem_of_head?_answer hrow⟩
  · rintro ⟨row, hrow, hfilter⟩
    by_contra hnone
    have hmissing : (conn.answer (rows.filter filter)).head? = none := by
      rw [Option.eq_none_iff_forall_ne_some]
      exact fun found hfound ↦ hnone ⟨found, hfound⟩
    rw [filter_eq_false_of_head?_answer hmissing row hrow] at hfilter
    cases hfilter

theorem any_answer {Row : Type} {filter test : Row → Bool} {rows : List Row} :
    (conn.answer (rows.filter filter)).any test = rows.any fun row ↦ filter row && test row := by
  rw [(conn.answer_perm _).any_eq, List.any_filter]

/-- The suppression test answers what `suppressedIn` says. -/
theorem ensures_suppressedIn :
    Ensures (fun found after ↦ after = state ∧ found = item.suppressedIn sourceSiteId state.work)
      (suppressed conn item sourceSiteId) state := by
  unfold suppressed existsNoticeVersionWithIdentityContent Item.suppressedIn
  cases item.contentHash.asStr with
  | none => exact ensures_pure ⟨rfl, by simp⟩
  | some contentHash =>
    dsimp only
    split
    · rename_i hkeys
      obtain ⟨hkey, hsourceKey⟩ := hkeys
      rw [Option.isNone_iff_eq_none] at hkey hsourceKey
      refine ensures_pure ⟨rfl, ?_⟩
      rw [hkey, hsourceKey]
      simp
    · apply ensures_bind
      apply ensures_scalars
      intro _
      apply ensures_bind
      apply ensures_scalar
      intro _
      refine ensures_pure ⟨rfl, ?_⟩
      rw [isSome_head?_answer]
      congr 1
      funext version
      rw [any_answer]
      rfl

end Resolve

/-! ## The version -/

/-- The version of the notice has the content of the item, or its number where the item has no content. -/
def Item.NamesVersion (python : Python) (item : Item) (noticeId : ℕ) (version : NoticeVersion) : Prop :=
  version.noticeId = noticeId ∧ match item.contentHash.asStr with
    | some contentHash => version.contentHash = contentHash
    | none => version.versionNo = item.requestedVersionNo python

instance (python : Python) (item : Item) (noticeId : ℕ) (version : NoticeVersion) :
    Decidable (item.NamesVersion python noticeId version) := by
  unfold Item.NamesVersion
  cases item.contentHash.asStr <;> infer_instance

/-- The version that `_resolve_notice_version` finds is one that the item names. -/
theorem ResolvedVersion.namesVersion {python : Python} {conn : Connection} {item : Item} {noticeId : ℕ}
    {state after : CallState} {version : NoticeVersion}
    (h : ResolvedVersion python conn item noticeId state (some (version, false)) after) :
    item.NamesVersion python noticeId version := by
  cases h with
  | found _ _ hnotice hcontent hnumber =>
    refine ⟨hnotice, ?_⟩
    split
    · rename_i contentHash hitem
      exact hcontent contentHash hitem
    · rename_i hitem
      exact hnumber hitem

/-! ## Storing a version -/

/-- What `write_notice_version` does where it comes to its commit: it merges the notice that the item
finds, finds or creates the version, and stores it. -/
structure VersionWritten (python : Python) (conn : Connection) (item : Item) (sourceSiteId : ℕ)
    (state after : CallState) (merged : TenderNotice) (created : Bool) (found : NoticeVersion) (versionCreated : Bool) :
    Prop where
  steps : ∃ middle resolved, Merged python conn item sourceSiteId state (some (merged, created)) middle ∧
    ResolvedVersion python conn item merged.id middle (some (found, versionCreated)) resolved ∧
      VersionStored python conn item merged found resolved after
  mergedIn : if created then item.noticeIn python conn sourceSiteId state.work.notices = .ok none
    else ∃ notice, item.noticeIn python conn sourceSiteId state.work.notices = .ok (some notice) ∧
      notice.applyFields python item = .ok merged

/-- A version call that reaches its end has written its version. -/
theorem ensures_versionWritten {python : Python} {conn : Connection} {item : Item} {sourceSiteId : ℕ}
    {state : CallState} :
    Ensures (fun reached after ↦ reached = true → ∃ merged created found versionCreated,
        VersionWritten python conn item sourceSiteId state after merged created found versionCreated)
      (storeNoticeVersion python conn item sourceSiteId) state := by
  apply ensures_bind
  refine ensures_mono (ensures_and ensures_mergedNotice ensures_mergedIn) ?_
  rintro merging middle ⟨hmerged, hmergedIn⟩
  cases merging with
  | none => exact ensures_pure fun h ↦ (nomatch h)
  | some pair =>
    obtain ⟨merged, created⟩ := pair
    apply ensures_bind
    refine ensures_mono ensures_resolveNoticeVersion ?_
    intro resolution resolved hresolved
    cases resolution with
    | none => exact ensures_pure fun h ↦ (nomatch h)
    | some pair =>
      obtain ⟨found, versionCreated⟩ := pair
      refine ensures_mono ensures_storeFoundVersion ?_
      intro _ after hstored _
      exact ⟨merged, created, found, versionCreated, ⟨middle, resolved, hmerged, hresolved, hstored⟩,
        hmergedIn merged created rfl⟩

end TenderPhase1.Crawler
