import TenderPhase1.Crawler.NoticeIdentity
import TenderPhase1.Foundation.StrippedTexts

/-!
# What every notice has

A fact about a single notice holds of all of them in every run if a new notice has it,
a merge keeps it, and it does not depend on the dates and the current version. The
texts by which notices are compared are an instance: the writers store them stripped.
-/

namespace TenderPhase1.Crawler

open PyText Raising Transition

/-- What a new notice has and a merge keeps, whatever the item, and what has nothing to do with the dates and
the current version. -/
structure NoticeFact (python : Python) (fact : TenderNotice → Prop) : Prop where
  created : ∀ (item : Item) (id sourceSiteId : ℕ) (title : String), item.title.asStr = some title →
    fact (item.newNotice python id sourceSiteId title)
  merged : ∀ (notice : TenderNotice) (item : Item), fact notice → fact (notice.applyTexts python item)
  otherColumns : ∀ (notice : TenderNotice) (publishedAt firstPublishedAt latestPublishedAt : Option DateTime)
    (deadlineAt : Option DateTime) (budgetAmount : Option String) (currentVersionId : Option ℕ), fact notice →
    fact { notice with publishedAt, firstPublishedAt, latestPublishedAt, deadlineAt, budgetAmount, currentVersionId }

section Steps

variable {python : Python} {conn : Connection} {item : Item} {sourceSiteId : ℕ} {state after : CallState}
  {notice merged : TenderNotice} {created : Bool} {fact : TenderNotice → Prop} {rows : List TenderNotice}

theorem NoticeFact.applyFields (h : NoticeFact python fact) (hnotice : fact notice)
    (hmerged : notice.applyFields python item = .ok merged) : fact merged := by
  obtain ⟨published, first, latest, rfl⟩ := applyFields_eq_ok hmerged
  exact h.otherColumns (notice.applyTexts python item) published first latest _ _ _ (h.merged notice item hnotice)

theorem NoticeFact.widenPublished (h : NoticeFact python fact) {published : Option DateTime} {widened : TenderNotice}
    (hnotice : fact notice) (hwidened : notice.widenPublished published = .ok widened) : fact widened := by
  obtain ⟨first, latest, rfl⟩ := widenPublished_eq_ok hwidened
  exact h.otherColumns notice _ first latest _ _ _ hnotice

theorem forall_mem_putRow {put : TenderNotice} (hput : fact put) (hrows : ∀ notice ∈ rows, fact notice) :
    ∀ notice ∈ putRow TenderNotice.id put rows, fact notice := by
  intro notice hnotice
  rcases eq_or_mem_of_mem_putRow hnotice with rfl | hold
  · exact hput
  · exact hrows notice hold

theorem NoticeFact.resolved (h : NoticeFact python fact) (hstate : ∀ notice ∈ state.work.notices, fact notice)
    (hresolved : Resolved python conn item sourceSiteId state (some (notice, created)) after) :
    ∀ notice ∈ after.work.notices, fact notice := by
  cases hresolved with
  | found _ _ _ _ => exact hstate
  | created htitle _ _ =>
    intro notice hnotice
    rcases List.mem_append.mp hnotice with hold | hnew
    · exact hstate notice hold
    · rw [List.mem_singleton.mp hnew]
      exact h.created item _ sourceSiteId _ htitle

/-- The notice that an item is merged into has the fact, as has every other one. -/
theorem NoticeFact.mergedInto (h : NoticeFact python fact) (hstate : ∀ notice ∈ state.work.notices, fact notice)
    (hmerged : Merged python conn item sourceSiteId state (some (merged, created)) after) :
    fact merged ∧ ∀ notice ∈ after.work.notices, fact notice := by
  cases hmerged with
  | @merged found _ _ resolved hresolved happlied =>
    have hnotices := h.resolved hstate hresolved
    have hput : fact merged := h.applyFields (hnotices found hresolved.mem.1) happlied
    exact ⟨hput, forall_mem_putRow hput hnotices⟩

theorem NoticeFact.recordsMerged (h : NoticeFact python fact) (hstate : ∀ notice ∈ state.work.notices, fact notice)
    (hrecords : RecordsMerged python conn item sourceSiteId state after) :
    ∀ notice ∈ after.work.notices, fact notice := by
  cases hrecords with
  | kept hkept =>
    have hnotices : after.work.notices = state.work.notices := congrArg Prod.fst hkept
    rw [hnotices]
    exact hstate
  | @merged pair middle _ hmerged hkept =>
    have hnotices : after.work.notices = middle.work.notices := congrArg Prod.fst hkept
    rw [hnotices]
    exact (h.mergedInto hstate hmerged).2

/-- A fact about notices outlives the storing of a version. -/
theorem NoticeFact.versionStored (h : NoticeFact python fact) {found : NoticeVersion} (hnotice : fact notice)
    (hstate : ∀ notice ∈ state.work.notices, fact notice)
    (hstored : VersionStored python conn item notice found state after) :
    ∀ notice ∈ after.work.notices, fact notice := by
  cases hstored with
  | @stored version put rawDocumentId widened jobs _ hput _ hwidened =>
    have hnamed (current : Option ℕ) : fact { notice with currentVersionId := current } :=
      h.otherColumns notice _ _ _ _ _ current hnotice
    have hpromoted : ∀ row ∈ (version.promotedIn notice put).notices, fact row := by
      have hnotices : put.notices = state.work.notices := by rw [hput]
      unfold NoticeVersion.promotedIn NoticeVersion.promote
      split
      · dsimp only
        rw [hnotices]
        exact forall_mem_putRow (hnamed _) hstate
      · rw [hnotices]
        exact hstate
    refine forall_mem_putRow (h.widenPublished ?_ hwidened) hpromoted
    split
    · exact hnamed _
    · exact hnotice

/-- What a call stores has the fact where it held before. -/
theorem NoticeFact.store (h : NoticeFact python fact) (call : WriterCall)
    (hstate : ∀ notice ∈ state.work.notices, fact notice) :
    Ensures (fun reached last ↦ reached = true → ∀ notice ∈ last.work.notices, fact notice)
      (call.store python conn item sourceSiteId) state := by
  by_cases hversion : ∃ original, call = .noticeVersion original
  · obtain ⟨original, rfl⟩ := hversion
    refine ensures_mono ensures_versionWritten ?_
    intro reached last hwritten hreached
    obtain ⟨merged, created, found, versionCreated, ⟨middle, resolved, hmerged, hresolved, hstored⟩, -⟩ :=
      hwritten hreached
    obtain ⟨hput, hnotices⟩ := h.mergedInto hstate hmerged
    rw [← hresolved.mem.2.2] at hnotices
    exact h.versionStored hput hnotices hstored
  · refine ensures_mono (ensures_recordsMerged fun original hcall ↦ hversion ⟨original, hcall⟩) ?_
    exact fun reached last hrecords _ ↦ h.recordsMerged hstate hrecords

theorem NoticeFact.stored (h : NoticeFact python fact) {committed db : Db} (hdb : ∀ notice ∈ db.notices, fact notice) :
    ∀ notice ∈ (Db.stored conn committed db).notices, fact notice := by
  intro notice hnotice
  obtain ⟨row, hrow, rfl⟩ := List.mem_map.mp hnotice
  split
  · exact hdb row hrow
  · exact h.otherColumns row _ _ _ _ _ _ (hdb row hrow)

/-- A fact about every notice holds after a call if it held before. -/
theorem NoticeFact.step (h : NoticeFact python fact) {context : Context} (event : Connection × WriterCall)
    (hcontext : ∀ notice ∈ context.db.notices, fact notice) :
    ∀ notice ∈ (context.step python event).db.notices, fact notice := by
  obtain ⟨conn, call⟩ := event
  rcases step_cases python context conn call with hkept | ⟨item, found, last, hcommitted⟩
  · rw [hkept]
    exact hcontext
  · have hfound : ∀ notice ∈ found.work.notices, fact notice := by
      rw [hcommitted.sourceFound.notices_eq]
      exact hcontext
    have hlast : Ensures (fun reached last ↦ reached = true → ∀ notice ∈ last.work.notices, fact notice)
        (call.store python conn item (context.sourceIdOf conn item)) found := h.store call hfound
    unfold Ensures Ends at hlast
    rw [hcommitted.run] at hlast
    rw [hcommitted.step]
    exact h.stored (hlast true rfl rfl)

end Steps

/-! ## Stripped texts -/

/-- The texts by which notices are compared have no white space at their ends. -/
structure TenderNotice.TextsStripped (notice : TenderNotice) : Prop where
  dedupKey : ∀ text ∈ notice.dedupKey, Stripped text
  sourceDuplicateKey : ∀ text ∈ notice.sourceDuplicateKey, Stripped text
  dedupHash : ∀ text ∈ notice.dedupHash, Stripped text
  externalId : ∀ text ∈ notice.externalId, Stripped text
  projectCode : ∀ text ∈ notice.projectCode, Stripped text
  title : Stripped notice.title

theorem stripped_of_value {value : Value} {text : String} (h : value.asStr = some text) : Stripped text :=
  (stripped_of_asStr h).1

/-- A text of the item, or else the one that was there. -/
theorem stripped_orElse {first second : Option String} (hfirst : ∀ text ∈ first, Stripped text)
    (hsecond : ∀ text ∈ second, Stripped text) : ∀ text ∈ (first <|> second), Stripped text := by
  intro text htext
  cases first with
  | none => exact hsecond text htext
  | some given => exact hfirst text htext

/-- The texts of every notice are stripped. -/
theorem noticeFact_textsStripped (python : Python) : NoticeFact python TenderNotice.TextsStripped where
  created item id sourceSiteId title htitle :=
    { dedupKey := fun _ ↦ stripped_of_value
      sourceDuplicateKey := fun _ ↦ stripped_of_value
      dedupHash := fun _ ↦ stripped_of_value
      externalId := fun _ ↦ stripped_of_value
      projectCode := fun _ ↦ stripped_of_value
      title := stripped_of_value htitle }
  merged notice item hnotice := by
    refine ⟨?_, ?_, ?_, ?_, ?_, ?_⟩
    · refine stripped_orElse (fun _ ↦ stripped_of_value) (stripped_orElse (fun _ ↦ stripped_of_value) ?_)
      exact hnotice.dedupKey
    · exact stripped_orElse (fun _ ↦ stripped_of_value) hnotice.sourceDuplicateKey
    · exact stripped_orElse (fun _ ↦ stripped_of_value) hnotice.dedupHash
    · exact stripped_orElse (fun _ ↦ stripped_of_value) hnotice.externalId
    · exact stripped_orElse (fun _ ↦ stripped_of_value) hnotice.projectCode
    · change Stripped (item.title.asStr.getD notice.title)
      cases htitle : item.title.asStr with
      | none => exact hnotice.title
      | some title => exact stripped_of_value htitle
  otherColumns notice _ _ _ _ _ _ h := ⟨h.1, h.2, h.3, h.4, h.5, h.6⟩

end TenderPhase1.Crawler
