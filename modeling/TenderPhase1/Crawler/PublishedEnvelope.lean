import TenderPhase1.Crawler.AttachmentOwners
import TenderPhase1.Crawler.Instances
import TenderPhase1.Crawler.NoticeCreated
import TenderPhase1.Foundation.OptionalBounds

/-!
# The published dates of a notice

Notices, versions and attachments give their notice a date. The first and the latest
published date of a notice are the least and the greatest of the instants it was given,
and its published date is one of them.
-/

namespace TenderPhase1.Crawler

open Jobs Raising Transition OptionalBounds

/-- The instant of the date that an item gives its notice, if it has one. -/
def Item.publishedInstants (python : Python) (item : Item) : Set ℤ :=
  {instant | ∃ published, item.publishedAt.asDatetime python = some published ∧ published.instant = instant}

/-- The instants that a call gives a notice: that of its item, where it comes to its commit and merges the
item into the notice. -/
def Context.appliedInstants (context : Context) (python : Python) (event : Connection × WriterCall) (noticeId : ℕ) :
    Set ℤ :=
  {instant | ∃ item, event.2.normalized python = .ok item ∧ Committed python context event ∧
    event.2.Merges item (context.sourceIdOf event.1 item) context.db ∧
    item.resolvedNoticeId python event.1 (context.sourceIdOf event.1 item) context.db.notices = some noticeId ∧
    instant ∈ item.publishedInstants python}

/-- The instants that the calls of a run have given a notice. -/
def Context.instantsApplied (python : Python) : Context → List (Connection × WriterCall) → ℕ → Set ℤ
  | _, [], _ => ∅
  | context, event :: events, noticeId =>
      context.appliedInstants python event noticeId ∪ (context.step python event).instantsApplied python events noticeId

/-- The dates of a notice that was given the instants. -/
structure Envelope (instants : Set ℤ) (notice : TenderNotice) : Prop where
  first : LeastOf instants (notice.firstPublishedAt.map DateTime.instant)
  latest : GreatestOf instants (notice.latestPublishedAt.map DateTime.instant)
  published : ∀ moment, notice.publishedAt = some moment → moment.instant ∈ instants

/-- The published date lies between the first and the latest one. -/
def TenderNotice.DatesOrdered (notice : TenderNotice) : Prop :=
  ∀ moment, notice.publishedAt = some moment →
    ∃ first latest, notice.firstPublishedAt = some first ∧ notice.latestPublishedAt = some latest ∧
      first.instant ≤ moment.instant ∧ moment.instant ≤ latest.instant

/-- The instants that the notices were given, by the ids of the notices. -/
structure Dated (given : ℕ → Set ℤ) (notices : List TenderNotice) : Prop where
  envelope : ∀ notice ∈ notices, Envelope (given notice.id) notice
  unknown : ∀ id, (∀ notice ∈ notices, notice.id ≠ id) → given id = ∅

section Dates

variable {python : Python} {item : Item} {notice merged widened : TenderNotice} {instants : Set ℤ}
  {moment published : DateTime}

/-! ## One notice -/

/-- Coercing to UTC keeps the instant. -/
theorem coerceUtcDatetime_instant {value coerced : Option DateTime} (h : coerceUtcDatetime value = .ok coerced) :
    coerced.map DateTime.instant = value.map DateTime.instant := by
  cases value with
  | none =>
    obtain rfl := Except.ok.inj h
    rfl
  | some moment =>
    unfold coerceUtcDatetime at h
    cases hoffset : moment.offset with
    | none =>
      simp only [hoffset] at h
      obtain rfl := Except.ok.inj h
      simp [DateTime.instant, DateTime.replaceUtc, hoffset]
    | some offset =>
      simp only [hoffset, DateTime.astimezone] at h
      split at h
      · obtain rfl := Except.ok.inj h
        simp [DateTime.instant]
      · cases h

/-- Comparing with what a column is coerced to is comparing with the instant of the column. -/
theorem all_instant_of_coerced {value coerced : Option DateTime} (h : coerceUtcDatetime value = .ok coerced)
    (test : ℤ → Bool) : coerced.all (test ·.instant) = (value.map DateTime.instant).all test := by
  rw [← coerceUtcDatetime_instant h]
  cases coerced <;> rfl

theorem map_instant_ite {test : Bool} {value : Option DateTime} :
    (if test then some published else value).map DateTime.instant =
      if test then some published.instant else value.map DateTime.instant := by
  cases test <;> rfl

theorem Envelope.applyPublished (h : Envelope instants notice) (hmerged : notice.applyPublished published = .ok merged) :
    Envelope (insert published.instant instants) merged := by
  obtain ⟨first, hfirst, hmerged⟩ := bind_eq_ok.mp hmerged
  obtain ⟨latest, hlatest, hmerged⟩ := bind_eq_ok.mp hmerged
  obtain rfl := Except.ok.inj hmerged
  refine ⟨?_, ?_, ?_⟩
  · dsimp only
    rw [map_instant_ite, all_instant_of_coerced hfirst (published.instant < ·)]
    exact leastOf_insert h.first
  · dsimp only
    rw [map_instant_ite, all_instant_of_coerced hlatest (· < published.instant)]
    exact greatestOf_insert h.latest
  · rintro moment ⟨⟩
    exact Set.mem_insert _ _

/-- A date that the notice was given already does not widen its dates. -/
theorem Envelope.widenPublished {value : Option DateTime} (h : Envelope instants notice)
    (hvalue : ∀ moment, value = some moment → moment.instant ∈ instants)
    (hwidened : notice.widenPublished value = .ok widened) : Envelope instants widened := by
  obtain ⟨coerced, hcoerced, hwidened⟩ := bind_eq_ok.mp hwidened
  cases coerced with
  | none =>
    obtain rfl := Except.ok.inj hwidened
    exact h
  | some moment =>
    have hmem : moment.instant ∈ instants := by
      have hinstant := coerceUtcDatetime_instant hcoerced
      obtain ⟨source, hsource, hsame⟩ := Option.map_eq_some_iff.mp hinstant.symm
      rw [← hsame]
      exact hvalue source hsource
    obtain ⟨first, hfirst, hwidened⟩ := bind_eq_ok.mp hwidened
    obtain ⟨latest, hlatest, hwidened⟩ := bind_eq_ok.mp hwidened
    obtain rfl := Except.ok.inj hwidened
    have hinsert : insert moment.instant instants = instants := Set.insert_eq_of_mem hmem
    refine ⟨?_, ?_, h.published⟩
    · dsimp only
      rw [map_instant_ite, all_instant_of_coerced hfirst (moment.instant < ·), ← hinsert]
      exact leastOf_insert h.first
    · dsimp only
      rw [map_instant_ite, all_instant_of_coerced hlatest (· < moment.instant), ← hinsert]
      exact greatestOf_insert h.latest

/-- Merging an item widens the envelope by the instants of the item. -/
theorem Envelope.applyFields (h : Envelope instants notice) (hmerged : notice.applyFields python item = .ok merged) :
    Envelope (instants ∪ item.publishedInstants python) merged := by
  have htexts : Envelope instants (notice.applyTexts python item) := ⟨h.first, h.latest, h.published⟩
  unfold TenderNotice.applyFields at hmerged
  unfold Item.publishedInstants
  split at hmerged
  · rename_i published hpublished
    have hset : instants ∪ {instant | ∃ moment, item.publishedAt.asDatetime python = some moment ∧
        moment.instant = instant} = insert published.instant instants := by
      ext instant
      simp [hpublished, or_comm, eq_comm]
    rw [hset]
    exact htexts.applyPublished hmerged
  · rename_i hnone
    obtain rfl := Except.ok.inj hmerged
    simpa [hnone] using htexts

/-- A notice is made with the date of its item. -/
theorem envelope_newNotice {id sourceSiteId : ℕ} {title : String} :
    Envelope (item.publishedInstants python) (item.newNotice python id sourceSiteId title) := by
  unfold Item.publishedInstants
  cases hpublished : item.publishedAt.asDatetime python with
  | none =>
    refine ⟨?_, ?_, ?_⟩ <;> simp [Item.newNotice, hpublished, LeastOf, GreatestOf]
  | some published =>
    have hset : {instant | ∃ moment, some published = some moment ∧ moment.instant = instant} = {published.instant} := by
      ext instant
      simp [eq_comm]
    rw [hset]
    have hleast : LeastOf {published.instant} (some published.instant) := isLeast_singleton
    have hgreatest : GreatestOf {published.instant} (some published.instant) := isGreatest_singleton
    refine ⟨?_, ?_, ?_⟩
    · simpa [Item.newNotice, hpublished] using hleast
    · simpa [Item.newNotice, hpublished] using hgreatest
    · simp [Item.newNotice, hpublished]

theorem Envelope.stored {conn : Connection} (h : Envelope instants notice)
    (hstored : ∀ moment, (conn.storedDatetime moment).instant = moment.instant) :
    Envelope instants (notice.stored conn) := by
  have hmap (value : Option DateTime) :
      (value.map conn.storedDatetime).map DateTime.instant = value.map DateTime.instant := by
    cases value with
    | none => rfl
    | some moment => exact congrArg some (hstored moment)
  refine ⟨?_, ?_, ?_⟩
  · exact (hmap notice.firstPublishedAt).symm ▸ h.first
  · exact (hmap notice.latestPublishedAt).symm ▸ h.latest
  · intro moment hmoment
    obtain ⟨source, hsource, rfl⟩ := Option.map_eq_some_iff.mp hmoment
    rw [hstored]
    exact h.published source hsource

theorem Envelope.datesOrdered (h : Envelope instants notice) : notice.DatesOrdered := by
  intro moment hmoment
  have hmem := h.published moment hmoment
  obtain ⟨least, hleast, hle⟩ := h.first.le hmem
  obtain ⟨greatest, hgreatest, hge⟩ := h.latest.le hmem
  obtain ⟨first, hfirst, rfl⟩ := Option.map_eq_some_iff.mp hleast
  obtain ⟨latest, hlatest, rfl⟩ := Option.map_eq_some_iff.mp hgreatest
  exact ⟨first, latest, hfirst, hlatest, hle, hge⟩

end Dates

section Merge

variable {python : Python} {conn : Connection} {item : Item} {sourceSiteId : ℕ} {state after last : CallState}
  {merged : TenderNotice} {created : Bool} {given : ℕ → Set ℤ} {notices : List TenderNotice}

/-! ## One call -/

/-- What the notices were given once the item is merged into one of them. -/
def givenWith (given : ℕ → Set ℤ) (python : Python) (item : Item) (noticeId : ℕ) : ℕ → Set ℤ :=
  fun id ↦ given id ∪ {instant | id = noticeId ∧ instant ∈ item.publishedInstants python}

theorem givenWith_self (noticeId : ℕ) :
    givenWith given python item noticeId noticeId = given noticeId ∪ item.publishedInstants python := by
  simp [givenWith]

theorem givenWith_of_ne {noticeId id : ℕ} (hne : id ≠ noticeId) : givenWith given python item noticeId id = given id := by
  simp [givenWith, hne]

theorem mem_putRow_cases {rows : List TenderNotice} {row other : TenderNotice}
    (h : other ∈ putRow TenderNotice.id row rows) : other = row ∨ other ∈ rows ∧ other.id ≠ row.id := by
  obtain ⟨old, hold, rfl⟩ := List.mem_map.mp h
  split
  · exact Or.inl rfl
  · rename_i hne
    exact Or.inr ⟨hold, hne⟩

/-- A row that is written among rows that have their dates, and that has its own. -/
theorem Dated.write {rows : List TenderNotice} {row : TenderNotice} (h : Dated given notices)
    (hrow : Envelope (given row.id ∪ item.publishedInstants python) row) (hmem : row ∈ rows)
    (hrows : ∀ other ∈ rows, other = row ∨ other ∈ notices ∧ other.id ≠ row.id)
    (hkept : ∀ other ∈ notices, other.id ∈ rows.map TenderNotice.id) :
    Dated (givenWith given python item row.id) rows where
  envelope other hother := by
    rcases hrows other hother with rfl | ⟨hold, hne⟩
    · rw [givenWith_self]
      exact hrow
    · rw [givenWith_of_ne hne]
      exact h.envelope other hold
  unknown id hid := by
    have hne : id ≠ row.id := fun hsame ↦ hid row hmem hsame.symm
    rw [givenWith_of_ne hne]
    apply h.unknown
    intro other hother hsame
    obtain ⟨kept, hkept, hkeptId⟩ := List.mem_map.mp (hkept other hother)
    exact hid kept hkept (hkeptId.trans hsame)

/-- The item gives its date to the notice that it is merged into. -/
theorem Merged.dated (h : Merged python conn item sourceSiteId state (some (merged, created)) after)
    (hdated : Dated given state.work.notices) :
    Dated (givenWith given python item merged.id) after.work.notices := by
  cases h with
  | merged hresolved happlied =>
    have hid := (applyFields_pointer happlied).1
    cases hresolved with
    | found hmem _ _ _ =>
      refine hdated.write ?_ (mem_putRow hmem hid) (fun other hother ↦ mem_putRow_cases hother) ?_
      · rw [hid]
        exact (hdated.envelope _ hmem).applyFields happlied
      · intro other hother
        rw [map_id_putRow]
        exact List.mem_map_of_mem hother
    | created htitle _ _ =>
      refine hdated.write ?_ (mem_putRow (List.mem_append_right _ List.mem_cons_self) hid) ?_ ?_
      · have hfresh : given merged.id = ∅ := by
          apply hdated.unknown
          intro other hother hsame
          exact conn.nextId_ne hother (hsame.trans hid)
        have henvelope : Envelope (item.publishedInstants python ∪ item.publishedInstants python) merged :=
          envelope_newNotice.applyFields happlied
        rw [Set.union_self] at henvelope
        rw [hfresh, Set.empty_union]
        exact henvelope
      · intro other hother
        rcases mem_putRow_cases hother with hnew | ⟨hmem, hne⟩
        · exact Or.inl hnew
        · rcases List.mem_append.mp hmem with hold | hlast
          · exact Or.inr ⟨hold, hne⟩
          · rw [List.mem_singleton.mp hlast] at hne
            exact absurd hid.symm hne
      · intro other hother
        rw [map_id_putRow]
        exact List.mem_map_of_mem (List.mem_append_left _ hother)

/-- The version of a notice has the date that its item gave the notice. -/
theorem VersionStored.dated {found : NoticeVersion}
    (h : VersionStored python conn item merged found state after) (hmem : merged ∈ state.work.notices)
    (hgiven : item.publishedInstants python ⊆ given merged.id) (hdated : Dated given state.work.notices) :
    Dated given after.work.notices := by
  cases h with
  | @stored version put _ widened _ hversion hput _ hwidened =>
    have hpublished (moment : DateTime) (hmoment : version.publishedAt = some moment) :
        moment.instant ∈ given merged.id := by
      rw [hversion] at hmoment
      exact hgiven ⟨moment, hmoment, rfl⟩
    have hwidenedId : widened.id = merged.id := by
      rw [(widenPublished_keys hwidened).1]
      split <;> rfl
    have henvelope : Envelope (given merged.id) widened := by
      refine Envelope.widenPublished ?_ hpublished hwidened
      have hmerged := hdated.envelope merged hmem
      split
      · exact ⟨hmerged.first, hmerged.latest, hmerged.published⟩
      · exact hmerged
    have hputNotices : put.notices = state.work.notices := by rw [hput]
    have hids : (version.promotedIn merged put).notices.map TenderNotice.id = state.work.notices.map TenderNotice.id := by
      unfold NoticeVersion.promotedIn NoticeVersion.promote
      split
      · rw [map_id_putRow, hputNotices]
      · rw [hputNotices]
    have hrows (other : TenderNotice) (hother : other ∈ (version.promotedIn merged put).notices) :
        other.id = merged.id ∨ other ∈ state.work.notices := by
      unfold NoticeVersion.promotedIn NoticeVersion.promote at hother
      split at hother
      · rcases mem_putRow_cases hother with rfl | ⟨hold, -⟩
        · exact Or.inl rfl
        · exact Or.inr (hputNotices ▸ hold)
      · exact Or.inr (hputNotices ▸ hother)
    refine ⟨?_, ?_⟩
    · intro other hother
      rcases mem_putRow_cases hother with rfl | ⟨hold, hne⟩
      · rw [hwidenedId]
        exact henvelope
      · exact hdated.envelope other ((hrows other hold).resolve_left (hwidenedId ▸ hne))
    · intro id hid
      apply hdated.unknown
      intro other hother hsame
      have hkept : id ∈ (putRow TenderNotice.id widened (version.promotedIn merged put).notices).map TenderNotice.id := by
        rw [map_id_putRow, hids, ← hsame]
        exact List.mem_map_of_mem hother
      obtain ⟨kept, hkept, hkeptId⟩ := List.mem_map.mp hkept
      exact hid kept hkept hkeptId

end Merge

section Step

variable {python : Python} {conn : Connection} {context : Context} {call : WriterCall} {item : Item}
  {event : Connection × WriterCall} {found last : CallState} {given : ℕ → Set ℤ} {noticeId : ℕ}

/-- The commit changes no instant. -/
theorem Dated.stored {notices : List TenderNotice} (h : Dated given notices)
    (hstored : ∀ moment, (conn.storedDatetime moment).instant = moment.instant) (committed : List TenderNotice) :
    Dated given (storedRows (TenderNotice.stored conn) committed notices) := by
  refine ⟨?_, ?_⟩
  · intro notice hnotice
    obtain ⟨row, hrow, rfl⟩ := List.mem_map.mp hnotice
    split
    · exact h.envelope row hrow
    · exact (h.envelope row hrow).stored hstored
  · intro id hid
    apply h.unknown
    intro row hrow hsame
    have hids : (storedRows (TenderNotice.stored conn) committed notices).map TenderNotice.id =
        notices.map TenderNotice.id := by
      apply map_storedRows
      exact fun _ ↦ rfl
    have hmem : id ∈ (storedRows (TenderNotice.stored conn) committed notices).map TenderNotice.id := by
      rw [hids, ← hsame]
      exact List.mem_map_of_mem hrow
    obtain ⟨kept, hkept, hkeptId⟩ := List.mem_map.mp hmem
    exact hid kept hkept hkeptId

theorem appliedInstants_eq_empty (h : ∀ item, event.2.normalized python = .ok item → Committed python context event →
    ¬ event.2.Merges item (context.sourceIdOf event.1 item) context.db) :
    context.appliedInstants python event = fun _ ↦ ∅ := by
  funext id
  rw [Set.eq_empty_iff_forall_notMem]
  rintro instant ⟨item, hitem, hcommitted, hmerges, -⟩
  exact h item hitem hcommitted hmerges

/-- A call that merges its item into a notice gives its date to that notice. -/
theorem givenWith_eq (hcommitted : Committed python context (conn, call)) (hitem : call.normalized python = .ok item)
    (hmerges : call.Merges item (context.sourceIdOf conn item) context.db)
    (hresolved : item.resolvedNoticeId python conn (context.sourceIdOf conn item) context.db.notices = some noticeId) :
    (fun id ↦ given id ∪ context.appliedInstants python (conn, call) id) = givenWith given python item noticeId := by
  funext id
  unfold givenWith
  congr 1
  ext instant
  constructor
  · rintro ⟨other, hother, -, -, hotherResolved, hinstant⟩
    obtain rfl := Except.ok.inj (hitem.symm.trans hother)
    exact ⟨Option.some.inj (hotherResolved.symm.trans hresolved), hinstant⟩
  · rintro ⟨rfl, hinstant⟩
    exact ⟨item, hitem, hcommitted, hmerges, hresolved, hinstant⟩

/-- What a committed call leaves before its commit. -/
theorem CommittedCall.dated
    (h : CommittedCall python context conn call item (context.sourceIdOf conn item) found last)
    (hdated : Dated given context.db.notices) :
    Dated (fun id ↦ given id ∪ context.appliedInstants python (conn, call) id) last.work.notices := by
  have hnotices : found.work.notices = context.db.notices := h.sourceFound.notices_eq
  have hcommitted : Committed python context (conn, call) := ⟨item, found, last, h⟩
  have hkept (hsame : last.work.notices = context.db.notices)
      (hnot : ¬ call.Merges item (context.sourceIdOf conn item) context.db) :
      Dated (fun id ↦ given id ∪ context.appliedInstants python (conn, call) id) last.work.notices := by
    have hempty : context.appliedInstants python (conn, call) = fun _ ↦ ∅ := by
      apply appliedInstants_eq_empty
      intro other hother _
      obtain rfl := Except.ok.inj (h.normalized.symm.trans hother)
      exact hnot
    rw [hempty, hsame]
    simpa using hdated
  have hrecords (hkeeps : Keeps (fun state ↦ state.records = found.records)
      (call.store python conn item (context.sourceIdOf conn item))) : last.work.notices = context.db.notices := by
    have hlast := hkeeps found rfl
    unfold Ends at hlast
    rw [h.run] at hlast
    exact (Prod.mk.inj hlast).1.trans hnotices
  have hmerging {middle : CallState} {merged : TenderNotice} {created : Bool}
      (hmerges : call.Merges item (context.sourceIdOf conn item) context.db)
      (hmerged : Merged python conn item (context.sourceIdOf conn item) found (some (merged, created)) middle)
      (hresolved : item.resolvedNoticeId python conn (context.sourceIdOf conn item) found.work.notices = some merged.id) :
      (fun id ↦ given id ∪ context.appliedInstants python (conn, call) id) = givenWith given python item merged.id ∧
        Dated (givenWith given python item merged.id) middle.work.notices := by
    rw [hnotices] at hresolved
    exact ⟨givenWith_eq hcommitted h.normalized hmerges hresolved, hmerged.dated (hnotices ▸ hdated)⟩
  cases call with
  | rawDocument _ => exact hkept (hrecords keeps_records_storeRawDocument) id
  | error _ => exact hkept (hrecords keeps_records_storeError) id
  | notice _ =>
    have hseenIn : item.suppressedIn (context.sourceIdOf conn item) found.work =
        item.suppressedIn (context.sourceIdOf conn item) context.db := suppressedIn_of_records h.sourceFound.records_eq
    cases h.noticeStored with
    | suppressed hseen hsame =>
      rw [hseenIn] at hseen
      refine hkept ((Prod.mk.inj hsame).1.trans hnotices) fun hmerges ↦ ?_
      cases hseen.symm.trans hmerges
    | merged hseen hmerged hmergedIn hsame =>
      rw [hseenIn] at hseen
      obtain ⟨hgiven, hmiddle⟩ := hmerging hseen hmerged (hmerged.resolvedNoticeId hmergedIn)
      rw [hgiven, (Prod.mk.inj hsame).1]
      exact hmiddle
  | noticeVersion _ =>
    obtain ⟨merged, created, version, versionCreated, ⟨⟨middle, resolved, hmerged, hresolved, hstored⟩, hmergedIn⟩⟩ :=
      ensures_versionWritten.of_run h.run rfl
    obtain ⟨hgiven, hmiddle⟩ := hmerging trivial hmerged (hmerged.resolvedNoticeId hmergedIn)
    rw [← hresolved.mem.2.2] at hmiddle
    have hmem : merged ∈ resolved.work.notices := by
      rw [hresolved.mem.2.2]
      exact hmerged.marks_eq.2.2
    rw [hgiven]
    refine hstored.dated hmem ?_ hmiddle
    rw [givenWith_self]
    exact Set.subset_union_right
  | attachment _ =>
    obtain ⟨merged, created, hstored⟩ := ensures_attachmentStored.of_run h.run rfl
    obtain ⟨middle, hmerged, hsame⟩ := hstored.merging
    obtain ⟨hgiven, hmiddle⟩ := hmerging trivial hmerged hstored.resolvedNoticeId
    rw [hgiven, (Prod.mk.inj hsame).1]
    exact hmiddle

/-- One call keeps the dates of every notice those of the instants that it was given. -/
theorem dated_step (hstored : ∀ moment, (event.1.storedDatetime moment).instant = moment.instant)
    (h : Dated given context.db.notices) :
    Dated (fun id ↦ given id ∪ context.appliedInstants python event id) (context.step python event).db.notices := by
  by_cases hcommitted : Committed python context event
  · obtain ⟨item, found, last, hcall⟩ := hcommitted
    rw [hcall.step]
    exact (hcall.dated h).stored hstored context.db.notices
  · have hempty : context.appliedInstants python event = fun _ ↦ ∅ :=
      appliedInstants_eq_empty fun _ _ h ↦ absurd h hcommitted
    rcases step_cases python context event.1 event.2 with hkept | hcommits
    · rw [hempty, hkept]
      simpa using h
    · exact absurd hcommits hcommitted

/-- A run keeps them, over the instants that its calls have given. -/
theorem dated_run {events : List (Connection × WriterCall)}
    (hstored : ∀ event ∈ events, ∀ moment, (event.1.storedDatetime moment).instant = moment.instant)
    (h : Dated given context.db.notices) :
    Dated (fun id ↦ given id ∪ context.instantsApplied python events id)
      (events.foldl (Context.step python) context).db.notices := by
  induction events generalizing context given with
  | nil => simpa [Context.instantsApplied] using h
  | cons event events ih =>
    obtain ⟨hevent, hevents⟩ := List.forall_mem_cons.mp hstored
    have hfirst : Dated (fun id ↦ given id ∪ context.appliedInstants python event id)
        (context.step python event).db.notices := dated_step hevent h
    have hrest := ih hevents hfirst
    simp only [Set.union_assoc] at hrest
    exact hrest

/-- After every run from a database without notices, the first and the latest published date of each notice
are the least and the greatest of the instants that the calls gave it, they are missing if and only if no call gave it
one, and its published date lies between them. -/
theorem publishedEnvelope (python : Python) (start : Context) (events : List (Connection × WriterCall))
    (hstart : start.db.notices = [])
    (hstored : ∀ event ∈ events, ∀ moment, (event.1.storedDatetime moment).instant = moment.instant) :
    ∀ notice ∈ (events.foldl (Context.step python) start).db.notices,
      LeastOf (start.instantsApplied python events notice.id) (notice.firstPublishedAt.map DateTime.instant) ∧
        GreatestOf (start.instantsApplied python events notice.id) (notice.latestPublishedAt.map DateTime.instant) ∧
        (notice.firstPublishedAt = none ↔ start.instantsApplied python events notice.id = ∅) ∧
        (notice.latestPublishedAt = none ↔ start.instantsApplied python events notice.id = ∅) ∧ notice.DatesOrdered := by
  intro notice hnotice
  have hdated : Dated (fun _ ↦ ∅) start.db.notices := by
    rw [hstart]
    exact ⟨fun _ h ↦ absurd h List.not_mem_nil, fun _ _ ↦ rfl⟩
  have henvelope := (dated_run hstored hdated).envelope notice hnotice
  simp only [Set.empty_union] at henvelope
  have hfirst := leastOf_eq_none_iff henvelope.first
  have hlatest := greatestOf_eq_none_iff henvelope.latest
  rw [Option.map_eq_none_iff] at hfirst hlatest
  exact ⟨henvelope.first, henvelope.latest, hfirst, hlatest, henvelope.datesOrdered⟩

end Step

/-- The connection to PostgreSQL, which reads a datetime back in UTC. -/
def postgresql (now : DateTime) : Connection :=
  { sqlite now with storedDatetime := fun moment ↦ ⟨moment.instant, some 0⟩, foreignKeys := true }

/-- Two items of one notice, the second with the earlier date. -/
def datedNotices : List (Connection × WriterCall) :=
  [(postgresql epoch, .notice { keyedNotice "1" "k" "h" with publishedAt := some (.str "1970-01-03") }),
    (postgresql epoch, .notice { keyedNotice "1" "k" "h" with publishedAt := some (.str "1970-01-01") })]

theorem publishedEnvelope_datedNotices :
    (datedNotices.foldl (Context.step (plainPython titleDigests)) ⟨[], emptyDb⟩).db.notices.map
        (fun notice ↦ (notice.firstPublishedAt.map DateTime.instant, notice.latestPublishedAt.map DateTime.instant)) =
      [(some 0, some 172800000000)] ∧
      ∀ notice ∈ (datedNotices.foldl (Context.step (plainPython titleDigests)) ⟨[], emptyDb⟩).db.notices,
        LeastOf ((⟨[], emptyDb⟩ : Context).instantsApplied (plainPython titleDigests) datedNotices notice.id)
          (notice.firstPublishedAt.map DateTime.instant) ∧ notice.DatesOrdered := by
  refine ⟨by decide +kernel, fun notice hnotice ↦ ?_⟩
  have henvelope := publishedEnvelope (plainPython titleDigests) ⟨[], emptyDb⟩ datedNotices rfl
    (by rintro event hevent moment; rcases List.mem_pair.mp hevent with rfl | rfl <;> simp [postgresql, DateTime.instant])
    notice hnotice
  exact ⟨henvelope.1, henvelope.2.2.2.2⟩

end TenderPhase1.Crawler
