import TenderPhase1.Crawler.AttachmentMerge
import TenderPhase1.Crawler.NoticeCreated

/-!
# The order of two notices

Two notice items of a source without notices come to one row or to two. The lookup by
keys comes to the same whichever of the two is written first. The scan for a similar
notice need not: how many signals have to agree is counted on the incoming item alone,
which it compares with the columns of the other as they are read back.
-/

namespace TenderPhase1.Crawler

open Jobs Sources Raising

/-- The item makes a notice where there is none: its source has a URL, it has a title, and its date
converts. -/
structure Item.Storable (python : Python) (item : Item) : Prop where
  urlFound : ∃ sourceUrl, item.writtenSourceUrl python = .ok sourceUrl
  title : item.title.asStr.isSome
  converts : item.publishedConverts python

def SameKey (key other : Option String) : Prop := ∃ text, key = some text ∧ other = some text

/-- The two items have one of the four keys in common. -/
def Item.SharesKey (item other : Item) : Prop :=
  SameKey item.resolvedExternalId other.resolvedExternalId ∨
    SameKey item.sourceDuplicateKey.asStr other.sourceDuplicateKey.asStr ∨
    SameKey item.dedupKey.asStr other.dedupKey.asStr ∨ SameKey item.resolvedDedupHash other.resolvedDedupHash

/-- Whether the scan for a similar notice takes the row for the item. -/
def Item.similarTo (python : Python) (item : Item) (row : TenderNotice) : Except PyError Bool := do
  match ← item.dayConverts python with
  | none => return false
  | some (dayStart, dayEnd) =>
      if row.publishedAt.any fun published ↦ dayStart ≤ published.instant && published.instant < dayEnd then
        let budget ← normalizeBudgetBucket python item.budgetAmount
        similarNotice python (normalizeTitle python item.title) (normalizePurchaserOrPublisher python item.issuer)
          (normalizeRegion python item.region) budget row
      else return false

/-- The row that a call creates of the item where it finds no notice. -/
def Context.createdRow (context : Context) (python : Python) (conn : Connection) (item : Item) : TenderNotice :=
  item.createdNotice python conn (conn.nextId (context.db.notices.map TenderNotice.id)) (context.sourceIdOf conn item)
    (item.title.asStr.getD "")

def Db.WithoutNotices (sourceSiteId : ℕ) (db : Db) : Prop := ∀ notice ∈ db.notices, notice.sourceSiteId ≠ sourceSiteId

section Lookup

variable {python : Python} {conn : Connection} {item other : Item} {sourceSiteId : ℕ} {rows : List TenderNotice}
  {row : TenderNotice}

/-! ## A source with one notice, or none -/

theorem filter_source_and (within : TenderNotice → Bool) :
    rows.filter (fun notice ↦ notice.sourceSiteId = sourceSiteId ∧ within notice) =
      (rows.filter (·.sourceSiteId = sourceSiteId)).filter within := by
  rw [List.filter_filter]
  apply List.filter_congr
  intro notice _
  rw [Bool.decide_and, Bool.and_comm, Bool.decide_eq_true]

theorem answer_singleton {Row : Type} (only : Row) : conn.answer [only] = [only] :=
  List.perm_singleton.mp (conn.answer_perm [only])

theorem answer_nil {Row : Type} : conn.answer ([] : List Row) = [] :=
  List.perm_nil.mp (conn.answer_perm [])

/-- The scan over a source without notices raises where the day of the item does not convert. -/
theorem similarIn_none (h : rows.filter (·.sourceSiteId = sourceSiteId) = []) :
    item.similarIn python conn sourceSiteId rows = .ok none ↔ (item.dayConverts python).isOk := by
  unfold Item.similarIn Item.dayConverts
  simp only [filter_source_and, h, List.filter_nil, answer_nil, if_true]
  cases normalizePublishedDate python item.publishedAt with
  | error error => constructor <;> (intro h; cases h)
  | ok normalizedDate =>
    cases normalizeTitle python item.title with
    | none => exact ⟨fun _ ↦ rfl, fun _ ↦ rfl⟩
    | some title =>
      cases hday : normalizedDate.bind nonEmpty with
      | none =>
        simp only [hday, bind, Except.bind]
        exact ⟨fun _ ↦ rfl, fun _ ↦ rfl⟩
      | some date =>
        simp only [hday, bind, Except.bind]
        cases dayBounds python date with
        | error error => constructor <;> (intro h; cases h)
        | ok bounds => exact ⟨fun _ ↦ rfl, fun _ ↦ rfl⟩

/-- The scan over a source with one notice takes it or not. -/
theorem similarIn_singleton (h : rows.filter (·.sourceSiteId = sourceSiteId) = [row]) :
    item.similarIn python conn sourceSiteId rows =
      (fun similar ↦ if similar then some row else none) <$> item.similarTo python row := by
  unfold Item.similarIn Item.similarTo Item.dayConverts
  simp only [filter_source_and, h]
  cases normalizePublishedDate python item.publishedAt with
  | error error => rfl
  | ok normalizedDate =>
    cases normalizeTitle python item.title with
    | none => rfl
    | some title =>
      cases hday : normalizedDate.bind nonEmpty with
      | none =>
        simp only [hday, bind, Except.bind]
        rfl
      | some date =>
        simp only [hday, bind, Except.bind]
        cases dayBounds python date with
        | error error => rfl
        | ok bounds =>
          obtain ⟨dayStart, dayEnd⟩ := bounds
          dsimp only [Functor.map, Except.map]
          cases hwithin : row.publishedAt.any fun published ↦
              decide (dayStart ≤ published.instant) && decide (published.instant < dayEnd) with
          | false =>
            simp only [List.filter_singleton, hwithin, cond_false, answer_nil]
            rfl
          | true =>
            simp only [List.filter_singleton, hwithin, cond_true, answer_singleton, if_true]
            rw [if_neg (List.cons_ne_nil _ _)]
            cases normalizeBudgetBucket python item.budgetAmount with
            | error error => rfl
            | ok budget =>
              dsimp only
              unfold firstSimilar
              cases similarNotice python (some title) (normalizePurchaserOrPublisher python item.issuer)
                (normalizeRegion python item.region) budget row with
              | error error => rfl
              | ok similar => cases similar <;> rfl

/-- A query asks for the source, so it sees the rows of the source alone. -/
theorem filter_noticeQuery {query : TenderNotice → Bool} (hquery : query ∈ item.noticeQueries sourceSiteId) :
    rows.filter query = (rows.filter (·.sourceSiteId = sourceSiteId)).filter query := by
  rw [List.filter_filter]
  apply List.filter_congr
  intro notice _
  cases hmatches : query notice with
  | false => rfl
  | true =>
    rw [Bool.true_and]
    exact (decide_eq_true (sourceSiteId_of_noticeQuery hquery hmatches)).symm

/-- In a source without notices the item finds none, as long as its day converts. -/
theorem noticeIn_none (h : rows.filter (·.sourceSiteId = sourceSiteId) = []) :
    item.noticeIn python conn sourceSiteId rows = .ok none ↔ (item.dayConverts python).isOk := by
  rw [noticeIn_eq_none, similarIn_none h]
  refine and_iff_right (List.findSome?_eq_none_iff.mpr ?_)
  intro query hquery
  unfold Connection.first
  rw [filter_noticeQuery hquery, h, List.filter_nil, answer_nil]
  rfl

/-- In a source with one notice the item finds none if no key leads to it and the scan leaves it out. -/
theorem noticeIn_singleton (h : rows.filter (·.sourceSiteId = sourceSiteId) = [row]) :
    item.noticeIn python conn sourceSiteId rows = .ok none ↔
      ¬ item.leadsTo sourceSiteId row ∧ item.similarTo python row = .ok false := by
  rw [noticeIn_eq_none, similarIn_singleton h]
  refine and_congr ?_ ?_
  · unfold Item.leadsTo
    rw [List.findSome?_eq_none_iff, not_exists]
    refine forall_congr' fun query ↦ ?_
    rw [not_and]
    refine imp_congr_right fun hquery ↦ ?_
    unfold Connection.first
    rw [filter_noticeQuery hquery, h]
    cases hmatches : query row with
    | false => simp [hmatches, answer_nil]
    | true => simp [hmatches, answer_singleton]
  · cases item.similarTo python row with
    | error error => exact ⟨fun h ↦ (nomatch h), fun h ↦ (nomatch h)⟩
    | ok similar => cases similar <;> simp

/-! ## The row of the other item -/

theorem SameKey.symm {key other : Option String} (h : SameKey key other) : SameKey other key := by
  obtain ⟨text, hkey, hother⟩ := h
  exact ⟨text, hother, hkey⟩

theorem sharesKey_comm : item.SharesKey other ↔ other.SharesKey item := by
  have hsymm {item other : Item} (h : item.SharesKey other) : other.SharesKey item :=
    h.imp SameKey.symm (Or.imp SameKey.symm (Or.imp SameKey.symm SameKey.symm))
  exact ⟨hsymm, hsymm⟩

/-- A row holds a key of an item where the other item has it. -/
theorem leadsTo_iff : item.leadsTo sourceSiteId row ↔
    row.Holds TenderNotice.externalId sourceSiteId item.resolvedExternalId ∨
      row.Holds TenderNotice.sourceDuplicateKey sourceSiteId item.sourceDuplicateKey.asStr ∨
      row.Holds TenderNotice.dedupKey sourceSiteId item.dedupKey.asStr ∨
      row.Holds TenderNotice.dedupHash sourceSiteId item.resolvedDedupHash := by
  have hquery (column : TenderNotice → Option String) (key : Option String) :
      (∃ query, some query = key.map (fun text (notice : TenderNotice) ↦
          decide (notice.sourceSiteId = sourceSiteId) && decide (column notice = some text)) ∧ query row) ↔
        row.Holds column sourceSiteId key := by
    unfold TenderNotice.Holds
    cases key with
    | none => simp
    | some text => simp
  simp only [← hquery]
  simp only [Item.leadsTo, Item.noticeQueries, List.mem_filterMap, List.mem_cons, List.not_mem_nil, or_false, id_eq,
    exists_eq_right, or_and_right, exists_or]

/-- A notice item always has a dedup key, its own or a digest. -/
theorem isSome_dedupKey {original : Item} (h : normalizeNoticeItem python original = .ok item) :
    item.dedupKey.asStr.isSome := by
  obtain ⟨identity, -, h⟩ := bind_eq_ok.mp h
  obtain ⟨dedupKey, hdedupKey, h⟩ := bind_eq_ok.mp h
  obtain ⟨sourceDuplicateKey, -, h⟩ := bind_eq_ok.mp h
  rw [← Except.ok.inj h]
  change (Value.ofText (some dedupKey)).asStr.isSome
  unfold Item.resolvedDedupKey at hdedupKey
  cases hgiven : original.dedupKey.asStr with
  | some given =>
    rw [hgiven] at hdedupKey
    rw [← Except.ok.inj hdedupKey, ← hgiven, Value.asStr_ofText_asStr, hgiven]
    rfl
  | none =>
    rw [hgiven] at hdedupKey
    obtain ⟨seed, rfl⟩ := buildPersistenceDedupKey_digest hdedupKey
    rw [Value.asStr_ofText_sha256Text]
    rfl

theorem leadsTo_createdNotice {id : ℕ} {title : String} (hkey : other.dedupKey.asStr.isSome) :
    item.leadsTo sourceSiteId (other.createdNotice python conn id sourceSiteId title) ↔ item.SharesKey other := by
  obtain ⟨dedupKey, hkey⟩ := Option.isSome_iff_exists.mp hkey
  rw [leadsTo_iff]
  simp [TenderNotice.Holds, Item.SharesKey, SameKey, Item.createdNotice, TenderNotice.stored, TenderNotice.applyTexts,
    Item.newNotice, hkey]

/-- Where the scan answers, the day of the item converts. -/
theorem dayConverts_of_similarTo {similar : Bool} (h : item.similarTo python row = .ok similar) :
    (item.dayConverts python).isOk := by
  obtain ⟨bounds, hbounds, -⟩ := bind_eq_ok.mp h
  exact isOk_iff.mpr ⟨bounds, hbounds⟩

end Lookup

section Order

variable {python : Python} {conn : Connection} {context : Context} {original first second item other : Item}
  {sourceSiteId : ℕ}

/-! ## What one call adds -/

theorem filter_withoutNotices {db : Db} (h : db.WithoutNotices sourceSiteId) :
    db.notices.filter (·.sourceSiteId = sourceSiteId) = [] := by
  rw [List.filter_eq_nil_iff]
  intro notice hnotice
  rw [decide_eq_true_eq]
  exact h notice hnotice

/-- An item is not suppressed where no version belongs to a notice of its source. -/
theorem suppressedIn_eq_false {db : Db}
    (h : ∀ version ∈ db.versions, ∀ notice ∈ db.notices, notice.sourceSiteId = sourceSiteId → notice.id ≠ version.noticeId) :
    item.suppressedIn sourceSiteId db = false := by
  unfold Item.suppressedIn
  rw [List.any_eq_false]
  intro version hversion
  have hnone : db.notices.any (fun notice ↦ notice.sourceSiteId = sourceSiteId && notice.id = version.noticeId) = false := by
    rw [List.any_eq_false]
    intro notice hnotice
    simpa using h version hversion notice hnotice
  rw [hnone, Bool.false_and, Bool.false_and]
  exact Bool.false_ne_true

/-- Where the source has no notice, every item that can be stored makes one. -/
theorem createsNotice_iff_storable (hnone : context.db.WithoutNotices (context.sourceIdOf conn item)) :
    context.CreatesNotice python conn item ↔ item.Storable python := by
  have hunknown : item.noticeIn python conn (context.sourceIdOf conn item) context.db.notices = .ok none ↔
      (item.dayConverts python).isOk := noticeIn_none (filter_withoutNotices hnone)
  have hfresh : item.suppressedIn (context.sourceIdOf conn item) context.db = false :=
    suppressedIn_eq_false fun _ _ notice hnotice hsource ↦ absurd hsource (hnone notice hnotice)
  constructor
  · intro h
    exact ⟨h.urlFound, h.title, Bool.and_eq_true_iff.mpr ⟨hunknown.mp h.unknown, h.converts⟩⟩
  · intro h
    obtain ⟨hday, hconverts⟩ := Bool.and_eq_true_iff.mp h.converts
    exact ⟨h.urlFound, h.title, hconverts, hfresh, hunknown.mpr hday⟩

/-- After the source got its one notice, an item that can be stored makes another one if it shares no key
with the first item and the scan leaves its row out. -/
theorem createsNotice_iff_apart {after : Context}
    (hrecords : after.db.records = (context.db.notices ++ [context.createdRow python conn other], context.db.versions))
    (howned : context.db.VersionsOwned) (hnone : context.db.WithoutNotices (context.sourceIdOf conn other))
    (hsource : after.sourceIdOf conn item = context.sourceIdOf conn other) (hkey : other.dedupKey.asStr.isSome) :
    after.CreatesNotice python conn item ↔ item.Storable python ∧ ¬ item.SharesKey other ∧
      item.similarTo python (context.createdRow python conn other) = .ok false := by
  obtain ⟨hnotices, hversions⟩ := Prod.mk.inj hrecords
  have hfilter : after.db.notices.filter (·.sourceSiteId = after.sourceIdOf conn item) =
      [context.createdRow python conn other] := by
    have hself : decide ((context.createdRow python conn other).sourceSiteId = context.sourceIdOf conn other) = true :=
      decide_eq_true rfl
    rw [hnotices, hsource, List.filter_append, filter_withoutNotices hnone, List.filter_singleton, hself]
    rfl
  have hunknown : item.noticeIn python conn (after.sourceIdOf conn item) after.db.notices = .ok none ↔
      ¬ item.SharesKey other ∧ item.similarTo python (context.createdRow python conn other) = .ok false := by
    rw [noticeIn_singleton hfilter, hsource]
    exact and_congr_left' (not_congr (leadsTo_createdNotice hkey))
  have hfresh : item.suppressedIn (after.sourceIdOf conn item) after.db = false := by
    apply suppressedIn_eq_false
    intro version hversion notice hnotice hnoticeSource hof
    rw [hversions] at hversion
    rw [hnotices] at hnotice
    rcases List.mem_append.mp hnotice with hold | hnew
    · exact hnone notice hold (hnoticeSource.trans hsource)
    · obtain ⟨owner, howner, howns⟩ := howned version hversion
      rw [List.mem_singleton.mp hnew] at hof
      have hfreshId : owner.id ≠ conn.nextId (context.db.notices.map TenderNotice.id) := conn.nextId_ne howner
      exact hfreshId (howns.trans hof.symm)
  constructor
  · intro h
    obtain ⟨hapart, hsimilar⟩ := hunknown.mp h.unknown
    exact ⟨⟨h.urlFound, h.title, Bool.and_eq_true_iff.mpr ⟨dayConverts_of_similarTo hsimilar, h.converts⟩⟩, hapart, hsimilar⟩
  · rintro ⟨hstorable, hapart⟩
    exact ⟨hstorable.urlFound, hstorable.title, (Bool.and_eq_true_iff.mp hstorable.converts).2, hfresh,
      hunknown.mpr hapart⟩

/-- The item of the call can be stored. -/
def Item.Makes (python : Python) (original : Item) : Prop :=
  ∃ item, normalizeNoticeItem python original = .ok item ∧ item.Storable python

def Context.afterBoth (context : Context) (python : Python) (conn : Connection) (first second : Item) : Context :=
  (context.step python (conn, .notice first)).step python (conn, .notice second)

theorem records_of_created (hreliable : conn.Reliable) (haccepts : conn.accepts context.db)
    (hitem : normalizeNoticeItem python original = .ok item) (hcreates : context.CreatesNotice python conn item) :
    (context.step python (conn, .notice original)).db.records =
      (context.db.notices ++ [context.createdRow python conn item], context.db.versions) := by
  cases (noticeStep hreliable haccepts : NoticeStep python conn context original) with
  | created hother _ htitle hrecords =>
    obtain rfl := Except.ok.inj (hitem.symm.trans hother)
    rw [hrecords]
    unfold Context.createdRow
    rw [htitle]
    rfl
  | kept hnone _ => exact absurd hcreates (hnone item hitem)

theorem sources_of_not_created (hreliable : conn.Reliable) (haccepts : conn.accepts context.db)
    (h : ∀ item, normalizeNoticeItem python original = .ok item → ¬ context.CreatesNotice python conn item) :
    (context.step python (conn, .notice original)).db.notices.map TenderNotice.sourceSiteId =
      context.db.notices.map TenderNotice.sourceSiteId := by
  cases (noticeStep hreliable haccepts : NoticeStep python conn context original) with
  | created hitem hcreates _ _ => exact absurd hcreates (h _ hitem)
  | kept _ hsources => exact hsources

theorem sourceIdOf_normalized (h : normalizeNoticeItem python original = .ok item) :
    context.sourceIdOf conn item = context.sourceIdOf conn original := by
  apply sourceIdOf_congr
  unfold Item.writtenSourceCode
  rw [normalizeNoticeItem_sourceCode h]

/-- What both calls rely on: the source has no notice yet, and every version belongs to a notice. -/
structure Context.Untouched (context : Context) (conn : Connection) (sourceSiteId : ℕ) : Prop where
  accepted : conn.accepts context.db
  versionsOwned : context.db.VersionsOwned
  withoutNotices : context.db.WithoutNotices sourceSiteId

/-- Where the source has no notice, a call makes one for each item that can be stored. -/
theorem length_step [Decidable (original.Makes python)] (hreliable : conn.Reliable)
    (h : context.Untouched conn (context.sourceIdOf conn original)) :
    (context.step python (conn, .notice original)).db.notices.length =
      context.db.notices.length + if original.Makes python then 1 else 0 := by
  have hnone {item : Item} (hitem : normalizeNoticeItem python original = .ok item) :
      context.db.WithoutNotices (context.sourceIdOf conn item) := by
    rw [sourceIdOf_normalized hitem]
    exact h.withoutNotices
  split
  · rename_i hmakes
    obtain ⟨item, hitem, hstorable⟩ := hmakes
    have hcreates := (createsNotice_iff_storable (hnone hitem)).mpr hstorable
    have hnotices := (Prod.mk.inj (records_of_created hreliable h.accepted hitem hcreates)).1
    rw [hnotices, List.length_append, List.length_singleton]
  · rename_i hmakes
    have hsources := sources_of_not_created hreliable h.accepted fun item hitem hcreates ↦
      hmakes ⟨item, hitem, (createsNotice_iff_storable (hnone hitem)).mp hcreates⟩
    have hlengths := congrArg List.length hsources
    rwa [List.length_map, List.length_map] at hlengths

/-- A call whose item cannot be stored leaves the source without notices. -/
theorem Context.Untouched.step (hreliable : conn.Reliable) (h : context.Untouched conn (context.sourceIdOf conn first))
    (hmakes : ¬ first.Makes python) (hcode : second.writtenSourceCode = first.writtenSourceCode) :
    (context.step python (conn, .notice first)).Untouched conn
      ((context.step python (conn, .notice first)).sourceIdOf conn second) := by
  have hid : (context.step python (conn, .notice first)).sourceIdOf conn second = context.sourceIdOf conn first :=
    (sourceIdOf_step hcode).trans (sourceIdOf_congr hcode)
  have hsources := sources_of_not_created hreliable h.accepted fun item hitem hcreates ↦ by
    have hnone : context.db.WithoutNotices (context.sourceIdOf conn item) := by
      rw [sourceIdOf_normalized hitem]
      exact h.withoutNotices
    exact hmakes ⟨item, hitem, (createsNotice_iff_storable hnone).mp hcreates⟩
  refine ⟨accepts_step h.accepted, versionsOwned_step h.versionsOwned, ?_⟩
  rw [hid]
  intro notice hnotice
  have hmem := List.mem_map_of_mem (f := TenderNotice.sourceSiteId) hnotice
  rw [hsources] at hmem
  obtain ⟨kept, hkept, hsame⟩ := List.mem_map.mp hmem
  rw [← hsame]
  exact h.withoutNotices kept hkept

/-! ## What both calls add -/

/-- The item is kept apart from the notice of the other item. -/
def Item.ApartFrom (python : Python) (item : Item) (row : TenderNotice) (other : Item) : Prop :=
  ¬ item.SharesKey other ∧ item.similarTo python row = .ok false

/-- The item of the call can be stored and is kept apart from the notice of the other item. -/
def Item.MakesApartFrom (python : Python) (original : Item) (row : TenderNotice) (other : Item) : Prop :=
  ∃ item, normalizeNoticeItem python original = .ok item ∧ item.Storable python ∧ item.ApartFrom python row other

/-- After a notice was made, the second call makes another one where its item is kept apart. -/
theorem length_afterBoth {a : Item} [Decidable (second.MakesApartFrom python (context.createdRow python conn a) a)]
    (hreliable : conn.Reliable) (h : context.Untouched conn (context.sourceIdOf conn first))
    (hcode : second.writtenSourceCode = first.writtenSourceCode)
    (hfirst : normalizeNoticeItem python first = .ok a) (hstorable : a.Storable python) :
    (context.afterBoth python conn first second).db.notices.length =
      context.db.notices.length + 1 +
        if second.MakesApartFrom python (context.createdRow python conn a) a then 1 else 0 := by
  have hnone : context.db.WithoutNotices (context.sourceIdOf conn a) := by
    rw [sourceIdOf_normalized hfirst]
    exact h.withoutNotices
  have hrecords := records_of_created hreliable h.accepted hfirst ((createsNotice_iff_storable hnone).mpr hstorable)
  have haccepts : conn.accepts (context.step python (conn, .notice first)).db := accepts_step h.accepted
  have hid {b : Item} (hsecond : normalizeNoticeItem python second = .ok b) :
      (context.step python (conn, .notice first)).sourceIdOf conn b = context.sourceIdOf conn a := by
    calc (context.step python (conn, .notice first)).sourceIdOf conn b
        = (context.step python (conn, .notice first)).sourceIdOf conn second := sourceIdOf_normalized hsecond
      _ = context.sourceIdOf conn second := sourceIdOf_step hcode
      _ = context.sourceIdOf conn first := sourceIdOf_congr hcode
      _ = context.sourceIdOf conn a := (sourceIdOf_normalized hfirst).symm
  have hcreates {b : Item} (hsecond : normalizeNoticeItem python second = .ok b) :=
    createsNotice_iff_apart hrecords h.versionsOwned hnone (hid hsecond) (isSome_dedupKey hfirst)
  have hlength : (context.step python (conn, .notice first)).db.notices.length = context.db.notices.length + 1 := by
    rw [(Prod.mk.inj hrecords).1, List.length_append, List.length_singleton]
  unfold Context.afterBoth
  split
  · rename_i hmakes
    obtain ⟨b, hsecond, hother, hapart⟩ := hmakes
    have hnotices := (Prod.mk.inj (records_of_created hreliable haccepts hsecond
      ((hcreates hsecond).mpr ⟨hother, hapart⟩))).1
    rw [hnotices, List.length_append, List.length_singleton, hlength]
  · rename_i hmakes
    have hsources := sources_of_not_created hreliable haccepts fun b hsecond hb ↦
      hmakes ⟨b, hsecond, (hcreates hsecond).mp hb⟩
    have hlengths := congrArg List.length hsources
    rw [List.length_map, List.length_map, hlength] at hlengths
    exact hlengths

/-- Where one of the items cannot be stored, each of them that can makes a notice. -/
theorem length_afterBoth_of_not [Decidable (first.Makes python)] [Decidable (second.Makes python)]
    (hreliable : conn.Reliable) (h : context.Untouched conn (context.sourceIdOf conn first))
    (hcode : second.writtenSourceCode = first.writtenSourceCode) (hnot : ¬ (first.Makes python ∧ second.Makes python)) :
    (context.afterBoth python conn first second).db.notices.length =
      context.db.notices.length + ((if first.Makes python then 1 else 0) + if second.Makes python then 1 else 0) := by
  classical
  by_cases hmakes : first.Makes python
  · have hsecond : ¬ second.Makes python := fun hsecond ↦ hnot ⟨hmakes, hsecond⟩
    have ⟨a, hfirst, hstorable⟩ := hmakes
    have hapart : ¬ second.MakesApartFrom python (context.createdRow python conn a) a :=
      fun ⟨b, hb, hother, _⟩ ↦ hsecond ⟨b, hb, hother⟩
    rw [length_afterBoth hreliable h hcode hfirst hstorable, if_neg hapart, if_pos hmakes, if_neg hsecond]
  · unfold Context.afterBoth
    rw [length_step hreliable (h.step hreliable hmakes hcode), length_step hreliable h, Nat.add_assoc]

/-- The two orders come to the same number of notices if and only if one of the items cannot be stored, the
two share a key, or the scan keeps each apart from the row of the other or neither. -/
theorem arrivalOrder_iff (python : Python) (conn : Connection) (context : Context) (first second : Item)
    (hreliable : conn.Reliable) (hcode : second.writtenSourceCode = first.writtenSourceCode)
    (h : context.Untouched conn (context.sourceIdOf conn first)) :
    (context.afterBoth python conn first second).db.notices.length =
        (context.afterBoth python conn second first).db.notices.length ↔
      ∀ a b, normalizeNoticeItem python first = .ok a → normalizeNoticeItem python second = .ok b →
        a.Storable python → b.Storable python →
        a.SharesKey b ∨ (a.similarTo python (context.createdRow python conn b) = .ok false ↔
          b.similarTo python (context.createdRow python conn a) = .ok false) := by
  classical
  have hsecondUntouched : context.Untouched conn (context.sourceIdOf conn second) := by
    rw [sourceIdOf_congr hcode]
    exact h
  by_cases hboth : first.Makes python ∧ second.Makes python
  · obtain ⟨⟨a, hfirst, ha⟩, ⟨b, hsecond, hb⟩⟩ := hboth
    have hapart {original item other : Item} (hitem : normalizeNoticeItem python original = .ok item)
        (hstorable : item.Storable python) (row : TenderNotice) :
        original.MakesApartFrom python row other ↔ item.ApartFrom python row other := by
      constructor
      · rintro ⟨same, hsame, -, hsameApart⟩
        obtain rfl := Except.ok.inj (hitem.symm.trans hsame)
        exact hsameApart
      · exact fun hitemApart ↦ ⟨item, hitem, hstorable, hitemApart⟩
    have hcomm : b.SharesKey a ↔ a.SharesKey b := sharesKey_comm
    rw [length_afterBoth hreliable h hcode hfirst ha, length_afterBoth hreliable hsecondUntouched hcode.symm hsecond hb]
    simp only [hapart hsecond hb, hapart hfirst ha, Item.ApartFrom, hcomm]
    constructor
    · intro hlengths a' b' ha' hb' _ _
      obtain rfl := Except.ok.inj (hfirst.symm.trans ha')
      obtain rfl := Except.ok.inj (hsecond.symm.trans hb')
      by_cases hshares : a.SharesKey b
      · exact Or.inl hshares
      · refine Or.inr ?_
        simp only [hshares, not_false_eq_true, true_and] at hlengths
        split_ifs at hlengths <;> first | omega | simp_all
    · intro hagree
      rcases hagree a b hfirst hsecond ha hb with hshares | hsame
      · simp [hshares]
      · simp only [hsame]
  · rw [length_afterBoth_of_not hreliable h hcode hboth,
      length_afterBoth_of_not hreliable hsecondUntouched hcode.symm fun hother ↦ hboth hother.symm]
    refine iff_of_true (congrArg _ (Nat.add_comm _ _)) ?_
    intro a b hfirst hsecond ha hb
    exact absurd ⟨⟨a, hfirst, ha⟩, ⟨b, hsecond, hb⟩⟩ hboth

end Order

/-! ## Two items that agree in one signal -/

/-- The digests of the keys of the items below. -/
def arrivalDigests : Digests where
  entries := [("t|1970-01-01|i|-|-|1", "aced162ad697e522d4171aa39c75fb49116898ad87adfa2f24a33ba6ca3d70dc"),
    ("t|1970-01-01|i|-|-|2", "dd43f5050679a339f9e910f161be3af20e0f681cbf4e946c64cc84458dc822ff"),
    ("t|1970-01-01|i|-|r|-", "fd44d19d5bd3a120874f9ba87c85b186e4521a1e050818bbee3a8e0bb0bc05c0"),
    ("a|announcement|1", "81c9b8235ef13ae9e666dff9f4712c7e748df54d3d84e0ec74a504184522e51d"),
    ("a|announcement|2", "fc52a9423d4653448ec30e2356d294391bc4a4d2a8821514dba610f1b708fe9b"),
    ("a|external_id|1", "7989ec57c938805a43348aaa3e09b4aa921a87f49d6bb760c566f3520be23c5d"),
    ("a|external_id|2", "1ab7d21ef5d2320a707c20921f134d17ab3a357927c678ecb39e21fac09a147a")]
  stripped := by decide +kernel

/-- A notice of the source a with an issuer, of which only the external id is given. -/
def issuedNotice (externalId : String) : Item where
  sourceCode := some (.str "a")
  externalId := some (.str externalId)
  title := some (.str "t")
  publishedAt := some (.str "1970-01-01")
  issuer := some (.str "i")

def regionalNotice (externalId : String) : Item := { issuedNotice externalId with region := some (.str "r") }

/-- Two notices with ids of their own are as many in both orders. -/
theorem arrivalOrder_issuedNotice :
    ((⟨[], emptyDb⟩ : Context).afterBoth (plainPython arrivalDigests) (sqlite epoch) (issuedNotice "1")
        (issuedNotice "2")).db.notices.length =
      ((⟨[], emptyDb⟩ : Context).afterBoth (plainPython arrivalDigests) (sqlite epoch) (issuedNotice "2")
        (issuedNotice "1")).db.notices.length := by
  refine (arrivalOrder_iff (plainPython arrivalDigests) (sqlite epoch) ⟨[], emptyDb⟩ (issuedNotice "1")
    (issuedNotice "2") (fun stage ↦ by cases stage <;> rfl) rfl ⟨by decide, fun _ h ↦ (nomatch h), fun _ h ↦ (nomatch h)⟩).mpr ?_
  intro a b ha hb _ _
  right
  have hitem (externalId : String)
      (h : (normalizeNoticeItem (plainPython arrivalDigests) (issuedNotice externalId)).isOk) :
      normalizeNoticeItem (plainPython arrivalDigests) (issuedNotice externalId) =
        .ok ((normalizeNoticeItem (plainPython arrivalDigests) (issuedNotice externalId)).toOption.getD {}) :=
    eq_ok_of_isOk _ h
  obtain rfl := Except.ok.inj (ha.symm.trans (hitem "1" (by decide +kernel)))
  obtain rfl := Except.ok.inj (hb.symm.trans (hitem "2" (by decide +kernel)))
  decide +kernel

/-- Two notices of one title, day and issuer, one of which has a region, too: the one without it takes the
other for its own, but not the other way round. -/
theorem arrivalOrder_not_regionalNotice :
    (sqlite epoch).Reliable ∧ (regionalNotice "2").writtenSourceCode = (issuedNotice "1").writtenSourceCode ∧
      (⟨[], emptyDb⟩ : Context).Untouched (sqlite epoch)
        ((⟨[], emptyDb⟩ : Context).sourceIdOf (sqlite epoch) (issuedNotice "1")) ∧
      ((⟨[], emptyDb⟩ : Context).afterBoth (plainPython arrivalDigests) (sqlite epoch) (issuedNotice "1")
        (regionalNotice "2")).db.notices.length = 2 ∧
      ((⟨[], emptyDb⟩ : Context).afterBoth (plainPython arrivalDigests) (sqlite epoch) (regionalNotice "2")
        (issuedNotice "1")).db.notices.length = 1 := by
  refine ⟨fun stage ↦ by cases stage <;> rfl, rfl, ⟨by decide, fun _ h ↦ (nomatch h), fun _ h ↦ (nomatch h)⟩, ?_⟩
  decide +kernel

end TenderPhase1.Crawler
