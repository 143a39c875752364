import TenderPhase1.Crawler.NoticeColumns
import TenderPhase1.Crawler.VersionSet
import TenderPhase1.Notices.ListLaw

/-!
# Related notices

The notices that the page of a notice names beside it are those with its dedup key. The
key is computed twice, by Python for the notice and by the database for the rows, and
only the database leaves white space other than blanks. What the writers store is
stripped, so the keys agree; the rows are joined to their sources, so a notice whose
source does not exist is not even related to itself.
-/

namespace TenderPhase1.Notices

open PyText Sources Crawler OrderedRows Transition

/-! ## Outer joins -/

section Joins

variable {Left Right : Type} {on : Left → Right → Bool} {lefts : List Left} {rights : List Right}

/-- `LEFT OUTER JOIN rights ON …` -/
def leftJoin (on : Left → Right → Bool) (lefts : List Left) (rights : List Right) : List (Left × Option Right) :=
  lefts.flatMap fun left ↦
    match rights.filter (on left) with
    | [] => [(left, none)]
    | found => found.map fun right ↦ (left, some right)

/-- Where no row is joined twice, a join keeps the rows as they are. -/
theorem map_fst_leftJoin (h : ∀ left, (rights.filter (on left)).length ≤ 1) :
    (leftJoin on lefts rights).map Prod.fst = lefts := by
  induction lefts with
  | nil => rfl
  | cons left lefts ih =>
    have hleft := h left
    unfold leftJoin at ih ⊢
    rw [List.flatMap_cons, List.map_append, ih]
    match hfound : rights.filter (on left) with
    | [] => rfl
    | [_] => rfl
    | first :: second :: rest =>
      rw [hfound, List.length_cons, List.length_cons] at hleft
      omega

/-- At most one row has the key. -/
theorem length_filter_key {Key : Type} [DecidableEq Key] {key : Right → Key} (hkeys : (rights.map key).Nodup)
    (wanted : Option Key) : (rights.filter fun right ↦ wanted = some (key right)).length ≤ 1 := by
  cases wanted with
  | none => simp
  | some wanted =>
    have hcount : (rights.filter fun right ↦ some wanted = some (key right)).length = (rights.map key).count wanted := by
      rw [List.count_eq_length_filter, List.filter_map, List.length_map]
      congr 1
      apply List.filter_congr
      intro right _
      change decide (some wanted = some (key right)) = (key right == wanted)
      rw [beq_eq_decide, decide_eq_decide, Option.some_inj, eq_comm]
    rw [hcount]
    exact List.nodup_iff_count_le_one.mp hkeys wanted

end Joins

/-! ## The query -/

/-- The tables of the notice list, with the documents. -/
structure RecordDb extends NoticeDb where
  rawDocuments : List RawDocument
  versions_nodup : (versions.map (·.row.id)).Nodup
  rawDocuments_nodup : (rawDocuments.map RawDocument.id).Nodup

structure NoticeRelatedRecord where
  id : ℕ
  sourceCode : String
  sourceName : String
  title : String
  publishedAt : Option DateTime
  detailUrl : Option String
  deriving DecidableEq, Repr

def dedupKeyForNotice (notice : TenderNotice) : String :=
  let dedupKey := strip (notice.dedupKey.getD "")
  let sourceDuplicateKey := strip (notice.sourceDuplicateKey.getD "")
  let dedupHash := strip (notice.dedupHash.getD "")
  if dedupKey ≠ "" then dedupKey
  else if sourceDuplicateKey ≠ "" then sourceDuplicateKey
  else if dedupHash ≠ "" then dedupHash
  else "fallback:" ++ toString notice.sourceSiteId ++ "|" ++ strip (notice.externalId.getD "") ++ "|" ++
    strip (notice.projectCode.getD "") ++ "|" ++ strip notice.title

/-- The notices of `FROM tender_notice JOIN source_site`, each with its source. -/
def NoticeDb.sourced (db : NoticeDb) : List (Timestamped TenderNotice × SourceSite) :=
  db.notices.flatMap fun notice ↦
    (db.sources.filter fun source ↦ source.id = notice.row.sourceSiteId).map (notice, ·)

/-- A notice with its source, its current version, and the document of that. -/
abbrev JoinedNotice := ((Timestamped TenderNotice × SourceSite) × Option (Timestamped NoticeVersion)) × Option RawDocument

def RecordDb.joinedNotices (db : RecordDb) : List JoinedNotice :=
  let versioned := leftJoin (fun pair version ↦ pair.1.row.currentVersionId = some version.row.id) db.sourced db.versions
  leftJoin (fun joined document ↦ (joined.2.bind (·.row.rawDocumentId)) = some document.id) versioned db.rawDocuments

def JoinedNotice.record (joined : JoinedNotice) : NoticeRelatedRecord where
  id := joined.1.1.1.row.id
  sourceCode := joined.1.1.2.code
  sourceName := joined.1.1.2.name
  title := joined.1.1.1.row.title
  publishedAt := joined.1.1.1.row.publishedAt
  detailUrl := joined.2.map RawDocument.url

/-- The order of `list_related_notices` -/
def relatedOrder (engine : Engine) : List (SortKey NoticeRelatedRecord) :=
  let publishedAt : Column NoticeRelatedRecord := engine.column compareInstants NoticeRelatedRecord.publishedAt
  [publishedAt.isNull, publishedAt.desc, (SortKey.on compare NoticeRelatedRecord.id).desc]

def listRelatedNotices (engine : Engine) (db : RecordDb) (scan : Scan) (noticeId : ℕ) : List NoticeRelatedRecord :=
  match db.notices.find? (·.row.id = noticeId) with
  | none => []
  | some notice =>
      let dedupKey := dedupKeyForNotice notice.row
      let rows := db.joinedNotices.filter fun joined ↦ dedupKeyOf joined.1.1.1.row = dedupKey
      orderBy (relatedOrder engine) (scan.answer (rows.map JoinedNotice.record))

def relatedIds (engine : Engine) (db : RecordDb) (scan : Scan) (noticeId : ℕ) : List ℕ :=
  (listRelatedNotices engine db scan noticeId).map NoticeRelatedRecord.id

/-! ## The two keys -/

section Keys

variable {notice : TenderNotice} {column : Option String} {text : String}

/-- The database finds no blank at the ends of a stripped text. -/
theorem sqlTrim_of_stripped (h : Stripped text) : sqlTrim text = text := by
  obtain ⟨hfirst, hlast⟩ := stripped_iff.mp h
  have hkept {chars : List Char} (hhead : ∀ c ∈ chars.head?, isSpace c = false) :
      chars.dropWhile (· = ' ') = chars := by
    cases chars with
    | nil => rfl
    | cons c rest =>
      have hblank : c ≠ ' ' := by
        rintro rfl
        exact absurd (hhead ' ' rfl) (by decide)
      exact List.dropWhile_cons_of_neg (by simpa using hblank)
  rw [← List.head?_reverse] at hlast
  rw [sqlTrim, hkept hfirst, hkept hlast, List.reverse_reverse, String.ofList_toList]

theorem nullifBlank_of_stripped (h : ∀ text ∈ column, Stripped text) :
    nullifBlank column = if strip (column.getD "") = "" then none else some (strip (column.getD "")) := by
  cases column with
  | none => rfl
  | some text =>
    have htext : Stripped text := h text rfl
    rw [nullifBlank, Option.bind_some, sqlTrim_of_stripped htext, Option.getD_some, htext]

theorem trimmedOrEmpty_of_stripped (h : ∀ text ∈ column, Stripped text) :
    trimmedOrEmpty column = strip (column.getD "") := by
  cases column with
  | none => rfl
  | some text =>
    have htext : Stripped text := h text rfl
    rw [trimmedOrEmpty, Option.map_some, Option.getD_some, Option.getD_some, sqlTrim_of_stripped htext, htext]

/-- The first key that is not empty, by two ways of writing it. -/
theorem firstKey_eq (first second third fallback : String) :
    (if first ≠ "" then first else if second ≠ "" then second else if third ≠ "" then third else fallback) =
      (((if first = "" then none else some first) <|> if second = "" then none else some second) <|>
        if third = "" then none else some third).getD fallback := by
  by_cases hfirst : first = ""
  · by_cases hsecond : second = ""
    · by_cases hthird : third = ""
      · simp [hfirst, hsecond, hthird]
      · simp [hfirst, hsecond, hthird]
    · simp [hfirst, hsecond]
  · simp [hfirst]

/-- Python and the database compute one key for a notice whose texts are stripped. -/
theorem dedupKeyForNotice_eq (h : notice.TextsStripped) : dedupKeyForNotice notice = dedupKeyOf notice := by
  have htitle : ∀ text ∈ some notice.title, Stripped text := by
    rintro text ⟨⟩
    exact h.title
  unfold dedupKeyForNotice dedupKeyOf
  rw [nullifBlank_of_stripped h.dedupKey, nullifBlank_of_stripped h.sourceDuplicateKey,
    nullifBlank_of_stripped h.dedupHash, trimmedOrEmpty_of_stripped h.externalId,
    trimmedOrEmpty_of_stripped h.projectCode, trimmedOrEmpty_of_stripped htitle]
  exact firstKey_eq _ _ _ _

end Keys

/-! ## Agreement with the list -/

/-- The notices that the folded list counts with one, by the keys of its rows. -/
def groupedIds (rows : List NoticeRow) (noticeId : ℕ) : List ℕ :=
  (rows.filter fun row ↦ rows.any fun own ↦ own.id = noticeId && own.dedupKey = row.dedupKey).map NoticeRow.id

/-- The related notices are those that the folded list groups, and being related is an equivalence, whatever
the order in which each statement reads its rows. -/
structure RelatedAgreement (engine : Engine) (db : RecordDb) : Prop where
  keys : ∀ notice ∈ db.notices, dedupKeyForNotice notice.row = dedupKeyOf notice.row
  self : ∀ notice ∈ db.notices, ∀ scan, notice.row.id ∈ relatedIds engine db scan notice.row.id
  grouped : ∀ notice ∈ db.notices, ∀ scan now rows, baseRows engine db.toNoticeDb now {} = .ok rows →
    (relatedIds engine db scan notice.row.id).Perm (groupedIds rows notice.row.id)
  counted : ∀ notice ∈ db.notices, ∀ scan now sortBy sortOrder reading items,
    listNoticesForExport engine db.toNoticeDb now {} true sortBy sortOrder reading = .ok items →
      ∃ item ∈ items, item.dedupKey = dedupKeyOf notice.row ∧
        item.duplicateCount = (relatedIds engine db scan notice.row.id).length
  equivalence : ∀ scan : ℕ → Scan, Equivalence fun notice other : { notice // notice ∈ db.notices } ↦
    other.1.row.id ∈ relatedIds engine db (scan notice.1.row.id) notice.1.row.id

/-- The foreign key of the notices to their sources. -/
def NoticeDb.NoticesNamed (db : NoticeDb) : Prop :=
  ∀ notice ∈ db.notices, ∃ source ∈ db.sources, source.id = notice.row.sourceSiteId

section Agreement

variable {engine : Engine} {db : RecordDb} {notice other : Timestamped TenderNotice} {scan : Scan} {now : DateTime}
  {rows : List NoticeRow}

theorem mem_sourced {source : SourceSite} : (notice, source) ∈ db.sourced ↔
    notice ∈ db.notices ∧ source ∈ db.sources ∧ source.id = notice.row.sourceSiteId := by
  simp [NoticeDb.sourced, and_assoc]

/-- The outer joins leave the rows as they are. -/
theorem map_joinedNotices (db : RecordDb) : db.joinedNotices.map (fun joined ↦ joined.1.1) = db.sourced := by
  have hversions : (leftJoin (fun pair version ↦ decide (pair.1.row.currentVersionId = some version.row.id)) db.sourced
      db.versions).map Prod.fst = db.sourced :=
    map_fst_leftJoin fun pair ↦ length_filter_key db.versions_nodup pair.1.row.currentVersionId
  have hdocuments (versioned : List ((Timestamped TenderNotice × SourceSite) × Option (Timestamped NoticeVersion))) :
      (leftJoin (fun joined document ↦ decide ((joined.2.bind (·.row.rawDocumentId)) = some document.id)) versioned
        db.rawDocuments).map Prod.fst = versioned :=
    map_fst_leftJoin fun joined ↦ length_filter_key db.rawDocuments_nodup (joined.2.bind (·.row.rawDocumentId))
  calc db.joinedNotices.map (fun joined ↦ joined.1.1)
      = (db.joinedNotices.map Prod.fst).map Prod.fst := by rw [List.map_map]; rfl
    _ = db.sourced := by
        unfold RecordDb.joinedNotices
        dsimp only
        rw [hdocuments, hversions]

/-- The rows of the query are the notices of the key that have a source. -/
theorem relatedIds_perm (hnotice : notice ∈ db.notices) :
    (relatedIds engine db scan notice.row.id).Perm
      ((db.sourced.filter fun pair ↦ dedupKeyOf pair.1.row = dedupKeyForNotice notice.row).map (·.1.row.id)) := by
  have hfound : db.notices.find? (·.row.id = notice.row.id) = some notice :=
    find?_eq_some_of_mem db.notices_nodup hnotice
  unfold relatedIds listRelatedNotices
  rw [hfound]
  dsimp only
  refine ((orderBy_perm.trans (scan.answer_perm _)).map _).trans ?_
  rw [← map_joinedNotices db, List.filter_map, List.map_map, List.map_map]
  exact List.Perm.refl _

theorem mem_relatedIds (hnotice : notice ∈ db.notices) (hother : other ∈ db.notices) :
    other.row.id ∈ relatedIds engine db scan notice.row.id ↔
      (∃ source ∈ db.sources, source.id = other.row.sourceSiteId) ∧
        dedupKeyOf other.row = dedupKeyForNotice notice.row := by
  rw [(relatedIds_perm hnotice).mem_iff, List.mem_map]
  constructor
  · rintro ⟨⟨found, source⟩, hpair, hid⟩
    obtain ⟨hmem, hkey⟩ := List.mem_filter.mp hpair
    obtain ⟨hfound, hsource, hsourceId⟩ := mem_sourced.mp hmem
    have hsame : found = other := List.inj_on_of_nodup_map db.notices_nodup hfound hother hid
    subst hsame
    exact ⟨⟨source, hsource, hsourceId⟩, of_decide_eq_true hkey⟩
  · rintro ⟨⟨source, hsource, hsourceId⟩, hkey⟩
    refine ⟨(other, source), List.mem_filter.mpr ⟨?_, decide_eq_true hkey⟩, rfl⟩
    exact mem_sourced.mpr ⟨hother, hsource, hsourceId⟩

/-- Without filters, the rows of the list are the notices that have a source. -/
theorem baseRows_unfiltered {db : NoticeDb} (h : baseRows engine db now {} = .ok rows) :
    ∃ recentStartAt, rows = db.sourced.map fun pair ↦ noticeRow db recentStartAt pair.2 pair.1 := by
  obtain ⟨recentStartAt, -, h⟩ := Jobs.bind_eq_ok.mp h
  have hkeeps (source : SourceSite) (notice : Timestamped TenderNotice) :
      NoticeQueryFilters.keeps engine db {} none source notice = true := by
    simp [NoticeQueryFilters.keeps, matchesText, strip, stripChars]
  refine ⟨recentStartAt, ?_⟩
  rw [← Except.ok.inj h, NoticeDb.sourced, List.map_flatMap]
  congr 1
  funext notice
  rw [List.map_map]
  congr 1
  apply List.filter_congr
  intro source _
  rw [hkeeps, Bool.and_true]

/-- The rows that are grouped with a notice that has a source are those of its key. -/
theorem groupedIds_eq (hnotice : notice ∈ db.notices)
    (hsource : ∃ source ∈ db.sources, source.id = notice.row.sourceSiteId)
    (hrows : baseRows engine db.toNoticeDb now {} = .ok rows) :
    groupedIds rows notice.row.id =
      (db.sourced.filter fun pair ↦ dedupKeyOf pair.1.row = dedupKeyOf notice.row).map (·.1.row.id) := by
  obtain ⟨source, hmem, hid⟩ := hsource
  obtain ⟨recentStartAt, rfl⟩ := baseRows_unfiltered hrows
  have hown (key : String) : ((db.sourced.map fun pair ↦ noticeRow db.toNoticeDb recentStartAt pair.2 pair.1).any
      fun own ↦ own.id = notice.row.id && own.dedupKey = key) = decide (key = dedupKeyOf notice.row) := by
    rw [Bool.eq_iff_iff, List.any_eq_true, decide_eq_true_eq]
    constructor
    · rintro ⟨own, hown, hcheck⟩
      obtain ⟨⟨found, site⟩, hpair, rfl⟩ := List.mem_map.mp hown
      rw [Bool.and_eq_true, decide_eq_true_eq, decide_eq_true_eq] at hcheck
      have hsame : found = notice :=
        List.inj_on_of_nodup_map db.notices_nodup (mem_sourced.mp hpair).1 hnotice hcheck.1
      rw [← hcheck.2, ← hsame]
      rfl
    · rintro rfl
      refine ⟨_, List.mem_map.mpr ⟨(notice, source), mem_sourced.mpr ⟨hnotice, hmem, hid⟩, rfl⟩, ?_⟩
      simp [noticeRow]
  unfold groupedIds
  simp only [hown]
  rw [List.filter_map, List.map_map]
  rfl

/-- The folded list has a row for the notice, with the number of the rows of its key. -/
theorem exists_listed (hnotice : notice ∈ db.notices)
    (hsource : ∃ source ∈ db.sources, source.id = notice.row.sourceSiteId) {sortBy sortOrder : String}
    {items : List NoticeListItemRecord}
    (hitems : listNoticesForExport engine db.toNoticeDb now {} true sortBy sortOrder scan = .ok items) :
    ∃ rows, baseRows engine db.toNoticeDb now {} = .ok rows ∧
      ∃ item ∈ items, item.dedupKey = dedupKeyOf notice.row ∧
        item.duplicateCount = (groupedIds rows notice.row.id).length := by
  cases hrows : baseRows engine db.toNoticeDb now {} with
  | error error =>
    rw [listNoticesForExport, buildListQuery_eq_error hrows] at hitems
    cases hitems
  | ok rows =>
    refine ⟨rows, rfl, ?_⟩
    have hfolds := exportList_foldsDuplicates engine sortBy sortOrder rows (nodup_baseRows hrows)
    rw [listNoticesForExport_eq hrows] at hitems
    rw [Except.ok.inj hitems] at hfolds
    rw [groupedIds_eq hnotice hsource hrows]
    obtain ⟨source, hmem, hid⟩ := hsource
    obtain ⟨recentStartAt, rfl⟩ := baseRows_unfiltered hrows
    have hkey : dedupKeyOf notice.row ∈ items.map (·.dedupKey) := by
      rw [hfolds.mem_keys, List.map_map]
      exact List.mem_map.mpr ⟨(notice, source), mem_sourced.mpr ⟨hnotice, hmem, hid⟩, rfl⟩
    obtain ⟨item, hitem, hitemKey⟩ := List.mem_map.mp hkey
    refine ⟨item, hitem, hitemKey, ?_⟩
    rw [hfolds.duplicateCount_eq item hitem, hitemKey, List.countP_map, List.countP_eq_length_filter, List.length_map]
    rfl

/-- Where every notice has its source, the related notices are the classes of one relation. -/
theorem relatedAgreement_of_named (hnamed : db.NoticesNamed) (hstripped : ∀ notice ∈ db.notices, notice.row.TextsStripped) :
    RelatedAgreement engine db := by
  have hkeys (notice : Timestamped TenderNotice) (hnotice : notice ∈ db.notices) :
      dedupKeyForNotice notice.row = dedupKeyOf notice.row := dedupKeyForNotice_eq (hstripped notice hnotice)
  have hrelated (notice other : { notice // notice ∈ db.notices }) (scan : Scan) :
      other.1.row.id ∈ relatedIds engine db scan notice.1.row.id ↔
        dedupKeyOf other.1.row = dedupKeyOf notice.1.row := by
    rw [mem_relatedIds notice.2 other.2, hkeys notice.1 notice.2]
    exact and_iff_right (hnamed other.1 other.2)
  have hgrouped (notice : Timestamped TenderNotice) (hnotice : notice ∈ db.notices) (scan : Scan) (now : DateTime)
      (rows : List NoticeRow) (hrows : baseRows engine db.toNoticeDb now {} = .ok rows) :
      (relatedIds engine db scan notice.row.id).Perm (groupedIds rows notice.row.id) := by
    rw [groupedIds_eq hnotice (hnamed notice hnotice) hrows, ← hkeys notice hnotice]
    exact relatedIds_perm hnotice
  refine ⟨hkeys, ?_, hgrouped, ?_, ?_⟩
  · exact fun notice hnotice scan ↦ (hrelated ⟨notice, hnotice⟩ ⟨notice, hnotice⟩ scan).mpr rfl
  · intro notice hnotice scan now sortBy sortOrder reading items hitems
    obtain ⟨rows, hrows, item, hitem, hkey, hcount⟩ := exists_listed hnotice (hnamed notice hnotice) hitems
    refine ⟨item, hitem, hkey, ?_⟩
    rw [hcount, (hgrouped notice hnotice scan now rows hrows).length_eq]
  · intro scan
    refine ⟨?_, ?_, ?_⟩
    · exact fun notice ↦ (hrelated notice notice _).mpr rfl
    · exact fun {notice other} h ↦ (hrelated other notice _).mpr ((hrelated notice other _).mp h).symm
    · exact fun {first second third} h hnext ↦ (hrelated first third _).mpr
        (((hrelated second third _).mp hnext).trans ((hrelated first second _).mp h))

theorem relatedAgreement_iff (hstripped : ∀ notice ∈ db.notices, notice.row.TextsStripped) :
    RelatedAgreement engine db ↔ db.NoticesNamed := by
  constructor
  · intro h notice hnotice
    exact ((mem_relatedIds hnotice hnotice).mp (h.self notice hnotice plainScan)).1
  · exact fun hnamed ↦ relatedAgreement_of_named hnamed hstripped

end Agreement

/-! ## Runs of the writers -/

/-- The tables are those of a database of the writers. -/
structure RecordDb.Shows (shown : RecordDb) (db : Db) : Prop where
  sources : shown.sources = db.sources
  notices : shown.notices.map (·.row) = db.notices
  versions : shown.versions.map (·.row) = db.versions
  rawDocuments : shown.rawDocuments = db.rawDocuments

section Runs

variable {python : Python} {engine : Engine} {shown : RecordDb} {db : Db}

theorem RecordDb.Shows.forall_notices {fact : TenderNotice → Prop} (h : shown.Shows db)
    (hdb : ∀ notice ∈ db.notices, fact notice) : ∀ notice ∈ shown.notices, fact notice.row := by
  intro notice hnotice
  apply hdb
  rw [← h.notices]
  exact List.mem_map_of_mem hnotice

/-- Where the notices are as the writers leave them, the tables agree however a reader meets them. -/
theorem relatedAgreement_of_shows (h : shown.Shows db) (hnamed : db.NoticesNamed)
    (hstripped : ∀ notice ∈ db.notices, notice.TextsStripped) : RelatedAgreement engine shown := by
  refine relatedAgreement_of_named ?_ (h.forall_notices hstripped)
  unfold NoticeDb.NoticesNamed
  rw [h.sources]
  exact h.forall_notices hnamed

/-- In every run whose calls commit the sources they insert, the related notices are those that the folded list
groups, before the first call and after each one. -/
theorem relatedNotices_agree (db : Db) (hnamed : db.NoticesNamed)
    (hstripped : ∀ notice ∈ db.notices, notice.TextsStripped) (events : List (Connection × WriterCall))
    (hcommits : Along (Context.step python) (CommitsNewSource python) ⟨[], db⟩ events) :
    (∀ engine shown, shown.Shows db → RelatedAgreement engine shown) ∧
      Along (Context.step python) (fun before event ↦ ∀ engine shown,
        shown.Shows (before.step python event).db → RelatedAgreement engine shown) ⟨[], db⟩ events := by
  refine ⟨fun engine shown hshows ↦ relatedAgreement_of_shows hshows hnamed hstripped, ?_⟩
  have hinitial : Context.Sound ⟨[], db⟩ := ⟨fun _ _ h ↦ (nomatch h), hnamed⟩
  have hkeep (before : Context) (event : Connection × WriterCall)
      (hbefore : before.Sound ∧ ∀ notice ∈ before.db.notices, notice.TextsStripped)
      (hcommit : CommitsNewSource python before event) :
      (before.step python event).Sound ∧ ∀ notice ∈ (before.step python event).db.notices, notice.TextsStripped :=
    ⟨(sound_step event hbefore.1 hcommit).1, (noticeFact_textsStripped python).step event hbefore.2⟩
  refine along_of_invariant hkeep ?_ ⟨[], db⟩ events ⟨hinitial, hstripped⟩ hcommits
  intro before event hbefore hcommit engine shown hshows
  obtain ⟨hsound, htexts⟩ := hkeep before event hbefore hcommit
  exact relatedAgreement_of_shows hshows hsound.notices htexts

end Runs

/-- A database whose rows are unique, with its notices and versions created at one moment. -/
def recordDb (db : Db) (h : db.unique) (createdAt : DateTime) : RecordDb where
  sources := db.sources
  notices := db.notices.map (⟨·, createdAt⟩)
  versions := db.versions.map (⟨·, createdAt⟩)
  rawDocuments := db.rawDocuments
  sources_nodup := by
    have hsources := (unique_iff.mp h).1
    simp only [uniqueSources, decide_eq_true_eq] at hsources
    exact hsources.1
  notices_nodup := by
    rw [List.map_map]
    exact (uniqueNotices_iff.mp (unique_iff.mp h).2.2.1).1
  versions_nodup := by
    rw [List.map_map]
    exact (uniqueVersions_iff.mp (unique_iff.mp h).2.2.2.1).1
  rawDocuments_nodup := (uniqueRawDocuments_iff.mp (unique_iff.mp h).2.1).1

theorem shows_recordDb (db : Db) (h : db.unique) (createdAt : DateTime) : (recordDb db h createdAt).Shows db := by
  refine ⟨rfl, ?_, ?_, rfl⟩
  · simp [recordDb, Function.comp_def]
  · simp [recordDb, Function.comp_def]

theorem relatedNotices_agree_noticeThenError :
    (∀ engine shown, shown.Shows emptyDb → RelatedAgreement engine shown) ∧
      Along (Context.step (plainPython titleDigests)) (fun before event ↦ ∀ engine shown,
        shown.Shows (before.step (plainPython titleDigests) event).db → RelatedAgreement engine shown)
        ⟨[], emptyDb⟩ noticeThenError := by
  apply relatedNotices_agree emptyDb (fun _ h ↦ (nomatch h)) fun _ h ↦ (nomatch h)
  refine ⟨commitsNewSource_of_storable ?_ rfl, commitsNewSource_of_storable ?_ rfl, trivial⟩
  · decide +kernel
  · decide +kernel

def untitledCall : Connection × WriterCall := (sqlite epoch, .notice { sourceCode := some (.str "a") })

def titledCall : Connection × WriterCall :=
  (sqlite epoch, .notice { sourceCode := some (.str "a"), title := some (.str "t") })

/-- The rows after a notice of the source a without a title, and one with it. -/
def danglingDb : Db :=
  (((⟨[], emptyDb⟩ : Context).step (plainPython titleDigests) untitledCall).step (plainPython titleDigests) titledCall).db

/-- The cache still names the source whose insertion was lost; the next notice of it has no source, and is not
related to itself. -/
theorem relatedNotices_disagree_untitled :
    ¬ Along (Context.step (plainPython titleDigests)) (fun before event ↦ ∀ engine shown,
      shown.Shows (before.step (plainPython titleDigests) event).db → RelatedAgreement engine shown)
      ⟨[], emptyDb⟩ [untitledCall, titledCall] := by
  intro h
  have hrows : danglingDb.unique ∧ danglingDb.sources = [] ∧ danglingDb.notices ≠ [] := by decide +kernel
  obtain ⟨hunique, hsources, hnotices⟩ := hrows
  obtain ⟨notice, hnotice⟩ := List.exists_mem_of_ne_nil _ hnotices
  have hagreement : RelatedAgreement plainEngine (recordDb danglingDb hunique epoch) :=
    h.2.1 plainEngine _ (shows_recordDb danglingDb hunique epoch)
  have hmem : (⟨notice, epoch⟩ : Timestamped TenderNotice) ∈ (recordDb danglingDb hunique epoch).notices :=
    List.mem_map.mpr ⟨notice, hnotice, rfl⟩
  have hself := hagreement.self _ hmem plainScan
  obtain ⟨⟨source, hsource, -⟩, -⟩ := (mem_relatedIds hmem hmem).mp hself
  change source ∈ danglingDb.sources at hsource
  rw [hsources] at hsource
  cases hsource

end TenderPhase1.Notices
