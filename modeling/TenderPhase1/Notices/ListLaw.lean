import TenderPhase1.Notices.ListQuery

/-!
# The law of the notice list

Every order of the list ends with the id, and the filtered rows have different ids.
So each statement comes to the same list, whatever order it reads its rows in, and
the pages of that list make up the export. Folding duplicates keeps the first row of
each dedup key, with the number of rows that have it.
-/

namespace TenderPhase1.Notices

open Std Sources Crawler OrderedRows

/-! ## The filtered rows have different ids -/

section BaseRows

variable {engine : Engine} {db : NoticeDb} {now : DateTime} {filters : NoticeQueryFilters} {rows : List NoticeRow}

/-- A notice has at most one source. -/
theorem sublist_ids_of_notice (notice : Timestamped TenderNotice) (keeps : SourceSite → Bool) (recentStartAt : DateTime) :
    (((db.sources.filter fun source ↦ source.id = notice.row.sourceSiteId && keeps source).map
      (noticeRow db recentStartAt · notice)).map NoticeRow.id).Sublist [notice.row.id] := by
  have hids : ((db.sources.filter fun source ↦ source.id = notice.row.sourceSiteId && keeps source).map
      SourceSite.id).Nodup := db.sources_nodup.sublist (List.filter_sublist.map _)
  have hsource : ∀ source ∈ db.sources.filter fun source ↦ source.id = notice.row.sourceSiteId && keeps source,
      source.id = notice.row.sourceSiteId := by
    intro source hmem
    have := (List.mem_filter.mp hmem).2
    rw [Bool.and_eq_true, decide_eq_true_eq] at this
    exact this.1
  revert hids hsource
  generalize db.sources.filter _ = sources
  intro hids hsource
  match sources with
  | [] => exact List.nil_sublist _
  | [_] => exact List.Sublist.refl _
  | first :: second :: _ =>
    have hne : first.id ≠ second.id := by
      simp only [List.map_cons, List.nodup_cons, List.mem_cons, not_or] at hids
      exact hids.1.1
    exact absurd ((hsource first (by simp)).trans (hsource second (by simp)).symm) hne

/-- The rows are some of the notices. -/
theorem sublist_baseRows (h : baseRows engine db now filters = .ok rows) :
    (rows.map NoticeRow.id).Sublist (db.notices.map fun notice ↦ notice.row.id) := by
  unfold baseRows at h
  cases hrecent : hoursBefore now 24 with
  | error _ => simp [hrecent, bind, Except.bind] at h
  | ok recentStartAt =>
    cases hstart : filters.recentHours.mapM (hoursBefore now) with
    | error _ => simp [hrecent, hstart, bind, Except.bind] at h
    | ok recentStart =>
      simp only [hrecent, hstart, bind, Except.bind, pure, Except.pure, Except.ok.injEq] at h
      rw [← h, List.map_flatMap]
      induction db.notices with
      | nil => exact List.Sublist.refl _
      | cons notice notices ih =>
        rw [List.flatMap_cons, List.map_cons]
        exact (sublist_ids_of_notice notice _ recentStartAt).append ih

theorem nodup_baseRows (h : baseRows engine db now filters = .ok rows) : (rows.map NoticeRow.id).Nodup :=
  db.notices_nodup.sublist (sublist_baseRows h)

theorem length_baseRows_le (h : baseRows engine db now filters = .ok rows) : rows.length ≤ db.notices.length := by
  simpa using (sublist_baseRows h).length_le

end BaseRows

/-! ## The orders tell the rows apart -/

section Orders

variable {engine : Engine} {dedup : Bool} {sortBy sortOrder : String} {rows others : List NoticeRow}

theorem id_eq_of_rankOrder {a b : NoticeRow} (h : compareBy (rankOrder engine) a b = .eq) : a.id = b.id := by
  have hid := compareBy_eq_eq.mp h (SortKey.on compare NoticeRow.id).desc (by simp [rankOrder])
  exact (LawfulEqOrd.eq_of_compare hid).symm

theorem id_eq_of_buildOrderBy {a b : NoticeListRow}
    (h : compareBy (buildOrderBy engine sortBy sortOrder) a b = .eq) : a.id = b.id := by
  have hmem : idDesc ∈ buildOrderBy engine sortBy sortOrder := by
    simp only [buildOrderBy]
    split_ifs <;> simp
  exact (LawfulEqOrd.eq_of_compare (compareBy_eq_eq.mp h idDesc hmem)).symm

theorem mem_of_mem_listRows {row : NoticeListRow} (h : row ∈ listRows engine dedup rows) : row.toNoticeRow ∈ rows := by
  unfold listRows at h
  split at h
  · obtain ⟨ranked, hranked, rfl⟩ := List.mem_map.mp h
    exact (mem_firsts hranked).1
  · obtain ⟨base, hbase, rfl⟩ := List.mem_map.mp h
    exact hbase

/-- The rows with one id have one count, too. -/
theorem eq_of_id_eq (hids : (rows.map NoticeRow.id).Nodup) {a b : NoticeListRow} (ha : a ∈ listRows engine dedup rows)
    (hb : b ∈ listRows engine dedup rows) (hid : a.id = b.id) : a = b := by
  have hbase : a.toNoticeRow = b.toNoticeRow :=
    List.inj_on_of_nodup_map hids (mem_of_mem_listRows ha) (mem_of_mem_listRows hb) hid
  unfold listRows at ha hb
  split at ha
  · rename_i hdedup
    rw [if_pos hdedup] at hb
    obtain ⟨ranked, hranked, rfl⟩ := List.mem_map.mp ha
    obtain ⟨ranked', hranked', rfl⟩ := List.mem_map.mp hb
    have hrow : ranked.row = ranked'.row := hbase
    have hcount : ranked.count = ranked'.count := by
      rw [(mem_firsts hranked).2.1, (mem_firsts hranked').2.1, hrow]
    rw [hrow, hcount]
  · rename_i hdedup
    rw [if_neg hdedup] at hb
    obtain ⟨base, -, rfl⟩ := List.mem_map.mp ha
    obtain ⟨base', -, rfl⟩ := List.mem_map.mp hb
    exact congrArg (NoticeListRow.mk · 1) hbase

theorem listRows_perm (hids : (rows.map NoticeRow.id).Nodup) (hperm : rows.Perm others) :
    (listRows engine dedup rows).Perm (listRows engine dedup others) := by
  unfold listRows
  split
  · refine (firsts_perm hperm ?_).map _
    intro a ha b hb hab
    exact List.inj_on_of_nodup_map hids ha hb (id_eq_of_rankOrder hab)
  · exact hperm.map _

/-- The export list of the filtered rows. -/
def exportList (engine : Engine) (dedup : Bool) (sortBy sortOrder : String) (rows : List NoticeRow) :
    List NoticeListItemRecord :=
  (orderBy (buildOrderBy engine sortBy sortOrder) (listRows engine dedup rows)).map toListItem

theorem length_exportList_le :
    (exportList engine dedup sortBy sortOrder rows).length ≤ rows.length := by
  rw [exportList, List.length_map, length_orderBy, listRows]
  split
  · rw [List.length_map]
    exact length_firsts_le rows
  · rw [List.length_map]

/-- What a statement reads is sorted into one list, whatever its order. -/
theorem orderBy_listRows (hids : (rows.map NoticeRow.id).Nodup) (scan : Scan) :
    orderBy (buildOrderBy engine sortBy sortOrder) (scan.answer (listRows engine dedup (scan.answer rows))) =
      orderBy (buildOrderBy engine sortBy sortOrder) (listRows engine dedup rows) := by
  have hperm : (listRows engine dedup rows).Perm (scan.answer (listRows engine dedup (scan.answer rows))) :=
    (listRows_perm hids (scan.answer_perm rows).symm).trans (scan.answer_perm _).symm
  refine (orderBy_congr hperm ?_).symm
  intro a ha b hb hab
  exact eq_of_id_eq hids ha hb (id_eq_of_buildOrderBy hab)

end Orders

/-! ## Both queries read the export list -/

section Queries

variable {engine : Engine} {db : NoticeDb} {now : DateTime} {filters : NoticeQueryFilters} {dedup : Bool}
  {sortBy sortOrder : String} {rows : List NoticeRow} {error : PyError}

theorem buildListQuery_eq (h : baseRows engine db now filters = .ok rows) (scan : Scan) :
    buildListQuery engine db now filters dedup scan =
      .ok (scan.answer (listRows engine dedup (scan.answer rows))) := by
  rw [buildListQuery, h]
  rfl

theorem buildListQuery_eq_error (h : baseRows engine db now filters = .error error) (scan : Scan) :
    buildListQuery engine db now filters dedup scan = .error error := by
  rw [buildListQuery, h]
  rfl

theorem listNoticesForExport_eq (h : baseRows engine db now filters = .ok rows) (reading : Scan) :
    listNoticesForExport engine db now filters dedup sortBy sortOrder reading =
      .ok (exportList engine dedup sortBy sortOrder rows) := by
  rw [listNoticesForExport, buildListQuery_eq h, exportList, ← orderBy_listRows (nodup_baseRows h) reading]
  rfl

/-- A page of the list is a page of the export. -/
theorem listNotices_eq (h : baseRows engine db now filters = .ok rows) (limit offset : ℕ) (counting reading : Scan) :
    listNotices engine db now filters dedup sortBy sortOrder limit offset counting reading =
      .ok { items := page limit offset (exportList engine dedup sortBy sortOrder rows)
            total := (exportList engine dedup sortBy sortOrder rows).length
            limit := limit
            offset := offset } := by
  have hids := nodup_baseRows h
  have htotal : (counting.answer (listRows engine dedup (counting.answer rows))).length =
      (exportList engine dedup sortBy sortOrder rows).length := by
    rw [exportList, List.length_map, length_orderBy, (counting.answer_perm _).length_eq]
    exact (listRows_perm hids (counting.answer_perm rows).symm).length_eq.symm
  have hitems : (page limit offset (orderBy (buildOrderBy engine sortBy sortOrder)
        (reading.answer (listRows engine dedup (reading.answer rows))))).map toListItem =
      page limit offset (exportList engine dedup sortBy sortOrder rows) := by
    rw [orderBy_listRows hids reading, exportList, page, page, List.map_take, List.map_drop]
  rw [listNotices, buildListQuery_eq h, buildListQuery_eq h, ← htotal, ← hitems]
  rfl

end Queries

/-! ## Which row stands for its duplicates -/

/-- A publication at a later instant, or one that is known. -/
def publishedLater (a b : NoticeRow) : Prop :=
  match a.publishedAt, b.publishedAt with
  | some first, some second => second.instant < first.instant
  | some _, none => True
  | none, _ => False

/-- The rank among duplicates: notices that are new first, then the latest publication with nulls last,
then the highest id. -/
def RanksBefore (a b : NoticeRow) : Prop :=
  a.isRecentNew = true ∧ b.isRecentNew = false ∨
    a.isRecentNew = b.isRecentNew ∧
      (publishedLater a b ∨ a.publishedAt.map DateTime.instant = b.publishedAt.map DateTime.instant ∧ b.id < a.id)

section Rank

variable {engine : Engine} {a b : NoticeRow}

/-- The two expressions on the publication, together. -/
def comparePublished (engine : Engine) : NoticeRow → NoticeRow → Ordering :=
  let publishedAt : Column NoticeRow := engine.column compareInstants NoticeRow.publishedAt
  compareLex publishedAt.isNull.compare publishedAt.desc.compare

theorem comparePublished_eq_lt : comparePublished engine a b = .lt ↔ publishedLater a b := by
  have htrue : compare true false = Ordering.gt := rfl
  have hfalse : compare false true = Ordering.lt := rfl
  unfold comparePublished publishedLater
  simp only [compareLex, Engine.column, SortKey.on, Column.desc, SortKey.desc]
  cases a.publishedAt with
  | none => cases b.publishedAt <;> simp [compareNullable, htrue]
  | some first =>
    cases b.publishedAt with
    | none => simp [hfalse]
    | some second => simp [compareNullable, compareInstants, compare_lt_iff_lt]

theorem comparePublished_eq_eq : comparePublished engine a b = .eq ↔
    a.publishedAt.map DateTime.instant = b.publishedAt.map DateTime.instant := by
  unfold comparePublished
  simp only [compareLex, Engine.column, SortKey.on, Column.desc, SortKey.desc]
  cases a.publishedAt with
  | none => cases b.publishedAt <;> simp [compareNullable]
  | some first =>
    cases b.publishedAt with
    | none => simp
    | some second =>
      have hinstants : compareInstants second first = .eq ↔ first.instant = second.instant :=
        LawfulEqOrd.compare_eq_iff_eq.trans eq_comm
      simpa [compareNullable] using hinstants

theorem compareBy_rankOrder : compareBy (rankOrder engine) a b = .lt ↔ RanksBefore a b := by
  have hsplit : compareBy (rankOrder engine) a b =
      (compare b.isRecentNew a.isRecentNew).then ((comparePublished engine a b).then (compare b.id a.id)) := by
    simp only [rankOrder, compareBy, comparePublished, compareLex, SortKey.desc, SortKey.on, Ordering.then_assoc,
      Ordering.then_eq]
  have hnew : ∀ x y : Bool, (compare y x = .lt ↔ x = true ∧ y = false) ∧ (compare y x = .eq ↔ x = y) := by decide
  rw [hsplit, Ordering.then_eq_lt, Ordering.then_eq_lt, (hnew _ _).1, (hnew _ _).2, comparePublished_eq_lt,
    comparePublished_eq_eq, compare_lt_iff_lt]
  rfl

/-- Of two rows with different ids, one is ranked before the other. -/
theorem ranksBefore_of_isLE (hle : (compareBy (rankOrder engine) a b).isLE) (hid : a.id ≠ b.id) : RanksBefore a b := by
  cases hcompare : compareBy (rankOrder engine) a b with
  | lt => exact compareBy_rankOrder.mp hcompare
  | eq => exact absurd (id_eq_of_rankOrder hcompare) hid
  | gt => simp [hcompare] at hle

end Rank

/-! ## Folding -/

/-- The items stand for all the rows: one for each dedup key, the first of its rows in rank order, with their
number. -/
structure FoldsDuplicates (rows : List NoticeRow) (items : List NoticeListItemRecord) : Prop where
  keys_nodup : (items.map (·.dedupKey)).Nodup
  mem_keys : ∀ key, key ∈ items.map (·.dedupKey) ↔ key ∈ rows.map NoticeRow.dedupKey
  first_mem : ∀ item ∈ items, item.toNoticeRow ∈ rows
  first_ranked : ∀ item ∈ items, ∀ row ∈ rows, row.dedupKey = item.dedupKey → row ≠ item.toNoticeRow →
    RanksBefore item.toNoticeRow row
  duplicateCount_eq : ∀ item ∈ items, item.duplicateCount = rows.countP (·.dedupKey = item.dedupKey)

section Folding

variable (engine : Engine) (sortBy sortOrder : String) (rows : List NoticeRow)

theorem toListItem_eq (row : NoticeRow) {count : ℕ} (h : 0 < count) : toListItem ⟨row, count⟩ = ⟨row, count⟩ := by
  rw [toListItem, if_neg h.ne']

/-- The rows of the export, in some order: each first row with the size of its group. -/
theorem exportList_dedup_perm :
    (exportList engine true sortBy sortOrder rows).Perm
      ((firsts NoticeRow.dedupKey (rankOrder engine) rows).map fun ranked ↦ ⟨ranked.row, ranked.count⟩) := by
  have hitem : ∀ ranked ∈ firsts NoticeRow.dedupKey (rankOrder engine) rows,
      toListItem ⟨ranked.row, ranked.count⟩ = ⟨ranked.row, ranked.count⟩ := by
    intro ranked hranked
    obtain ⟨hrow, hcount, -⟩ := mem_firsts hranked
    have hgroup : ranked.row ∈ group NoticeRow.dedupKey rows ranked.row.dedupKey :=
      List.mem_filter.mpr ⟨hrow, by simp⟩
    refine toListItem_eq ranked.row ?_
    rw [hcount]
    exact List.length_pos_of_mem hgroup
  have hlist : (listRows engine true rows).map toListItem =
      (firsts NoticeRow.dedupKey (rankOrder engine) rows).map fun ranked ↦ ⟨ranked.row, ranked.count⟩ := by
    rw [listRows, if_pos rfl, List.map_map]
    exact List.map_congr_left hitem
  rw [← hlist]
  exact orderBy_perm.map toListItem

/-- The folded export has the first row of each dedup key. -/
theorem exportList_foldsDuplicates (hids : (rows.map NoticeRow.id).Nodup) :
    FoldsDuplicates rows (exportList engine true sortBy sortOrder rows) := by
  have hperm := exportList_dedup_perm engine sortBy sortOrder rows
  have hkeys : ((exportList engine true sortBy sortOrder rows).map (·.dedupKey)).Perm
      (rows.map NoticeRow.dedupKey).dedup := by
    refine (hperm.map _).trans ?_
    rw [List.map_map]
    exact List.Perm.of_eq (map_firsts rows)
  have hfirst : ∀ item ∈ exportList engine true sortBy sortOrder rows,
      ∃ ranked ∈ firsts NoticeRow.dedupKey (rankOrder engine) rows,
        (⟨ranked.row, ranked.count⟩ : NoticeListItemRecord) = item :=
    fun item hitem ↦ List.mem_map.mp (hperm.mem_iff.mp hitem)
  constructor
  · exact hkeys.nodup_iff.mpr (List.nodup_dedup _)
  · intro key
    rw [hkeys.mem_iff, List.mem_dedup]
  · intro item hitem
    obtain ⟨ranked, hranked, rfl⟩ := hfirst item hitem
    exact (mem_firsts hranked).1
  · intro item hitem row hrow hkey hne
    obtain ⟨ranked, hranked, rfl⟩ := hfirst item hitem
    obtain ⟨hmem, -, hle⟩ := mem_firsts hranked
    refine ranksBefore_of_isLE (hle row hrow hkey) ?_
    exact fun hid ↦ hne (List.inj_on_of_nodup_map hids hrow hmem hid.symm)
  · intro item hitem
    obtain ⟨ranked, hranked, rfl⟩ := hfirst item hitem
    change ranked.count = _
    rw [(mem_firsts hranked).2.1, group, ← List.countP_eq_length_filter]

/-- Without folding, the export has all the rows. -/
theorem exportList_unfolded_perm :
    ((exportList engine false sortBy sortOrder rows).map (·.toNoticeRow)).Perm rows := by
  have hlist : (listRows engine false rows).map (fun row ↦ (toListItem row).toNoticeRow) = rows := by
    rw [listRows, if_neg (by decide), List.map_map]
    exact List.map_id _
  have hperm : (orderBy (buildOrderBy engine sortBy sortOrder) (listRows engine false rows)).Perm
      (listRows engine false rows) := orderBy_perm
  rw [exportList, List.map_map]
  exact (hperm.map _).trans (List.Perm.of_eq hlist)

theorem sum_duplicateCount :
    ((exportList engine true sortBy sortOrder rows).map (·.duplicateCount)).sum = rows.length := by
  have hperm := (exportList_dedup_perm engine sortBy sortOrder rows).map fun item ↦ item.duplicateCount
  calc ((exportList engine true sortBy sortOrder rows).map (·.duplicateCount)).sum
      = ((firsts NoticeRow.dedupKey (rankOrder engine) rows).map Windowed.count).sum := by
        rw [hperm.sum_eq, List.map_map]
        rfl
    _ = rows.length := sum_count_firsts rows

end Folding

/-! ## The law -/

section Law

variable (engine : Engine) (db : NoticeDb) (now : DateTime) (filters : NoticeQueryFilters) (sortBy sortOrder : String)

/-- The list and the export fail alike, where the clock cannot go back to the start of the recent hours. Otherwise
there is one export list for each setting of `dedup`: folded, it has the first row of each dedup key, and its counts
add up to the unfolded total; and with either setting every page tells its length, and the pages make it up. -/
theorem listNotices_law :
    match baseRows engine db now filters with
    | .error error => ∀ dedup limit offset counting reading,
        listNoticesForExport engine db now filters dedup sortBy sortOrder reading = .error error ∧
          listNotices engine db now filters dedup sortBy sortOrder limit offset counting reading = .error error
    | .ok rows => ∃ exported : Bool → List NoticeListItemRecord,
        (∀ dedup reading,
          listNoticesForExport engine db now filters dedup sortBy sortOrder reading = .ok (exported dedup)) ∧
        FoldsDuplicates rows (exported true) ∧
        ((exported false).map (·.toNoticeRow)).Perm rows ∧
        ((exported true).map (·.duplicateCount)).sum = (exported false).length ∧
        ∀ dedup limit, 1 ≤ limit → ∀ counting reading : ℕ → Scan, ∃ pages : ℕ → NoticeListResult,
          (∀ i, listNotices engine db now filters dedup sortBy sortOrder limit (i * limit) (counting i) (reading i) =
            .ok (pages i)) ∧
          (∀ i, (pages i).total = (exported dedup).length) ∧
          ∀ n, (exported dedup).length ≤ n →
            (List.range n).flatMap (fun i ↦ (pages i).items) = exported dedup := by
  cases hrows : baseRows engine db now filters with
  | error error =>
    intro dedup limit offset counting reading
    constructor
    · rw [listNoticesForExport, buildListQuery_eq_error hrows]
      rfl
    · rw [listNotices, buildListQuery_eq_error hrows]
      rfl
  | ok rows =>
    have hunfolded := exportList_unfolded_perm engine sortBy sortOrder rows
    have htotal : (exportList engine false sortBy sortOrder rows).length = rows.length := by
      rw [← hunfolded.length_eq, List.length_map]
    refine ⟨fun dedup ↦ exportList engine dedup sortBy sortOrder rows,
      fun dedup reading ↦ listNoticesForExport_eq hrows reading,
      exportList_foldsDuplicates engine sortBy sortOrder rows (nodup_baseRows hrows), hunfolded,
      (sum_duplicateCount engine sortBy sortOrder rows).trans htotal.symm, ?_⟩
    intro dedup limit hlimit counting reading
    refine ⟨_, fun i ↦ listNotices_eq hrows limit (i * limit) (counting i) (reading i), fun i ↦ rfl, ?_⟩
    intro n hn
    have hall : (exportList engine dedup sortBy sortOrder rows).length ≤ n * limit :=
      hn.trans (Nat.le_mul_of_pos_right n hlimit)
    exact (flatMap_page limit n _).trans (List.take_of_length_le hall)

end Law

/-! ### Two duplicates and another notice -/

def plainEngine : Engine where
  ilike text pattern := text = pattern
  collation := compare
  collation_trans := inferInstance
  amounts := compare
  amounts_trans := inferInstance
  nullsLeast := true

def plainScan : Scan where
  answer rows := rows
  answer_perm rows := List.Perm.refl rows

/-- A notice of which only the dedup key matters. -/
def keyedNotice (id : ℕ) (dedupKey : String) : Timestamped TenderNotice where
  row :=
    { id := id, sourceSiteId := 1, externalId := none, projectCode := none, dedupHash := none, dedupKey := some dedupKey,
      sourceDuplicateKey := none, title := "t", noticeType := "result", issuer := none, region := none,
      publishedAt := none, deadlineAt := none, budgetAmount := none, budgetCurrency := "CNY", summary := none,
      firstPublishedAt := none, latestPublishedAt := none, currentVersionId := none }
  createdAt := ⟨0, some 0⟩

def duplicatesDb : NoticeDb where
  sources := [{ id := 1, code := "s", name := "S", baseUrl := "" }]
  notices := [keyedNotice 1 "k", keyedNotice 2 "k", keyedNotice 3 "m"]
  versions := []
  sources_nodup := by decide
  notices_nodup := by decide

/-- Two pages of one notice make up the export of the two keys. -/
theorem listNotices_law_duplicates :
    ∃ items first second,
      listNoticesForExport plainEngine duplicatesDb ⟨0, some 0⟩ {} true "source_name" "asc" plainScan = .ok items ∧
      listNotices plainEngine duplicatesDb ⟨0, some 0⟩ {} true "source_name" "asc" 1 0 plainScan plainScan =
        .ok first ∧
      listNotices plainEngine duplicatesDb ⟨0, some 0⟩ {} true "source_name" "asc" 1 1 plainScan plainScan =
        .ok second ∧
      first.items ++ second.items = items ∧ items.length = 2 ∧ first.total = 2 := by
  have hrows : baseRows plainEngine duplicatesDb ⟨0, some 0⟩ {} = .ok
      (duplicatesDb.notices.map fun notice ↦
        noticeRow duplicatesDb ⟨-86400000000, some 0⟩ { id := 1, code := "s", name := "S", baseUrl := "" } notice) := by
    decide +kernel
  have hlaw := listNotices_law plainEngine duplicatesDb ⟨0, some 0⟩ {} "source_name" "asc"
  simp only [hrows] at hlaw
  obtain ⟨exported, hexport, hfolds, -, -, hpages⟩ := hlaw
  obtain ⟨pages, hlist, htotal, hconcat⟩ := hpages true 1 le_rfl (fun _ ↦ plainScan) fun _ ↦ plainScan
  have hkeys : ((exported true).map (·.dedupKey)).Perm ["k", "m"] := by
    refine (List.perm_ext_iff_of_nodup hfolds.keys_nodup (by decide)).mpr fun key ↦ (hfolds.mem_keys key).trans ?_
    have hbase : duplicatesDb.notices.map (fun notice ↦ dedupKeyOf notice.row) = ["k", "k", "m"] := by decide +kernel
    rw [List.map_map]
    change key ∈ duplicatesDb.notices.map (fun notice ↦ dedupKeyOf notice.row) ↔ _
    rw [hbase]
    simp
  have hlength : (exported true).length = 2 := by
    simpa using hkeys.length_eq
  refine ⟨exported true, pages 0, pages 1, hexport true plainScan, hlist 0, hlist 1, ?_, hlength,
    (htotal 0).trans hlength⟩
  simpa [List.range_succ] using hconcat 2 hlength.le

end TenderPhase1.Notices
