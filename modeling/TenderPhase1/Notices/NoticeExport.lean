import TenderPhase1.Foundation.CsvText
import TenderPhase1.Foundation.PyInt
import TenderPhase1.Notices.ListLaw

/-!
# The export of the notice list

`/notices/export.csv` writes the notices of a list as comma-separated text. Whoever reads the text back
by the names of its columns gets the cells of every notice that the pages of the list show, in their
order, provided that no cell is longer than a reader takes.
-/

namespace TenderPhase1.Notices

open PyText Sources Crawler OrderedRows Csv

/-! ## Writing the file -/

section Export

/- `moment.isoformat()`, and `format(amount, "f")` for an amount in the text of its column -/
variable (isoformat : DateTime → String) (formatFixed : String → String)

def exportHeaders : List String :=
  ["id", "source_code", "title", "notice_type", "issuer", "region", "published_at", "deadline_at", "budget_amount",
    "current_version_id"]

def exportCsvDatetime (value : Option DateTime) : String := (value.map isoformat).getD ""

def exportCsvDecimal (value : Option String) : String := (value.map formatFixed).getD ""

def exportRow (item : NoticeListItemRecord) : List String :=
  [textOfInt item.id, item.sourceCode, item.title, item.noticeType, item.issuer.getD "", item.region.getD "",
    exportCsvDatetime isoformat item.publishedAt, exportCsvDatetime isoformat item.deadlineAt,
    exportCsvDecimal formatFixed item.budgetAmount, (item.currentVersionId.map fun id : ℕ ↦ textOfInt id).getD ""]

def exportTable (items : List NoticeListItemRecord) : List (List String) :=
  exportHeaders :: items.map (exportRow isoformat formatFixed)

def exportText (items : List NoticeListItemRecord) : String :=
  String.ofList (writeRows ((exportTable isoformat formatFixed items).map (List.map String.toList)))

def exportNoticesCsv (engine : Engine) (db : NoticeDb) (now : DateTime) (filters : NoticeQueryFilters) (dedup : Bool)
    (sortBy sortOrder : String) (reading : Scan) : Except PyError String :=
  (listNoticesForExport engine db now filters dedup sortBy sortOrder reading).map (exportText isoformat formatFixed)

/-! ## Reading the file -/

abbrev CsvRecord := List (String × String)

/-- `list(csv.DictReader(StringIO(text)))`, for rows that are as long as the first one; rows without fields
are skipped after the first one. -/
def dictReader (limit : ℕ) (text : String) : Except CsvError (List CsvRecord) :=
  (readRows limit text.toList).map fun rows ↦
    match rows.map (List.map String.ofList) with
    | [] => []
    | fieldNames :: records => (records.filter (· ≠ [])).map fieldNames.zip

/-- `int(record["id"])` -/
def readId (record : CsvRecord) : Option ℤ := (record.lookup "id").bind intOfText

end Export

variable {isoformat : DateTime → String} {formatFixed : String → String} {engine : Engine} {dedup : Bool}
  {sortBy sortOrder : String} {rows : List NoticeRow}

def exportRecord (isoformat : DateTime → String) (formatFixed : String → String) (item : NoticeListItemRecord) :
    CsvRecord := exportHeaders.zip (exportRow isoformat formatFixed item)

@[simp]
theorem readId_exportRecord (item : NoticeListItemRecord) :
    readId (exportRecord isoformat formatFixed item) = some (item.id : ℤ) := by
  have hid : (exportRecord isoformat formatFixed item).lookup "id" = some (textOfInt item.id) := rfl
  rw [readId, hid, Option.bind_some, intOfText_textOfInt]

theorem map_readId (items : List NoticeListItemRecord) :
    (items.map (exportRecord isoformat formatFixed)).map readId = items.map fun item ↦ some (item.id : ℤ) := by
  simp only [List.map_map, Function.comp_def, readId_exportRecord]

/-- No cell of the file is longer than the limit. -/
def ReadableCells (isoformat : DateTime → String) (formatFixed : String → String) (limit : ℕ)
    (items : List NoticeListItemRecord) : Prop :=
  ∀ row ∈ exportTable isoformat formatFixed items, ∀ cell ∈ row, cell.toList.length ≤ limit

instance (limit : ℕ) (items : List NoticeListItemRecord) :
    Decidable (ReadableCells isoformat formatFixed limit items) :=
  inferInstanceAs (Decidable (∀ row ∈ exportTable isoformat formatFixed items, ∀ cell ∈ row,
    cell.toList.length ≤ limit))

/-- A file is read back where no cell is too long, and not at all where one is. -/
theorem dictReader_exportText (limit : ℕ) (items : List NoticeListItemRecord) :
    dictReader limit (exportText isoformat formatFixed items) =
      if ReadableCells isoformat formatFixed limit items then
        .ok (items.map (exportRecord isoformat formatFixed))
      else .error .fieldLimit := by
  have hcells : (∀ row ∈ (exportTable isoformat formatFixed items).map (List.map String.toList),
        ∀ field ∈ row, field.length ≤ limit) ↔ ReadableCells isoformat formatFixed limit items := by
    unfold ReadableCells
    simp only [List.forall_mem_map]
  have htable : ((exportTable isoformat formatFixed items).map (List.map String.toList)).map (List.map String.ofList) =
      exportTable isoformat formatFixed items := by
    rw [List.map_map]
    refine (List.map_congr_left fun row _ ↦ ?_).trans (List.map_id _)
    rw [Function.comp_apply, List.map_map]
    exact (List.map_congr_left fun cell _ ↦ String.ofList_toList).trans (List.map_id _)
  have hrows : (items.map (exportRow isoformat formatFixed)).filter (· ≠ []) =
      items.map (exportRow isoformat formatFixed) := by
    refine List.filter_eq_self.mpr fun row hrow ↦ decide_eq_true ?_
    obtain ⟨item, -, rfl⟩ := List.mem_map.mp hrow
    exact List.cons_ne_nil _ _
  rw [dictReader, exportText, String.toList_ofList, readRows_writeRows, if_congr hcells rfl rfl]
  by_cases hreadable : ReadableCells isoformat formatFixed limit items
  · rw [if_pos hreadable, if_pos hreadable, Except.map, htable]
    simp only [exportTable, hrows, List.map_map]
    rfl
  · rw [if_neg hreadable, if_neg hreadable]
    rfl

/-! ## The file and the pages -/

/-- The cells of the file are those of filtered rows. -/
theorem toNoticeRow_mem_of_mem_exportList {item : NoticeListItemRecord}
    (h : item ∈ exportList engine dedup sortBy sortOrder rows) : item.toNoticeRow ∈ rows := by
  obtain ⟨row, hrow, rfl⟩ := List.mem_map.mp h
  exact mem_of_mem_listRows (orderBy_perm.mem_iff.mp hrow)

section Pages

variable (db : NoticeDb) (now : DateTime) (filters : NoticeQueryFilters)

/-- The pages one after the other are the export. -/
theorem flatMap_items_eq {limit n : ℕ} {counting reading : ℕ → Scan} {pages : ℕ → NoticeListResult}
    (h : baseRows engine db now filters = .ok rows)
    (hpages : ∀ i, listNotices engine db now filters dedup sortBy sortOrder limit (i * limit) (counting i) (reading i) =
      .ok (pages i))
    (hn : (pages 0).total ≤ n * limit) :
    (List.range n).flatMap (fun i ↦ (pages i).items) = exportList engine dedup sortBy sortOrder rows := by
  have hpage : ∀ i, pages i = _ := fun i ↦
    Except.ok.inj ((hpages i).symm.trans (listNotices_eq h limit (i * limit) (counting i) (reading i)))
  have hitems : (fun i ↦ (pages i).items) =
      fun i ↦ page limit (i * limit) (exportList engine dedup sortBy sortOrder rows) := by
    funext i
    rw [hpage i]
  have htotal : (exportList engine dedup sortBy sortOrder rows).length ≤ n * limit := by
    rw [hpage 0] at hn
    exact hn
  rw [hitems, flatMap_page, List.take_of_length_le htotal]

variable (engine) (sortBy sortOrder) (isoformat) (formatFixed)

/-- There is a file exactly where there are pages. It is read back as the records of all the notices that the
pages show, in their order and under their ids, or with an error where a cell is too long for the reader. -/
theorem exportNoticesCsv_readBack (dedup : Bool) (exporting : Scan) :
    match baseRows engine db now filters with
    | .error error =>
        exportNoticesCsv isoformat formatFixed engine db now filters dedup sortBy sortOrder exporting = .error error ∧
          ∀ limit offset counting reading,
            listNotices engine db now filters dedup sortBy sortOrder limit offset counting reading = .error error
    | .ok _ => ∃ text,
        exportNoticesCsv isoformat formatFixed engine db now filters dedup sortBy sortOrder exporting = .ok text ∧
          ∀ limit, 1 ≤ limit → ∀ counting reading : ℕ → Scan, ∃ pages : ℕ → NoticeListResult,
            (∀ i, listNotices engine db now filters dedup sortBy sortOrder limit (i * limit) (counting i) (reading i) =
              .ok (pages i)) ∧
            ∀ n, (pages 0).total ≤ n * limit →
              let shown := (List.range n).flatMap fun i ↦ (pages i).items
              let records := shown.map (exportRecord isoformat formatFixed)
              records.map readId = shown.map (fun item ↦ some (item.id : ℤ)) ∧
                ∀ fieldLimit, dictReader fieldLimit text =
                  if ReadableCells isoformat formatFixed fieldLimit shown then .ok records else .error .fieldLimit := by
  cases hrows : baseRows engine db now filters with
  | error error =>
    constructor
    · rw [exportNoticesCsv, listNoticesForExport, buildListQuery_eq_error hrows]
      rfl
    · intro limit offset counting reading
      rw [listNotices, buildListQuery_eq_error hrows]
      rfl
  | ok rows =>
    refine ⟨exportText isoformat formatFixed (exportList engine dedup sortBy sortOrder rows), ?_, ?_⟩
    · rw [exportNoticesCsv, listNoticesForExport_eq hrows]
      rfl
    · intro limit hlimit counting reading
      have hpages : ∀ i, listNotices engine db now filters dedup sortBy sortOrder limit (i * limit) (counting i)
          (reading i) = _ := fun i ↦ listNotices_eq hrows limit (i * limit) (counting i) (reading i)
      refine ⟨_, hpages, ?_⟩
      intro n hn
      refine ⟨map_readId _, fun fieldLimit ↦ ?_⟩
      rw [flatMap_items_eq db now filters hrows hpages hn]
      exact dictReader_exportText fieldLimit _

end Pages

/-- Three notices on two pages, none of them folded: a reader with Python's limit reads the ids of both pages. -/
theorem exportNoticesCsv_readBack_duplicates :
    ∃ text first second records,
      exportNoticesCsv (fun _ ↦ "") id plainEngine duplicatesDb ⟨0, some 0⟩ {} false "source_name" "asc" plainScan =
        .ok text ∧
      listNotices plainEngine duplicatesDb ⟨0, some 0⟩ {} false "source_name" "asc" 2 0 plainScan plainScan =
        .ok first ∧
      listNotices plainEngine duplicatesDb ⟨0, some 0⟩ {} false "source_name" "asc" 2 2 plainScan plainScan =
        .ok second ∧
      dictReader 131072 text = .ok records ∧ records.length = 3 ∧
      records.map readId = (first.items ++ second.items).map fun item ↦ some (item.id : ℤ) := by
  let rows := duplicatesDb.notices.map fun notice ↦
    noticeRow duplicatesDb ⟨-86400000000, some 0⟩ { id := 1, code := "s", name := "S", baseUrl := "" } notice
  have hrows : baseRows plainEngine duplicatesDb ⟨0, some 0⟩ {} = .ok rows := by decide +kernel
  have hexport := exportNoticesCsv_readBack (fun _ ↦ "") id plainEngine "source_name" "asc" duplicatesDb ⟨0, some 0⟩ {}
    false plainScan
  simp only [hrows] at hexport
  obtain ⟨text, htext, hpages⟩ := hexport
  obtain ⟨pages, hlist, hread⟩ := hpages 2 (by decide) (fun _ ↦ plainScan) fun _ ↦ plainScan
  have hlength : (exportList plainEngine false "source_name" "asc" rows).length = 3 :=
    (List.length_map _).symm.trans (exportList_unfolded_perm plainEngine "source_name" "asc" rows).length_eq
  have htotal : (pages 0).total = 3 := by
    have hpage := Except.ok.inj ((hlist 0).symm.trans (listNotices_eq hrows 2 (0 * 2) plainScan plainScan))
    rw [hpage]
    exact hlength
  have hn : (pages 0).total ≤ 2 * 2 := htotal.trans_le (by decide)
  have hshown := flatMap_items_eq duplicatesDb ⟨0, some 0⟩ {} hrows hlist hn
  have hitems : (pages 0).items ++ (pages 1).items = exportList plainEngine false "source_name" "asc" rows := by
    simpa [List.range_succ] using hshown
  have hcells : ReadableCells (fun _ ↦ "") id 131072 (exportList plainEngine false "source_name" "asc" rows) := by
    have hheaders : ∀ cell ∈ exportHeaders, cell.toList.length ≤ 131072 := by decide
    have hrow : ∀ row ∈ rows, ∀ cell ∈ exportRow (fun _ ↦ "") id ⟨row, 0⟩, cell.toList.length ≤ 131072 := by
      decide +kernel
    intro row hmem
    rcases List.mem_cons.mp hmem with rfl | hmem
    · exact hheaders
    · obtain ⟨item, hitem, rfl⟩ := List.mem_map.mp hmem
      exact hrow item.toNoticeRow (toNoticeRow_mem_of_mem_exportList hitem)
  obtain ⟨hids, hrecords⟩ := hread 2 hn
  rw [hshown] at hids hrecords
  refine ⟨text, pages 0, pages 1, _, htext, hlist 0, hlist 1, (hrecords 131072).trans (if_pos hcells), ?_, ?_⟩
  · rw [List.length_map, hlength]
  · rw [hids, hitems]

end TenderPhase1.Notices
