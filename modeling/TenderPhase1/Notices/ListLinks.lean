import TenderPhase1.Crawler.PublishedDates
import TenderPhase1.Foundation.PyNumber
import TenderPhase1.Foundation.QueryParams
import TenderPhase1.Notices.ListLaw

/-!
# The links of the notice list

The admin page of the list links to its neighbours and to the exports of what it shows. A link is text and the
request behind it is read out of that text again, so that a user who clicks through the pages sees the list of the
export exactly when no parameter gets lost on the way.
-/

namespace TenderPhase1.Notices

open PyText Sources Crawler Calendar OrderedRows QueryParams

/-! ## Requests -/

inductive NoticeType where
  | announcement
  | change
  | result
  deriving DecidableEq, Repr

def NoticeType.value : NoticeType → String
  | .announcement => "announcement"
  | .change => "change"
  | .result => "result"

def NoticeType.ofValue (text : String) : Option NoticeType :=
  [announcement, change, result].find? (·.value = text)

/-- The parameters of `admin_notices_list`, within their bounds -/
structure NoticeListRequest where
  keyword : Option String := none
  sourceCode : Option String := none
  noticeType : Option NoticeType := none
  region : Option String := none
  recentHours : Option ℤ := none
  dateFrom : Option CalendarDate := none
  dateTo : Option CalendarDate := none
  dedup : Bool := true
  sortBy : String := "published_at"
  sortOrder : String := "desc"
  limit : ℕ := 50
  offset : ℕ := 0
  recentHours_range : ∀ hours ∈ recentHours, 1 ≤ hours ∧ hours ≤ 720 := by simp
  limit_range : 1 ≤ limit ∧ limit ≤ 200 := by decide

/-- How a parameter is read as a number, a date or a truth value; a number with too many digits is refused. -/
structure QueryReader where
  readInt : String → Option ℤ
  readDate : String → Option CalendarDate
  readBool : String → Option Bool
  readInt_textOfInt : ∀ number, (writeInt number).isSome → readInt (textOfInt number) = some number
  readDate_isoformat : ∀ date : CalendarDate, readDate date.isoformat = some date
  readBool_false : readBool "false" = some false

/-- A parameter with a default of `None`; `none` where its text cannot be read. -/
def readOptional {Value : Type} (read : String → Option Value) (params : List (String × String)) (name : String) :
    Option (Option Value) :=
  match lastValue params name with
  | none => some none
  | some text => (read text).map some

/-- The request with these parameters, where the endpoint takes it -/
def readRequest (reader : QueryReader) (params : List (String × String)) : Option NoticeListRequest := do
  let noticeType ← readOptional NoticeType.ofValue params "notice_type"
  let recentHours ← readOptional reader.readInt params "recent_hours"
  let dateFrom ← readOptional reader.readDate params "date_from"
  let dateTo ← readOptional reader.readDate params "date_to"
  let dedup ← readOptional reader.readBool params "dedup"
  let limit ← readOptional reader.readInt params "limit"
  let offset ← readOptional reader.readInt params "offset"
  if h : (∀ hours ∈ recentHours, 1 ≤ hours ∧ hours ≤ 720) ∧
      (1 ≤ (limit.getD 50).toNat ∧ (limit.getD 50).toNat ≤ 200) ∧ 0 ≤ offset.getD 0 then
    some {
      keyword := lastValue params "keyword"
      sourceCode := lastValue params "source_code"
      noticeType := noticeType
      region := lastValue params "region"
      recentHours := recentHours
      dateFrom := dateFrom
      dateTo := dateTo
      dedup := dedup.getD true
      sortBy := (lastValue params "sort_by").getD "published_at"
      sortOrder := (lastValue params "sort_order").getD "desc"
      limit := (limit.getD 50).toNat
      offset := (offset.getD 0).toNat
      recentHours_range := h.1
      limit_range := h.2.1 }
  else none

/-! ## Links -/

section Links

variable (request : NoticeListRequest)

/-- The parameters that the list and its exports share -/
def NoticeListRequest.sharedQuery : List (String × Option String) :=
  [("keyword", request.keyword), ("source_code", request.sourceCode),
    ("notice_type", request.noticeType.map NoticeType.value), ("region", request.region),
    ("recent_hours", request.recentHours.map textOfInt), ("date_from", request.dateFrom.map CalendarDate.isoformat),
    ("date_to", request.dateTo.map CalendarDate.isoformat), ("dedup", if request.dedup then none else some "false"),
    ("sort_by", some request.sortBy), ("sort_order", some request.sortOrder)]

/-- `_admin_list_url` over the `common_query` of a request -/
def NoticeListRequest.adminListUrl (offset : ℕ) : String :=
  "/admin/notices" ++ "?" ++ urlencodeText (clean
    (request.sharedQuery ++ [("limit", some (textOfInt request.limit)), ("offset", some (textOfInt offset))]))

def NoticeListRequest.noticeExportUrl (ext : String) : String :=
  linkTo ("/notices/export." ++ ext) (clean request.sharedQuery)

def NoticeListRequest.prevUrl : Option String :=
  if 0 < request.offset then some (request.adminListUrl (request.offset - request.limit)) else none

def NoticeListRequest.nextUrl (total : ℕ) : Option String :=
  if request.offset + request.limit < total then some (request.adminListUrl (request.offset + request.limit)) else none

def NoticeListRequest.cleaned : NoticeListRequest :=
  { request with
    keyword := request.keyword.filter (· ≠ "")
    sourceCode := request.sourceCode.filter (· ≠ "")
    region := request.region.filter (· ≠ "")
    sortBy := ((some request.sortBy).filter (· ≠ "")).getD "published_at"
    sortOrder := ((some request.sortOrder).filter (· ≠ "")).getD "desc" }

end Links

/-! ## Reading a link -/

theorem isoformat_ne_empty (date : CalendarDate) : date.isoformat ≠ "" := by
  intro hempty
  have hchars : date.toIsoDate.isoChars = [] := by
    rw [← IsoDates.IsoDate.toList_isoformat, ← CalendarDate.isoformat, hempty]
    rfl
  have hlength := IsoTexts.length_isoChars date.toIsoDate
  rw [hchars] at hlength
  cases hlength

theorem ofValue_value (noticeType : NoticeType) : NoticeType.ofValue noticeType.value = some noticeType := by
  cases noticeType <;> decide +kernel

section Reading

variable {reader : QueryReader} {request : NoticeListRequest} {entries rest : List (String × Option String)}
  {name : String}

/-- A parameter that has been written is read back. -/
theorem readOptional_clean {Value : Type} {read : String → Option Value} {write : Value → String} {value : Option Value}
    (hnames : (entries.map Prod.fst).Nodup) (h : (name, value.map write) ∈ entries)
    (hread : ∀ written ∈ value, read (write written) = some written) (hwrite : ∀ value, write value ≠ "") :
    readOptional read (clean entries) name = some value := by
  rw [readOptional, lastValue_clean hnames h]
  cases value with
  | none => rfl
  | some value =>
    rw [Option.map_some, filter_of_ne_empty (hwrite value)]
    dsimp only
    rw [hread value rfl, Option.map_some]

/-- A number of recent hours is short enough to be read back. -/
theorem readInt_recentHours (request : NoticeListRequest) :
    ∀ hours ∈ request.recentHours, reader.readInt (textOfInt hours) = some hours := by
  intro hours hhours
  obtain ⟨hleast, hmost⟩ := request.recentHours_range hours hhours
  obtain ⟨number, rfl⟩ := Int.eq_ofNat_of_zero_le (a := hours) (by omega)
  have hlarge : (writeInt (720 : ℕ)).isSome := by decide
  exact reader.readInt_textOfInt _ (isSome_writeInt_of_le (by omega) hlarge)

theorem readOptional_of_notMem {Value : Type} {read : String → Option Value} (h : name ∉ entries.map Prod.fst) :
    readOptional read (clean entries) name = some none := by
  rw [readOptional, lastValue_clean_of_notMem h]

theorem readOptional_dedup (hnames : (entries.map Prod.fst).Nodup)
    (h : ("dedup", if request.dedup then none else some "false") ∈ entries) :
    (readOptional reader.readBool (clean entries) "dedup").map (·.getD true) = some request.dedup := by
  rw [readOptional, lastValue_clean hnames h]
  cases request.dedup with
  | true => rfl
  | false =>
    change (Option.map (fun value : Option Bool ↦ value.getD true) ((reader.readBool "false").map some)) = _
    rw [reader.readBool_false]
    rfl

/-- What is read from the shared parameters and a limit and an offset. -/
theorem readRequest_clean {limit offset : Option ℤ} (hnames : ((request.sharedQuery ++ rest).map Prod.fst).Nodup)
    (hlimit : readOptional reader.readInt (clean (request.sharedQuery ++ rest)) "limit" = some limit)
    (hoffset : readOptional reader.readInt (clean (request.sharedQuery ++ rest)) "offset" = some offset)
    (hlimitRange : 1 ≤ (limit.getD 50).toNat ∧ (limit.getD 50).toNat ≤ 200) (hoffsetRange : 0 ≤ offset.getD 0) :
    readRequest reader (clean (request.sharedQuery ++ rest)) =
      some { request.cleaned with
        limit := (limit.getD 50).toNat
        offset := (offset.getD 0).toNat
        limit_range := hlimitRange } := by
  have hmem {entry : String × Option String} (h : entry ∈ request.sharedQuery) : entry ∈ request.sharedQuery ++ rest :=
    List.mem_append_left _ h
  have hnoticeType : readOptional NoticeType.ofValue (clean (request.sharedQuery ++ rest)) "notice_type" =
      some request.noticeType := by
    refine readOptional_clean hnames (hmem ?_) (fun noticeType _ ↦ ofValue_value noticeType) fun noticeType ↦ ?_
    · simp [NoticeListRequest.sharedQuery]
    · cases noticeType <;> decide
  have hrecentHours : readOptional reader.readInt (clean (request.sharedQuery ++ rest)) "recent_hours" =
      some request.recentHours := by
    refine readOptional_clean hnames (hmem ?_) (readInt_recentHours request) textOfInt_ne_empty
    simp [NoticeListRequest.sharedQuery]
  have hdateFrom : readOptional reader.readDate (clean (request.sharedQuery ++ rest)) "date_from" =
      some request.dateFrom := by
    refine readOptional_clean hnames (hmem ?_) (fun date _ ↦ reader.readDate_isoformat date) isoformat_ne_empty
    simp [NoticeListRequest.sharedQuery]
  have hdateTo : readOptional reader.readDate (clean (request.sharedQuery ++ rest)) "date_to" =
      some request.dateTo := by
    refine readOptional_clean hnames (hmem ?_) (fun date _ ↦ reader.readDate_isoformat date) isoformat_ne_empty
    simp [NoticeListRequest.sharedQuery]
  have htext {name : String} {value : Option String} (h : (name, value) ∈ request.sharedQuery) :
      lastValue (clean (request.sharedQuery ++ rest)) name = value.filter (· ≠ "") :=
    lastValue_clean hnames (hmem h)
  have hkeyword : ("keyword", request.keyword) ∈ request.sharedQuery := by simp [NoticeListRequest.sharedQuery]
  have hsourceCode : ("source_code", request.sourceCode) ∈ request.sharedQuery := by
    simp [NoticeListRequest.sharedQuery]
  have hregion : ("region", request.region) ∈ request.sharedQuery := by simp [NoticeListRequest.sharedQuery]
  have hsortBy : ("sort_by", some request.sortBy) ∈ request.sharedQuery := by simp [NoticeListRequest.sharedQuery]
  have hsortOrder : ("sort_order", some request.sortOrder) ∈ request.sharedQuery := by
    simp [NoticeListRequest.sharedQuery]
  have hdedup : (readOptional reader.readBool (clean (request.sharedQuery ++ rest)) "dedup").map (·.getD true) =
      some request.dedup :=
    readOptional_dedup hnames (hmem (by simp [NoticeListRequest.sharedQuery]))
  obtain ⟨dedup, hdedup, hdedupValue⟩ := Option.map_eq_some_iff.mp hdedup
  unfold readRequest
  rw [hnoticeType, hrecentHours, hdateFrom, hdateTo, hdedup, hlimit, hoffset, htext hkeyword, htext hsourceCode,
    htext hregion, htext hsortBy, htext hsortOrder]
  simp only [bind, Option.bind_some]
  rw [dif_pos ⟨request.recentHours_range, hlimitRange, hoffsetRange⟩, hdedupValue]
  rfl

/-- A link to a page reads back as the same list at that offset. -/
theorem readRequest_adminListUrl (request : NoticeListRequest) {offset : ℕ} (hwritten : (writeInt offset).isSome) :
    readRequest reader (paramsOf (request.adminListUrl offset)) = some { request.cleaned with offset := offset } := by
  let rest : List (String × Option String) :=
    [("limit", some (textOfInt request.limit)), ("offset", some (textOfInt offset))]
  have hpath : '?' ∉ "/admin/notices".toList := by decide
  have hnames : ((request.sharedQuery ++ rest).map Prod.fst).Nodup := by
    change ["keyword", "source_code", "notice_type", "region", "recent_hours", "date_from", "date_to", "dedup",
      "sort_by", "sort_order", "limit", "offset"].Nodup
    decide
  have hlimit : readOptional reader.readInt (clean (request.sharedQuery ++ rest)) "limit" =
      some (some (request.limit : ℤ)) := by
    have hread : reader.readInt (textOfInt request.limit) = some (request.limit : ℤ) :=
      reader.readInt_textOfInt _ (isSome_writeInt_of_le request.limit_range.2 (by decide))
    refine readOptional_clean hnames ?_ (fun _ hlimit ↦ Option.some.inj hlimit ▸ hread) textOfInt_ne_empty
    simp [rest]
  have hoffset : readOptional reader.readInt (clean (request.sharedQuery ++ rest)) "offset" =
      some (some (offset : ℤ)) := by
    have hread : reader.readInt (textOfInt offset) = some (offset : ℤ) := reader.readInt_textOfInt _ hwritten
    refine readOptional_clean hnames ?_ (fun _ hoffset ↦ Option.some.inj hoffset ▸ hread) textOfInt_ne_empty
    simp [rest]
  rw [NoticeListRequest.adminListUrl, paramsOf_query hpath]
  exact readRequest_clean hnames hlimit hoffset request.limit_range (Int.natCast_nonneg offset)

/-- A link to an export reads back as the same list. -/
theorem readRequest_noticeExportUrl (request : NoticeListRequest) {ext : String} (hext : '?' ∉ ext.toList) :
    readRequest reader (paramsOf (request.noticeExportUrl ext)) =
      some { request.cleaned with limit := 50, offset := 0, limit_range := by decide } := by
  have hpath : '?' ∉ ("/notices/export." ++ ext).toList := by
    rw [String.toList_append, List.mem_append]
    exact not_or.mpr ⟨by decide, hext⟩
  have hnames : ((request.sharedQuery ++ []).map Prod.fst).Nodup := by
    change ["keyword", "source_code", "notice_type", "region", "recent_hours", "date_from", "date_to", "dedup",
      "sort_by", "sort_order"].Nodup
    decide
  have hmissing {name : String} (hname : name ∉ (request.sharedQuery ++ []).map Prod.fst) :
      readOptional reader.readInt (clean (request.sharedQuery ++ [])) name = some none :=
    readOptional_of_notMem hname
  have hlimit : "limit" ∉ (request.sharedQuery ++ []).map Prod.fst := by
    change "limit" ∉ ["keyword", "source_code", "notice_type", "region", "recent_hours", "date_from", "date_to", "dedup",
      "sort_by", "sort_order"]
    decide
  have hoffset : "offset" ∉ (request.sharedQuery ++ []).map Prod.fst := by
    change "offset" ∉ ["keyword", "source_code", "notice_type", "region", "recent_hours", "date_from", "date_to", "dedup",
      "sort_by", "sort_order"]
    decide
  rw [NoticeListRequest.noticeExportUrl, paramsOf_linkTo hpath, ← List.append_nil request.sharedQuery]
  exact readRequest_clean hnames (hmissing hlimit) (hmissing hoffset) (by decide) (by decide)

end Reading

/-! ## The list of a request -/

section Lists

variable (engine : Engine) (db : NoticeDb) (now : DateTime) (request : NoticeListRequest)

/-- The filters that the service passes on; a date is a number of days since 1970-01-01. -/
def NoticeListRequest.filters : NoticeQueryFilters where
  keyword := request.keyword
  sourceCode := request.sourceCode
  noticeType := request.noticeType.map NoticeType.value
  region := request.region
  recentHours := request.recentHours
  dateFrom := request.dateFrom.map fun date ↦ (date.number : ℤ) - epochNumber
  dateTo := request.dateTo.map fun date ↦ (date.number : ℤ) - epochNumber

/-- `NoticeQueryService.list_notices` -/
def NoticeListRequest.list (counting reading : Scan) : Except PyError NoticeListResult :=
  listNotices engine db now request.filters request.dedup (normalizeSortBy request.sortBy)
    (normalizeSortOrder request.sortOrder) request.limit request.offset counting reading

/-- `NoticeQueryService.list_notices_for_export` -/
def NoticeListRequest.listForExport (reading : Scan) : Except PyError (List NoticeListItemRecord) :=
  listNoticesForExport engine db now request.filters request.dedup (normalizeSortBy request.sortBy)
    (normalizeSortOrder request.sortOrder) reading

variable (reader : QueryReader) (counting reading : ℕ → Scan)

/-- The notices a user sees who opens a page and clicks on the next link until there is none, `clicks` pages at most.
Every page is read by statements of its own. A link that the endpoint does not take ends the list. -/
def clickThrough : ℕ → NoticeListRequest → Except PyError (List NoticeListItemRecord)
  | 0, _ => .ok []
  | clicks + 1, request => do
    let result ← request.list engine db now (counting clicks) (reading clicks)
    match (request.nextUrl result.total).bind fun url ↦ readRequest reader (paramsOf url) with
    | none => return result.items
    | some next => return result.items ++ (← clickThrough clicks next)

/-- The notices a user sees who goes back by the previous links until there is none, `clicks` pages at most, in the
order of the list -/
def clickBack : ℕ → NoticeListRequest → Except PyError (List NoticeListItemRecord)
  | 0, _ => .ok []
  | clicks + 1, request =>
    match request.prevUrl.bind fun url ↦ readRequest reader (paramsOf url) with
    | none => .ok []
    | some previous => do
      let result ← previous.list engine db now (counting clicks) (reading clicks)
      return (← clickBack clicks previous) ++ result.items

end Lists

section Cleaned

variable {engine : Engine} {db : NoticeDb} {now : DateTime} {request : NoticeListRequest}

theorem matchesText_filter (filter column : Option String) :
    matchesText (filter.filter (· ≠ "")) column = matchesText filter column := by
  cases filter with
  | none => rfl
  | some text =>
    by_cases hempty : text = ""
    · rw [hempty]
      rfl
    · rw [filter_of_ne_empty hempty]

theorem getD_filter (text : Option String) : (text.filter (· ≠ "")).getD "" = text.getD "" := by
  cases text with
  | none => rfl
  | some text =>
    by_cases hempty : text = ""
    · rw [hempty]
      rfl
    · rw [filter_of_ne_empty hempty]

/-- A blank text filters nothing. -/
theorem keeps_cleaned (recentStart : Option DateTime) (source : SourceSite) (notice : Timestamped TenderNotice) :
    request.cleaned.filters.keeps engine db recentStart source notice =
      request.filters.keeps engine db recentStart source notice := by
  simp only [NoticeQueryFilters.keeps, NoticeListRequest.cleaned, NoticeListRequest.filters, getD_filter,
    matchesText_filter]
  rfl

theorem baseRows_cleaned : baseRows engine db now request.cleaned.filters = baseRows engine db now request.filters := by
  unfold baseRows
  simp only [keeps_cleaned]
  rfl

theorem normalizeSortBy_cleaned : normalizeSortBy request.cleaned.sortBy = normalizeSortBy request.sortBy := by
  by_cases hempty : request.sortBy = ""
  · have hcleaned : request.cleaned.sortBy = "published_at" := by
      rw [NoticeListRequest.cleaned, hempty]
      rfl
    rw [hcleaned, hempty]
    decide
  · have hcleaned : request.cleaned.sortBy = request.sortBy := by
      change ((some _).filter (· ≠ "")).getD _ = _
      rw [filter_of_ne_empty hempty, Option.getD_some]
    rw [hcleaned]

theorem normalizeSortOrder_cleaned :
    normalizeSortOrder request.cleaned.sortOrder = normalizeSortOrder request.sortOrder := by
  by_cases hempty : request.sortOrder = ""
  · have hcleaned : request.cleaned.sortOrder = "desc" := by
      rw [NoticeListRequest.cleaned, hempty]
      rfl
    rw [hcleaned, hempty]
    decide
  · have hcleaned : request.cleaned.sortOrder = request.sortOrder := by
      change ((some _).filter (· ≠ "")).getD _ = _
      rw [filter_of_ne_empty hempty, Option.getD_some]
    rw [hcleaned]

end Cleaned

/-! ## Clicking through -/

/-- The notices behind a request, page by page and in the export. -/
structure ListsAs (engine : Engine) (db : NoticeDb) (now : DateTime) (request : NoticeListRequest)
    (items : List NoticeListItemRecord) : Prop where
  rows : ∃ rows, baseRows engine db now request.filters = .ok rows ∧
    exportList engine request.dedup (normalizeSortBy request.sortBy) (normalizeSortOrder request.sortOrder) rows = items

section Clicks

variable {engine : Engine} {db : NoticeDb} {now : DateTime} {request other : NoticeListRequest}
  {items : List NoticeListItemRecord} {reader : QueryReader} {counting reading : ℕ → Scan}

theorem ListsAs.list_eq (h : ListsAs engine db now request items) (counting reading : Scan) :
    request.list engine db now counting reading = .ok
        { items := page request.limit request.offset items, total := items.length, limit := request.limit,
          offset := request.offset } := by
  obtain ⟨rows, hrows, rfl⟩ := h.rows
  exact listNotices_eq hrows request.limit request.offset counting reading

theorem ListsAs.listForExport_eq (h : ListsAs engine db now request items) (reading : Scan) :
    request.listForExport engine db now reading = .ok items := by
  obtain ⟨rows, hrows, rfl⟩ := h.rows
  exact listNoticesForExport_eq hrows reading

/-- The requests of the links list the same notices. -/
theorem ListsAs.cleaned (h : ListsAs engine db now request items) (hfilters : other.filters = request.cleaned.filters)
    (hdedup : other.dedup = request.dedup) (hsortBy : other.sortBy = request.cleaned.sortBy)
    (hsortOrder : other.sortOrder = request.cleaned.sortOrder) : ListsAs engine db now other items := by
  obtain ⟨rows, hrows, hitems⟩ := h.rows
  refine ⟨rows, ?_, ?_⟩
  · rw [hfilters, baseRows_cleaned, hrows]
  · rw [hdedup, hsortBy, hsortOrder, normalizeSortBy_cleaned, normalizeSortOrder_cleaned, hitems]

/-- The rows behind a request are some of the notices. -/
theorem ListsAs.length_le (h : ListsAs engine db now request items) : items.length ≤ db.notices.length := by
  obtain ⟨rows, hrows, rfl⟩ := h.rows
  exact length_exportList_le.trans (length_baseRows_le hrows)

/-- From any page the next links lead through the rest of the list. -/
theorem clickThrough_eq_drop {clicks : ℕ} (hwritten : (writeInt db.notices.length).isSome)
    (h : ListsAs engine db now request items) (hclicks : 0 < clicks)
    (hlength : items.length ≤ request.offset + clicks * request.limit) :
    clickThrough engine db now reader counting reading clicks request = .ok (items.drop request.offset) := by
  induction clicks generalizing request with
  | zero => exact absurd hclicks (lt_irrefl 0)
  | succ clicks ih =>
    rw [clickThrough, h.list_eq, Jobs.ok_bind]
    by_cases hnext : request.offset + request.limit < items.length
    · have hread : (request.nextUrl items.length).bind (fun url ↦ readRequest reader (paramsOf url)) =
          some { request.cleaned with offset := request.offset + request.limit } := by
        have hshort : (writeInt (request.offset + request.limit : ℕ)).isSome :=
          isSome_writeInt_of_le (hnext.le.trans h.length_le) hwritten
        rw [NoticeListRequest.nextUrl, if_pos hnext, Option.bind_some, readRequest_adminListUrl request hshort]
      have hmore : 0 < clicks := by
        rcases Nat.eq_zero_or_pos clicks with rfl | hpos
        · omega
        · exact hpos
      have hsplit : request.offset + (clicks + 1) * request.limit =
          request.offset + request.limit + clicks * request.limit := by
        rw [Nat.succ_mul]
        omega
      have hrest : clickThrough engine db now reader counting reading clicks
          { request.cleaned with offset := request.offset + request.limit } =
            .ok (items.drop (request.offset + request.limit)) :=
        ih (h.cleaned rfl rfl rfl rfl) hmore (hsplit ▸ hlength)
      dsimp only
      rw [hread]
      dsimp only
      rw [hrest, Jobs.ok_bind, page, ← List.drop_drop, List.take_append_drop]
      rfl
    · have hread : (request.nextUrl items.length).bind (fun url ↦ readRequest reader (paramsOf url)) = none := by
        rw [NoticeListRequest.nextUrl, if_neg hnext, Option.bind_none]
      have hrest : (items.drop request.offset).length ≤ request.limit := by
        rw [List.length_drop]
        omega
      dsimp only
      rw [hread]
      dsimp only
      rw [page, List.take_of_length_le hrest]
      rfl

/-- From a page the previous links lead back through the pages before it. -/
theorem clickBack_eq_take {clicks pages : ℕ} (hwritten : (writeInt request.offset).isSome)
    (h : ListsAs engine db now request items) (hoffset : request.offset = pages * request.limit)
    (hclicks : pages ≤ clicks) :
    clickBack engine db now reader counting reading clicks request = .ok (items.take request.offset) := by
  induction pages generalizing request clicks with
  | zero =>
    rw [Nat.zero_mul] at hoffset
    have hprev : request.prevUrl = none := if_neg (by omega)
    cases clicks with
    | zero => rw [clickBack, hoffset, List.take_zero]
    | succ clicks => rw [clickBack, hprev, Option.bind_none, hoffset, List.take_zero]
  | succ pages ih =>
    obtain ⟨clicks, rfl⟩ := Nat.exists_eq_add_of_le' (Nat.one_le_of_lt hclicks)
    have hlimit : 1 ≤ request.limit := request.limit_range.1
    have hprevious : request.offset - request.limit = pages * request.limit := by
      rw [hoffset, Nat.succ_mul, Nat.add_sub_cancel]
    have hpos : 0 < request.offset := by
      rw [hoffset]
      exact Nat.mul_pos pages.succ_pos hlimit
    have hshort : (writeInt (pages * request.limit : ℕ)).isSome :=
      isSome_writeInt_of_le (hprevious ▸ Nat.sub_le _ _) hwritten
    have hread : request.prevUrl.bind (fun url ↦ readRequest reader (paramsOf url)) =
        some { request.cleaned with offset := pages * request.limit } := by
      rw [NoticeListRequest.prevUrl, if_pos hpos, Option.bind_some, hprevious, readRequest_adminListUrl request hshort]
    have hpage : ListsAs engine db now { request.cleaned with offset := pages * request.limit } items :=
      h.cleaned rfl rfl rfl rfl
    have hrest : clickBack engine db now reader counting reading clicks
        { request.cleaned with offset := pages * request.limit } = .ok (items.take (pages * request.limit)) :=
      ih hshort hpage rfl (Nat.le_of_succ_le_succ hclicks)
    rw [clickBack, hread]
    dsimp only
    rw [hpage.list_eq, Jobs.ok_bind, hrest, Jobs.ok_bind, hoffset, Nat.succ_mul, List.take_add]
    rfl

/-- A link to a page shows that page of the same list. -/
theorem list_of_adminListUrl (request : NoticeListRequest) {offset : ℕ} (hwritten : (writeInt offset).isSome)
    (counting reading : Scan) :
    ∃ linked, readRequest reader (paramsOf (request.adminListUrl offset)) = some linked ∧
      linked.list engine db now counting reading =
        listNotices engine db now request.filters request.dedup (normalizeSortBy request.sortBy)
          (normalizeSortOrder request.sortOrder) request.limit offset counting reading := by
  refine ⟨_, readRequest_adminListUrl request hwritten, ?_⟩
  change listNotices engine db now request.cleaned.filters request.dedup (normalizeSortBy request.cleaned.sortBy)
    (normalizeSortOrder request.cleaned.sortOrder) request.limit offset counting reading = _
  rw [normalizeSortBy_cleaned, normalizeSortOrder_cleaned, listNotices, listNotices, buildListQuery, buildListQuery,
    buildListQuery, buildListQuery, baseRows_cleaned]

theorem list_eq_error {error : PyError} (h : baseRows engine db now request.filters = .error error)
    (counting reading : Scan) : request.list engine db now counting reading = .error error := by
  rw [NoticeListRequest.list, listNotices, buildListQuery_eq_error h]
  rfl

theorem clickThrough_eq_error {error : PyError} (h : baseRows engine db now request.filters = .error error) (clicks : ℕ) :
    clickThrough engine db now reader counting reading (clicks + 1) request = .error error := by
  rw [clickThrough, list_eq_error h]
  rfl

/-- Where the rows cannot be read, neither can the pages before. -/
theorem clickBack_eq_error {error : PyError} (h : baseRows engine db now request.filters = .error error) (clicks : ℕ)
    (hpos : 0 < request.offset) (hwritten : (writeInt request.offset).isSome) :
    clickBack engine db now reader counting reading (clicks + 1) request = .error error := by
  have hcleaned : baseRows engine db now request.cleaned.filters = .error error := by rw [baseRows_cleaned, h]
  have hread : request.prevUrl.bind (fun url ↦ readRequest reader (paramsOf url)) =
      some { request.cleaned with offset := request.offset - request.limit } := by
    rw [NoticeListRequest.prevUrl, if_pos hpos, Option.bind_some,
      readRequest_adminListUrl request (isSome_writeInt_of_le (Nat.sub_le _ _) hwritten)]
  have hlist (counting reading : Scan) : NoticeListRequest.list engine db now
      { request.cleaned with offset := request.offset - request.limit } counting reading = .error error := by
    refine list_eq_error ?_ counting reading
    exact hcleaned
  rw [clickBack, hread]
  dsimp only
  rw [hlist]
  rfl

theorem listForExport_eq_error {error : PyError} (h : baseRows engine db now request.filters = .error error)
    (reading : Scan) : request.listForExport engine db now reading = .error error := by
  rw [NoticeListRequest.listForExport, listNoticesForExport, buildListQuery_eq_error h]
  rfl

/-- Every link to a page of the list, previous, next or any other, shows that page of the same list, whatever texts it
is filtered by. The pages from the first one on, by the next links, are the list that each of the export links gives;
and the pages before a later one, by the previous links, are what that list has before it. -/
theorem adminNoticesList_links (engine : Engine) (db : NoticeDb) (now : DateTime) (reader : QueryReader)
    (counting reading : ℕ → Scan) (exporting : Scan) (request : NoticeListRequest) (ext : String)
    (hext : '?' ∉ ext.toList) (hfirst : request.offset = 0) (hwritten : (writeInt db.notices.length).isSome) :
    (∀ offset : ℕ, (writeInt offset).isSome → ∀ counting reading, ∃ linked,
      readRequest reader (paramsOf (request.adminListUrl offset)) = some linked ∧
      linked.list engine db now counting reading =
        listNotices engine db now request.filters request.dedup (normalizeSortBy request.sortBy)
          (normalizeSortOrder request.sortOrder) request.limit offset counting reading) ∧
      ∃ exported, readRequest reader (paramsOf (request.noticeExportUrl ext)) = some exported ∧
        (∃ pages, ∀ clicks, pages ≤ clicks →
          clickThrough engine db now reader counting reading clicks request =
            exported.listForExport engine db now exporting) ∧
        ∀ pages clicks, 0 < pages → pages ≤ clicks → (writeInt (pages * request.limit : ℕ)).isSome → ∃ linked,
          readRequest reader (paramsOf (request.adminListUrl (pages * request.limit))) = some linked ∧
            clickBack engine db now reader counting reading clicks linked =
              (exported.listForExport engine db now exporting).map (List.take (pages * request.limit)) := by
  refine ⟨fun offset hoffset counting reading ↦ list_of_adminListUrl request hoffset counting reading, _,
    readRequest_noticeExportUrl request hext, ?_⟩
  cases hrows : baseRows engine db now request.filters with
  | error error =>
    have hcleaned : baseRows engine db now request.cleaned.filters = .error error := by rw [baseRows_cleaned, hrows]
    have hexport : NoticeListRequest.listForExport engine db now
        { request.cleaned with limit := 50, offset := 0, limit_range := by decide } exporting = .error error := by
      refine listForExport_eq_error ?_ exporting
      exact hcleaned
    rw [hexport]
    constructor
    · refine ⟨1, fun clicks hclicks ↦ ?_⟩
      obtain ⟨clicks, rfl⟩ := Nat.exists_eq_add_of_le' hclicks
      exact clickThrough_eq_error hrows clicks
    · intro pages clicks hpages hclicks hoffset
      obtain ⟨clicks, rfl⟩ := Nat.exists_eq_add_of_le' (hpages.trans_le hclicks)
      have hback : clickBack engine db now reader counting reading (clicks + 1)
          { request.cleaned with offset := pages * request.limit } = .error error := by
        refine clickBack_eq_error ?_ clicks (Nat.mul_pos hpages request.limit_range.1) hoffset
        exact hcleaned
      exact ⟨_, readRequest_adminListUrl request hoffset, hback⟩
  | ok rows =>
    obtain ⟨items, hlists⟩ : ∃ items, ListsAs engine db now request items := ⟨_, rows, hrows, rfl⟩
    have hexport : NoticeListRequest.listForExport engine db now
        { request.cleaned with limit := 50, offset := 0, limit_range := by decide } exporting = .ok items :=
      ListsAs.listForExport_eq (hlists.cleaned rfl rfl rfl rfl) exporting
    rw [hexport]
    constructor
    · refine ⟨max 1 items.length, fun clicks hclicks ↦ ?_⟩
      have hpos : 0 < clicks := lt_of_lt_of_le Nat.one_pos ((le_max_left _ _).trans hclicks)
      have hlength : items.length ≤ request.offset + clicks * request.limit :=
        calc items.length ≤ clicks := (le_max_right _ _).trans hclicks
          _ ≤ clicks * request.limit := Nat.le_mul_of_pos_right clicks request.limit_range.1
          _ ≤ request.offset + clicks * request.limit := Nat.le_add_left _ _
      rw [clickThrough_eq_drop hwritten hlists hpos hlength, hfirst, List.drop_zero]
    · intro pages clicks _ hclicks hoffset
      have hback : clickBack engine db now reader counting reading clicks
          { request.cleaned with offset := pages * request.limit } = .ok (items.take (pages * request.limit)) :=
        clickBack_eq_take hoffset (hlists.cleaned rfl rfl rfl rfl) rfl hclicks
      exact ⟨_, readRequest_adminListUrl request hoffset, hback⟩

end Clicks

def plainReader : QueryReader where
  readInt := readInt
  readDate text := (IsoTexts.fromisoformat text.toList).map fun moment ↦ moment.date
  readBool text := if text = "false" then some false else if text = "true" then some true else none
  readInt_textOfInt _ := readInt_textOfInt
  readDate_isoformat date := by
    rw [CalendarDate.isoformat, IsoDates.IsoDate.toList_isoformat, IsoTexts.fromisoformat_isoChars, Option.map_some]
  readBool_false := rfl

/-- A keyword of marks that a URL uses, and a blank source. -/
def markedKeyword : NoticeListRequest := { keyword := some "a&b=50% ?", sourceCode := some "", limit := 1 }

theorem adminNoticesList_links_markedKeyword :
    markedKeyword.noticeExportUrl "csv" =
        "/notices/export.csv?keyword=a%26b%3D50%25+%3F&sort_by=published_at&sort_order=desc" ∧
      ∃ exported, readRequest plainReader (paramsOf (markedKeyword.noticeExportUrl "csv")) = some exported ∧
        (∃ pages, ∀ clicks, pages ≤ clicks →
          clickThrough plainEngine duplicatesDb ⟨0, some 0⟩ plainReader (fun _ ↦ plainScan) (fun _ ↦ plainScan) clicks
            markedKeyword = exported.listForExport plainEngine duplicatesDb ⟨0, some 0⟩ plainScan) ∧
        ∃ linked, readRequest plainReader (paramsOf (markedKeyword.adminListUrl 2)) = some linked ∧
          clickBack plainEngine duplicatesDb ⟨0, some 0⟩ plainReader (fun _ ↦ plainScan) (fun _ ↦ plainScan) 2 linked =
            (exported.listForExport plainEngine duplicatesDb ⟨0, some 0⟩ plainScan).map (List.take 2) := by
  obtain ⟨-, exported, hread, hpages, hback⟩ := adminNoticesList_links plainEngine duplicatesDb ⟨0, some 0⟩ plainReader
    (fun _ ↦ plainScan) (fun _ ↦ plainScan) plainScan markedKeyword "csv" (by decide) rfl (by decide)
  exact ⟨by decide +kernel, exported, hread, hpages, hback 2 2 (by decide) le_rfl (by decide)⟩

end TenderPhase1.Notices
