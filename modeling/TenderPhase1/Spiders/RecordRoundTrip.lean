import TenderPhase1.Crawler.CollapsedTexts
import TenderPhase1.Crawler.UrlEnds
import TenderPhase1.Spiders.DealListIsolation

/-!
# The record on its way to the detail page

The request for a detail page carries the record of the list as a `dict`. Reading it
back strips every text, and sets defaults for those that are missing. What
`parse_list_record` returns is stripped, with one exception: the URL of the detail page
may end in white space that stood before a fragment.
-/

namespace TenderPhase1.Spiders.GgzyGovCnDeal

open PyText Crawler Jobs

/-! ## Writing and reading a record -/

/-- A `dict` as a field of a record -/
def ListLibrary.dictObject (library : ListLibrary) (entries : List (String × Json)) : PyObject :=
  .other (library.repr (.dict entries)) (!entries.isEmpty)

/-- `_serialize_record` of a record whose `list_item_raw` has the entries -/
def serializeRecord (record : GgzyGovCnDealListRecord) (listItemRaw : List (String × Json)) : List (String × Json) :=
  [("title", .str record.title),
    ("normalized_title", .ofText record.normalizedTitle),
    ("published_date", .ofText record.publishedDate),
    ("published_at_iso", .ofText record.publishedAtIso),
    ("province", .ofText record.province),
    ("source_platform", .ofText record.sourcePlatform),
    ("issuer", .ofText record.issuer),
    ("notice_type", .str record.noticeType),
    ("detail_url", .ofText record.detailUrl),
    ("normalized_detail_url", .ofText record.normalizedDetailUrl),
    ("external_id", .ofText record.externalId),
    ("source_duplicate_key", .str record.sourceDuplicateKey),
    ("source_list_item_fingerprint", .str record.sourceListItemFingerprint),
    ("list_item_content_hash", .str record.listItemContentHash),
    ("list_item_raw", .dict listItemRaw)]

section Records

variable (library : ListLibrary) (python : Python)

def deserializeRecord (data : List (String × Json)) : GgzyGovCnDealListRecord where
  title := ((get data "title").or (.str "")).text library
  normalizedTitle := (get data "normalized_title").asStr library
  publishedDate := (get data "published_date").asStr library
  publishedAtIso := (get data "published_at_iso").asStr library
  province := (get data "province").asStr library
  sourcePlatform := (get data "source_platform").asStr library
  issuer := (get data "issuer").asStr library
  noticeType := ((get data "notice_type").asStr library).getD "announcement"
  detailUrl := (get data "detail_url").asStr library
  normalizedDetailUrl := (get data "normalized_detail_url").asStr library
  externalId := (get data "external_id").asStr library
  sourceDuplicateKey :=
    ((get data "source_duplicate_key").asStr library).getD (python.sha256Text "missing-source-dup-key")
  sourceListItemFingerprint :=
    ((get data "source_list_item_fingerprint").asStr library).getD (python.sha256Text "missing-list-fingerprint")
  listItemContentHash :=
    ((get data "list_item_content_hash").asStr library).getD (python.sha256Text "missing-content")
  listItemRaw := library.dictObject (get data "list_item_raw").entries

variable {library python} {entries : List (String × Json)} {record : GgzyGovCnDealListRecord}

theorem asStr_ofText (text : Option String) : (Json.ofText text).asStr library = PyText.asStr text := by
  cases text <;> rfl

theorem asStr_str (text : String) : (Json.str text).asStr library = PyText.asStr (some text) := rfl

theorem get_cons (name key : String) (value : Json) (data : List (String × Json)) :
    get ((name, value) :: data) key = if key = name then value else get data key := by
  unfold get
  by_cases hkey : key = name
  · rw [if_pos hkey, hkey, List.lookup_cons_self, Option.getD_some]
  · rw [if_neg hkey, List.lookup_cons, beq_false_of_ne hkey]

/-- Reading a written record strips its texts. -/
theorem deserializeRecord_serializeRecord (hraw : record.listItemRaw = library.dictObject entries) :
    deserializeRecord library python (serializeRecord record entries) = record.deserialized python := by
  have htitle : ((Json.str record.title).or (.str "")).text library = record.title := by
    unfold Json.or Json.truthy
    by_cases hempty : record.title = ""
    · rw [hempty]
      rfl
    · rw [if_pos (decide_eq_true hempty)]
      rfl
  unfold deserializeRecord GgzyGovCnDealListRecord.deserialized
  simp [serializeRecord, get_cons, asStr_ofText, asStr_str, htitle, hraw, Json.entries]

end Records

/-! ## Texts that reading keeps -/

/-- Every text of the value is stripped and not empty. -/
def Kept (value : Option String) : Prop := ∀ text, value = some text → Stripped text ∧ text ≠ ""

theorem Kept.asStr_eq {value : Option String} (h : Kept value) : asStr value = value := by
  cases value with
  | none => rfl
  | some text => exact asStr_some_iff.mpr (h text rfl)

theorem kept_of_asStr_eq {value : Option String} (h : asStr value = value) : Kept value := by
  rintro text rfl
  exact asStr_some_iff.mp h

/-- What the functions of the standard library return for a record -/
structure RecordTexts (library : ListLibrary) (python : Python) : Prop where
  /-- The date of a moment -/
  isoDate : ∀ moment, asStr (some (python.isoDate moment)) = some (python.isoDate moment)
  /-- A digest in hexadecimal digits -/
  digest : ∀ record digest, library.digest record = .ok digest → asStr (some digest) = some digest
  /-- A URL that is joined to one with a scheme has a scheme. -/
  urljoin : ∀ url joined split, library.urljoin sourceSiteUrl url = .ok joined →
    python.urlsplit (strip joined) = .ok split → split.scheme ≠ ""

section Image

variable {library : ListLibrary} {python : Python} {entries : List (String × Json)} {record : GgzyGovCnDealListRecord}

theorem kept_collapsed (text : String) : Kept (nonEmpty (collapseSpaces text)) := by
  intro kept hkept
  obtain ⟨rfl, hne⟩ := nonEmpty_eq_some hkept
  exact ⟨stripped_collapseSpaces text, hne⟩

theorem kept_normalizeValue (value : Json) : Kept (normalizeValue library python value) := by
  unfold normalizeValue
  split
  · exact fun _ h ↦ (nomatch h)
  · exact kept_collapsed _

/-- Lower case keeps what reading keeps. -/
theorem Kept.lower (urls : CPythonUrls python) (texts : CPythonTexts python) {value : Option String} (h : Kept value) :
    Kept (value.map python.lower) := by
  intro text htext
  obtain ⟨source, hsource, rfl⟩ := Option.map_eq_some_iff.mp htext
  obtain ⟨hstripped, hne⟩ := h source hsource
  exact ⟨stripped_lower texts hstripped, fun hempty ↦ hne (urls.lower_eq_empty source hempty)⟩

theorem kept_normalizeTitleForSourceDedup (urls : CPythonUrls python) (texts : CPythonTexts python) (title : String) :
    Kept (normalizeTitleForSourceDedup python title) := by
  intro text htext
  obtain ⟨normalized, -, htext⟩ := Option.bind_eq_some_iff.mp htext
  exact (kept_collapsed _).lower urls texts text htext

/-- A normalised date is kept by the round trip. -/
theorem kept_normalizePublishedDate (recordTexts : RecordTexts library python) {value : Value}
    {publishedDate : Option String} (h : normalizePublishedDate python value = .ok publishedDate) :
    Kept publishedDate := by
  have hiso (moment : DateTime) : Kept (some (python.isoDate moment)) := kept_of_asStr_eq (recordTexts.isoDate moment)
  obtain ⟨parsed, -, h⟩ := bind_eq_ok.mp h
  cases parsed with
  | some moment =>
    obtain ⟨converted, -, h⟩ := bind_eq_ok.mp h
    rw [← Except.ok.inj h]
    exact hiso converted
  | none =>
    dsimp only at h
    split at h
    · rw [← Except.ok.inj h]
      exact fun _ h ↦ (nomatch h)
    · obtain ⟨date, -, h⟩ := bind_eq_ok.mp h
      obtain ⟨converted, -, h⟩ := bind_eq_ok.mp h
      rw [← Except.ok.inj h]
      exact hiso converted

theorem kept_publishedAtIso {publishedDate : Option String} (h : Kept publishedDate) :
    Kept ((publishedDate.bind nonEmpty).map (· ++ "T00:00:00+00:00")) := by
  intro text htext
  obtain ⟨date, hdate, rfl⟩ := Option.map_eq_some_iff.mp htext
  obtain ⟨source, hsource, hdate⟩ := Option.bind_eq_some_iff.mp hdate
  obtain ⟨rfl, hne⟩ := nonEmpty_eq_some hdate
  refine ⟨(h _ hsource).1.append (by decide) hne (by decide), ?_⟩
  simp

/-- The URL of a detail page as `parse_list_record` writes it: it begins with a scheme. -/
def HasScheme (url : String) : Prop := ∃ scheme rest, Urllib.LowerScheme scheme ∧ url.toList = scheme ++ ':' :: rest

theorem kept_normalizeDetailUrl (urls : CPythonUrls python) (texts : CPythonTexts python) {detailUrl : Option String}
    (hdetailUrl : ∀ url, detailUrl = some url → HasScheme url) {normalized : Option String}
    (h : normalizeDetailUrl python (Value.ofText detailUrl) = .ok normalized) : Kept normalized := by
  cases detailUrl with
  | none =>
    rw [← Except.ok.inj h]
    exact fun _ h ↦ (nomatch h)
  | some url =>
    obtain ⟨scheme, rest, hscheme, htext⟩ := hdetailUrl url rfl
    obtain ⟨stored, rfl, hstored⟩ := normalizeDetailUrl_ends urls texts hscheme htext h
    rintro text ⟨⟩
    exact hstored

theorem kept_normalizeText (urls : CPythonUrls python) (texts : CPythonTexts python) (value : Value) :
    Kept (Crawler.normalizeText python value true) := by
  refine Kept.lower urls texts ?_
  intro text htext
  obtain ⟨source, -, htext⟩ := Option.bind_eq_some_iff.mp htext
  exact kept_collapsed _ text htext

/-- A locator comes through JSON unchanged. -/
theorem kept_extractDetailLocator (urls : CPythonUrls python) (texts : CPythonTexts python) {url : String}
    (hurl : HasScheme url) {locator : Option String}
    (h : extractDetailLocator python (some (.str url)) none = .ok locator) : Kept locator := by
  have hnone : Crawler.normalizeText python (Value.ofText (Value.asStr none)) true = none := rfl
  unfold extractDetailLocator at h
  rw [hnone] at h
  obtain ⟨normalized, hnormalized, h⟩ := bind_eq_ok.mp h
  have hlink : ∀ link, some url = some link → HasScheme link := by
    rintro _ ⟨⟩
    exact hurl
  have hkept : Kept normalized := kept_normalizeDetailUrl urls texts hlink hnormalized
  cases normalized with
  | none =>
    rw [← Except.ok.inj h]
    exact fun _ h ↦ (nomatch h)
  | some normalizedDetailUrl =>
    obtain ⟨split, -, h⟩ := bind_eq_ok.mp h
    rw [← Except.ok.inj h]
    rintro text ⟨⟩
    generalize hlocated : List.findSome? _ detailLocatorKeys = located
    cases located with
    | none => exact hkept _ rfl
    | some value =>
      obtain ⟨key, -, hvalue⟩ := List.exists_of_findSome?_eq_some hlocated
      obtain ⟨raw, -, hvalue⟩ := Option.bind_eq_some_iff.mp hvalue
      exact kept_normalizeText urls texts _ value hvalue

/-- So does an identifier. -/
theorem kept_extractExternalId (urls : CPythonUrls python) (texts : CPythonTexts python) {detailUrl : Option String}
    (hdetailUrl : ∀ url, detailUrl = some url → HasScheme url) {externalId : Option String}
    (h : extractExternalId library python entries detailUrl = .ok externalId) : Kept externalId := by
  unfold extractExternalId at h
  split at h
  · rename_i value hvalue
    obtain ⟨key, -, hkey⟩ := List.exists_of_findSome?_eq_some hvalue
    rw [← Except.ok.inj h]
    rintro text ⟨⟩
    exact kept_normalizeValue _ _ hkey
  · split at h
    · rw [← Except.ok.inj h]
      exact fun _ h ↦ (nomatch h)
    · rename_i url hurl
      obtain ⟨source, hsource, hnonEmpty⟩ := Option.bind_eq_some_iff.mp hurl
      obtain ⟨rfl, -⟩ := nonEmpty_eq_some hnonEmpty
      obtain ⟨split, -, h⟩ := bind_eq_ok.mp h
      dsimp only at h
      split at h
      · rename_i value hvalue
        obtain ⟨key, -, hkey⟩ := List.exists_of_findSome?_eq_some hvalue
        obtain ⟨raw, -, hraw⟩ := Option.bind_eq_some_iff.mp hkey
        rw [← Except.ok.inj h]
        rintro text ⟨⟩
        exact kept_collapsed _ _ hraw
      · obtain ⟨locator, hlocator, h⟩ := bind_eq_ok.mp h
        obtain ⟨normalized, -, h⟩ := bind_eq_ok.mp h
        rw [← Except.ok.inj h]
        intro text htext
        obtain ⟨hfound, -⟩ := Option.filter_eq_some_iff.mp htext
        obtain ⟨source, hsource, hnonEmpty⟩ := Option.bind_eq_some_iff.mp hfound
        obtain ⟨rfl, -⟩ := nonEmpty_eq_some hnonEmpty
        exact kept_extractDetailLocator urls texts (hdetailUrl _ ‹_›) hlocator _ hsource

/-- What `parse_list_record` makes of the URL of a record -/
theorem recordDetailUrl_eq_ok (urls : CPythonUrls python) (texts : CPythonTexts python)
    (recordTexts : RecordTexts library python) {detailUrl : Option String}
    (h : recordDetailUrl library python entries = .ok detailUrl) :
    match recordUrl library python entries with
    | none => detailUrl = none
    | some rawUrl => ∃ joined split url, library.urljoin sourceSiteUrl rawUrl = .ok joined ∧
        python.urlsplit (strip joined) = .ok split ∧ detailUrl = some url ∧ HasScheme url ∧
          (Stripped url ↔ split.PathEnds python) := by
  unfold recordDetailUrl at h
  cases hurl : recordUrl library python entries with
  | none =>
    rw [hurl] at h
    exact (Except.ok.inj h).symm
  | some rawUrl =>
    rw [hurl] at h
    obtain ⟨url, hwritten, hdetailUrl⟩ := map_eq_ok.mp h
    obtain ⟨joined, hjoined, hwritten⟩ := bind_eq_ok.mp hwritten
    obtain ⟨split, hsplit, -⟩ := bind_eq_ok.mp hwritten
    have hscheme := recordTexts.urljoin rawUrl joined split hjoined hsplit
    obtain ⟨text, rest, htext, hchars, hends⟩ := normalizeUrl_ends urls texts hsplit hscheme
    rw [htext] at hwritten
    obtain rfl := Except.ok.inj hwritten
    refine ⟨joined, split, text, hjoined, hsplit, hdetailUrl.symm, ?_, hends⟩
    exact ⟨split.scheme.toList, rest, lowerScheme_of_urlsplit urls hsplit hscheme, hchars⟩

theorem hasScheme_of_recordDetailUrl (urls : CPythonUrls python) (texts : CPythonTexts python)
    (recordTexts : RecordTexts library python) {detailUrl : Option String}
    (h : recordDetailUrl library python entries = .ok detailUrl) : ∀ url, detailUrl = some url → HasScheme url := by
  have hread := recordDetailUrl_eq_ok urls texts recordTexts h
  rintro url rfl
  split at hread
  · cases hread
  · obtain ⟨joined, split, written, -, -, hwritten, hscheme, -⟩ := hread
    rw [Option.some.inj hwritten]
    exact hscheme

theorem inferNoticeType_cases (title : String) (infoText : Option String) :
    inferNoticeType title infoText ∈ ["change", "result", "announcement"] := by
  unfold inferNoticeType
  dsimp only
  split_ifs
  · simp
  · simp
  · simp

/-- All fields but the URL of the detail page are read back as they were: the keys, the hashes and the external
id among them. -/
theorem deserialized_eq (urls : CPythonUrls python) (texts : CPythonTexts python)
    (recordTexts : RecordTexts library python) (h : parseListRecord library python entries = .ok (some record)) :
    record.deserialized python = { record with detailUrl := asStr record.detailUrl } ∧
      record.listItemRaw = library.dictObject entries ∧
      recordDetailUrl library python entries = .ok record.detailUrl := by
  unfold parseListRecord at h
  cases htitle : recordTitle library python entries with
  | none =>
    rw [htitle] at h
    cases h
  | some title =>
    rw [htitle] at h
    dsimp only at h
    obtain ⟨detailUrl, hdetailUrl, h⟩ := bind_eq_ok.mp h
    obtain ⟨normalizedDetailUrl, hnormalized, h⟩ := bind_eq_ok.mp h
    obtain ⟨publishedDate, hdate, h⟩ := bind_eq_ok.mp h
    obtain ⟨externalId, hexternalId, h⟩ := bind_eq_ok.mp h
    obtain ⟨listItemContentHash, hdigest, h⟩ := bind_eq_ok.mp h
    rw [← Option.some.inj (Except.ok.inj h)]
    have hscheme := hasScheme_of_recordDetailUrl urls texts recordTexts hdetailUrl
    have hnoticeType (infoText : Option String) :
        asStr (some (inferNoticeType title infoText)) = some (inferNoticeType title infoText) := by
      have hkept : ∀ noticeType ∈ ["change", "result", "announcement"], asStr (some noticeType) = some noticeType := by
        decide
      exact hkept _ (inferNoticeType_cases title infoText)
    have hpublished := kept_normalizePublishedDate recordTexts hdate
    refine ⟨?_, rfl, hdetailUrl⟩
    unfold GgzyGovCnDealListRecord.deserialized
    simp only [(kept_normalizeTitleForSourceDedup urls texts title).asStr_eq, hpublished.asStr_eq,
      (kept_publishedAtIso hpublished).asStr_eq, (kept_normalizeValue _).asStr_eq, hnoticeType,
      (kept_normalizeDetailUrl urls texts hscheme hnormalized).asStr_eq,
      (kept_extractExternalId urls texts hscheme hexternalId).asStr_eq, python.asStr_sha256Text,
      recordTexts.digest _ _ hdigest, Option.getD_some]

/-- The URL of a record has no white space at the end of a path without parameters. -/
def RecordUrlEnds (library : ListLibrary) (python : Python) (entries : List (String × Json)) : Prop :=
  ∀ rawUrl joined split, recordUrl library python entries = some rawUrl →
    library.urljoin sourceSiteUrl rawUrl = .ok joined → python.urlsplit (strip joined) = .ok split →
      split.PathEnds python

/-- A record is read back in all of its fields if and only if its URL does not end in white space before a
fragment. -/
theorem recordRoundTrip_iff (urls : CPythonUrls python) (texts : CPythonTexts python)
    (recordTexts : RecordTexts library python) (h : parseListRecord library python entries = .ok (some record)) :
    deserializeRecord library python (serializeRecord record entries) = record ↔
      RecordUrlEnds library python entries := by
  obtain ⟨hdeserialized, hraw, hdetailUrl⟩ := deserialized_eq urls texts recordTexts h
  have hfield : { record with detailUrl := asStr record.detailUrl } = record ↔ asStr record.detailUrl = record.detailUrl :=
    ⟨fun hrecord ↦ congrArg GgzyGovCnDealListRecord.detailUrl hrecord, fun hurl ↦ by rw [hurl]⟩
  rw [deserializeRecord_serializeRecord hraw, hdeserialized, hfield]
  have hread := recordDetailUrl_eq_ok urls texts recordTexts hdetailUrl
  cases hurl : recordUrl library python entries with
  | none =>
    rw [hurl] at hread
    dsimp only at hread
    rw [hread]
    refine iff_of_true rfl ?_
    intro rawUrl joined split hraw
    rw [hurl] at hraw
    cases hraw
  | some rawUrl =>
    rw [hurl] at hread
    obtain ⟨joined, split, url, hjoined, hsplit, hwritten, hscheme, hends⟩ := hread
    have hne : url ≠ "" := by
      obtain ⟨scheme, rest, -, htext⟩ := hscheme
      rintro rfl
      simp at htext
    rw [hwritten, asStr_some_iff, and_iff_left hne, hends]
    constructor
    · intro hpath other otherJoined otherSplit hother hotherJoined hotherSplit
      rw [hurl] at hother
      obtain rfl := Option.some.inj hother
      rw [hjoined] at hotherJoined
      obtain rfl := Except.ok.inj hotherJoined
      rw [hsplit] at hotherSplit
      obtain rfl := Except.ok.inj hotherSplit
      exact hpath
    · exact fun hall ↦ hall rawUrl joined split hurl hjoined hsplit

end Image

/-! ## A blank before a fragment -/

/-- The date of a moment whose year has its four digits -/
def checkedIsoDate (moment : DateTime) : String :=
  if asStr (some (plainIsoDate moment)) = some (plainIsoDate moment) then plainIsoDate moment else "0001-01-01"

theorem asStr_checkedIsoDate (moment : DateTime) : asStr (some (checkedIsoDate moment)) = some (checkedIsoDate moment) := by
  unfold checkedIsoDate
  split
  · assumption
  · decide

/-- Python with `urllib.parse`, and digests from which the texts can be read -/
def recordPython : Python :=
  urllibPython
    { markingPython with
      urlunsplit := fun split ↦ String.ofList ((if split.scheme = "" then [] else split.scheme.toList ++ [':']) ++ [] ++
        split.path.toList ++ (if split.query = "" then [] else '?' :: split.query.toList) ++
        if split.fragment = "" then [] else '#' :: split.fragment.toList)
      isoDate := checkedIsoDate }

def recordUrls : CPythonUrls recordPython := urllibUrls _

theorem recordPython_texts : CPythonTexts recordPython where
  urlunsplit_local split hnetloc := ⟨[], fun _ hc ↦ absurd hc List.not_mem_nil, if_pos hnetloc⟩
  lower_scheme text hscheme := by
    change lower text = text
    rw [lower, List.map_congr_left hscheme.lower, List.map_id', String.ofList_toList]
  lower_strip text := by
    have hdropped (chars : List Char) :
        (chars.map Char.toLower).dropWhile isSpace = (chars.dropWhile isSpace).map Char.toLower := by
      rw [List.dropWhile_map]
      congr 2
      funext c
      exact isSpace_toLower c
    change lower (strip text) = strip (lower text)
    unfold lower strip
    simp only [String.toList_ofList, Urllib.stripChars_eq, hdropped, rstrip_map_toLower]

/-- The texts of the example records. -/
theorem recordPython_recordTexts : RecordTexts plainLibrary recordPython where
  isoDate moment := by
    have hiso : recordPython.isoDate = checkedIsoDate := by rw [recordPython, urllibPython]
    rw [hiso]
    exact asStr_checkedIsoDate moment
  digest record digest h := by
    rw [← Except.ok.inj h]
    exact asStr_marked _
  urljoin url joined split hjoined hsplit := by
    have hscheme : Urllib.LowerScheme "https".toList := ⟨by decide, by decide, by decide⟩
    have htext : (strip joined).toList = "https".toList ++ ':' ::
        Urllib.rstrip ("//www.ggzy.gov.cn/".toList ++ url.toList) := by
      rw [← Except.ok.inj hjoined, strip, String.toList_ofList, String.toList_append]
      exact hscheme.stripChars
    have hread := (urlsplit_of_scheme recordUrls hscheme htext hsplit).2
    rintro hempty
    rw [hempty] at hread
    exact absurd hread (by decide)

def linkedEntries (url : String) : List (String × Json) := [("title", .str "bridge"), ("url", .str url)]

theorem eq_ok_some_of_join {Result : Type} {outcome : Except PyError (Option Result)} {result : Result}
    (h : outcome.toOption.join = some result) : outcome = .ok (some result) := by
  cases outcome with
  | error error => cases h
  | ok found =>
    cases found with
    | none => cases h
    | some found => exact congrArg (fun found ↦ Except.ok (some found)) (Option.some.inj h)

/-- A record whose link has a query and a fragment. -/
theorem recordRoundTrip_page : ∃ record,
    parseListRecord plainLibrary recordPython (linkedEntries "deal/1?id=7#top") = .ok (some record) ∧
      deserializeRecord plainLibrary recordPython (serializeRecord record (linkedEntries "deal/1?id=7#top")) = record := by
  have hparsed : (parseListRecord plainLibrary recordPython (linkedEntries "deal/1?id=7#top")).toOption.join.isSome := by
    decide +kernel
  have hsplit : recordPython.urlsplit (strip "https://www.ggzy.gov.cn/deal/1?id=7#top") =
      .ok ⟨"https", "www.ggzy.gov.cn", "/deal/1", "id=7", "top"⟩ := by decide +kernel
  have hurl : recordUrl plainLibrary recordPython (linkedEntries "deal/1?id=7#top") = some "deal/1?id=7#top" := by
    decide +kernel
  obtain ⟨record, hjoin⟩ := Option.isSome_iff_exists.mp hparsed
  have hrecord := eq_ok_some_of_join hjoin
  refine ⟨record, hrecord, ?_⟩
  apply (recordRoundTrip_iff recordUrls recordPython_texts recordPython_recordTexts hrecord).mpr
  intro rawUrl joined split hraw hjoined hread
  rw [hurl] at hraw
  obtain rfl := Option.some.inj hraw
  obtain rfl := Except.ok.inj hjoined
  obtain rfl := Except.ok.inj (hsplit.symm.trans hread)
  decide +kernel

/-- The URL of the page is written with the blank before its fragment, and read without it. -/
theorem recordRoundTrip_blank : ¬ ∀ record,
    parseListRecord plainLibrary recordPython (linkedEntries "deal/1 #top") = .ok (some record) →
      deserializeRecord plainLibrary recordPython (serializeRecord record (linkedEntries "deal/1 #top")) = record := by
  intro h
  have hparsed : (parseListRecord plainLibrary recordPython (linkedEntries "deal/1 #top")).toOption.join.any fun record ↦
      decide (record.detailUrl = some "https://www.ggzy.gov.cn/deal/1 " ∧
        (deserializeRecord plainLibrary recordPython (serializeRecord record (linkedEntries "deal/1 #top"))).detailUrl =
          some "https://www.ggzy.gov.cn/deal/1") := by decide +kernel
  cases hjoin : (parseListRecord plainLibrary recordPython (linkedEntries "deal/1 #top")).toOption.join with
  | none =>
    rw [hjoin] at hparsed
    cases hparsed
  | some record =>
    rw [hjoin] at hparsed
    obtain ⟨hwritten, hread⟩ := of_decide_eq_true hparsed
    rw [h record (eq_ok_some_of_join hjoin), hwritten] at hread
    exact absurd hread (by decide)

end TenderPhase1.Spiders.GgzyGovCnDeal
