import TenderPhase1.Crawler.DedupKeys
import TenderPhase1.Crawler.PublishedDates
import TenderPhase1.Foundation.FirstOccurrences
import TenderPhase1.Foundation.Transition
import TenderPhase1.Spiders.DealListPage

/-!
# What one malformed record does to a list page

A call of `parse_list_page` accounts for every record of its page exactly if every conversion on its way
succeeds. A code that is no number, a date that is none, or a URL that cannot be split or requested ends
the call: the records after it, the document of the page and the rest of the list are lost.
-/

namespace TenderPhase1.Spiders.GgzyGovCnDeal

open PyText Crawler Jobs FirstOccurrences Transition

/-! ## Records -/

def dicts (records : List Json) : List (List (String × Json)) :=
  records.filterMap fun
    | .dict entries => some entries
    | _ => none

section Records

variable (library : ListLibrary) (python : Python) (config : DealConfig) (listPageUrl : String)

def isTitled : Json → Bool
  | .dict entries => (recordTitle library python entries).isSome
  | _ => false

/-- The records of a page that have a title, as `parse_list_record` returns them. -/
def parsedRecords (records : List Json) : Except PyError (List GgzyGovCnDealListRecord) :=
  ((dicts records).mapM (parseListRecord library python)).map (List.filterMap id)

def newRecords (seen : List String) (records : List GgzyGovCnDealListRecord) : List GgzyGovCnDealListRecord :=
  firsts GgzyGovCnDealListRecord.sourceDuplicateKey seen records

structure Buildable (record : GgzyGovCnDealListRecord) : Prop where
  version : (normalizeUrl python (record.rawDocumentUrl listPageUrl)).isOk
  request : ∀ url ∈ record.detailUrl.bind nonEmpty, (library.request url).isOk

/-- The notice, the version and the request for the detail page, where there is one. -/
def RecordItems (record : GgzyGovCnDealListRecord) (yields : List Yielded) : Prop :=
  ∃ version, buildListVersionItem python config.crawlJobId record listPageUrl = .ok version ∧
    yields = .notice (buildListNoticeItem python config.crawlJobId record listPageUrl) :: .version version ::
      (record.detailUrl.bind nonEmpty).toList.map fun url ↦ .detailRequest url record

variable {library python config listPageUrl}

theorem isOk_buildListVersionItem {record : GgzyGovCnDealListRecord} {crawlJobId : Value} :
    (∃ version, buildListVersionItem python crawlJobId record listPageUrl = .ok version) ↔
      (normalizeUrl python (record.rawDocumentUrl listPageUrl)).isOk := by
  unfold buildListVersionItem
  cases normalizeUrl python (record.rawDocumentUrl listPageUrl) with
  | error error => exact ⟨fun ⟨_, h⟩ ↦ (nomatch h), fun h ↦ (nomatch h)⟩
  | ok url => exact ⟨fun _ ↦ rfl, fun _ ↦ ⟨_, rfl⟩⟩

/-- A record that can be built yields its items. -/
theorem recordItems_of_buildable {record : GgzyGovCnDealListRecord} (h : Buildable library python listPageUrl record) :
    ∃ yields, recordYields library python config listPageUrl record = (yields, none) ∧
      RecordItems python config listPageUrl record yields := by
  obtain ⟨version, hversion⟩ : ∃ version, buildListVersionItem python config.crawlJobId record listPageUrl = .ok version :=
    isOk_buildListVersionItem.mpr h.version
  unfold recordYields
  dsimp only
  rw [hversion]
  dsimp only
  cases hurl : record.detailUrl.bind nonEmpty with
  | none => exact ⟨_, rfl, version, hversion, by rw [hurl]; rfl⟩
  | some url =>
    dsimp only
    cases hbuilt : library.request url with
    | error error =>
      have hrequest := h.request url hurl
      rw [hbuilt] at hrequest
      cases hrequest
    | ok built => exact ⟨_, rfl, version, hversion, by rw [hurl]; rfl⟩

/-- Any other record ends the call. -/
theorem buildable_of_recordYields {record : GgzyGovCnDealListRecord} {yields : List Yielded}
    (h : recordYields library python config listPageUrl record = (yields, none)) :
    Buildable library python listPageUrl record := by
  unfold recordYields at h
  dsimp only at h
  split at h
  · cases h
  · rename_i version hversion
    refine ⟨isOk_buildListVersionItem.mp ⟨version, hversion⟩, fun url hurl ↦ ?_⟩
    rw [Option.mem_def.mp hurl] at h
    dsimp only at h
    cases hrequest : library.request url with
    | error error =>
      rw [hrequest] at h
      cases h
    | ok built => rfl

/-! ### The loop over the records -/

/-- A record that is an object is parsed before those after it. -/
theorem parsedRecords_dict (entries : List (String × Json)) (records : List Json) :
    parsedRecords library python (.dict entries :: records) = (do
      let first ← parseListRecord library python entries
      let later ← parsedRecords library python records
      return first.toList ++ later) := by
  have hdicts : dicts (.dict entries :: records) = entries :: dicts records := rfl
  unfold parsedRecords
  rw [hdicts, List.mapM_cons]
  cases parseListRecord library python entries with
  | error error => rfl
  | ok first =>
    cases (dicts records).mapM (parseListRecord library python) with
    | error error => rfl
    | ok later =>
      cases first with
      | none => rfl
      | some record => rfl

theorem parsedRecords_of_dict {entries : List (String × Json)} {records : List Json} {parsed : List GgzyGovCnDealListRecord}
    (h : parsedRecords library python (.dict entries :: records) = .ok parsed) :
    ∃ first later, parseListRecord library python entries = .ok first ∧ parsedRecords library python records = .ok later ∧
      parsed = first.toList ++ later := by
  rw [parsedRecords_dict] at h
  obtain ⟨first, hfirst, h⟩ := bind_eq_ok.mp h
  obtain ⟨later, hlater, h⟩ := bind_eq_ok.mp h
  exact ⟨first, later, hfirst, hlater, (Except.ok.inj h).symm⟩

variable (config) in
/-- What the loop does where every record can be read, and every new one built. -/
theorem readRecords_eq {seen : List String} {records : List Json} {parsed : List GgzyGovCnDealListRecord}
    (hparsed : parsedRecords library python records = .ok parsed)
    (hbuildable : ∀ record ∈ newRecords seen parsed, Buildable library python listPageUrl record) :
    ∃ parts skipped, List.Forall₂ (RecordItems python config listPageUrl) (newRecords seen parsed) parts ∧
      (newRecords seen parsed).length + skipped = parsed.length ∧
      readRecords library python config listPageUrl seen records =
        ⟨seenAfter GgzyGovCnDealListRecord.sourceDuplicateKey seen parsed, parts.flatten, (newRecords seen parsed).length,
          skipped, none⟩ := by
  induction records generalizing seen parsed with
  | nil =>
    rw [← Except.ok.inj hparsed]
    exact ⟨[], 0, .nil, rfl, rfl⟩
  | cons record records ih =>
    cases record with
    | dict entries =>
      obtain ⟨first, later, hfirst, hlater, rfl⟩ := parsedRecords_of_dict hparsed
      unfold readRecords
      rw [hfirst]
      cases first with
      | none => exact ih hlater hbuildable
      | some record =>
        dsimp only
        by_cases hseen : seen.contains record.sourceDuplicateKey
        · have hmem := List.contains_iff_mem.mp hseen
          have hfirsts : newRecords seen ((some record).toList ++ later) = newRecords seen later := if_pos hmem
          have hafter : seenAfter GgzyGovCnDealListRecord.sourceDuplicateKey seen ((some record).toList ++ later) =
              seenAfter GgzyGovCnDealListRecord.sourceDuplicateKey seen later := by
            unfold seenAfter
            change ((newRecords seen ((some record).toList ++ later)).map _).reverse ++ seen = _
            rw [hfirsts]
            rfl
          rw [hfirsts] at hbuildable ⊢
          obtain ⟨parts, skipped, hitems, hlength, hread⟩ := ih hlater hbuildable
          refine ⟨parts, skipped + 1, hitems, ?_, ?_⟩
          · change _ = later.length + 1
            omega
          · rw [if_pos hseen, hread, hafter]
        · have hnew : record.sourceDuplicateKey ∉ seen := fun hmem ↦ hseen (List.contains_iff_mem.mpr hmem)
          have hfirsts : newRecords seen ((some record).toList ++ later) =
              record :: newRecords (record.sourceDuplicateKey :: seen) later := if_neg hnew
          have hafter : seenAfter GgzyGovCnDealListRecord.sourceDuplicateKey seen ((some record).toList ++ later) =
              seenAfter GgzyGovCnDealListRecord.sourceDuplicateKey (record.sourceDuplicateKey :: seen) later := by
            unfold seenAfter
            change ((newRecords seen ((some record).toList ++ later)).map _).reverse ++ seen = _
            rw [hfirsts, List.map_cons, List.reverse_cons, List.append_assoc]
            rfl
          rw [hfirsts] at hbuildable ⊢
          obtain ⟨yields, hyields, hrecord⟩ := recordItems_of_buildable (hbuildable record List.mem_cons_self)
          obtain ⟨parts, skipped, hitems, hlength, hread⟩ :=
            ih hlater fun other hother ↦ hbuildable other (List.mem_cons_of_mem _ hother)
          refine ⟨yields :: parts, skipped, .cons hrecord hitems, ?_, ?_⟩
          · change _ = later.length + 1
            rw [List.length_cons]
            omega
          · rw [if_neg hseen, hyields]
            dsimp only
            rw [hread, hafter]
            rfl
    | _ => exact ih hparsed hbuildable

/-- A loop that no exception ends has read every record and built every new one. -/
theorem readable_of_readRecords {seen : List String} {records : List Json}
    (h : (readRecords library python config listPageUrl seen records).raised = none) :
    ∃ parsed, parsedRecords library python records = .ok parsed ∧
      ∀ record ∈ newRecords seen parsed, Buildable library python listPageUrl record := by
  induction records generalizing seen with
  | nil => exact ⟨[], rfl, fun _ h ↦ absurd h List.not_mem_nil⟩
  | cons record records ih =>
    cases record with
    | dict entries =>
      rw [parsedRecords_dict]
      unfold readRecords at h
      cases hfirst : parseListRecord library python entries with
      | error error =>
        rw [hfirst] at h
        cases h
      | ok first =>
        rw [hfirst] at h
        cases first with
        | none =>
          obtain ⟨parsed, hparsed, hbuildable⟩ := ih h
          rw [hparsed]
          exact ⟨parsed, rfl, hbuildable⟩
        | some record =>
          dsimp only at h
          by_cases hseen : seen.contains record.sourceDuplicateKey
          · rw [if_pos hseen] at h
            obtain ⟨parsed, hparsed, hbuildable⟩ := ih h
            rw [hparsed]
            have hfirsts : newRecords seen (record :: parsed) = newRecords seen parsed :=
              if_pos (List.contains_iff_mem.mp hseen)
            exact ⟨record :: parsed, rfl, hfirsts ▸ hbuildable⟩
          · rw [if_neg hseen] at h
            split at h
            · cases h
            · rename_i yields hyields
              obtain ⟨parsed, hparsed, hbuildable⟩ := ih h
              rw [hparsed]
              have hfirsts : newRecords seen (record :: parsed) =
                  record :: newRecords (record.sourceDuplicateKey :: seen) parsed :=
                if_neg fun hmem ↦ hseen (List.contains_iff_mem.mpr hmem)
              refine ⟨record :: parsed, rfl, ?_⟩
              rw [hfirsts]
              intro other hother
              rcases List.mem_cons.mp hother with rfl | hlater
              · exact buildable_of_recordYields hyields
              · exact hbuildable other hlater
    | _ => exact ih h

/-! ### Records that can be read -/

/-- A record whose URL, date and identifier are converted without an exception, and that has a digest. -/
structure ConvertibleRecord (library : ListLibrary) (python : Python) (entries : List (String × Json)) : Prop where
  url : ∃ detailUrl, recordDetailUrl library python entries = .ok detailUrl ∧
    (normalizeDetailUrl python (Value.ofText detailUrl)).isOk ∧
    (extractExternalId library python entries detailUrl).isOk
  date : (normalizePublishedDate python (Value.ofText (recordDate library python entries))).isOk
  digest : (library.digest entries).isOk

theorem exists_of_isOk {ε α : Type} {program : Except ε α} (h : program.isOk) : ∃ value, program = .ok value := by
  cases program with
  | error error => cases h
  | ok value => exact ⟨value, rfl⟩

theorem isOk_of_eq {ε α : Type} {program : Except ε α} {value : α} (h : program = .ok value) : program.isOk := by
  rw [h]
  rfl

/-- A record is parsed, or left out, exactly if its conversions succeed. -/
theorem isOk_parseListRecord {entries : List (String × Json)} : (parseListRecord library python entries).isOk ↔
    ((recordTitle library python entries).isSome → ConvertibleRecord library python entries) := by
  unfold parseListRecord
  cases htitle : recordTitle library python entries with
  | none => exact ⟨fun _ h ↦ (nomatch h), fun _ ↦ rfl⟩
  | some title =>
    dsimp only
    constructor
    · intro h _
      obtain ⟨result, h⟩ := exists_of_isOk h
      obtain ⟨detailUrl, hdetailUrl, h⟩ := bind_eq_ok.mp h
      obtain ⟨normalized, hnormalized, h⟩ := bind_eq_ok.mp h
      obtain ⟨publishedDate, hpublishedDate, h⟩ := bind_eq_ok.mp h
      obtain ⟨externalId, hexternalId, h⟩ := bind_eq_ok.mp h
      obtain ⟨digest, hdigest, -⟩ := bind_eq_ok.mp h
      exact ⟨⟨detailUrl, hdetailUrl, isOk_of_eq hnormalized, isOk_of_eq hexternalId⟩, isOk_of_eq hpublishedDate,
        isOk_of_eq hdigest⟩
    · intro h
      obtain ⟨⟨detailUrl, hdetailUrl, hnormalized, hexternalId⟩, hdate, hdigest⟩ := h rfl
      obtain ⟨normalized, hnormalized⟩ := exists_of_isOk hnormalized
      obtain ⟨externalId, hexternalId⟩ := exists_of_isOk hexternalId
      obtain ⟨publishedDate, hpublishedDate⟩ := exists_of_isOk hdate
      obtain ⟨digest, hdigest⟩ := exists_of_isOk hdigest
      rw [hdetailUrl, ok_bind, hnormalized, ok_bind, hpublishedDate, ok_bind, hexternalId, ok_bind, hdigest]
      rfl

/-- A record is read as one with its title, or as none. -/
theorem isSome_of_parseListRecord {entries : List (String × Json)} {result : Option GgzyGovCnDealListRecord}
    (h : parseListRecord library python entries = .ok result) :
    result.isSome = (recordTitle library python entries).isSome := by
  unfold parseListRecord at h
  cases htitle : recordTitle library python entries with
  | none =>
    rw [htitle] at h
    rw [← Except.ok.inj h]
    rfl
  | some title =>
    rw [htitle] at h
    dsimp only at h
    obtain ⟨detailUrl, -, h⟩ := bind_eq_ok.mp h
    obtain ⟨normalized, -, h⟩ := bind_eq_ok.mp h
    obtain ⟨publishedDate, -, h⟩ := bind_eq_ok.mp h
    obtain ⟨externalId, -, h⟩ := bind_eq_ok.mp h
    obtain ⟨digest, -, h⟩ := bind_eq_ok.mp h
    rw [← Except.ok.inj h]
    rfl

/-- The records are parsed where each one with a title converts. -/
theorem isOk_parsedRecords {records : List Json} : (parsedRecords library python records).isOk ↔
    ∀ entries ∈ dicts records, (recordTitle library python entries).isSome → ConvertibleRecord library python entries := by
  induction records with
  | nil => exact ⟨fun _ _ h ↦ absurd h List.not_mem_nil, fun _ ↦ rfl⟩
  | cons record records ih =>
    cases record with
    | dict entries =>
      have hdicts : dicts (.dict entries :: records) = entries :: dicts records := rfl
      rw [hdicts, List.forall_mem_cons, ← ih, ← isOk_parseListRecord, parsedRecords_dict]
      cases parseListRecord library python entries with
      | error error => exact ⟨fun h ↦ (nomatch h), fun h ↦ (nomatch h.1)⟩
      | ok first =>
        cases parsedRecords library python records with
        | error error => exact ⟨fun h ↦ (nomatch h), fun h ↦ (nomatch h.2)⟩
        | ok later => exact ⟨fun _ ↦ ⟨rfl, rfl⟩, fun _ ↦ rfl⟩
    | _ => exact ih

/-- The records that are no objects or have no title -/
def untitled (library : ListLibrary) (python : Python) (records : List Json) : List Json :=
  records.filter fun record ↦ !isTitled library python record

/-- The records of a page are parsed, or have no title. -/
theorem length_parsedRecords {records : List Json} {parsed : List GgzyGovCnDealListRecord}
    (h : parsedRecords library python records = .ok parsed) :
    parsed.length + (untitled library python records).length = records.length := by
  induction records generalizing parsed with
  | nil =>
    rw [← Except.ok.inj h]
    rfl
  | cons record records ih =>
    cases record with
    | dict entries =>
      obtain ⟨first, later, hfirst, hlater, rfl⟩ := parsedRecords_of_dict h
      have hlength := ih hlater
      have htitled : isTitled library python (.dict entries) = first.isSome := (isSome_of_parseListRecord hfirst).symm
      unfold untitled at hlength ⊢
      rw [List.filter_cons, htitled, List.length_append, List.length_cons]
      cases first with
      | none =>
        simp only [Option.isSome_none, Bool.not_false, if_true, Option.toList_none, List.length_nil, List.length_cons]
        omega
      | some record =>
        simp only [Option.isSome_some, Bool.not_true, Option.toList_some, List.length_singleton]
        simp only [Bool.false_eq_true, if_false]
        omega
    | _ =>
      have hlength := ih h
      unfold untitled at hlength ⊢
      rw [List.filter_cons, if_pos (by rfl), List.length_cons, List.length_cons]
      omega

end Records

/-! ## Replies -/

section Replies

variable {library : ListLibrary} {python : Python} {text : String} {reply : ListReply}

/-- A text that is a JSON object with code 200 -/
def IsGoodBody (library : ListLibrary) (python : Python) (text : String) : Prop :=
  ∃ payload, library.loads text = .value (.dict payload) ∧ replyCode python payload = .ok 200

/-- A text that JSON decodes or refuses, and whose code is converted without an exception. -/
structure ConvertibleReply (library : ListLibrary) (python : Python) (text : String) : Prop where
  loads : ∀ error, library.loads text ≠ .raised error
  code : ∀ payload, library.loads text = .value (.dict payload) → (replyCode python payload).isOk

/-- A reply is read exactly if its conversions succeed. -/
theorem isOk_readReply : (readReply library python text).isOk ↔ ConvertibleReply library python text := by
  unfold readReply loadPayload
  constructor
  · intro h
    obtain ⟨reply, h⟩ := exists_of_isOk h
    obtain ⟨⟨payload, parseError⟩, hpayload, h⟩ := bind_eq_ok.mp h
    obtain ⟨code, hcode, -⟩ := bind_eq_ok.mp h
    constructor
    · intro error hraised
      rw [hraised] at hpayload
      cases hpayload
    · intro other hother
      rw [hother] at hpayload
      rw [(Prod.mk.inj (Except.ok.inj hpayload)).1]
      exact isOk_of_eq hcode
  · intro h
    have hempty : replyCode python [] = .ok 0 := rfl
    cases hloads : library.loads text with
    | raised error => exact absurd hloads (h.loads error)
    | decodeError error => rfl
    | value value =>
      cases value with
      | dict payload =>
        obtain ⟨code, hcode⟩ := exists_of_isOk (h.code payload hloads)
        change Except.isOk (replyCode python payload >>= _) = true
        rw [hcode]
        rfl
      | _ => rfl

/-- A page has no crawl error exactly if its body is an object with code 200. -/
theorem error_eq_none_iff (h : readReply library python text = .ok reply) :
    reply.error = none ↔ IsGoodBody library python text := by
  unfold readReply at h
  obtain ⟨⟨payload, parseError⟩, hpayload, h⟩ := bind_eq_ok.mp h
  obtain ⟨code, hcode, h⟩ := bind_eq_ok.mp h
  rw [← Except.ok.inj h]
  unfold ListReply.error IsGoodBody
  dsimp only
  unfold loadPayload at hpayload
  cases hloads : library.loads text with
  | raised error =>
    rw [hloads] at hpayload
    cases hpayload
  | decodeError error =>
    rw [hloads] at hpayload
    rw [← (Prod.mk.inj (Except.ok.inj hpayload)).2]
    exact ⟨fun h ↦ (nomatch h), fun ⟨_, h, _⟩ ↦ (nomatch h)⟩
  | value value =>
    rw [hloads] at hpayload
    cases value with
    | dict entries =>
      obtain ⟨rfl, rfl⟩ := Prod.mk.inj (Except.ok.inj hpayload)
      dsimp only at hcode ⊢
      constructor
      · intro hnone
        split at hnone
        · rename_i hcode200
          exact ⟨entries, rfl, hcode200 ▸ hcode⟩
        · split at hnone <;> cases hnone
      · rintro ⟨payload, hvalue, hgood⟩
        obtain rfl : entries = payload := Json.dict.inj (Loaded.value.inj hvalue)
        rw [if_pos (Except.ok.inj (hcode.symm.trans hgood))]
    | _ =>
      rw [← (Prod.mk.inj (Except.ok.inj hpayload)).2]
      exact ⟨fun h ↦ (nomatch h), fun ⟨_, h, _⟩ ↦ (nomatch h)⟩

end Replies

/-! ## Calls -/

def Yielded.asDocument : Yielded → Option Item
  | .rawDocument item => some item
  | _ => none

def Yielded.asCrawlError : Yielded → Option Item
  | .crawlError item => some item
  | _ => none

def Yielded.asListRequest : Yielded → Option ListRequest
  | .listRequest request => some request
  | _ => none

def Yielded.asNotice : Yielded → Option Item
  | .notice item => some item
  | _ => none

/-- Whether something is yielded for a record. -/
def Yielded.ofRecord : Yielded → Bool
  | .notice _ | .version _ | .detailRequest _ _ => true
  | _ => false

section Calls

variable (library : ListLibrary) (python : Python) (config : DealConfig) (listPageUrl : String) (spider : DealSpider)
  (response : Spiders.TextResponse) (page : ℕ)

/-- A page whose conversions all succeed; on a page with an error, no record has a title. -/
structure ConvertiblePage (reply : ListReply) : Prop where
  records : reply.error = none → ∀ entries ∈ dicts reply.records, (recordTitle library python entries).isSome →
    ConvertibleRecord library python entries
  built : reply.error = none → ∀ parsed, parsedRecords library python reply.records = .ok parsed →
    ∀ record ∈ newRecords spider.seenSourceDuplicateKeys parsed, Buildable library python listPageUrl record
  untitled : reply.error ≠ none → untitled library python reply.records = reply.records
  document : (normalizeUrl python (listRawUrl config page)).isOk

/-- A call that accounts for every record of its page. -/
structure PageIsolated (reply : ListReply) (call : ListCall) : Prop where
  finished : call.raised = none
  /-- One document, with its figures: the new items are those with a notice, the skipped ones those that the
  spider has counted. -/
  document : ∃ document fields, call.yields.filterMap Yielded.asDocument = [document] ∧ document.extraMeta = some fields ∧
    fields.get "role" = some (.str "list") ∧
    fields.get "page_item_count" = some (.ofInt reply.records.length) ∧
    fields.get "new_unique_item_count" = some (.ofInt (call.yields.filterMap Yielded.asNotice).length) ∧
    fields.get "page_source_duplicates_skipped" =
      some (.ofInt (call.spider.listItemsSourceDuplicatesSkipped - spider.listItemsSourceDuplicatesSkipped))
  balance : (reply.records.length : ℤ) = (call.yields.filterMap Yielded.asNotice).length +
    (call.spider.listItemsSourceDuplicatesSkipped - spider.listItemsSourceDuplicatesSkipped) +
    (untitled library python reply.records).length
  /-- The notice, the version and the request of exactly the records with a new key. -/
  records : ∃ parsed parts,
    (if reply.error.isSome then parsed = [] else parsedRecords library python reply.records = .ok parsed) ∧
    List.Forall₂ (RecordItems python config listPageUrl) (newRecords spider.seenSourceDuplicateKeys parsed) parts ∧
    call.yields.filter Yielded.ofRecord = parts.flatten ∧
    call.spider.seenSourceDuplicateKeys =
      seenAfter GgzyGovCnDealListRecord.sourceDuplicateKey spider.seenSourceDuplicateKeys parsed
  noError : IsGoodBody library python response.text → call.yields.filterMap Yielded.asCrawlError = []
  error : ¬ IsGoodBody library python response.text → ∃ item, call.yields.filterMap Yielded.asCrawlError = [item]
  next : ∀ request, request ∈ call.yields.filterMap Yielded.asListRequest ↔
    request = buildListRequest config (page + 1) listPageUrl ∧ IsGoodBody library python response.text ∧
      (∃ pages ∈ reply.pages, (page : ℤ) < pages) ∧ ∀ maxPages ∈ config.maxPages, page < maxPages
  once : (call.yields.filterMap Yielded.asListRequest).length ≤ 1

/-! ### The parts of what a call yields -/

variable {library python config listPageUrl spider response page} {reply : ListReply}

theorem RecordItems.ofRecord {record : GgzyGovCnDealListRecord} {yields : List Yielded}
    (h : RecordItems python config listPageUrl record yields) : ∀ yielded ∈ yields, yielded.ofRecord = true := by
  obtain ⟨version, -, rfl⟩ := h
  intro yielded hyielded
  rcases List.mem_cons.mp hyielded with rfl | hyielded
  · rfl
  rcases List.mem_cons.mp hyielded with rfl | hyielded
  · rfl
  obtain ⟨url, -, rfl⟩ := List.mem_map.mp hyielded
  rfl

theorem RecordItems.asNotice {record : GgzyGovCnDealListRecord} {yields : List Yielded}
    (h : RecordItems python config listPageUrl record yields) : (yields.filterMap Yielded.asNotice).length = 1 := by
  obtain ⟨version, -, rfl⟩ := h
  have hnone : ((record.detailUrl.bind nonEmpty).toList.map fun url ↦ Yielded.detailRequest url record).filterMap
      Yielded.asNotice = [] := by
    rw [List.filterMap_map, List.filterMap_eq_nil_iff]
    exact fun _ _ ↦ rfl
  exact congrArg (fun rest : List Item ↦ rest.length + 1) hnone

theorem ofRecord_of_parts {records : List GgzyGovCnDealListRecord} {parts : List (List Yielded)}
    (h : List.Forall₂ (RecordItems python config listPageUrl) records parts) :
    ∀ yielded ∈ parts.flatten, yielded.ofRecord = true := by
  induction h with
  | nil => exact fun _ h ↦ absurd h List.not_mem_nil
  | cons hitems _ ih =>
    intro yielded hyielded
    rcases List.mem_append.mp (List.flatten_cons ▸ hyielded) with hfirst | hlater
    · exact hitems.ofRecord yielded hfirst
    · exact ih yielded hlater

theorem length_asNotice_parts {records : List GgzyGovCnDealListRecord} {parts : List (List Yielded)}
    (h : List.Forall₂ (RecordItems python config listPageUrl) records parts) :
    (parts.flatten.filterMap Yielded.asNotice).length = records.length := by
  induction h with
  | nil => rfl
  | cons hitems _ ih =>
    rw [List.flatten_cons, List.filterMap_append, List.length_append, hitems.asNotice, ih, List.length_cons, Nat.add_comm]

/-- What is yielded for records is nothing else. -/
theorem filterMap_eq_nil_of_ofRecord {β : Type} {kind : Yielded → Option β} {yields : List Yielded}
    (h : ∀ yielded ∈ yields, yielded.ofRecord = true) (hkind : ∀ yielded, yielded.ofRecord = true → kind yielded = none) :
    yields.filterMap kind = [] :=
  List.filterMap_eq_nil_iff.mpr fun yielded hyielded ↦ hkind yielded (h yielded hyielded)

theorem asDocument_of_ofRecord (yielded : Yielded) (h : yielded.ofRecord = true) : yielded.asDocument = none := by
  cases yielded with
  | rawDocument item => cases h
  | _ => rfl

theorem asCrawlError_of_ofRecord (yielded : Yielded) (h : yielded.ofRecord = true) : yielded.asCrawlError = none := by
  cases yielded with
  | crawlError item => cases h
  | _ => rfl

theorem asListRequest_of_ofRecord (yielded : Yielded) (h : yielded.ofRecord = true) : yielded.asListRequest = none := by
  cases yielded with
  | listRequest request => cases h
  | _ => rfl

variable (python config listPageUrl response page reply) in
/-- What comes after the document: a crawl error, a request or nothing. -/
theorem closingYields_cases (fetchedAt : DateTime) :
    (∃ message item, reply.error = some message ∧
        closingYields python config listPageUrl response page fetchedAt reply = [.crawlError item]) ∨
      reply.error = none ∧
        ((closingYields python config listPageUrl response page fetchedAt reply =
              [.listRequest (buildListRequest config (page + 1) listPageUrl)] ∧
            (∃ pages ∈ reply.pages, (page : ℤ) < pages) ∧ ∀ maxPages ∈ config.maxPages, page < maxPages) ∨
          closingYields python config listPageUrl response page fetchedAt reply = [] ∧
            ¬ ((∃ pages ∈ reply.pages, (page : ℤ) < pages) ∧ ∀ maxPages ∈ config.maxPages, page < maxPages)) := by
  unfold closingYields
  cases herror : reply.error with
  | some message => exact Or.inl ⟨message, _, rfl, rfl⟩
  | none =>
    refine Or.inr ⟨rfl, ?_⟩
    dsimp only
    unfold nextRequests
    split
    · rename_i hmax
      obtain ⟨maxPages, hmaxPages, hle⟩ := (Option.any_eq_true _ _).mp hmax
      refine Or.inr ⟨rfl, fun ⟨_, hbelow⟩ ↦ ?_⟩
      exact absurd (hbelow maxPages hmaxPages) (not_lt.mpr (of_decide_eq_true hle))
    · rename_i hmax
      split
      · rename_i hpages
        obtain ⟨pages, hsome, hless⟩ := (Option.any_eq_true _ _).mp hpages
        refine Or.inl ⟨rfl, ⟨pages, hsome, (of_decide_eq_true hless).2⟩, fun maxPages hmaxPages ↦ ?_⟩
        by_contra hle
        exact hmax ((Option.any_eq_true _ _).mpr ⟨maxPages, hmaxPages, decide_eq_true (not_lt.mp hle)⟩)
      · rename_i hpages
        refine Or.inr ⟨rfl, fun ⟨⟨pages, hsome, hless⟩, _⟩ ↦ ?_⟩
        exact hpages ((Option.any_eq_true _ _).mpr ⟨pages, hsome, decide_eq_true ⟨by omega, hless⟩⟩)

/-- It is no document and no notice. -/
theorem filterMap_closingYields {β : Type} {kind : Yielded → Option β} (fetchedAt : DateTime)
    (herror : ∀ item, kind (.crawlError item) = none) (hrequest : ∀ request, kind (.listRequest request) = none) :
    (closingYields python config listPageUrl response page fetchedAt reply).filterMap kind = [] := by
  rcases closingYields_cases python config listPageUrl response page reply fetchedAt with
    ⟨message, item, -, hitem⟩ | ⟨-, ⟨hyielded, -⟩ | ⟨hnothing, -⟩⟩
  · rw [hitem, List.filterMap_cons_none (herror item), List.filterMap_nil]
  · rw [hyielded, List.filterMap_cons_none (hrequest _), List.filterMap_nil]
  · rw [hnothing, List.filterMap_nil]

theorem filter_ofRecord_closingYields (fetchedAt : DateTime) :
    (closingYields python config listPageUrl response page fetchedAt reply).filter Yielded.ofRecord = [] := by
  rcases closingYields_cases python config listPageUrl response page reply fetchedAt with
    ⟨message, item, -, hitem⟩ | ⟨-, ⟨hyielded, -⟩ | ⟨hnothing, -⟩⟩
  · rw [hitem]
    rfl
  · rw [hyielded]
    rfl
  · rw [hnothing]
    rfl

theorem length_closingYields_le (fetchedAt : DateTime) :
    (closingYields python config listPageUrl response page fetchedAt reply).length ≤ 1 := by
  rcases closingYields_cases python config listPageUrl response page reply fetchedAt with
    ⟨message, item, -, hitem⟩ | ⟨-, ⟨hyielded, -⟩ | ⟨hnothing, -⟩⟩
  · rw [hitem, List.length_singleton]
  · rw [hyielded, List.length_singleton]
  · rw [hnothing, List.length_nil]
    exact Nat.zero_le 1

/-- The call with a reply, as far as it does not raise. -/
theorem parseListPage_eq (fetchedAt : DateTime) (hreply : readReply library python response.text = .ok reply)
    {read : RecordsRead}
    (hread : (if reply.error.isNone then
        readRecords library python config listPageUrl spider.seenSourceDuplicateKeys reply.records
      else ⟨spider.seenSourceDuplicateKeys, [], 0, 0, none⟩) = read) (hnone : read.raised = none)
    {normalized : String} (hnormalized : normalizeUrl python (listRawUrl config page) = .ok normalized) :
    ∃ call document, parseListPage library python config listPageUrl spider response page fetchedAt = call ∧
      call.raised = none ∧ call.spider.seenSourceDuplicateKeys = read.seen ∧
      call.spider.listItemsSourceDuplicatesSkipped = spider.listItemsSourceDuplicatesSkipped + read.skipped ∧
      call.yields = read.yields ++ .rawDocument document ::
        closingYields python config listPageUrl response page fetchedAt reply ∧
      document.extraMeta = some (listPageMeta config listPageUrl call.spider page reply read) := by
  unfold parseListPage
  rw [hreply]
  dsimp only
  rw [hread, hnone]
  dsimp only
  rw [hnormalized]
  exact ⟨_, _, rfl, rfl, rfl, rfl, rfl, rfl⟩

/-- What a call makes of a page whose records are read: it accounts for them. -/
theorem pageIsolated_of_read {fetchedAt : DateTime} {parsed : List GgzyGovCnDealListRecord} {parts : List (List Yielded)}
    {skipped : ℕ} (hreply : readReply library python response.text = .ok reply)
    (hparsed : if reply.error.isSome then parsed = [] else parsedRecords library python reply.records = .ok parsed)
    (hparts : List.Forall₂ (RecordItems python config listPageUrl) (newRecords spider.seenSourceDuplicateKeys parsed) parts)
    (hcount : (newRecords spider.seenSourceDuplicateKeys parsed).length + skipped +
      (untitled library python reply.records).length = reply.records.length)
    (hread : (if reply.error.isNone then
        readRecords library python config listPageUrl spider.seenSourceDuplicateKeys reply.records
      else ⟨spider.seenSourceDuplicateKeys, [], 0, 0, none⟩) =
        ⟨seenAfter GgzyGovCnDealListRecord.sourceDuplicateKey spider.seenSourceDuplicateKeys parsed, parts.flatten,
          (newRecords spider.seenSourceDuplicateKeys parsed).length, skipped, none⟩)
    (hdocument : (normalizeUrl python (listRawUrl config page)).isOk) :
    PageIsolated library python config listPageUrl spider response page reply
      (parseListPage library python config listPageUrl spider response page fetchedAt) := by
  obtain ⟨normalized, hnormalized⟩ := exists_of_isOk hdocument
  obtain ⟨call, document, hcall, hraised, hseen, hskipped, hyields, hmeta⟩ :=
    parseListPage_eq fetchedAt hreply hread rfl hnormalized
  have hrecords := ofRecord_of_parts hparts
  have hparted {β : Type} {kind : Yielded → Option β} (hkind : ∀ yielded, yielded.ofRecord = true → kind yielded = none) :
      call.yields.filterMap kind = (Yielded.rawDocument document ::
        closingYields python config listPageUrl response page fetchedAt reply).filterMap kind := by
    rw [hyields, List.filterMap_append, filterMap_eq_nil_of_ofRecord hrecords hkind, List.nil_append]
  have hclosing := closingYields_cases python config listPageUrl response page reply fetchedAt
  have hgood := error_eq_none_iff hreply
  have hnotices : (call.yields.filterMap Yielded.asNotice).length =
      (newRecords spider.seenSourceDuplicateKeys parsed).length := by
    rw [hyields, List.filterMap_append, List.length_append, length_asNotice_parts hparts, List.filterMap_cons_none rfl,
      filterMap_closingYields fetchedAt (fun _ ↦ rfl) (fun _ ↦ rfl), List.length_nil, Nat.add_zero]
  have hincrease : call.spider.listItemsSourceDuplicatesSkipped - spider.listItemsSourceDuplicatesSkipped = skipped := by
    rw [hskipped]
    change spider.listItemsSourceDuplicatesSkipped + (skipped : ℤ) - spider.listItemsSourceDuplicatesSkipped = skipped
    omega
  have hdocuments := hparted asDocument_of_ofRecord
  have herrors := hparted asCrawlError_of_ofRecord
  have hrequests := hparted asListRequest_of_ofRecord
  rw [hcall]
  refine
    { finished := hraised
      document := ⟨document, _, ?_, hmeta, rfl, rfl, ?_, ?_⟩
      balance := ?_
      records := ⟨parsed, parts, hparsed, hparts, ?_, hseen⟩
      noError := ?_
      error := ?_
      next := ?_
      once := ?_ }
  · have hsome : (Yielded.rawDocument document).asDocument = some document := rfl
    rw [hdocuments, List.filterMap_cons_some hsome, filterMap_closingYields fetchedAt (fun _ ↦ rfl) (fun _ ↦ rfl)]
  · rw [hnotices]
    rfl
  · rw [hincrease]
    rfl
  · rw [hnotices, hincrease, ← hcount]
    push_cast
    rfl
  · rw [hyields, List.filter_append, List.filter_eq_self.mpr hrecords, List.filter_cons_of_neg Bool.false_ne_true,
      filter_ofRecord_closingYields, List.append_nil]
  · intro hbody
    rw [herrors]
    rcases hclosing with ⟨message, item, hmessage, -⟩ | ⟨-, ⟨hrequest, -⟩ | ⟨hnothing, -⟩⟩
    · cases hmessage.symm.trans (hgood.mpr hbody)
    · rw [hrequest]
      rfl
    · rw [hnothing]
      rfl
  · intro hbody
    rw [herrors]
    rcases hclosing with ⟨message, item, -, hitem⟩ | ⟨hnone, -⟩
    · rw [hitem]
      exact ⟨item, rfl⟩
    · exact absurd (hgood.mp hnone) hbody
  · intro request
    rw [hrequests]
    rcases hclosing with ⟨message, item, hmessage, hitem⟩ | ⟨hnone, ⟨hrequest, hpages⟩ | ⟨hnothing, hpages⟩⟩
    · rw [hitem]
      refine ⟨fun h ↦ absurd h List.not_mem_nil, fun ⟨_, hbody, _⟩ ↦ ?_⟩
      cases hmessage.symm.trans (hgood.mpr hbody)
    · rw [hrequest]
      exact ⟨fun h ↦ ⟨List.mem_singleton.mp h, hgood.mp hnone, hpages⟩, fun h ↦ List.mem_singleton.mpr h.1⟩
    · rw [hnothing]
      exact ⟨fun h ↦ absurd h List.not_mem_nil, fun h ↦ absurd h.2.2 hpages⟩
  · rw [hrequests, List.filterMap_cons_none rfl]
    exact (List.length_filterMap_le _ _).trans (length_closingYields_le fetchedAt)

/-- A page whose conversions all succeed is accounted for. -/
theorem pageIsolated_of_convertible {fetchedAt : DateTime} (hreply : readReply library python response.text = .ok reply)
    (h : ConvertiblePage library python config listPageUrl spider page reply) :
    PageIsolated library python config listPageUrl spider response page reply
      (parseListPage library python config listPageUrl spider response page fetchedAt) := by
  cases herror : reply.error with
  | some message =>
    have huntitled := h.untitled (by rw [herror]; exact fun h ↦ (nomatch h))
    have hparts : List.Forall₂ (RecordItems python config listPageUrl)
        (newRecords spider.seenSourceDuplicateKeys []) [] := .nil
    have hcount : (newRecords spider.seenSourceDuplicateKeys []).length + 0 +
        (untitled library python reply.records).length = reply.records.length := by
      rw [huntitled]
      exact Nat.zero_add _
    exact pageIsolated_of_read hreply (by rw [herror]; rfl) hparts hcount (by rw [herror]; rfl) h.document
  | none =>
    obtain ⟨parsed, hparsed⟩ := exists_of_isOk (isOk_parsedRecords.mpr (h.records herror))
    obtain ⟨parts, skipped, hparts, hlength, hread⟩ := readRecords_eq config hparsed (h.built herror parsed hparsed)
    have htotal := length_parsedRecords hparsed
    have hcount : (newRecords spider.seenSourceDuplicateKeys parsed).length + skipped +
        (untitled library python reply.records).length = reply.records.length := by omega
    refine pageIsolated_of_read hreply ?_ hparts hcount ?_ h.document
    · rw [herror]
      exact hparsed
    · rw [herror]
      exact hread

/-- No exception ends a call: neither the loop over the records nor the URL of the document raises. -/
theorem raised_eq_none {fetchedAt : DateTime} (hreply : readReply library python response.text = .ok reply)
    (hfinished : (parseListPage library python config listPageUrl spider response page fetchedAt).raised = none) :
    (if reply.error.isNone then
        readRecords library python config listPageUrl spider.seenSourceDuplicateKeys reply.records
      else ⟨spider.seenSourceDuplicateKeys, [], 0, 0, none⟩).raised = none ∧
      ∃ normalized, normalizeUrl python (listRawUrl config page) = .ok normalized := by
  unfold parseListPage at hfinished
  rw [hreply] at hfinished
  dsimp only at hfinished
  split at hfinished
  · cases hfinished
  · rename_i hread
    cases hnormalized : normalizeUrl python (listRawUrl config page) with
    | error error =>
      rw [hnormalized] at hfinished
      cases hfinished
    | ok normalized => exact ⟨hread, normalized, rfl⟩

/-- A call that no exception ends, on whose page with an error no record has a title, has had nothing to convert
in vain. -/
theorem convertible_of_finished {fetchedAt : DateTime} (hreply : readReply library python response.text = .ok reply)
    (hfinished : (parseListPage library python config listPageUrl spider response page fetchedAt).raised = none)
    (huntitled : reply.error ≠ none → untitled library python reply.records = reply.records) :
    ConvertiblePage library python config listPageUrl spider page reply := by
  obtain ⟨hread, normalized, hnormalized⟩ := raised_eq_none hreply hfinished
  have hreadable (hnone : reply.error = none) := by
    rw [hnone] at hread
    exact readable_of_readRecords hread
  exact
    { records := by
        intro hnone
        obtain ⟨parsed, hparsed, -⟩ := hreadable hnone
        exact isOk_parsedRecords.mp (isOk_of_eq hparsed)
      built := by
        intro hnone parsed hparsed
        obtain ⟨other, hother, hbuildable⟩ := hreadable hnone
        obtain rfl : other = parsed := Except.ok.inj (hother.symm.trans hparsed)
        exact hbuildable
      untitled := huntitled
      document := isOk_of_eq hnormalized }

/-- Where a page with an error is accounted for, none of its records has a title. -/
theorem untitled_of_isolated {fetchedAt : DateTime} (hreply : readReply library python response.text = .ok reply)
    (h : PageIsolated library python config listPageUrl spider response page reply
      (parseListPage library python config listPageUrl spider response page fetchedAt)) (herror : reply.error ≠ none) :
    untitled library python reply.records = reply.records := by
  obtain ⟨-, normalized, hnormalized⟩ := raised_eq_none hreply h.finished
  obtain ⟨message, hmessage⟩ := Option.ne_none_iff_exists'.mp herror
  have hread : (if reply.error.isNone then
      readRecords library python config listPageUrl spider.seenSourceDuplicateKeys reply.records
    else ⟨spider.seenSourceDuplicateKeys, [], 0, 0, none⟩) = ⟨spider.seenSourceDuplicateKeys, [], 0, 0, none⟩ := by
    rw [hmessage]
    rfl
  obtain ⟨call, document, hcall, -, -, hskipped, hyields, -⟩ := parseListPage_eq fetchedAt hreply hread rfl hnormalized
  have hbalance := h.balance
  rw [hcall, hskipped, hyields] at hbalance
  have hnotices : (([] : List Yielded) ++ .rawDocument document ::
      closingYields python config listPageUrl response page fetchedAt reply).filterMap Yielded.asNotice = [] := by
    rcases closingYields_cases python config listPageUrl response page reply fetchedAt with
      ⟨-, item, -, hitem⟩ | ⟨hnone, -⟩
    · rw [hitem]
      rfl
    · exact absurd hnone herror
  rw [hnotices] at hbalance
  have hlength : (untitled library python reply.records).length = reply.records.length := by
    rw [List.length_nil] at hbalance
    push_cast at hbalance
    omega
  exact List.filter_eq_self.mpr (List.length_filter_eq_length_iff.mp hlength)

end Calls

/-! ## Runs -/

section Runs

variable (library : ListLibrary) (python : Python) (config : DealConfig) (listPageUrl : String)

/-- Every conversion of a reply and its page succeeds. -/
def PageConvertible (spider : DealSpider) (response : Spiders.TextResponse) (page : ℕ) : Prop :=
  ConvertibleReply library python response.text ∧ ∀ reply, readReply library python response.text = .ok reply →
    ConvertiblePage library python config listPageUrl spider page reply

/-- A page of the list, with the number that it was requested by. -/
structure PageAnswer where
  response : Spiders.TextResponse
  page : ℕ
  fetchedAt : DateTime

/-- The spider, what its calls have yielded, and the records that they could read. -/
structure DealRun where
  spider : DealSpider := {}
  yields : List Yielded := []
  records : List GgzyGovCnDealListRecord := []

def pageRecords (text : String) : List GgzyGovCnDealListRecord :=
  match readReply library python text with
  | .error _ => []
  | .ok reply => if reply.error.isSome then [] else (parsedRecords library python reply.records).toOption.getD []

def DealRun.step (run : DealRun) (answer : PageAnswer) : DealRun :=
  let call := parseListPage library python config listPageUrl run.spider answer.response answer.page answer.fetchedAt
  ⟨call.spider, run.yields ++ call.yields, run.records ++ pageRecords library python answer.response.text⟩

/-- The items of exactly the records with the first occurrence of a key in the run. -/
structure RecordsAccounted (run : DealRun) : Prop where
  seen : run.spider.seenSourceDuplicateKeys = seenAfter GgzyGovCnDealListRecord.sourceDuplicateKey [] run.records
  items : ∃ parts, List.Forall₂ (RecordItems python config listPageUrl) (newRecords [] run.records) parts ∧
    run.yields.filter Yielded.ofRecord = parts.flatten

variable {library python config listPageUrl}

theorem pageRecords_eq {text : String} {reply : ListReply} {parsed : List GgzyGovCnDealListRecord}
    (hreply : readReply library python text = .ok reply)
    (hparsed : if reply.error.isSome then parsed = [] else parsedRecords library python reply.records = .ok parsed) :
    pageRecords library python text = parsed := by
  unfold pageRecords
  rw [hreply]
  dsimp only
  split
  · rename_i herror
    rw [if_pos herror] at hparsed
    exact hparsed.symm
  · rename_i herror
    rw [if_neg herror] at hparsed
    rw [hparsed]
    rfl

/-- A page is accounted for exactly if its conversions succeed. -/
theorem pageIsolated_iff {spider : DealSpider} {response : Spiders.TextResponse} {page : ℕ} (fetchedAt : DateTime) :
    (∃ reply, readReply library python response.text = .ok reply ∧
        PageIsolated library python config listPageUrl spider response page reply
          (parseListPage library python config listPageUrl spider response page fetchedAt)) ↔
      PageConvertible library python config listPageUrl spider response page := by
  constructor
  · rintro ⟨reply, hreply, hisolated⟩
    refine ⟨isOk_readReply.mp (isOk_of_eq hreply), fun other hother ↦ ?_⟩
    obtain rfl : reply = other := Except.ok.inj (hreply.symm.trans hother)
    exact convertible_of_finished hreply hisolated.finished (untitled_of_isolated hreply hisolated)
  · rintro ⟨hconvertible, hpage⟩
    obtain ⟨reply, hreply⟩ := exists_of_isOk (isOk_readReply.mpr hconvertible)
    exact ⟨reply, hreply, pageIsolated_of_convertible hreply (hpage reply hreply)⟩

/-- A page whose conversions succeed adds the items of its new records. -/
theorem RecordsAccounted.step {run : DealRun} {answer : PageAnswer}
    (h : RecordsAccounted python config listPageUrl run)
    (hpage : PageConvertible library python config listPageUrl run.spider answer.response answer.page) :
    RecordsAccounted python config listPageUrl (run.step library python config listPageUrl answer) := by
  obtain ⟨reply, hreply, hisolated⟩ := (pageIsolated_iff answer.fetchedAt).mpr hpage
  obtain ⟨parsed, parts, hparsed, hparts, hofRecord, hseen⟩ := hisolated.records
  obtain ⟨earlier, hearlier, hyields⟩ := h.items
  have hrecords : (run.step library python config listPageUrl answer).records = run.records ++ parsed := by
    rw [← pageRecords_eq hreply hparsed]
    rfl
  rw [h.seen] at hparts hseen
  constructor
  · rw [hrecords, seenAfter_append]
    exact hseen
  · have hnew : newRecords [] (run.records ++ parsed) = newRecords [] run.records ++
        newRecords (seenAfter GgzyGovCnDealListRecord.sourceDuplicateKey [] run.records) parsed :=
      firsts_append _ _ _ _
    rw [hrecords, hnew]
    refine ⟨earlier ++ parts, List.rel_append hearlier hparts, ?_⟩
    rw [List.flatten_append, ← hyields, ← hofRecord]
    exact List.filter_append _ _

/-- A call accounts for every record of its page exactly if every conversion on its way succeeds, whatever
the spider has seen. In a run all of whose pages are so, exactly the records with the first occurrence of a
key yield their items. -/
theorem listPages_isolated (library : ListLibrary) (python : Python) (config : DealConfig) (listPageUrl : String) :
    (∀ (spider : DealSpider) (response : Spiders.TextResponse) (page : ℕ) (fetchedAt : DateTime),
      (∃ reply, readReply library python response.text = .ok reply ∧
          PageIsolated library python config listPageUrl spider response page reply
            (parseListPage library python config listPageUrl spider response page fetchedAt)) ↔
        PageConvertible library python config listPageUrl spider response page) ∧
    ∀ answers : List PageAnswer,
      Along (DealRun.step library python config listPageUrl)
          (fun run answer ↦ PageConvertible library python config listPageUrl run.spider answer.response answer.page)
          {} answers →
        RecordsAccounted python config listPageUrl
          (answers.foldl (DealRun.step library python config listPageUrl) {}) := by
  refine ⟨fun _ _ _ fetchedAt ↦ pageIsolated_iff fetchedAt, fun answers hpages ↦ ?_⟩
  have hstart : RecordsAccounted python config listPageUrl {} := ⟨rfl, [], .nil, rfl⟩
  exact invariant_foldl (fun _ _ h hpage ↦ RecordsAccounted.step h hpage) {} answers hstart hpages

end Runs

/-! ## One date that is none -/

/-- Python with the calendar, and digests from which the texts can be read -/
def markingCalendarPython : Python :=
  { calendarPython with
    sha256Text := marked
    asStr_sha256Text := asStr_marked }

/-- A reply with three records, the second one of which has a thirteenth month. -/
def thirteenthMonthText : String :=
  "\x7b\"code\": 200, \"data\": \x7b\"pages\": 2, \"records\": [\x7b\"title\": \"bridge\"\x7d, " ++
    "\x7b\"title\": \"road\", \"publishTime\": \"2026-13-45\"\x7d, \x7b\"title\": \"school\"\x7d]\x7d\x7d"

def thirteenthMonthPayload : Json :=
  .dict [("code", .int 200), ("data", .dict [("pages", .int 2), ("records", .list
    [.dict [("title", .str "bridge")], .dict [("title", .str "road"), ("publishTime", .str "2026-13-45")],
      .dict [("title", .str "school")]])])]

def plainLibrary : ListLibrary where
  loads text :=
    if text = thirteenthMonthText then .value thirteenthMonthPayload
    else .decodeError "Expecting value: line 1 column 1 (char 0)"
  repr _ := ""
  urljoin base url := .ok (base ++ url)
  digest record := .ok (marked (String.intercalate "," (record.map Prod.fst)))
  request _ := .ok ()

def plainDealConfig : DealConfig := ⟨none, "manual", none, none, "1", "02", "0200", "02", "", none, none⟩

def thirteenthMonthResponse : Spiders.TextResponse where
  url := listApiUrl
  text := thirteenthMonthText
  status := 200
  contentType := "application/json"
  encoding := "utf-8"
  title := none
  urljoin := .ok

def thirteenthMonthCall : ListCall :=
  parseListPage plainLibrary markingCalendarPython plainDealConfig "https://www.ggzy.gov.cn/deal/dealList.html" {}
    thirteenthMonthResponse 1 epoch

/-- The call ends with `ValueError` when it has yielded the items of the first record: there is no document, no
request for the second page, and nothing of the third record. -/
theorem not_pageIsolated_thirteenthMonth :
    thirteenthMonthCall.raised = some .valueError ∧ thirteenthMonthCall.yields.length = 2 ∧
      (thirteenthMonthCall.yields.filterMap Yielded.asDocument).length = 0 ∧
      (thirteenthMonthCall.yields.filterMap Yielded.asListRequest).length = 0 ∧
      ∀ reply, ¬ PageIsolated plainLibrary markingCalendarPython plainDealConfig
        "https://www.ggzy.gov.cn/deal/dealList.html" {} thirteenthMonthResponse 1 reply thirteenthMonthCall := by
  have hraised : thirteenthMonthCall.raised = some .valueError ∧ thirteenthMonthCall.yields.length = 2 ∧
      (thirteenthMonthCall.yields.filterMap Yielded.asDocument).length = 0 ∧
      (thirteenthMonthCall.yields.filterMap Yielded.asListRequest).length = 0 := by decide +kernel
  refine ⟨hraised.1, hraised.2.1, hraised.2.2.1, hraised.2.2.2, fun reply h ↦ ?_⟩
  cases hraised.1.symm.trans h.finished

/-! ### A record that comes twice -/

/-- A reply with three records, the third one of which repeats the first one. -/
def repeatedText : String :=
  "\x7b\"code\": 200, \"data\": \x7b\"pages\": 1, \"records\": [\x7b\"title\": \"bridge\"\x7d, " ++
    "\x7b\"title\": \"road\", \"publishTime\": \"2026-03-05\"\x7d, \x7b\"title\": \"bridge\"\x7d]\x7d\x7d"

def repeatedPayload : Json :=
  .dict [("code", .int 200), ("data", .dict [("pages", .int 1), ("records", .list
    [.dict [("title", .str "bridge")], .dict [("title", .str "road"), ("publishTime", .str "2026-03-05")],
      .dict [("title", .str "bridge")]])])]

def repeatedLibrary : ListLibrary :=
  { plainLibrary with
    loads := fun text ↦
      if text = repeatedText then .value repeatedPayload
      else .decodeError "Expecting value: line 1 column 1 (char 0)" }

def repeatedAnswer : PageAnswer := ⟨{ thirteenthMonthResponse with text := repeatedText }, 1, epoch⟩

theorem pageConvertible_repeated : PageConvertible repeatedLibrary markingCalendarPython plainDealConfig
    "https://www.ggzy.gov.cn/deal/dealList.html" {} repeatedAnswer.response repeatedAnswer.page := by
  have hreads : ((readReply repeatedLibrary markingCalendarPython repeatedText).toOption.map ListReply.error) =
      some none := by decide +kernel
  have hfinished : (parseListPage repeatedLibrary markingCalendarPython plainDealConfig
      "https://www.ggzy.gov.cn/deal/dealList.html" {} repeatedAnswer.response repeatedAnswer.page epoch).raised =
        none := by decide +kernel
  refine ⟨isOk_readReply.mp (by decide +kernel), fun reply hreply ↦ convertible_of_finished hreply hfinished ?_⟩
  intro herror
  rw [show readReply repeatedLibrary markingCalendarPython repeatedText = .ok reply from hreply] at hreads
  exact absurd (Option.some.inj hreads) herror

/-- All three records are read, and two of them yield their items. -/
theorem listPages_isolated_repeated :
    let run := [repeatedAnswer].foldl
      (DealRun.step repeatedLibrary markingCalendarPython plainDealConfig "https://www.ggzy.gov.cn/deal/dealList.html") {}
    RecordsAccounted markingCalendarPython plainDealConfig "https://www.ggzy.gov.cn/deal/dealList.html" run ∧
      run.records.length = 3 ∧ (run.yields.filterMap Yielded.asNotice).length = 2 := by
  intro run
  have hfigures : run.records.length = 3 ∧ (run.yields.filterMap Yielded.asNotice).length = 2 := by decide +kernel
  exact ⟨(listPages_isolated repeatedLibrary markingCalendarPython plainDealConfig
    "https://www.ggzy.gov.cn/deal/dealList.html").2 [repeatedAnswer] ⟨pageConvertible_repeated, trivial⟩, hfigures⟩

end TenderPhase1.Spiders.GgzyGovCnDeal
