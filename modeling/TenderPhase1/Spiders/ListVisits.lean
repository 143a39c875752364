import TenderPhase1.Spiders.AnhuiListPage

/-!
# One visit to a page of the list

What one call of `parse` does to the spider and what it requests, said once: the page is left alone,
or counted and not read, or read. A page that is read has its items and their dates, and each item
in the window is requested or skipped.
-/

namespace TenderPhase1.Spiders.AnhuiGgzyZfcg

open PyText Crawler Jobs IsoDates

/-! ## Requested and skipped items -/

section Decisions

variable (config : ListConfig)

/-- Whether each item is requested, when the fingerprints `seen` have been requested before. -/
def decisions : List String → List ListItemCandidate → List (ListItemCandidate × Bool)
  | _, [] => []
  | seen, candidate :: candidates =>
    if config.dedupWithinRun && seen.contains candidate.sourceListItemFingerprint then
      (candidate, false) :: decisions seen candidates
    else (candidate, true) :: decisions (candidate.sourceListItemFingerprint :: seen) candidates

def requestedOf (decided : List (ListItemCandidate × Bool)) : List ListItemCandidate :=
  (decided.filter fun decision ↦ decision.2).map Prod.fst

def skippedOf (decided : List (ListItemCandidate × Bool)) : List ListItemCandidate :=
  (decided.filter fun decision ↦ !decision.2).map Prod.fst

/-- The fingerprints of items, the last one first. -/
def fingerprintsOf (items : List ListItemCandidate) : List String :=
  (items.map ListItemCandidate.sourceListItemFingerprint).reverse

theorem decisions_cons (seen : List String) (candidate : ListItemCandidate) (candidates : List ListItemCandidate) :
    decisions config seen (candidate :: candidates) =
      if config.dedupWithinRun && seen.contains candidate.sourceListItemFingerprint then
        (candidate, false) :: decisions config seen candidates
      else (candidate, true) :: decisions config (candidate.sourceListItemFingerprint :: seen) candidates := rfl

theorem newCandidates_eq (seen : List String) (candidates : List ListItemCandidate) :
    newCandidates config seen candidates =
      (fingerprintsOf (requestedOf (decisions config seen candidates)) ++ seen,
        requestedOf (decisions config seen candidates), ((skippedOf (decisions config seen candidates)).length : ℤ)) := by
  induction candidates generalizing seen with
  | nil => rfl
  | cons candidate candidates ih =>
    unfold newCandidates decisions
    split
    · rw [ih seen]
      simp [requestedOf, skippedOf]
    · rw [ih (candidate.sourceListItemFingerprint :: seen)]
      simp [requestedOf, skippedOf, fingerprintsOf]

theorem map_fst_decisions (seen : List String) (candidates : List ListItemCandidate) :
    (decisions config seen candidates).map Prod.fst = candidates := by
  induction candidates generalizing seen with
  | nil => rfl
  | cons candidate candidates ih =>
    rw [decisions_cons]
    split
    · rw [List.map_cons, ih]
    · rw [List.map_cons, ih]

theorem length_requested_add_skipped (decided : List (ListItemCandidate × Bool)) :
    (requestedOf decided).length + (skippedOf decided).length = decided.length := by
  unfold requestedOf skippedOf
  rw [List.length_map, List.length_map]
  induction decided with
  | nil => rfl
  | cons decision decided ih =>
    obtain ⟨candidate, requested⟩ := decision
    cases requested <;> simp <;> omega

theorem decisions_append (seen : List String) (candidates others : List ListItemCandidate) :
    decisions config seen (candidates ++ others) =
      decisions config seen candidates ++
        decisions config (fingerprintsOf (requestedOf (decisions config seen candidates)) ++ seen) others := by
  induction candidates generalizing seen with
  | nil => rfl
  | cons candidate candidates ih =>
    rw [List.cons_append, decisions_cons config seen candidate, decisions_cons config seen candidate]
    split
    · rw [ih seen]
      simp [requestedOf]
    · rw [ih (candidate.sourceListItemFingerprint :: seen)]
      simp [requestedOf, fingerprintsOf]

/-- An item is skipped where one with its fingerprint has been requested, before the page or earlier on it. -/
theorem decision_at {seen : List String} {candidates : List ListItemCandidate}
    {before after : List (ListItemCandidate × Bool)} {candidate : ListItemCandidate} {requested : Bool}
    (h : decisions config seen candidates = before ++ (candidate, requested) :: after) :
    requested = !(config.dedupWithinRun &&
      (fingerprintsOf (requestedOf before) ++ seen).contains candidate.sourceListItemFingerprint) := by
  induction before generalizing seen candidates with
  | nil =>
    cases candidates with
    | nil => cases h
    | cons first candidates =>
      unfold decisions at h
      split at h
      · rename_i hskipped
        obtain ⟨rfl, rfl⟩ := Prod.mk.inj (List.cons.inj h).1
        exact (congrArg not hskipped).symm
      · rename_i hrequested
        obtain ⟨rfl, rfl⟩ := Prod.mk.inj (List.cons.inj h).1
        exact (congrArg not (Bool.not_eq_true _ ▸ hrequested)).symm
  | cons decision before ih =>
    cases candidates with
    | nil => cases h
    | cons first candidates =>
      unfold decisions at h
      split at h
      · obtain ⟨rfl, hrest⟩ := List.cons.inj h
        exact ih hrest
      · obtain ⟨rfl, hrest⟩ := List.cons.inj h
        rw [ih hrest]
        simp [requestedOf, fingerprintsOf]

theorem skipped_at {seen : List String} {candidates : List ListItemCandidate}
    {before after : List (ListItemCandidate × Bool)} {candidate : ListItemCandidate}
    (h : decisions config seen candidates = before ++ (candidate, false) :: after) : config.dedupWithinRun = true ∧
      candidate.sourceListItemFingerprint ∈ fingerprintsOf (requestedOf before) ++ seen := by
  have hskipped := congrArg not (decision_at config h)
  rw [Bool.not_not] at hskipped
  obtain ⟨hdedup, hseen⟩ := Bool.and_eq_true_iff.mp hskipped.symm
  exact ⟨hdedup, List.contains_iff_mem.mp hseen⟩

/-- What is decided first does not depend on what comes later. -/
theorem decisions_of_initial {seen : List String} {candidates : List ListItemCandidate}
    {decided : List (ListItemCandidate × Bool)} (h : decided <+: decisions config seen candidates) :
    decided = decisions config seen (decided.map Prod.fst) := by
  obtain ⟨rest, hrest⟩ := h
  have hcandidates : candidates = decided.map Prod.fst ++ rest.map Prod.fst := by
    rw [← map_fst_decisions config seen candidates, ← hrest, List.map_append]
  rw [hcandidates, decisions_append] at hrest
  have hlength : decided.length = (decisions config seen (decided.map Prod.fst)).length := by
    have hmap := congrArg List.length (map_fst_decisions config seen (decided.map Prod.fst))
    rw [List.length_map, List.length_map] at hmap
    exact hmap.symm
  exact List.append_inj_left hrest hlength

end Decisions

/-! ## Requests that cannot be built -/

section Refusals

variable (scrapyRequest : String → Except PyError Unit)

/-- Whether the request for an item cannot be built. -/
def refuses (candidate : ListItemCandidate) : Bool := !(scrapyRequest candidate.detailUrl).isOk

/-- The decisions before the first request that cannot be built. -/
def beforeRefused (decided : List (ListItemCandidate × Bool)) : List (ListItemCandidate × Bool) :=
  decided.takeWhile fun decision ↦ !(decision.2 && refuses scrapyRequest decision.1)

theorem requestedOf_beforeRefused (decided : List (ListItemCandidate × Bool)) :
    requestedOf (beforeRefused scrapyRequest decided) =
      (requestedOf decided).takeWhile fun candidate ↦ !refuses scrapyRequest candidate := by
  unfold requestedOf beforeRefused
  induction decided with
  | nil => rfl
  | cons decision decided ih =>
    obtain ⟨candidate, requested⟩ := decision
    cases requested with
    | false => simpa using ih
    | true =>
      cases hrefuses : refuses scrapyRequest candidate with
      | true => simp [hrefuses]
      | false => simpa [hrefuses] using ih

theorem beforeRefused_eq_self {decided : List (ListItemCandidate × Bool)}
    (h : (requestedOf decided).find? (refuses scrapyRequest) = none) : beforeRefused scrapyRequest decided = decided := by
  unfold beforeRefused
  rw [List.takeWhile_eq_self_iff]
  rintro ⟨candidate, requested⟩ hmem
  cases requested with
  | false => rfl
  | true =>
    have hrequested : candidate ∈ requestedOf decided := List.mem_map_of_mem (List.mem_filter.mpr ⟨hmem, rfl⟩)
    simpa using List.find?_eq_none.mp h candidate hrequested

theorem firstRefused_eq_none {candidates : List ListItemCandidate} (h : firstRefused scrapyRequest candidates = none) :
    candidates.find? (refuses scrapyRequest) = none := by
  induction candidates with
  | nil => rfl
  | cons candidate candidates ih =>
    unfold firstRefused at h
    cases hrequest : scrapyRequest candidate.detailUrl with
    | error error =>
      rw [hrequest] at h
      cases h
    | ok built =>
      rw [hrequest] at h
      have hbuilt : refuses scrapyRequest candidate = false := by simp [refuses, hrequest, Except.isOk, Except.toBool]
      rw [List.find?_cons, hbuilt]
      exact ih (Option.map_eq_none_iff.mp h)

/-- The requests before the first refused one are made. -/
theorem firstRefused_eq_some {candidates requested : List ListItemCandidate} {refused : ListItemCandidate}
    {error : PyError} (h : firstRefused scrapyRequest candidates = some (requested, refused, error)) :
    requested = (candidates.takeWhile fun candidate ↦ !refuses scrapyRequest candidate) ∧
      candidates.find? (refuses scrapyRequest) = some refused := by
  induction candidates generalizing requested with
  | nil => cases h
  | cons candidate candidates ih =>
    unfold firstRefused at h
    cases hrequest : scrapyRequest candidate.detailUrl with
    | error error =>
      have hrefused : refuses scrapyRequest candidate = true := by simp [refuses, hrequest, Except.isOk, Except.toBool]
      rw [hrequest] at h
      obtain ⟨rfl, hlater⟩ := Prod.mk.inj (Option.some.inj h)
      rw [List.takeWhile_cons_of_neg (by simp [hrefused]), List.find?_cons_of_pos hrefused]
      exact ⟨rfl, congrArg some (Prod.mk.inj hlater).1⟩
    | ok built =>
      have hbuilt : refuses scrapyRequest candidate = false := by simp [refuses, hrequest, Except.isOk, Except.toBool]
      rw [hrequest] at h
      obtain ⟨⟨later, found⟩, hfound, hpair⟩ := Option.map_eq_some_iff.mp h
      obtain ⟨rfl, rfl⟩ := Prod.mk.inj hpair
      obtain ⟨hlater, hfind⟩ := ih hfound
      rw [List.takeWhile_cons_of_pos (by simp [hbuilt]), List.find?_cons_of_neg (by simp [hbuilt])]
      exact ⟨congrArg _ hlater, hfind⟩

end Refusals

/-! ## Pages that are read -/

/-- A page whose items have been read, with their dates and what has become of those in the window. -/
structure ReadPage where
  number : ℤ
  items : List (ListItemCandidate × Option IsoDate)
  /-- The items that have been requested or skipped. -/
  decided : List (ListItemCandidate × Bool)
  /-- The item whose request could not be built; the page is not summed up then. -/
  refused : Option ListItemCandidate
  allOlder : Bool

namespace ReadPage

variable (config : ListConfig) (page : ReadPage)

def requested : List ListItemCandidate := requestedOf page.decided

def skipped : List ListItemCandidate := skippedOf page.decided

/-- The items whose date is unknown or in the window. -/
def inWindow : List ListItemCandidate :=
  (page.items.filter fun item ↦ config.isInBackfillWindow item.2).map Prod.fst

def notes : ListPageNotes where
  itemCount := page.items.length
  filteredOut := page.items.length - (page.inWindow config).length
  newUnique := page.requested.length
  duplicatesSkipped := page.skipped.length
  publishMin := (page.items.filterMap Prod.snd).min?
  publishMax := (page.items.filterMap Prod.snd).max?
  allOlder := page.allOlder

end ReadPage

/-! ## What the callback yields -/

namespace PageOutcome

def detailRequests : PageOutcome → List ListItemCandidate
  | .requestRaised _ detailRequests | .controlRaised _ detailRequests => detailRequests
  | .ended (.parsed page) => page.detailRequests
  | _ => []

def nextRequest : PageOutcome → Option FormRequest
  | .ended (.parsed page) =>
    match page.nextRequest with
    | some (.ok request) => some request
    | _ => none
  | _ => none

def rawItem : PageOutcome → Option Item
  | .ended (.parsed page) => page.rawItem.toOption
  | _ => none

theorem nextRequest_of_mem {parsed : ParsedListPage} {request : FormRequest}
    (h : request ∈ (PageOutcome.ended (.parsed parsed)).nextRequest) : parsed.nextRequest = some (.ok request) := by
  unfold nextRequest at h
  dsimp only at h
  split at h
  · rename_i following hfollowing
    rw [hfollowing, Option.mem_some.mp h]
  · cases h

theorem rawItem_of_mem {parsed : ParsedListPage} {item : Item}
    (h : item ∈ (PageOutcome.ended (.parsed parsed)).rawItem) : parsed.rawItem = .ok item := by
  change parsed.rawItem.toOption = some item at h
  cases hraw : parsed.rawItem with
  | error error =>
    rw [hraw] at h
    cases h
  | ok document =>
    rw [hraw] at h
    exact congrArg Except.ok (Option.some.inj h)

/-- Nothing is requested, and the page has no document. -/
structure Silent (outcome : PageOutcome) : Prop where
  detailRequests : outcome.detailRequests = []
  nextRequest : outcome.nextRequest = none
  rawItem : outcome.rawItem = none

end PageOutcome

section Visits

variable (python : Python) (config : ListConfig) (dateFromisoformat : String → Option IsoDate)
  (scrapyRequest : String → Except PyError Unit) (exceptionText : PyError → String × String)

def ListPage.datedItems (page : ListPage) : Except PyError (List (ListItemCandidate × Option IsoDate)) := do
  let items ← page.extractListItems python
  let dates ← items.mapM fun item ↦ asDate python dateFromisoformat item.publishedAt
  return items.zip dates

def ListPage.number (page : ListPage) : ℤ := ((page.currentPageValue.bind nonEmpty).bind python.int).getD 1

/-- What is decided about items with their dates, if all the requests can be built. -/
def decidedOf (seen : List String) (items : List (ListItemCandidate × Option IsoDate)) :
    List (ListItemCandidate × Bool) :=
  if config.allItemsOlderThanBackfill (items.map Prod.snd) then []
  else decisions config seen ((items.filter fun item ↦ config.isInBackfillWindow item.2).map Prod.fst)

/-- What a spider makes of items with their dates. -/
def readItems (spider : ListSpider) (number : ℤ) (items : List (ListItemCandidate × Option IsoDate)) : ReadPage where
  number := number
  items := items
  decided := beforeRefused scrapyRequest (decidedOf config spider.seenSourceListItemFingerprints items)
  refused :=
    (requestedOf (decidedOf config spider.seenSourceListItemFingerprints items)).find? (refuses scrapyRequest)
  allOlder := config.allItemsOlderThanBackfill (items.map Prod.snd)

/-- The page that a call of `parse` reads, if it gets so far. -/
def readPage (spider : ListSpider) (page : ListPage) : Option ReadPage :=
  match page.pageNumbers python with
  | .error _ => none
  | .ok _ =>
    if spider.seenListPages.contains (page.number python) then none
    else
      match page.datedItems python dateFromisoformat with
      | .error _ => none
      | .ok items => some (readItems config scrapyRequest spider (page.number python) items)

/-- What a page that is summed up adds to the spider, and where the spider goes on. -/
structure SummedUp (before after : ListSpider) (page : ListPage) (outcome : PageOutcome) (read : ReadPage) : Prop where
  listItemsUnique : after.listItemsUnique = before.listItemsUnique + read.requested.length
  duplicatesSkipped : after.listItemsSourceDuplicatesSkipped =
    before.listItemsSourceDuplicatesSkipped + read.skipped.length
  noNewPages : after.consecutiveNoNewPages = if read.requested = [] then before.consecutiveNoNewPages + 1 else 0
  decided : read.decided =
    if read.allOlder then [] else decisions config before.seenSourceListItemFingerprints (read.inWindow config)
  rawItem : ∀ item ∈ outcome.rawItem, ∃ response fetchedAt,
    buildRawItem python config page.toTextResponse fetchedAt "list"
      (listPageMeta python config after response (read.notes config)) = .ok item
  nextRequest : ∀ request ∈ outcome.nextRequest,
    read.items ≠ [] ∧ read.allOlder = false ∧ (∀ maxPages ∈ config.maxPages, after.pagesScraped < maxPages) ∧
      after.consecutiveNoNewPages < config.stopAfterConsecutiveNoNewPages ∧
      ∃ next, read.number < next ∧ request.formdata = buildListFormdata config next

/-- A call of `parse` that reads the page. -/
structure Reads (before after : ListSpider) (page : ListPage) (outcome : PageOutcome) (read : ReadPage) : Prop where
  number : read.number = page.number python
  new : read.number ∉ before.seenListPages
  items : page.datedItems python dateFromisoformat = .ok read.items
  allOlder : read.allOlder = config.allItemsOlderThanBackfill (read.items.map Prod.snd)
  decided : read.decided = decisions config before.seenSourceListItemFingerprints (read.decided.map Prod.fst)
  inOrder : read.decided.map Prod.fst <+: read.inWindow config
  seenListPages : after.seenListPages = read.number :: before.seenListPages
  pagesScraped : after.pagesScraped = before.pagesScraped + 1
  listItemsSeen : after.listItemsSeen = before.listItemsSeen + read.items.length
  fingerprints : after.seenSourceListItemFingerprints =
    fingerprintsOf (read.requested ++ read.refused.toList) ++ before.seenSourceListItemFingerprints
  detailRequests : outcome.detailRequests = read.requested
  summedUp : read.refused = none → SummedUp python config before after page outcome read
  interrupted : read.refused.isSome → outcome.rawItem = none ∧ outcome.nextRequest = none

/-- The spider knows of no more items than before. -/
structure SameItems (before after : ListSpider) : Prop where
  fingerprints : after.seenSourceListItemFingerprints = before.seenSourceListItemFingerprints
  listItemsUnique : after.listItemsUnique = before.listItemsUnique
  duplicatesSkipped : after.listItemsSourceDuplicatesSkipped = before.listItemsSourceDuplicatesSkipped
  noNewPages : after.consecutiveNoNewPages = before.consecutiveNoNewPages

/-- A call of `parse` that counts the page and does not read it. -/
structure CountsOnly (before after : ListSpider) (page : ListPage) (outcome : PageOutcome) : Prop where
  new : page.number python ∉ before.seenListPages
  unread : ∃ error, page.datedItems python dateFromisoformat = .error error
  seenListPages : after.seenListPages = page.number python :: before.seenListPages
  pagesScraped : after.pagesScraped = before.pagesScraped + 1
  sameItems : SameItems before after
  silent : outcome.Silent

/-- What the items of a page add to the spider, and what is yielded for them. -/
structure ItemsParsed (before after : ListSpider) (response : ListResponse) (fetchedAt : DateTime)
    (items : List (ListItemCandidate × Option IsoDate)) (decided : List (ListItemCandidate × Bool))
    (parsed : ParsedListPage) : Prop where
  seenListPages : after.seenListPages = before.seenListPages
  pagesScraped : after.pagesScraped = before.pagesScraped
  listItemsSeen : after.listItemsSeen = before.listItemsSeen
  listItemsUnique : after.listItemsUnique = before.listItemsUnique + (requestedOf decided).length
  duplicatesSkipped : after.listItemsSourceDuplicatesSkipped =
    before.listItemsSourceDuplicatesSkipped + (skippedOf decided).length
  noNewPages : after.consecutiveNoNewPages = if requestedOf decided = [] then before.consecutiveNoNewPages + 1 else 0
  fingerprints : after.seenSourceListItemFingerprints =
    fingerprintsOf (requestedOf decided) ++ before.seenSourceListItemFingerprints
  detailRequests : parsed.detailRequests = requestedOf decided
  notes : ∃ notes : ListPageNotes,
    notes = ReadPage.notes config ⟨response.currentPage python, items, decided, none,
      config.allItemsOlderThanBackfill (items.map Prod.snd)⟩ ∧
    parsed.rawItem = buildRawItem python config response.toTextResponse fetchedAt "list"
      (listPageMeta python config after response notes) ∧
    (parsed.nextRequest = none ∨ parsed.nextRequest = nextRequest python config after response notes)

section Cases

variable {python config dateFromisoformat scrapyRequest exceptionText} {spider : ListSpider} {page : ListPage}

/-- What holds where a next page is requested, and that its number is greater. -/
theorem nextRequest_greater {response : ListResponse} {notes : ListPageNotes} {request : FormRequest}
    (h : nextRequest python config spider response notes = some (.ok request)) :
    notes.itemCount ≠ 0 ∧ notes.allOlder = false ∧ (∀ maxPages ∈ config.maxPages, spider.pagesScraped < maxPages) ∧
      spider.consecutiveNoNewPages < config.stopAfterConsecutiveNoNewPages ∧
      ∃ next, response.currentPage python < next ∧ request.formdata = buildListFormdata config next := by
  unfold nextRequest at h
  split at h
  · cases h
  · rename_i hgoesOn
    simp only [not_or, Bool.not_eq_true] at hgoesOn
    obtain ⟨hitems, hrecent, hmaxPages, hquiet⟩ := hgoesOn
    obtain ⟨next, hnext, hrequest⟩ := Option.map_eq_some_iff.mp h
    obtain ⟨url, -, rfl⟩ := map_eq_ok.mp hrequest
    refine ⟨hitems, hrecent, ?_, not_le.mp hquiet, next, ?_, rfl⟩
    · intro maxPages hmax
      rw [Option.mem_def.mp hmax] at hmaxPages
      simpa using hmaxPages
    · unfold ListResponse.nextPageNo at hnext
      obtain ⟨target, -, rfl⟩ := Option.map_eq_some_iff.mp hnext
      cases hfilter : target.filter (response.currentPage python < ·) with
      | none => exact Int.lt_succ _
      | some number => exact of_decide_eq_true (Option.filter_eq_some_iff.mp hfilter).2

theorem decidedOf_initial (config : ListConfig) (seen : List String)
    (items : List (ListItemCandidate × Option IsoDate)) :
    decidedOf config seen items <+:
      decisions config seen ((items.filter fun item ↦ config.isInBackfillWindow item.2).map Prod.fst) := by
  unfold decidedOf
  split
  · exact List.nil_prefix
  · exact List.prefix_rfl

theorem inOrder_of_initial {config : ListConfig} {seen : List String}
    {items : List (ListItemCandidate × Option IsoDate)} {decided : List (ListItemCandidate × Bool)}
    (h : decided <+: decidedOf config seen items) :
    decided.map Prod.fst <+: (items.filter fun item ↦ config.isInBackfillWindow item.2).map Prod.fst := by
  have hmapped := (h.trans (decidedOf_initial config seen items)).map Prod.fst
  rwa [map_fst_decisions] at hmapped

/-- What the loop over the items computes. -/
theorem newCandidates_decidedOf (config : ListConfig) (seen : List String) (items : List (ListItemCandidate × Option IsoDate)) :
    (if config.allItemsOlderThanBackfill (items.map Prod.snd) then (seen, [], 0)
      else newCandidates config seen ((items.filter fun item ↦ config.isInBackfillWindow item.2).map Prod.fst)) =
      (fingerprintsOf (requestedOf (decidedOf config seen items)) ++ seen, requestedOf (decidedOf config seen items),
        ((skippedOf (decidedOf config seen items)).length : ℤ)) := by
  unfold decidedOf
  split
  · rfl
  · exact newCandidates_eq config seen _

variable (python config spider) in
/-- The items are decided one after the other, by the fingerprints seen before. -/
theorem parseItems_parsed (response : ListResponse) (fetchedAt : DateTime) {items : List ListItemCandidate}
    {dates : List (Option IsoDate)} (hlength : items.length = dates.length) :
    ItemsParsed python config spider (parseItems python config spider response fetchedAt items dates).1 response fetchedAt
      (items.zip dates) (decidedOf config spider.seenSourceListItemFingerprints (items.zip dates))
      (parseItems python config spider response fetchedAt items dates).2 := by
  have hdates : (items.zip dates).map Prod.snd = dates := List.map_snd_zip hlength.ge
  have hloop := hdates ▸ newCandidates_decidedOf config spider.seenSourceListItemFingerprints (items.zip dates)
  have hknown : (items.zip dates).filterMap Prod.snd = dates.filterMap id := by
    calc (items.zip dates).filterMap Prod.snd = ((items.zip dates).map Prod.snd).filterMap id := by
          rw [List.filterMap_map]; rfl
      _ = dates.filterMap id := by rw [hdates]
  unfold parseItems
  dsimp only
  rw [hloop]
  dsimp only
  exact
    { seenListPages := rfl
      pagesScraped := rfl
      listItemsSeen := rfl
      listItemsUnique := rfl
      duplicatesSkipped := rfl
      noNewPages := rfl
      fingerprints := rfl
      detailRequests := rfl
      notes := by
        refine ⟨_, ?_, rfl, (ite_eq_or_eq _ _ _).symm⟩
        unfold ReadPage.notes
        rw [hknown, hdates, List.length_zip, hlength, min_self]
        rfl }

/-- The spider when the items of the page are counted. -/
def ListSpider.countItems (spider : ListSpider) (number : ℤ) (items : List ListItemCandidate) : ListSpider :=
  { spider.countPage number with listItemsSeen := spider.listItemsSeen + items.length }

section Response

variable (numbers : List ℤ) (control : Option (Option ℤ)) (fetchedAt : DateTime)

theorem parse_repeated (hseen : spider.seenListPages.contains (page.number python)) :
    parse python config dateFromisoformat spider (page.response python exceptionText numbers control) fetchedAt =
      (spider, .repeated) := if_pos hseen

variable (hnew : ¬ spider.seenListPages.contains (page.number python))

include hnew

theorem parse_failed {error : PyError} (herror : page.extractListItems python = .error error) :
    ∃ errorItem, parse python config dateFromisoformat spider (page.response python exceptionText numbers control)
      fetchedAt = (spider.countPage (page.number python), .failed errorItem) := by
  have hitems : (page.response python exceptionText numbers control).listItems = .error (exceptionText error) := by
    change (page.extractListItems python).mapError exceptionText = _
    rw [herror]
    rfl
  unfold parse
  rw [if_neg (by exact hnew), hitems]
  exact ⟨_, rfl⟩

theorem parse_items {items : List ListItemCandidate} (hitems : page.extractListItems python = .ok items) :
    parse python config dateFromisoformat spider (page.response python exceptionText numbers control) fetchedAt =
      match items.mapM fun item ↦ asDate python dateFromisoformat item.publishedAt with
      | .error error => (spider.countItems (page.number python) items, .raised error)
      | .ok dates =>
        let parsed := parseItems python config (spider.countItems (page.number python) items)
          (page.response python exceptionText numbers control) fetchedAt items dates
        (parsed.1, .parsed parsed.2) := by
  have hlisted : (page.response python exceptionText numbers control).listItems = .ok items := by
    change (page.extractListItems python).mapError exceptionText = _
    rw [hitems]
    rfl
  unfold parse
  rw [if_neg (by exact hnew), hlisted]
  rfl

end Response

theorem length_of_mapM_ok {α β ε : Type} {f : α → Except ε β} {xs : List α} {ys : List β} (h : xs.mapM f = .ok ys) :
    xs.length = ys.length := by
  induction xs generalizing ys with
  | nil =>
    rw [List.mapM_nil] at h
    rw [← Except.ok.inj h, List.length_nil, List.length_nil]
  | cons x xs ih =>
    rw [List.mapM_cons] at h
    obtain ⟨y, -, hrest⟩ := Jobs.bind_eq_ok.mp h
    obtain ⟨rest, hmap, hpure⟩ := Jobs.bind_eq_ok.mp hrest
    rw [← Except.ok.inj hpure, List.length_cons, List.length_cons, ih hmap]

/-- A page whose items have been parsed is read, and summed up where all its requests can be built. -/
theorem reads_of_itemsParsed {after : ListSpider} {response : ListResponse} {fetchedAt : DateTime}
    {items : List ListItemCandidate} {dates : List (Option IsoDate)} {parsed : ParsedListPage}
    (hnew : ¬ spider.seenListPages.contains (page.number python))
    (hdated : page.datedItems python dateFromisoformat = .ok (items.zip dates))
    (hnumber : response.currentPage python = page.number python)
    (hresponse : response.toTextResponse = page.toTextResponse)
    (hparsed : ItemsParsed python config (spider.countItems (page.number python) items) after response fetchedAt
      (items.zip dates) (decidedOf config spider.seenSourceListItemFingerprints (items.zip dates)) parsed)
    (hlength : items.length = dates.length) {outcome : PageOutcome}
    (hrefused : firstRefused scrapyRequest parsed.detailRequests = none)
    (hdetails : outcome.detailRequests = parsed.detailRequests)
    (hnext : ∀ request ∈ outcome.nextRequest, parsed.nextRequest = some (.ok request))
    (hraw : ∀ item ∈ outcome.rawItem, parsed.rawItem = .ok item) :
    Reads python config dateFromisoformat spider after page outcome
      (readItems config scrapyRequest spider (page.number python) (items.zip dates)) := by
  have hfind : (requestedOf (decidedOf config spider.seenSourceListItemFingerprints (items.zip dates))).find?
      (refuses scrapyRequest) = none := hparsed.detailRequests ▸ firstRefused_eq_none scrapyRequest hrefused
  have hall := beforeRefused_eq_self scrapyRequest hfind
  have hread : readItems config scrapyRequest spider (page.number python) (items.zip dates) =
      ⟨page.number python, items.zip dates, decidedOf config spider.seenSourceListItemFingerprints (items.zip dates), none,
        config.allItemsOlderThanBackfill ((items.zip dates).map Prod.snd)⟩ := by
    unfold readItems
    rw [hall, hfind]
  obtain ⟨notes, hnotes, hdocument, hfollowing⟩ := hparsed.notes
  rw [hread]
  exact
    { number := rfl
      new := fun hseen ↦ hnew (List.contains_iff_mem.mpr hseen)
      items := hdated
      allOlder := rfl
      decided := decisions_of_initial config (decidedOf_initial config _ _)
      inOrder := inOrder_of_initial List.prefix_rfl
      seenListPages := hparsed.seenListPages
      pagesScraped := hparsed.pagesScraped
      listItemsSeen := by rw [hparsed.listItemsSeen, List.length_zip, hlength, min_self, ← hlength]; rfl
      fingerprints := by rw [hparsed.fingerprints]; simp [ReadPage.requested, ListSpider.countItems, ListSpider.countPage]
      detailRequests := hdetails.trans hparsed.detailRequests
      summedUp := fun _ ↦
        { listItemsUnique := hparsed.listItemsUnique
          duplicatesSkipped := hparsed.duplicatesSkipped
          noNewPages := hparsed.noNewPages
          decided := rfl
          rawItem := by
            intro item hitem
            refine ⟨response, fetchedAt, ?_⟩
            rw [← hraw item hitem, hdocument, hnotes, hresponse]
            rfl
          nextRequest := by
            intro request hrequest
            rcases hfollowing with hnone | hsome
            · rw [hnone] at hnext
              cases hnext request hrequest
            · have hissued := nextRequest_greater (hsome ▸ hnext request hrequest)
              rw [hnotes, hnumber] at hissued
              obtain ⟨hitems, hrest⟩ := hissued
              have hcount {items : List (ListItemCandidate × Option IsoDate)} (hnil : items = []) :
                  (items.length : ℤ) = 0 := by rw [hnil]; rfl
              exact ⟨fun hnil ↦ hitems (hcount hnil), hrest⟩ }
      interrupted := fun h ↦ absurd h (by simp) }

/-- A page on which a request cannot be built is read up to there. -/
theorem reads_of_refused {after : ListSpider} {response : ListResponse} {fetchedAt : DateTime}
    {items : List ListItemCandidate} {dates : List (Option IsoDate)} {parsed : ParsedListPage}
    (hnew : ¬ spider.seenListPages.contains (page.number python))
    (hdated : page.datedItems python dateFromisoformat = .ok (items.zip dates))
    (hparsed : ItemsParsed python config (spider.countItems (page.number python) items) after response fetchedAt
      (items.zip dates) (decidedOf config spider.seenSourceListItemFingerprints (items.zip dates)) parsed)
    (hlength : items.length = dates.length) {requested : List ListItemCandidate} {refused : ListItemCandidate}
    {error : PyError} (hrefused : firstRefused scrapyRequest parsed.detailRequests = some (requested, refused, error)) :
    Reads python config dateFromisoformat spider (spider.interrupted after (requested ++ [refused])) page
      (.requestRaised error requested)
      (readItems config scrapyRequest spider (page.number python) (items.zip dates)) := by
  obtain ⟨hrequested, hfind⟩ := firstRefused_eq_some scrapyRequest hrefused
  rw [hparsed.detailRequests] at hrequested hfind
  rw [← requestedOf_beforeRefused] at hrequested
  have hpage : (readItems config scrapyRequest spider (page.number python) (items.zip dates)).refused = some refused := hfind
  exact
    { number := rfl
      new := fun hseen ↦ hnew (List.contains_iff_mem.mpr hseen)
      items := hdated
      allOlder := rfl
      decided := decisions_of_initial config ((List.takeWhile_prefix _).trans (decidedOf_initial config _ _))
      inOrder := inOrder_of_initial (List.takeWhile_prefix _)
      seenListPages := hparsed.seenListPages
      pagesScraped := hparsed.pagesScraped
      listItemsSeen := by
        change after.listItemsSeen = _
        rw [hparsed.listItemsSeen]
        change _ = spider.listItemsSeen + ((items.zip dates).length : ℤ)
        rw [List.length_zip, hlength, min_self, ← hlength]
        rfl
      fingerprints := by
        rw [hpage]
        change ((requested ++ [refused]).map ListItemCandidate.sourceListItemFingerprint).reverse ++ _ = _
        rw [hrequested]
        rfl
      detailRequests := hrequested
      summedUp := fun hnone ↦ absurd (hpage.symm.trans hnone) (by simp)
      interrupted := fun _ ↦ ⟨rfl, rfl⟩ }

variable (python config dateFromisoformat scrapyRequest exceptionText spider page) in
/-- The three things that a call of `parse` does to the spider. -/
theorem parsePage_cases (fetchedAt : DateTime) :
    readPage python config dateFromisoformat scrapyRequest spider page = none ∧
        (parsePage python config dateFromisoformat scrapyRequest exceptionText spider page fetchedAt).1 = spider ∧
        (parsePage python config dateFromisoformat scrapyRequest exceptionText spider page fetchedAt).2.Silent ∨
      readPage python config dateFromisoformat scrapyRequest spider page = none ∧
        CountsOnly python dateFromisoformat spider
          (parsePage python config dateFromisoformat scrapyRequest exceptionText spider page fetchedAt).1 page
          (parsePage python config dateFromisoformat scrapyRequest exceptionText spider page fetchedAt).2 ∨
      ∃ read, readPage python config dateFromisoformat scrapyRequest spider page = some read ∧
        Reads python config dateFromisoformat spider
          (parsePage python config dateFromisoformat scrapyRequest exceptionText spider page fetchedAt).1 page
          (parsePage python config dateFromisoformat scrapyRequest exceptionText spider page fetchedAt).2 read := by
  unfold parsePage readPage
  cases hnumbers : page.pageNumbers python with
  | error error => exact Or.inl ⟨rfl, rfl, ⟨rfl, rfl, rfl⟩⟩
  | ok numbers =>
    dsimp only
    by_cases hseen : spider.seenListPages.contains (page.number python)
    · rw [if_pos hseen, parse_repeated _ _ _ hseen]
      exact Or.inl ⟨rfl, rfl, ⟨rfl, rfl, rfl⟩⟩
    · rw [if_neg hseen]
      have hnew : page.number python ∉ spider.seenListPages := fun h ↦ hseen (List.contains_iff_mem.mpr h)
      cases hitems : page.extractListItems python with
      | error error =>
        have hdated : page.datedItems python dateFromisoformat = .error error := by
          unfold ListPage.datedItems
          rw [hitems]
          rfl
        obtain ⟨errorItem, hfailed⟩ : ∃ errorItem, parse python config dateFromisoformat spider
            (page.response python exceptionText numbers ((page.nextControl python).toOption.getD none)) fetchedAt =
              (spider.countPage (page.number python), .failed errorItem) :=
          parse_failed numbers _ fetchedAt hseen hitems
        rw [hfailed, hdated]
        exact Or.inr (Or.inl ⟨rfl, hnew, ⟨error, hdated⟩, rfl, rfl, ⟨rfl, rfl, rfl, rfl⟩, ⟨rfl, rfl, rfl⟩⟩)
      | ok items =>
        rw [parse_items numbers _ fetchedAt hseen hitems]
        cases hdates : items.mapM fun item ↦ asDate python dateFromisoformat item.publishedAt with
        | error error =>
          have hdated : page.datedItems python dateFromisoformat = .error error := by
            unfold ListPage.datedItems
            rw [hitems, Jobs.ok_bind, hdates]
            rfl
          rw [hdated]
          exact Or.inr (Or.inl ⟨rfl, hnew, ⟨error, hdated⟩, rfl, rfl, ⟨rfl, rfl, rfl, rfl⟩, ⟨rfl, rfl, rfl⟩⟩)
        | ok dates =>
          have hdated : page.datedItems python dateFromisoformat = .ok (items.zip dates) := by
            unfold ListPage.datedItems
            rw [hitems, Jobs.ok_bind, hdates]
            rfl
          have hlength := length_of_mapM_ok hdates
          have hparsed := parseItems_parsed python config (spider.countItems (page.number python) items)
            (page.response python exceptionText numbers ((page.nextControl python).toOption.getD none)) fetchedAt hlength
          rw [hdated]
          right; right
          refine ⟨_, rfl, ?_⟩
          dsimp only
          split
          · rename_i requested refused error hrefused
            exact reads_of_refused hseen hdated hparsed hlength hrefused
          · rename_i hrefused
            split
            · rename_i error hcontrol
              exact reads_of_itemsParsed hseen hdated rfl rfl hparsed hlength hrefused rfl (fun _ h ↦ (nomatch h))
                (fun _ h ↦ (nomatch h))
            · exact reads_of_itemsParsed hseen hdated rfl rfl hparsed hlength hrefused rfl
                (fun _ h ↦ PageOutcome.nextRequest_of_mem h) (fun _ h ↦ PageOutcome.rawItem_of_mem h)

end Cases

end Visits

end TenderPhase1.Spiders.AnhuiGgzyZfcg
