import TenderPhase1.Spiders.ListRuns

/-!
# Items that a run skips

The fingerprint of an item is the digest of its seed, which leaves out the URL of the detail page. So
an item may be skipped for one with another page: exactly if it has the seed of an item before it, and
no item before it leads to its page.
-/

namespace TenderPhase1.Spiders.AnhuiGgzyZfcg

open Crawler Jobs IsoDates

deriving instance DecidableEq for ListItemCandidate

/-! ## Seeds -/

section Seeds

variable (python : Python)

def ListItemCandidate.fields (item : ListItemCandidate) : ListItemFields :=
  ListItemCandidate.fingerprintFields item.detailUrl item.title item.noticeType item.publishedAt item.region

/-- The text whose digest is the fingerprint. -/
def ListItemCandidate.seed (item : ListItemCandidate) : Except PyError String :=
  (listItemComponents python item.fields false).map fun components ↦
    String.intercalate "|" (components.all.map stableSeedText)

def ListItemCandidate.normalizedDetailUrl (item : ListItemCandidate) : Except PyError (Option String) :=
  normalizeDetailUrl python (some (.str item.detailUrl))

variable {python}

/-- An item carries the fingerprint of its fields. -/
theorem fingerprint_listItem {response : TextResponse} {anchor : ListAnchor} {item : ListItemCandidate}
    (h : listItem python response anchor = .ok (some item)) :
    buildSourceListItemFingerprint python item.fields false = .ok item.sourceListItemFingerprint := by
  unfold listItem at h
  dsimp only at h
  split at h
  · cases h
  · obtain ⟨detailUrl, -, h⟩ := bind_eq_ok.mp h
    split at h
    · cases h
    · obtain ⟨publishedAt, -, h⟩ := bind_eq_ok.mp h
      obtain ⟨guid, -, h⟩ := bind_eq_ok.mp h
      obtain ⟨fingerprint, hfingerprint, h⟩ := bind_eq_ok.mp h
      obtain ⟨duplicateKey, -, h⟩ := bind_eq_ok.mp h
      rw [← Option.some.inj (Except.ok.inj h)]
      unfold ListItemCandidate.fields
      dsimp only
      exact hfingerprint

/-- The fingerprint of an item on a page is the digest of its seed. -/
theorem fingerprint_of_mem {page : ListPage} {items : List ListItemCandidate} {item : ListItemCandidate}
    (h : page.extractListItems python = .ok items) (hitem : item ∈ items) :
    (item.seed python).map python.sha256Text = .ok item.sourceListItemFingerprint := by
  obtain ⟨found, hfound, rfl⟩ := map_eq_ok.mp h
  obtain ⟨candidate, hcandidate, hsome⟩ := List.mem_filterMap.mp hitem
  obtain rfl : candidate = some item := hsome
  obtain ⟨anchor, -, hanchor⟩ := mapM_mem hfound hcandidate
  have hbuilt := fingerprint_listItem hanchor
  rw [buildSourceListItemFingerprint_eq] at hbuilt
  unfold ListItemCandidate.seed
  cases hcomponents : listItemComponents python item.fields false with
  | error error =>
    rw [hcomponents] at hbuilt
    cases hbuilt
  | ok components =>
    rw [hcomponents] at hbuilt
    exact hbuilt

/-- Items have one fingerprint exactly if they have one seed. -/
theorem fingerprint_eq_iff (hinjective : Function.Injective python.sha256Text) {item other : ListItemCandidate}
    (hitem : (item.seed python).map python.sha256Text = .ok item.sourceListItemFingerprint)
    (hother : (other.seed python).map python.sha256Text = .ok other.sourceListItemFingerprint) :
    item.sourceListItemFingerprint = other.sourceListItemFingerprint ↔ item.seed python = other.seed python := by
  obtain ⟨seed, hseed, hdigest⟩ := map_eq_ok.mp hitem
  obtain ⟨otherSeed, hotherSeed, hotherDigest⟩ := map_eq_ok.mp hother
  rw [← hdigest, ← hotherDigest, hseed, hotherSeed]
  exact ⟨fun h ↦ congrArg Except.ok (hinjective h), fun h ↦ congrArg python.sha256Text (Except.ok.inj h)⟩

end Seeds

/-! ## Items in the order of the run -/

section Decided

variable {python : Python} {config : ListConfig} {dateFromisoformat : String → Option IsoDate}
  {scrapyRequest : String → Except PyError Unit} {exceptionText : PyError → String × String}

/-- The items that the run has requested or skipped, the first one first. -/
def decidedItems (visits : List Visit) : List (ListItemCandidate × Bool) :=
  (readPages visits).reverse.flatMap ReadPage.decided

/-- The requests for detail pages of a run, the first one first. -/
def detailRequestsOf (visits : List Visit) : List ListItemCandidate :=
  visits.reverse.flatMap fun visit ↦ visit.outcome.detailRequests

theorem requestedOf_append (first second : List (ListItemCandidate × Bool)) :
    requestedOf (first ++ second) = requestedOf first ++ requestedOf second := by
  unfold requestedOf
  rw [List.filter_append, List.map_append]

theorem fingerprintsOf_append (first second : List ListItemCandidate) :
    fingerprintsOf (first ++ second) = fingerprintsOf second ++ fingerprintsOf first := by
  unfold fingerprintsOf
  rw [List.map_append, List.reverse_append]

theorem fingerprintsOf_decided (pages : List ReadPage) :
    fingerprintsOf (requestedOf (pages.reverse.flatMap ReadPage.decided)) =
      pages.flatMap fun page ↦ fingerprintsOf page.requested := by
  induction pages with
  | nil => rfl
  | cons page pages ih =>
    rw [List.reverse_cons, List.flatMap_append, List.flatMap_singleton, requestedOf_append, fingerprintsOf_append, ih,
      List.flatMap_cons]
    rfl

/-- A run decides about all its items as about one list. -/
theorem Walked.decidedItems_eq {run : ListRun}
    (h : Walked python config dateFromisoformat scrapyRequest exceptionText run) :
    decidedItems run.visits = decisions config [] ((decidedItems run.visits).map Prod.fst) := by
  have hsuffix := h.visits
  generalize run.visits = visits at hsuffix ⊢
  induction visits with
  | nil => rfl
  | cons visit visits ih =>
    have hearlier := ih fun later earlierVisit earlier hsplit ↦
      hsuffix (visit :: later) earlierVisit earlier (by rw [hsplit]; rfl)
    have hlast := hsuffix [] visit visits rfl
    cases hread : visit.read with
    | none =>
      have hpages : readPages (visit :: visits) = readPages visits := List.filterMap_cons_none hread
      unfold decidedItems at hearlier ⊢
      rw [hpages]
      exact hearlier
    | some read =>
      have hpages : readPages (visit :: visits) = read :: readPages visits := List.filterMap_cons_some hread
      obtain ⟨htallies, hreads⟩ := reads_of_visit hlast hread
      have hitems : decidedItems (visit :: visits) = decidedItems visits ++ read.decided := by
        unfold decidedItems
        rw [hpages, List.reverse_cons, List.flatMap_append, List.flatMap_singleton]
      have hseen : visit.before.seenSourceListItemFingerprints = fingerprintsOf (requestedOf (decidedItems visits)) := by
        calc visit.before.seenSourceListItemFingerprints
            = (parsedPages visits).flatMap fun page ↦ fingerprintsOf page.requested := htallies.fingerprints
          _ = (readPages visits).flatMap fun page ↦ fingerprintsOf page.requested := by rw [htallies.readPages_eq]
          _ = fingerprintsOf (requestedOf (decidedItems visits)) := (fingerprintsOf_decided _).symm
      rw [hitems, List.map_append, decisions_append, ← hearlier, List.append_nil, ← hseen, ← hreads.decided]

/-- The requests of a run are for the items that it has decided for. -/
theorem Walked.requestedOf_decidedItems {run : ListRun}
    (h : Walked python config dateFromisoformat scrapyRequest exceptionText run) :
    requestedOf (decidedItems run.visits) = detailRequestsOf run.visits := by
  have hsuffix := h.visits
  unfold detailRequestsOf
  generalize run.visits = visits at hsuffix ⊢
  induction visits with
  | nil => rfl
  | cons visit visits ih =>
    have hearlier := ih fun later earlierVisit earlier hsplit ↦
      hsuffix (visit :: later) earlierVisit earlier (by rw [hsplit]; rfl)
    rw [List.reverse_cons, List.flatMap_append, List.flatMap_singleton, ← hearlier]
    cases hread : visit.read with
    | none =>
      have hpages : readPages (visit :: visits) = readPages visits := List.filterMap_cons_none hread
      have hnothing : visit.outcome.detailRequests = [] :=
        (unread_of_visit (hsuffix [] visit visits rfl) hread).1.detailRequests
      unfold decidedItems
      rw [hpages, hnothing, List.append_nil]
    | some read =>
      have hpages : readPages (visit :: visits) = read :: readPages visits := List.filterMap_cons_some hread
      have hreads := (reads_of_visit (hsuffix [] visit visits rfl) hread).2
      unfold decidedItems
      rw [hpages, List.reverse_cons, List.flatMap_append, List.flatMap_singleton, requestedOf_append,
        hreads.detailRequests]
      rfl

/-- The fingerprint of every item that a run decides about is the digest of its seed. -/
theorem Walked.fingerprint_of_mem {run : ListRun}
    (h : Walked python config dateFromisoformat scrapyRequest exceptionText run) {item : ListItemCandidate}
    (hitem : item ∈ (decidedItems run.visits).map Prod.fst) :
    (item.seed python).map python.sha256Text = .ok item.sourceListItemFingerprint := by
  obtain ⟨decision, hdecision, rfl⟩ := List.mem_map.mp hitem
  obtain ⟨read, hread, hdecided⟩ := List.mem_flatMap.mp hdecision
  obtain ⟨visit, hvisit, hvisitRead⟩ := List.mem_filterMap.mp (List.mem_reverse.mp hread)
  obtain ⟨later, earlier, hsplit⟩ := List.append_of_mem hvisit
  have hreads := (h.reads hsplit hvisitRead).2
  obtain ⟨dated, hdated, hfirst⟩ := List.mem_map.mp (hreads.inOrder.subset (List.mem_map_of_mem hdecided))
  obtain ⟨items, hitems, hdates⟩ := bind_eq_ok.mp hreads.items
  obtain ⟨dates, -, hzip⟩ := bind_eq_ok.mp hdates
  have hlisted : dated ∈ items.zip dates := Except.ok.inj hzip ▸ (List.mem_filter.mp hdated).1
  exact AnhuiGgzyZfcg.fingerprint_of_mem hitems (hfirst ▸ (List.of_mem_zip hlisted).1)

/-! ## Skips -/

/-- What has been decided about has its fingerprint among those of the requests. -/
theorem fingerprint_mem_of_decided (config : ListConfig) {seen : List String} {candidates : List ListItemCandidate}
    {item : ListItemCandidate} (h : item ∈ candidates) :
    item.sourceListItemFingerprint ∈ fingerprintsOf (requestedOf (decisions config seen candidates)) ++ seen := by
  obtain ⟨before, after, rfl⟩ := List.append_of_mem h
  rw [decisions_append, decisions_cons, requestedOf_append, fingerprintsOf_append]
  split
  · rename_i hskipped
    have hseen := List.contains_iff_mem.mp (Bool.and_eq_true_iff.mp hskipped).2
    rw [List.append_assoc]
    exact List.mem_append_right _ hseen
  · refine List.mem_append_left _ (List.mem_append_left _ ?_)
    simp [requestedOf, fingerprintsOf]

/-- The requests of a run before an item that it has decided about. -/
theorem Walked.take_detailRequestsOf {run : ListRun}
    (h : Walked python config dateFromisoformat scrapyRequest exceptionText run)
    {before after : List (ListItemCandidate × Bool)} (hsplit : decidedItems run.visits = before ++ after) :
    (detailRequestsOf run.visits).take (requestedOf before).length = requestedOf before := by
  rw [← h.requestedOf_decidedItems, hsplit, requestedOf_append, List.take_left]

/-- Every item that was skipped has one of its page among the detail pages that the run has requested
by then, as many as it has decided for. -/
def SkippedAreRequested (python : Python) (visits : List Visit) : Prop :=
  ∀ before item after, decidedItems visits = before ++ (item, false) :: after →
    ∃ requested ∈ (detailRequestsOf visits).take (requestedOf before).length,
      requested.normalizedDetailUrl python = item.normalizedDetailUrl python

/-- An item with the seed of an item before it leads to the page of an item before it. -/
def SeedsTellPages (python : Python) (config : ListConfig) (visits : List Visit) : Prop :=
  config.dedupWithinRun = true → ∀ before item after, (decidedItems visits).map Prod.fst = before ++ item :: after →
    (∃ other ∈ before, other.seed python = item.seed python) →
      ∃ other ∈ before, other.normalizedDetailUrl python = item.normalizedDetailUrl python

/-- Where seeds tell pages apart, every item that has been decided about has its page among the requests. -/
theorem SeedsTellPages.requested {run : ListRun} (hinjective : Function.Injective python.sha256Text)
    (hwalked : Walked python config dateFromisoformat scrapyRequest exceptionText run)
    (h : SeedsTellPages python config run.visits) {before after : List (ListItemCandidate × Bool)}
    (hsplit : decidedItems run.visits = before ++ after) : ∀ item ∈ before.map Prod.fst,
      ∃ requested ∈ requestedOf before, requested.normalizedDetailUrl python = item.normalizedDetailUrl python := by
  induction before using List.reverseRecOn generalizing after with
  | nil => exact fun _ h ↦ absurd h List.not_mem_nil
  | append_singleton before decision ih =>
    obtain ⟨last, requested⟩ := decision
    have hbefore : decidedItems run.visits = before ++ (last, requested) :: after := by
      rw [hsplit, List.append_assoc, List.singleton_append]
    have hearlier := ih hbefore
    have hmono {candidate : ListItemCandidate} (hmem : candidate ∈ requestedOf before) :
        candidate ∈ requestedOf (before ++ [(last, requested)]) := by
      rw [requestedOf_append]
      exact List.mem_append_left _ hmem
    intro item hitem
    rw [List.map_append, List.mem_append] at hitem
    rcases hitem with hitem | hitem
    · obtain ⟨found, hfound, hsame⟩ := hearlier item hitem
      exact ⟨found, hmono hfound, hsame⟩
    · obtain rfl : item = last := List.mem_singleton.mp hitem
      cases requested with
      | true => exact ⟨item, by simp [requestedOf], rfl⟩
      | false =>
        have hdecided := hwalked.decidedItems_eq
        have hitems : (decidedItems run.visits).map Prod.fst = before.map Prod.fst ++ item :: after.map Prod.fst := by
          rw [hbefore, List.map_append, List.map_cons]
        obtain ⟨hdedup, hseen⟩ := skipped_at config (hdecided.symm.trans hbefore)
        rw [List.append_nil] at hseen
        obtain ⟨other, hother, hfingerprint⟩ := List.mem_map.mp (List.mem_reverse.mp hseen)
        have hotherBefore : other ∈ before.map Prod.fst := by
          obtain ⟨decision, hdecision, rfl⟩ := List.mem_map.mp hother
          exact List.mem_map_of_mem (List.mem_filter.mp hdecision).1
        have hseed : other.seed python = item.seed python :=
          (fingerprint_eq_iff hinjective (hwalked.fingerprint_of_mem (hitems ▸ List.mem_append_left _ hotherBefore))
            (hwalked.fingerprint_of_mem (hitems ▸ List.mem_append_right _ List.mem_cons_self))).mp hfingerprint
        obtain ⟨page, hpage, hlocated⟩ := h hdedup _ item _ hitems ⟨other, hotherBefore, hseed⟩
        obtain ⟨found, hfound, hsame⟩ := hearlier page hpage
        exact ⟨found, hmono hfound, hsame.trans hlocated⟩

/-- A run skips only items whose detail page it has requested, exactly if seeds tell pages apart. -/
theorem skippedAreRequested_iff (hinjective : Function.Injective python.sha256Text) (answers : List ListAnswer) :
    SkippedAreRequested python
        (listRun python config dateFromisoformat scrapyRequest exceptionText answers).visits ↔
      SeedsTellPages python config
        (listRun python config dateFromisoformat scrapyRequest exceptionText answers).visits := by
  have hwalked := walked_listRun python config dateFromisoformat scrapyRequest exceptionText answers
  constructor
  · intro hskipped hdedup before item after hitems hseeds
    obtain ⟨other, hother, hseed⟩ := hseeds
    obtain ⟨decidedBefore, rest, hsplit, rfl, hrest⟩ := List.map_eq_append_iff.mp hitems
    obtain ⟨decision, decidedAfter, rfl, rfl, rfl⟩ := List.map_eq_cons_iff.mp hrest
    obtain ⟨item, requested⟩ := decision
    have hdecided := hwalked.decidedItems_eq.symm.trans hsplit
    have hbefore := decisions_of_initial config ⟨(item, requested) :: decidedAfter, hdecided.symm⟩
    have hfingerprint : other.sourceListItemFingerprint = item.sourceListItemFingerprint :=
      (fingerprint_eq_iff hinjective (hwalked.fingerprint_of_mem (hitems ▸ List.mem_append_left _ hother))
        (hwalked.fingerprint_of_mem (hitems ▸ List.mem_append_right _ List.mem_cons_self))).mpr hseed
    have hseen : item.sourceListItemFingerprint ∈ fingerprintsOf (requestedOf decidedBefore) ++ [] := by
      rw [hbefore, ← hfingerprint]
      exact fingerprint_mem_of_decided config hother
    have hfalse : requested = false := by
      rw [decision_at config hdecided, hdedup, List.contains_iff_mem.mpr hseen]
      rfl
    obtain ⟨found, hfound, hsame⟩ := hskipped decidedBefore item decidedAfter (hfalse ▸ hsplit)
    rw [hwalked.take_detailRequestsOf hsplit] at hfound
    obtain ⟨decision, hdecision, rfl⟩ := List.mem_map.mp hfound
    exact ⟨decision.1, List.mem_map_of_mem (List.mem_filter.mp hdecision).1, hsame⟩
  · intro htell before item after hsplit
    have hitem : item ∈ (before ++ [(item, false)]).map Prod.fst := by simp
    have hsplitLast : decidedItems (listRun python config dateFromisoformat scrapyRequest exceptionText answers).visits =
        (before ++ [(item, false)]) ++ after := by
      rw [hsplit, List.append_assoc, List.singleton_append]
    obtain ⟨found, hfound, hsame⟩ := htell.requested hinjective hwalked hsplitLast item hitem
    rw [requestedOf_append, List.mem_append] at hfound
    rw [hwalked.take_detailRequestsOf hsplit]
    rcases hfound with hfound | hnone
    · exact ⟨found, hfound, hsame⟩
    · exact absurd hnone List.not_mem_nil

end Decided

/-! ## Notices of one title and day -/

/-- The item of a link to the detail page with a `guid`. -/
def roadWorks (guid : String) : ListItemCandidate where
  detailUrl := "https://ggzy.ah.gov.cn/zfcg/newDetail?guid=" ++ guid
  title := "road works"
  publishedAt := some "2026-03-20"
  region := none
  noticeType := "announcement"
  sourceListItemFingerprint := "#anhui_ggzy_zfcg|roadworks|-|2026-03-20|announcement|-#"
  sourceDuplicateKey := "#anhui_ggzy_zfcg|announcement|" ++ guid ++ "#"

/-- The run in which one page with two links is answered. -/
def twoLinksRun (first second : String) : ListRun :=
  listRun markingPython twoPagesConfig (fun _ ↦ none) (fun _ ↦ .ok ()) (fun _ ↦ ("ValueError", ""))
    [.response (plainListPage "1" ["/zfcg/newDetail?guid=" ++ first, "/zfcg/newDetail?guid=" ++ second] "") epoch]

/-- A page that is listed twice is skipped the second time. -/
theorem skippedAreRequested_sameGuid : SkippedAreRequested markingPython (twoLinksRun "1" "1").visits := by
  have hdecided : decidedItems (twoLinksRun "1" "1").visits = [(roadWorks "1", true), (roadWorks "1", false)] := by
    decide +kernel
  refine (skippedAreRequested_iff marked_injective _).mpr fun _ before item after hsplit hseed ↦ ?_
  have hsame : ∀ other ∈ before ++ item :: after, other = roadWorks "1" := by
    rw [← hsplit]
    change ∀ other ∈ (decidedItems (twoLinksRun "1" "1").visits).map Prod.fst, other = roadWorks "1"
    rw [hdecided]
    decide +kernel
  obtain ⟨other, hother, -⟩ := hseed
  have heq : other = item := (hsame other (List.mem_append_left _ hother)).trans
    (hsame item (List.mem_append_right _ List.mem_cons_self)).symm
  exact ⟨other, hother, by rw [heq]⟩

/-- Two notices of one title and day with different pages: the second one is skipped, its page has not been
requested, and the fingerprints that include the pages differ. -/
theorem not_skippedAreRequested_otherGuid : Function.Injective markingPython.sha256Text ∧
    ¬ SkippedAreRequested markingPython (twoLinksRun "1" "2").visits ∧
    (roadWorks "1").normalizedDetailUrl markingPython ≠ (roadWorks "2").normalizedDetailUrl markingPython ∧
    buildSourceListItemFingerprint markingPython (roadWorks "1").fields true ≠
      buildSourceListItemFingerprint markingPython (roadWorks "2").fields true := by
  have hdecided : decidedItems (twoLinksRun "1" "2").visits = [(roadWorks "1", true), (roadWorks "2", false)] := by
    decide +kernel
  have hpages : (roadWorks "1").normalizedDetailUrl markingPython ≠ (roadWorks "2").normalizedDetailUrl markingPython ∧
      buildSourceListItemFingerprint markingPython (roadWorks "1").fields true ≠
        buildSourceListItemFingerprint markingPython (roadWorks "2").fields true := by
    decide +kernel
  refine ⟨marked_injective, fun h ↦ ?_, hpages⟩
  have hrequested : detailRequestsOf (twoLinksRun "1" "2").visits = [roadWorks "1"] := by
    decide +kernel
  obtain ⟨found, hfound, hsame⟩ := h [(roadWorks "1", true)] (roadWorks "2") [] hdecided
  rw [hrequested] at hfound
  obtain rfl : found = roadWorks "1" := List.mem_singleton.mp hfound
  exact hpages.1 hsame

end TenderPhase1.Spiders.AnhuiGgzyZfcg
