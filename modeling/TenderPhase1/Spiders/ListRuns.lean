import TenderPhase1.Foundation.Transition
import TenderPhase1.Spiders.ListVisits
import Mathlib.Algebra.Ring.Int.Defs

/-!
# Runs of the Anhui spider over the list

The spider starts with one request for a page of the list, and a call of `parse` issues at most one
more. A run is what becomes of these requests, in order: a page, whatever it holds, or nothing that
reaches `parse`. While a request is unanswered, the counts of the spider are those of the pages that
all the calls so far have read.
-/

namespace TenderPhase1.Spiders.AnhuiGgzyZfcg

open Crawler IsoDates Transition

/-- A call of `parse`: its page, what it reads of the page, the spider before and after it and what it
yields. -/
structure Visit where
  page : ListPage
  read : Option ReadPage
  before : ListSpider
  after : ListSpider
  outcome : PageOutcome

def Visit.parsed (visit : Visit) : Option ReadPage := visit.read.filter fun read ↦ read.refused.isNone

/-- The spider, its requests for pages of the list, those that are unanswered, and its calls, the last one
first. -/
structure ListRun where
  spider : ListSpider := {}
  listRequests : ℕ := 1
  unanswered : ℕ := 1
  visits : List Visit := []

inductive ListAnswer where
  | response (page : ListPage) (fetchedAt : DateTime)
  | lost

section Runs

variable (python : Python) (config : ListConfig) (dateFromisoformat : String → Option IsoDate)
  (scrapyRequest : String → Except PyError Unit) (exceptionText : PyError → String × String)

def ListSpider.visit (spider : ListSpider) (page : ListPage) (fetchedAt : DateTime) : Visit :=
  let ended := parsePage python config dateFromisoformat scrapyRequest exceptionText spider page fetchedAt
  ⟨page, readPage python config dateFromisoformat scrapyRequest spider page, spider, ended.1, ended.2⟩

def ListRun.step (run : ListRun) : ListAnswer → ListRun
  | .lost => { run with unanswered := run.unanswered - 1 }
  | .response page fetchedAt =>
    if run.unanswered = 0 then run
    else
      let visit := run.spider.visit python config dateFromisoformat scrapyRequest exceptionText page fetchedAt
      let issued := visit.outcome.nextRequest.toList.length
      { spider := visit.after
        listRequests := run.listRequests + issued
        unanswered := run.unanswered - 1 + issued
        visits := visit :: run.visits }

def listRun (answers : List ListAnswer) : ListRun :=
  answers.foldl (ListRun.step python config dateFromisoformat scrapyRequest exceptionText) {}

end Runs

/-! ## What the spider has counted -/

/-- The pages that calls have read, and those that they have read to the end. -/
def readPages (visits : List Visit) : List ReadPage := visits.filterMap Visit.read

def parsedPages (visits : List Visit) : List ReadPage := visits.filterMap Visit.parsed

def total (config : ListConfig) (figure : ListPageNotes → ℤ) (pages : List ReadPage) : ℤ :=
  (pages.map fun page ↦ figure (page.notes config)).sum

/-- Calls that have all read their pages, and a spider that has counted what they have read. -/
structure Tallies (config : ListConfig) (visits : List Visit) (spider : ListSpider) : Prop where
  parsed : ∀ visit ∈ visits, visit.parsed.isSome
  seenListPages : spider.seenListPages = (parsedPages visits).map ReadPage.number
  pagesScraped : spider.pagesScraped = visits.length
  fingerprints : spider.seenSourceListItemFingerprints =
    (parsedPages visits).flatMap fun page ↦ fingerprintsOf page.requested
  listItemsSeen : spider.listItemsSeen = total config ListPageNotes.itemCount (parsedPages visits)
  listItemsUnique : spider.listItemsUnique = total config ListPageNotes.newUnique (parsedPages visits)
  duplicatesSkipped :
    spider.listItemsSourceDuplicatesSkipped = total config ListPageNotes.duplicatesSkipped (parsedPages visits)
  noNewPages : spider.consecutiveNoNewPages =
    ((parsedPages visits).takeWhile fun page ↦ page.requested.isEmpty).length

section Invariants

variable {python : Python} {config : ListConfig} {dateFromisoformat : String → Option IsoDate}
  {scrapyRequest : String → Except PyError Unit} {exceptionText : PyError → String × String}
  {visit : Visit} {visits : List Visit} {run : ListRun}

theorem Visit.parsed_eq_some {read : ReadPage} :
    visit.parsed = some read ↔ visit.read = some read ∧ read.refused = none := by
  unfold Visit.parsed
  rw [Option.filter_eq_some_iff, Option.isNone_iff_eq_none]

theorem tallies_start (config : ListConfig) : Tallies config [] {} where
  parsed := fun _ h ↦ absurd h List.not_mem_nil
  seenListPages := rfl
  pagesScraped := rfl
  fingerprints := rfl
  listItemsSeen := rfl
  listItemsUnique := rfl
  duplicatesSkipped := rfl
  noNewPages := rfl

theorem total_cons (figure : ListPageNotes → ℤ) (page : ReadPage) (pages : List ReadPage) :
    total config figure (page :: pages) = total config figure pages + figure (page.notes config) := by
  unfold total
  rw [List.map_cons, List.sum_cons, Int.add_comm]

theorem Tallies.readPages_eq {spider : ListSpider} (h : Tallies config visits spider) :
    readPages visits = parsedPages visits := by
  apply List.filterMap_congr
  intro visit hvisit
  obtain ⟨page, hpage⟩ := Option.isSome_iff_exists.mp (h.parsed visit hvisit)
  exact (Visit.parsed_eq_some.mp hpage).1.trans hpage.symm

/-- A page that is read to its end is added to the counts. -/
theorem Tallies.next {read : ReadPage} (h : Tallies config visits visit.before) (hparsed : visit.parsed = some read)
    (hreads : Reads python config dateFromisoformat visit.before visit.after visit.page visit.outcome read) :
    Tallies config (visit :: visits) visit.after := by
  have hsummed := hreads.summedUp (Visit.parsed_eq_some.mp hparsed).2
  have hpages : parsedPages (visit :: visits) = read :: parsedPages visits := List.filterMap_cons_some hparsed
  exact
    { parsed := by
        intro other hother
        rcases List.mem_cons.mp hother with rfl | hearlier
        · rw [hparsed]
          rfl
        · exact h.parsed other hearlier
      seenListPages := by rw [hreads.seenListPages, h.seenListPages, hpages, List.map_cons]
      pagesScraped := by
        rw [hreads.pagesScraped, h.pagesScraped, List.length_cons]
        omega
      fingerprints := by
        rw [hreads.fingerprints, (Visit.parsed_eq_some.mp hparsed).2, h.fingerprints, hpages, List.flatMap_cons]
        simp
      listItemsSeen := by
        rw [hreads.listItemsSeen, h.listItemsSeen, hpages, total_cons]
        rfl
      listItemsUnique := by
        rw [hsummed.listItemsUnique, h.listItemsUnique, hpages, total_cons]
        rfl
      duplicatesSkipped := by
        rw [hsummed.duplicatesSkipped, h.duplicatesSkipped, hpages, total_cons]
        rfl
      noNewPages := by
        rw [hsummed.noNewPages, h.noNewPages, hpages, List.takeWhile_cons]
        cases hrequested : read.requested with
        | nil => simp
        | cons item items => simp }

/-- A call of `parse` by a spider that has counted the calls before. -/
def CalledAfter (python : Python) (config : ListConfig) (dateFromisoformat : String → Option IsoDate)
    (scrapyRequest : String → Except PyError Unit) (exceptionText : PyError → String × String) (earlier : List Visit)
    (visit : Visit) : Prop :=
  Tallies config earlier visit.before ∧ ∃ fetchedAt,
    visit = visit.before.visit python config dateFromisoformat scrapyRequest exceptionText visit.page fetchedAt

/-- What holds of a run: its calls are calls of `parse` by spiders that have counted the calls before, and
while a request is unanswered the spider has counted all of them. -/
structure Walked (python : Python) (config : ListConfig) (dateFromisoformat : String → Option IsoDate)
    (scrapyRequest : String → Except PyError Unit) (exceptionText : PyError → String × String) (run : ListRun) :
    Prop where
  unanswered : run.unanswered ≤ 1
  listRequests : run.listRequests = 1 + (run.visits.flatMap fun visit ↦ visit.outcome.nextRequest.toList).length
  pagesScraped : (run.listRequests : ℤ) ≤ run.spider.pagesScraped + 1
  waiting : 0 < run.unanswered → Tallies config run.visits run.spider
  visits : ∀ later visit earlier, run.visits = later ++ visit :: earlier →
    CalledAfter python config dateFromisoformat scrapyRequest exceptionText earlier visit

theorem walked_start : Walked python config dateFromisoformat scrapyRequest exceptionText {} where
  unanswered := le_refl 1
  listRequests := rfl
  pagesScraped := by decide
  waiting := fun _ ↦ tallies_start config
  visits := fun later visit earlier h ↦ absurd h.symm (by simp)

section Calls

variable (python config dateFromisoformat scrapyRequest exceptionText) (spider : ListSpider) (page : ListPage)
  (fetchedAt : DateTime)

theorem ListSpider.reads_visit {read : ReadPage}
    (h : (spider.visit python config dateFromisoformat scrapyRequest exceptionText page fetchedAt).read = some read) :
    Reads python config dateFromisoformat spider
      (spider.visit python config dateFromisoformat scrapyRequest exceptionText page fetchedAt).after page
      (spider.visit python config dateFromisoformat scrapyRequest exceptionText page fetchedAt).outcome read := by
  have hread : readPage python config dateFromisoformat scrapyRequest spider page = some read := h
  rcases parsePage_cases python config dateFromisoformat scrapyRequest exceptionText spider page fetchedAt with
    ⟨hnone, -⟩ | ⟨hnone, -⟩ | ⟨found, hfound, hreads⟩
  · cases hnone.symm.trans hread
  · cases hnone.symm.trans hread
  · obtain rfl : found = read := Option.some.inj (hfound.symm.trans hread)
    exact hreads

/-- A call that does not read its page yields nothing, and the spider knows of no more items. -/
theorem ListSpider.visit_unread
    (h : (spider.visit python config dateFromisoformat scrapyRequest exceptionText page fetchedAt).read = none) :
    (spider.visit python config dateFromisoformat scrapyRequest exceptionText page fetchedAt).outcome.Silent ∧
      SameItems spider
        (spider.visit python config dateFromisoformat scrapyRequest exceptionText page fetchedAt).after := by
  rcases parsePage_cases python config dateFromisoformat scrapyRequest exceptionText spider page fetchedAt with
    ⟨-, hkept, hsilent⟩ | ⟨-, hcounted⟩ | ⟨read, hread, -⟩
  · have hafter : (spider.visit python config dateFromisoformat scrapyRequest exceptionText page fetchedAt).after =
        spider := hkept
    rw [hafter]
    exact ⟨hsilent, rfl, rfl, rfl, rfl⟩
  · exact ⟨hcounted.silent, hcounted.sameItems⟩
  · cases hread.symm.trans h

/-- A call that does not read its page to the end requests no further page and has no document for it. -/
theorem ListSpider.visit_unparsed
    (h : (spider.visit python config dateFromisoformat scrapyRequest exceptionText page fetchedAt).parsed = none) :
    ((spider.visit python config dateFromisoformat scrapyRequest exceptionText page fetchedAt).outcome.nextRequest = none ∧
        (spider.visit python config dateFromisoformat scrapyRequest exceptionText page fetchedAt).outcome.rawItem =
          none) ∧
      spider.pagesScraped ≤
        (spider.visit python config dateFromisoformat scrapyRequest exceptionText page fetchedAt).after.pagesScraped ∧
      (spider.visit python config dateFromisoformat scrapyRequest exceptionText page fetchedAt).after.pagesScraped ≤
        spider.pagesScraped + 1 := by
  rcases parsePage_cases python config dateFromisoformat scrapyRequest exceptionText spider page fetchedAt with
    ⟨-, hkept, hsilent⟩ | ⟨-, hcounted⟩ | ⟨read, hread, hreads⟩
  · refine ⟨⟨hsilent.nextRequest, hsilent.rawItem⟩, ?_, ?_⟩
    · exact (congrArg ListSpider.pagesScraped hkept).ge
    · have hsame := (congrArg ListSpider.pagesScraped hkept).le
      exact hsame.trans (Int.le.intro 1 rfl)
  · refine ⟨⟨hcounted.silent.nextRequest, hcounted.silent.rawItem⟩, ?_, hcounted.pagesScraped.le⟩
    exact (Int.le.intro 1 rfl).trans hcounted.pagesScraped.ge
  · have hrefused : read.refused.isSome := by
      cases hnone : read.refused with
      | none => cases h.symm.trans (Visit.parsed_eq_some.mpr ⟨hread, hnone⟩)
      | some refused => rfl
    obtain ⟨hnone, hnext⟩ := hreads.interrupted hrefused
    refine ⟨⟨hnext, hnone⟩, ?_, hreads.pagesScraped.le⟩
    exact (Int.le.intro 1 rfl).trans hreads.pagesScraped.ge

end Calls

/-- An answer keeps what holds of a run. -/
theorem Walked.step (answer : ListAnswer)
    (h : Walked python config dateFromisoformat scrapyRequest exceptionText run) :
    Walked python config dateFromisoformat scrapyRequest exceptionText
      (run.step python config dateFromisoformat scrapyRequest exceptionText answer) := by
  cases answer with
  | lost =>
    exact
      { unanswered := (Nat.sub_le _ 1).trans h.unanswered
        listRequests := h.listRequests
        pagesScraped := h.pagesScraped
        waiting := fun hpositive ↦ h.waiting (hpositive.trans_le (Nat.sub_le _ 1))
        visits := h.visits }
  | response page fetchedAt =>
    unfold ListRun.step
    dsimp only
    split
    · exact h
    · rename_i hanswered
      have hone : run.unanswered = 1 := by
        have hle := h.unanswered
        omega
      have htallies := h.waiting (by omega)
      set visit := run.spider.visit python config dateFromisoformat scrapyRequest exceptionText page fetchedAt with hvisit
      have hvisits : ∀ later earlierVisit earlier, visit :: run.visits = later ++ earlierVisit :: earlier →
          CalledAfter python config dateFromisoformat scrapyRequest exceptionText earlier earlierVisit := by
        intro later earlierVisit earlier hsplit
        cases later with
        | nil =>
          obtain ⟨rfl, rfl⟩ := List.cons.inj hsplit
          exact ⟨htallies, fetchedAt, hvisit⟩
        | cons last later => exact h.visits later earlierVisit earlier (List.cons.inj hsplit).2
      have hissued : visit.outcome.nextRequest.toList.length ≤ 1 := Option.length_toList_le
      have hrequests : run.listRequests + visit.outcome.nextRequest.toList.length =
          1 + ((visit :: run.visits).flatMap fun visit ↦ visit.outcome.nextRequest.toList).length := by
        rw [List.flatMap_cons, List.length_append, h.listRequests]
        omega
      have hscraped := h.pagesScraped
      cases hparsed : visit.parsed with
      | none =>
        obtain ⟨⟨hnext, -⟩, hmono, -⟩ := ListSpider.visit_unparsed python config dateFromisoformat scrapyRequest exceptionText
          run.spider page fetchedAt hparsed
        have hnone : visit.outcome.nextRequest.toList.length = 0 := by
          rw [hvisit, hnext]
          rfl
        exact
          { unanswered := by
              change run.unanswered - 1 + _ ≤ 1
              omega
            listRequests := hrequests
            pagesScraped := by
              rw [hnone, Nat.add_zero]
              exact hscraped.trans (Int.add_le_add_right hmono 1)
            waiting := by
              intro hpositive
              change 0 < run.unanswered - 1 + _ at hpositive
              omega
            visits := hvisits }
      | some read =>
        have hreads := ListSpider.reads_visit python config dateFromisoformat scrapyRequest exceptionText run.spider page
          fetchedAt (Visit.parsed_eq_some.mp hparsed).1
        have hcounted : visit.after.pagesScraped = run.spider.pagesScraped + 1 := hreads.pagesScraped
        exact
          { unanswered := by
              change run.unanswered - 1 + _ ≤ 1
              omega
            listRequests := hrequests
            pagesScraped := by
              rw [hcounted]
              push_cast
              omega
            waiting := fun _ ↦ Tallies.next htallies hparsed hreads
            visits := hvisits }

theorem walked_listRun (python : Python) (config : ListConfig) (dateFromisoformat : String → Option IsoDate)
    (scrapyRequest : String → Except PyError Unit) (exceptionText : PyError → String × String)
    (answers : List ListAnswer) : Walked python config dateFromisoformat scrapyRequest exceptionText
      (listRun python config dateFromisoformat scrapyRequest exceptionText answers) :=
  invariant_run (fun _ answer h ↦ Walked.step answer h) ({} : ListRun) answers walked_start

theorem reads_of_visit {read : ReadPage}
    (h : CalledAfter python config dateFromisoformat scrapyRequest exceptionText visits visit)
    (hread : visit.read = some read) :
    Tallies config visits visit.before ∧
      Reads python config dateFromisoformat visit.before visit.after visit.page visit.outcome read := by
  obtain ⟨htallies, fetchedAt, hvisit⟩ := h
  rw [hvisit] at hread
  have hreads := ListSpider.reads_visit python config dateFromisoformat scrapyRequest exceptionText visit.before
    visit.page fetchedAt hread
  rw [← hvisit] at hreads
  exact ⟨htallies, hreads⟩

theorem unread_of_visit
    (h : CalledAfter python config dateFromisoformat scrapyRequest exceptionText visits visit)
    (hread : visit.read = none) : visit.outcome.Silent ∧ SameItems visit.before visit.after := by
  obtain ⟨-, fetchedAt, hvisit⟩ := h
  rw [hvisit] at hread
  have hunread := ListSpider.visit_unread python config dateFromisoformat scrapyRequest exceptionText visit.before
    visit.page fetchedAt hread
  rwa [← hvisit] at hunread

section Walks

variable {later earlier : List Visit} (h : Walked python config dateFromisoformat scrapyRequest exceptionText run)
  (hsplit : run.visits = later ++ visit :: earlier)

include h hsplit

theorem Walked.reads {read : ReadPage} (hread : visit.read = some read) : Tallies config earlier visit.before ∧
    Reads python config dateFromisoformat visit.before visit.after visit.page visit.outcome read :=
  reads_of_visit (h.visits later visit earlier hsplit) hread

theorem Walked.nextRequest_eq_none (hparsed : visit.parsed = none) : visit.outcome.nextRequest = none := by
  obtain ⟨-, fetchedAt, hvisit⟩ := h.visits later visit earlier hsplit
  rw [hvisit] at hparsed ⊢
  exact (ListSpider.visit_unparsed python config dateFromisoformat scrapyRequest exceptionText visit.before visit.page
    fetchedAt hparsed).1.1

end Walks

theorem Walked.reads_of_mem (h : Walked python config dateFromisoformat scrapyRequest exceptionText run)
    (hmem : visit ∈ run.visits) {read : ReadPage} (hread : visit.read = some read) :
    Reads python config dateFromisoformat visit.before visit.after visit.page visit.outcome read := by
  obtain ⟨later, earlier, hsplit⟩ := List.append_of_mem hmem
  exact (h.reads hsplit hread).2

/-! ## Bounds and stop rules -/

/-- All the items of a page are known to be older than the window. -/
def AllOlder (config : ListConfig) (items : List (ListItemCandidate × Option IsoDate)) : Prop :=
  ∃ start ∈ config.backfillStartDate, ∀ item ∈ items, ∃ date ∈ item.2, date < start

/-- The last calls, as many as `count`, have requested no detail page. -/
def QuietFor (count : ℤ) (visits : List Visit) : Prop :=
  ∃ quiet older, visits = quiet ++ older ∧ count ≤ quiet.length ∧ ∀ visit ∈ quiet, visit.outcome.detailRequests = []

theorem AllOlder.eq_true {items : List (ListItemCandidate × Option IsoDate)} (h : AllOlder config items)
    (hitems : items ≠ []) : config.allItemsOlderThanBackfill (items.map Prod.snd) = true := by
  obtain ⟨start, hstart, hall⟩ := h
  unfold ListConfig.allItemsOlderThanBackfill
  rw [Option.mem_def.mp hstart]
  refine decide_eq_true ⟨fun hnil ↦ hitems (List.map_eq_nil_iff.mp hnil), ?_⟩
  intro date hdate
  obtain ⟨item, hitem, rfl⟩ := List.mem_map.mp hdate
  obtain ⟨known, hknown, hless⟩ := hall item hitem
  rw [Option.mem_def.mp hknown]
  exact decide_eq_true hless

theorem parsedPages_append (first second : List Visit) :
    parsedPages (first ++ second) = parsedPages first ++ parsedPages second := List.filterMap_append

/-- A spider that has counted its calls knows of every quiet one. -/
theorem Tallies.le_noNewPages {count : ℤ} {spider : ListSpider} (h : Tallies config visits spider)
    (hrequests : ∀ visit ∈ visits, ∀ read ∈ visit.read, visit.outcome.detailRequests = read.requested)
    (hquiet : QuietFor count visits) : count ≤ spider.consecutiveNoNewPages := by
  obtain ⟨quiet, older, rfl, hcount, hnothing⟩ := hquiet
  have hlength : (parsedPages quiet).length = quiet.length :=
    List.filterMap_length_eq_length.mpr fun visit hvisit ↦ h.parsed visit (List.mem_append_left _ hvisit)
  have hempty : ∀ page ∈ parsedPages quiet, page.requested.isEmpty := by
    intro page hpage
    obtain ⟨visit, hvisit, hparsed⟩ := List.mem_filterMap.mp hpage
    have hrequested := hrequests visit (List.mem_append_left _ hvisit) page (Visit.parsed_eq_some.mp hparsed).1
    rw [← hrequested, hnothing visit hvisit]
    rfl
  rw [h.noNewPages, parsedPages_append, List.takeWhile_append_of_pos hempty, List.length_append]
  push_cast
  omega

/-- The pages that a run reads have different numbers. -/
theorem Walked.nodup (h : Walked python config dateFromisoformat scrapyRequest exceptionText run) :
    ((readPages run.visits).map ReadPage.number).Nodup := by
  have hsuffix := h.visits
  generalize run.visits = visits at hsuffix ⊢
  induction visits with
  | nil => exact List.nodup_nil
  | cons visit visits ih =>
    have hlater : ((readPages visits).map ReadPage.number).Nodup :=
      ih fun later earlierVisit earlier hsplit ↦ hsuffix (visit :: later) earlierVisit earlier (by rw [hsplit]; rfl)
    have hlast := hsuffix [] visit visits rfl
    cases hread : visit.read with
    | none =>
      have hpages : readPages (visit :: visits) = readPages visits := List.filterMap_cons_none hread
      rw [hpages]
      exact hlater
    | some read =>
      have hpages : readPages (visit :: visits) = read :: readPages visits := List.filterMap_cons_some hread
      obtain ⟨htallies, hreads⟩ := reads_of_visit hlast hread
      have hnew := hreads.new
      rw [htallies.seenListPages, ← htallies.readPages_eq] at hnew
      rw [hpages, List.map_cons]
      exact List.nodup_cons.mpr ⟨hnew, hlater⟩

/-- The counts of a run with at most `maxPages` pages. -/
structure Bounded (maxPages : ℤ) (run : ListRun) : Prop where
  listRequests : (run.listRequests : ℤ) ≤ maxPages
  pagesScraped : run.spider.pagesScraped ≤ maxPages
  waiting : 0 < run.unanswered → run.spider.pagesScraped < maxPages

/-- An answer keeps the run within the page limit. -/
theorem Bounded.step {maxPages : ℤ} (answer : ListAnswer)
    (hwalked : Walked python config dateFromisoformat scrapyRequest exceptionText run)
    (hmax : maxPages ∈ config.maxPages) (h : Bounded maxPages run) :
    Bounded maxPages (run.step python config dateFromisoformat scrapyRequest exceptionText answer) := by
  cases answer with
  | lost => exact ⟨h.listRequests, h.pagesScraped, fun hpositive ↦ h.waiting (hpositive.trans_le (Nat.sub_le _ 1))⟩
  | response page fetchedAt =>
    unfold ListRun.step
    dsimp only
    split
    · exact h
    · rename_i hanswered
      have hbelow := h.waiting (Nat.pos_of_ne_zero hanswered)
      have hone := hwalked.unanswered
      have hrequests := h.listRequests
      have hscraped := hwalked.pagesScraped
      set visit := run.spider.visit python config dateFromisoformat scrapyRequest exceptionText page fetchedAt with hvisit
      cases hnext : visit.outcome.nextRequest with
      | none =>
        have hcounted : visit.after.pagesScraped ≤ run.spider.pagesScraped + 1 := by
          cases hparsed : visit.parsed with
          | none =>
            exact (ListSpider.visit_unparsed python config dateFromisoformat scrapyRequest exceptionText run.spider page
              fetchedAt hparsed).2.2
          | some read =>
            exact (ListSpider.reads_visit python config dateFromisoformat scrapyRequest exceptionText run.spider page
              fetchedAt (Visit.parsed_eq_some.mp hparsed).1).pagesScraped.le
        refine ⟨hrequests, hcounted.trans hbelow, ?_⟩
        intro hpositive
        change 0 < run.unanswered - 1 + 0 at hpositive
        omega
      | some request =>
        cases hparsed : visit.parsed with
        | none =>
          have hsilent := (ListSpider.visit_unparsed python config dateFromisoformat scrapyRequest exceptionText run.spider
            page fetchedAt hparsed).1.1
          cases hsilent.symm.trans hnext
        | some read =>
          obtain ⟨hread, hrefused⟩ := Visit.parsed_eq_some.mp hparsed
          have hreads := ListSpider.reads_visit python config dateFromisoformat scrapyRequest exceptionText run.spider page
            fetchedAt hread
          have hcounted : visit.after.pagesScraped = run.spider.pagesScraped + 1 := hreads.pagesScraped
          have hfewer : visit.after.pagesScraped < maxPages :=
            ((hreads.summedUp hrefused).nextRequest request hnext).2.2.1 maxPages hmax
          refine ⟨?_, hfewer.le, fun _ ↦ hfewer⟩
          change ((run.listRequests + 1 : ℕ) : ℤ) ≤ maxPages
          push_cast
          omega

theorem one_le_of_parseOptionalPositiveInt {value : Value} {n : ℤ}
    (h : parseOptionalPositiveInt python value = .ok (some n)) : 1 ≤ n := by
  unfold parseOptionalPositiveInt at h
  split at h
  · cases h
  · obtain ⟨parsed, -, hparsed⟩ := map_eq_ok.mp h
    rw [← Option.some.inj hparsed]
    exact le_max_left 1 parsed

theorem one_le_maxPages {arguments : SpiderArguments} (h : ListConfig.init python arguments = .ok config) :
    ∀ maxPages ∈ config.maxPages, 1 ≤ maxPages := by
  unfold ListConfig.init at h
  obtain ⟨crawlJobId, -, h⟩ := Jobs.bind_eq_ok.mp h
  obtain ⟨maxPages, hmaxPages, h⟩ := Jobs.bind_eq_ok.mp h
  obtain ⟨backfillYear, -, h⟩ := Jobs.bind_eq_ok.mp h
  obtain ⟨backfillStartDate, -, h⟩ := Jobs.bind_eq_ok.mp h
  obtain ⟨threshold, -, h⟩ := Jobs.bind_eq_ok.mp h
  rw [← Except.ok.inj h]
  intro n hn
  have hsome : maxPages = some n := hn
  exact one_le_of_parseOptionalPositiveInt (hsome ▸ hmaxPages)

/-- A request for the page after the one of a call: its number is greater, the page is not empty and not all
older than the window, and the last calls have not all been without a new item. -/
structure GoesOn (python : Python) (config : ListConfig) (dateFromisoformat : String → Option IsoDate) (visit : Visit)
    (earlier : List Visit) (request : FormRequest) : Prop where
  next : ∃ next, visit.page.number python < next ∧ request.formdata = buildListFormdata config next
  items : ∃ items, visit.page.datedItems python dateFromisoformat = .ok items ∧ items ≠ [] ∧ ¬ AllOlder config items
  news : ¬ QuietFor config.stopAfterConsecutiveNoNewPages (visit :: earlier)

/-- What a call that has read its page has of it, and what it requests. -/
structure ReadsItems (python : Python) (dateFromisoformat : String → Option IsoDate) (visit : Visit) (read : ReadPage) :
    Prop where
  number : read.number = visit.page.number python
  items : visit.page.datedItems python dateFromisoformat = .ok read.items
  detailRequests : visit.outcome.detailRequests = read.requested

structure PagingBounded (python : Python) (config : ListConfig) (dateFromisoformat : String → Option IsoDate)
    (run : ListRun) : Prop where
  maxPages : ∀ maxPages ∈ config.maxPages, (run.listRequests : ℤ) ≤ maxPages ∧ run.spider.pagesScraped ≤ maxPages
  /-- No number is read twice, and a call that reads nothing yields nothing and adds no item. -/
  numbers : ((readPages run.visits).map ReadPage.number).Nodup
  read : ∀ visit ∈ run.visits, ∀ read ∈ visit.read, ReadsItems python dateFromisoformat visit read
  unread : ∀ visit ∈ run.visits, visit.read = none → visit.outcome.Silent ∧ SameItems visit.before visit.after
  /-- Besides the first request there are those that the calls issue, one at most each. -/
  listRequests : run.listRequests = 1 + (run.visits.flatMap fun visit ↦ visit.outcome.nextRequest.toList).length
  goesOn : ∀ later visit earlier, run.visits = later ++ visit :: earlier → ∀ request ∈ visit.outcome.nextRequest,
    GoesOn python config dateFromisoformat visit earlier request

/-- Whatever the server answers, the paging of a spider is bounded. -/
theorem pagingBounded {arguments : SpiderArguments} (hinit : ListConfig.init python arguments = .ok config)
    (answers : List ListAnswer) :
    PagingBounded python config dateFromisoformat
      (listRun python config dateFromisoformat scrapyRequest exceptionText answers) := by
  have hwalked := walked_listRun python config dateFromisoformat scrapyRequest exceptionText answers
  exact
    { maxPages := by
        intro maxPages hmax
        have hpositive := one_le_maxPages hinit maxPages hmax
        have hstart : Bounded maxPages {} := ⟨hpositive, (Int.zero_le_ofNat 1).trans hpositive, fun _ ↦ hpositive⟩
        have hkeep (run : ListRun) (answer : ListAnswer)
            (h : Walked python config dateFromisoformat scrapyRequest exceptionText run ∧ Bounded maxPages run) :
            Walked python config dateFromisoformat scrapyRequest exceptionText
                (run.step python config dateFromisoformat scrapyRequest exceptionText answer) ∧
              Bounded maxPages (run.step python config dateFromisoformat scrapyRequest exceptionText answer) :=
          ⟨h.1.step answer, h.2.step answer h.1 hmax⟩
        have hbounded := invariant_run hkeep ({} : ListRun) answers ⟨walked_start, hstart⟩
        exact ⟨hbounded.2.listRequests, hbounded.2.pagesScraped⟩
      numbers := hwalked.nodup
      read := by
        intro visit hvisit read hread
        have hreads := hwalked.reads_of_mem hvisit hread
        exact ⟨hreads.number, hreads.items, hreads.detailRequests⟩
      unread := by
        intro visit hvisit hnone
        obtain ⟨later, earlier, hsplit⟩ := List.append_of_mem hvisit
        exact unread_of_visit (hwalked.visits later visit earlier hsplit) hnone
      listRequests := hwalked.listRequests
      goesOn := by
        intro later visit earlier hsplit request hrequest
        cases hparsed : visit.parsed with
        | none => cases (hwalked.nextRequest_eq_none hsplit hparsed).symm.trans hrequest
        | some read =>
          obtain ⟨hread, hrefused⟩ := Visit.parsed_eq_some.mp hparsed
          obtain ⟨htallies, hreads⟩ := hwalked.reads hsplit hread
          obtain ⟨hitems, hrecent, -, hquiet, hnext⟩ := (hreads.summedUp hrefused).nextRequest request hrequest
          have hrequests (other : Visit) (hother : other ∈ visit :: earlier) (page : ReadPage) (hpage : page ∈ other.read) :
              other.outcome.detailRequests = page.requested :=
            (hwalked.reads_of_mem (hsplit ▸ List.mem_append_right _ hother) hpage).detailRequests
          refine ⟨hreads.number ▸ hnext, ⟨read.items, hreads.items, hitems, ?_⟩, ?_⟩
          · intro hallOlder
            have htrue := hallOlder.eq_true hitems
            rw [← hreads.allOlder, hrecent] at htrue
            cases htrue
          · intro hlong
            exact absurd ((htallies.next hparsed hreads).le_noNewPages hrequests hlong) (not_le.mpr hquiet) }

/-- A page of links to details with one text and one date, and a link to the next page. -/
def plainListPage (number : String) (hrefs : List String) (onclick : String) : ListPage where
  url := "https://ggzy.ah.gov.cn/zfcg/list"
  text := ""
  status := 200
  contentType := "text/html"
  encoding := "utf-8"
  title := none
  urljoin href := .ok ("https://ggzy.ah.gov.cn" ++ href)
  currentPageValue := some number
  pagerTexts := [number]
  inputs := []
  pagerLinks := [⟨["下一页"], none, some "#", some onclick⟩]
  anchors := hrefs.map fun href ↦ ⟨some href, ["road works"], ["road works"], [], some "2026-03-20"⟩

/-- The arguments of a spider that reads two pages, and what `__init__` makes of them. -/
def twoPages : SpiderArguments := { maxPages := some (.str "2") }

def twoPagesConfig : ListConfig := ⟨none, some 2, "1", some "1", none, 5, true⟩

/-- The run in which two pages with one item each are answered. -/
def twoPagesRun : ListRun :=
  listRun markingPython twoPagesConfig (fun _ ↦ none) (fun _ ↦ .ok ()) (fun _ ↦ ("ValueError", ""))
    [.response (plainListPage "1" ["/zfcg/newDetail?guid=1"] "pagination(1+1)") epoch,
      .response (plainListPage "2" ["/zfcg/newDetail?guid=2"] "pagination(2+1)") epoch]

theorem pagingBounded_twoPages :
    PagingBounded markingPython twoPagesConfig (fun _ ↦ none) twoPagesRun ∧ twoPagesRun.listRequests = 2 := by
  have hinit : ListConfig.init markingPython twoPages = .ok twoPagesConfig := by rfl
  exact ⟨pagingBounded hinit _, by decide +kernel⟩

/-! ## Items and figures -/

theorem isInBackfillWindow_iff {date : Option IsoDate} :
    config.isInBackfillWindow date = true ↔ ∀ start ∈ config.backfillStartDate, ∀ known ∈ date, start ≤ known := by
  unfold ListConfig.isInBackfillWindow
  cases config.backfillStartDate with
  | none => simp
  | some start =>
    cases date with
    | none => simp
    | some known => simp

/-- No item is in the window where all of them are older. -/
theorem inWindow_eq_nil {read : ReadPage} (h : config.allItemsOlderThanBackfill (read.items.map Prod.snd) = true) :
    read.inWindow config = [] := by
  unfold ListConfig.allItemsOlderThanBackfill at h
  split at h
  · cases h
  · rename_i start hstart
    have hall := (of_decide_eq_true h).2
    unfold ReadPage.inWindow
    rw [List.map_eq_nil_iff, List.filter_eq_nil_iff]
    intro item hitem hwindow
    obtain ⟨known, hknown, hless⟩ := (Option.any_eq_true _ _).mp (hall item.2 (List.mem_map_of_mem hitem))
    have hle := isInBackfillWindow_iff.mp hwindow start hstart known hknown
    exact absurd hle (not_le.mpr (of_decide_eq_true hless))

/-- A parsed page and its figures: each item in the window is requested or skipped, and the others are
filtered out. -/
structure PageBalanced (python : Python) (config : ListConfig) (dateFromisoformat : String → Option IsoDate)
    (visit : Visit) (read : ReadPage) : Prop where
  items : visit.page.datedItems python dateFromisoformat = .ok read.items
  document : ∀ item ∈ visit.outcome.rawItem, ∃ response fetchedAt,
    buildRawItem python config visit.page.toTextResponse fetchedAt "list"
      (listPageMeta python config visit.after response (read.notes config)) = .ok item
  itemCount : (read.notes config).itemCount = read.items.length
  balance : (read.notes config).itemCount =
    (read.notes config).filteredOut + (read.notes config).newUnique + (read.notes config).duplicatesSkipped
  newUnique : (visit.outcome.detailRequests.length : ℤ) = (read.notes config).newUnique
  window : ∀ item ∈ visit.outcome.detailRequests, ∃ date, (item, date) ∈ read.items ∧
    ∀ start ∈ config.backfillStartDate, ∀ known ∈ date, start ≤ known
  /-- The items in the window are decided about in their order, and those decided for are requested. -/
  decided : read.decided.map Prod.fst = read.inWindow config
  requested : visit.outcome.detailRequests = requestedOf read.decided
  skipped : ∀ before item after, read.decided = before ++ (item, false) :: after → config.dedupWithinRun = true ∧
    item.sourceListItemFingerprint ∈ fingerprintsOf (requestedOf before) ++ visit.before.seenSourceListItemFingerprints

/-- What the spider has counted and requested when it has parsed a page. -/
structure TotalsAgree (config : ListConfig) (visit : Visit) (earlier : List Visit) : Prop where
  listItemsSeen : visit.after.listItemsSeen = total config ListPageNotes.itemCount (parsedPages (visit :: earlier))
  listItemsUnique : visit.after.listItemsUnique = total config ListPageNotes.newUnique (parsedPages (visit :: earlier))
  duplicatesSkipped : visit.after.listItemsSourceDuplicatesSkipped =
    total config ListPageNotes.duplicatesSkipped (parsedPages (visit :: earlier))
  fingerprints : ∀ fingerprint ∈ visit.before.seenSourceListItemFingerprints,
    ∃ older ∈ earlier, ∃ item ∈ older.outcome.detailRequests, item.sourceListItemFingerprint = fingerprint

/-- A call that reads its page to the end balances its figures. -/
theorem pageBalanced_of_reads {read : ReadPage} (hrefused : read.refused = none)
    (hreads : Reads python config dateFromisoformat visit.before visit.after visit.page visit.outcome read) :
    PageBalanced python config dateFromisoformat visit read := by
  have hsummed := hreads.summedUp hrefused
  have hdecided : read.decided.map Prod.fst = read.inWindow config := by
    rw [hsummed.decided]
    split
    · rename_i hallOlder
      exact (inWindow_eq_nil (hreads.allOlder ▸ hallOlder)).symm
    · exact map_fst_decisions config _ _
  have hlength : (requestedOf read.decided).length + (skippedOf read.decided).length = (read.inWindow config).length := by
    calc (requestedOf read.decided).length + (skippedOf read.decided).length = read.decided.length :=
          length_requested_add_skipped read.decided
      _ = (read.decided.map Prod.fst).length := (List.length_map Prod.fst).symm
      _ = (read.inWindow config).length := by rw [hdecided]
  exact
    { items := hreads.items
      document := hsummed.rawItem
      itemCount := rfl
      balance := by
        have hcast : ((requestedOf read.decided).length : ℤ) + (skippedOf read.decided).length =
            (read.inWindow config).length := by exact_mod_cast hlength
        change (read.items.length : ℤ) = read.items.length - (read.inWindow config).length +
          (requestedOf read.decided).length + (skippedOf read.decided).length
        omega
      newUnique := by rw [hreads.detailRequests]; rfl
      window := by
        intro item hitem
        rw [hreads.detailRequests] at hitem
        obtain ⟨decision, hdecision, rfl⟩ := List.mem_map.mp hitem
        have hmem : decision.1 ∈ read.inWindow config := hdecided ▸ List.mem_map_of_mem (List.mem_filter.mp hdecision).1
        obtain ⟨dated, hdated, hfirst⟩ := List.mem_map.mp hmem
        obtain ⟨hlisted, hwindow⟩ := List.mem_filter.mp hdated
        exact ⟨dated.2, hfirst ▸ hlisted, isInBackfillWindow_iff.mp hwindow⟩
      decided := hdecided
      requested := hreads.detailRequests
      skipped := by
        intro before item after hsplit
        exact skipped_at config (hreads.decided.symm.trans hsplit) }

/-- Every parsed page is balanced, in whatever state the spider is, and only parsed pages have a document;
in a run the spider's totals are the sums of the figures of the pages parsed so far, and its fingerprints
those of earlier requests. -/
theorem listPages_balanced (python : Python) (config : ListConfig) (dateFromisoformat : String → Option IsoDate)
    (scrapyRequest : String → Except PyError Unit) (exceptionText : PyError → String × String) :
    (∀ (spider : ListSpider) (page : ListPage) (fetchedAt : DateTime),
      ∀ read ∈ (spider.visit python config dateFromisoformat scrapyRequest exceptionText page fetchedAt).parsed,
        PageBalanced python config dateFromisoformat
          (spider.visit python config dateFromisoformat scrapyRequest exceptionText page fetchedAt) read) ∧
    (∀ (spider : ListSpider) (page : ListPage) (fetchedAt : DateTime),
      (spider.visit python config dateFromisoformat scrapyRequest exceptionText page fetchedAt).parsed = none →
        (spider.visit python config dateFromisoformat scrapyRequest exceptionText page fetchedAt).outcome.rawItem =
          none) ∧
    ∀ (answers : List ListAnswer) (later : List Visit) (visit : Visit) (earlier : List Visit),
      (listRun python config dateFromisoformat scrapyRequest exceptionText answers).visits = later ++ visit :: earlier →
        visit.parsed.isSome → TotalsAgree config visit earlier := by
  refine ⟨?_, ?_, ?_⟩
  · intro spider page fetchedAt read hparsed
    obtain ⟨hread, hrefused⟩ := Visit.parsed_eq_some.mp hparsed
    exact pageBalanced_of_reads hrefused
      (ListSpider.reads_visit python config dateFromisoformat scrapyRequest exceptionText spider page fetchedAt hread)
  · intro spider page fetchedAt hparsed
    exact (ListSpider.visit_unparsed python config dateFromisoformat scrapyRequest exceptionText spider page fetchedAt
      hparsed).1.2
  · intro answers later visit earlier hsplit hsome
    obtain ⟨read, hparsed⟩ := Option.isSome_iff_exists.mp hsome
    have hwalked := walked_listRun python config dateFromisoformat scrapyRequest exceptionText answers
    obtain ⟨htallies, hreads⟩ := hwalked.reads hsplit (Visit.parsed_eq_some.mp hparsed).1
    have hnext := htallies.next hparsed hreads
    exact
      { listItemsSeen := hnext.listItemsSeen
        listItemsUnique := hnext.listItemsUnique
        duplicatesSkipped := hnext.duplicatesSkipped
        fingerprints := by
          intro fingerprint hseen
          rw [htallies.fingerprints] at hseen
          obtain ⟨page, hpage, hfingerprint⟩ := List.mem_flatMap.mp hseen
          obtain ⟨older, holder, hparsedOlder⟩ := List.mem_filterMap.mp hpage
          obtain ⟨item, hitem, rfl⟩ := List.mem_map.mp (List.mem_reverse.mp hfingerprint)
          obtain ⟨before, after, rfl⟩ := List.append_of_mem holder
          have hsplitOlder : (listRun python config dateFromisoformat scrapyRequest exceptionText answers).visits =
              (later ++ visit :: before) ++ older :: after := by
            rw [hsplit, List.append_assoc, List.cons_append]
          have hreadOlder := (hwalked.reads hsplitOlder (Visit.parsed_eq_some.mp hparsedOlder).1).2
          exact ⟨older, holder, item, hreadOlder.detailRequests ▸ hitem, rfl⟩ }

end Invariants

end TenderPhase1.Spiders.AnhuiGgzyZfcg
