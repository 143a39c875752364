import TenderPhase1.Executors.Classification
import TenderPhase1.Foundation.IsoDate
import TenderPhase1.Foundation.ListExtremes

/-!
# The dates of archived list pages

`_collect_list_page_stats` counts the documents whose role is the list, and takes the greatest and
the least of the dates that it can read in them, in whatever order they come.
-/

namespace TenderPhase1.Executors

open PyText IsoDates ListExtremes

def ListPageMeta.isList (page : ListPageMeta) : Bool := lower page.role = "list"

theorem isList_mk (publishDates : List (Option String)) : ListPageMeta.isList ⟨"list", publishDates⟩ = true := by
  have hlower : lower "list" = "list" := by decide
  exact decide_eq_true hlower

def ListPageMeta.readDates (page : ListPageMeta) : List String := page.publishDates.filterMap normalizeIsoDate

/-- The statistics hold the greatest and the least of the dates. -/
structure ListPageStats.Spans (stats : ListPageStats) (dates : List String) : Prop where
  first : stats.firstPublishDateSeen = dates.max?
  last : stats.lastPublishDateSeen = dates.min?

section Stats

variable {stats : ListPageStats} {dates : List String}

theorem ListPageStats.Spans.see (h : stats.Spans dates) (value : String) : (stats.see value).Spans (dates ++ [value]) where
  first := by
    rw [max?_append, ← h.first, List.max?_singleton]
    cases hfirst : stats.firstPublishDateSeen <;> simp only [ListPageStats.see, hfirst] <;> rfl
  last := by
    rw [min?_append, ← h.last, List.min?_singleton]
    cases hlast : stats.lastPublishDateSeen <;> simp only [ListPageStats.see, hlast] <;> rfl

theorem ListPageStats.Spans.foldl_see (h : stats.Spans dates) (values : List String) :
    (values.foldl ListPageStats.see stats).Spans (dates ++ values) := by
  induction values generalizing stats dates with
  | nil => simpa using h
  | cons value values ih => simpa using ih (h.see value)

theorem pagesScraped_foldl_see (values : List String) :
    (values.foldl ListPageStats.see stats).pagesScraped = stats.pagesScraped := by
  induction values generalizing stats with
  | nil => rfl
  | cons value values ih => exact ih

def ListPageStats.add (stats : ListPageStats) (page : ListPageMeta) : ListPageStats :=
  if lower page.role = "list" then
    (page.publishDates.filterMap normalizeIsoDate).foldl ListPageStats.see
      { stats with pagesScraped := stats.pagesScraped + 1 }
  else stats

/-- Adding documents counts the pages of the list and spans their dates. -/
theorem foldl_add (metas : List ListPageMeta) (h : stats.Spans dates) :
    (metas.foldl ListPageStats.add stats).pagesScraped = stats.pagesScraped + (metas.filter ListPageMeta.isList).length ∧
      (metas.foldl ListPageStats.add stats).Spans
        (dates ++ (metas.filter ListPageMeta.isList).flatMap ListPageMeta.readDates) := by
  induction metas generalizing stats dates with
  | nil => simpa using h
  | cons page metas ih =>
    by_cases hlist : lower page.role = "list"
    · have hadd : stats.add page = page.readDates.foldl ListPageStats.see
          { stats with pagesScraped := stats.pagesScraped + 1 } := if_pos hlist
      have hcounted : ListPageStats.Spans { stats with pagesScraped := stats.pagesScraped + 1 } dates := ⟨h.first, h.last⟩
      obtain ⟨hcount, hspans⟩ := ih (hcounted.foldl_see page.readDates)
      have hfilter : (page :: metas).filter ListPageMeta.isList = page :: metas.filter ListPageMeta.isList :=
        List.filter_cons_of_pos (decide_eq_true hlist)
      rw [List.foldl_cons, hadd, hfilter]
      constructor
      · rw [hcount, pagesScraped_foldl_see, List.length_cons]
        push_cast
        omega
      · rw [List.flatMap_cons, ← List.append_assoc]
        exact hspans
    · have hadd : stats.add page = stats := if_neg hlist
      have hfilter : (page :: metas).filter ListPageMeta.isList = metas.filter ListPageMeta.isList :=
        List.filter_cons_of_neg (by simpa [ListPageMeta.isList] using hlist)
      rw [List.foldl_cons, hadd, hfilter]
      exact ih h

end Stats

/-- The statistics of the documents, as counts and extremes. -/
theorem collectListPageStats_eq (metas : List ListPageMeta) :
    let dates := (metas.filter ListPageMeta.isList).flatMap ListPageMeta.readDates
    collectListPageStats metas = ⟨(metas.filter ListPageMeta.isList).length, dates.max?, dates.min?⟩ := by
  have hempty : ListPageStats.Spans {} [] := ⟨rfl, rfl⟩
  obtain ⟨hcount, hspans⟩ := foldl_add metas hempty
  have hcollect : collectListPageStats metas = metas.foldl ListPageStats.add {} := rfl
  rw [List.nil_append] at hspans
  rw [hcollect]
  cases hstats : metas.foldl ListPageStats.add {} with
  | mk pagesScraped first last =>
    rw [hstats] at hcount hspans
    have hpages : pagesScraped = ((metas.filter ListPageMeta.isList).length : ℤ) := by simpa using hcount
    have hfirst : first = ((metas.filter ListPageMeta.isList).flatMap ListPageMeta.readDates).max? := hspans.first
    have hlast : last = ((metas.filter ListPageMeta.isList).flatMap ListPageMeta.readDates).min? := hspans.last
    rw [hpages, hfirst, hlast]

/-! ## ISO texts -/

/-- A date in ISO format has no white space. -/
theorem not_isSpace_isoChars (date : IsoDate) : ∀ c ∈ date.isoChars, isSpace c = false := by
  have hdigits (width n : ℕ) : ∀ c ∈ digits width n, isSpace c = false := by
    induction width generalizing n with
    | zero => simp [digits]
    | succ width ih =>
      intro c hc
      rcases List.mem_append.mp hc with hc | hc
      · exact ih (n / 10) c hc
      · rw [List.mem_singleton.mp hc]
        have hall : ∀ k : Fin 10, isSpace (Nat.digitChar k) = false := by decide
        exact hall ⟨n % 10, Nat.mod_lt n (by omega)⟩
  intro c hc
  unfold IsoDate.isoChars at hc
  simp only [List.mem_append, List.mem_cons] at hc
  rcases hc with hc | (rfl | hc) | (rfl | hc)
  · exact hdigits 4 date.year c hc
  · rfl
  · exact hdigits 2 date.month c hc
  · rfl
  · exact hdigits 2 date.day c hc

/-- The ISO text of a date is read as it is. -/
theorem normalizeIsoDate_isoformat (date : IsoDate) : normalizeIsoDate (some date.isoformat) = some date.isoformat := by
  have hstrip : strip date.isoformat = date.isoformat := by
    have hchars : stripChars date.isoChars = date.isoChars := stripChars_of_forall (not_isSpace_isoChars date)
    rw [strip, IsoDate.toList_isoformat, hchars, IsoDate.isoformat]
  have hlength : date.isoChars.length = 10 := by simp [IsoDate.isoChars]
  have hyear : date.isoChars[4]? = some '-' := by simp [IsoDate.isoChars]
  have hmonth : date.isoChars[7]? = some '-' := by simp [IsoDate.isoChars]
  unfold normalizeIsoDate
  rw [Option.bind_some, hstrip, IsoDate.toList_isoformat]
  dsimp only
  rw [if_pos ⟨hlength.ge, hyear, hmonth⟩, ← hlength, List.take_length, IsoDate.isoformat]

theorem readDates_isoformat (role : String) (dates : List (Option IsoDate)) :
    ListPageMeta.readDates ⟨role, dates.map (Option.map IsoDate.isoformat)⟩ =
      (dates.filterMap id).map IsoDate.isoformat := by
  unfold ListPageMeta.readDates
  induction dates with
  | nil => rfl
  | cons date dates ih =>
    cases date with
    | none => simpa [normalizeIsoDate] using ih
    | some date => simpa [normalizeIsoDate_isoformat] using ih

end TenderPhase1.Executors
