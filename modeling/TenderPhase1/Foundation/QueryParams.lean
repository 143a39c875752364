import TenderPhase1.Foundation.UrlQuery
import Mathlib.Data.List.Nodup

/-!
# Parameters of a link

A link carries the parameters that have a value, and whoever gets the link reads each
of them back under its name. A name that stands in a query twice has its last value.
-/

namespace TenderPhase1.QueryParams

open Urllib

def urlencodeText (params : List (String × String)) : String :=
  String.ofList (urlencode (params.map fun param ↦ (param.1.toList, param.2.toList)))

/-- The parameters in the query of a URL, blank ones among them -/
def paramsOf (url : String) : List (String × String) :=
  (parseQsl unquote (cutAt '?' url.toList).2 true).map fun param ↦ (String.ofList param.1, String.ofList param.2)

/-- A link without its query where it has no parameter -/
def linkTo (path : String) (params : List (String × String)) : String :=
  if urlencodeText params = "" then path else path ++ "?" ++ urlencodeText params

/-- `{k: v for k, v in params.items() if v not in (None, "")}` -/
def clean (entries : List (String × Option String)) : List (String × String) :=
  entries.filterMap fun entry ↦ (entry.2.filter (· ≠ "")).map fun text ↦ (entry.1, text)

theorem filter_of_ne_empty {text : String} (h : text ≠ "") : (some text).filter (· ≠ "") = some text :=
  Option.filter_some_pos (decide_eq_true h)

/-- The value of a parameter: the last one of its name -/
def lastValue (params : List (String × String)) (name : String) : Option String :=
  (params.reverse.find? (·.1 = name)).map Prod.snd

section Links

variable {path : String}

theorem paramsOf_query (hpath : '?' ∉ path.toList) (params : List (String × String)) :
    paramsOf (path ++ "?" ++ urlencodeText params) = params := by
  have htext : (path ++ "?" ++ urlencodeText params).toList =
      path.toList ++ '?' :: urlencode (params.map fun param ↦ (param.1.toList, param.2.toList)) := by
    rw [String.toList_append, String.toList_append, List.append_assoc, urlencodeText]
    congr 1
    exact congrArg (List.cons '?') String.toList_ofList
  rw [paramsOf, htext, cutAt_append_cons hpath, parseQsl_urlencode, List.map_map, List.map_map]
  refine (List.map_congr_left fun param _ ↦ ?_).trans (List.map_id params)
  simp only [Function.comp_apply, unquote_quote, String.ofList_toList]
  rfl

theorem paramsOf_linkTo (hpath : '?' ∉ path.toList) (params : List (String × String)) :
    paramsOf (linkTo path params) = params := by
  unfold linkTo
  split_ifs with hempty
  · have hnil : urlencode (params.map fun param ↦ (param.1.toList, param.2.toList)) = [] := by
      have htext := congrArg String.toList hempty
      rwa [urlencodeText, String.toList_ofList] at htext
    have hparams : params = [] := List.map_eq_nil_iff.mp (urlencode_eq_nil_iff.mp hnil)
    rw [hparams, paramsOf, cutAt_of_notMem hpath]
    rfl
  · exact paramsOf_query hpath params

end Links

section Values

variable {entries : List (String × Option String)} {params : List (String × String)} {name : String}
  {value : Option String}

theorem lastValue_eq_none (h : ∀ param ∈ params, param.1 ≠ name) : lastValue params name = none := by
  rw [lastValue, List.find?_eq_none.mpr, Option.map_none]
  intro param hparam
  simpa using h param (List.mem_reverse.mp hparam)

theorem lastValue_of_mem (hnames : (params.map Prod.fst).Nodup) {text : String} (h : (name, text) ∈ params) :
    lastValue params name = some text := by
  have hsome : (params.reverse.find? (·.1 = name)).isSome :=
    List.find?_isSome.mpr ⟨_, List.mem_reverse.mpr h, decide_eq_true rfl⟩
  obtain ⟨param, hparam⟩ := Option.isSome_iff_exists.mp hsome
  have hname : param.1 = name := by simpa using List.find?_some hparam
  have hmem : param ∈ params := List.mem_reverse.mp (List.mem_of_find?_eq_some hparam)
  have hsame : param = (name, text) := List.inj_on_of_nodup_map hnames hmem h hname
  rw [lastValue, hparam, hsame, Option.map_some]

theorem names_clean_sublist (entries : List (String × Option String)) :
    ((clean entries).map Prod.fst).Sublist (entries.map Prod.fst) := by
  induction entries with
  | nil => exact List.Sublist.refl _
  | cons entry entries ih =>
    unfold clean at ih ⊢
    rw [List.filterMap_cons]
    cases entry.2.filter (· ≠ "") with
    | none => exact ih.cons _
    | some text => exact ih.cons_cons _

/-- A link keeps the value of each of its names, unless it is blank. -/
theorem lastValue_clean (hnames : (entries.map Prod.fst).Nodup) (h : (name, value) ∈ entries) :
    lastValue (clean entries) name = value.filter (· ≠ "") := by
  cases hvalue : value.filter (· ≠ "") with
  | some text =>
    apply lastValue_of_mem (hnames.sublist (names_clean_sublist entries))
    refine List.mem_filterMap.mpr ⟨_, h, ?_⟩
    rw [hvalue, Option.map_some]
  | none =>
    apply lastValue_eq_none
    intro param hparam hname
    obtain ⟨entry, hentry, hkept⟩ := List.mem_filterMap.mp hparam
    obtain ⟨text, htext, rfl⟩ := Option.map_eq_some_iff.mp hkept
    have hsame : entry = (name, value) := List.inj_on_of_nodup_map hnames hentry h hname
    rw [hsame, hvalue] at htext
    cases htext

theorem lastValue_clean_of_notMem (h : name ∉ entries.map Prod.fst) : lastValue (clean entries) name = none := by
  apply lastValue_eq_none
  rintro param hparam rfl
  exact h ((names_clean_sublist entries).subset (List.mem_map_of_mem hparam))

end Values

end TenderPhase1.QueryParams
