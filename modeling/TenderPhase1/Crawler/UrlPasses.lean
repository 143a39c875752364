import TenderPhase1.Crawler.Deduplication
import TenderPhase1.Foundation.UrlQuery
import Mathlib.Data.Prod.Lex
import Mathlib.Data.String.Basic

/-!
# The two passes over a URL

`normalize_detail_url` reads a URL twice: `_drop_irrelevant_query_params` writes it
again with the parameters that matter, in order, and `normalize_url` reads what was
written. Both strip the text before they read it, at different moments. On the text
of an address the outcome is given here in terms of its parts.
-/

namespace TenderPhase1.Crawler

open PyText

/-! ## `urllib.parse` -/

def SplitResult.ofChars (split : Urllib.Split) : SplitResult :=
  ⟨String.ofList split.scheme, String.ofList split.netloc, String.ofList split.path, String.ofList split.query,
    String.ofList split.fragment⟩

def SplitResult.chars (split : SplitResult) : Urllib.Split :=
  ⟨split.scheme.toList, split.netloc.toList, split.path.toList, split.query.toList, split.fragment.toList⟩

def rstripText (text : String) : String := String.ofList (Urllib.rstrip text.toList)

/-- CPython's `urllib.parse`, with its `str.lower`. -/
structure CPythonUrls (python : Python) where
  /-- The check of a network location: `_checknetloc`, and that of the brackets -/
  accepts : String → Bool
  urlsplit : ∀ url, python.urlsplit url =
    if accepts (String.ofList (Urllib.urlsplit url.toList).netloc) then
      .ok (SplitResult.ofChars (Urllib.urlsplit url.toList))
    else .error .valueError
  urlunsplit : ∀ split, split.netloc ≠ "" →
    python.urlunsplit split = String.ofList (Urllib.urlunsplit split.chars)
  parseQsl : ∀ query keepBlankValues, python.parseQsl query keepBlankValues =
    Urllib.parseQsl (fun chars ↦ python.unquote (String.ofList chars)) query.toList keepBlankValues
  urlencode : ∀ pairs, python.urlencode pairs =
    String.ofList (Urllib.urlencode (pairs.map fun pair ↦ (pair.1.toList, pair.2.toList)))
  /-- `unquote` undoes `quote`. -/
  unquote_quote : ∀ text, python.unquote (String.ofList (Urllib.quote text.toList)) = text
  lower_lower : ∀ text, python.lower (python.lower text) = python.lower text
  /-- Text of lower-case ASCII letters is in lower case. -/
  lower_ascii : ∀ text, text.toList.all Char.isLower → python.lower text = text
  lower_eq_empty : ∀ text, python.lower text = "" → text = ""
  /-- White space has no case. -/
  lower_rstrip : ∀ text, python.lower (rstripText text) = rstripText (python.lower text)
  /-- No other character turns into a delimiter. -/
  mem_lower : ∀ text, ∀ c ∈ (python.lower text).toList, Urllib.endsNetloc c ∨ Urllib.isUnsafe c → c ∈ text.toList
  /-- A location that the check accepts, it accepts in lower case, and without the white space at its end. -/
  accepts_lower : ∀ netloc, accepts netloc → accepts (python.lower netloc)
  accepts_rstrip : ∀ netloc, accepts netloc → accepts (rstripText netloc)

/-! ## The order of parameters -/

theorem pairLe_iff (pair other : String × String) : pairLe pair other ↔ toLex pair ≤ toLex other := by
  rw [Prod.Lex.toLex_le_toLex, pairLe]
  simp [le_iff_lt_or_eq]

theorem sortPairs_perm (pairs : List (String × String)) : (sortPairs pairs).Perm pairs := List.perm_insertionSort _ _

/-- `sorted` does not depend on the order of what it sorts. -/
theorem sortPairs_eq_of_perm {pairs others : List (String × String)} (h : pairs.Perm others) :
    sortPairs pairs = sortPairs others := by
  have htotal : Std.Total fun pair other : String × String ↦ pairLe pair other = true := by
    constructor
    intro pair other
    rw [pairLe_iff, pairLe_iff]
    exact le_total _ _
  have htrans : IsTrans (String × String) fun pair other ↦ pairLe pair other = true := by
    constructor
    intro pair other third
    rw [pairLe_iff, pairLe_iff, pairLe_iff]
    exact le_trans
  have hsorted (pairs : List (String × String)) := List.pairwise_insertionSort (pairLe · · = true) pairs
  refine List.Perm.eq_of_pairwise ?_ (hsorted pairs) (hsorted others)
    ((sortPairs_perm pairs).trans (h.trans (sortPairs_perm others).symm))
  intro pair other _ _ hle hge
  exact toLex.injective (le_antisymm ((pairLe_iff _ _).mp hle) ((pairLe_iff _ _).mp hge))

theorem sortPairs_sortPairs (pairs : List (String × String)) : sortPairs (sortPairs pairs) = sortPairs pairs :=
  sortPairs_eq_of_perm (sortPairs_perm pairs)

/-- The parameters that `_drop_irrelevant_query_params` keeps. -/
def relevantPairs (python : Python) (pairs : List (String × String)) : List (String × String) :=
  pairs.filter fun pair ↦
    let lowered := python.lower (strip pair.1)
    ¬ irrelevantQueryParamNames.contains lowered ∧ ¬ irrelevantQueryParamPrefixes.any (startsWith lowered)

theorem relevantPairs_sortPairs (python : Python) (pairs : List (String × String)) :
    relevantPairs python (sortPairs (relevantPairs python pairs)) = sortPairs (relevantPairs python pairs) := by
  apply List.filter_eq_self.mpr
  intro pair hpair
  exact (List.mem_filter.mp ((sortPairs_perm _).mem_iff.mp hpair)).2

/-- An absolute URL of the web: one with the scheme of it, and with a host. -/
def SplitResult.Absolute (split : SplitResult) : Prop :=
  (split.scheme = "http" ∨ split.scheme = "https") ∧ strip split.netloc ≠ ""

instance : DecidablePred SplitResult.Absolute := fun _ ↦ inferInstanceAs (Decidable (_ ∧ _))

section Reading

variable {python : Python} (urls : CPythonUrls python)

namespace CPythonUrls

def encoded (pairs : List (String × String)) : List Char :=
  Urllib.urlencode (pairs.map fun pair ↦ (pair.1.toList, pair.2.toList))

theorem encoded_eq_nil_iff {pairs : List (String × String)} : encoded pairs = [] ↔ pairs = [] :=
  Urllib.urlencode_eq_nil_iff.trans List.map_eq_nil_iff

/-- `parse_qsl(query, keep_blank_values=True)` -/
def parsed (python : Python) (query : List Char) : List (String × String) := python.parseQsl (String.ofList query) true

include urls in
theorem parsed_encoded (pairs : List (String × String)) : parsed python (encoded pairs) = pairs := by
  have hread : (fun pair : String × String ↦
      (python.unquote (String.ofList (Urllib.quote pair.1.toList)),
        python.unquote (String.ofList (Urllib.quote pair.2.toList)))) = id := by
    funext pair
    rw [urls.unquote_quote, urls.unquote_quote]
    rfl
  rw [parsed, urls.parseQsl, String.toList_ofList, encoded, Urllib.parseQsl_urlencode, List.map_map]
  exact (congrArg (List.map · pairs) hread).trans (List.map_id pairs)

/-- A text that reads as an address which `urlsplit` accepts: one with a host, and with a scheme that
`lower` keeps. -/
structure Reads (url : String) (address : Urllib.Address) : Prop where
  readable : Urllib.readable url.toList = address.text
  accepted : urls.accepts (String.ofList address.netloc)
  host : Urllib.rstrip address.netloc ≠ []
  scheme : python.lower (SplitResult.ofChars address.split).scheme = (SplitResult.ofChars address.split).scheme

variable {urls} {url : String} {address : Urllib.Address}

theorem Reads.urlsplit_eq (h : urls.Reads url address) :
    python.urlsplit url = .ok (SplitResult.ofChars address.split) := by
  have hsplit : Urllib.urlsplit url.toList = address.split := by
    rw [Urllib.urlsplit, h.readable, address.splitReadable_text]
  rw [urls.urlsplit, hsplit]
  exact if_pos h.accepted

/-- An absolute URL that is split without an exception reads as an address. -/
theorem reads_of_urlsplit (urls : CPythonUrls python) {split : SplitResult} (h : python.urlsplit url = .ok split)
    (habsolute : split.Absolute) : ∃ address, urls.Reads url address ∧ split = SplitResult.ofChars address.split := by
  rw [urls.urlsplit] at h
  split at h
  · rename_i haccepted
    obtain rfl := Except.ok.inj h
    obtain ⟨hscheme, hhost⟩ := habsolute
    have hnetloc : Urllib.rstrip (Urllib.urlsplit url.toList).netloc ≠ [] := by
      intro hnil
      apply hhost
      have hspaces := List.rdropWhile_eq_nil_iff.mp hnil
      have hdropped := List.dropWhile_eq_nil_iff.mpr hspaces
      rw [strip, SplitResult.ofChars, String.toList_ofList, Urllib.stripChars_eq, hdropped]
      rfl
    have hschemeNe : (Urllib.urlsplit url.toList).scheme ≠ [] := by
      intro hnil
      have hempty : (SplitResult.ofChars (Urllib.urlsplit url.toList)).scheme = "" := congrArg String.ofList hnil
      rw [hempty] at hscheme
      exact absurd hscheme (by decide)
    have hsafe : ∀ c ∈ Urllib.readable url.toList, Urllib.isUnsafe c = false := by
      intro c hc
      simpa using (List.mem_filter.mp hc).2
    obtain ⟨address, htext⟩ := Urllib.exists_address hsafe hschemeNe fun hnil ↦
      hnetloc (congrArg Urllib.rstrip hnil)
    have hsplit : Urllib.urlsplit url.toList = address.split := by
      rw [Urllib.urlsplit, ← htext, address.splitReadable_text]
    rw [hsplit] at haccepted hnetloc hscheme ⊢
    refine ⟨address, ⟨htext.symm, haccepted, hnetloc, ?_⟩, rfl⟩
    rcases hscheme with hhttp | hhttps
    · rw [hhttp]
      exact urls.lower_ascii _ (by decide)
    · rw [hhttps]
      exact urls.lower_ascii _ (by decide)
  · cases h

theorem trimmed_netloc_cases (address : Urllib.Address) :
    address.trimmed.netloc = address.netloc ∨ address.trimmed.netloc = Urllib.rstrip address.netloc := by
  unfold Urllib.Address.trimmed
  dsimp only
  split
  · exact .inr rfl
  · exact .inl rfl

/-- A stripped text reads as the trimmed address. -/
theorem Reads.strip (h : urls.Reads url address) : urls.Reads (strip url) address.trimmed where
  readable := by
    rw [PyText.strip, String.toList_ofList]
    exact Urllib.readable_stripChars h.readable
  accepted := by
    rcases trimmed_netloc_cases address with hsame | hstripped
    · rw [hsame]
      exact h.accepted
    · have haccepted := urls.accepts_rstrip _ h.accepted
      rw [rstripText, String.toList_ofList] at haccepted
      rwa [hstripped]
  host := by
    rcases trimmed_netloc_cases address with hsame | hstripped
    · rw [hsame]
      exact h.host
    · rw [hstripped, Urllib.rstrip_rstrip]
      exact h.host
  scheme := h.scheme

/-! ### Writing a URL again -/

theorem mem_encoded {pairs : List (String × String)} {c : Char} (hc : c ∈ encoded pairs) :
    c ≠ '#' ∧ Urllib.isUnsafe c = false := by
  have hencoded := Urllib.isEncoded_of_mem_urlencode hc
  constructor
  · rintro rfl
    exact absurd hencoded (by decide)
  · by_contra hremoved
    rw [Bool.not_eq_false] at hremoved
    have hspace := Urllib.isSpace_of_isEncoded hencoded
    rw [Urllib.isSpace_of_isUnsafe hremoved] at hspace
    cases hspace

theorem mem_netloc {c : Char} (hc : c ∈ address.netloc) : Urllib.endsNetloc c = false ∧ Urllib.isUnsafe c = false :=
  ⟨address.netloc_chars c hc, address.safe c (by simp [hc])⟩

/-- `split.path or "/"` -/
def rootPath (path : List Char) : List Char := if path = [] then ['/'] else path

/-- The parts that the two functions write are plain. -/
theorem plainParts_encoded {netloc path : List Char} (pairs : List (String × String))
    (hnetloc : ∀ c ∈ netloc, Urllib.endsNetloc c = false ∧ Urllib.isUnsafe c = false)
    (hhead : path = [] ∨ path.head? = some '/') (hpath : ∀ c ∈ path, c ∈ address.path ∨ c = '/') :
    Urllib.PlainParts netloc path (encoded pairs) := by
  have hplain : ∀ c ∈ path, (c ≠ '?' ∧ c ≠ '#') ∧ Urllib.isUnsafe c = false := by
    intro c hc
    rcases hpath c hc with hmem | rfl
    · exact ⟨address.path_chars c hmem, address.safe c (by simp [hmem])⟩
    · decide
  exact {
    netloc_chars := fun c hc ↦ (hnetloc c hc).1
    path_head := hhead
    path_chars := fun c hc ↦ (hplain c hc).1
    query_chars := fun hmem ↦ (mem_encoded hmem).1 rfl
    safe := by
      intro c hc
      rcases List.mem_append.mp hc with hfront | hquery
      · rcases List.mem_append.mp hfront with hmem | hmem
        · exact (hnetloc c hmem).2
        · exact (hplain c hmem).2
      · exact (mem_encoded hquery).2 }

/-- The text that is written for an address with another location, path and query -/
def written (address : Urllib.Address) (netloc path : List Char) (pairs : List (String × String)) : String :=
  String.ofList (Urllib.urlunsplit ⟨address.scheme.map Char.toLower, netloc, path, encoded pairs, []⟩)

/-- `_drop_irrelevant_query_params` on an address -/
theorem Reads.dropIrrelevantQueryParams_eq (h : urls.Reads url address) :
    dropIrrelevantQueryParams python url =
      .ok (written address address.trimmed.netloc address.trimmed.path
        (sortPairs (relevantPairs python (parsed python (address.trimmed.query.getD []))))) := by
  have hnetloc : String.ofList address.trimmed.netloc ≠ "" := by
    intro hempty
    apply h.strip.host
    rw [String.ofList_eq_empty_iff.mp hempty]
    rfl
  unfold dropIrrelevantQueryParams
  rw [h.strip.urlsplit_eq]
  refine congrArg Except.ok ((urls.urlunsplit _ hnetloc).trans ?_)
  unfold SplitResult.chars SplitResult.ofChars
  simp only [String.toList_ofList, urls.urlencode]
  rfl

/-- `str.lower` on the characters of a location -/
def lowered (python : Python) (netloc : List Char) : List Char := (python.lower (String.ofList netloc)).toList

theorem host_lowered (urls : CPythonUrls python) {netloc : List Char} (hhost : Urllib.rstrip netloc ≠ []) :
    Urllib.rstrip (lowered python netloc) ≠ [] := by
  intro hnil
  apply hhost
  have hstripped := urls.lower_rstrip (String.ofList netloc)
  unfold rstripText at hstripped
  rw [String.toList_ofList] at hstripped
  rw [lowered] at hnil
  rw [hnil] at hstripped
  exact String.ofList_eq_empty_iff.mp (urls.lower_eq_empty _ hstripped)

/-- `normalize_url` on an address -/
theorem Reads.normalizeUrl_eq (h : urls.Reads url address) :
    normalizeUrl python url =
      .ok (written address (lowered python address.trimmed.netloc) (rootPath address.trimmed.path)
        (sortPairs (parsed python (address.trimmed.query.getD [])))) := by
  have hnetloc : python.lower (String.ofList address.trimmed.netloc) ≠ "" := by
    intro hempty
    apply host_lowered urls h.strip.host
    rw [lowered, hempty]
    rfl
  have hscheme := h.strip.scheme
  unfold normalizeUrl
  rw [h.strip.urlsplit_eq]
  refine congrArg Except.ok ((urls.urlunsplit _ hnetloc).trans ?_)
  rw [hscheme]
  have hpath : (if String.ofList address.trimmed.split.path = "" then "/"
      else String.ofList address.trimmed.split.path) = String.ofList (rootPath address.trimmed.split.path) := by
    unfold rootPath
    by_cases hnil : address.trimmed.split.path = []
    · rw [if_pos hnil, if_pos (String.ofList_eq_empty_iff.mpr hnil)]
    · rw [if_neg hnil, if_neg (fun hempty ↦ hnil (String.ofList_eq_empty_iff.mp hempty))]
  unfold SplitResult.chars SplitResult.ofChars
  dsimp only
  rw [hpath, urls.urlencode]
  simp only [String.toList_ofList]
  rfl

/-- What is written for an address reads as the address of its parts. -/
theorem Reads.written (h : urls.Reads url address) {netloc path : List Char} {pairs : List (String × String)}
    (parts : Urllib.PlainParts netloc path (encoded pairs)) (haccepted : urls.accepts (String.ofList netloc))
    (hhost : Urllib.rstrip netloc ≠ []) : urls.Reads (written address netloc path pairs) (address.rewritten parts) where
  readable := by
    rw [CPythonUrls.written, String.toList_ofList, address.urlunsplit_eq_text parts, Urllib.Address.readable_text]
  accepted := haccepted
  host := hhost
  scheme := by
    rw [address.split_rewritten parts]
    exact h.scheme

/-! ### The two passes -/

theorem parsed_nil (urls : CPythonUrls python) : parsed python [] = [] := by
  rw [parsed, urls.parseQsl]
  rfl

/-- The text of an address with the given parameters in normal form -/
def normalText (python : Python) (address : Urllib.Address) (pairs : List (String × String)) : String :=
  written address
    (lowered python
      (if address.path = [] ∧ pairs = [] then Urllib.rstrip address.netloc else address.netloc))
    (rootPath (if pairs = [] then Urllib.rstrip address.path else address.path)) pairs

/-- The parameters of a stripped text that are kept, in their order -/
def keptPairs (python : Python) (address : Urllib.Address) : List (String × String) :=
  sortPairs (relevantPairs python (parsed python (address.trimmed.query.getD [])))

theorem rstrip_eq_nil_of_path (address : Urllib.Address) : Urllib.rstrip address.path = [] ↔ address.path = [] := by
  constructor
  · intro hnil
    rcases address.path_head with hpath | hpath
    · exact hpath
    · obtain ⟨rest, hrest⟩ := List.head?_eq_some_iff.mp hpath
      have hspace := List.rdropWhile_eq_nil_iff.mp hnil '/' (hrest ▸ List.mem_cons_self)
      exact absurd hspace (by decide)
  · intro hnil
    rw [hnil]
    rfl

/-- The second pass strips what the first left at the end, whether or not that was stripped before. -/
theorem normalText_trimmed (address : Urllib.Address) {pairs : List (String × String)}
    (h : address.query = none → pairs = []) : normalText python address.trimmed pairs = normalText python address pairs := by
  have hscheme : address.trimmed.scheme = address.scheme := rfl
  unfold normalText written
  rw [hscheme]
  unfold Urllib.Address.trimmed
  dsimp only
  by_cases hends : address.query = none ∧ address.fragment = none
  · have hpath := rstrip_eq_nil_of_path address
    by_cases hnil : address.path = []
    · simp [hends, h hends.1, hnil]
    · have hkept : Urllib.rstrip address.path ≠ [] := fun hstripped ↦ hnil (hpath.mp hstripped)
      simp [hends, h hends.1, hnil, hkept]
  · have hlast : ¬ (address.path = [] ∧ address.query = none ∧ address.fragment = none) := fun hall ↦ hends hall.2
    simp only [if_neg hends, if_neg hlast]

theorem asStr_of_reads (h : urls.Reads url address) : asStr (some url) = some (PyText.strip url) := by
  rw [asStr_some]
  refine if_neg fun hempty ↦ ?_
  obtain ⟨c, rest, htext, -⟩ := address.trimmed.text_eq_cons
  have hreadable := h.strip.readable
  rw [hempty, htext] at hreadable
  cases hreadable

/-- `_drop_irrelevant_query_params` strips the text itself. -/
theorem dropIrrelevantQueryParams_strip (python : Python) (url : String) :
    dropIrrelevantQueryParams python (PyText.strip url) = dropIrrelevantQueryParams python url := by
  unfold dropIrrelevantQueryParams
  rw [strip_strip]

/-- `normalize_detail_url` on an address -/
theorem Reads.normalizeDetailUrl_eq (h : urls.Reads url address) :
    normalizeDetailUrl python (some (.str url)) = .ok (some (normalText python address (keptPairs python address))) := by
  let pairs := keptPairs python address
  have hparts : Urllib.PlainParts address.trimmed.netloc address.trimmed.path (encoded pairs) :=
    plainParts_encoded pairs (fun c hc ↦ mem_netloc hc) address.trimmed.path_head fun c hc ↦ .inl hc
  have hcleaned := h.written hparts h.strip.accepted h.strip.host
  have hsplit := address.split_trimmed_rewritten hparts
  obtain ⟨-, hnetloc, hpath, hquery, -⟩ := Urllib.Split.mk.inj hsplit
  have hscheme : (address.rewritten hparts).scheme.map Char.toLower = address.scheme.map Char.toLower :=
    (Urllib.Split.mk.inj (address.split_rewritten hparts)).1
  have hreread : parsed python ((address.rewritten hparts).trimmed.query.getD []) = pairs := by
    rw [hquery, encoded, Urllib.rstrip_urlencode]
    exact urls.parsed_encoded pairs
  have hnoQuery : address.query = none → pairs = [] := by
    intro hnone
    have htrimmed : address.trimmed.query = none := by
      simp [Urllib.Address.trimmed, hnone]
    show sortPairs (relevantPairs python (parsed python (address.trimmed.query.getD []))) = []
    rw [htrimmed, Option.getD_none, parsed_nil urls]
    rfl
  have hsecond : normalizeUrl python (CPythonUrls.written address address.trimmed.netloc address.trimmed.path pairs) =
      .ok (normalText python address.trimmed pairs) := by
    have hsorted : sortPairs pairs = pairs := sortPairs_sortPairs _
    rw [hcleaned.normalizeUrl_eq, hreread, hsorted]
    unfold normalText CPythonUrls.written
    rw [hscheme, hnetloc, hpath]
    simp only [encoded_eq_nil_iff]
    rfl
  calc normalizeDetailUrl python (some (.str url))
      = (dropIrrelevantQueryParams python url).bind fun cleaned ↦ (normalizeUrl python cleaned).map some := by
        have hasStr : Value.asStr (some (PyObject.str url)) = some (PyText.strip url) := asStr_of_reads h
        unfold normalizeDetailUrl
        rw [hasStr]
        dsimp only
        rw [dropIrrelevantQueryParams_strip]
        rfl
    _ = .ok (some (normalText python address.trimmed pairs)) := by
        rw [h.dropIrrelevantQueryParams_eq]
        exact congrArg (Except.map some) hsecond
    _ = .ok (some (normalText python address pairs)) := by rw [normalText_trimmed address hnoQuery]

end CPythonUrls

end Reading

end TenderPhase1.Crawler
