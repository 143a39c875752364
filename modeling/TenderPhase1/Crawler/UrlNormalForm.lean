import TenderPhase1.Crawler.UrllibInstance

/-!
# The normal form of URLs

What `normalize_detail_url` returns for an absolute URL is a text in normal form:
both `normalize_detail_url` and `normalize_url` keep it. Variants of a URL share
their normal form: texts that differ in the case of the scheme and the host, in the
order of the parameters, in parameters to ignore, in the fragment, or in white space
around them. White space at the end of a query is the exception: it belongs to the
last parameter where a fragment follows, and is stripped where none does.
-/

namespace TenderPhase1.Crawler

open PyText

section Texts

variable {python : Python} {urls : CPythonUrls python} {url : String} {address : Urllib.Address}

namespace CPythonUrls

/-! ### Texts in normal form -/

/-- A text in normal form: written from a location in lower case and a path that is not empty, with sorted
parameters. -/
structure Normal (urls : CPythonUrls python) (text : String) (address : Urllib.Address) (netloc path : List Char)
    (pairs : List (String × String)) : Prop where
  parts : Urllib.PlainParts netloc path (encoded pairs)
  text : text = written address netloc path pairs
  reads : urls.Reads (written address netloc path pairs) (address.rewritten parts)
  lower : lowered python netloc = netloc
  path : path ≠ []
  sorted : sortPairs pairs = pairs

theorem rootPath_ne_nil (path : List Char) : rootPath path ≠ [] := by
  unfold rootPath
  split
  · exact List.cons_ne_nil _ _
  · assumption

theorem rootPath_of_ne_nil {path : List Char} (h : path ≠ []) : rootPath path = path := if_neg h

theorem head?_rootPath {path : List Char} (h : path = [] ∨ path.head? = some '/') :
    rootPath path = [] ∨ (rootPath path).head? = some '/' := by
  unfold rootPath
  split
  · exact .inr rfl
  · exact h

theorem mem_rootPath {path : List Char} {c : Char} (hc : c ∈ rootPath path) : c ∈ path ∨ c = '/' := by
  unfold rootPath at hc
  split at hc
  · exact .inr (List.mem_singleton.mp hc)
  · exact .inl hc

namespace Normal

variable {text : String} {netloc path : List Char} {pairs : List (String × String)}
  (h : urls.Normal text address netloc path pairs)

include h

theorem scheme : (address.rewritten h.parts).scheme.map Char.toLower = address.scheme.map Char.toLower :=
  (Urllib.Split.mk.inj (address.split_rewritten h.parts)).1

/-- The parameters are read back as they were written. -/
theorem parsed_query : parsed python ((address.rewritten h.parts).trimmed.query.getD []) = pairs := by
  have hquery := (Urllib.Split.mk.inj (address.split_trimmed_rewritten h.parts)).2.2.2.1
  rw [hquery, encoded, Urllib.rstrip_urlencode]
  exact urls.parsed_encoded pairs

/-- `normalize_detail_url` of a text in normal form -/
theorem normalizeDetailUrl_eq : normalizeDetailUrl python (some (.str text)) =
    .ok (some (written address netloc
      (rootPath (if sortPairs (relevantPairs python pairs) = [] then Urllib.rstrip path else path))
      (sortPairs (relevantPairs python pairs)))) := by
  have hkept : keptPairs python (address.rewritten h.parts) = sortPairs (relevantPairs python pairs) := by
    rw [keptPairs, h.parsed_query]
  have hscheme := h.scheme
  rw [h.text, h.reads.normalizeDetailUrl_eq, hkept]
  unfold normalText written
  rw [hscheme]
  unfold Urllib.Address.rewritten
  dsimp only
  rw [if_neg fun hnil ↦ h.path hnil.1, h.lower]

/-- `normalize_url` of a text in normal form -/
theorem normalizeUrl_eq : normalizeUrl python text =
    .ok (written address netloc (rootPath (if pairs = [] then Urllib.rstrip path else path)) pairs) := by
  obtain ⟨-, hnetloc, hpath, -, -⟩ := Urllib.Split.mk.inj (address.split_trimmed_rewritten h.parts)
  have hscheme := h.scheme
  rw [h.text, h.reads.normalizeUrl_eq, h.parsed_query, h.sorted, hnetloc, hpath, if_neg fun hnil ↦ h.path hnil.1,
    h.lower]
  unfold written
  rw [hscheme]
  simp only [encoded_eq_nil_iff]

end Normal

/-- A location in lower case, of a text that reads as an address -/
theorem lowered_lowered (urls : CPythonUrls python) (netloc : List Char) :
    lowered python (lowered python netloc) = lowered python netloc := by
  unfold lowered
  rw [String.ofList_toList, urls.lower_lower]

/-- A lowered location is accepted where the location was. -/
theorem Reads.accepts_lowered (h : urls.Reads url address) {netloc : List Char}
    (hnetloc : netloc = address.netloc ∨ netloc = Urllib.rstrip address.netloc) :
    urls.accepts (String.ofList (lowered python netloc)) ∧
      Urllib.rstrip (lowered python netloc) ≠ [] ∧
      ∀ c ∈ lowered python netloc, Urllib.endsNetloc c = false ∧ Urllib.isUnsafe c = false := by
  have haccepted : urls.accepts (String.ofList netloc) := by
    rcases hnetloc with rfl | rfl
    · exact h.accepted
    · have hstripped := urls.accepts_rstrip _ h.accepted
      rwa [rstripText, String.toList_ofList] at hstripped
  have hhost : Urllib.rstrip netloc ≠ [] := by
    rcases hnetloc with rfl | rfl
    · exact h.host
    · rw [Urllib.rstrip_rstrip]
      exact h.host
  refine ⟨?_, host_lowered urls hhost, ?_⟩
  · rw [lowered, String.ofList_toList]
    exact urls.accepts_lower _ haccepted
  · intro c hc
    by_contra hnot
    have hdelimiter : Urllib.endsNetloc c ∨ Urllib.isUnsafe c := by
      by_contra hneither
      exact hnot (by simpa using hneither)
    have hmem := urls.mem_lower _ c hc hdelimiter
    rw [String.toList_ofList] at hmem
    apply hnot
    rcases hnetloc with rfl | rfl
    · exact mem_netloc hmem
    · exact mem_netloc (Urllib.mem_of_mem_rstrip hmem)

/-- What is written for a location and a path of the address is in normal form. -/
theorem Reads.normal_written (h : urls.Reads url address) {netloc path : List Char} {pairs : List (String × String)}
    (hnetloc : netloc = address.netloc ∨ netloc = Urllib.rstrip address.netloc)
    (hpath : path = address.path ∨ path = Urllib.rstrip address.path) (hsorted : sortPairs pairs = pairs) :
    urls.Normal (CPythonUrls.written address (lowered python netloc) (rootPath path) pairs) address
      (lowered python netloc) (rootPath path) pairs := by
  obtain ⟨haccepted, hhost, hchars⟩ := h.accepts_lowered hnetloc
  have hroot : rootPath path = [] ∨ (rootPath path).head? = some '/' := by
    rcases hpath with rfl | rfl
    · exact head?_rootPath address.path_head
    · exact head?_rootPath (Urllib.head?_rstrip address.path_head)
  have hpathChars : ∀ c ∈ rootPath path, c ∈ address.path ∨ c = '/' := by
    intro c hc
    rcases hpath with rfl | rfl
    · exact mem_rootPath hc
    · exact (mem_rootPath hc).imp_left Urllib.mem_of_mem_rstrip
  have hparts : Urllib.PlainParts (lowered python netloc) (rootPath path) (encoded pairs) :=
    plainParts_encoded pairs hchars hroot hpathChars
  exact ⟨hparts, rfl, h.written hparts haccepted hhost, lowered_lowered urls netloc, rootPath_ne_nil path, hsorted⟩

theorem rootPath_rstrip (path : List Char) : rootPath (Urllib.rstrip (rootPath (Urllib.rstrip path))) =
    rootPath (Urllib.rstrip path) := by
  have hkept : Urllib.rstrip (rootPath (Urllib.rstrip path)) = rootPath (Urllib.rstrip path) := by
    unfold rootPath
    split
    · rfl
    · exact Urllib.rstrip_rstrip _
  rw [hkept]
  exact rootPath_of_ne_nil (rootPath_ne_nil _)

/-- The text that `normalize_detail_url` returns is in normal form, and nothing of it is stripped. -/
theorem Reads.normal_normalText (h : urls.Reads url address) {pairs : List (String × String)}
    (hsorted : sortPairs pairs = pairs) :
    ∃ netloc path, urls.Normal (normalText python address pairs) address netloc path pairs ∧
      rootPath (if pairs = [] then Urllib.rstrip path else path) = path := by
  have hnetloc : (if address.path = [] ∧ pairs = [] then Urllib.rstrip address.netloc else address.netloc) =
        address.netloc ∨
      (if address.path = [] ∧ pairs = [] then Urllib.rstrip address.netloc else address.netloc) =
        Urllib.rstrip address.netloc := by
    split
    · exact .inr rfl
    · exact .inl rfl
  have hpath : (if pairs = [] then Urllib.rstrip address.path else address.path) = address.path ∨
      (if pairs = [] then Urllib.rstrip address.path else address.path) = Urllib.rstrip address.path := by
    split
    · exact .inr rfl
    · exact .inl rfl
  refine ⟨_, _, h.normal_written hnetloc hpath hsorted, ?_⟩
  by_cases hpairs : pairs = []
  · rw [if_pos hpairs, if_pos hpairs]
    exact rootPath_rstrip _
  · rw [if_neg hpairs, if_neg hpairs]
    exact rootPath_of_ne_nil (rootPath_ne_nil _)

/-! ### What `normalize_url` returns -/

/-- The parts can be read back from what is written. -/
theorem written_inj {address : Urllib.Address} {netloc path netloc' path' : List Char}
    {pairs pairs' : List (String × String)} (parts : Urllib.PlainParts netloc path (encoded pairs))
    (parts' : Urllib.PlainParts netloc' path' (encoded pairs'))
    (h : CPythonUrls.written address netloc path pairs = CPythonUrls.written address netloc' path' pairs') :
    path = path' ∧ encoded pairs = encoded pairs' := by
  have htext : (address.rewritten parts).text = (address.rewritten parts').text := by
    rw [← address.urlunsplit_eq_text parts, ← address.urlunsplit_eq_text parts']
    exact String.ofList_injective h
  have hsplit := congrArg Urllib.urlsplit htext
  rw [Urllib.Address.urlsplit_text, Urllib.Address.urlsplit_text, address.split_rewritten parts,
    address.split_rewritten parts'] at hsplit
  obtain ⟨-, -, hpath, hquery, -⟩ := Urllib.Split.mk.inj hsplit
  exact ⟨hpath, hquery⟩

theorem encoded_injective (urls : CPythonUrls python) : Function.Injective encoded := by
  intro pairs others h
  rw [← urls.parsed_encoded pairs, h, urls.parsed_encoded]

/-- `normalize_url` returns a text in normal form. -/
theorem Reads.normal_normalizeUrl (h : urls.Reads url address) : ∃ text netloc,
    normalizeUrl python url = .ok text ∧
      urls.Normal text address.trimmed netloc (rootPath address.trimmed.path)
        (sortPairs (parsed python (address.trimmed.query.getD []))) := by
  have hnormal := h.strip.normal_written (.inl rfl) (.inl rfl) (sortPairs_sortPairs (parsed python
    (address.trimmed.query.getD [])))
  exact ⟨_, _, h.normalizeUrl_eq, hnormal⟩

/-- `normalize_detail_url` keeps a text in normal form if and only if it drops no parameter and strips nothing. -/
theorem Normal.kept_iff {text : String} {netloc path : List Char} {pairs : List (String × String)}
    (h : urls.Normal text address netloc path pairs) :
    normalizeDetailUrl python (some (.str text)) = .ok (some text) ↔
      relevantPairs python pairs = pairs ∧ (pairs = [] → Urllib.rstrip path = path) := by
  constructor
  · intro hkept
    let kept := sortPairs (relevantPairs python pairs)
    have hnetloc : ∀ c ∈ (address.rewritten h.parts).netloc, Urllib.endsNetloc c = false ∧ Urllib.isUnsafe c = false :=
      fun c hc ↦ mem_netloc hc
    have hhead : rootPath (if kept = [] then Urllib.rstrip path else path) = [] ∨
        (rootPath (if kept = [] then Urllib.rstrip path else path)).head? = some '/' := by
      split
      · exact head?_rootPath (Urllib.head?_rstrip h.parts.path_head)
      · exact head?_rootPath h.parts.path_head
    have hchars : ∀ c ∈ rootPath (if kept = [] then Urllib.rstrip path else path),
        c ∈ (address.rewritten h.parts).path ∨ c = '/' := by
      intro c hc
      split at hc
      · exact (mem_rootPath hc).imp_left Urllib.mem_of_mem_rstrip
      · exact mem_rootPath hc
    have hparts := plainParts_encoded kept hnetloc hhead hchars
    have hwritten := Option.some.inj (Except.ok.inj (h.normalizeDetailUrl_eq.symm.trans hkept))
    obtain ⟨hpath, hencoded⟩ := written_inj hparts h.parts (hwritten.trans h.text)
    have hpairs : kept = pairs := encoded_injective urls hencoded
    have hlength : (relevantPairs python pairs).length = pairs.length := by
      rw [← (sortPairs_perm (relevantPairs python pairs)).length_eq]
      exact congrArg List.length hpairs
    refine ⟨List.filter_sublist.eq_of_length hlength, fun hnil ↦ ?_⟩
    rw [hpairs, if_pos hnil] at hpath
    unfold rootPath at hpath
    split at hpath
    · rename_i hempty
      rw [← hpath] at hempty
      exact absurd hempty (by decide)
    · exact hpath
  · rintro ⟨hrelevant, hpath⟩
    rw [h.normalizeDetailUrl_eq, hrelevant, h.sorted]
    by_cases hpairs : pairs = []
    · rw [if_pos hpairs, hpath hpairs, rootPath_of_ne_nil h.path, ← h.text]
    · rw [if_neg hpairs, rootPath_of_ne_nil h.path, ← h.text]

end CPythonUrls

end Texts

/-! ## The normal form -/

/-- A text that is a URL with white space around it: one that `urlsplit` splits, with a scheme of the web and
a host. -/
structure UrlText (python : Python) (text : String) where
  before : String
  url : String
  after : String
  text_eq : text = before ++ url ++ after
  before_spaces : ∀ c ∈ before.toList, isSpace c = true
  after_spaces : ∀ c ∈ after.toList, isSpace c = true
  split : SplitResult
  urlsplit_eq : python.urlsplit url = .ok split
  absolute : split.Absolute

/-- The URL does not end in white space of its query: stripping it leaves the query as it is. -/
def UrlText.KeepsQuery {python : Python} {text : String} (url : UrlText python text) : Prop :=
  ∃ stripped, python.urlsplit (strip url.url) = .ok stripped ∧ stripped.query = url.split.query

/-- A parameter that is named in the ignore list, or whose name starts with `utm_`. -/
def Ignored (python : Python) (pair : String × String) : Prop :=
  irrelevantQueryParamNames.contains (python.lower (strip pair.1)) ∨
    irrelevantQueryParamPrefixes.any (startsWith (python.lower (strip pair.1)))

instance (python : Python) : DecidablePred (Ignored python) := fun _ ↦ inferInstanceAs (Decidable (_ ∨ _))

/-- A URL differs from another one in the case of its scheme and host, in the order of its parameters, by
parameters to ignore that are inserted anywhere, and in its fragment. -/
structure VariantOf (python : Python) (split other : SplitResult) : Prop where
  scheme : split.scheme = other.scheme
  netloc : python.lower split.netloc = python.lower other.netloc
  path : split.path = other.path
  parameters : ∃ inserted, (∀ pair ∈ inserted, Ignored python pair) ∧
    (python.parseQsl split.query true).Perm (python.parseQsl other.query true ++ inserted)

/-- What `normalize_detail_url` returns for an absolute URL is kept by it and by `normalize_url`, and does not
tell variants of the URL apart. -/
structure UrlNormalForm (python : Python) : Prop where
  stable : ∀ (text : String) (_ : UrlText python text), ∃ normal,
    normalizeDetailUrl python (some (.str text)) = .ok (some normal) ∧
      normalizeDetailUrl python (some (.str normal)) = .ok (some normal) ∧ normalizeUrl python normal = .ok normal
  invariant : ∀ (text other : String) (url : UrlText python text) (varied : UrlText python other),
    VariantOf python varied.split url.split → url.KeepsQuery → varied.KeepsQuery →
      normalizeDetailUrl python (some (.str other)) = normalizeDetailUrl python (some (.str text))

section NormalForm

variable {python : Python} (urls : CPythonUrls python) {text : String} (url : UrlText python text)

open CPythonUrls

include urls in
/-- `normalize_detail_url` reads the URL, and not the white space around it. -/
theorem UrlText.exists_reads : ∃ address, urls.Reads url.url address ∧ url.split = SplitResult.ofChars address.split ∧
    normalizeDetailUrl python (some (.str text)) = .ok (some (normalText python address (keptPairs python address))) := by
  obtain ⟨address, hreads, hsplit⟩ := reads_of_urlsplit urls url.urlsplit_eq url.absolute
  have hstrip : strip text = strip url.url := by
    have hchars : text.toList = url.before.toList ++ url.url.toList ++ url.after.toList := by
      rw [← String.toList_append, ← String.toList_append, ← url.text_eq]
    unfold strip
    rw [hchars, Urllib.stripChars_surrounded url.url.toList url.before_spaces url.after_spaces]
  refine ⟨address, hreads, hsplit, ?_⟩
  rw [← hreads.normalizeDetailUrl_eq]
  have hasStr : Value.asStr (some (PyObject.str text)) = Value.asStr (some (PyObject.str url.url)) := by
    show asStr (some text) = asStr (some url.url)
    rw [asStr_some, asStr_some, hstrip]
  unfold normalizeDetailUrl
  rw [hasStr]

/-- The parameters that are kept of a URL, up to their order. -/
theorem UrlText.keptPairs_perm {address : Urllib.Address} (hreads : urls.Reads url.url address)
    (hkeeps : url.KeepsQuery) :
    keptPairs python address = sortPairs (relevantPairs python (python.parseQsl url.split.query true)) := by
  obtain ⟨stripped, hstripped, hquery⟩ := hkeeps
  have hsplit := hreads.strip.urlsplit_eq
  rw [hstripped] at hsplit
  obtain rfl := Except.ok.inj hsplit
  rw [← hquery]
  rfl

theorem relevantPairs_eq_self_iff {pairs : List (String × String)} :
    relevantPairs python pairs = pairs ↔ ∀ pair ∈ pairs, ¬ Ignored python pair := by
  unfold relevantPairs Ignored
  rw [List.filter_eq_self]
  simp

theorem relevantPairs_of_ignored {pairs : List (String × String)} (h : ∀ pair ∈ pairs, Ignored python pair) :
    relevantPairs python pairs = [] := by
  apply List.filter_eq_nil_iff.mpr
  intro pair hpair
  have hignored := h pair hpair
  unfold Ignored at hignored
  dsimp only
  grind

theorem lowered_rstrip (urls : CPythonUrls python) (netloc : List Char) :
    lowered python (Urllib.rstrip netloc) = Urllib.rstrip (lowered python netloc) := by
  have hrstrip := urls.lower_rstrip (String.ofList netloc)
  unfold rstripText at hrstrip
  rw [String.toList_ofList] at hrstrip
  rw [lowered, hrstrip, String.toList_ofList, lowered]

/-- The text in normal form depends on the scheme and the host up to their case. -/
theorem normalText_congr (urls : CPythonUrls python) {address other : Urllib.Address}
    (hscheme : address.split.scheme = other.split.scheme)
    (hnetloc : lowered python address.netloc = lowered python other.netloc)
    (hpath : address.path = other.path) (pairs : List (String × String)) :
    normalText python address pairs = normalText python other pairs := by
  have hcut : lowered python
        (if address.path = [] ∧ pairs = [] then Urllib.rstrip address.netloc else address.netloc) =
      lowered python
        (if other.path = [] ∧ pairs = [] then Urllib.rstrip other.netloc else other.netloc) := by
    rw [hpath]
    split
    · rw [lowered_rstrip urls, lowered_rstrip urls, hnetloc]
    · exact hnetloc
  unfold normalText written
  rw [hcut, hpath]
  exact congrArg (fun scheme ↦ String.ofList (Urllib.urlunsplit ⟨scheme, _, _, _, []⟩)) hscheme

end NormalForm

/-- The normal form of a URL is kept, and all its variants share it. -/
theorem urlNormalForm {python : Python} (urls : CPythonUrls python) : UrlNormalForm python where
  stable text url := by
    obtain ⟨address, hreads, -, hnormal⟩ := url.exists_reads urls
    have hsorted : sortPairs (CPythonUrls.keptPairs python address) = CPythonUrls.keptPairs python address :=
      sortPairs_sortPairs _
    obtain ⟨netloc, path, h, hpath⟩ := hreads.normal_normalText hsorted
    have hrelevant : relevantPairs python (CPythonUrls.keptPairs python address) =
        CPythonUrls.keptPairs python address :=
      relevantPairs_sortPairs python _
    refine ⟨_, hnormal, ?_, ?_⟩
    · rw [h.normalizeDetailUrl_eq, hrelevant, hsorted, hpath, ← h.text]
    · rw [h.normalizeUrl_eq, hpath, ← h.text]
  invariant text other url varied hvariant hurl hvaried := by
    obtain ⟨address, hreads, hsplit, hnormal⟩ := url.exists_reads urls
    obtain ⟨variedAddress, hvariedReads, hvariedSplit, hvariedNormal⟩ := varied.exists_reads urls
    obtain ⟨hscheme, hnetloc, hpath, inserted, hinserted, hperm⟩ := hvariant
    have hkept : CPythonUrls.keptPairs python variedAddress = CPythonUrls.keptPairs python address := by
      rw [varied.keptPairs_perm urls hvariedReads hvaried, url.keptPairs_perm urls hreads hurl]
      calc _ = sortPairs (relevantPairs python (python.parseQsl url.split.query true ++ inserted)) :=
            sortPairs_eq_of_perm (hperm.filter _)
        _ = _ := by
            rw [relevantPairs, List.filter_append]
            show sortPairs (_ ++ relevantPairs python inserted) = _
            rw [relevantPairs_of_ignored hinserted, List.append_nil]
            rfl
    rw [hsplit, hvariedSplit] at hscheme hnetloc hpath
    rw [hnormal, hvariedNormal, hkept, normalText_congr urls (String.ofList_injective hscheme)
      (congrArg String.toList hnetloc) (String.ofList_injective hpath)]

/-! ## Two normal forms of one URL -/

/-- No parameter of the URL is to be ignored, and a path without parameters does not end in white space. -/
def SplitResult.Settled (python : Python) (split : SplitResult) : Prop :=
  (∀ pair ∈ python.parseQsl split.query true, ¬ Ignored python pair) ∧
    (python.parseQsl split.query true = [] → rstripText split.path = split.path)

instance (python : Python) : DecidablePred (SplitResult.Settled python) :=
  fun _ ↦ inferInstanceAs (Decidable (_ ∧ _))

theorem rstrip_rootPath_iff (path : List Char) :
    Urllib.rstrip (CPythonUrls.rootPath path) = CPythonUrls.rootPath path ↔ Urllib.rstrip path = path := by
  unfold CPythonUrls.rootPath
  split
  · rename_i hnil
    rw [hnil]
    exact iff_of_true rfl rfl
  · rfl

/-- `normalize_detail_url` keeps what `normalize_url` made of a URL if and only if the URL is settled. -/
theorem normalizeDetailUrl_normalizeUrl {python : Python} (urls : CPythonUrls python) {url : String}
    {split : SplitResult} (hsplit : python.urlsplit (strip url) = .ok split) (habsolute : split.Absolute) :
    ∃ text stored, normalizeUrl python url = .ok text ∧ normalizeDetailUrl python (some (.str text)) = .ok (some stored) ∧
      text ≠ "" ∧ stored ≠ "" ∧ (stored = text ↔ split.Settled python) := by
  obtain ⟨address, hreads, -⟩ := CPythonUrls.reads_of_urlsplit urls hsplit habsolute
  obtain ⟨text, netloc, htext, hnormal⟩ := hreads.normal_normalizeUrl
  have hagain := hreads.strip.urlsplit_eq
  rw [strip_strip, hsplit] at hagain
  obtain rfl := Except.ok.inj hagain
  have hunstripped : normalizeUrl python url = .ok text := by
    rw [← htext]
    unfold normalizeUrl
    rw [strip_strip]
  have hne (netloc path : List Char) (pairs : List (String × String)) :
      CPythonUrls.written address.trimmed netloc path pairs ≠ "" := by
    simp [CPythonUrls.written, Urllib.urlunsplit]
  have hrelevant : (relevantPairs python (sortPairs (CPythonUrls.parsed python (address.trimmed.query.getD []))) =
        sortPairs (CPythonUrls.parsed python (address.trimmed.query.getD []))) ↔
      ∀ pair ∈ CPythonUrls.parsed python (address.trimmed.query.getD []), ¬ Ignored python pair := by
    rw [relevantPairs_eq_self_iff]
    exact forall_congr' fun pair ↦ imp_congr_left (sortPairs_perm _).mem_iff
  have hnil : sortPairs (CPythonUrls.parsed python (address.trimmed.query.getD [])) = [] ↔
      CPythonUrls.parsed python (address.trimmed.query.getD []) = [] := by
    rw [← List.length_eq_zero_iff, (sortPairs_perm _).length_eq, List.length_eq_zero_iff]
  refine ⟨text, _, hunstripped, hnormal.normalizeDetailUrl_eq, ?_, hne _ _ _, ?_⟩
  · rw [hnormal.text]
    exact hne _ _ _
  · have hkept := hnormal.kept_iff
    rw [hnormal.normalizeDetailUrl_eq, Except.ok.injEq, Option.some.injEq, hrelevant, rstrip_rootPath_iff, hnil] at hkept
    rw [hkept]
    unfold SplitResult.Settled rstripText
    refine and_congr_right' (imp_congr_right fun _ ↦ ?_)
    show _ ↔ String.ofList (Urllib.rstrip (String.ofList address.trimmed.path).toList) =
      String.ofList address.trimmed.path
    rw [String.toList_ofList, String.ofList_inj]

/-! ### White space before a fragment -/

def webPython : Python := urllibPython blankPython

def webUrls : CPythonUrls webPython := urllibUrls _

/-- A URL with nothing around it, given by its parts -/
def UrlText.ofSplit {text : String} (split : SplitResult) (h : webPython.urlsplit text = .ok split)
    (habsolute : split.Absolute) : UrlText webPython text where
  before := ""
  url := text
  after := ""
  text_eq := by simp
  before_spaces _ hc := absurd hc List.not_mem_nil
  after_spaces _ hc := absurd hc List.not_mem_nil
  split := split
  urlsplit_eq := h
  absolute := habsolute

def pageUrl : UrlText webPython "HTTP://Example.com/notice?utm_source=mail&page=2&id=7#top" :=
  .ofSplit ⟨"http", "Example.com", "/notice", "utm_source=mail&page=2&id=7", "top"⟩ (by decide +kernel)
    (by decide +kernel)

/-- A link to a page with a tracking parameter, an upper-case host and a fragment has the normal form of the
page's own address. -/
theorem urlNormalForm_page :
    normalizeDetailUrl webPython (some (.str "HTTP://Example.com/notice?utm_source=mail&page=2&id=7#top")) =
      .ok (some "http://example.com/notice?id=7&page=2") := by
  let page : UrlText webPython "http://example.com/notice?id=7&page=2" :=
    .ofSplit ⟨"http", "example.com", "/notice", "id=7&page=2", ""⟩ (by decide +kernel) (by decide +kernel)
  have hvariant : VariantOf webPython pageUrl.split page.split := by
    refine ⟨by decide, by decide +kernel, by decide, [("utm_source", "mail")], by decide +kernel, by decide +kernel⟩
  have hsame := (urlNormalForm webUrls).invariant _ _ page pageUrl hvariant
    ⟨page.split, by decide +kernel, rfl⟩ ⟨pageUrl.split, by decide +kernel, rfl⟩
  rw [hsame]
  decide +kernel

/-- Without the condition on the queries, two URLs that differ in the fragment differ in their normal form: the
space before the fragment belongs to the parameter, and is stripped where the fragment is removed. -/
theorem not_invariant_spaceBeforeFragment :
    ¬ ∀ (text other : String) (url : UrlText webPython text) (varied : UrlText webPython other),
      VariantOf webPython varied.split url.split →
        normalizeDetailUrl webPython (some (.str other)) = normalizeDetailUrl webPython (some (.str text)) := by
  intro h
  let url : UrlText webPython "http://example.com/notice?page=2 #top" :=
    .ofSplit ⟨"http", "example.com", "/notice", "page=2 ", "top"⟩ (by decide +kernel) (by decide +kernel)
  let varied : UrlText webPython "http://example.com/notice?page=2 " :=
    .ofSplit ⟨"http", "example.com", "/notice", "page=2 ", ""⟩ (by decide +kernel) (by decide +kernel)
  have hsame := h _ _ url varied ⟨rfl, rfl, rfl, [], by decide, by decide +kernel⟩
  exact absurd hsame (by decide +kernel)

end TenderPhase1.Crawler
