import TenderPhase1.Crawler.UrlNormalForm
import TenderPhase1.Foundation.UrlParts

/-!
# White space at the ends of written URLs

`normalize_url` strips the text that it reads, and not the text that it writes: without
a fragment and without parameters a path may end the text that did not end it before.
`normalize_detail_url` writes twice, so its text is stripped, whatever the URL.
-/

namespace TenderPhase1.Crawler

open PyText

/-- CPython's `urlunsplit` where there is no host, and its `str.lower` on schemes and on white space. -/
structure CPythonTexts (python : Python) : Prop where
  /-- The scheme with its colon, slashes, and the rest. -/
  urlunsplit_local : ∀ split, split.netloc = "" → ∃ slashes, (∀ c ∈ slashes, c = '/') ∧
    python.urlunsplit split = String.ofList ((if split.scheme = "" then [] else split.scheme.toList ++ [':']) ++
      slashes ++ split.path.toList ++ (if split.query = "" then [] else '?' :: split.query.toList) ++
      if split.fragment = "" then [] else '#' :: split.fragment.toList)
  lower_scheme : ∀ text, Urllib.LowerScheme text.toList → python.lower text = text
  /-- White space has no case. -/
  lower_strip : ∀ text, python.lower (strip text) = strip (python.lower text)

section Ends

variable {python : Python} {url text : String} {split : SplitResult} {scheme rest : List Char}

theorem stripped_lower (texts : CPythonTexts python) (h : Stripped text) : Stripped (python.lower text) := by
  have hstrip := texts.lower_strip text
  rw [show strip text = text from h] at hstrip
  exact hstrip.symm

/-- What `urlunsplit` writes of parts with a scheme and no fragment. -/
theorem exists_urlunsplit (urls : CPythonUrls python) (texts : CPythonTexts python)
    (hscheme : split.scheme ≠ "") (hfragment : split.fragment = "") :
    ∃ front, (∀ c ∈ front, c = '/' ∨ c ∈ split.netloc.toList) ∧
      python.urlunsplit split = String.ofList (split.scheme.toList ++ ':' :: (front ++ split.path.toList ++
        if split.query = "" then [] else '?' :: split.query.toList)) := by
  by_cases hnetloc : split.netloc = ""
  · obtain ⟨slashes, hslashes, htext⟩ := texts.urlunsplit_local split hnetloc
    refine ⟨slashes, fun c hc ↦ Or.inl (hslashes c hc), ?_⟩
    rw [htext, if_neg hscheme, if_pos hfragment]
    simp
  · refine ⟨'/' :: '/' :: (split.netloc.toList ++
      if split.path = "" ∨ split.path.toList.head? = some '/' then [] else ['/']), ?_, ?_⟩
    · intro c hc
      rcases List.mem_cons.mp hc with rfl | hc
      · exact Or.inl rfl
      rcases List.mem_cons.mp hc with rfl | hc
      · exact Or.inl rfl
      rcases List.mem_append.mp hc with hc | hc
      · exact Or.inr hc
      · split at hc
        · cases hc
        · exact Or.inl (List.mem_singleton.mp hc)
    · rw [urls.urlunsplit split hnetloc]
      unfold Urllib.urlunsplit SplitResult.chars
      simp only [String.toList_eq_nil_iff, if_neg hscheme, if_pos hfragment]
      split <;> simp

/-- A path without parameters does not end in white space. -/
def SplitResult.PathEnds (python : Python) (split : SplitResult) : Prop :=
  python.parseQsl split.query true = [] → rstripText split.path = split.path

instance (python : Python) : DecidablePred (SplitResult.PathEnds python) :=
  fun _ ↦ inferInstanceAs (Decidable (_ → _))

/-- A text that begins with a scheme is stripped where its end is. -/
theorem stripped_iff_of_scheme (hscheme : Urllib.LowerScheme scheme) (htext : text.toList = scheme ++ ':' :: rest) :
    Stripped text ↔ Urllib.rstrip rest = rest := by
  have hchars : Stripped text ↔ stripChars text.toList = text.toList := by
    rw [stripped_iff, stripChars_eq_self_iff]
  rw [hchars, htext, hscheme.stripChars, List.append_cancel_left_eq, List.cons.injEq]
  exact and_iff_right rfl

theorem rstripText_iff : rstripText text = text ↔ Urllib.rstrip text.toList = text.toList := by
  unfold rstripText
  rw [← String.toList_inj, String.toList_ofList]

/-- The end of what is written: that of the parameters, or else that of the path. -/
theorem rstrip_written_iff (front : List Char) (path : String) (pairs : List (String × String)) :
    Urllib.rstrip (front ++ (if path = "" then "/" else path).toList ++
        (if CPythonUrls.encoded pairs = [] then [] else '?' :: CPythonUrls.encoded pairs)) =
      front ++ (if path = "" then "/" else path).toList ++
        (if CPythonUrls.encoded pairs = [] then [] else '?' :: CPythonUrls.encoded pairs) ↔
      (pairs = [] → rstripText path = path) := by
  have hroot : (if path = "" then "/" else path).toList = CPythonUrls.rootPath path.toList := by
    unfold CPythonUrls.rootPath
    simp only [String.toList_eq_nil_iff]
    split <;> rfl
  by_cases hpairs : pairs = []
  · rw [if_pos (CPythonUrls.encoded_eq_nil_iff.mpr hpairs), List.append_nil, hroot,
      rstrip_append_iff (CPythonUrls.rootPath_ne_nil _), rstrip_rootPath_iff, rstripText_iff]
    exact ⟨fun h _ ↦ h, fun h ↦ h hpairs⟩
  · rw [if_neg (CPythonUrls.encoded_eq_nil_iff.not.mpr hpairs)]
    refine iff_of_true ?_ fun hnil ↦ absurd hnil hpairs
    rw [Urllib.rstrip_append_cons (by decide), CPythonUrls.encoded, Urllib.rstrip_urlencode]

theorem lowerScheme_of_urlsplit (urls : CPythonUrls python) (hsplit : python.urlsplit url = .ok split)
    (hscheme : split.scheme ≠ "") : Urllib.LowerScheme split.scheme.toList := by
  rw [urls.urlsplit] at hsplit
  split at hsplit
  · obtain rfl := Except.ok.inj hsplit
    rw [SplitResult.ofChars, String.toList_ofList]
    apply Urllib.lowerScheme_splitScheme
    exact fun hnil ↦ hscheme (String.ofList_eq_empty_iff.mpr hnil)
  · cases hsplit

/-- What `normalize_url` writes of a URL with a scheme: it begins with the scheme, and is stripped if and only
if a path without parameters does not end in white space. -/
theorem normalizeUrl_ends (urls : CPythonUrls python) (texts : CPythonTexts python)
    (hsplit : python.urlsplit (strip url) = .ok split) (hscheme : split.scheme ≠ "") :
    ∃ text rest, normalizeUrl python url = .ok text ∧ text.toList = split.scheme.toList ++ ':' :: rest ∧
      (Stripped text ↔ split.PathEnds python) := by
  have hlower := lowerScheme_of_urlsplit urls hsplit hscheme
  have hkept : python.lower split.scheme = split.scheme := texts.lower_scheme _ hlower
  let written : SplitResult :=
    { scheme := python.lower split.scheme
      netloc := python.lower split.netloc
      path := if split.path = "" then "/" else split.path
      query := python.urlencode (sortPairs (python.parseQsl split.query true))
      fragment := "" }
  have hnormal : normalizeUrl python url = .ok (python.urlunsplit written) := by
    unfold normalizeUrl
    rw [hsplit]
    rfl
  have hquery : (if written.query = "" then [] else '?' :: written.query.toList) =
      if CPythonUrls.encoded (sortPairs (python.parseQsl split.query true)) = [] then []
      else '?' :: CPythonUrls.encoded (sortPairs (python.parseQsl split.query true)) := by
    change (if python.urlencode _ = "" then [] else '?' :: (python.urlencode _).toList) = _
    rw [urls.urlencode]
    simp only [String.ofList_eq_empty_iff, String.toList_ofList]
    rfl
  have hwritten : written.scheme = split.scheme := hkept
  have hwrittenScheme : written.scheme ≠ "" := hwritten ▸ hscheme
  obtain ⟨front, -, htext⟩ := exists_urlunsplit urls texts hwrittenScheme rfl
  rw [hquery, hwritten] at htext
  refine ⟨_, _, hnormal, by rw [htext, String.toList_ofList], ?_⟩
  rw [stripped_iff_of_scheme hlower (by rw [htext, String.toList_ofList]), rstrip_written_iff]
  have hnil : sortPairs (python.parseQsl split.query true) = [] ↔ python.parseQsl split.query true = [] := by
    rw [← List.length_eq_zero_iff, (sortPairs_perm _).length_eq, List.length_eq_zero_iff]
  rw [hnil]
  rfl

/-- A text that begins with a scheme splits with it; white space in it is no part of the URL. -/
theorem urlsplit_of_scheme (urls : CPythonUrls python) (hscheme : Urllib.LowerScheme scheme)
    (htext : text.toList = scheme ++ ':' :: rest) (hsplit : python.urlsplit text = .ok split) :
    split = .ofChars (Urllib.splitReadable (scheme ++ ':' :: rest.filter (!Urllib.isUnsafe ·))) ∧
      split.scheme.toList = scheme := by
  rw [urls.urlsplit] at hsplit
  split at hsplit
  · obtain rfl := Except.ok.inj hsplit
    refine ⟨?_, ?_⟩
    · rw [Urllib.urlsplit, htext, hscheme.readable]
    · rw [SplitResult.ofChars, String.toList_ofList, htext, hscheme.urlsplit_scheme]
  · cases hsplit

/-- The first pass writes the parts that it has read, without a fragment. -/
theorem dropIrrelevantQueryParams_eq_ok (urls : CPythonUrls python) (texts : CPythonTexts python)
    (hscheme : Urllib.LowerScheme scheme) (htext : text.toList = scheme ++ ':' :: rest)
    {cleaned : String} (hcleaned : dropIrrelevantQueryParams python text = .ok cleaned) :
    ∃ front pairs, (∀ c ∈ front, c ≠ '?' ∧ c ≠ '#') ∧ cleaned.toList = scheme ++ ':' :: (front ++
      if CPythonUrls.encoded pairs = [] then [] else '?' :: CPythonUrls.encoded pairs) := by
  have hstrip : (strip text).toList = scheme ++ ':' :: Urllib.rstrip rest := by
    rw [strip, String.toList_ofList, htext, hscheme.stripChars]
  obtain ⟨split, hsplit, hcleaned⟩ := Jobs.bind_eq_ok.mp hcleaned
  obtain ⟨hparts, hsplitScheme⟩ := urlsplit_of_scheme urls hscheme hstrip hsplit
  have hne : split.scheme ≠ "" := by
    rw [← String.toList_eq_nil_iff.ne, hsplitScheme]
    exact hscheme.ne_nil
  let pairs := sortPairs (relevantPairs python (python.parseQsl split.query true))
  let written : SplitResult := { split with query := python.urlencode pairs, fragment := "" }
  have hwrittenScheme : written.scheme ≠ "" := hne
  obtain ⟨front, hfront, hwritten⟩ := exists_urlunsplit urls texts hwrittenScheme rfl
  have hquery : (if written.query = "" then [] else '?' :: written.query.toList) =
      if CPythonUrls.encoded pairs = [] then [] else '?' :: CPythonUrls.encoded pairs := by
    change (if python.urlencode _ = "" then [] else '?' :: (python.urlencode _).toList) = _
    rw [urls.urlencode]
    simp only [String.ofList_eq_empty_iff, String.toList_ofList]
    rfl
  refine ⟨front ++ split.path.toList, pairs, ?_, ?_⟩
  · intro c hc
    rcases List.mem_append.mp hc with hmem | hmem
    · rcases hfront c hmem with rfl | hnetloc
      · decide
      · change c ∈ split.netloc.toList at hnetloc
        rw [hparts, SplitResult.ofChars, String.toList_ofList] at hnetloc
        exact Urllib.netloc_splitReadable hnetloc
    · rw [hparts, SplitResult.ofChars, String.toList_ofList] at hmem
      exact Urllib.path_splitReadable hmem
  · rw [← Except.ok.inj hcleaned]
    change (python.urlunsplit written).toList = _
    rw [hwritten, String.toList_ofList, hquery]
    change split.scheme.toList ++ _ = _
    rw [hsplitScheme]

/-- What the second pass reads: the parameters that the first one wrote, or a path that does not end in white
space. -/
theorem pathEnds_of_written (urls : CPythonUrls python) (hscheme : Urllib.LowerScheme scheme) {front : List Char}
    {pairs : List (String × String)} (hfront : ∀ c ∈ front, c ≠ '?' ∧ c ≠ '#')
    (htext : text.toList = scheme ++ ':' :: (front ++
      if CPythonUrls.encoded pairs = [] then [] else '?' :: CPythonUrls.encoded pairs))
    (hsplit : python.urlsplit (strip text) = .ok split) : split.PathEnds python := by
  have hstrip : (strip text).toList = scheme ++ ':' :: Urllib.rstrip (front ++
      if CPythonUrls.encoded pairs = [] then [] else '?' :: CPythonUrls.encoded pairs) := by
    rw [strip, String.toList_ofList, htext, hscheme.stripChars]
  have hplain {c : Char} (hc : c ∈ scheme) : c ≠ '?' ∧ c ≠ '#' :=
    ⟨ne_of_mem_of_not_mem hc (hscheme.notMem (by decide)), ne_of_mem_of_not_mem hc (hscheme.notMem (by decide))⟩
  obtain ⟨hparts, -⟩ := urlsplit_of_scheme urls hscheme hstrip hsplit
  intro hquery
  by_cases hencoded : CPythonUrls.encoded pairs = []
  · rw [if_pos hencoded, List.append_nil] at hparts
    have hchars : ∀ c ∈ scheme ++ ':' :: (Urllib.rstrip front).filter (!Urllib.isUnsafe ·), c ≠ '?' ∧ c ≠ '#' := by
      intro c hc
      rcases List.mem_append.mp hc with hmem | hmem
      · exact hplain hmem
      rcases List.mem_cons.mp hmem with rfl | hmem
      · decide
      · exact hfront c (Urllib.mem_of_mem_rstrip (List.mem_filter.mp hmem).1)
    have hend : Urllib.rstrip (scheme ++ ':' :: (Urllib.rstrip front).filter (!Urllib.isUnsafe ·)) =
        scheme ++ ':' :: (Urllib.rstrip front).filter (!Urllib.isUnsafe ·) := by
      rw [Urllib.rstrip_append_cons (by decide), Urllib.rstrip_filter, Urllib.rstrip_rstrip]
    rw [rstripText_iff, hparts, SplitResult.ofChars, String.toList_ofList]
    exact (Urllib.splitReadable_of_plain hchars hend).2
  · have hread : (Urllib.rstrip (front ++ '?' :: CPythonUrls.encoded pairs)).filter (!Urllib.isUnsafe ·) =
        front.filter (!Urllib.isUnsafe ·) ++ '?' :: CPythonUrls.encoded pairs := by
      have hsafe : (CPythonUrls.encoded pairs).filter (!Urllib.isUnsafe ·) = CPythonUrls.encoded pairs := by
        apply List.filter_eq_self.mpr
        intro c hc
        rw [(CPythonUrls.mem_encoded hc).2]
        rfl
      rw [Urllib.rstrip_append_cons (by decide), CPythonUrls.encoded, Urllib.rstrip_urlencode, List.filter_append,
        List.filter_cons_of_pos (by decide)]
      exact congrArg (fun query ↦ front.filter (!Urllib.isUnsafe ·) ++ '?' :: query) hsafe
    have hchars : ∀ c ∈ scheme ++ ':' :: front.filter (!Urllib.isUnsafe ·), c ≠ '?' ∧ c ≠ '#' := by
      intro c hc
      rcases List.mem_append.mp hc with hmem | hmem
      · exact hplain hmem
      rcases List.mem_cons.mp hmem with rfl | hmem
      · decide
      · exact hfront c (List.mem_filter.mp hmem).1
    have hhash : '#' ∉ CPythonUrls.encoded pairs := fun hmem ↦ (CPythonUrls.mem_encoded hmem).1 rfl
    have hback := Urllib.query_splitReadable hchars hhash
    rw [if_neg hencoded, hread] at hparts
    rw [hparts, SplitResult.ofChars] at hquery
    rw [List.append_assoc, List.cons_append] at hback
    rw [hback] at hquery
    have hpairs : pairs = [] := (CPythonUrls.parsed_encoded urls pairs).symm.trans hquery
    exact absurd (CPythonUrls.encoded_eq_nil_iff.mpr hpairs) hencoded

/-- The text of `normalize_detail_url` is stripped. -/
theorem normalizeDetailUrl_ends (urls : CPythonUrls python) (texts : CPythonTexts python)
    (hscheme : Urllib.LowerScheme scheme) (htext : text.toList = scheme ++ ':' :: rest) {result : Option String}
    (hresult : normalizeDetailUrl python (some (.str text)) = .ok result) :
    ∃ stored, result = some stored ∧ Stripped stored ∧ stored ≠ "" := by
  have hstrip : (strip text).toList = scheme ++ ':' :: Urllib.rstrip rest := by
    rw [strip, String.toList_ofList, htext, hscheme.stripChars]
  have hasStr : Value.asStr (some (.str text)) = some (strip text) := by
    change asStr (some text) = _
    rw [asStr_some, if_neg]
    intro hempty
    rw [hempty] at hstrip
    simp at hstrip
  unfold normalizeDetailUrl at hresult
  rw [hasStr] at hresult
  obtain ⟨cleaned, hcleaned, hresult⟩ := Jobs.bind_eq_ok.mp hresult
  obtain ⟨stored, hstored, hresult⟩ := Jobs.bind_eq_ok.mp hresult
  obtain ⟨front, pairs, hfront, hcleanedText⟩ := dropIrrelevantQueryParams_eq_ok urls texts hscheme hstrip hcleaned
  obtain ⟨split, hsplit, -⟩ := Jobs.bind_eq_ok.mp hstored
  have hcleanedStrip : ∃ tail, (strip cleaned).toList = scheme ++ ':' :: tail := by
    rw [strip, String.toList_ofList, hcleanedText, hscheme.stripChars]
    exact ⟨_, rfl⟩
  obtain ⟨tail, htail⟩ := hcleanedStrip
  have hsplitScheme := (urlsplit_of_scheme urls hscheme htail hsplit).2
  have hne : split.scheme ≠ "" := by
    rw [← String.toList_eq_nil_iff.ne, hsplitScheme]
    exact hscheme.ne_nil
  obtain ⟨written, behind, hwritten, hwrittenText, hends⟩ := normalizeUrl_ends urls texts hsplit hne
  rw [hwritten] at hstored
  obtain rfl := Except.ok.inj hstored
  refine ⟨written, (Except.ok.inj hresult).symm, ?_, ?_⟩
  · exact hends.mpr (pathEnds_of_written urls hscheme hfront hcleanedText hsplit)
  · rintro rfl
    simp at hwrittenText

end Ends

end TenderPhase1.Crawler
