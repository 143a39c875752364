import TenderPhase1.Crawler.UrlPasses
import TenderPhase1.Crawler.Instances

/-!
# An instance of `urllib.parse`

The functions of `urllib.parse` for hosts without brackets, with `str.lower` on the
letters of ASCII. They replace those of any other instance of the standard library.
-/

namespace TenderPhase1.Crawler

open PyText

def withoutBrackets (netloc : String) : Bool := netloc.toList.all fun c ↦ c ≠ '[' ∧ c ≠ ']'

def urllibSplit (url : String) : Except PyError SplitResult :=
  if withoutBrackets (String.ofList (Urllib.urlsplit url.toList).netloc) then
    .ok (SplitResult.ofChars (Urllib.urlsplit url.toList))
  else .error .valueError

def urllibUnquote (text : String) : String := String.ofList (Urllib.unquote text.toList)

def urllibPython (python : Python) : Python :=
  { python with
    lower := lower
    lower_true := lower_True
    urlsplit := urllibSplit
    urlunsplit := fun split ↦
      if split.netloc = "" then python.urlunsplit split else String.ofList (Urllib.urlunsplit split.chars)
    parseQsl := fun query ↦ Urllib.parseQsl (fun chars ↦ urllibUnquote (String.ofList chars)) query.toList
    urlencode := fun pairs ↦ String.ofList (Urllib.urlencode (pairs.map fun pair ↦ (pair.1.toList, pair.2.toList)))
    unquote := urllibUnquote }

variable (python : Python)

theorem urllibPython_lower : (urllibPython python).lower = lower := by
  rw [urllibPython]

theorem urllibPython_urlsplit : (urllibPython python).urlsplit = urllibSplit := by
  rw [urllibPython]

theorem urllibPython_unquote : (urllibPython python).unquote = urllibUnquote := by
  rw [urllibPython]

/-! ## Lower case of ASCII -/

/-- A character is its lower-case form, or both are letters. -/
theorem toLower_cases (c : Char) :
    c.toLower = c ∨ c.isAlpha = true ∧ c.toLower.isAlpha = true ∧ c.toLower.toLower = c.toLower := by
  by_cases hascii : c.toNat < 128
  · have hcases : ∀ n < 128, (Char.ofNat n).toLower = Char.ofNat n ∨ (Char.ofNat n).isAlpha = true ∧
        (Char.ofNat n).toLower.isAlpha = true ∧ (Char.ofNat n).toLower.toLower = (Char.ofNat n).toLower := by decide
    have hcase := hcases c.toNat hascii
    rwa [Char.ofNat_toNat] at hcase
  · left
    refine dif_neg fun hupper ↦ hascii ?_
    have hle : c.toNat ≤ 90 := hupper.2
    omega

theorem toLower_toLower (c : Char) : c.toLower.toLower = c.toLower := by
  rcases toLower_cases c with hsame | ⟨-, -, hkept⟩
  · rw [hsame, hsame]
  · exact hkept

theorem isSpace_toLower (c : Char) : isSpace c.toLower = isSpace c := by
  rcases toLower_cases c with hsame | ⟨hletter, hlower, -⟩
  · rw [hsame]
  · rw [Urllib.isSpace_of_isAlpha hletter, Urllib.isSpace_of_isAlpha hlower]

/-- Lower case brings in letters only. -/
theorem mem_lower {text : String} {c : Char} (hc : c ∈ (lower text).toList) : c ∈ text.toList ∨ c.isAlpha = true := by
  rw [lower, String.toList_ofList] at hc
  obtain ⟨source, hsource, rfl⟩ := List.mem_map.mp hc
  rcases toLower_cases source with hsame | ⟨-, hlower, -⟩
  · rw [hsame]
    exact .inl hsource
  · exact .inr hlower

theorem rstrip_map_toLower (chars : List Char) :
    Urllib.rstrip (chars.map Char.toLower) = (Urllib.rstrip chars).map Char.toLower := by
  induction chars using List.reverseRecOn with
  | nil => rfl
  | append_singleton chars last ih =>
    unfold Urllib.rstrip at ih ⊢
    rw [List.map_append, List.map_singleton, List.rdropWhile_concat, List.rdropWhile_concat, isSpace_toLower, ih]
    split
    · rfl
    · rw [List.map_append, List.map_singleton]

/-! ## The equations of the module -/

theorem endsNetloc_of_isAlpha {c : Char} (hc : c.isAlpha = true) :
    Urllib.endsNetloc c = false ∧ Urllib.isUnsafe c = false := by
  constructor
  · by_contra hends
    rw [Bool.not_eq_false] at hends
    have hcases : c = '/' ∨ c = '?' ∨ c = '#' := by simpa [Urllib.endsNetloc, or_assoc] using hends
    rcases hcases with rfl | rfl | rfl <;> exact absurd hc (by decide)
  · by_contra hremoved
    rw [Bool.not_eq_false] at hremoved
    have hspace := Urllib.isSpace_of_isAlpha hc
    rw [Urllib.isSpace_of_isUnsafe hremoved] at hspace
    cases hspace

section Urls

theorem urllib_urlsplit (url : String) : (urllibPython python).urlsplit url =
    if withoutBrackets (String.ofList (Urllib.urlsplit url.toList).netloc) then
      .ok (SplitResult.ofChars (Urllib.urlsplit url.toList))
    else .error .valueError := by
  rw [urllibPython_urlsplit, urllibSplit]

theorem urllib_urlunsplit (split : SplitResult) (hnetloc : split.netloc ≠ "") :
    (urllibPython python).urlunsplit split = String.ofList (Urllib.urlunsplit split.chars) :=
  if_neg hnetloc

theorem urllib_parseQsl (query : String) (keepBlankValues : Bool) :
    (urllibPython python).parseQsl query keepBlankValues =
      Urllib.parseQsl (fun chars ↦ (urllibPython python).unquote (String.ofList chars)) query.toList keepBlankValues := rfl

theorem urllib_urlencode (pairs : List (String × String)) : (urllibPython python).urlencode pairs =
    String.ofList (Urllib.urlencode (pairs.map fun pair ↦ (pair.1.toList, pair.2.toList))) := rfl

theorem urllib_unquote_quote (text : String) :
    (urllibPython python).unquote (String.ofList (Urllib.quote text.toList)) = text := by
  rw [urllibPython_unquote, urllibUnquote, String.toList_ofList, Urllib.unquote_quote, String.ofList_toList]

theorem urllib_lower_lower (text : String) :
    (urllibPython python).lower ((urllibPython python).lower text) = (urllibPython python).lower text := by
  rw [urllibPython_lower]
  unfold lower
  rw [String.toList_ofList, List.map_map]
  exact congrArg String.ofList (List.map_congr_left fun c _ ↦ toLower_toLower c)

theorem urllib_lower_ascii (text : String) (htext : text.toList.all Char.isLower) :
    (urllibPython python).lower text = text := by
  have hkept : text.toList.map Char.toLower = text.toList.map id := by
    apply List.map_congr_left
    intro c hc
    have hlower := List.all_eq_true.mp htext c hc
    refine dif_neg fun hupper ↦ ?_
    have hcases : (decide ('a'.val ≤ c.val) && decide (c.val ≤ 'z'.val)) = true := hlower
    have hbounds : 97 ≤ c.val ∧ c.val ≤ 122 := by simpa using hcases
    have hcode : 97 ≤ c.toNat := hbounds.1
    have hle : c.toNat ≤ 90 := hupper.2
    omega
  rw [urllibPython_lower, lower, hkept, List.map_id, String.ofList_toList]

theorem urllib_lower_eq_empty (text : String) (hempty : (urllibPython python).lower text = "") : text = "" := by
  have hnil := String.ofList_eq_empty_iff.mp hempty
  exact String.toList_eq_nil_iff.mp (List.map_eq_nil_iff.mp hnil)

theorem urllib_lower_rstrip (text : String) :
    (urllibPython python).lower (rstripText text) = rstripText ((urllibPython python).lower text) := by
  rw [urllibPython_lower]
  unfold lower rstripText
  rw [String.toList_ofList, String.toList_ofList, rstrip_map_toLower]

theorem urllib_mem_lower (text : String) (c : Char) (hc : c ∈ ((urllibPython python).lower text).toList)
    (hdelimiter : Urllib.endsNetloc c ∨ Urllib.isUnsafe c) : c ∈ text.toList := by
  rcases mem_lower hc with hmem | hletter
  · exact hmem
  · obtain ⟨hends, hremoved⟩ := endsNetloc_of_isAlpha hletter
    rw [hends, hremoved] at hdelimiter
    exact absurd hdelimiter (by decide)

theorem urllib_accepts_lower (netloc : String) (haccepted : withoutBrackets netloc) :
    withoutBrackets ((urllibPython python).lower netloc) := by
  apply List.all_eq_true.mpr
  intro c hc
  rcases mem_lower hc with hmem | hletter
  · exact List.all_eq_true.mp haccepted c hmem
  · apply decide_eq_true
    constructor <;> rintro rfl <;> exact absurd hletter (by decide)

theorem urllib_accepts_rstrip (netloc : String) (haccepted : withoutBrackets netloc) :
    withoutBrackets (rstripText netloc) := by
  apply List.all_eq_true.mpr
  intro c hc
  rw [rstripText, String.toList_ofList] at hc
  exact List.all_eq_true.mp haccepted c (Urllib.mem_of_mem_rstrip hc)

def urllibUrls : CPythonUrls (urllibPython python) where
  accepts := withoutBrackets
  urlsplit := urllib_urlsplit python
  urlunsplit := urllib_urlunsplit python
  parseQsl := urllib_parseQsl python
  urlencode := urllib_urlencode python
  unquote_quote := urllib_unquote_quote python
  lower_lower := urllib_lower_lower python
  lower_ascii := urllib_lower_ascii python
  lower_eq_empty := urllib_lower_eq_empty python
  lower_rstrip := urllib_lower_rstrip python
  mem_lower := urllib_mem_lower python
  accepts_lower := urllib_accepts_lower python
  accepts_rstrip := urllib_accepts_rstrip

end Urls

end TenderPhase1.Crawler
