import TenderPhase1.Foundation.PyText
import Mathlib.Data.List.DropRight

/-!
# Splitting URLs

`urlsplit` of `urllib.parse` as it works on the characters of a text: what it removes
first, and the delimiters at which it cuts. An address is a text with a scheme and a
network location together with its parts; splitting reads the parts back, and every
text that splits with a location is the text of an address. White space that is cut
off at the end comes out of the last part.
-/

namespace TenderPhase1.Urllib

open PyText

/-! ## `urlsplit` -/

/-- `_WHATWG_C0_CONTROL_OR_SPACE` -/
def isC0OrSpace (c : Char) : Bool := c.toNat ≤ 0x20

/-- `_UNSAFE_URL_BYTES_TO_REMOVE` -/
def isUnsafe (c : Char) : Bool := c = '\t' || c = '\r' || c = '\n'

/-- `scheme_chars` -/
def isSchemeChar (c : Char) : Bool := c.isAlphanum || c = '+' || c = '-' || c = '.'

/-- The delimiters of `_splitnetloc` -/
def endsNetloc (c : Char) : Bool := c = '/' || c = '?' || c = '#'

/-- `text.partition(sep)` without the separator -/
def cutAt (sep : Char) (chars : List Char) : List Char × List Char :=
  (chars.takeWhile (· ≠ sep), (chars.dropWhile (· ≠ sep)).tail)

structure Split where
  scheme : List Char
  netloc : List Char
  path : List Char
  query : List Char
  fragment : List Char
  deriving DecidableEq

/-- What is left of a text when the characters that are no part of a URL are removed. -/
def readable (url : List Char) : List Char := (url.dropWhile isC0OrSpace).filter (!isUnsafe ·)

def splitScheme (url : List Char) : List Char × List Char :=
  let (front, rest) := cutAt ':' url
  if url.contains ':' ∧ front.head?.any Char.isAlpha ∧ front.all isSchemeChar then (front.map Char.toLower, rest)
  else ([], url)

/-- `_splitnetloc`, where two slashes stand first -/
def splitNetloc (url : List Char) : List Char × List Char :=
  match url with
  | '/' :: '/' :: rest => (rest.takeWhile (!endsNetloc ·), rest.dropWhile (!endsNetloc ·))
  | _ => ([], url)

/-- The parts of a text whose characters are all part of the URL. -/
def splitReadable (url : List Char) : Split :=
  let (scheme, rest) := splitScheme url
  let (netloc, rest) := splitNetloc rest
  let (rest, fragment) := cutAt '#' rest
  let (path, query) := cutAt '?' rest
  ⟨scheme, netloc, path, query, fragment⟩

/-- `urlsplit`, without its check of the location -/
def urlsplit (url : List Char) : Split := splitReadable (readable url)

/-- `urlunsplit`, where there is a location -/
def urlunsplit (split : Split) : List Char :=
  (if split.scheme = [] then [] else split.scheme ++ [':']) ++ ['/', '/'] ++ split.netloc ++
    (if split.path = [] ∨ split.path.head? = some '/' then split.path else '/' :: split.path) ++
    (if split.query = [] then [] else '?' :: split.query) ++
    if split.fragment = [] then [] else '#' :: split.fragment

/-! ## Cutting a text -/

variable {sep c : Char} {chars front rest : List Char}

theorem cutAt_append_cons (hfront : sep ∉ front) : cutAt sep (front ++ sep :: rest) = (front, rest) := by
  have hkept : ∀ c ∈ front, decide (c ≠ sep) = true := by
    intro c hc
    exact decide_eq_true (ne_of_mem_of_not_mem hc hfront)
  unfold cutAt
  rw [List.takeWhile_append_of_pos hkept, List.dropWhile_append_of_pos hkept, List.takeWhile_cons, List.dropWhile_cons]
  simp

theorem cutAt_of_notMem (h : sep ∉ chars) : cutAt sep chars = (chars, []) := by
  have hkept : ∀ c ∈ chars, decide (c ≠ sep) = true := by
    intro c hc
    exact decide_eq_true (ne_of_mem_of_not_mem hc h)
  unfold cutAt
  rw [List.takeWhile_eq_self_iff.mpr hkept, List.dropWhile_eq_nil_iff.mpr hkept, List.tail_nil]

theorem notMem_cutAt (sep : Char) (chars : List Char) : sep ∉ (cutAt sep chars).1 := by
  intro hmem
  have hne := List.mem_takeWhile_imp hmem
  simp at hne

/-- A cut text is the two parts with the separator between them. -/
theorem eq_append_cutAt (hmem : sep ∈ chars) : chars = (cutAt sep chars).1 ++ sep :: (cutAt sep chars).2 := by
  have hne : chars.dropWhile (· ≠ sep) ≠ [] := by
    intro hnil
    have hall := List.dropWhile_eq_nil_iff.mp hnil sep hmem
    simp at hall
  have hhead := List.head_dropWhile_not (· ≠ sep) hne
  unfold cutAt
  calc chars = chars.takeWhile (· ≠ sep) ++ chars.dropWhile (· ≠ sep) := List.takeWhile_append_dropWhile.symm
    _ = chars.takeWhile (· ≠ sep) ++ (chars.dropWhile (· ≠ sep)).head hne :: (chars.dropWhile (· ≠ sep)).tail := by
      rw [List.cons_head_tail]
    _ = _ := by
      rw [show (chars.dropWhile (· ≠ sep)).head hne = sep by simpa using hhead]

/-! ## Addresses -/

/-- A part of a text after its mark, if the mark is there. -/
def marked (mark : Char) : Option (List Char) → List Char
  | none => []
  | some chars => mark :: chars

/-- The parts of a text with a scheme and a network location. -/
structure Address where
  scheme : List Char
  netloc : List Char
  path : List Char
  query : Option (List Char)
  fragment : Option (List Char)
  scheme_head : scheme.head?.any Char.isAlpha
  scheme_chars : scheme.all isSchemeChar
  netloc_chars : ∀ c ∈ netloc, endsNetloc c = false
  path_head : path = [] ∨ path.head? = some '/'
  path_chars : ∀ c ∈ path, c ≠ '?' ∧ c ≠ '#'
  query_chars : '#' ∉ query.getD []
  safe : ∀ c ∈ netloc ++ path ++ query.getD [] ++ fragment.getD [], isUnsafe c = false

namespace Address

variable (address : Address)

def afterNetloc : List Char := address.path ++ marked '?' address.query ++ marked '#' address.fragment

def text : List Char := address.scheme ++ ':' :: '/' :: '/' :: (address.netloc ++ address.afterNetloc)

def split : Split :=
  ⟨address.scheme.map Char.toLower, address.netloc, address.path, address.query.getD [],
    address.fragment.getD []⟩

theorem head?_afterNetloc : address.afterNetloc = [] ∨ ∃ c rest, address.afterNetloc = c :: rest ∧ endsNetloc c = true := by
  unfold afterNetloc
  rcases address.path_head with hpath | hpath
  · rw [hpath]
    cases address.query with
    | some query => exact .inr ⟨'?', _, rfl, by decide⟩
    | none =>
      cases address.fragment with
      | some fragment => exact .inr ⟨'#', _, rfl, by decide⟩
      | none => exact .inl rfl
  · obtain ⟨rest, hrest⟩ := List.head?_eq_some_iff.mp hpath
    rw [hrest]
    exact .inr ⟨'/', _, rfl, by decide⟩

theorem splitNetloc_text : splitNetloc ('/' :: '/' :: (address.netloc ++ address.afterNetloc)) =
    (address.netloc, address.afterNetloc) := by
  have hkept : ∀ c ∈ address.netloc, (!endsNetloc c) = true := by
    intro c hc
    rw [address.netloc_chars c hc]
    rfl
  rw [splitNetloc, List.takeWhile_append_of_pos hkept, List.dropWhile_append_of_pos hkept]
  rcases address.head?_afterNetloc with hnil | ⟨c, rest, hcons, hc⟩
  · rw [hnil]
    simp
  · rw [hcons]
    simp [hc]

/-- The fragment begins at the first number sign after the location. -/
theorem cutAt_fragment : cutAt '#' address.afterNetloc =
    (address.path ++ marked '?' address.query, address.fragment.getD []) := by
  have hfront : '#' ∉ address.path ++ marked '?' address.query := by
    intro hmem
    rcases List.mem_append.mp hmem with hpath | hquery
    · exact (address.path_chars '#' hpath).2 rfl
    · have hchars := address.query_chars
      cases h : address.query with
      | none =>
        rw [h] at hquery
        exact absurd hquery List.not_mem_nil
      | some query =>
        rw [h] at hquery hchars
        rcases List.mem_cons.mp hquery with hmark | hmem
        · exact absurd hmark (by decide)
        · exact hchars hmem
  unfold afterNetloc
  cases address.fragment with
  | none => rw [marked, List.append_nil, cutAt_of_notMem hfront, Option.getD_none]
  | some fragment => rw [marked, cutAt_append_cons hfront, Option.getD_some]

theorem cutAt_query : cutAt '?' (address.path ++ marked '?' address.query) =
    (address.path, address.query.getD []) := by
  have hpath : '?' ∉ address.path := fun hmem ↦ (address.path_chars '?' hmem).1 rfl
  cases address.query with
  | none => rw [marked, List.append_nil, cutAt_of_notMem hpath, Option.getD_none]
  | some query => rw [marked, cutAt_append_cons hpath, Option.getD_some]

theorem notMem_scheme {c : Char} (hc : isSchemeChar c = false) : c ∉ address.scheme := by
  intro hmem
  have hchar := List.all_eq_true.mp address.scheme_chars c hmem
  rw [hc] at hchar
  cases hchar

theorem splitScheme_text : splitScheme address.text =
    (address.scheme.map Char.toLower, '/' :: '/' :: (address.netloc ++ address.afterNetloc)) := by
  have hcut : cutAt ':' address.text = (address.scheme, '/' :: '/' :: (address.netloc ++ address.afterNetloc)) :=
    cutAt_append_cons (address.notMem_scheme (by decide))
  have hcolon : address.text.contains ':' = true := by simp [text]
  unfold splitScheme
  rw [hcut]
  exact if_pos ⟨hcolon, address.scheme_head, address.scheme_chars⟩

/-- Splitting reads the parts of an address back. -/
theorem splitReadable_text : splitReadable address.text = address.split := by
  unfold splitReadable
  rw [address.splitScheme_text]
  dsimp only
  rw [address.splitNetloc_text]
  dsimp only
  rw [address.cutAt_fragment]
  dsimp only
  rw [address.cutAt_query]
  rfl

theorem isUnsafe_of_isSchemeChar {c : Char} (hc : isSchemeChar c = true) : isUnsafe c = false := by
  by_contra h
  rw [Bool.not_eq_false] at h
  have hcases : c = '\t' ∨ c = '\r' ∨ c = '\n' := by simpa [isUnsafe, or_assoc] using h
  rcases hcases with rfl | rfl | rfl <;> exact absurd hc (by decide)

/-- The text of an address begins with a letter. -/
theorem text_eq_cons : ∃ c rest, address.text = c :: rest ∧ c.isAlpha = true := by
  have hhead := address.scheme_head
  unfold text
  cases hscheme : address.scheme with
  | nil =>
    rw [hscheme] at hhead
    cases hhead
  | cons c rest =>
    rw [hscheme] at hhead
    exact ⟨c, _, rfl, hhead⟩

end Address

theorem toNat_of_isAlpha {c : Char} (hc : c.isAlpha = true) :
    0x41 ≤ c.toNat ∧ c.toNat ≤ 0x5A ∨ 0x61 ≤ c.toNat ∧ c.toNat ≤ 0x7A := by
  have hcases : (decide ('A'.val ≤ c.val ∧ c.val ≤ 'Z'.val) ||
      (decide ('a'.val ≤ c.val) && decide (c.val ≤ 'z'.val))) = true := hc
  simp only [Bool.or_eq_true, Bool.and_eq_true, decide_eq_true_eq, UInt32.le_iff_toNat_le] at hcases
  exact hcases

theorem isC0OrSpace_of_isAlpha {c : Char} (hc : c.isAlpha = true) : isC0OrSpace c = false := by
  have hcode := toNat_of_isAlpha hc
  exact decide_eq_false (by omega)

theorem isSpace_of_isAlpha {c : Char} (hc : c.isAlpha = true) : isSpace c = false := by
  have hcode := toNat_of_isAlpha hc
  simp only [isSpace, Bool.or_eq_false_iff, Bool.and_eq_false_iff, decide_eq_false_iff_not]
  omega

namespace Address

variable (address : Address)

/-- Nothing is removed from the text of an address. -/
theorem readable_text : readable address.text = address.text := by
  have hsafe : ∀ c ∈ address.text, (!isUnsafe c) = true := by
    intro c hc
    have hpart : c ∈ address.scheme ∨ c ∈ [':', '/', '?', '#'] ∨
        c ∈ address.netloc ++ address.path ++ address.query.getD [] ++ address.fragment.getD [] := by
      unfold text afterNetloc at hc
      cases hquery : address.query <;> cases hfragment : address.fragment <;>
        simp [hquery, hfragment, marked] at hc ⊢ <;> grind
    rw [Bool.not_eq_true']
    rcases hpart with hscheme | hmark | hrest
    · exact isUnsafe_of_isSchemeChar (List.all_eq_true.mp address.scheme_chars c hscheme)
    · exact (by decide : ∀ c ∈ [':', '/', '?', '#'], isUnsafe c = false) c hmark
    · exact address.safe c hrest
  obtain ⟨c, rest, htext, hc⟩ := address.text_eq_cons
  rw [readable, List.filter_eq_self.mpr]
  · rw [htext, List.dropWhile_cons, isC0OrSpace_of_isAlpha hc]
    rfl
  · intro c hc
    exact hsafe c (List.dropWhile_sublist _ |>.mem hc)

/-- `urlsplit` of the text of an address -/
theorem urlsplit_text : urlsplit address.text = address.split := by
  rw [urlsplit, address.readable_text, address.splitReadable_text]

end Address

/-- Every text has a part before the separator, and one behind it if it is there. -/
theorem exists_marked (sep : Char) (chars : List Char) :
    ∃ front behind, chars = front ++ marked sep behind ∧ sep ∉ front := by
  by_cases hmem : sep ∈ chars
  · exact ⟨(cutAt sep chars).1, some (cutAt sep chars).2, eq_append_cutAt hmem, notMem_cutAt sep chars⟩
  · exact ⟨chars, none, (List.append_nil chars).symm, hmem⟩

/-- Every text is a path with a query and a fragment, where it has them. -/
theorem exists_parts (chars : List Char) : ∃ path query fragment,
    chars = path ++ marked '?' query ++ marked '#' fragment ∧ (∀ c ∈ path, c ≠ '?' ∧ c ≠ '#') ∧
      '#' ∉ query.getD [] := by
  obtain ⟨front, fragment, hchars, hfront⟩ := exists_marked '#' chars
  obtain ⟨path, query, hparts, hpath⟩ := exists_marked '?' front
  refine ⟨path, query, fragment, by rw [hchars, hparts], ?_, ?_⟩
  · intro c hc
    refine ⟨ne_of_mem_of_not_mem hc hpath, ne_of_mem_of_not_mem ?_ hfront⟩
    rw [hparts]
    exact List.mem_append_left _ hc
  · intro hmem
    cases query with
    | none => exact absurd hmem List.not_mem_nil
    | some query =>
      apply hfront
      rw [hparts]
      exact List.mem_append_right _ (List.mem_cons_of_mem _ hmem)

/-- A text that splits with a scheme begins with it. -/
theorem eq_scheme_append (url : List Char) (h : (splitScheme url).1 ≠ []) :
    ∃ front, url = front ++ ':' :: (splitScheme url).2 ∧ front.head?.any Char.isAlpha ∧ front.all isSchemeChar := by
  unfold splitScheme at h ⊢
  dsimp only at h ⊢
  by_cases hfront : url.contains ':' ∧ (cutAt ':' url).1.head?.any Char.isAlpha ∧ (cutAt ':' url).1.all isSchemeChar
  · rw [if_pos hfront]
    exact ⟨(cutAt ':' url).1, eq_append_cutAt (by simpa using hfront.1), hfront.2⟩
  · rw [if_neg hfront] at h
    exact absurd rfl h

/-- A text that splits with a location has it behind two slashes. -/
theorem eq_netloc_append (url : List Char) (h : (splitNetloc url).1 ≠ []) :
    url = '/' :: '/' :: ((splitNetloc url).1 ++ (splitNetloc url).2) ∧
      (∀ c ∈ (splitNetloc url).1, endsNetloc c = false) ∧
      ((splitNetloc url).2 = [] ∨ ∃ c rest, (splitNetloc url).2 = c :: rest ∧ endsNetloc c = true) := by
  unfold splitNetloc at h ⊢
  split at h
  · rename_i rest
    dsimp only
    refine ⟨by rw [List.takeWhile_append_dropWhile], ?_, ?_⟩
    · intro c hc
      simpa using List.mem_takeWhile_imp hc
    · cases hrest : rest.dropWhile (!endsNetloc ·) with
      | nil => exact .inl rfl
      | cons c tail =>
        have hne : rest.dropWhile (!endsNetloc ·) ≠ [] := by
          rw [hrest]
          exact List.cons_ne_nil _ _
        have hhead := List.head_dropWhile_not (!endsNetloc ·) hne
        simp only [hrest, List.head_cons] at hhead
        exact .inr ⟨c, tail, rfl, by simpa using hhead⟩
  · exact absurd rfl h

/-- Every text of safe characters that splits with a scheme and a location is the text of an address. -/
theorem exists_address {url : List Char} (hsafe : ∀ c ∈ url, isUnsafe c = false)
    (hscheme : (splitReadable url).scheme ≠ []) (hnetloc : (splitReadable url).netloc ≠ []) :
    ∃ address : Address, address.text = url := by
  obtain ⟨scheme, hurl, hhead, hchars⟩ := eq_scheme_append url hscheme
  obtain ⟨hrest, hends, hafter⟩ := eq_netloc_append (splitScheme url).2 hnetloc
  generalize (splitNetloc (splitScheme url).2).1 = netloc at hrest hends
  generalize (splitNetloc (splitScheme url).2).2 = after at hrest hafter
  rw [hrest] at hurl
  obtain ⟨path, query, fragment, hparts, hpath, hquery⟩ := exists_parts after
  have htext : scheme ++ ':' :: '/' :: '/' :: (netloc ++ (path ++ marked '?' query ++ marked '#' fragment)) = url := by
    rw [hurl, hparts]
  refine ⟨{
    scheme := scheme
    netloc := netloc
    path := path
    query := query
    fragment := fragment
    scheme_head := hhead
    scheme_chars := hchars
    netloc_chars := hends
    path_head := ?_
    path_chars := hpath
    query_chars := hquery
    safe := ?_ }, htext⟩
  · cases path with
    | nil => exact .inl rfl
    | cons c rest =>
      obtain ⟨hquestion, hhash⟩ := hpath c List.mem_cons_self
      rcases hafter with hnil | ⟨first, tail, hcons, hfirst⟩
      · rw [hparts] at hnil
        cases hnil
      · obtain ⟨rfl, -⟩ := List.cons.inj (hcons.symm.trans hparts)
        have hslash : first = '/' := by simpa [endsNetloc, hquestion, hhash] using hfirst
        exact .inr (by rw [hslash, List.head?_cons])
  · intro c hc
    apply hsafe c
    rw [← htext]
    cases query <;> cases fragment <;> simp [marked] at hc ⊢ <;> grind

/-! ## Addresses from parts -/

theorem toNat_of_isSchemeChar {c : Char} (hc : isSchemeChar c = true) : c.toNat < 128 := by
  simp only [isSchemeChar, Char.isAlphanum, Char.isDigit, Bool.or_eq_true, Bool.and_eq_true, decide_eq_true_eq,
    UInt32.le_iff_toNat_le] at hc
  rcases hc with (((hletter | hdigit) | rfl) | rfl) | rfl
  · have hcode := toNat_of_isAlpha hletter
    omega
  · have hcode : c.toNat ≤ 57 := hdigit.2
    omega
  all_goals decide

/-- What holds of the lower-case form of every ASCII character holds of that of a scheme character. -/
theorem toLower_of_isSchemeChar {p : Char → Bool} {c : Char} (hc : isSchemeChar c = true)
    (h : ∀ n < 128, isSchemeChar (Char.ofNat n) = true → p (Char.ofNat n).toLower = true) : p c.toLower = true := by
  have hcase := h c.toNat (toNat_of_isSchemeChar hc)
  rw [Char.ofNat_toNat] at hcase
  exact hcase hc

/-- A location, a path that begins with a slash, and a query, without characters that belong elsewhere. -/
structure PlainParts (netloc path query : List Char) : Prop where
  netloc_chars : ∀ c ∈ netloc, endsNetloc c = false
  path_head : path = [] ∨ path.head? = some '/'
  path_chars : ∀ c ∈ path, c ≠ '?' ∧ c ≠ '#'
  query_chars : '#' ∉ query
  safe : ∀ c ∈ netloc ++ path ++ query, isUnsafe c = false

theorem getD_ite_eq_nil (query : List Char) : (if query = [] then none else some query).getD [] = query := by
  split
  · rename_i hnil
    rw [hnil, Option.getD_none]
  · rw [Option.getD_some]

/-- The address with other parts, its scheme in lower case, and no fragment. -/
def Address.rewritten (address : Address) {netloc path query : List Char} (parts : PlainParts netloc path query) :
    Address where
  scheme := address.scheme.map Char.toLower
  netloc := netloc
  path := path
  query := if query = [] then none else some query
  fragment := none
  scheme_head := by
    have hhead := address.scheme_head
    cases hscheme : address.scheme with
    | nil =>
      rw [hscheme] at hhead
      cases hhead
    | cons c rest =>
      rw [hscheme] at hhead
      have hletter : ∀ n < 128, (Char.ofNat n).isAlpha = true → (Char.ofNat n).toLower.isAlpha = true := by decide
      have hcode := toNat_of_isAlpha hhead
      have hc := hletter c.toNat (by omega)
      rw [Char.ofNat_toNat] at hc
      exact hc hhead
  scheme_chars := by
    rw [List.all_map, List.all_eq_true]
    intro c hc
    exact toLower_of_isSchemeChar (List.all_eq_true.mp address.scheme_chars c hc) (by decide)
  netloc_chars := parts.netloc_chars
  path_head := parts.path_head
  path_chars := parts.path_chars
  query_chars := by
    rw [getD_ite_eq_nil]
    exact parts.query_chars
  safe c hc := by
    rw [getD_ite_eq_nil, Option.getD_none, List.append_nil] at hc
    exact parts.safe c hc

namespace Address

variable (address : Address) {netloc path query : List Char} (parts : PlainParts netloc path query)

/-- `urlunsplit` writes the text of the address of its parts. -/
theorem urlunsplit_eq_text :
    urlunsplit ⟨address.scheme.map Char.toLower, netloc, path, query, []⟩ = (address.rewritten parts).text := by
  have hscheme : address.scheme.map Char.toLower ≠ [] := by
    intro hnil
    have hhead := address.scheme_head
    rw [List.map_eq_nil_iff.mp hnil] at hhead
    cases hhead
  have hpath := parts.path_head
  unfold urlunsplit text afterNetloc rewritten
  dsimp only
  rw [if_neg hscheme, if_pos hpath]
  by_cases hquery : query = []
  · simp [hquery, marked]
  · simp [hquery, marked]

theorem toLower_scheme (c : Char) (hc : c ∈ address.scheme) : c.toLower.toLower = c.toLower := by
  have hcase := toLower_of_isSchemeChar (p := fun c ↦ c.toLower = c)
    (List.all_eq_true.mp address.scheme_chars c hc) (by decide)
  exact of_decide_eq_true hcase

theorem split_rewritten : (address.rewritten parts).split =
    ⟨address.scheme.map Char.toLower, netloc, path, query, []⟩ := by
  have hscheme : (address.scheme.map Char.toLower).map Char.toLower = address.scheme.map Char.toLower := by
    rw [List.map_map]
    exact List.map_congr_left address.toLower_scheme
  unfold split rewritten
  dsimp only
  rw [getD_ite_eq_nil, hscheme, Option.getD_none]

end Address

/-! ## White space at the end -/

def rstrip (chars : List Char) : List Char := chars.rdropWhile isSpace

theorem stripChars_eq (chars : List Char) : stripChars chars = rstrip (chars.dropWhile isSpace) := rfl

theorem rstrip_append_cons {c : Char} (hc : isSpace c = false) (front rest : List Char) :
    rstrip (front ++ c :: rest) = front ++ c :: rstrip rest := by
  induction rest using List.reverseRecOn with
  | nil => exact List.rdropWhile_concat_neg _ _ _ (by simp [hc])
  | append_singleton rest last ih =>
    have hassoc : front ++ c :: (rest ++ [last]) = (front ++ c :: rest) ++ [last] := by simp
    unfold rstrip at ih ⊢
    by_cases hlast : isSpace last
    · rw [hassoc, List.rdropWhile_concat_pos _ _ _ hlast, List.rdropWhile_concat_pos _ _ _ hlast, ih]
    · rw [List.rdropWhile_concat_neg _ _ _ hlast, hassoc, List.rdropWhile_concat_neg _ _ _ hlast]

theorem mem_of_mem_rstrip {c : Char} {chars : List Char} (h : c ∈ rstrip chars) : c ∈ chars :=
  (List.rdropWhile_prefix isSpace chars).sublist.mem h

@[simp]
theorem rstrip_rstrip (chars : List Char) : rstrip (rstrip chars) = rstrip chars := List.rdropWhile_idempotent _ _

@[simp]
theorem rstrip_nil : rstrip [] = [] := rfl

theorem isSpace_of_isUnsafe {c : Char} (hc : isUnsafe c = true) : isSpace c = true := by
  have hcases : c = '\t' ∨ c = '\r' ∨ c = '\n' := by simpa [isUnsafe, or_assoc] using hc
  rcases hcases with rfl | rfl | rfl <;> decide

/-- The characters that are removed are white space, so it does not matter when they go. -/
theorem rstrip_filter (chars : List Char) :
    rstrip (chars.filter (!isUnsafe ·)) = (rstrip chars).filter (!isUnsafe ·) := by
  induction chars using List.reverseRecOn with
  | nil => rfl
  | append_singleton chars last ih =>
    unfold rstrip at ih ⊢
    rw [List.filter_append]
    by_cases hlast : isSpace last
    · rw [List.rdropWhile_concat_pos _ _ _ hlast, ← ih]
      cases hremoved : isUnsafe last with
      | true => simp [hremoved]
      | false =>
        rw [List.filter_singleton, hremoved]
        exact List.rdropWhile_concat_pos _ _ _ hlast
    · have hsafe : isUnsafe last = false := by
        by_contra h
        rw [Bool.not_eq_false] at h
        exact hlast (isSpace_of_isUnsafe h)
      rw [List.rdropWhile_concat_neg _ _ _ hlast, List.filter_append, List.filter_singleton, hsafe]
      exact List.rdropWhile_concat_neg _ _ _ hlast

/-- A path keeps its first slash. -/
theorem head?_rstrip {path : List Char} (h : path = [] ∨ path.head? = some '/') :
    rstrip path = [] ∨ (rstrip path).head? = some '/' := by
  rcases h with rfl | hslash
  · exact .inl rfl
  · obtain ⟨rest, rfl⟩ := List.head?_eq_some_iff.mp hslash
    rw [show rstrip ('/' :: rest) = '/' :: rstrip rest from rstrip_append_cons (by decide) [] rest]
    exact .inr rfl

namespace Address

variable (address : Address)

/-- The address without the white space at the end of its last part. -/
def trimmed : Address where
  scheme := address.scheme
  netloc :=
    if address.path = [] ∧ address.query = none ∧ address.fragment = none then rstrip address.netloc
    else address.netloc
  path := if address.query = none ∧ address.fragment = none then rstrip address.path else address.path
  query := if address.fragment = none then address.query.map rstrip else address.query
  fragment := address.fragment.map rstrip
  scheme_head := address.scheme_head
  scheme_chars := address.scheme_chars
  netloc_chars c hc := by
    apply address.netloc_chars c
    split at hc
    · exact mem_of_mem_rstrip hc
    · exact hc
  path_head := by
    split
    · exact head?_rstrip address.path_head
    · exact address.path_head
  path_chars c hc := by
    apply address.path_chars c
    split at hc
    · exact mem_of_mem_rstrip hc
    · exact hc
  query_chars := by
    intro hmem
    apply address.query_chars
    split at hmem
    · cases hquery : address.query with
      | none => simp [hquery] at hmem
      | some query =>
        rw [hquery] at hmem
        exact mem_of_mem_rstrip hmem
    · exact hmem
  safe c hc := by
    apply address.safe c
    cases hquery : address.query <;> cases hfragment : address.fragment <;> simp [hquery, hfragment] at hc ⊢ <;>
      grind [mem_of_mem_rstrip]

/-- White space at the end of the text is white space at the end of its last part. -/
theorem text_trimmed : address.trimmed.text = rstrip address.text := by
  have hhead (rest : List Char) : rstrip (address.scheme ++ ':' :: '/' :: '/' :: rest) =
      address.scheme ++ ':' :: '/' :: '/' :: rstrip rest := by
    calc _ = rstrip ((address.scheme ++ [':', '/']) ++ '/' :: rest) := by simp
      _ = (address.scheme ++ [':', '/']) ++ '/' :: rstrip rest := rstrip_append_cons (by decide) _ _
      _ = _ := by simp
  unfold text afterNetloc
  rw [hhead]
  unfold trimmed
  dsimp only
  cases hfragment : address.fragment with
  | some fragment =>
    have hlast := rstrip_append_cons (by decide : isSpace '#' = false)
      (address.netloc ++ address.path ++ marked '?' address.query) fragment
    simpa [marked, eq_comm] using hlast
  | none =>
    cases hquery : address.query with
    | some query =>
      have hlast := rstrip_append_cons (by decide : isSpace '?' = false) (address.netloc ++ address.path) query
      simpa [marked, eq_comm] using hlast
    | none =>
      rcases address.path_head with hpath | hpath
      · simp [marked, hpath]
      · obtain ⟨rest, hrest⟩ := List.head?_eq_some_iff.mp hpath
        have hlast := rstrip_append_cons (by decide : isSpace '/' = false) address.netloc rest
        have hpathEnd := rstrip_append_cons (by decide : isSpace '/' = false) [] rest
        rw [List.nil_append] at hpathEnd
        simp [marked, hrest, hlast, hpathEnd]

/-- Trimming an address of given parts takes the white space from the last of them. -/
theorem split_trimmed_rewritten {netloc path query : List Char} (parts : PlainParts netloc path query) :
    (address.rewritten parts).trimmed.split =
      ⟨address.scheme.map Char.toLower, if path = [] ∧ query = [] then rstrip netloc else netloc,
        if query = [] then rstrip path else path, rstrip query, []⟩ := by
  have hsplit := address.split_rewritten parts
  unfold split at hsplit ⊢
  obtain ⟨hscheme, -⟩ := Split.mk.inj hsplit
  unfold trimmed
  dsimp only
  rw [hscheme]
  unfold rewritten
  dsimp only
  by_cases hquery : query = []
  · simp [hquery]
  · simp [hquery]

end Address

theorem rstrip_append_spaces (chars : List Char) {spaces : List Char} (h : ∀ c ∈ spaces, isSpace c = true) :
    rstrip (chars ++ spaces) = rstrip chars := by
  induction spaces using List.reverseRecOn with
  | nil => rw [List.append_nil]
  | append_singleton spaces last ih =>
    have hlast : isSpace last = true := h last (List.mem_append_right _ (List.mem_singleton.mpr rfl))
    unfold rstrip at ih ⊢
    rw [← List.append_assoc, List.rdropWhile_concat_pos _ _ _ hlast]
    exact ih fun c hc ↦ h c (List.mem_append_left _ hc)

/-- White space around a text is stripped with the text's own. -/
theorem stripChars_surrounded {before after : List Char} (core : List Char) (hbefore : ∀ c ∈ before, isSpace c = true)
    (hafter : ∀ c ∈ after, isSpace c = true) : stripChars (before ++ core ++ after) = stripChars core := by
  rw [stripChars_eq, stripChars_eq, List.append_assoc, List.dropWhile_append_of_pos hbefore, List.dropWhile_append]
  split
  · rename_i hempty
    rw [List.isEmpty_iff.mp hempty, List.dropWhile_eq_nil_iff.mpr hafter]
  · exact rstrip_append_spaces _ hafter

theorem dropWhile_append_cons_neg {p : Char → Bool} {c : Char} (hc : p c = false) (front rest : List Char) :
    (front ++ c :: rest).dropWhile p = front.dropWhile p ++ c :: rest := by
  rw [List.dropWhile_append]
  split
  · rename_i hempty
    rw [List.isEmpty_iff.mp hempty, List.dropWhile_cons, hc]
    rfl
  · rfl

/-- A text that reads as an address reads as the trimmed address once it is stripped. -/
theorem readable_stripChars {url : List Char} {address : Address} (h : readable url = address.text) :
    readable (stripChars url) = address.trimmed.text := by
  obtain ⟨c, rest, htext, hc⟩ := address.text_eq_cons
  have hspace := isSpace_of_isAlpha hc
  have hcontrol := isC0OrSpace_of_isAlpha hc
  have hsafe : isUnsafe c = false := by
    by_contra hremoved
    rw [Bool.not_eq_false] at hremoved
    rw [isSpace_of_isUnsafe hremoved] at hspace
    cases hspace
  obtain ⟨body, hbody⟩ : ∃ body, url.dropWhile isC0OrSpace = c :: body := by
    cases hrest : url.dropWhile isC0OrSpace with
    | nil =>
      rw [readable, hrest, htext] at h
      cases h
    | cons first body =>
      have hfirst : isC0OrSpace first = false := by
        have hne : url.dropWhile isC0OrSpace ≠ [] := by simp [hrest]
        have hhead := List.head_dropWhile_not isC0OrSpace hne
        simpa only [hrest, List.head_cons] using hhead
      have hkept : isUnsafe first = false := by
        by_contra hremoved
        rw [Bool.not_eq_false] at hremoved
        have hcases : first = '\t' ∨ first = '\r' ∨ first = '\n' := by simpa [isUnsafe, or_assoc] using hremoved
        rcases hcases with rfl | rfl | rfl <;> exact absurd hfirst (by decide)
      rw [readable, hrest, List.filter_cons, hkept, htext] at h
      exact ⟨body, by rw [(List.cons.inj h).1]⟩
  have hurl : url = url.takeWhile isC0OrSpace ++ c :: body := by
    rw [← hbody, List.takeWhile_append_dropWhile]
  have hlead : ∀ d ∈ (url.takeWhile isC0OrSpace).dropWhile isSpace, isC0OrSpace d = true := by
    intro d hd
    exact List.mem_takeWhile_imp ((List.dropWhile_sublist _).mem hd)
  calc readable (stripChars url)
      = readable ((url.takeWhile isC0OrSpace).dropWhile isSpace ++ c :: rstrip body) := by
        rw [stripChars_eq, ← rstrip_append_cons hspace, ← dropWhile_append_cons_neg hspace, ← hurl]
    _ = (c :: rstrip body).filter (!isUnsafe ·) := by
        rw [readable, List.dropWhile_append_of_pos hlead, List.dropWhile_cons, hcontrol]
        rfl
    _ = rstrip ((c :: body).filter (!isUnsafe ·)) := by
        rw [rstrip_filter, show rstrip (c :: body) = c :: rstrip body from rstrip_append_cons hspace [] body]
    _ = rstrip address.text := by rw [← hbody, ← h, readable]
    _ = address.trimmed.text := address.text_trimmed.symm

end TenderPhase1.Urllib
