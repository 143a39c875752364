import TenderPhase1.Foundation.StrippedTexts

/-!
# The parts of any URL

What `urlsplit` makes of a text that need not have a network location. A text that
begins with a scheme keeps it. The path and the query are cut from the rest of the
text, so a text without a query ends as its path does, and a query that was written
behind its mark is read back.
-/

namespace TenderPhase1.Urllib

open PyText

/-! ## Schemes -/

structure LowerScheme (scheme : List Char) : Prop where
  head : scheme.head?.any Char.isAlpha
  chars : scheme.all isSchemeChar
  lower : ∀ c ∈ scheme, c.toLower = c

section Schemes

variable {scheme rest url : List Char}

theorem LowerScheme.ne_nil (h : LowerScheme scheme) : scheme ≠ [] := by
  rintro rfl
  exact absurd h.head (by decide)

/-- A text that begins with a scheme begins with a letter. -/
theorem LowerScheme.exists_cons (h : LowerScheme scheme) : ∃ c tail, scheme = c :: tail ∧ c.isAlpha = true := by
  cases hscheme : scheme with
  | nil => exact absurd hscheme h.ne_nil
  | cons c tail =>
    have hhead := h.head
    rw [hscheme] at hhead
    exact ⟨c, tail, rfl, hhead⟩

theorem LowerScheme.notMem (h : LowerScheme scheme) {c : Char} (hc : isSchemeChar c = false) : c ∉ scheme := by
  intro hmem
  rw [List.all_eq_true.mp h.chars c hmem] at hc
  cases hc

theorem isSchemeChar_toLower {c : Char} (hc : isSchemeChar c = true) :
    isSchemeChar c.toLower = true ∧ c.toLower.toLower = c.toLower := by
  have hlower := toLower_of_isSchemeChar (p := fun c ↦ c.toLower = c) hc (by decide)
  exact ⟨toLower_of_isSchemeChar hc (by decide), of_decide_eq_true hlower⟩

theorem isAlpha_toLower {c : Char} (hc : c.isAlpha = true) : c.toLower.isAlpha = true := by
  have hletter : ∀ n < 128, (Char.ofNat n).isAlpha = true → (Char.ofNat n).toLower.isAlpha = true := by decide
  have hcode := toNat_of_isAlpha hc
  have hcase := hletter c.toNat (by omega)
  rw [Char.ofNat_toNat] at hcase
  exact hcase hc

/-- A scheme that is split off is in lower case. -/
theorem lowerScheme_splitScheme (h : (splitScheme url).1 ≠ []) : LowerScheme (splitScheme url).1 := by
  unfold splitScheme at h ⊢
  dsimp only at h ⊢
  generalize cutAt ':' url = cut at h ⊢
  split at h
  · rename_i hfront
    rw [if_pos hfront]
    obtain ⟨-, hhead, hchars⟩ := hfront
    refine ⟨?_, ?_, ?_⟩
    · cases hcut : cut.1 with
      | nil => simp [hcut] at hhead
      | cons c tail =>
        rw [hcut] at hhead
        exact isAlpha_toLower hhead
    · rw [List.all_map, List.all_eq_true]
      exact fun c hc ↦ (isSchemeChar_toLower (List.all_eq_true.mp hchars c hc)).1
    · intro c hc
      obtain ⟨source, hsource, rfl⟩ := List.mem_map.mp hc
      exact (isSchemeChar_toLower (List.all_eq_true.mp hchars source hsource)).2
  · exact absurd rfl h

theorem LowerScheme.splitScheme (h : LowerScheme scheme) : splitScheme (scheme ++ ':' :: rest) = (scheme, rest) := by
  have hcut : cutAt ':' (scheme ++ ':' :: rest) = (scheme, rest) := cutAt_append_cons (h.notMem (by decide))
  have hcolon : (scheme ++ ':' :: rest).contains ':' = true := by simp
  have hlower : scheme.map Char.toLower = scheme := by
    calc scheme.map Char.toLower = scheme.map id := List.map_congr_left h.lower
      _ = scheme := List.map_id scheme
  unfold Urllib.splitScheme
  rw [hcut]
  dsimp only
  rw [if_pos ⟨hcolon, h.head, h.chars⟩, hlower]

/-- Nothing is removed from a scheme. -/
theorem LowerScheme.readable (h : LowerScheme scheme) :
    readable (scheme ++ ':' :: rest) = scheme ++ ':' :: rest.filter (!isUnsafe ·) := by
  have hkept : scheme.filter (!isUnsafe ·) = scheme := by
    apply List.filter_eq_self.mpr
    intro c hc
    rw [Address.isUnsafe_of_isSchemeChar (List.all_eq_true.mp h.chars c hc)]
    rfl
  obtain ⟨c, tail, hcons, hletter⟩ := h.exists_cons
  have hfront : (scheme ++ ':' :: rest).dropWhile isC0OrSpace = scheme ++ ':' :: rest := by
    rw [hcons, List.cons_append, List.dropWhile_cons_of_neg]
    simp [isC0OrSpace_of_isAlpha hletter]
  rw [Urllib.readable, hfront, List.filter_append, hkept, List.filter_cons_of_pos (by decide)]

theorem LowerScheme.urlsplit_scheme (h : LowerScheme scheme) : (urlsplit (scheme ++ ':' :: rest)).scheme = scheme := by
  rw [urlsplit, h.readable]
  change (Urllib.splitScheme _).1 = scheme
  rw [h.splitScheme]

/-- A text that begins with a scheme is stripped if its end is. -/
theorem LowerScheme.stripChars (h : LowerScheme scheme) :
    stripChars (scheme ++ ':' :: rest) = scheme ++ ':' :: rstrip rest := by
  obtain ⟨c, tail, hcons, hletter⟩ := h.exists_cons
  have hfront : (scheme ++ ':' :: rest).dropWhile isSpace = scheme ++ ':' :: rest := by
    rw [hcons, List.cons_append, List.dropWhile_cons_of_neg]
    simp [isSpace_of_isAlpha hletter]
  rw [stripChars_eq, hfront, rstrip_append_cons (by decide)]

end Schemes

/-! ## Paths and queries -/

section Parts

variable {url front query : List Char}

/-- A text is what is read as the scheme and the location, and the rest, where the path and the query are. -/
theorem exists_consumed (url : List Char) : ∃ consumed rest, url = consumed ++ rest ∧
    (∀ c ∈ consumed, c ≠ '?' ∧ c ≠ '#') ∧ (splitReadable url).path = (cutAt '?' (cutAt '#' rest).1).1 ∧
      (splitReadable url).query = (cutAt '?' (cutAt '#' rest).1).2 := by
  have hscheme : ∃ front, url = front ++ (splitScheme url).2 ∧ ∀ c ∈ front, c ≠ '?' ∧ c ≠ '#' := by
    by_cases hnil : (splitScheme url).1 = []
    · have hrest : (splitScheme url).2 = url := by
        unfold splitScheme at hnil ⊢
        dsimp only at hnil ⊢
        split at hnil
        · rename_i hfront
          rw [List.map_eq_nil_iff.mp hnil] at hfront
          exact absurd hfront.2.1 (by decide)
        · rw [if_neg (by assumption)]
      exact ⟨[], hrest.symm, fun _ hc ↦ absurd hc List.not_mem_nil⟩
    · obtain ⟨front, hfront, -, hchars⟩ := eq_scheme_append url hnil
      refine ⟨front ++ [':'], by simpa using hfront, ?_⟩
      intro c hc
      rcases List.mem_append.mp hc with hmem | hcolon
      · have hchar := List.all_eq_true.mp hchars c hmem
        constructor <;> rintro rfl <;> exact absurd hchar (by decide)
      · rw [List.mem_singleton.mp hcolon]
        decide
  have hnetloc : ∃ front, (splitScheme url).2 = front ++ (splitNetloc (splitScheme url).2).2 ∧
      ∀ c ∈ front, c ≠ '?' ∧ c ≠ '#' := by
    by_cases hnil : (splitNetloc (splitScheme url).2).1 = []
    · generalize (splitScheme url).2 = after at hnil ⊢
      unfold splitNetloc at hnil ⊢
      split at hnil
      · rename_i rest
        dsimp only at hnil ⊢
        refine ⟨['/', '/'], ?_, by decide⟩
        have happend : rest.takeWhile (!endsNetloc ·) ++ rest.dropWhile (!endsNetloc ·) = rest :=
          List.takeWhile_append_dropWhile
        rw [hnil, List.nil_append] at happend
        rw [happend]
        rfl
      · exact ⟨[], rfl, fun _ hc ↦ absurd hc List.not_mem_nil⟩
    · obtain ⟨hafter, hchars, -⟩ := eq_netloc_append _ hnil
      refine ⟨'/' :: '/' :: (splitNetloc (splitScheme url).2).1, hafter, ?_⟩
      intro c hc
      rcases List.mem_cons.mp hc with rfl | hc
      · decide
      rcases List.mem_cons.mp hc with rfl | hc
      · decide
      · have hends := hchars c hc
        constructor <;> rintro rfl <;> exact absurd hends (by decide)
  obtain ⟨front, hfront, hfrontChars⟩ := hscheme
  obtain ⟨behind, hbehind, hbehindChars⟩ := hnetloc
  refine ⟨front ++ behind, (splitNetloc (splitScheme url).2).2, ?_, ?_, rfl, rfl⟩
  · rw [List.append_assoc, ← hbehind, ← hfront]
  · intro c hc
    rcases List.mem_append.mp hc with hmem | hmem
    · exact hfrontChars c hmem
    · exact hbehindChars c hmem

theorem path_splitReadable {c : Char} (hc : c ∈ (splitReadable url).path) : c ≠ '?' ∧ c ≠ '#' := by
  obtain ⟨consumed, rest, -, -, hpath, -⟩ := exists_consumed url
  rw [hpath] at hc
  refine ⟨ne_of_mem_of_not_mem hc (notMem_cutAt '?' _), ?_⟩
  exact ne_of_mem_of_not_mem ((List.takeWhile_sublist _).mem hc) (notMem_cutAt '#' rest)

theorem netloc_splitReadable {c : Char} (hc : c ∈ (splitReadable url).netloc) : c ≠ '?' ∧ c ≠ '#' := by
  have hne : (splitNetloc (splitScheme url).2).1 ≠ [] := List.ne_nil_of_mem hc
  have hends := (eq_netloc_append _ hne).2.1 c hc
  constructor <;> rintro rfl <;> exact absurd hends (by decide)

/-- A text without a query ends as its path does. -/
theorem splitReadable_of_plain (h : ∀ c ∈ url, c ≠ '?' ∧ c ≠ '#') (hend : rstrip url = url) :
    (splitReadable url).query = [] ∧ rstrip (splitReadable url).path = (splitReadable url).path := by
  obtain ⟨consumed, rest, hurl, -, hpath, hquery⟩ := exists_consumed url
  have hrest : ∀ c ∈ rest, c ≠ '?' ∧ c ≠ '#' := by
    intro c hc
    exact h c (hurl ▸ List.mem_append_right consumed hc)
  have hfragment : cutAt '#' rest = (rest, []) := cutAt_of_notMem fun hmem ↦ (hrest _ hmem).2 rfl
  have hcut : cutAt '?' rest = (rest, []) := cutAt_of_notMem fun hmem ↦ (hrest _ hmem).1 rfl
  rw [hfragment, hcut] at hpath hquery
  refine ⟨hquery, ?_⟩
  rw [hpath]
  by_cases hnil : rest = []
  · rw [hnil, rstrip_nil]
  · rw [hurl] at hend
    exact (rstrip_append_iff hnil).mp hend

/-- A query behind its mark is read back. -/
theorem query_splitReadable (hfront : ∀ c ∈ front, c ≠ '?' ∧ c ≠ '#') (hquery : '#' ∉ query) :
    (splitReadable (front ++ '?' :: query)).query = query := by
  obtain ⟨consumed, rest, hurl, hconsumed, -, hread⟩ := exists_consumed (front ++ '?' :: query)
  have hbehind : ∃ behind, rest = behind ++ '?' :: query ∧ ∀ c ∈ behind, c ≠ '?' ∧ c ≠ '#' := by
    rcases List.append_eq_append_iff.mp hurl with ⟨tail, htail, hrest⟩ | ⟨tail, htail, hrest⟩
    · cases tail with
      | nil => exact ⟨[], hrest.symm, fun _ hc ↦ absurd hc List.not_mem_nil⟩
      | cons c tail =>
        obtain ⟨rfl, -⟩ := List.cons.inj hrest
        refine absurd rfl (hconsumed '?' ?_).1
        rw [htail]
        exact List.mem_append_right _ List.mem_cons_self
    · exact ⟨tail, hrest, fun c hc ↦ hfront c (htail ▸ List.mem_append_right _ hc)⟩
  obtain ⟨behind, rfl, hchars⟩ := hbehind
  have hplain : '#' ∉ behind ++ '?' :: query := by
    intro hmem
    rcases List.mem_append.mp hmem with hmem | hmem
    · exact (hchars _ hmem).2 rfl
    · exact hquery (List.mem_of_ne_of_mem (by decide) hmem)
  have hmark : '?' ∉ behind := fun hmem ↦ (hchars _ hmem).1 rfl
  rw [hread, cutAt_of_notMem hplain, cutAt_append_cons hmark]

end Parts

end TenderPhase1.Urllib
