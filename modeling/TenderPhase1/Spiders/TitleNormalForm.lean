import TenderPhase1.Crawler.CollapsedTexts
import TenderPhase1.Spiders.TitleUnits

/-!
# The normal form of a title

`normalize_title_for_source_dedup` is idempotent, and does not see a suffix that is
appended to a title, where the end of the title is tidy: separators and business words,
and after them suffix words, each with separators and maybe a business word before it.
What stands before must not end in one of these words even without its blanks.
-/

namespace TenderPhase1.Spiders.GgzyGovCnDeal

open PyText Crawler SuffixCode

/-! ## Tidy ends -/

/-- Ends of titles that the two loops take off as a whole, the last unit first -/
inductive Tidy : List TitleUnit → Prop where
  | loose {units : List TitleUnit} (h : ∀ unit ∈ units, unit.isSuffix = false) : Tidy units
  | ending {ending units : List TitleUnit} (hending : IsEnding ending) (hunits : Tidy units) : Tidy (ending ++ units)

variable {units rest : List TitleUnit}

theorem Tidy.of_cons {unit : TitleUnit} (h : Tidy (unit :: rest)) (hunit : unit.isSuffix = false) : Tidy rest := by
  generalize hall : unit :: rest = all at h
  cases h with
  | loose hloose =>
    subst hall
    exact Tidy.loose fun other hother ↦ hloose other (List.mem_cons_of_mem _ hother)
  | ending hending hunits =>
    obtain ⟨word, hword, tokens, separators, rfl, -⟩ := hending
    obtain ⟨rfl, -⟩ := List.cons.inj hall
    cases hunit

theorem Tidy.of_append {extra : List TitleUnit} (h : Tidy (extra ++ rest))
    (hextra : ∀ unit ∈ extra, unit.isSuffix = false) : Tidy rest := by
  induction extra with
  | nil => exact h
  | cons unit extra ih =>
    obtain ⟨hunit, hrest⟩ := List.forall_mem_cons.mp hextra
    exact ih (h.of_cons hunit) hrest

theorem leftUnits_suffix (word : String) (hword : word ∈ suffixWords) (rest : List TitleUnit) :
    leftUnits (.suffix word hword :: rest) = leftUnits (dropSeparators (dropToken rest)) := by
  unfold leftUnits
  rw [afterSuffixes_suffix]

theorem leftUnits_of_head (h : ∀ unit ∈ units.head?, unit.isSuffix = false) :
    leftUnits units = units.dropWhile (!·.isSuffix) := by
  unfold leftUnits
  rw [afterSuffixes_of_head h]

/-- What the longest ending takes besides an ending is no suffix. -/
theorem isSuffix_of_mem_longestEnding {word : String} {hword : word ∈ suffixWords} {ending extra : List TitleUnit}
    (hending : IsEnding ending) (hextra : ending ++ extra = longestEnding word hword rest) :
    ∀ unit ∈ extra, unit.isSuffix = false := by
  obtain ⟨other, hother, tokens, separators, rfl, -⟩ := hending
  obtain ⟨taken, htaken, tokens', separators', hlongest, htokens, hall⟩ := isEnding_longestEnding word hword rest
  rw [hlongest, List.cons_append] at hextra
  have hrest := (List.cons.inj hextra).2
  intro unit hunit
  have hmem : unit ∈ tokens' ++ separators' := hrest ▸ List.mem_append_right _ hunit
  rcases List.mem_append.mp hmem with htoken | hseparator
  · rcases htokens with rfl | ⟨token, htoken', rfl⟩
    · cases htoken
    · rw [List.mem_singleton.mp htoken]
      rfl
  · have hunit := hall unit hseparator
    cases unit with
    | separator c h => rfl
    | token token h => rfl
    | suffix word h => cases hunit

/-- The first unit is a suffix word, or none is in front. -/
theorem suffix_or_head (units : List TitleUnit) :
    (∃ word hword rest, units = .suffix word hword :: rest) ∨ ∀ unit ∈ units.head?, unit.isSuffix = false := by
  cases units with
  | nil => exact Or.inr fun _ h ↦ absurd h (by simp)
  | cons unit rest =>
    cases unit with
    | suffix word hword => exact Or.inl ⟨word, hword, rest, rfl⟩
    | separator c h =>
      right
      rintro _ ⟨⟩
      rfl
    | token token h =>
      right
      rintro _ ⟨⟩
      rfl

/-- Both loops take off just the tidy ends as a whole. -/
theorem leftUnits_eq_nil_iff (units : List TitleUnit) : leftUnits units = [] ↔ Tidy units := by
  induction hlength : units.length using Nat.strong_induction_on generalizing units with
  | _ n ih =>
    rcases suffix_or_head units with ⟨word, hword, rest, rfl⟩ | hhead
    · have hsplit := longestEnding_append word hword rest
      have hseparators := length_dropSeparators_le (dropToken rest)
      have htoken := length_dropToken_le rest
      rw [List.length_cons] at hlength
      rw [leftUnits_suffix, ih _ (by omega) (dropSeparators (dropToken rest)) rfl]
      constructor
      · intro h
        rw [← hsplit]
        exact Tidy.ending (isEnding_longestEnding word hword rest) h
      · intro h
        generalize hall : TitleUnit.suffix word hword :: rest = all at h
        cases h with
        | loose hloose =>
          subst hall
          cases hloose _ List.mem_cons_self
        | ending hending hunits =>
          obtain ⟨extra, hextra⟩ := prefix_longestEnding hending hall
          rw [← hsplit, ← hextra, List.append_assoc] at hall
          rw [← List.append_cancel_left hall] at hunits
          exact hunits.of_append (isSuffix_of_mem_longestEnding hending hextra)
    · rw [leftUnits_of_head hhead, List.dropWhile_eq_nil_iff]
      constructor
      · intro h
        exact Tidy.loose fun unit hunit ↦ by simpa using h unit hunit
      · intro h
        generalize hall : units = all at h
        cases h with
        | loose hloose => exact fun unit hunit ↦ by simp [hloose unit (hall ▸ hunit)]
        | ending hending hunits =>
          obtain ⟨word, hword, tokens, separators, rfl, -⟩ := hending
          rw [hall] at hhead
          cases hhead _ rfl

theorem exists_afterSuffixes (units : List TitleUnit) : ∃ removed, units = removed ++ afterSuffixes units := by
  induction hlength : units.length using Nat.strong_induction_on generalizing units with
  | _ n ih =>
    rcases suffix_or_head units with ⟨word, hword, rest, rfl⟩ | hhead
    · have hseparators := length_dropSeparators_le (dropToken rest)
      have htoken := length_dropToken_le rest
      rw [List.length_cons] at hlength
      obtain ⟨removed, hremoved⟩ := ih _ (by omega) (dropSeparators (dropToken rest)) rfl
      refine ⟨longestEnding word hword rest ++ removed, ?_⟩
      rw [afterSuffixes_suffix, List.append_assoc, ← hremoved, longestEnding_append]
    · exact ⟨[], by rw [afterSuffixes_of_head hhead]; rfl⟩

/-- The loops take units off the end, one at least unless the last one is a separator. -/
theorem exists_leftUnits (units : List TitleUnit) :
    ∃ removed, units = removed ++ leftUnits units ∧
      (units ≠ [] → (∀ unit ∈ units.head?, unit.isSeparator = false) → removed ≠ []) := by
  have hdrop (units : List TitleUnit) : units =
      units.takeWhile (!·.isSuffix) ++ units.dropWhile (!·.isSuffix) := List.takeWhile_append_dropWhile.symm
  rcases suffix_or_head units with ⟨word, hword, rest, rfl⟩ | hhead
  · obtain ⟨removed, hremoved⟩ := exists_afterSuffixes (dropSeparators (dropToken rest))
    refine ⟨longestEnding word hword rest ++ (removed ++
      (afterSuffixes (dropSeparators (dropToken rest))).takeWhile (!·.isSuffix)), ?_, fun _ _ hnil ↦ ?_⟩
    · rw [leftUnits_suffix, leftUnits, List.append_assoc, List.append_assoc, ← hdrop, ← hremoved, longestEnding_append]
    · cases hnil
  · refine ⟨units.takeWhile (!·.isSuffix), ?_, fun hne hseparator ↦ ?_⟩
    · rw [leftUnits_of_head hhead]
      exact hdrop units
    · obtain ⟨unit, rest, rfl⟩ := List.exists_cons_of_ne_nil hne
      rw [List.takeWhile_cons_of_pos (by simp [hhead unit rfl])]
      exact List.cons_ne_nil _ _

/-- What is left ends in a suffix word. -/
theorem head_leftUnits (units : List TitleUnit) : ∀ unit ∈ (leftUnits units).head?, unit.isSuffix := by
  intro unit hunit
  have hhead := List.head?_dropWhile_not (fun unit : TitleUnit ↦ !unit.isSuffix) (afterSuffixes units)
  unfold leftUnits at hunit
  rw [hunit] at hhead
  simpa using hhead

/-! ## The result of the function -/

def withoutBlanks (chars : List Char) : List Char := chars.filter (· ≠ ' ')

section Results

variable {python : Python} {title normalized : String} {front : List Char}

theorem spaced_collapseSpaces (text : String) : Spaced (collapseSpaces text).toList where
  blank c hc hspace := by
    rw [toList_collapseSpaces] at hc
    exact blank_of_mem_collapsedChars hc hspace
  head := (stripped_iff.mp (stripped_collapseSpaces text)).1

theorem spaced_afterSuffixes (h : Spaced (front ++ flat TitleUnit.chars units)) :
    Spaced (front ++ flat TitleUnit.chars (afterSuffixes units)) := by
  obtain ⟨removed, hremoved⟩ := exists_afterSuffixes units
  rw [hremoved] at h
  exact spaced_drop h

theorem isSpace_of_mem_withoutBlanks {chars : List Char} (h : ∀ c ∈ chars, isSpace c → c = ' ') :
    ∀ c ∈ withoutBlanks chars, isSpace c = false := by
  intro c hc
  obtain ⟨hmem, hblank⟩ := List.mem_filter.mp hc
  exact Bool.eq_false_iff.mpr fun hspace ↦ of_decide_eq_true hblank (h c hmem hspace)

/-- What the loops leave of a collapsed title, without its blanks and in lower case -/
theorem normalizeTitleForSourceDedup_eq (texts : TitleTexts python) (h : normalizeText python title = some normalized)
    (hchars : (collapseSpaces (python.nfkc normalized)).toList = front ++ flat TitleUnit.chars units)
    (hbare : Bare TitleUnit.chars front) :
    normalizeTitleForSourceDedup python title =
      (nonEmpty (String.ofList (withoutBlanks (front ++ flat TitleUnit.chars (leftUnits units))))).map python.lower := by
  have hspaced := spaced_collapseSpaces (python.nfkc normalized)
  have hlast := (stripped_iff.mp (stripped_collapseSpaces (python.nfkc normalized))).2
  have htext : collapseSpaces (python.nfkc normalized) = String.ofList (front ++ flat TitleUnit.chars units) := by
    rw [← hchars, String.ofList_toList]
  rw [hchars] at hspaced hlast
  have hspacedAfter := spaced_afterSuffixes hspaced
  have hlength (units : List TitleUnit) : units.length ≤ (String.ofList (front ++ flat TitleUnit.chars units)).length := by
    have hflat := length_le_flat isSuffixCode_titleUnit units
    rw [String.length_ofList, List.length_append]
    omega
  obtain ⟨removed, hremoved, -⟩ := exists_leftUnits units
  have hspacedLeft : Spaced (front ++ flat TitleUnit.chars (leftUnits units)) := by
    rw [hremoved] at hspaced
    exact spaced_drop hspaced
  have hkept : dropSeparators (leftUnits units) = leftUnits units := by
    have hhead := head_leftUnits units
    cases hleft : leftUnits units with
    | nil => rfl
    | cons unit rest =>
      rw [hleft] at hhead
      have hsuffix := hhead unit rfl
      cases unit with
      | suffix word hword => rfl
      | separator c h => cases hsuffix
      | token word h => cases hsuffix
  have hjoined : collapseSpaces (replaceChar (String.ofList (front ++ flat TitleUnit.chars (leftUnits units))) ' ' "") =
      String.ofList (withoutBlanks (front ++ flat TitleUnit.chars (leftUnits units))) := by
    have hreplaced : replaceChar (String.ofList (front ++ flat TitleUnit.chars (leftUnits units))) ' ' "" =
        String.ofList (withoutBlanks (front ++ flat TitleUnit.chars (leftUnits units))) := by
      apply String.toList_injective
      rw [toList_replaceChar, String.toList_ofList, String.toList_ofList]
      rfl
    rw [hreplaced]
    by_cases hempty : String.ofList (withoutBlanks (front ++ flat TitleUnit.chars (leftUnits units))) = ""
    · rw [hempty]
      decide
    · apply collapseSpaces_of_forall _ hempty
      rw [String.toList_ofList]
      exact isSpace_of_mem_withoutBlanks hspacedLeft.blank
  unfold normalizeTitleForSourceDedup
  rw [h, Option.bind_some]
  dsimp only
  rw [htext, repeatUntilSame_dropSuffix hbare (hlength units) hspaced hlast,
    dropTrailingTokens_flat texts hbare (Nat.lt_succ_of_le (hlength _)) hspacedAfter]
  change (nonEmpty (collapseSpaces (replaceChar (stripSeparators
    (String.ofList (front ++ flat TitleUnit.chars (leftUnits units)))) ' ' ""))).map python.lower = _
  rw [stripSeparators_flat hspacedLeft hbare, hkept, hjoined]

/-- More rounds than the text is long change nothing: the loops have ended. -/
def LoopsEnd (python : Python) (collapsed : String) : Prop :=
  (∀ fuel, collapsed.length ≤ fuel →
      repeatUntilSame dropSuffix fuel collapsed = repeatUntilSame dropSuffix collapsed.length collapsed) ∧
    ∀ dropped, dropped = repeatUntilSame dropSuffix collapsed.length collapsed → ∀ fuel, dropped.length < fuel →
      dropTrailingTokens python fuel dropped = dropTrailingTokens python (dropped.length + 1) dropped

/-- On any text the loops end within as many rounds as it has characters. -/
theorem loopsEnd_collapseSpaces (texts : TitleTexts python) (text : String) : LoopsEnd python (collapseSpaces text) := by
  have hspaced := spaced_collapseSpaces text
  have hlast := (stripped_iff.mp (stripped_collapseSpaces text)).2
  obtain ⟨front, units, hchars, hbare⟩ := exists_bare_append isSuffixCode_titleUnit (collapseSpaces text).toList
  have htext : collapseSpaces text = String.ofList (front ++ flat TitleUnit.chars units) := by
    rw [← hchars, String.ofList_toList]
  have hlength (units : List TitleUnit) : units.length ≤ (String.ofList (front ++ flat TitleUnit.chars units)).length := by
    have hflat := length_le_flat isSuffixCode_titleUnit units
    rw [String.length_ofList, List.length_append]
    omega
  rw [hchars] at hspaced hlast
  rw [htext]
  constructor
  · intro fuel hfuel
    rw [repeatUntilSame_dropSuffix hbare ((hlength units).trans hfuel) hspaced hlast,
      repeatUntilSame_dropSuffix hbare (hlength units) hspaced hlast]
  · intro dropped hdropped fuel hfuel
    rw [repeatUntilSame_dropSuffix hbare (hlength units) hspaced hlast] at hdropped
    rw [hdropped] at hfuel ⊢
    rw [dropTrailingTokens_flat texts hbare ((hlength _).trans_lt hfuel) (spaced_afterSuffixes hspaced),
      dropTrailingTokens_flat texts hbare (Nat.lt_succ_of_le (hlength _)) (spaced_afterSuffixes hspaced)]

end Results

/-! ## Appended suffixes -/

section Appended

variable {python : Python} {chars separators : List Char}

/-- White space and separators, a business word or none, and a suffix word -/
theorem exists_of_isMeaninglessSuffix (h : isMeaninglessSuffix chars) :
    ∃ separators token word, chars = separators ++ (token ++ word).toList ∧ token ∈ "" :: trailingTokens ∧
      word ∈ suffixWords ∧ ∀ c ∈ separators, (isSpace c || titleSeparators.contains c) := by
  unfold isMeaninglessSuffix at h
  simp only [List.any_eq_true, decide_eq_true_eq] at h
  obtain ⟨token, htoken, word, hword, hwords⟩ := h
  refine ⟨chars.takeWhile fun c ↦ isSpace c || titleSeparators.contains c, token, word, ?_, htoken, hword,
    fun c hc ↦ ?_⟩
  · rw [← hwords, String.toList_ofList, List.takeWhile_append_dropWhile]
  · have hmem := List.mem_takeWhile_imp hc
    exact hmem

/-- The words of a suffix have no white space, and their characters no other form. -/
theorem words_kept {token word : String} (htoken : token ∈ "" :: trailingTokens) (hword : word ∈ suffixWords) :
    (token ++ word).toList ≠ [] ∧ (∀ c ∈ (token ++ word).toList, isSpace c = false) ∧
      (token ++ word).toList.map compatible = (token ++ word).toList := by
  have hall : ∀ token ∈ "" :: trailingTokens, ∀ word ∈ suffixWords, (token ++ word).toList ≠ [] ∧
      (∀ c ∈ (token ++ word).toList, isSpace c = false) ∧
        (token ++ word).toList.map compatible = (token ++ word).toList := by decide
  exact hall token htoken word hword

theorem isTitleChar_of_words {token word : String} (htoken : token ∈ "" :: trailingTokens) (hword : word ∈ suffixWords) :
    ∀ c ∈ (token ++ word).toList, IsTitleChar c := by
  intro c hc
  rw [String.toList_append, List.mem_append] at hc
  rcases hc with hc | hc
  · rcases List.mem_cons.mp htoken with rfl | htoken
    · cases hc
    · exact isTitleChar_of_mem (List.mem_append_left _ htoken) c hc
  · exact isTitleChar_of_mem (List.mem_append_right _ hword) c hc

/-- Compatibility forms keep separators. -/
theorem compatible_separator {c : Char} (h : isSpace c || titleSeparators.contains c) :
    (isSpace (compatible c) || titleSeparators.contains (compatible c)) := by
  rw [Bool.or_eq_true] at h
  rcases h with hspace | hseparator
  · rw [Bool.or_eq_true]
    left
    unfold compatible
    split
    · exact absurd hspace (by decide)
    · exact absurd hspace (by decide)
    · exact absurd hspace (by decide)
    · split
      · decide
      · exact hspace
  · have hall : ∀ c ∈ titleSeparators, (isSpace (compatible c) || titleSeparators.contains (compatible c)) := by decide
    exact hall c (List.contains_iff_mem.mp hseparator)

theorem nfkc_append (texts : TitleTexts python) (h : ∀ c ∈ chars, IsTitleChar c) (text : String) :
    (python.nfkc (text ++ String.ofList chars)).toList = (python.nfkc text).toList ++ chars.map compatible := by
  induction chars using List.reverseRecOn with
  | nil => simp
  | append_singleton chars c ih =>
    have hpush : text ++ String.ofList (chars ++ [c]) = (text ++ String.ofList chars).push c := by
      apply String.toList_injective
      simp
    rw [hpush, texts.nfkc_push _ c (h c (List.mem_append_right _ List.mem_cons_self)), String.toList_push,
      ih fun d hd ↦ h d (List.mem_append_left _ hd), List.map_append, List.append_assoc]
    rfl

/-- Separators at the end leave separators at the end. -/
theorem collapsedChars_separators {before : List Char} (hne : collapsedChars before ≠ [])
    (h : ∀ c ∈ separators, (isSpace c || titleSeparators.contains c)) :
    ∃ blanks, collapsedChars (before ++ separators) = collapsedChars before ++ blanks ∧
      ∀ c ∈ blanks, isTitleSeparator c := by
  induction separators using List.reverseRecOn with
  | nil => exact ⟨[], by simp, fun _ h ↦ absurd h List.not_mem_nil⟩
  | append_singleton separators c ih =>
    obtain ⟨blanks, hblanks, hall⟩ := ih fun d hd ↦ h d (List.mem_append_left _ hd)
    have hc := h c (List.mem_append_right _ List.mem_cons_self)
    rw [← List.append_assoc]
    by_cases hspace : isSpace c
    · exact ⟨blanks, by rw [collapsedChars_concat_space hspace, hblanks], hall⟩
    · have hnot : isSpace c = false := Bool.eq_false_iff.mpr hspace
      rw [hnot, Bool.false_or] at hc
      have hseparator : isTitleSeparator c := by
        unfold isTitleSeparator
        rw [hc, Bool.or_true]
      have hbefore : collapsedChars (before ++ separators) ≠ [] := by
        rw [hblanks]
        exact List.append_ne_nil_of_left_ne_nil hne _
      have hmore (more : List Char) (hmore : ∀ d ∈ more, isTitleSeparator d) :
          ∀ d ∈ blanks ++ more, isTitleSeparator d := by
        intro d hd
        rcases List.mem_append.mp hd with hd | hd
        · exact hall d hd
        · exact hmore d hd
      rcases collapsedChars_concat hnot hbefore with hone | htwo
      · refine ⟨blanks ++ [c], by rw [hone, hblanks, List.append_assoc], hmore _ ?_⟩
        exact fun d hd ↦ List.mem_singleton.mp hd ▸ hseparator
      · refine ⟨blanks ++ [' ', c], by rw [htwo, hblanks, List.append_assoc], hmore _ ?_⟩
        intro d hd
        rcases List.mem_cons.mp hd with rfl | hd
        · rfl
        · exact List.mem_singleton.mp hd ▸ hseparator

/-- Words without white space are appended as they are, maybe after a blank. -/
theorem collapsedChars_words {before words : List Char} (hbefore : collapsedChars before ≠ []) (hne : words ≠ [])
    (h : ∀ c ∈ words, isSpace c = false) :
    ∃ gap, (gap = [] ∨ gap = [' ']) ∧ collapsedChars (before ++ words) = collapsedChars before ++ (gap ++ words) := by
  obtain ⟨first, rest, rfl⟩ := List.exists_cons_of_ne_nil hne
  obtain ⟨hfirst, hrest⟩ := List.forall_mem_cons.mp h
  have hmore : collapsedChars (before ++ [first] ++ rest) = collapsedChars (before ++ [first]) ++ rest := by
    clear h hne
    induction rest using List.reverseRecOn with
    | nil => simp
    | append_singleton rest c ih =>
      have hc := hrest c (List.mem_append_right _ List.mem_cons_self)
      have hshorter := ih fun d hd ↦ hrest d (List.mem_append_left _ hd)
      rw [← List.append_assoc, ← List.append_assoc, ← hshorter]
      rcases List.eq_nil_or_concat' rest with rfl | ⟨init, last, rfl⟩
      · rw [List.append_nil]
        exact collapsedChars_concat_concat hc hfirst
      · have hlast := hrest last (List.mem_append_left _ (List.mem_append_right _ List.mem_cons_self))
        rw [← List.append_assoc]
        exact collapsedChars_concat_concat hc hlast
  have hcons : before ++ first :: rest = before ++ [first] ++ rest := by simp
  rw [hcons, hmore]
  rcases collapsedChars_concat hfirst hbefore with hone | htwo
  · exact ⟨[], Or.inl rfl, by rw [hone, List.append_assoc]; rfl⟩
  · exact ⟨[' '], Or.inr rfl, by rw [htwo, List.append_assoc]; rfl⟩

/-- A suffix that is appended to a text is one, too, after the text is collapsed. -/
theorem collapsedChars_suffix {before : List Char} (hbefore : collapsedChars before ≠ [])
    (h : ∀ c ∈ separators, (isSpace c || titleSeparators.contains c)) {token word : String}
    (htoken : token ∈ "" :: trailingTokens) (hword : word ∈ suffixWords) :
    ∃ blanks, collapsedChars (before ++ (separators ++ (token ++ word).toList)) =
        collapsedChars before ++ (blanks ++ (token ++ word).toList) ∧ ∀ c ∈ blanks, isTitleSeparator c := by
  obtain ⟨hne, hspace, -⟩ := words_kept htoken hword
  obtain ⟨blanks, hblanks, hall⟩ := collapsedChars_separators hbefore h
  have hseparated : collapsedChars (before ++ separators) ≠ [] := by
    rw [hblanks]
    exact List.append_ne_nil_of_left_ne_nil hbefore _
  obtain ⟨gap, hgap, hwords⟩ := collapsedChars_words hseparated hne hspace
  refine ⟨blanks ++ gap, by rw [← List.append_assoc, hwords, hblanks]; simp, ?_⟩
  intro c hc
  rcases List.mem_append.mp hc with hc | hc
  · exact hall c hc
  · rcases hgap with rfl | rfl
    · cases hc
    · rw [List.mem_singleton.mp hc]
      rfl

/-- `re.sub(r"\s+", " ", unicodedata.normalize("NFKC", text)).strip()` of a text with a suffix -/
theorem collapseSpaces_nfkc_append (texts : TitleTexts python) {text : String}
    (hne : collapseSpaces (python.nfkc text) ≠ "") (h : ∀ c ∈ separators, (isSpace c || titleSeparators.contains c))
    {token word : String} (htoken : token ∈ "" :: trailingTokens) (hword : word ∈ suffixWords) :
    ∃ blanks, (∀ c ∈ blanks, isTitleSeparator c) ∧
      collapseSpaces (python.nfkc (text ++ String.ofList (separators ++ (token ++ word).toList))) =
        collapseSpaces (python.nfkc text) ++ String.ofList (blanks ++ (token ++ word).toList) := by
  obtain ⟨-, -, hwords⟩ := words_kept htoken hword
  have htitle : ∀ c ∈ separators ++ (token ++ word).toList, IsTitleChar c := by
    intro c hc
    rcases List.mem_append.mp hc with hc | hc
    · have hseparator := h c hc
      rw [Bool.or_eq_true] at hseparator
      exact hseparator.imp id fun hmem ↦ Or.inl (List.contains_iff_mem.mp hmem)
    · exact isTitleChar_of_words htoken hword c hc
  have hcompatible : ∀ c ∈ separators.map compatible, (isSpace c || titleSeparators.contains c) := by
    intro c hc
    obtain ⟨source, hsource, rfl⟩ := List.mem_map.mp hc
    exact compatible_separator (h source hsource)
  have hnonempty : collapsedChars (python.nfkc text).toList ≠ [] := by
    rw [← toList_collapseSpaces]
    exact String.toList_eq_nil_iff.not.mpr hne
  obtain ⟨blanks, hblanks, hall⟩ := collapsedChars_suffix hnonempty hcompatible htoken hword
  have hright (more : List Char) : (collapseSpaces (python.nfkc text) ++ String.ofList more).toList =
      collapsedChars (python.nfkc text).toList ++ more := by
    rw [String.toList_append, toList_collapseSpaces, String.toList_ofList]
  refine ⟨blanks, hall, ?_⟩
  apply String.toList_injective
  rw [toList_collapseSpaces, nfkc_append texts htitle, List.map_append, hwords, hblanks, hright]

end Appended

/-! ## The normal form -/

section NormalForm

variable {python : Python} {title normalized : String} {front : List Char}

/-- Normalising the result changes nothing, and a suffix after the title does not change the result. -/
structure TitleNormalForm (python : Python) (title : String) : Prop where
  terminates : ∀ normalized, normalizeText python title = some normalized →
    LoopsEnd python (collapseSpaces (python.nfkc normalized))
  idempotent : ∀ result, normalizeTitleForSourceDedup python title = some result →
    normalizeTitleForSourceDedup python result = some result
  append : normalizeTitleForSourceDedup python title ≠ none → ∀ suffix, isMeaninglessSuffix suffix.toList →
    normalizeTitleForSourceDedup python (title ++ suffix) = normalizeTitleForSourceDedup python title

/-- The collapsed title is a kept part with a tidy end. With and without its blanks the kept part ends in no
separator, business word or suffix word; without them, in lower case, NFKC does not change it. -/
def TitleTidy (python : Python) (title : String) : Prop :=
  ∀ normalized, normalizeText python title = some normalized →
    ∃ kept units, (collapseSpaces (python.nfkc normalized)).toList = kept ++ flat TitleUnit.chars units ∧
      Tidy units ∧ Bare TitleUnit.chars kept ∧ Bare TitleUnit.chars (withoutBlanks kept) ∧
        (kept ≠ [] → python.nfkc (python.lower (String.ofList (withoutBlanks kept))) =
          python.lower (String.ofList (withoutBlanks kept)))

theorem normalizeText_eq_some {text : String} :
    normalizeText python text = some normalized ↔
      collapseSpaces (python.nfkc text) = normalized ∧ collapseSpaces (python.nfkc text) ≠ "" := by
  unfold normalizeText nonEmpty
  split
  · rename_i hempty
    simp [hempty]
  · rename_i hne
    simp [hne]

/-- A text that ends in no unit keeps ending in none when it is put into lower case. -/
theorem bare_lower_iff (texts : TitleTexts python) {chars : List Char} :
    Bare TitleUnit.chars (python.lower (String.ofList chars)).toList ↔ Bare TitleUnit.chars chars := by
  unfold Bare
  apply forall_congr'
  intro unit
  rw [suffix_lower_iff texts unit.isTitleChar, String.toList_ofList]

/-- The result for a text without white space in NFKC and in lower case -/
theorem normalizeTitleForSourceDedup_iff_bare (texts : TitleTexts python) {result : String} (hne : result ≠ "")
    (hspace : ∀ c ∈ result.toList, isSpace c = false) (hnfkc : python.nfkc result = result)
    (hlower : python.lower result = result)
    (hlast : ∀ c ∈ result.toList.getLast?, isTitleSeparator c = false) :
    normalizeTitleForSourceDedup python result = some result ↔ Bare TitleUnit.chars result.toList := by
  obtain ⟨front, units, hchars, hbare⟩ := exists_bare_append isSuffixCode_titleUnit result.toList
  have hcollapsed : collapseSpaces (python.nfkc result) = result := by
    rw [hnfkc, collapseSpaces_of_forall hspace hne]
  have hnormalized : normalizeText python result = some result :=
    normalizeText_eq_some.mpr ⟨hcollapsed, by rw [hcollapsed]; exact hne⟩
  obtain ⟨removed, hremoved, htaken⟩ := exists_leftUnits units
  have hkept : withoutBlanks (front ++ flat TitleUnit.chars (leftUnits units)) =
      front ++ flat TitleUnit.chars (leftUnits units) := by
    refine List.filter_eq_self.mpr fun c hc ↦ decide_eq_true ?_
    rintro rfl
    have hmem : ' ' ∈ result.toList := by
      rw [hchars, hremoved, flat_append, ← List.append_assoc]
      exact List.mem_append_left _ hc
    exact absurd (hspace _ hmem) (by decide)
  rw [normalizeTitleForSourceDedup_eq texts hnormalized (by rw [hcollapsed]; exact hchars) hbare, hkept]
  constructor
  · intro h
    obtain ⟨left, hleft, hresult⟩ := Option.map_eq_some_iff.mp h
    obtain ⟨rfl, -⟩ := nonEmpty_eq_some hleft
    -- what was taken off the end is missing from the result
    have hunits : units = [] := by
      by_contra hunits
      have hhead : ∀ unit ∈ units.head?, unit.isSeparator = false := by
        intro unit hunit
        obtain ⟨rest, rfl⟩ := List.head?_eq_some_iff.mp hunit
        rcases unit.cases_chars with ⟨c, hc, hseparator, -⟩ | ⟨word, -, -, hword⟩
        · have hend : c ∈ result.toList.getLast? := by
            rw [hchars, flat, hc, ← List.append_assoc, List.getLast?_concat]
            rfl
          rw [hlast c hend] at hseparator
          cases hseparator
        · exact hword
      have hchar : ∀ c ∈ flat TitleUnit.chars removed, IsTitleChar c := by
        clear hremoved htaken
        induction removed with
        | nil => exact fun c hc ↦ absurd hc List.not_mem_nil
        | cons unit removed ih =>
          intro c hc
          rcases List.mem_append.mp hc with hc | hc
          · exact ih c hc
          · exact unit.isTitleChar c hc
      have hsplit : result = String.ofList (front ++ flat TitleUnit.chars (leftUnits units)) ++
          String.ofList (flat TitleUnit.chars removed) := by
        apply String.toList_injective
        rw [String.toList_append, String.toList_ofList, String.toList_ofList, List.append_assoc, ← flat_append,
          ← hremoved, hchars]
      have hlowered := lower_append texts hchar (String.ofList (front ++ flat TitleUnit.chars (leftUnits units)))
      rw [← hsplit, hlower, hresult] at hlowered
      have hlengths := congrArg String.length hlowered
      rw [String.length_append, String.length_ofList] at hlengths
      have hpos := List.length_pos_iff.mpr (htaken hunits hhead)
      have hflat := length_le_flat isSuffixCode_titleUnit removed
      omega
    rw [hchars, hunits, flat, List.append_nil]
    exact hbare
  · intro h
    have hunits : units = [] := by
      cases units with
      | nil => rfl
      | cons unit rest => exact absurd ⟨front ++ flat TitleUnit.chars rest, by rw [hchars, flat, List.append_assoc]⟩ (h unit)
    have hnil : leftUnits [] = [] := (leftUnits_eq_nil_iff []).mpr (Tidy.loose fun _ h ↦ absurd h List.not_mem_nil)
    have hall : front ++ flat TitleUnit.chars (leftUnits units) = result.toList := by
      rw [hchars, hunits, hnil]
    rw [hall, String.ofList_toList, nonEmpty, if_neg hne, Option.map_some, hlower]

theorem getLast?_withoutBlanks {chars : List Char} (h : ∀ c ∈ chars.getLast?, isTitleSeparator c = false) :
    (withoutBlanks chars).getLast? = chars.getLast? := by
  rcases List.eq_nil_or_concat' chars with rfl | ⟨before, last, rfl⟩
  · rfl
  · have hlast := h last List.getLast?_concat
    have hblank : last ≠ ' ' := by
      rintro rfl
      cases hlast
    have hone : [last].filter (· ≠ ' ') = [last] := by simp [hblank]
    unfold withoutBlanks
    rw [List.filter_append, hone, List.getLast?_concat, List.getLast?_concat]

/-- What is left of a title ends in no separator. -/
theorem last_left (hbare : Bare TitleUnit.chars front) (units : List TitleUnit) :
    ∀ c ∈ (front ++ flat TitleUnit.chars (leftUnits units)).getLast?, isTitleSeparator c = false := by
  apply last_flat hbare
  intro unit hunit
  have hsuffix := head_leftUnits units unit hunit
  cases unit with
  | suffix word hword => rfl
  | separator c h => cases hsuffix
  | token word h => cases hsuffix

/-- The result is kept just where what is left of the title ends in no unit. -/
theorem idempotent_iff_bare (texts : TitleTexts python) {chars : List Char} (hne : chars ≠ [])
    (hspace : ∀ c ∈ chars, isSpace c = false) (hlast : ∀ c ∈ chars.getLast?, isTitleSeparator c = false)
    (hnfkc : python.nfkc (python.lower (String.ofList chars)) = python.lower (String.ofList chars)) :
    normalizeTitleForSourceDedup python (python.lower (String.ofList chars)) =
      some (python.lower (String.ofList chars)) ↔ Bare TitleUnit.chars chars := by
  have hresult : python.lower (String.ofList chars) ≠ "" := by
    rw [Ne, texts.lower_eq_empty, String.ofList_eq_empty_iff]
    exact hne
  have hresultSpace : ∀ c ∈ (python.lower (String.ofList chars)).toList, isSpace c = false := by
    apply texts.lower_space
    rw [String.toList_ofList]
    exact hspace
  have hresultLast : ∀ c ∈ (python.lower (String.ofList chars)).toList.getLast?, isTitleSeparator c = false := by
    intro c hc
    by_contra hseparator
    rw [Bool.not_eq_false] at hseparator
    have hend := texts.lower_last _ c (isTitleChar_of_isTitleSeparator hseparator) hc
    rw [String.toList_ofList] at hend
    rw [hlast c hend] at hseparator
    cases hseparator
  rw [normalizeTitleForSourceDedup_iff_bare texts hresult hresultSpace hnfkc (texts.lower_lower _) hresultLast,
    bare_lower_iff texts]

theorem isSpace_of_mem_left (hchars : (collapseSpaces normalized).toList = front ++ flat TitleUnit.chars units) :
    ∀ c ∈ withoutBlanks (front ++ flat TitleUnit.chars (leftUnits units)), isSpace c = false := by
  apply isSpace_of_mem_withoutBlanks
  intro c hc
  obtain ⟨removed, hremoved, -⟩ := exists_leftUnits units
  apply (spaced_collapseSpaces normalized).blank c
  rw [hchars, hremoved, flat_append, ← List.append_assoc]
  exact List.mem_append_left _ hc

/-- A title with a tidy end has the normal form. -/
theorem titleNormalForm_of_tidy (texts : TitleTexts python) (h : TitleTidy python title) : TitleNormalForm python title := by
  refine ⟨fun _ _ ↦ loopsEnd_collapseSpaces texts _, fun result hresult ↦ ?_, fun hsome suffix hsuffix ↦ ?_⟩
  · obtain ⟨normalized, hnormalized, -⟩ := Option.bind_eq_some_iff.mp hresult
    obtain ⟨kept, units, hchars, htidy, hbare, hwithout, hnfkc⟩ := h normalized hnormalized
    have hleft := (leftUnits_eq_nil_iff units).mpr htidy
    have hlast := last_left hbare units
    have hspace := isSpace_of_mem_left hchars
    rw [normalizeTitleForSourceDedup_eq texts hnormalized hchars hbare] at hresult
    rw [hleft, flat, List.append_nil] at hresult hlast hspace
    obtain ⟨left, hnonEmpty, rfl⟩ := Option.map_eq_some_iff.mp hresult
    obtain ⟨rfl, hne⟩ := nonEmpty_eq_some hnonEmpty
    have hchars : withoutBlanks kept ≠ [] := by
      intro hnil
      rw [hnil] at hne
      exact hne rfl
    have hkept : kept ≠ [] := by
      rintro rfl
      exact hchars rfl
    rw [← getLast?_withoutBlanks hlast] at hlast
    exact (idempotent_iff_bare texts hchars hspace hlast (hnfkc hkept)).mpr hwithout
  · cases hnormalized : normalizeText python title with
    | none =>
      unfold normalizeTitleForSourceDedup at hsome
      rw [hnormalized] at hsome
      exact absurd rfl hsome
    | some normalized =>
      obtain ⟨kept, units, hchars, htidy, hbare, -, -⟩ := h normalized hnormalized
      obtain ⟨separators, token, word, hwords, htoken, hword, hseparators⟩ := exists_of_isMeaninglessSuffix hsuffix
      have happended : title ++ suffix = title ++ String.ofList (separators ++ (token ++ word).toList) := by
        rw [← hwords, String.ofList_toList]
      obtain ⟨hfirst, hne⟩ := normalizeText_eq_some.mp hnormalized
      obtain ⟨blanks, hblanks, honce⟩ := collapseSpaces_nfkc_append texts hne hseparators htoken hword
      have hblanksSeparators : ∀ c ∈ blanks, (isSpace c || titleSeparators.contains c) := by
        intro c hc
        have hseparator := hblanks c hc
        unfold isTitleSeparator at hseparator
        rw [Bool.or_eq_true] at hseparator ⊢
        refine hseparator.imp_left fun hblank ↦ ?_
        rw [of_decide_eq_true hblank]
        decide
      have hcollapsed : collapseSpaces (python.nfkc normalized) ≠ "" := by
        intro hempty
        apply hsome
        rw [hempty] at hchars
        obtain ⟨rfl, hflat⟩ := List.append_eq_nil_iff.mp hchars.symm
        have hunits := length_le_flat isSuffixCode_titleUnit units
        rw [hflat] at hunits
        obtain rfl := List.length_eq_zero_iff.mp (Nat.le_zero.mp hunits)
        have hleft := (leftUnits_eq_nil_iff []).mpr htidy
        rw [normalizeTitleForSourceDedup_eq texts hnormalized (by rw [hempty]; exact hchars) hbare, hleft]
        rfl
      obtain ⟨more, hmore, htwice⟩ := collapseSpaces_nfkc_append texts hcollapsed hblanksSeparators htoken hword
      obtain ⟨ending, hending, hflat⟩ := exists_ending hmore htoken hword
      rw [hfirst] at honce
      have hagain : normalizeText python (title ++ suffix) =
          some (normalized ++ String.ofList (blanks ++ (token ++ word).toList)) := by
        rw [happended]
        refine normalizeText_eq_some.mpr ⟨honce, ?_⟩
        rw [honce, Ne, String.append_eq_empty_iff]
        exact fun hempty ↦ hne (hfirst.trans hempty.1)
      have hcharsAgain : (collapseSpaces (python.nfkc
          (normalized ++ String.ofList (blanks ++ (token ++ word).toList)))).toList =
            kept ++ flat TitleUnit.chars (ending ++ units) := by
        rw [htwice, String.toList_append, hchars, String.toList_ofList, ← hflat, flat_append, List.append_assoc]
      have hleft := (leftUnits_eq_nil_iff units).mpr htidy
      have hleftAgain := (leftUnits_eq_nil_iff _).mpr (Tidy.ending hending htidy)
      rw [normalizeTitleForSourceDedup_eq texts hagain hcharsAgain hbare,
        normalizeTitleForSourceDedup_eq texts hnormalized hchars hbare, hleft, hleftAgain]

/-- A title with the normal form has a tidy end, if NFKC keeps the result. -/
theorem tidy_of_titleNormalForm (texts : TitleTexts python)
    (hnfkc : ∀ result, normalizeTitleForSourceDedup python title = some result → python.nfkc result = result)
    (h : TitleNormalForm python title) : TitleTidy python title := by
  intro normalized hnormalized
  obtain ⟨front, units, hchars, hbare⟩ :=
    exists_bare_append isSuffixCode_titleUnit (collapseSpaces (python.nfkc normalized)).toList
  have hresult := normalizeTitleForSourceDedup_eq texts hnormalized hchars hbare
  have hlast := last_left hbare units
  have hspace := isSpace_of_mem_left hchars
  have hend := getLast?_withoutBlanks hlast
  by_cases hempty : withoutBlanks (front ++ flat TitleUnit.chars (leftUnits units)) = []
  · rw [hempty] at hend
    have hnil := List.getLast?_eq_none_iff.mp hend.symm
    obtain ⟨rfl, hflat⟩ := List.append_eq_nil_iff.mp hnil
    have hunits := length_le_flat isSuffixCode_titleUnit (leftUnits units)
    rw [hflat] at hunits
    have hleft := List.length_eq_zero_iff.mp (Nat.le_zero.mp hunits)
    exact ⟨[], units, hchars, (leftUnits_eq_nil_iff units).mp hleft, hbare, hbare, fun hne ↦ absurd rfl hne⟩
  · have hne : String.ofList (withoutBlanks (front ++ flat TitleUnit.chars (leftUnits units))) ≠ "" := by
      rw [Ne, String.ofList_eq_empty_iff]
      exact hempty
    rw [nonEmpty, if_neg hne, Option.map_some] at hresult
    have hstable := hnfkc _ hresult
    rw [← hend] at hlast
    have hwithout := (idempotent_iff_bare texts hempty hspace hlast hstable).mp (h.idempotent _ hresult)
    have hleft : leftUnits units = [] := by
      have hhead := head_leftUnits units
      cases hunits : leftUnits units with
      | nil => rfl
      | cons unit rest =>
        rw [hunits] at hhead hwithout
        have hsuffix := hhead unit rfl
        have hword : withoutBlanks unit.chars = unit.chars := by
          cases unit with
          | separator c h => cases hsuffix
          | token word h => cases hsuffix
          | suffix word hword =>
            have hall : ∀ word ∈ suffixWords, withoutBlanks word.toList = word.toList := by decide
            exact hall word hword
        refine absurd ⟨withoutBlanks (front ++ flat TitleUnit.chars rest), ?_⟩ (hwithout unit)
        rw [flat, ← List.append_assoc]
        unfold withoutBlanks at hword ⊢
        rw [List.filter_append (front ++ flat TitleUnit.chars rest), hword]
    rw [hleft, flat, List.append_nil] at hwithout hstable
    exact ⟨front, units, hchars, (leftUnits_eq_nil_iff units).mp hleft, hbare, hwithout, fun _ ↦ hstable⟩

/-- A tidy end is enough for the normal form, and needed for it where NFKC keeps the result. -/
theorem titleNormalForm_iff_tidy (texts : TitleTexts python) (title : String) :
    (TitleTidy python title → TitleNormalForm python title) ∧
      ((∀ result, normalizeTitleForSourceDedup python title = some result → python.nfkc result = result) →
        TitleNormalForm python title → TitleTidy python title) :=
  ⟨titleNormalForm_of_tidy texts, tidy_of_titleNormalForm texts⟩

end NormalForm

/-! ## Two titles -/

section Titles

/-- Python on plain texts, with the NFKC forms of separators and white space. -/
def titlePython : Python :=
  { blankPython with nfkc := mapChars compatible }

theorem toList_mapChars (change : Char → Char) (text : String) : (mapChars change text).toList = text.toList.map change :=
  String.toList_ofList

theorem toLower_of_not_ascii {c : Char} (h : ¬c.toNat < 128) : c.toLower = c := by
  refine dif_neg fun hupper ↦ h ?_
  have hle := UInt32.le_iff_toNat_le.mp hupper.2
  exact lt_of_le_of_lt hle (by decide)

theorem toLower_toLower (c : Char) : c.toLower.toLower = c.toLower := by
  by_cases hascii : c.toNat < 128
  · have hall : ∀ n < 128, (Char.ofNat n).toLower.toLower = (Char.ofNat n).toLower := by decide
    have hc := hall c.toNat hascii
    rwa [Char.ofNat_toNat] at hc
  · rw [toLower_of_not_ascii hascii, toLower_of_not_ascii hascii]

/-- Only ASCII letters have another lower case here, and these are no characters of titles' ends. -/
theorem toLower_cases (c : Char) : c.toLower = c ∨ ¬IsTitleChar c ∧ ¬IsTitleChar c.toLower := by
  have hbool {c : Char} (h : IsTitleChar c) :
      isSpace c || titleSeparators.contains c || titleWords.any (·.toList.contains c) := by
    rw [Bool.or_eq_true, Bool.or_eq_true, or_assoc]
    refine h.imp id (Or.imp List.contains_iff_mem.mpr ?_)
    rintro ⟨word, hword, hc⟩
    exact List.any_eq_true.mpr ⟨word, hword, List.contains_iff_mem.mpr hc⟩
  by_cases hascii : c.toNat < 128
  · have hall : ∀ n < 128, (Char.ofNat n).toLower = Char.ofNat n ∨
        (isSpace (Char.ofNat n) || titleSeparators.contains (Char.ofNat n) ||
            titleWords.any (·.toList.contains (Char.ofNat n))) = false ∧
          (isSpace (Char.ofNat n).toLower || titleSeparators.contains (Char.ofNat n).toLower ||
            titleWords.any (·.toList.contains (Char.ofNat n).toLower)) = false := by decide +kernel
    have hc := hall c.toNat hascii
    rw [Char.ofNat_toNat] at hc
    refine hc.imp id fun hnot ↦ ⟨fun h ↦ ?_, fun h ↦ ?_⟩
    · exact absurd (hbool h) (by rw [hnot.1]; exact Bool.false_ne_true)
    · exact absurd (hbool h) (by rw [hnot.2]; exact Bool.false_ne_true)
  · exact Or.inl (toLower_of_not_ascii hascii)

/-- The example's functions do what is asked of NFKC and of lower case. -/
theorem titleTexts_titlePython : TitleTexts titlePython where
  nfkc_push text c _ := by
    apply String.toList_injective
    change (mapChars compatible (text.push c)).toList = ((mapChars compatible text).push (compatible c)).toList
    rw [toList_mapChars, String.toList_push, String.toList_push, toList_mapChars, List.map_append]
    rfl
  lower_push text c h := by
    have hc : c.toLower = c := (toLower_cases c).resolve_right fun hnot ↦ hnot.1 h
    apply String.toList_injective
    change (lower (text.push c)).toList = ((lower text).push c).toList
    unfold lower
    rw [String.toList_ofList, String.toList_push, String.toList_push, String.toList_ofList, List.map_append,
      List.map_singleton, hc]
  lower_last text c h hlast := by
    change (lower text).toList.getLast? = some c at hlast
    unfold lower at hlast
    rw [String.toList_ofList, List.getLast?_map] at hlast
    obtain ⟨d, hd, rfl⟩ := Option.map_eq_some_iff.mp hlast
    rw [hd, (toLower_cases d).resolve_right fun hnot ↦ hnot.2 h]
  lower_space text h c hc := by
    change c ∈ (lower text).toList at hc
    unfold lower at hc
    rw [String.toList_ofList] at hc
    obtain ⟨d, hd, rfl⟩ := List.mem_map.mp hc
    rcases toLower_cases d with hsame | ⟨-, hnot⟩
    · rw [hsame]
      exact h d hd
    · exact Bool.eq_false_iff.mpr fun hspace ↦ hnot (Or.inl hspace)
  lower_lower text := by
    apply String.toList_injective
    change (lower (lower text)).toList = (lower text).toList
    unfold lower
    rw [String.toList_ofList, String.toList_ofList, List.map_map]
    apply List.map_congr_left
    exact fun c _ ↦ toLower_toLower c
  lower_eq_empty text := by
    change lower text = "" ↔ text = ""
    unfold lower
    rw [String.ofList_eq_empty_iff, List.map_eq_nil_iff, String.toList_eq_nil_iff]

theorem bare_of_forall {chars : List Char} (hlast : ∀ c ∈ chars.getLast?, isTitleSeparator c = false)
    (hwords : ∀ word ∈ titleWords, word.toList.isSuffixOf chars = false) : Bare TitleUnit.chars chars := by
  intro unit hunit
  rcases unit.cases_chars with ⟨c, hchars, hc, -⟩ | ⟨word, hword, hchars, -⟩
  · rw [hchars] at hunit
    obtain ⟨before, rfl⟩ := hunit
    rw [hlast c List.getLast?_concat] at hc
    cases hc
  · rw [hchars] at hunit
    have hsuffix := List.isSuffixOf_iff_suffix.mpr hunit
    rw [hwords word hword] at hsuffix
    cases hsuffix

/-- Two suffixes, one of them with a business word and a separator before it -/
theorem titleNormalForm_suffixes : TitleNormalForm titlePython "ABC设备：采购公告公示" := by
  refine (titleNormalForm_iff_tidy titleTexts_titlePython _).1 fun normalized hnormalized ↦ ?_
  have hread : normalizeText titlePython "ABC设备：采购公告公示" = some "ABC设备:采购公告公示" ∧
      (collapseSpaces (titlePython.nfkc "ABC设备:采购公告公示")).toList = "ABC设备".toList ++ ":采购公告公示".toList ∧
        titlePython.nfkc (titlePython.lower (String.ofList (withoutBlanks "ABC设备".toList))) =
          titlePython.lower (String.ofList (withoutBlanks "ABC设备".toList)) := by decide +kernel
  obtain ⟨htext, hchars, hnfkc⟩ := hread
  rw [htext] at hnormalized
  obtain rfl := Option.some.inj hnormalized
  have hsuffixes : "公告" ∈ suffixWords ∧ "公示" ∈ suffixWords ∧ "采购" ∈ trailingTokens := by decide
  have hfirst : IsEnding [.suffix "公告" hsuffixes.1, .token "采购" hsuffixes.2.2, .separator ':' rfl] :=
    ⟨_, _, [.token "采购" hsuffixes.2.2], [.separator ':' rfl], rfl, Or.inr ⟨_, _, rfl⟩, by
      intro unit hunit
      rw [List.mem_singleton.mp hunit]
      rfl⟩
  have hlast : IsEnding [.suffix "公示" hsuffixes.2.1] :=
    ⟨_, _, [], [], rfl, Or.inl rfl, fun _ h ↦ absurd h List.not_mem_nil⟩
  refine ⟨_, _, hchars, Tidy.ending hlast (Tidy.ending hfirst (Tidy.loose fun _ h ↦ absurd h List.not_mem_nil)),
    bare_of_forall (by decide) (by decide), bare_of_forall (by decide) (by decide), fun _ ↦ hnfkc⟩

/-- A suffix word that a business word covers is taken off the second time only. -/
theorem titleChanged_covered : ¬∀ title, TitleNormalForm titlePython title := by
  intro h
  have hruns : normalizeTitleForSourceDedup titlePython "气象信息采购" = some "气象信息" ∧
      normalizeTitleForSourceDedup titlePython "气象信息" = some "气象" := by decide +kernel
  have hsame := (h "气象信息采购").idempotent "气象信息" hruns.1
  rw [hruns.2] at hsame
  exact absurd hsame (by decide)

end Titles

end TenderPhase1.Spiders.GgzyGovCnDeal
