import TenderPhase1.Crawler.Deduplication
import TenderPhase1.Foundation.StrippedTexts

/-!
# Texts with collapsed spaces

`re.sub(r"\s+", " ", text).strip()` leaves words with one blank between two of them. A
text without white space stays; what is appended to a text is appended to the collapsed
one, maybe with a blank before it.
-/

namespace TenderPhase1.Crawler

open PyText

/-- A text without white space is one piece. -/
theorem collapseSpaces_of_forall {text : String} (h : ∀ c ∈ text.toList, isSpace c = false) (hne : text ≠ "") :
    collapseSpaces text = text := by
  have hpieces (chars : List Char) (hchars : ∀ c ∈ chars, isSpace c = false) : chars.splitOnP isSpace = [chars] :=
    List.splitOnP_eq_singleton hchars
  have hnotNil : text.toList ≠ [] := fun hnil ↦ hne (String.toList_eq_nil_iff.mp hnil)
  unfold collapseSpaces
  rw [hpieces _ h]
  simp [hnotNil]

/-- The characters of a collapsed text -/
def collapsedChars (chars : List Char) : List Char :=
  [' '].intercalate ((chars.splitOnP isSpace).filter (· ≠ []))

theorem toList_collapseSpaces (text : String) : (collapseSpaces text).toList = collapsedChars text.toList := by
  have hwords : List.map (String.toList ∘ String.ofList) ((text.toList.splitOnP isSpace).filter (· ≠ [])) =
      (text.toList.splitOnP isSpace).filter (· ≠ []) := by simp [Function.comp_def]
  rw [collapseSpaces, String.toList_intercalate, List.map_map, hwords]
  rfl

/-- Words without white space, with blanks between them -/
theorem ends_intercalate {words : List (List Char)} (h : ∀ word ∈ words, word ≠ [] ∧ ∀ c ∈ word, isSpace c = false) :
    (∀ c ∈ ([' '].intercalate words).head?, isSpace c = false) ∧
      (∀ c ∈ ([' '].intercalate words).getLast?, isSpace c = false) ∧ (words ≠ [] → [' '].intercalate words ≠ []) := by
  induction words with
  | nil => simp
  | cons word words ih =>
    obtain ⟨⟨hne, hword⟩, hwords⟩ := List.forall_mem_cons.mp h
    cases words with
    | nil =>
      rw [List.intercalate_singleton]
      exact ⟨fun c hc ↦ hword c (List.mem_of_mem_head? hc), fun c hc ↦ hword c (List.mem_of_mem_getLast? hc),
        fun _ ↦ hne⟩
    | cons next words =>
      obtain ⟨-, hlast, hnext⟩ := ih hwords
      have hrest := hnext (List.cons_ne_nil _ _)
      rw [List.intercalate_cons_cons, List.append_assoc, List.head?_append_of_ne_nil _ hne,
        List.getLast?_append_of_ne_nil _ (List.append_ne_nil_of_right_ne_nil _ hrest),
        List.getLast?_append_of_ne_nil _ hrest]
      exact ⟨fun c hc ↦ hword c (List.mem_of_mem_head? hc), hlast, fun _ ↦ List.append_ne_nil_of_left_ne_nil hne _⟩

theorem stripped_collapseSpaces (text : String) : Stripped (collapseSpaces text) := by
  have hwords : ∀ word ∈ (text.toList.splitOnP isSpace).filter (· ≠ []), word ≠ [] ∧ ∀ c ∈ word, isSpace c = false := by
    intro word hword
    obtain ⟨hmem, hne⟩ := List.mem_filter.mp hword
    exact ⟨of_decide_eq_true hne, not_isSpace_of_mem_splitOnP hmem⟩
  have hends := ends_intercalate hwords
  rw [stripped_iff, toList_collapseSpaces]
  exact ⟨hends.1, hends.2.1⟩

theorem nonEmpty_eq_some {text kept : String} (h : nonEmpty text = some kept) : kept = text ∧ kept ≠ "" := by
  unfold nonEmpty at h
  split at h
  · cases h
  · rename_i hne
    rw [← Option.some.inj h]
    exact ⟨rfl, hne⟩

/-! ## Appending to a text -/

section Appended

variable {chars : List Char}

/-- The only white space of a collapsed text is blanks. -/
theorem blank_of_mem_collapsedChars {c : Char} (hc : c ∈ collapsedChars chars) (hspace : isSpace c) : c = ' ' := by
  have hwords : ∀ word ∈ (chars.splitOnP isSpace).filter (· ≠ []), ∀ d ∈ word, isSpace d = false :=
    fun word hword ↦ not_isSpace_of_mem_splitOnP (List.mem_filter.mp hword).1
  unfold collapsedChars at hc
  generalize (chars.splitOnP isSpace).filter (· ≠ []) = words at *
  induction words with
  | nil => cases hc
  | cons word words ih =>
    obtain ⟨hword, hrest⟩ := List.forall_mem_cons.mp hwords
    have hnot (hmem : c ∈ word) : c = ' ' := by
      rw [hword c hmem] at hspace
      cases hspace
    cases words with
    | nil =>
      rw [List.intercalate_singleton] at hc
      exact hnot hc
    | cons next words =>
      rw [List.intercalate_cons_cons, List.mem_append, List.mem_append] at hc
      rcases hc with (hmem | hblank) | hmem
      · exact hnot hmem
      · exact List.mem_singleton.mp hblank
      · exact ih hmem hrest

/-- The pieces of a text, and of the text with one more character -/
theorem splitOnP_concat (p : Char → Bool) (chars : List Char) :
    ∃ init last, chars.splitOnP p = init ++ [last] ∧
      ∀ c, (chars ++ [c]).splitOnP p = if p c then init ++ [last, []] else init ++ [last ++ [c]] := by
  induction chars with
  | nil =>
    refine ⟨[], [], rfl, fun c ↦ ?_⟩
    rw [List.nil_append, List.splitOnP_cons_eq_if_modifyHead]
    split <;> rfl
  | cons d chars ih =>
    obtain ⟨init, last, hpieces, hpush⟩ := ih
    by_cases hd : p d
    · refine ⟨[] :: init, last, by rw [List.splitOnP_cons_eq_if_modifyHead, if_pos hd, hpieces]; rfl, fun c ↦ ?_⟩
      rw [List.cons_append, List.splitOnP_cons_eq_if_modifyHead, if_pos hd, hpush]
      split <;> rfl
    · cases init with
      | nil =>
        refine ⟨[], d :: last, by rw [List.splitOnP_cons_eq_if_modifyHead, if_neg hd, hpieces]; rfl, fun c ↦ ?_⟩
        rw [List.cons_append, List.splitOnP_cons_eq_if_modifyHead, if_neg hd, hpush]
        split <;> rfl
      | cons head init =>
        refine ⟨(d :: head) :: init, last, by rw [List.splitOnP_cons_eq_if_modifyHead, if_neg hd, hpieces]; rfl, fun c ↦ ?_⟩
        rw [List.cons_append, List.splitOnP_cons_eq_if_modifyHead, if_neg hd, hpush]
        split <;> rfl

theorem collapsedChars_concat_space {c : Char} (h : isSpace c) : collapsedChars (chars ++ [c]) = collapsedChars chars := by
  obtain ⟨init, last, hpieces, hpush⟩ := splitOnP_concat isSpace chars
  have hpair : init ++ [last, []] = (init ++ [last]) ++ [[]] := by simp
  unfold collapsedChars
  rw [hpush, if_pos h, hpieces, hpair, List.filter_append (init ++ [last])]
  simp

theorem intercalate_concat_append {separator word more : List Char} (words : List (List Char)) :
    separator.intercalate (words ++ [word ++ more]) = separator.intercalate (words ++ [word]) ++ more := by
  induction words with
  | nil => simp
  | cons first words ih =>
    cases hrest : words ++ [word] with
    | nil => simp at hrest
    | cons next rest =>
      cases hmore : words ++ [word ++ more] with
      | nil => simp at hmore
      | cons other others =>
        rw [List.cons_append, List.cons_append, hrest, hmore, List.intercalate_cons_cons, List.intercalate_cons_cons,
          ← hmore, ← hrest, ih, List.append_assoc, List.append_assoc, List.append_assoc]

theorem intercalate_concat {separator word : List Char} {words : List (List Char)} (h : words ≠ []) :
    separator.intercalate (words ++ [word]) = separator.intercalate words ++ (separator ++ word) := by
  induction words with
  | nil => exact absurd rfl h
  | cons first words ih =>
    cases words with
    | nil => simp [List.intercalate_cons_cons]
    | cons next words =>
      rw [List.cons_append, List.cons_append, List.intercalate_cons_cons, ← List.cons_append, ih (List.cons_ne_nil _ _),
        List.intercalate_cons_cons, List.append_assoc, List.append_assoc, List.append_assoc]

theorem filter_concat {pieces : List (List Char)} {piece : List Char} (h : piece ≠ []) :
    (pieces ++ [piece]).filter (· ≠ []) = pieces.filter (· ≠ []) ++ [piece] := by
  simp [List.filter_append, h]

/-- A character that is no white space is appended, after a blank where white space stands before it. -/
theorem collapsedChars_concat {c : Char} (h : isSpace c = false) (hne : collapsedChars chars ≠ []) :
    collapsedChars (chars ++ [c]) = collapsedChars chars ++ [c] ∨
      collapsedChars (chars ++ [c]) = collapsedChars chars ++ [' ', c] := by
  obtain ⟨init, last, hpieces, hpush⟩ := splitOnP_concat isSpace chars
  have hnot : ¬isSpace c := by rw [h]; exact Bool.false_ne_true
  have hlast : last ++ [c] ≠ [] := List.append_ne_nil_of_right_ne_nil _ (List.cons_ne_nil _ _)
  unfold collapsedChars at hne ⊢
  rw [hpush, if_neg hnot, filter_concat hlast]
  rw [hpieces] at hne ⊢
  by_cases hempty : last = []
  · right
    have hfilter : (init ++ [[]]).filter (· ≠ []) = init.filter (· ≠ []) := by simp [List.filter_append]
    rw [hempty, hfilter] at hne ⊢
    have hwords : init.filter (· ≠ []) ≠ [] := by
      intro hnil
      rw [hnil] at hne
      exact hne rfl
    rw [List.nil_append, intercalate_concat hwords]
    rfl
  · left
    rw [filter_concat hempty, intercalate_concat_append]

/-- It is appended as it is where no white space stands before it. -/
theorem collapsedChars_concat_concat {c d : Char} (h : isSpace c = false) (hd : isSpace d = false) :
    collapsedChars (chars ++ [d] ++ [c]) = collapsedChars (chars ++ [d]) ++ [c] := by
  obtain ⟨init, last, -, hpush⟩ := splitOnP_concat isSpace chars
  obtain ⟨other, piece, hpieces, hmore⟩ := splitOnP_concat isSpace (chars ++ [d])
  have hc : ¬isSpace c := by rw [h]; exact Bool.false_ne_true
  have hdNot : ¬isSpace d := by rw [hd]; exact Bool.false_ne_true
  have hone := hpush d
  rw [if_neg hdNot, hpieces] at hone
  obtain ⟨rfl, hpiece⟩ := List.append_inj' hone rfl
  obtain rfl := (List.cons.inj hpiece).1
  have hne : last ++ [d] ≠ [] := List.append_ne_nil_of_right_ne_nil _ (List.cons_ne_nil _ _)
  unfold collapsedChars
  rw [hmore, if_neg hc, hpieces, filter_concat hne,
    filter_concat (List.append_ne_nil_of_right_ne_nil _ (List.cons_ne_nil _ _)), intercalate_concat_append]

end Appended

/-! ## Characters that are replaced -/

theorem toList_replaceChar (text : String) (old : Char) :
    (replaceChar text old "").toList = text.toList.filter (· ≠ old) := by
  unfold replaceChar
  rw [String.toList_join]
  induction text.toList with
  | nil => rfl
  | cons c chars ih =>
    by_cases hold : c = old
    · simpa [hold] using ih
    · simpa [hold] using ih

/-- A text without the character is not changed. -/
theorem replaceChar_of_notMem {text : String} {old : Char} (h : old ∉ text.toList) (new : String) :
    replaceChar text old new = text := by
  have hjoin : (text.toList.map fun c ↦ if c = old then new else String.singleton c) =
      text.toList.map String.singleton := by
    apply List.map_congr_left
    intro c hc
    refine if_neg ?_
    rintro rfl
    exact h hc
  unfold replaceChar
  rw [hjoin]
  apply String.toList_injective
  rw [String.toList_join]
  induction text.toList with
  | nil => rfl
  | cons c chars ih => simp [ih]

/-! ## The normal form of a text -/

/-- A text without white space that NFKC keeps is normal. -/
theorem normalizeText_of_forall {python : Python} {value : Value} {text : String} (hvalue : value.asStr = some text)
    (hnfkc : python.nfkc text = text) (h : ∀ c ∈ text.toList, isSpace c = false) :
    normalizeText python value false = some text := by
  have hne : text ≠ "" := by
    rintro rfl
    have hstr := asStr_of_asStr hvalue
    cases hstr
  unfold normalizeText
  rw [hvalue, Option.bind_some, hnfkc, collapseSpaces_of_forall h hne, nonEmpty, if_neg hne]
  rfl

end TenderPhase1.Crawler
