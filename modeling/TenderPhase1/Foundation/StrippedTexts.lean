import TenderPhase1.Foundation.UrlSplit

/-!
# Stripped texts

A text is stripped if neither its first nor its last character is white space. The
ends of a joined text are those of its first and its last part.
-/

namespace TenderPhase1.PyText

def Stripped (text : String) : Prop := strip text = text

instance : DecidablePred Stripped := fun _ ↦ inferInstanceAs (Decidable (_ = _))

section Chars

variable {chars front rest : List Char}

theorem dropWhile_space_iff : chars.dropWhile isSpace = chars ↔ ∀ c ∈ chars.head?, isSpace c = false := by
  cases chars with
  | nil => simp
  | cons c rest => simp [List.dropWhile_eq_self_iff]

theorem rstrip_eq_self_iff : Urllib.rstrip chars = chars ↔ ∀ c ∈ chars.getLast?, isSpace c = false := by
  unfold Urllib.rstrip
  rw [List.rdropWhile_eq_self_iff]
  constructor
  · intro h c hc
    have hne : chars ≠ [] := by
      rintro rfl
      cases hc
    rw [List.getLast?_eq_some_getLast hne, Option.mem_some_iff] at hc
    rw [← hc]
    exact Bool.not_eq_true _ ▸ h hne
  · intro h hne
    rw [h _ (List.getLast?_eq_some_getLast hne)]
    exact Bool.false_ne_true

theorem stripChars_eq_self_iff : stripChars chars = chars ↔
    (∀ c ∈ chars.head?, isSpace c = false) ∧ ∀ c ∈ chars.getLast?, isSpace c = false := by
  rw [← dropWhile_space_iff, ← rstrip_eq_self_iff, Urllib.stripChars_eq]
  constructor
  · intro h
    have hsuffix : chars.dropWhile isSpace <:+ chars := List.dropWhile_suffix _
    have hprefix : Urllib.rstrip (chars.dropWhile isSpace) <+: chars.dropWhile isSpace := List.rdropWhile_prefix _ _
    rw [h] at hprefix
    have hdropped : chars.dropWhile isSpace = chars :=
      hsuffix.eq_of_length (le_antisymm hsuffix.length_le hprefix.length_le)
    exact ⟨hdropped, by rwa [hdropped] at h⟩
  · rintro ⟨hfirst, hlast⟩
    rw [hfirst, hlast]

/-- The end of a text is that of its last part. -/
theorem rstrip_append_iff (hrest : rest ≠ []) : Urllib.rstrip (front ++ rest) = front ++ rest ↔ Urllib.rstrip rest = rest := by
  rw [rstrip_eq_self_iff, rstrip_eq_self_iff, List.getLast?_append_of_ne_nil _ hrest]

end Chars

section Texts

variable {text first second : String}

theorem stripped_iff : Stripped text ↔
    (∀ c ∈ text.toList.head?, isSpace c = false) ∧ ∀ c ∈ text.toList.getLast?, isSpace c = false := by
  rw [← stripChars_eq_self_iff]
  unfold Stripped strip
  constructor
  · intro h
    have hlist := congrArg String.toList h
    rwa [String.toList_ofList] at hlist
  · intro h
    rw [h, String.ofList_toList]

/-- `_as_str` keeps the stripped texts that are not empty. -/
theorem asStr_some_iff : asStr (some text) = some text ↔ Stripped text ∧ text ≠ "" := by
  rw [asStr_some]
  constructor
  · intro h
    split at h
    · cases h
    · rename_i hne
      have hstrip : strip text = text := Option.some.inj h
      exact ⟨hstrip, hstrip ▸ hne⟩
  · rintro ⟨hstrip, hne⟩
    have hsame : strip text = text := hstrip
    rw [hsame, if_neg hne]

theorem stripped_of_asStr {value : Option String} (h : asStr value = some text) : Stripped text ∧ text ≠ "" :=
  asStr_some_iff.mp (asStr_of_asStr h)

/-- Two stripped texts make a stripped text. -/
theorem Stripped.append (hfirst : Stripped first) (hsecond : Stripped second) (hne : first ≠ "") (hrest : second ≠ "") :
    Stripped (first ++ second) := by
  rw [stripped_iff] at hfirst hsecond ⊢
  rw [String.toList_append, List.head?_append_of_ne_nil _ (String.toList_eq_nil_iff.not.mpr hne),
    List.getLast?_append_of_ne_nil _ (String.toList_eq_nil_iff.not.mpr hrest)]
  exact ⟨hfirst.1, hsecond.2⟩

end Texts

end TenderPhase1.PyText
