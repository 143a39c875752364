import TenderPhase1.Foundation.StrippedTexts
import TenderPhase1.Foundation.SuffixCode
import TenderPhase1.Spiders.DealListPage

/-!
# The ends of titles

The two loops of `normalize_title_for_source_dedup` take separators, business words and
suffix words off the end of a title. These form a suffix code, so the loops work on the
units that a title ends in: the first takes suffix words, each with a business word and
separators before it, the second separators and business words. A suffix word that the
second loop uncovers stays.
-/

namespace TenderPhase1.Spiders.GgzyGovCnDeal

open PyText Crawler SuffixCode

/-! ## Units -/

def isTitleSeparator (c : Char) : Bool := c = ' ' || titleSeparators.contains c

/-- What the loops take off the end of a title -/
inductive TitleUnit where
  | separator (c : Char) (h : isTitleSeparator c)
  | token (word : String) (h : word ∈ trailingTokens)
  | suffix (word : String) (h : word ∈ suffixWords)

def TitleUnit.chars : TitleUnit → List Char
  | .separator c _ => [c]
  | .token word _ | .suffix word _ => word.toList

def TitleUnit.isSeparator : TitleUnit → Bool
  | .separator _ _ => true
  | _ => false

def TitleUnit.isSuffix : TitleUnit → Bool
  | .suffix _ _ => true
  | _ => false

def titleWords : List String := trailingTokens ++ suffixWords

theorem length_titleWord {word : String} (h : word ∈ titleWords) : 2 ≤ word.toList.length := by
  revert h word
  decide

theorem last_titleWord {word : String} (h : word ∈ titleWords) :
    ∀ c ∈ word.toList.getLast?, isTitleSeparator c = false := by
  revert h word
  decide

theorem titleWord_unique {word other : String} (h : word ∈ titleWords) (hother : other ∈ titleWords)
    (hsuffix : word.toList <:+ other.toList) : word = other := by
  have hall : ∀ word ∈ titleWords, ∀ other ∈ titleWords, word.toList.isSuffixOf other.toList → word = other := by decide
  exact hall word h other hother (List.isSuffixOf_iff_suffix.mpr hsuffix)

theorem token_ne_suffix {word : String} (h : word ∈ trailingTokens) : word ∉ suffixWords := by
  revert h word
  decide

/-- What a unit is, by its characters -/
theorem TitleUnit.cases_chars (unit : TitleUnit) :
    (∃ c, unit.chars = [c] ∧ isTitleSeparator c ∧ unit.isSeparator) ∨
      ∃ word ∈ titleWords, unit.chars = word.toList ∧ unit.isSeparator = false := by
  cases unit with
  | separator c h => exact Or.inl ⟨c, rfl, h, rfl⟩
  | token word h => exact Or.inr ⟨word, List.mem_append_left _ h, rfl, rfl⟩
  | suffix word h => exact Or.inr ⟨word, List.mem_append_right _ h, rfl, rfl⟩

/-- The characters tell the units apart. -/
theorem TitleUnit.eq_of_chars {unit other : TitleUnit} (h : unit.chars = other.chars) : unit = other := by
  have hlength (word : String) (hword : word ∈ titleWords) (c : Char) : word.toList ≠ [c] := by
    intro hchars
    have htwo := length_titleWord hword
    rw [hchars, List.length_singleton] at htwo
    omega
  have hwords {word other : String} (hchars : word.toList = other.toList) : word = other := String.toList_injective hchars
  cases unit with
  | separator c hc =>
    cases other with
    | separator d hd =>
      obtain rfl := (List.cons.inj h).1
      rfl
    | token word hword => exact absurd h.symm (hlength word (List.mem_append_left _ hword) c)
    | suffix word hword => exact absurd h.symm (hlength word (List.mem_append_right _ hword) c)
  | token word hword =>
    cases other with
    | separator d hd => exact absurd h (hlength word (List.mem_append_left _ hword) d)
    | token other hother =>
      obtain rfl := hwords h
      rfl
    | suffix other hother =>
      obtain rfl := hwords h
      exact absurd hother (token_ne_suffix hword)
  | suffix word hword =>
    cases other with
    | separator d hd => exact absurd h (hlength word (List.mem_append_right _ hword) d)
    | token other hother =>
      obtain rfl := hwords h
      exact absurd hword (token_ne_suffix hother)
    | suffix other hother =>
      obtain rfl := hwords h
      rfl

/-- No unit is the end of another one. -/
theorem isSuffixCode_titleUnit : IsSuffixCode TitleUnit.chars where
  ne_nil unit := by
    rcases unit.cases_chars with ⟨c, hchars, -, -⟩ | ⟨word, hword, hchars, -⟩
    · rw [hchars]
      exact List.cons_ne_nil _ _
    · rw [hchars]
      intro hnil
      have htwo := length_titleWord hword
      rw [hnil] at htwo
      exact absurd htwo (by decide)
  eq_of_suffix unit other h := by
    apply TitleUnit.eq_of_chars
    rcases unit.cases_chars with ⟨c, hchars, hc, -⟩ | ⟨word, hword, hchars, -⟩
    · rcases other.cases_chars with ⟨d, hother, -, -⟩ | ⟨other, hmem, hother, -⟩
      · rw [hchars, hother] at h ⊢
        exact h.eq_of_length rfl
      · rw [hchars, hother] at h
        obtain ⟨front, hfront⟩ := h
        have hlast : other.toList.getLast? = some c := by
          rw [← hfront, List.getLast?_concat]
        rw [last_titleWord hmem c hlast] at hc
        cases hc
    · rcases other.cases_chars with ⟨d, hother, -, -⟩ | ⟨other, hmem, hother, -⟩
      · rw [hchars, hother] at h
        have htwo := length_titleWord hword
        have hone := h.length_le
        rw [List.length_singleton] at hone
        omega
      · rw [hchars, hother] at h ⊢
        rw [titleWord_unique hword hmem h]

/-! ## The loops on units, the last unit first -/

def dropToken : List TitleUnit → List TitleUnit
  | .token _ _ :: rest => rest
  | units => units

def dropSeparators (units : List TitleUnit) : List TitleUnit := units.dropWhile TitleUnit.isSeparator

theorem length_dropToken_le (units : List TitleUnit) : (dropToken units).length ≤ units.length := by
  unfold dropToken
  split
  · exact Nat.le_succ _
  · rfl

theorem length_dropSeparators_le (units : List TitleUnit) : (dropSeparators units).length ≤ units.length :=
  (List.dropWhile_sublist _).length_le

/-- What the first loop leaves -/
def afterSuffixes : List TitleUnit → List TitleUnit
  | .suffix _ _ :: rest => afterSuffixes (dropSeparators (dropToken rest))
  | units => units
  termination_by units => units.length
  decreasing_by
    have hseparators := length_dropSeparators_le (dropToken rest)
    have htoken := length_dropToken_le rest
    rw [List.length_cons]
    omega

/-- What both loops leave -/
def leftUnits (units : List TitleUnit) : List TitleUnit := (afterSuffixes units).dropWhile (!·.isSuffix)

theorem afterSuffixes_of_head {units : List TitleUnit} (h : ∀ unit ∈ units.head?, unit.isSuffix = false) :
    afterSuffixes units = units := by
  unfold afterSuffixes
  split
  · cases h _ rfl
  · rfl

theorem afterSuffixes_suffix (word : String) (h : word ∈ suffixWords) (rest : List TitleUnit) :
    afterSuffixes (.suffix word h :: rest) = afterSuffixes (dropSeparators (dropToken rest)) := by
  rw [afterSuffixes]

/-! ## Texts that end in units -/

/-- The white space of a text is blanks, and none stands in front. -/
structure Spaced (chars : List Char) : Prop where
  blank : ∀ c ∈ chars, isSpace c → c = ' '
  head : ∀ c ∈ chars.head?, isSpace c = false

theorem Spaced.of_append {front rest : List Char} (h : Spaced (front ++ rest)) : Spaced front where
  blank c hc := h.blank c (List.mem_append_left _ hc)
  head c hc := by
    cases front with
    | nil => cases hc
    | cons first front => exact h.head c hc

section Texts

variable {front : List Char} {units rest : List TitleUnit}

theorem isTitleSeparator_iff {c : Char} (h : isSpace c → c = ' ') :
    isTitleSeparator c = (isSpace c || titleSeparators.contains c) := by
  have hblank : isSpace ' ' = true := by decide
  unfold isTitleSeparator
  by_cases hc : c = ' '
  · rw [hc, hblank]
    rfl
  · have hspace : isSpace c = false := Bool.eq_false_iff.mpr fun hspace ↦ hc (h hspace)
    rw [decide_eq_false hc, hspace]

theorem last_flat (hbare : Bare TitleUnit.chars front) (hunits : ∀ unit ∈ units.head?, unit.isSeparator = false) :
    ∀ c ∈ (front ++ flat TitleUnit.chars units).getLast?, isTitleSeparator c = false := by
  intro c hc
  by_contra hseparator
  rw [Bool.not_eq_false] at hseparator
  obtain ⟨before, hbefore⟩ := List.getLast?_eq_some_iff.mp hc
  have hsuffix : (TitleUnit.separator c hseparator).chars <:+ front ++ flat TitleUnit.chars units :=
    ⟨before, hbefore.symm⟩
  obtain ⟨rest, rfl⟩ := exists_cons_of_suffix isSuffixCode_titleUnit hbare hsuffix
  cases hunits _ rfl

theorem strip_flat (hspaced : Spaced (front ++ flat TitleUnit.chars units)) (hbare : Bare TitleUnit.chars front)
    (hunits : ∀ unit ∈ units.head?, unit.isSeparator = false) :
    strip (String.ofList (front ++ flat TitleUnit.chars units)) = String.ofList (front ++ flat TitleUnit.chars units) := by
  have hkept : stripChars (front ++ flat TitleUnit.chars units) = front ++ flat TitleUnit.chars units := by
    refine stripChars_eq_self_iff.mpr ⟨hspaced.head, fun c hc ↦ ?_⟩
    have hlast := last_flat hbare hunits c hc
    rw [isTitleSeparator_iff (hspaced.blank c (List.mem_of_mem_getLast? hc)), Bool.or_eq_false_iff] at hlast
    exact hlast.1
  unfold strip
  rw [String.toList_ofList, hkept]

theorem head_dropSeparators (units : List TitleUnit) : ∀ unit ∈ (dropSeparators units).head?, unit.isSeparator = false := by
  intro unit hunit
  have hhead := List.head?_dropWhile_not TitleUnit.isSeparator units
  unfold dropSeparators at hunit
  rw [hunit] at hhead
  exact hhead

theorem exists_eq_dropSeparators (units : List TitleUnit) :
    ∃ separators : List TitleUnit, units = separators ++ dropSeparators units ∧ ∀ unit ∈ separators, unit.isSeparator :=
  ⟨units.takeWhile TitleUnit.isSeparator, List.takeWhile_append_dropWhile.symm, fun _ h ↦ List.mem_takeWhile_imp h⟩

theorem spaced_drop {dropped : List TitleUnit} (h : Spaced (front ++ flat TitleUnit.chars (dropped ++ rest))) :
    Spaced (front ++ flat TitleUnit.chars rest) := by
  rw [flat_append, ← List.append_assoc] at h
  exact h.of_append

theorem spaced_dropSeparators (h : Spaced (front ++ flat TitleUnit.chars units)) :
    Spaced (front ++ flat TitleUnit.chars (dropSeparators units)) := by
  obtain ⟨separators, hunits, -⟩ := exists_eq_dropSeparators units
  rw [hunits] at h
  exact spaced_drop h

theorem reverse_dropWhile_of_last {p : Char → Bool} {chars : List Char} (h : ∀ c ∈ chars.getLast?, p c = false) :
    (chars.reverse.dropWhile p).reverse = chars := by
  rcases List.eq_nil_or_concat' chars with rfl | ⟨before, last, rfl⟩
  · rfl
  · have hlast := h last List.getLast?_concat
    rw [List.reverse_append, List.reverse_singleton, List.singleton_append,
      List.dropWhile_cons_of_neg (by rw [hlast]; exact Bool.false_ne_true)]
    simp

/-- Stripping separators takes the separators that come last. -/
theorem stripSeparators_flat (hspaced : Spaced (front ++ flat TitleUnit.chars units)) (hbare : Bare TitleUnit.chars front) :
    stripSeparators (String.ofList (front ++ flat TitleUnit.chars units)) =
      String.ofList (front ++ flat TitleUnit.chars (dropSeparators units)) := by
  have hdrop (units : List TitleUnit) : ((front ++ flat TitleUnit.chars units).reverse.dropWhile isTitleSeparator).reverse =
      front ++ flat TitleUnit.chars (dropSeparators units) := by
    induction units with
    | nil => exact reverse_dropWhile_of_last (last_flat hbare fun _ h ↦ (nomatch h))
    | cons unit rest ih =>
      by_cases hseparator : unit.isSeparator
      · rcases unit.cases_chars with ⟨c, hchars, hc, -⟩ | ⟨word, -, -, hword⟩
        · have hflat : (front ++ flat TitleUnit.chars (unit :: rest)).reverse =
              c :: (front ++ flat TitleUnit.chars rest).reverse := by
            rw [flat, hchars, ← List.append_assoc, List.reverse_append]
            rfl
          rw [hflat, List.dropWhile_cons_of_pos hc, ih, dropSeparators, dropSeparators,
            List.dropWhile_cons_of_pos hseparator]
        · rw [hword] at hseparator
          cases hseparator
      · have hlast : ∀ c ∈ (front ++ flat TitleUnit.chars (unit :: rest)).getLast?, isTitleSeparator c = false := by
          apply last_flat hbare
          rintro _ ⟨⟩
          exact Bool.eq_false_iff.mpr hseparator
        rw [reverse_dropWhile_of_last hlast, dropSeparators, List.dropWhile_cons_of_neg hseparator]
  have hpredicate : (fun c ↦ decide (c = ' ') || titleSeparators.contains c) = isTitleSeparator := rfl
  unfold stripSeparators
  rw [String.toList_ofList, hpredicate, hdrop]
  exact strip_flat (spaced_dropSeparators hspaced) hbare (head_dropSeparators units)

/-! ## The first loop -/

/-- The units that one match of `_MEANINGLESS_TITLE_SUFFIX_RE` takes -/
def IsEnding (units : List TitleUnit) : Prop :=
  ∃ word hword tokens separators, units = .suffix word hword :: (tokens ++ separators) ∧
    (tokens = [] ∨ ∃ token htoken, tokens = [.token token htoken]) ∧
      ∀ unit ∈ separators, TitleUnit.isSeparator unit

theorem exists_separators {chars : List Char} (h : ∀ c ∈ chars, isTitleSeparator c) :
    ∃ separators : List TitleUnit, flat TitleUnit.chars separators = chars ∧
      ∀ unit ∈ separators, unit.isSeparator := by
  induction chars using List.reverseRecOn with
  | nil => exact ⟨[], rfl, fun _ h ↦ absurd h List.not_mem_nil⟩
  | append_singleton chars c ih =>
    obtain ⟨separators, hflat, hall⟩ := ih fun d hd ↦ h d (List.mem_append_left _ hd)
    refine ⟨.separator c (h c (List.mem_append_right _ List.mem_cons_self)) :: separators, by rw [flat, hflat]; rfl, ?_⟩
    intro unit hunit
    rcases List.mem_cons.mp hunit with rfl | hunit
    · rfl
    · exact hall unit hunit

/-- Units that separate consist of separators. -/
theorem isTitleSeparator_of_mem_flat {separators : List TitleUnit} (h : ∀ unit ∈ separators, unit.isSeparator) :
    ∀ c ∈ flat TitleUnit.chars separators, isTitleSeparator c := by
  induction separators with
  | nil => exact fun c hc ↦ absurd hc List.not_mem_nil
  | cons unit separators ih =>
    obtain ⟨hunit, hrest⟩ := List.forall_mem_cons.mp h
    intro c hc
    rw [flat, List.mem_append] at hc
    rcases hc with hc | hc
    · exact ih hrest c hc
    · rcases unit.cases_chars with ⟨d, hchars, hd, -⟩ | ⟨word, -, -, hword⟩
      · rw [hchars, List.mem_singleton] at hc
        rw [hc]
        exact hd
      · rw [hword] at hunit
        cases hunit

/-- The words of a match begin with no separator. -/
theorem dropWhile_words (token word : String) (htoken : token ∈ "" :: trailingTokens) (hword : word ∈ suffixWords) :
    (token ++ word).toList.dropWhile (fun c ↦ isSpace c || titleSeparators.contains c) = (token ++ word).toList := by
  have hall : ∀ token ∈ "" :: trailingTokens, ∀ word ∈ suffixWords,
      (token ++ word).toList.dropWhile (fun c ↦ isSpace c || titleSeparators.contains c) = (token ++ word).toList := by
    decide
  exact hall token htoken word hword

/-- Separators, a business word or none, and a suffix word are an ending. -/
theorem exists_ending {separators : List Char} (h : ∀ c ∈ separators, isTitleSeparator c) {token word : String}
    (htoken : token ∈ "" :: trailingTokens) (hword : word ∈ suffixWords) :
    ∃ ending, IsEnding ending ∧ flat TitleUnit.chars ending = separators ++ (token ++ word).toList := by
  obtain ⟨units, hflat, hall⟩ := exists_separators h
  rcases List.mem_cons.mp htoken with rfl | htoken
  · refine ⟨.suffix word hword :: ([] ++ units), ⟨word, hword, [], units, rfl, Or.inl rfl, hall⟩, ?_⟩
    rw [← hflat, String.empty_append]
    rfl
  · refine ⟨.suffix word hword :: ([.token token htoken] ++ units),
      ⟨word, hword, _, units, rfl, Or.inr ⟨token, htoken, rfl⟩, hall⟩, ?_⟩
    rw [← hflat, String.toList_append, ← List.append_assoc]
    rfl

/-- The suffix pattern matches the texts of endings. -/
theorem isMeaninglessSuffix_iff {chars : List Char} (hblank : ∀ c ∈ chars, isSpace c → c = ' ') :
    isMeaninglessSuffix chars ↔ ∃ ending, IsEnding ending ∧ chars = flat TitleUnit.chars ending := by
  have hseparator : ∀ c ∈ chars, (isSpace c || titleSeparators.contains c) = isTitleSeparator c :=
    fun c hc ↦ (isTitleSeparator_iff (hblank c hc)).symm
  unfold isMeaninglessSuffix
  simp only [List.any_eq_true, decide_eq_true_eq]
  constructor
  · rintro ⟨token, htoken, word, hword, hwords⟩
    have hall : ∀ c ∈ chars.takeWhile (fun c ↦ isSpace c || titleSeparators.contains c), isTitleSeparator c := by
      intro c hc
      have hmem := List.mem_takeWhile_imp hc
      rwa [hseparator c (List.takeWhile_subset _ hc)] at hmem
    obtain ⟨ending, hending, hflat⟩ := exists_ending hall htoken hword
    refine ⟨ending, hending, ?_⟩
    rw [hflat, ← hwords, String.toList_ofList, List.takeWhile_append_dropWhile]
  · rintro ⟨_, ⟨word, hword, tokens, separators, rfl, htokens, hall⟩, rfl⟩
    have hdrop (text : String) (hmem : ∀ c ∈ flat TitleUnit.chars separators, (isSpace c || titleSeparators.contains c))
        (hkept : text.toList.dropWhile (fun c ↦ isSpace c || titleSeparators.contains c) = text.toList) :
        String.ofList ((flat TitleUnit.chars separators ++ text.toList).dropWhile
          fun c ↦ isSpace c || titleSeparators.contains c) = text := by
      rw [List.dropWhile_append_of_pos hmem, hkept, String.ofList_toList]
    have hmem : ∀ c ∈ flat TitleUnit.chars separators, (isSpace c || titleSeparators.contains c) := by
      intro c hc
      have hin : c ∈ flat TitleUnit.chars (.suffix word hword :: (tokens ++ separators)) := by
        rw [flat, flat_append]
        exact List.mem_append_left _ (List.mem_append_left _ hc)
      rw [hseparator c hin]
      exact isTitleSeparator_of_mem_flat hall c hc
    rcases htokens with rfl | ⟨token, htoken, rfl⟩
    · refine ⟨"", List.mem_cons_self, word, hword, ?_⟩
      rw [String.empty_append]
      have hwords := dropWhile_words "" word List.mem_cons_self hword
      rw [String.empty_append] at hwords
      exact hdrop word hmem hwords
    · refine ⟨token, List.mem_cons_of_mem _ htoken, word, hword, ?_⟩
      have hwords := dropWhile_words token word (List.mem_cons_of_mem _ htoken) hword
      have htext := hdrop (token ++ word) hmem hwords
      rw [String.toList_append, ← List.append_assoc] at htext
      exact htext

/-- The search takes the longest match, the one that begins first. -/
theorem findSome?_tails {Result : Type} {f : List Char → Option Result} {before tail : List Char}
    (h : ∀ longer, longer <:+ before ++ tail → tail.length < longer.length → f longer = none) :
    (before ++ tail).tails.findSome? f = tail.tails.findSome? f := by
  induction before with
  | nil => rfl
  | cons c before ih =>
    have hfirst : f (c :: before ++ tail) = none := by
      apply h _ (List.suffix_refl _)
      rw [List.length_append, List.length_cons]
      omega
    rw [List.cons_append] at hfirst
    rw [List.cons_append, List.tails_cons, List.findSome?_cons, hfirst]
    exact ih fun longer hlonger ↦ h longer (hlonger.trans (List.suffix_cons _ _))

def takenToken : List TitleUnit → List TitleUnit
  | .token word h :: _ => [.token word h]
  | _ => []

theorem takenToken_append (units : List TitleUnit) : takenToken units ++ dropToken units = units := by
  unfold takenToken dropToken
  split <;> rfl

theorem takenToken_cases (units : List TitleUnit) :
    takenToken units = [] ∨ ∃ token htoken, takenToken units = [.token token htoken] := by
  cases units with
  | nil => exact Or.inl rfl
  | cons unit rest =>
    cases unit with
    | token token htoken => exact Or.inr ⟨token, htoken, rfl⟩
    | separator c h => exact Or.inl rfl
    | suffix word h => exact Or.inl rfl

/-- The longest ending of units of which the last is a suffix word -/
def longestEnding (word : String) (hword : word ∈ suffixWords) (rest : List TitleUnit) : List TitleUnit :=
  .suffix word hword :: (takenToken rest ++ (dropToken rest).takeWhile TitleUnit.isSeparator)

theorem isEnding_longestEnding (word : String) (hword : word ∈ suffixWords) (rest : List TitleUnit) :
    IsEnding (longestEnding word hword rest) :=
  ⟨word, hword, _, _, rfl, takenToken_cases rest, fun _ h ↦ List.mem_takeWhile_imp h⟩

theorem longestEnding_append (word : String) (hword : word ∈ suffixWords) (rest : List TitleUnit) :
    longestEnding word hword rest ++ dropSeparators (dropToken rest) = .suffix word hword :: rest := by
  unfold longestEnding dropSeparators
  rw [List.cons_append, List.append_assoc, List.takeWhile_append_dropWhile, takenToken_append]

/-- The pattern takes the longest ending there is. -/
theorem prefix_longestEnding {word : String} {hword : word ∈ suffixWords} {ending more : List TitleUnit}
    (h : IsEnding ending) (hunits : .suffix word hword :: rest = ending ++ more) :
    ending <+: longestEnding word hword rest := by
  obtain ⟨other, hother, tokens, separators, rfl, htokens, hall⟩ := h
  rw [List.cons_append] at hunits
  obtain ⟨hsuffix, hrest⟩ := List.cons.inj hunits
  have htaken (after : List TitleUnit) : separators <+: (separators ++ after).takeWhile TitleUnit.isSeparator := by
    rw [List.takeWhile_append_of_pos hall]
    exact List.prefix_append _ _
  unfold longestEnding
  rw [hsuffix, List.cons_prefix_cons]
  refine ⟨rfl, ?_⟩
  rcases htokens with rfl | ⟨token, htoken, rfl⟩
  · cases separators with
    | nil => exact List.nil_prefix
    | cons unit separators =>
      cases unit with
      | separator c hc =>
        rw [hrest]
        exact htaken more
      | token token htoken => cases hall _ List.mem_cons_self
      | suffix word hword => cases hall _ List.mem_cons_self
  · rw [hrest]
    exact (List.prefix_append_right_inj _).mpr (htaken more)

/-- The first loop takes the longest ending off a text whose last unit is a suffix word. -/
theorem dropSuffix_suffix {word : String} {hword : word ∈ suffixWords} (hbare : Bare TitleUnit.chars front)
    (hspaced : Spaced (front ++ flat TitleUnit.chars (.suffix word hword :: rest))) :
    dropSuffix (String.ofList (front ++ flat TitleUnit.chars (.suffix word hword :: rest))) =
      String.ofList (front ++ flat TitleUnit.chars (dropSeparators (dropToken rest))) := by
  have hsplit := longestEnding_append word hword rest
  have htext : front ++ flat TitleUnit.chars (.suffix word hword :: rest) =
      (front ++ flat TitleUnit.chars (dropSeparators (dropToken rest))) ++
        flat TitleUnit.chars (longestEnding word hword rest) := by
    rw [← hsplit, flat_append, List.append_assoc]
  have hmatch : isMeaninglessSuffix (flat TitleUnit.chars (longestEnding word hword rest)) := by
    refine (isMeaninglessSuffix_iff fun c hc ↦ ?_).mpr ⟨_, isEnding_longestEnding word hword rest, rfl⟩
    apply hspaced.blank c
    rw [htext]
    exact List.mem_append_right _ hc
  have hlongest : ∀ longer, longer <:+ front ++ flat TitleUnit.chars (.suffix word hword :: rest) →
      (flat TitleUnit.chars (longestEnding word hword rest)).length < longer.length →
        isMeaninglessSuffix longer = false := by
    intro longer hlonger hlength
    by_contra hmeaningless
    rw [Bool.not_eq_false,
      isMeaninglessSuffix_iff fun c hc ↦ hspaced.blank c (hlonger.subset hc)] at hmeaningless
    obtain ⟨ending, hending, rfl⟩ := hmeaningless
    obtain ⟨more, hmore⟩ := exists_append_of_suffix isSuffixCode_titleUnit hbare hlonger
    obtain ⟨extra, hextra⟩ := prefix_longestEnding hending hmore
    rw [← hextra, flat_append, List.length_append] at hlength
    omega
  have hremaining : Spaced (front ++ flat TitleUnit.chars (dropSeparators (dropToken rest))) := by
    rw [htext] at hspaced
    exact hspaced.of_append
  unfold dropSuffix
  rw [String.toList_ofList, String.length_ofList]
  dsimp only
  rw [htext] at hlongest ⊢
  rw [findSome?_tails fun longer hlonger hlength ↦ if_neg (by rw [hlongest longer hlonger hlength]; exact Bool.false_ne_true)]
  have hfound {f : List Char → Option ℕ} {tail : List Char} {n : ℕ} (h : f tail = some n) :
      tail.tails.findSome? f = some n := by
    cases tail with
    | nil => simp [h]
    | cons c tail => rw [List.tails_cons, List.findSome?_cons, h]
  rw [hfound (if_pos hmatch), Option.getD_some, List.length_append, Nat.add_sub_cancel, List.take_left]
  exact strip_flat hremaining hbare (head_dropSeparators _)

/-- It leaves a text that ends in none. -/
theorem dropSuffix_of_head (hbare : Bare TitleUnit.chars front) (hspaced : Spaced (front ++ flat TitleUnit.chars units))
    (hlast : ∀ c ∈ (front ++ flat TitleUnit.chars units).getLast?, isSpace c = false)
    (hunits : ∀ unit ∈ units.head?, unit.isSuffix = false) :
    dropSuffix (String.ofList (front ++ flat TitleUnit.chars units)) =
      String.ofList (front ++ flat TitleUnit.chars units) := by
  have hnone : ∀ tail ∈ (front ++ flat TitleUnit.chars units).tails, isMeaninglessSuffix tail = false := by
    intro tail htail
    have hsuffix := (List.mem_tails _ _).mp htail
    by_contra hmeaningless
    rw [Bool.not_eq_false,
      isMeaninglessSuffix_iff fun c hc ↦ hspaced.blank c (hsuffix.subset hc)] at hmeaningless
    obtain ⟨ending, ⟨word, hword, tokens, separators, rfl, -⟩, rfl⟩ := hmeaningless
    obtain ⟨more, hmore⟩ := exists_append_of_suffix isSuffixCode_titleUnit hbare hsuffix
    rw [hmore] at hunits
    cases hunits _ rfl
  have hsearch : (front ++ flat TitleUnit.chars units).tails.findSome? (fun tail ↦
      if isMeaninglessSuffix tail then
        some ((front ++ flat TitleUnit.chars units).length - tail.length) else none) = none := by
    rw [List.findSome?_eq_none_iff]
    intro tail htail
    rw [hnone tail htail]
    rfl
  have hkept : stripChars (front ++ flat TitleUnit.chars units) = front ++ flat TitleUnit.chars units :=
    stripChars_eq_self_iff.mpr ⟨hspaced.head, hlast⟩
  unfold dropSuffix
  rw [String.toList_ofList, String.length_ofList]
  dsimp only
  rw [hsearch, Option.getD_none, List.take_length, strip, String.toList_ofList, hkept]

/-- What the first loop leaves of a text -/
theorem repeatUntilSame_dropSuffix (hbare : Bare TitleUnit.chars front) {fuel : ℕ} (hfuel : units.length ≤ fuel)
    (hspaced : Spaced (front ++ flat TitleUnit.chars units))
    (hlast : ∀ c ∈ (front ++ flat TitleUnit.chars units).getLast?, isSpace c = false) :
    repeatUntilSame dropSuffix fuel (String.ofList (front ++ flat TitleUnit.chars units)) =
      String.ofList (front ++ flat TitleUnit.chars (afterSuffixes units)) := by
  induction fuel generalizing units with
  | zero =>
    obtain rfl := List.length_eq_zero_iff.mp (Nat.le_zero.mp hfuel)
    have hnil : afterSuffixes [] = [] := afterSuffixes_of_head fun _ h ↦ absurd h (by simp)
    rw [repeatUntilSame, hnil]
  | succ fuel ih =>
    by_cases hsuffix : ∀ unit ∈ units.head?, unit.isSuffix = false
    · rw [repeatUntilSame, dropSuffix_of_head hbare hspaced hlast hsuffix, if_pos rfl, afterSuffixes_of_head hsuffix]
    · push Not at hsuffix
      obtain ⟨unit, hunit, hsuffix⟩ := hsuffix
      obtain ⟨rest, rfl⟩ := List.head?_eq_some_iff.mp hunit
      cases unit with
      | separator c h => exact absurd rfl hsuffix
      | token word h => exact absurd rfl hsuffix
      | suffix word hword =>
        have hdropped := dropSuffix_suffix hbare hspaced
        have hseparators := length_dropSeparators_le (dropToken rest)
        have htoken := length_dropToken_le rest
        rw [List.length_cons] at hfuel
        have hremaining : Spaced (front ++ flat TitleUnit.chars (dropSeparators (dropToken rest))) := by
          rw [← longestEnding_append word hword rest] at hspaced
          exact spaced_drop hspaced
        have hremainingLast : ∀ c ∈ (front ++ flat TitleUnit.chars (dropSeparators (dropToken rest))).getLast?,
            isSpace c = false := by
          intro c hc
          have hseparator := last_flat hbare (head_dropSeparators _) c hc
          rw [isTitleSeparator_iff (hremaining.blank c (List.mem_of_mem_getLast? hc)), Bool.or_eq_false_iff] at hseparator
          exact hseparator.1
        have hchanged : String.ofList (front ++ flat TitleUnit.chars (dropSeparators (dropToken rest))) ≠
            String.ofList (front ++ flat TitleUnit.chars (.suffix word hword :: rest)) := by
          intro hsame
          have hlengths := congrArg String.length hsame
          have hword := length_titleWord (List.mem_append_right _ hword)
          rw [← longestEnding_append word ‹_› rest, flat_append, String.length_ofList, String.length_ofList,
            List.length_append, List.length_append, List.length_append, longestEnding, flat, List.length_append] at hlengths
          have hchars : (TitleUnit.suffix word ‹_›).chars = word.toList := rfl
          rw [hchars] at hlengths
          omega
        rw [repeatUntilSame, hdropped, if_neg hchanged, ih (by omega) hremaining hremainingLast,
          afterSuffixes_suffix]

end Texts

/-! ## Lower case -/

/-- White space, separators, and the characters of the words -/
def IsTitleChar (c : Char) : Prop := isSpace c ∨ c ∈ titleSeparators ∨ ∃ word ∈ titleWords, c ∈ word.toList

/-- The NFKC form of such a character -/
def compatible (c : Char) : Char :=
  match c with
  | '：' => ':'
  | '，' => ','
  | '；' => ';'
  | other =>
      if other.toNat = 0xA0 ∨ (0x2000 ≤ other.toNat ∧ other.toNat ≤ 0x200A) ∨ other.toNat = 0x202F ∨
        other.toNat = 0x205F ∨ other.toNat = 0x3000 then ' ' else other

/-- `unicodedata` and `str.lower` on these characters: none has a case, none is put together with
the character before it. -/
structure TitleTexts (python : Python) : Prop where
  nfkc_push : ∀ text c, IsTitleChar c → python.nfkc (text.push c) = (python.nfkc text).push (compatible c)
  lower_push : ∀ text c, IsTitleChar c → python.lower (text.push c) = (python.lower text).push c
  lower_last : ∀ text c, IsTitleChar c → (python.lower text).toList.getLast? = some c → text.toList.getLast? = some c
  lower_space : ∀ text, (∀ c ∈ text.toList, isSpace c = false) → ∀ c ∈ (python.lower text).toList, isSpace c = false
  lower_lower : ∀ text, python.lower (python.lower text) = python.lower text
  lower_eq_empty : ∀ text, python.lower text = "" ↔ text = ""

section Lower

variable {python : Python} {text : String} {chars : List Char}

theorem isTitleChar_of_mem {word : String} (h : word ∈ titleWords) : ∀ c ∈ word.toList, IsTitleChar c :=
  fun _ hc ↦ Or.inr (Or.inr ⟨word, h, hc⟩)

theorem isTitleChar_of_isTitleSeparator {c : Char} (h : isTitleSeparator c) : IsTitleChar c := by
  unfold isTitleSeparator at h
  rw [Bool.or_eq_true] at h
  rcases h with hblank | hseparator
  · rw [of_decide_eq_true hblank]
    exact Or.inl (by decide)
  · exact Or.inr (Or.inl (List.contains_iff_mem.mp hseparator))

theorem TitleUnit.isTitleChar (unit : TitleUnit) : ∀ c ∈ unit.chars, IsTitleChar c := by
  intro c hc
  rcases unit.cases_chars with ⟨d, hchars, hd, -⟩ | ⟨word, hword, hchars, -⟩
  · rw [hchars, List.mem_singleton] at hc
    rw [hc]
    exact isTitleChar_of_isTitleSeparator hd
  · rw [hchars] at hc
    exact isTitleChar_of_mem hword c hc

/-- Lower case keeps the characters that a text ends in. -/
theorem lower_append (texts : TitleTexts python) (h : ∀ c ∈ chars, IsTitleChar c) (text : String) :
    python.lower (text ++ String.ofList chars) = python.lower text ++ String.ofList chars := by
  induction chars using List.reverseRecOn with
  | nil => simp
  | append_singleton chars c ih =>
    have hpush (text : String) : text ++ String.ofList (chars ++ [c]) = (text ++ String.ofList chars).push c := by
      apply String.toList_injective
      simp
    rw [hpush, hpush, texts.lower_push _ c (h c (List.mem_append_right _ List.mem_cons_self)),
      ih fun d hd ↦ h d (List.mem_append_left _ hd)]

theorem lower_titleWord (texts : TitleTexts python) {word : String} (h : word ∈ titleWords) : python.lower word = word := by
  have happend := lower_append texts (isTitleChar_of_mem h) ""
  rwa [String.ofList_toList, String.empty_append, (texts.lower_eq_empty "").mpr rfl, String.empty_append] at happend

/-- Lower case hides no ending, and makes none. -/
theorem suffix_lower_iff (texts : TitleTexts python) (h : ∀ c ∈ chars, IsTitleChar c) :
    chars <:+ (python.lower text).toList ↔ chars <:+ text.toList := by
  constructor
  · intro hsuffix
    induction chars using List.reverseRecOn generalizing text with
    | nil => exact List.nil_suffix
    | append_singleton chars c ih =>
      have hc := h c (List.mem_append_right _ List.mem_cons_self)
      obtain ⟨before, hbefore⟩ := hsuffix
      rw [← List.append_assoc] at hbefore
      have hlast := texts.lower_last text c hc (by rw [← hbefore, List.getLast?_concat])
      obtain ⟨front, hfront⟩ := List.getLast?_eq_some_iff.mp hlast
      have htext : text = (String.ofList front).push c := by
        apply String.toList_injective
        rw [hfront, String.toList_push, String.toList_ofList]
      rw [htext, texts.lower_push _ c hc, String.toList_push] at hbefore
      have hshorter : chars <:+ (python.lower (String.ofList front)).toList :=
        ⟨before, List.append_cancel_right hbefore⟩
      obtain ⟨rest, hrest⟩ := ih (fun d hd ↦ h d (List.mem_append_left _ hd)) hshorter
      rw [String.toList_ofList] at hrest
      exact ⟨rest, by rw [← List.append_assoc, hrest, hfront]⟩
  · rintro ⟨before, hbefore⟩
    have htext : text = String.ofList before ++ String.ofList chars := by
      apply String.toList_injective
      rw [String.toList_append, String.toList_ofList, String.toList_ofList, hbefore]
    rw [htext, lower_append texts h, String.toList_append, String.toList_ofList]
    exact List.suffix_append _ _

/-! ## The second loop -/

variable {front : List Char} {units : List TitleUnit}

theorem dropWhile_dropSeparators (units : List TitleUnit) :
    (dropSeparators units).dropWhile (!·.isSuffix) = units.dropWhile (!·.isSuffix) := by
  induction units with
  | nil => rfl
  | cons unit rest ih =>
    cases unit with
    | separator c h => exact ih
    | token word h => rfl
    | suffix word h => rfl

/-- What the second loop leaves of a text -/
theorem dropTrailingTokens_flat (texts : TitleTexts python) (hbare : Bare TitleUnit.chars front) {fuel : ℕ}
    (hfuel : units.length < fuel) (hspaced : Spaced (front ++ flat TitleUnit.chars units)) :
    dropTrailingTokens python fuel (String.ofList (front ++ flat TitleUnit.chars units)) =
      String.ofList (front ++ flat TitleUnit.chars (units.dropWhile (!·.isSuffix))) := by
  induction fuel generalizing units with
  | zero => exact absurd hfuel (Nat.not_lt_zero _)
  | succ fuel ih =>
    have hspacedDropped := spaced_dropSeparators hspaced
    have hhead := head_dropSeparators units
    have hlength := length_dropSeparators_le units
    rw [dropTrailingTokens, stripSeparators_flat hspaced hbare]
    rw [← dropWhile_dropSeparators units]
    generalize dropSeparators units = units at *
    -- a token is found just where it is the last unit
    have hfound {token : String} (htoken : token ∈ trailingTokens)
        (h : endsWith (python.lower (String.ofList (front ++ flat TitleUnit.chars units))) (python.lower token)) :
        ∃ rest, units = .token token htoken :: rest := by
      have hmem : token ∈ titleWords := List.mem_append_left _ htoken
      rw [lower_titleWord texts hmem, endsWith, List.isSuffixOf_iff_suffix,
        suffix_lower_iff texts (isTitleChar_of_mem hmem), String.toList_ofList] at h
      have hsuffix : (TitleUnit.token token htoken).chars <:+ front ++ flat TitleUnit.chars units := h
      exact exists_cons_of_suffix isSuffixCode_titleUnit hbare hsuffix
    cases hfind : trailingTokens.find? fun token ↦
        endsWith (python.lower (String.ofList (front ++ flat TitleUnit.chars units))) (python.lower token) with
    | some token =>
      have htoken : token ∈ trailingTokens := List.mem_of_find?_eq_some hfind
      obtain ⟨rest, hunits⟩ := hfound htoken (List.find?_some (p := fun token ↦
        endsWith (python.lower (String.ofList (front ++ flat TitleUnit.chars units))) (python.lower token)) hfind)
      clear hfind
      subst hunits
      have hspacedRest : Spaced (front ++ flat TitleUnit.chars rest) := by
        have hspacedCons : Spaced (front ++ flat TitleUnit.chars ([.token token htoken] ++ rest)) := hspacedDropped
        exact spaced_drop hspacedCons
      have hcut : (String.ofList (front ++ flat TitleUnit.chars (.token token htoken :: rest))).toList.take
          ((String.ofList (front ++ flat TitleUnit.chars (.token token htoken :: rest))).length - token.length) =
            front ++ flat TitleUnit.chars rest := by
        have hchars : (TitleUnit.token token htoken).chars = token.toList := rfl
        rw [String.toList_ofList, String.length_ofList, flat, hchars, ← List.append_assoc, List.length_append,
          String.length_toList, Nat.add_sub_cancel, List.take_left]
      dsimp only
      rw [hcut, stripSeparators_flat hspacedRest hbare]
      have hshorter := length_dropSeparators_le rest
      rw [List.length_cons] at hlength
      rw [ih (by omega) (spaced_dropSeparators hspacedRest), dropWhile_dropSeparators]
      rfl
    | none =>
      dsimp only
      cases units with
      | nil => rfl
      | cons unit rest =>
        cases unit with
        | separator c h => cases hhead _ rfl
        | suffix word hword => rfl
        | token token htoken =>
          have hmissing := List.find?_eq_none.mp hfind token htoken
          have hmem : token ∈ titleWords := List.mem_append_left _ htoken
          rw [lower_titleWord texts hmem, endsWith, List.isSuffixOf_iff_suffix,
            suffix_lower_iff texts (isTitleChar_of_mem hmem), String.toList_ofList] at hmissing
          exact absurd ⟨front ++ flat TitleUnit.chars rest, by rw [flat, List.append_assoc]; rfl⟩ hmissing

end Lower

end TenderPhase1.Spiders.GgzyGovCnDeal
