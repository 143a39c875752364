import TenderPhase1.Foundation.StrptimeTexts

/-!
# One text, one date

A text with year, month and day in one of the usual orders of digits and separators names one date,
whatever reads it: two formats with that date part that both match a text give the same date, and
so does the ISO format.
-/

namespace TenderPhase1.ListedDates

open PyText Calendar IsoTexts StrptimeTexts

/-! ## The three parts of a date -/

theorem between_iff {low high c : Char} : between low high c = true ↔ low.toNat ≤ c.toNat ∧ c.toNat ≤ high.toNat := by
  unfold between
  rw [decide_eq_true_eq]
  rfl

theorem isDigit_of_between {low high c : Char} (h : between low high c = true) (hlow : '0'.toNat ≤ low.toNat)
    (hhigh : high.toNat ≤ '9'.toNat) : c.isDigit := by
  obtain ⟨hle, hge⟩ := between_iff.mp h
  exact Char.isDigit_iff_toNat.mpr ⟨hlow.trans hle, hge.trans hhigh⟩

theorem matches_year {text : List Char} (h : Matches .year text) : text.length = 4 ∧ ∀ c ∈ text, isDecimal c := by
  obtain ⟨classes, hclasses, hall⟩ := (if_neg (by decide)).mp h
  obtain rfl := List.mem_singleton.mp hclasses
  simp only [List.forall₂_cons_left_iff, List.forall₂_nil_left_iff] at hall
  obtain ⟨a, _, ha, ⟨b, _, hb, ⟨c, _, hc, ⟨d, _, hd, rfl, rfl⟩, rfl⟩, rfl⟩, rfl⟩ := hall
  refine ⟨rfl, ?_⟩
  simp only [List.mem_cons, List.not_mem_nil, or_false]
  rintro _ (rfl | rfl | rfl | rfl) <;> assumption

/-- A month is one digit or two. -/
theorem matches_month {text : List Char} (h : Matches .month text) :
    (text.length = 1 ∨ text.length = 2) ∧ ∀ c ∈ text, c.isDigit := by
  obtain ⟨classes, hclasses, hall⟩ := (if_neg (by decide)).mp h
  have hdigit {low high c : Char} (hlow : '0'.toNat ≤ low.toNat) (hhigh : high.toNat ≤ '9'.toNat)
      (hc : between low high c = true) : c.isDigit := isDigit_of_between hc hlow hhigh
  simp only [alternatives, List.mem_cons, List.not_mem_nil, or_false] at hclasses
  rcases hclasses with rfl | rfl | rfl
  · simp only [List.forall₂_cons_left_iff, List.forall₂_nil_left_iff] at hall
    obtain ⟨a, _, ha, ⟨b, _, hb, rfl, rfl⟩, rfl⟩ := hall
    refine ⟨Or.inr rfl, ?_⟩
    simp only [List.mem_cons, List.not_mem_nil, or_false]
    rintro _ (rfl | rfl)
    · exact hdigit (by decide) (by decide) ha
    · exact hdigit (by decide) (by decide) hb
  · simp only [List.forall₂_cons_left_iff, List.forall₂_nil_left_iff] at hall
    obtain ⟨a, _, ha, ⟨b, _, hb, rfl, rfl⟩, rfl⟩ := hall
    refine ⟨Or.inr rfl, ?_⟩
    simp only [List.mem_cons, List.not_mem_nil, or_false]
    rintro _ (rfl | rfl)
    · exact hdigit (by decide) (by decide) ha
    · exact hdigit (by decide) (by decide) hb
  · simp only [List.forall₂_cons_left_iff, List.forall₂_nil_left_iff] at hall
    obtain ⟨a, _, ha, rfl, rfl⟩ := hall
    refine ⟨Or.inl rfl, ?_⟩
    simp only [List.mem_cons, List.not_mem_nil, or_false]
    rintro _ rfl
    exact hdigit (by decide) (by decide) ha

/-- A day is one character, or two of which the second is a digit. -/
theorem matches_day {text : List Char} (h : Matches .day text) :
    (∃ c, text = [c]) ∨ ∃ c digit, text = [c, digit] ∧ isDecimal digit := by
  obtain ⟨classes, hclasses, hall⟩ := (if_neg (by decide)).mp h
  have hdigit {low high c : Char} (hlow : '0'.toNat ≤ low.toNat) (hhigh : high.toNat ≤ '9'.toNat)
      (hc : between low high c = true) : isDecimal c := isDecimal_of_isDigit (isDigit_of_between hc hlow hhigh)
  simp only [alternatives, List.mem_cons, List.not_mem_nil, or_false] at hclasses
  rcases hclasses with rfl | rfl | rfl | rfl | rfl
  all_goals simp only [List.forall₂_cons_left_iff, List.forall₂_nil_left_iff] at hall
  · obtain ⟨a, _, -, ⟨b, _, hb, rfl, rfl⟩, rfl⟩ := hall
    exact Or.inr ⟨a, b, rfl, hdigit (by decide) (by decide) hb⟩
  · obtain ⟨a, _, -, ⟨b, _, hb, rfl, rfl⟩, rfl⟩ := hall
    exact Or.inr ⟨a, b, rfl, hb⟩
  · obtain ⟨a, _, -, ⟨b, _, hb, rfl, rfl⟩, rfl⟩ := hall
    exact Or.inr ⟨a, b, rfl, hdigit (by decide) (by decide) hb⟩
  · obtain ⟨a, _, -, rfl, rfl⟩ := hall
    exact Or.inl ⟨a, rfl⟩
  · obtain ⟨a, _, -, ⟨b, _, hb, rfl, rfl⟩, rfl⟩ := hall
    exact Or.inr ⟨a, b, rfl, hdigit (by decide) (by decide) hb⟩

theorem matches_literal {c : Char} {text : List Char} (h : Matches (.literal c) text) : text = [c] := by
  obtain ⟨classes, hclasses, hall⟩ := (if_neg (fun h ↦ (nomatch h))).mp h
  obtain rfl := List.mem_singleton.mp hclasses
  simp only [List.forall₂_cons_left_iff, List.forall₂_nil_left_iff] at hall
  obtain ⟨a, _, ha, rfl, rfl⟩ := hall
  rw [of_decide_eq_true ha]

/-! ## Texts with separators -/

/-- Year, month and day with a separator after the first and the second, and what follows. -/
structure Styled (first second : Char) (chars year month day rest : List Char) : Prop where
  chars_eq : chars = year ++ first :: (month ++ second :: (day ++ rest))
  year : Matches .year year
  month : Matches .month month
  day : Matches .day day
  /-- What follows the day is not a digit. -/
  rest : ∀ c ∈ rest.head?, isDecimal c = false

/-- Two lists that agree up to a first separator. -/
theorem append_cons_inj {α : Type*} {sep : α} {before other after rest : List α} (hbefore : sep ∉ before)
    (hother : sep ∉ other) (h : before ++ sep :: after = other ++ sep :: rest) : before = other ∧ after = rest := by
  induction before generalizing other with
  | nil =>
    cases other with
    | nil => exact ⟨rfl, (List.cons.inj h).2⟩
    | cons c other => exact absurd (List.cons.inj h).1 fun heq ↦ hother (heq ▸ List.mem_cons_self)
  | cons c before ih =>
    cases other with
    | nil => exact absurd (List.cons.inj h).1 fun heq ↦ hbefore (heq ▸ List.mem_cons_self)
    | cons d other =>
      obtain ⟨hhead, htail⟩ := List.cons.inj h
      obtain ⟨rfl, rfl⟩ := ih (fun hmem ↦ hbefore (List.mem_cons_of_mem c hmem))
        (fun hmem ↦ hother (List.mem_cons_of_mem d hmem)) htail
      rw [hhead]
      exact ⟨rfl, rfl⟩

/-- A day ends where the digits end. -/
theorem day_append_inj {day other rest last : List Char} (hday : Matches .day day) (hother : Matches .day other)
    (hrest : ∀ c ∈ rest.head?, isDecimal c = false) (hlast : ∀ c ∈ last.head?, isDecimal c = false)
    (h : day ++ rest = other ++ last) : day = other := by
  have hshort {c d digit : Char} {tail : List Char} {rest : List Char} (hrest : ∀ c ∈ rest.head?, isDecimal c = false)
      (hdigit : isDecimal digit) (heq : [c] ++ rest = [d, digit] ++ tail) : False := by
    have htail : rest = digit :: tail := (List.cons.inj heq).2
    have hnot := hrest digit (by rw [htail]; rfl)
    rw [hdigit] at hnot
    cases hnot
  rcases matches_day hday with ⟨c, rfl⟩ | ⟨c, digit, rfl, hdigit⟩ <;>
    rcases matches_day hother with ⟨d, rfl⟩ | ⟨d, digit', rfl, hdigit'⟩
  · rw [(List.cons.inj h).1]
  · exact (hshort hrest hdigit' h).elim
  · exact (hshort hlast hdigit h.symm).elim
  · obtain ⟨rfl, htail⟩ := List.cons.inj h
    rw [(List.cons.inj htail).1]

section Styles

variable {first second : Char} {chars year month day rest : List Char}

theorem Styled.length (h : Styled first second chars year month day rest) : year.length = 4 := (matches_year h.year).1

theorem notMem_month {sep : Char} (hsep : sep.isDigit = false) (h : Matches .month month) : sep ∉ month := by
  intro hmem
  have hdigit := (matches_month h).2 sep hmem
  rw [hsep] at hdigit
  cases hdigit

/-- The parts of a text are the same in every reading with these separators. -/
theorem Styled.unique {second' : Char} {year' month' day' rest' : List Char}
    (h : Styled first second chars year month day rest) (h' : Styled first second' chars year' month' day' rest')
    (hsecond : second = second') (hsep : second.isDigit = false) : year = year' ∧ month = month' ∧ day = day' := by
  subst hsecond
  have hchars := h.chars_eq.symm.trans h'.chars_eq
  obtain ⟨hyear, hrest⟩ := List.append_inj hchars (h.length.trans h'.length.symm)
  obtain ⟨hmonth, hafter⟩ := append_cons_inj (notMem_month hsep h.month) (notMem_month hsep h'.month)
    (List.cons.inj hrest).2
  exact ⟨hyear, hmonth, day_append_inj h.day h'.day h.rest h'.rest hafter⟩

theorem Styled.first_eq {first' second' : Char} {year' month' day' rest' : List Char}
    (h : Styled first second chars year month day rest) (h' : Styled first' second' chars year' month' day' rest') :
    first = first' := by
  have hchars := h.chars_eq.symm.trans h'.chars_eq
  exact (List.cons.inj (List.append_inj hchars (h.length.trans h'.length.symm)).2).1

/-- A text in digits alone is none with separators. -/
theorem Styled.not_compact {year' month' day' : List Char} (h : Styled first second chars year month day rest)
    (hfirst : first.isDigit = false) (hyear : Matches .year year') (hmonth : Matches .month month') :
    chars ≠ year' ++ (month' ++ day') := by
  intro hchars
  have heq := h.chars_eq.symm.trans hchars
  have hrest := (List.append_inj heq (h.length.trans (matches_year hyear).1.symm)).2
  obtain ⟨hlength, hdigits⟩ := matches_month hmonth
  cases hcases : month' with
  | nil =>
    rw [hcases] at hlength
    exact absurd hlength (by decide)
  | cons c tail =>
    rw [hcases] at hrest hdigits
    have hc := hdigits c List.mem_cons_self
    rw [← (List.cons.inj hrest).1, hfirst] at hc
    cases hc

end Styles

/-! ## The ISO format -/

theorem parseDigits_eq_some {width n : ℕ} {chars rest : List Char} (h : parseDigits width chars = some (n, rest)) :
    ∃ digits, chars = digits ++ rest ∧ digits.length = width ∧ (∀ c ∈ digits, c.isDigit) ∧ n = numberOf digits := by
  unfold parseDigits at h
  extract_lets digits at h
  split at h
  · rename_i hdigits
    obtain ⟨rfl, rfl⟩ := Prod.mk.inj (Option.some.inj h)
    exact ⟨digits, (List.take_append_drop width chars).symm, hdigits.1, List.all_eq_true.mp hdigits.2, rfl⟩
  · cases h

theorem expect_eq_some {c : Char} {chars rest : List Char} (h : expect c chars = some rest) : chars = c :: rest := by
  cases chars with
  | nil => cases h
  | cons first tail =>
    by_cases hfirst : first = c
    · rw [expect, if_pos hfirst] at h
      rw [hfirst, Option.some.inj h]
    · rw [expect, if_neg hfirst] at h
      cases h

theorem intOf_eq_numberOf {chars : List Char} (h : ∀ c ∈ chars, c.isDigit) : intOf chars = numberOf chars := by
  have hfold (n : ℕ) (chars : List Char) (h : ∀ c ∈ chars, c.isDigit) :
      (chars.filterMap decimal).foldl (fun n digit ↦ 10 * n + digit) n =
        chars.foldl (fun n c ↦ 10 * n + (c.toNat - '0'.toNat)) n := by
    induction chars generalizing n with
    | nil => rfl
    | cons c chars ih =>
      rw [List.filterMap_cons_some (decimal_of_isDigit (h c List.mem_cons_self)), List.foldl_cons, List.foldl_cons]
      exact ih _ fun c hc ↦ h c (List.mem_cons_of_mem _ hc)
  exact hfold 0 chars h

/-- A time without a mark of a zone has no offset. -/
theorem parseIsoformatTime_offset {chars : List Char} (hzone : ∀ c ∈ chars, c ∉ zoneMarks) {time : ℕ × Option ℤ}
    (h : parseIsoformatTime chars = some time) : time.2 = none := by
  have htake : chars.takeWhile (¬ zoneMarks.contains ·) = chars := by
    rw [List.takeWhile_eq_self_iff]
    intro c hc
    exact decide_eq_true fun hmem ↦ hzone c hc (List.contains_iff_mem.mp hmem)
  have hdrop : chars.drop (chars.takeWhile (¬ zoneMarks.contains ·)).length = [] := by
    rw [htake]
    exact List.drop_length
  obtain ⟨⟨clock, left⟩, -, h⟩ := Option.bind_eq_some_iff.mp h
  obtain ⟨timeOfDay, -, h⟩ := Option.bind_eq_some_iff.mp h
  rw [hdrop] at h
  split at h
  · split at h
    · cases h
    · rw [← Option.some.inj h]
  · rename_i hcons
    cases hcons

section Iso

variable {first second : Char} {chars year month day rest : List Char} {moment : Moment}

/-- The ISO format takes the month and the day of a date with hyphens only if each has two digits. -/
theorem parseMonthDate_styled {number : ℕ} {dashed : Bool} {date : CalendarDate} (hmonth : Matches .month month)
    (hday : Matches .day day) (hrest : ∀ c ∈ rest.head?, isDecimal c = false) (hsecond : second.isDigit = false)
    (hdashed : dashed = true) (h : parseMonthDate number dashed (month ++ second :: (day ++ rest)) = some date) :
    month.length = 2 ∧ day.length = 2 ∧ calendarDate number (intOf month) (intOf day) = some date := by
  obtain ⟨⟨monthNumber, afterMonth⟩, hmonthDigits, h⟩ := Option.bind_eq_some_iff.mp h
  obtain ⟨⟨dayNumber, afterDay⟩, hdayDigits, hdate⟩ := Option.bind_eq_some_iff.mp h
  rw [hdashed, if_pos rfl] at hdayDigits
  obtain ⟨afterHyphen, hhyphen, hdayDigits⟩ := Option.bind_eq_some_iff.mp hdayDigits
  have hafterMonth := expect_eq_some hhyphen
  obtain ⟨monthDigits, hmonthChars, hmonthLength, hmonthIsDigit, rfl⟩ := parseDigits_eq_some hmonthDigits
  obtain ⟨dayDigits, hdayChars, hdayLength, hdayIsDigit, rfl⟩ := parseDigits_eq_some hdayDigits
  rw [hafterMonth] at hmonthChars
  have hseparator : second ∈ monthDigits ∨ month = monthDigits := by
    rcases (matches_month hmonth).1 with hone | htwo
    · have htake : (month ++ second :: (day ++ rest)).take 2 = monthDigits := by
        rw [hmonthChars, ← hmonthLength, List.take_left]
      obtain ⟨c, rfl⟩ := List.length_eq_one_iff.mp hone
      rw [← htake]
      exact Or.inl (by simp)
    · exact Or.inr (List.append_inj hmonthChars (htwo.trans hmonthLength.symm)).1
  rcases hseparator with hmem | rfl
  · rw [hmonthIsDigit second hmem] at hsecond
    cases hsecond
  have hafter : day ++ rest = dayDigits ++ afterDay :=
    (List.cons.inj (List.append_cancel_left hmonthChars)).2.trans hdayChars
  rcases matches_day hday with ⟨c, rfl⟩ | ⟨c, digit, rfl, -⟩
  · obtain ⟨a, b, rfl⟩ := List.length_eq_two.mp hdayLength
    have htail : rest = b :: afterDay := (List.cons.inj hafter).2
    have hnot := hrest b (by rw [htail]; rfl)
    have hdigit := isDecimal_of_isDigit (hdayIsDigit b (by simp))
    rw [hnot] at hdigit
    cases hdigit
  · obtain ⟨rfl, -⟩ := List.append_inj hafter hdayLength.symm
    refine ⟨hmonthLength, rfl, ?_⟩
    rw [intOf_eq_numberOf hmonthIsDigit, intOf_eq_numberOf hdayIsDigit]
    exact hdate

/-- What the ISO format makes of a date with separators, if it takes it: the same date, and no offset where
none follows. -/
theorem Styled.fromisoformat_eq (h : Styled first second chars year month day rest) (hfirst : first.isDigit = false)
    (hfirstWeek : first ≠ 'W') (hsecond : second.isDigit = false) (hzone : ∀ c ∈ rest, c ∉ zoneMarks)
    (hiso : fromisoformat chars = some moment) :
    calendarDate (intOf year) (intOf month) (intOf day) = some moment.date ∧ moment.offset = none := by
  obtain ⟨c, tail, hcons⟩ : ∃ c tail, month = c :: tail := by
    cases hcases : month with
    | nil =>
      have hlength := (matches_month h.month).1
      rw [hcases] at hlength
      exact absurd hlength (by decide)
    | cons c tail => exact ⟨c, tail, rfl⟩
  have hdigit : c.isDigit := (matches_month h.month).2 c (hcons ▸ List.mem_cons_self)
  have hnotWeek : c ≠ 'W' := by
    rintro rfl
    exact absurd hdigit (by decide)
  unfold fromisoformat at hiso
  split at hiso
  · cases hiso
  obtain ⟨date, hdate, hiso⟩ := Option.bind_eq_some_iff.mp hiso
  unfold parseIsoformatDate at hdate
  obtain ⟨⟨number, afterYear⟩, hyearDigits, hdate⟩ := Option.bind_eq_some_iff.mp hdate
  obtain ⟨yearDigits, hyearChars, hyearLength, hyearIsDigit, rfl⟩ := parseDigits_eq_some hyearDigits
  obtain ⟨rfl, rfl⟩ := List.append_inj (h.chars_eq.symm.trans hyearChars) (h.length.trans hyearLength.symm)
  by_cases hhyphen : first = '-'
  · subst hhyphen
    simp only [List.head?_cons, decide_true, if_true, List.tail_cons] at hdate
    rw [hcons, List.cons_append, List.head?_cons, if_neg (fun heq ↦ hnotWeek (Option.some.inj heq)), ← List.cons_append,
      ← hcons] at hdate
    obtain ⟨hmonthLength, hdayLength, hcalendar⟩ := parseMonthDate_styled h.month h.day h.rest hsecond rfl hdate
    have hlocation : separatorLocation chars = 10 := by
      have hseven : chars.length ≠ 7 := by
        have hlength := congrArg List.length h.chars_eq
        simp only [List.length_append, List.length_cons, h.length, hmonthLength, hdayLength] at hlength
        omega
      have hfour : chars[4]? = some '-' := by
        rw [h.chars_eq, List.getElem?_append_right (by rw [h.length]), h.length]
        rfl
      have hfive : chars[5]? = some c := by
        rw [h.chars_eq, List.getElem?_append_right (by rw [h.length]; omega), h.length, hcons]
        rfl
      unfold separatorLocation
      rw [if_neg hseven, hfour, if_pos rfl, hfive, if_neg (fun heq ↦ hnotWeek (Option.some.inj heq))]
    have hdrop : chars.drop 10 = rest := by
      have hten : chars = (year ++ '-' :: (month ++ second :: day)) ++ rest := by
        rw [h.chars_eq]
        simp
      have hlength : (year ++ '-' :: (month ++ second :: day)).length = 10 := by
        simp only [List.length_append, List.length_cons, h.length, hmonthLength, hdayLength]
      rw [hten, ← hlength, List.drop_left]
    rw [hlocation, hdrop] at hiso
    have hyearInt := intOf_eq_numberOf hyearIsDigit
    cases hrest : rest with
    | nil =>
      rw [hrest] at hiso
      rw [← Option.some.inj hiso, hyearInt]
      exact ⟨hcalendar, rfl⟩
    | cons separator time =>
      rw [hrest] at hiso hzone
      obtain ⟨⟨timeOfDay, offset⟩, hparsed, rfl⟩ := Option.map_eq_some_iff.mp hiso
      rw [hyearInt]
      exact ⟨hcalendar, parseIsoformatTime_offset (fun c hc ↦ hzone c (List.mem_cons_of_mem _ hc)) hparsed⟩
  · have hdashed : decide (first = '-') = false := decide_eq_false hhyphen
    simp only [List.head?_cons, Option.some.injEq, hdashed, Bool.false_eq_true, if_false, hfirstWeek] at hdate
    obtain ⟨⟨monthNumber, afterMonth⟩, hmonthDigits, -⟩ := Option.bind_eq_some_iff.mp hdate
    obtain ⟨digits, hchars, hlength, hisDigit, -⟩ := parseDigits_eq_some hmonthDigits
    obtain ⟨a, b, rfl⟩ := List.length_eq_two.mp hlength
    have hfirstDigit := hisDigit a (by simp)
    rw [← (List.cons.inj hchars).1, hfirst] at hfirstDigit
    cases hfirstDigit

/-- What the ISO format makes of a date in digits alone, if it takes it. -/
theorem fromisoformat_compact (hyear : Matches .year year) (hmonth : Matches .month month) (hday : Matches .day day)
    (hiso : fromisoformat (year ++ (month ++ day)) = some moment) :
    calendarDate (intOf year) (intOf month) (intOf day) = some moment.date ∧ moment.offset = none := by
  obtain ⟨hmonthLength, hmonthIsDigit⟩ := matches_month hmonth
  have hyearMatch := (matches_year hyear).1
  have hdayLength : day.length ≤ 2 := by
    rcases matches_day hday with ⟨c, rfl⟩ | ⟨c, digit, rfl, -⟩ <;> simp
  obtain ⟨c, tail, hcons⟩ : ∃ c tail, month = c :: tail := by
    cases hcases : month with
    | nil =>
      rw [hcases] at hmonthLength
      exact absurd hmonthLength (by decide)
    | cons c tail => exact ⟨c, tail, rfl⟩
  have hdigit : c.isDigit := hmonthIsDigit c (hcons ▸ List.mem_cons_self)
  have hnotWeek : c ≠ 'W' := by
    rintro rfl
    exact absurd hdigit (by decide)
  have hnotHyphen : c ≠ '-' := by
    rintro rfl
    exact absurd hdigit (by decide)
  unfold fromisoformat at hiso
  split at hiso
  · cases hiso
  obtain ⟨date, hdate, hiso⟩ := Option.bind_eq_some_iff.mp hiso
  unfold parseIsoformatDate at hdate
  obtain ⟨⟨number, afterYear⟩, hyearDigits, hdate⟩ := Option.bind_eq_some_iff.mp hdate
  obtain ⟨yearDigits, hyearChars, hyearLength, hyearIsDigit, rfl⟩ := parseDigits_eq_some hyearDigits
  obtain ⟨rfl, rfl⟩ := List.append_inj hyearChars (hyearMatch.trans hyearLength.symm)
  have hhead : (month ++ day).head? = some c := by rw [hcons]; rfl
  have hnotDashed : (some c : Option Char) ≠ some '-' := fun heq ↦ hnotHyphen (Option.some.inj heq)
  simp only [hhead, hnotDashed, decide_false, Bool.false_eq_true, if_false, Option.some.injEq, hnotWeek] at hdate
  obtain ⟨⟨monthNumber, afterMonth⟩, hmonthDigits, hdate⟩ := Option.bind_eq_some_iff.mp hdate
  obtain ⟨⟨dayNumber, afterDay⟩, hdayDigits, hdate⟩ := Option.bind_eq_some_iff.mp hdate
  simp only [Bool.false_eq_true, if_false, Option.bind_some] at hdayDigits
  obtain ⟨monthDigits, hmonthChars, hmonthDigitsLength, hmonthDigit, rfl⟩ := parseDigits_eq_some hmonthDigits
  obtain ⟨dayDigits, rfl, hdayDigitsLength, hdayDigit, rfl⟩ := parseDigits_eq_some hdayDigits
  have hlength := congrArg List.length hmonthChars
  simp only [List.length_append, hmonthDigitsLength, hdayDigitsLength] at hlength
  obtain ⟨rfl, hdayChars⟩ := List.append_inj hmonthChars (by omega)
  have hafter : afterDay = [] := List.length_eq_zero_iff.mp (by omega)
  rw [hafter, List.append_nil] at hdayChars
  subst hdayChars
  have hlocation : separatorLocation (year ++ (month ++ day)) = 8 := by
    have hfour : (year ++ (month ++ day))[4]? = some c := by
      rw [List.getElem?_append_right (by rw [hyearMatch]), hyearMatch, hcons]
      rfl
    unfold separatorLocation
    rw [if_neg (by simp only [List.length_append]; omega), hfour, if_neg hnotDashed,
      if_neg (fun heq ↦ hnotWeek (Option.some.inj heq))]
  have hdrop : (year ++ (month ++ day)).drop 8 = [] :=
    List.drop_eq_nil_of_le (by simp only [List.length_append]; omega)
  rw [hlocation, hdrop] at hiso
  rw [← Option.some.inj hiso, intOf_eq_numberOf hyearIsDigit, intOf_eq_numberOf hmonthDigit, intOf_eq_numberOf hdayDigit]
  exact ⟨hdate, rfl⟩

end Iso

/-! ## The listed formats -/

/-- The separators of a date: after the year, and after the month. -/
def dateStyles : List (Char × Char) := [('-', '-'), ('/', '/'), ('年', '月')]

/-- What may follow a day in a format: nothing, white space or a character that is no digit. -/
def EndsDay (tail : List Directive) : Prop :=
  ∀ directive ∈ tail.head?, directive = .space ∨ ∃ c, directive = .literal c ∧ isDecimal c = false

/-- The directives of a format that begins with a date and has no offset. -/
inductive DateFormat : List Directive → Prop where
  | styled (style : Char × Char) (tail : List Directive) (hstyle : style ∈ dateStyles) (hends : EndsDay tail)
      (hzone : ∀ mark ∈ zoneMarks, .literal mark ∉ tail) :
      DateFormat (.year :: .literal style.1 :: .month :: .literal style.2 :: .day :: tail)
  | compact : DateFormat [.year, .month, .day]

section Formats

variable {chars format : List Char} {moment : Moment}

/-- A mark of a zone is matched by no directive but its own. -/
theorem notMem_of_matches {directive : Directive} {mark : Char} {text : List Char} (hmark : mark ∈ zoneMarks)
    (hdirective : directive ≠ .literal mark) (h : Matches directive text) : mark ∉ text := by
  have hrejects : ∀ classes ∈ alternatives directive, ∀ ofClass ∈ classes, ofClass mark = false := by
    have hmarks : ∀ mark ∈ zoneMarks, ∀ directive ∈ [Directive.year, .month, .day, .hour, .minute, .second, .space],
        ∀ classes ∈ alternatives directive, ∀ ofClass ∈ classes, ofClass mark = false := by decide
    cases directive with
    | literal c =>
      intro classes hclasses ofClass hofClass
      obtain rfl := List.mem_singleton.mp hclasses
      obtain rfl := List.mem_singleton.mp hofClass
      exact decide_eq_false fun heq ↦ hdirective (congrArg Directive.literal heq.symm)
    | _ => exact hmarks mark hmark _ (by simp)
  unfold Matches at h
  intro hmem
  split at h
  · have hspaces : ∀ mark ∈ zoneMarks, isSpace mark = false := by decide
    have hspace := h.2 mark hmem
    rw [hspaces mark hmark] at hspace
    cases hspace
  · obtain ⟨classes, hclasses, hall⟩ := h
    obtain ⟨ofClass, hofClass, hmatch⟩ : ∃ ofClass ∈ classes, ofClass mark = true := by
      clear hrejects hclasses
      induction hall with
      | nil => exact absurd hmem List.not_mem_nil
      | cons hfirst _ ih =>
        rcases List.mem_cons.mp hmem with rfl | htail
        · exact ⟨_, List.mem_cons_self, hfirst⟩
        · obtain ⟨ofClass, hofClass, hmatch⟩ := ih htail
          exact ⟨ofClass, List.mem_cons_of_mem _ hofClass, hmatch⟩
    rw [hrejects classes hclasses ofClass hofClass] at hmatch
    cases hmatch

/-- The text of a day ends before anything that a later directive may match. -/
theorem head?_flatten_of_endsDay {groups : List (Directive × List Char)} (hends : EndsDay (groups.map Prod.fst))
    (hall : ∀ group ∈ groups, Matches group.1 group.2) :
    ∀ c ∈ ((groups.map Prod.snd).flatten).head?, isDecimal c = false := by
  cases groups with
  | nil => exact fun _ h ↦ (nomatch h)
  | cons group groups =>
    obtain ⟨directive, text⟩ := group
    have hmatches := hall _ List.mem_cons_self
    intro c hc
    rw [List.map_cons, List.flatten_cons] at hc
    rcases hends directive rfl with rfl | ⟨d, rfl, hd⟩
    · obtain ⟨hne, hspaces⟩ := (if_pos rfl).mp hmatches
      cases text with
      | nil => exact absurd rfl hne
      | cons first rest =>
        obtain rfl := Option.some.inj hc
        exact isDecimal_eq_false_of_isSpace (hspaces first List.mem_cons_self)
    · have htext := matches_literal hmatches
      dsimp only at htext
      rw [htext] at hc
      rw [← Option.some.inj hc]
      exact hd

theorem momentOf_eq_some {groups : List (Directive × List Char)} (h : momentOf groups = some moment) :
    calendarDate (valueOf groups .year 1900) (valueOf groups .month 1) (valueOf groups .day 1) = some moment.date ∧
      moment.offset = none ∧ moment.timeOfDay < dayMicros := by
  unfold momentOf at h
  extract_lets clock at h
  obtain ⟨date, hdate, h⟩ := Option.bind_eq_some_iff.mp h
  obtain ⟨timeOfDay, htime, rfl⟩ := Option.map_eq_some_iff.mp h
  exact ⟨hdate, rfl, timeOfDay_lt htime⟩

theorem map_fst_eq_cons {groups : List (Directive × List Char)} {directive : Directive} {rest : List Directive}
    (h : groups.map Prod.fst = directive :: rest) :
    ∃ text later, groups = (directive, text) :: later ∧ later.map Prod.fst = rest := by
  obtain ⟨⟨first, text⟩, later, rfl, rfl, hlater⟩ := List.map_eq_cons_iff.mp h
  exact ⟨text, later, rfl, hlater⟩

/-- How a text that a format with separators matches is made up. -/
theorem strptime_styled {style : Char × Char} {tail : List Directive} (hends : EndsDay tail)
    (hzone : ∀ mark ∈ zoneMarks, .literal mark ∉ tail)
    (hformat : directives format = .year :: .literal style.1 :: .month :: .literal style.2 :: .day :: tail)
    (h : strptime chars format = some moment) :
    ∃ year month day rest, Styled style.1 style.2 chars year month day rest ∧
      (∀ c ∈ rest, c ∉ zoneMarks) ∧ calendarDate (intOf year) (intOf month) (intOf day) = some moment.date := by
  obtain ⟨groups, hdirectives, rfl, hall, hmoment⟩ := strptime_eq_some h
  rw [hformat] at hdirectives
  obtain ⟨year, _, rfl, hafterYear⟩ := map_fst_eq_cons hdirectives
  obtain ⟨first, _, rfl, hafterFirst⟩ := map_fst_eq_cons hafterYear
  obtain ⟨month, _, rfl, hafterMonth⟩ := map_fst_eq_cons hafterFirst
  obtain ⟨second, _, rfl, hafterSecond⟩ := map_fst_eq_cons hafterMonth
  obtain ⟨day, later, rfl, htail⟩ := map_fst_eq_cons hafterSecond
  simp only [List.forall_mem_cons] at hall
  obtain ⟨hyear, hfirst, hmonth, hsecond, hday, hlater⟩ := hall
  obtain rfl := matches_literal hfirst
  obtain rfl := matches_literal hsecond
  refine ⟨year, month, day, (later.map Prod.snd).flatten, ⟨?_, hyear, hmonth, hday, ?_⟩, ?_, ?_⟩
  · simp
  · exact head?_flatten_of_endsDay (htail ▸ hends) hlater
  · intro c hc hmark
    obtain ⟨text, htext, hmem⟩ := List.mem_flatten.mp hc
    obtain ⟨group, hgroup, rfl⟩ := List.mem_map.mp htext
    refine notMem_of_matches hmark ?_ (hlater group hgroup) hmem
    intro heq
    exact hzone c hmark (htail ▸ heq ▸ List.mem_map_of_mem hgroup)
  · exact (momentOf_eq_some hmoment).1

theorem strptime_compact (hformat : directives format = [.year, .month, .day]) (h : strptime chars format = some moment) :
    ∃ year month day, chars = year ++ (month ++ day) ∧ Matches .year year ∧ Matches .month month ∧ Matches .day day ∧
      calendarDate (intOf year) (intOf month) (intOf day) = some moment.date := by
  obtain ⟨groups, hdirectives, rfl, hall, hmoment⟩ := strptime_eq_some h
  rw [hformat] at hdirectives
  obtain ⟨year, _, rfl, hafterYear⟩ := map_fst_eq_cons hdirectives
  obtain ⟨month, _, rfl, hafterMonth⟩ := map_fst_eq_cons hafterYear
  obtain ⟨day, _, rfl, hafterDay⟩ := map_fst_eq_cons hafterMonth
  obtain rfl := List.map_eq_nil_iff.mp hafterDay
  simp only [List.forall_mem_cons] at hall
  obtain ⟨hyear, hmonth, hday, -⟩ := hall
  exact ⟨year, month, day, by simp, hyear, hmonth, hday, (momentOf_eq_some hmoment).1⟩

/-! ## One text, one date -/

theorem dateStyles_not_digits {style : Char × Char} (h : style ∈ dateStyles) :
    style.1.isDigit = false ∧ style.2.isDigit = false ∧ style.1 ≠ 'W' := by
  have hstyles : ∀ style ∈ dateStyles, style.1.isDigit = false ∧ style.2.isDigit = false ∧ style.1 ≠ 'W' := by decide
  exact hstyles style h

theorem dateStyles_second {style other : Char × Char} (h : style ∈ dateStyles) (hother : other ∈ dateStyles)
    (hfirst : style.1 = other.1) : style.2 = other.2 := by
  have hstyles : ∀ style ∈ dateStyles, ∀ other ∈ dateStyles, style.1 = other.1 → style.2 = other.2 := by decide
  exact hstyles style h other hother hfirst

variable {other : List Char} {otherMoment : Moment}

/-- Two listed formats that match a text read the same date. -/
theorem strptime_date_unique (hformat : DateFormat (directives format)) (hother : DateFormat (directives other))
    (h : strptime chars format = some moment) (h' : strptime chars other = some otherMoment) :
    moment.date = otherMoment.date := by
  generalize hdirectives : directives format = list at hformat
  generalize hotherDirectives : directives other = otherList at hother
  cases hformat with
  | styled style tail hstyle hends hzone =>
    obtain ⟨year, month, day, rest, hstyled, -, hdate⟩ := strptime_styled hends hzone hdirectives h
    obtain ⟨hfirst, hsecond, -⟩ := dateStyles_not_digits hstyle
    cases hother with
    | styled otherStyle otherTail hotherStyle hotherEnds hotherZone =>
      obtain ⟨year', month', day', rest', hstyled', -, hdate'⟩ :=
        strptime_styled hotherEnds hotherZone hotherDirectives h'
      have hstyles := hstyled.first_eq hstyled'
      rw [hstyles.symm] at hstyled'
      obtain ⟨rfl, rfl, rfl⟩ := hstyled.unique hstyled' (dateStyles_second hstyle hotherStyle hstyles) hsecond
      exact Option.some.inj (hdate.symm.trans hdate')
    | compact =>
      obtain ⟨year', month', day', hchars, hyear, hmonth, -, -⟩ := strptime_compact hotherDirectives h'
      exact absurd hchars (hstyled.not_compact hfirst hyear hmonth)
  | compact =>
    cases hother with
    | styled otherStyle otherTail hotherStyle hotherEnds hotherZone =>
      obtain ⟨year, month, day, hchars, hyear, hmonth, -, -⟩ := strptime_compact hdirectives h
      obtain ⟨year', month', day', rest', hstyled', -, -⟩ := strptime_styled hotherEnds hotherZone hotherDirectives h'
      exact absurd hchars (hstyled'.not_compact (dateStyles_not_digits hotherStyle).1 hyear hmonth)
    | compact =>
      unfold strptime at h h'
      rw [hdirectives] at h
      rw [hotherDirectives] at h'
      rw [Option.some.inj (h.symm.trans h')]

/-- The ISO format reads the same date from a text that a listed format matches, and no offset. -/
theorem fromisoformat_of_strptime (hformat : DateFormat (directives format)) (h : strptime chars format = some moment)
    (hiso : fromisoformat chars = some otherMoment) : otherMoment.date = moment.date ∧ otherMoment.offset = none := by
  generalize hdirectives : directives format = list at hformat
  cases hformat with
  | styled style tail hstyle hends hzone =>
    obtain ⟨year, month, day, rest, hstyled, hrest, hdate⟩ := strptime_styled hends hzone hdirectives h
    obtain ⟨hfirst, hsecond, hweek⟩ := dateStyles_not_digits hstyle
    obtain ⟨hisoDate, hoffset⟩ := hstyled.fromisoformat_eq hfirst hweek hsecond hrest hiso
    exact ⟨Option.some.inj (hisoDate.symm.trans hdate), hoffset⟩
  | compact =>
    obtain ⟨year, month, day, rfl, hyear, hmonth, hday, hdate⟩ := strptime_compact hdirectives h
    obtain ⟨hisoDate, hoffset⟩ := fromisoformat_compact hyear hmonth hday hiso
    exact ⟨Option.some.inj (hisoDate.symm.trans hdate), hoffset⟩

/-- A listed format matches no text with a Z. -/
theorem zulu_notMem_of_strptime (hformat : DateFormat (directives format)) (h : strptime chars format = some moment) :
    'Z' ∉ chars := by
  have hnot : Directive.literal 'Z' ∉ directives format := by
    generalize directives format = list at hformat
    cases hformat with
    | styled style tail hstyle hends hzone =>
      have hstyles : ∀ style ∈ dateStyles, 'Z' ≠ style.1 ∧ 'Z' ≠ style.2 := by decide
      simp [hstyles style hstyle, hzone 'Z' (by decide)]
    | compact => decide
  obtain ⟨groups, hdirectives, rfl, hall, -⟩ := strptime_eq_some h
  intro hmem
  obtain ⟨text, htext, hchar⟩ := List.mem_flatten.mp hmem
  obtain ⟨group, hgroup, rfl⟩ := List.mem_map.mp htext
  refine notMem_of_matches (by decide) ?_ (hall group hgroup) hchar
  intro heq
  exact hnot (hdirectives ▸ heq ▸ List.mem_map_of_mem hgroup)

theorem strptime_offset (h : strptime chars format = some moment) :
    moment.offset = none ∧ moment.timeOfDay < dayMicros := by
  obtain ⟨groups, -, -, -, hmoment⟩ := strptime_eq_some h
  exact (momentOf_eq_some hmoment).2

end Formats

end TenderPhase1.ListedDates
