import TenderPhase1.Crawler.CollapsedTexts
import TenderPhase1.Crawler.Instances
import TenderPhase1.Foundation.ListedDates

/-!
# The normal form of a date

`normalize_published_date` gives a date of the calendar in its ISO text or nothing, and leaves such a
text as it is. It raises where the instant does not fit into a `datetime` in UTC, and where the
digits that it finds in a text that nothing else reads are no date.
-/

namespace TenderPhase1.Crawler

open PyText Calendar IsoTexts StrptimeTexts ListedDates

/-! ## The datetime module -/

def microsPerDay : ℤ := 86400000000

/-- The day number of 1970-01-01 -/
def epochNumber : ℤ := 719162

/-- The wall clock at a time of a day. -/
def wallOf (date : CalendarDate) (timeOfDay : ℕ) : ℤ := (date.number - epochNumber) * microsPerDay + timeOfDay

/-- The datetime of a moment that was read from a text. -/
def datetimeOf (moment : Moment) : DateTime := ⟨wallOf moment.date moment.timeOfDay, moment.offset⟩

def InRange (wall : ℤ) : Prop := minWall ≤ wall ∧ wall ≤ maxWall

instance (wall : ℤ) : Decidable (InRange wall) := by
  unfold InRange
  infer_instance

theorem InRange.lt_dayCount {wall : ℤ} (h : InRange wall) : (wall / microsPerDay + epochNumber).toNat < dayCount := by
  obtain ⟨-, hle⟩ := h
  unfold maxWall at hle
  unfold microsPerDay epochNumber dayCount
  omega

def dateOfWall (wall : ℤ) (h : InRange wall) : CalendarDate := dateOf (wall / microsPerDay + epochNumber).toNat h.lt_dayCount

/-- The datetime module and `unicodedata` of CPython, as far as dates are read and written. -/
structure CPythonDates (python : Python) : Prop where
  fromisoformat : ∀ text, python.fromisoformat text = (IsoTexts.fromisoformat text.toList).map datetimeOf
  strptime : ∀ text, ∀ format ∈ datetimeLikeFormats,
    python.strptime text format = (StrptimeTexts.strptime text.toList format.toList).map datetimeOf
  date : ∀ year month day, python.date year month day =
    match calendarDate year month day with
    | some date => .ok ⟨wallOf date 0, some 0⟩
    | none => .error .valueError
  isoDate : ∀ moment (h : InRange moment.wall), python.isoDate moment = (dateOfWall moment.wall h).isoformat
  nfkc : ∀ text, (∀ c ∈ text.toList, c.toNat < 128) → python.nfkc text = text

theorem inRange_wallOf (date : CalendarDate) {timeOfDay : ℕ} (h : timeOfDay < dayMicros) : InRange (wallOf date timeOfDay) := by
  have hnumber := number_lt date
  unfold dayCount at hnumber
  unfold dayMicros at h
  unfold InRange wallOf minWall maxWall microsPerDay epochNumber
  omega

theorem dateOfWall_wallOf (date : CalendarDate) {timeOfDay : ℕ} (h : timeOfDay < dayMicros) :
    dateOfWall (wallOf date timeOfDay) (inRange_wallOf date h) = date := by
  have hday : (wallOf date timeOfDay / microsPerDay + epochNumber).toNat = date.number := by
    unfold dayMicros at h
    unfold wallOf microsPerDay epochNumber
    omega
  have hdate := dateOf_number date
  unfold dateOfWall
  simp only [hday, hdate]

/-! ## Reading the text of a date -/

section Texts

variable {python : Python}

theorem isDigit_or_hyphen_of_mem_isoformat {date : CalendarDate} {c : Char} (h : c ∈ date.isoformat.toList) :
    c.isDigit ∨ c = '-' := by
  unfold CalendarDate.isoformat at h
  rw [IsoDates.IsoDate.toList_isoformat, IsoDates.IsoDate.isoChars] at h
  simp only [List.mem_append, List.mem_cons] at h
  rcases h with hyear | (rfl | hmonth) | rfl | hday
  · exact Or.inl (isDigit_of_mem_digits hyear)
  · exact Or.inr rfl
  · exact Or.inl (isDigit_of_mem_digits hmonth)
  · exact Or.inr rfl
  · exact Or.inl (isDigit_of_mem_digits hday)

theorem isSpace_of_mem_isoformat {date : CalendarDate} {c : Char} (h : c ∈ date.isoformat.toList) : isSpace c = false := by
  rcases isDigit_or_hyphen_of_mem_isoformat h with hdigit | rfl
  · exact Bool.not_eq_true _ ▸ fun hspace ↦ by
      have hdecimal := isDecimal_of_isDigit hdigit
      rw [isDecimal_eq_false_of_isSpace hspace] at hdecimal
      cases hdecimal
  · decide

theorem isoformat_ne_empty (date : CalendarDate) : date.isoformat ≠ "" := by
  intro hempty
  have hlength := length_isoChars date.toIsoDate
  have hchars : date.toIsoDate.isoChars = [] := by
    have hlist := congrArg String.toList hempty
    unfold CalendarDate.isoformat at hlist
    rwa [IsoDates.IsoDate.toList_isoformat] at hlist
  rw [hchars] at hlength
  cases hlength

theorem normalizeText_isoformat (hpython : CPythonDates python) (date : CalendarDate) :
    normalizeText python (some (.str date.isoformat)) false = some date.isoformat := by
  have hspaces : ∀ c ∈ date.isoformat.toList, isSpace c = false := fun c hc ↦ isSpace_of_mem_isoformat hc
  have hstrip : asStr (some date.isoformat) = some date.isoformat := by
    have hkept := asStr_ofList (stripChars_of_forall hspaces) fun hnil ↦
      isoformat_ne_empty date (String.toList_eq_nil_iff.mp hnil)
    rwa [String.ofList_toList] at hkept
  have hascii : ∀ c ∈ date.isoformat.toList, c.toNat < 128 := by
    intro c hc
    rcases isDigit_or_hyphen_of_mem_isoformat hc with hdigit | rfl
    · have hnine := (Char.isDigit_iff_toNat.mp hdigit).2
      exact hnine.trans_lt (by decide)
    · decide
  exact normalizeText_of_forall hstrip (hpython.nfkc _ hascii) hspaces

end Texts

/-! ## The stages -/

section Stages

variable {python : Python} {value : Value} {text : String} {moment : DateTime}

/-- `moment.astimezone(timezone.utc).date().isoformat()` -/
def utcDate (python : Python) (moment : DateTime) : Except PyError (Option String) :=
  if InRange moment.instant then .ok (some (python.isoDate ⟨moment.instant, some 0⟩)) else .error .overflowError

def IsText (value : Value) : Prop := ∀ text moment, value ≠ some (.datetime text moment)

theorem instant_aware (moment : DateTime) : moment.aware.instant = moment.instant := by
  unfold DateTime.aware
  split
  · rfl
  · rename_i hoffset
    unfold DateTime.instant DateTime.replaceUtc
    rw [hoffset]
    rfl

theorem astimezone_utc (moment : DateTime) :
    moment.astimezone = if InRange moment.instant then .ok ⟨moment.instant, some 0⟩ else .error .overflowError := rfl

/-- A moment that is in UTC already is its own conversion. -/
theorem bind_astimezone (python : Python) (moment : DateTime) :
    (moment.astimezone >>= fun utc ↦ utc.astimezone >>= fun again ↦ pure (some (python.isoDate again))) =
      utcDate python moment := by
  unfold utcDate
  rw [astimezone_utc]
  split
  · rename_i hrange
    have hinstant : (⟨moment.instant, some 0⟩ : DateTime).instant = moment.instant := Int.sub_zero _
    rw [Jobs.ok_bind, astimezone_utc, hinstant, if_pos hrange]
    rfl
  · rfl

theorem parseDatetimeLike_of_isText (h : IsText value) :
    parseDatetimeLike python value =
      match normalizeText python value false with
      | none => .ok none
      | some text =>
        match python.fromisoformat (replaceChar text 'Z' "+00:00") with
        | some moment => moment.aware.astimezone.map some
        | none => .ok ((datetimeLikeFormats.findSome? (python.strptime text)).map DateTime.replaceUtc) := by
  cases value with
  | none => rfl
  | some object =>
    cases object with
    | datetime text moment => exact absurd rfl (h text moment)
    | str text => rfl
    | other text truthy => rfl

theorem map_astimezone_bind (python : Python) (moment : DateTime) (next : Except PyError (Option String)) :
    (moment.aware.astimezone.map some >>= fun found ↦
      match found with
      | some moment => moment.astimezone >>= fun utc ↦ pure (some (python.isoDate utc))
      | none => next) = utcDate python moment := by
  have hbind := bind_astimezone python moment.aware
  unfold utcDate at hbind ⊢
  rw [instant_aware] at hbind
  rw [← hbind]
  cases moment.aware.astimezone <;> rfl

theorem normalizePublishedDate_datetime (text : String) (moment : DateTime) :
    normalizePublishedDate python (some (.datetime text moment)) = utcDate python moment :=
  map_astimezone_bind python moment _

theorem normalizePublishedDate_blank (h : IsText value) (htext : normalizeText python value false = none) :
    normalizePublishedDate python value = .ok none := by
  unfold normalizePublishedDate
  rw [parseDatetimeLike_of_isText h, htext]
  rfl

/-- What the ISO format reads comes first. -/
theorem normalizePublishedDate_iso (h : IsText value) (htext : normalizeText python value false = some text)
    (hiso : python.fromisoformat (replaceChar text 'Z' "+00:00") = some moment) :
    normalizePublishedDate python value = utcDate python moment := by
  unfold normalizePublishedDate
  rw [parseDatetimeLike_of_isText h, htext]
  simp only [hiso]
  exact map_astimezone_bind python moment _

/-- Then come the listed formats. -/
theorem normalizePublishedDate_listed (h : IsText value) (htext : normalizeText python value false = some text)
    (hiso : python.fromisoformat (replaceChar text 'Z' "+00:00") = none)
    (hlisted : datetimeLikeFormats.findSome? (python.strptime text) = some moment) :
    normalizePublishedDate python value = utcDate python moment.replaceUtc := by
  unfold normalizePublishedDate utcDate
  rw [parseDatetimeLike_of_isText h, htext]
  simp only [hiso, hlisted]
  rw [Option.map_some, Jobs.ok_bind]
  dsimp only
  rw [astimezone_utc]
  split <;> rfl

/-- Digits that look like a date come last. -/
theorem normalizePublishedDate_digits (h : IsText value) (htext : normalizeText python value false = some text)
    (hiso : python.fromisoformat (replaceChar text 'Z' "+00:00") = none)
    (hlisted : datetimeLikeFormats.findSome? (python.strptime text) = none) :
    normalizePublishedDate python value =
      match text.toList.tails.findSome? matchDate with
      | none => .ok none
      | some (year, month, day) => python.date year month day >>= utcDate python := by
  unfold normalizePublishedDate
  rw [parseDatetimeLike_of_isText h, htext]
  simp only [hiso, hlisted]
  rw [Option.map_none, Jobs.ok_bind]
  dsimp only
  rw [Option.bind_some]
  cases text.toList.tails.findSome? matchDate with
  | none => rfl
  | some digits =>
    obtain ⟨year, month, day⟩ := digits
    dsimp only
    cases python.date year month day with
    | error error => rfl
    | ok midnight =>
      rw [Jobs.ok_bind, Jobs.ok_bind, astimezone_utc]
      unfold utcDate
      split <;> rfl

end Stages

/-! ## When the normal form is reached -/

/-- The text names a date in a listed format, or in digits that nothing else reads. -/
inductive NamesDate (python : Python) (text : String) (date : CalendarDate) : Prop where
  | listed (format : String) (moment : Moment) (hformat : format ∈ datetimeLikeFormats)
      (hread : StrptimeTexts.strptime text.toList format.toList = some moment) (hdate : moment.date = date)
  | digits (year month day : ℕ) (hiso : python.fromisoformat (replaceChar text 'Z' "+00:00") = none)
      (hlisted : datetimeLikeFormats.findSome? (python.strptime text) = none)
      (hdigits : text.toList.tails.findSome? matchDate = some (year, month, day))
      (hdate : calendarDate year month day = some date)

/-- `normalize_published_date` returns; it returns nothing or a date of the calendar, it returns that date
again for its own result, and it returns the date that a text names. -/
def NormalDate (python : Python) (value : Value) : Prop :=
  ∃ date, normalizePublishedDate python value = .ok date ∧
    (∀ text ∈ date, ∃ day : CalendarDate, text = day.isoformat) ∧
    normalizePublishedDate python (Value.ofText date) = .ok date ∧
    (IsText value → ∀ text, normalizeText python value false = some text →
      ∀ day, NamesDate python text day → date = some day.isoformat)

/-- The instant of the value fits into a `datetime` in UTC, and digits that nothing else reads are a date. -/
structure Readable (python : Python) (value : Value) : Prop where
  datetime : ∀ text moment, value = some (.datetime text moment) → InRange moment.instant
  iso : IsText value → ∀ text, normalizeText python value false = some text →
    ∀ moment, python.fromisoformat (replaceChar text 'Z' "+00:00") = some moment → InRange moment.instant
  digits : IsText value → ∀ text, normalizeText python value false = some text →
    python.fromisoformat (replaceChar text 'Z' "+00:00") = none →
    datetimeLikeFormats.findSome? (python.strptime text) = none →
    ∀ year month day, text.toList.tails.findSome? matchDate = some (year, month, day) →
      (calendarDate year month day).isSome

section Normal

variable {python : Python} {value : Value} {text : String}

/-- The formats of `parse_datetime_like` have a year, a month and a day. -/
theorem dateFormat_of_mem {format : String} (h : format ∈ datetimeLikeFormats) : DateFormat (directives format.toList) := by
  have hnone : EndsDay [] := fun _ h ↦ (nomatch h)
  have hspace (tail : List Directive) : EndsDay (.space :: tail) := by
    intro directive hmem
    exact Or.inl (Option.some.inj hmem).symm
  have hliteral (tail : List Directive) : EndsDay (.literal '日' :: tail) := by
    intro directive hmem
    exact Or.inr ⟨'日', (Option.some.inj hmem).symm, by decide⟩
  simp only [datetimeLikeFormats, List.mem_cons, List.not_mem_nil, or_false] at h
  rcases h with rfl | rfl | rfl | rfl | rfl | rfl | rfl | rfl | rfl | rfl
  · exact .styled ('-', '-') [.space, .hour, .literal ':', .minute, .literal ':', .second] (by decide) (hspace _) (by decide)
  · exact .styled ('-', '-') [.space, .hour, .literal ':', .minute] (by decide) (hspace _) (by decide)
  · exact .styled ('/', '/') [.space, .hour, .literal ':', .minute, .literal ':', .second] (by decide) (hspace _) (by decide)
  · exact .styled ('/', '/') [.space, .hour, .literal ':', .minute] (by decide) (hspace _) (by decide)
  · exact .styled ('-', '-') [] (by decide) hnone (by decide)
  · exact .styled ('/', '/') [] (by decide) hnone (by decide)
  · exact .compact
  · exact .styled ('年', '月') [.literal '日', .space, .hour, .literal '点', .minute, .literal '分'] (by decide)
      (hliteral _) (by decide)
  · exact .styled ('年', '月') [.literal '日', .hour, .literal '点', .minute, .literal '分'] (by decide)
      (hliteral _) (by decide)
  · exact .styled ('年', '月') [.literal '日'] (by decide) (hliteral _) (by decide)

variable (hpython : CPythonDates python)

include hpython

theorem utcDate_of_inRange {moment : DateTime} (h : InRange moment.instant) :
    utcDate python moment = .ok (some (dateOfWall moment.instant h).isoformat) := by
  unfold utcDate
  rw [if_pos h, hpython.isoDate ⟨moment.instant, some 0⟩ h]

/-- A moment without an offset gives the day that it shows. -/
theorem utcDate_of_date {date : CalendarDate} {timeOfDay : ℕ} {moment : DateTime} (htime : timeOfDay < dayMicros)
    (hinstant : moment.instant = wallOf date timeOfDay) : utcDate python moment = .ok (some date.isoformat) := by
  have hrange : InRange moment.instant := hinstant ▸ inRange_wallOf date htime
  have hdate : dateOfWall moment.instant hrange = date := by
    simp only [hinstant]
    exact dateOfWall_wallOf date htime
  rw [utcDate_of_inRange hpython hrange, hdate]

/-- The text of a date is its own normal form. -/
theorem normalizePublishedDate_isoformat (date : CalendarDate) :
    normalizePublishedDate python (some (.str date.isoformat)) = .ok (some date.isoformat) := by
  have htext : IsText (some (.str date.isoformat)) := fun _ _ h ↦ (nomatch h)
  have hzulu : 'Z' ∉ date.isoformat.toList := by
    intro hmem
    rcases isDigit_or_hyphen_of_mem_isoformat hmem with hdigit | hhyphen
    · exact absurd hdigit (by decide)
    · exact absurd hhyphen (by decide)
  have hchars : date.isoformat.toList = date.toIsoDate.isoChars := String.toList_ofList
  have hiso : python.fromisoformat (replaceChar date.isoformat 'Z' "+00:00") = some ⟨wallOf date 0, none⟩ := by
    rw [replaceChar_of_notMem hzulu, hpython.fromisoformat, hchars, fromisoformat_isoChars]
    rfl
  rw [normalizePublishedDate_iso htext (normalizeText_isoformat hpython date) hiso]
  exact utcDate_of_date hpython (Nat.zero_lt_succ _) (Int.sub_zero _)

/-- A result in the normal form with the named date is all that is asked. -/
theorem normalDate_of_eq {date : CalendarDate} (h : normalizePublishedDate python value = .ok (some date.isoformat))
    (hnamed : IsText value → ∀ text, normalizeText python value false = some text →
      ∀ day, NamesDate python text day → date = day) : NormalDate python value := by
  refine ⟨some date.isoformat, h, ?_, normalizePublishedDate_isoformat hpython date, ?_⟩
  · intro text htext
    exact ⟨date, (Option.some.inj htext).symm⟩
  · intro hvalue text htext day hday
    rw [hnamed hvalue text htext day hday]

theorem python_strptime_of_read {format : String} {moment : Moment} (hformat : format ∈ datetimeLikeFormats)
    (h : StrptimeTexts.strptime text.toList format.toList = some moment) :
    python.strptime text format = some (datetimeOf moment) := by
  rw [hpython.strptime text format hformat, h]
  rfl

/-- A date that a text names where the ISO format reads the text is the one that the ISO format reads. -/
theorem namesDate_iso {moment : DateTime} {day : CalendarDate}
    (hiso : python.fromisoformat (replaceChar text 'Z' "+00:00") = some moment) (hnames : NamesDate python text day) :
    ∃ timeOfDay, timeOfDay < dayMicros ∧ moment.instant = wallOf day timeOfDay := by
  cases hnames with
  | digits year month day hnone =>
    rw [hnone] at hiso
    cases hiso
  | listed format listed hformat hread hdate =>
    rw [replaceChar_of_notMem (zulu_notMem_of_strptime (dateFormat_of_mem hformat) hread), hpython.fromisoformat] at hiso
    obtain ⟨found, hfound, rfl⟩ := Option.map_eq_some_iff.mp hiso
    obtain ⟨hsame, hoffset⟩ := fromisoformat_of_strptime (dateFormat_of_mem hformat) hread hfound
    refine ⟨found.timeOfDay, fromisoformat_timeOfDay_lt hfound, ?_⟩
    unfold datetimeOf DateTime.instant
    rw [hoffset, hsame, hdate]
    exact Int.sub_zero _

/-- A date that a text names where a listed format reads the text is the one that this format reads. -/
theorem namesDate_listed {moment : DateTime} {day : CalendarDate}
    (hlisted : datetimeLikeFormats.findSome? (python.strptime text) = some moment) (hnames : NamesDate python text day) :
    ∃ timeOfDay, timeOfDay < dayMicros ∧ moment.wall = wallOf day timeOfDay := by
  cases hnames with
  | digits year month day hiso hnone =>
    rw [hnone] at hlisted
    cases hlisted
  | listed format listed hformat hread hdate =>
    obtain ⟨other, hother, hfound⟩ := List.exists_of_findSome?_eq_some hlisted
    rw [hpython.strptime text other hother] at hfound
    obtain ⟨found, hother', rfl⟩ := Option.map_eq_some_iff.mp hfound
    have hsame := strptime_date_unique (dateFormat_of_mem hother) (dateFormat_of_mem hformat) hother' hread
    refine ⟨found.timeOfDay, (strptime_offset hother').2, ?_⟩
    unfold datetimeOf
    rw [hsame, hdate]

theorem inRange_listed {moment : DateTime}
    (hlisted : datetimeLikeFormats.findSome? (python.strptime text) = some moment) : InRange moment.wall := by
  obtain ⟨format, hformat, hfound⟩ := List.exists_of_findSome?_eq_some hlisted
  rw [hpython.strptime text format hformat] at hfound
  obtain ⟨found, hread, rfl⟩ := Option.map_eq_some_iff.mp hfound
  exact inRange_wallOf found.date (strptime_offset hread).2

/-- A readable value has the normal form that the calendar gives it. -/
theorem normalDate_of_readable (h : Readable python value) : NormalDate python value := by
  by_cases hvalue : IsText value
  · cases htext : normalizeText python value false with
    | none =>
      refine ⟨none, normalizePublishedDate_blank hvalue htext, fun _ h ↦ (by cases h), rfl, ?_⟩
      intro _ text hsome
      rw [htext] at hsome
      cases hsome
    | some text =>
      have hnamedIn {date : CalendarDate} (hnamed : ∀ day, NamesDate python text day → date = day) :
          IsText value → ∀ other, normalizeText python value false = some other →
            ∀ day, NamesDate python other day → date = day := by
        intro _ other hother
        rw [htext] at hother
        exact Option.some.inj hother ▸ hnamed
      cases hiso : python.fromisoformat (replaceChar text 'Z' "+00:00") with
      | some moment =>
        have hrange := h.iso hvalue text htext moment hiso
        have hdate := utcDate_of_inRange hpython hrange
        rw [← normalizePublishedDate_iso hvalue htext hiso] at hdate
        refine normalDate_of_eq hpython hdate (hnamedIn fun day hday ↦ ?_)
        obtain ⟨timeOfDay, htime, hinstant⟩ := namesDate_iso hpython hiso hday
        have hsame := dateOfWall_wallOf day htime
        simp only [hinstant]
        exact hsame
      | none =>
        cases hlisted : datetimeLikeFormats.findSome? (python.strptime text) with
        | some moment =>
          have hinstant : moment.replaceUtc.instant = moment.wall := Int.sub_zero _
          have hrange : InRange moment.replaceUtc.instant := hinstant ▸ inRange_listed hpython hlisted
          have hdate := utcDate_of_inRange hpython hrange
          rw [← normalizePublishedDate_listed hvalue htext hiso hlisted] at hdate
          refine normalDate_of_eq hpython hdate (hnamedIn fun day hday ↦ ?_)
          obtain ⟨timeOfDay, htime, hwall⟩ := namesDate_listed hpython hlisted hday
          have hsame := dateOfWall_wallOf day htime
          simp only [hinstant, hwall]
          exact hsame
        | none =>
          have hstage := normalizePublishedDate_digits hvalue htext hiso hlisted
          have hdigitsOnly {day : CalendarDate} (hday : NamesDate python text day) :
              ∃ year month number, text.toList.tails.findSome? matchDate = some (year, month, number) ∧
                calendarDate year month number = some day := by
            cases hday with
            | digits year month number _ _ hdigits hdate => exact ⟨year, month, number, hdigits, hdate⟩
            | listed format listed hformat hread =>
              have hsome := python_strptime_of_read hpython hformat hread
              rw [List.findSome?_eq_none_iff.mp hlisted format hformat] at hsome
              cases hsome
          cases hdigits : text.toList.tails.findSome? matchDate with
          | none =>
            rw [hdigits] at hstage
            refine ⟨none, hstage, fun _ h ↦ (by cases h), rfl, ?_⟩
            intro _ other hother day hday
            rw [htext] at hother
            obtain ⟨year, month, number, hsome, -⟩ := hdigitsOnly (Option.some.inj hother ▸ hday)
            rw [hdigits] at hsome
            cases hsome
          | some digits =>
            obtain ⟨year, month, number⟩ := digits
            obtain ⟨date, hcalendar⟩ :=
              Option.isSome_iff_exists.mp (h.digits hvalue text htext hiso hlisted year month number hdigits)
            rw [hdigits] at hstage
            simp only [hpython.date, hcalendar, Jobs.ok_bind] at hstage
            have hmidnight : utcDate python ⟨wallOf date 0, some 0⟩ = .ok (some date.isoformat) :=
              utcDate_of_date hpython (Nat.zero_lt_succ _) (Int.sub_zero _)
            refine normalDate_of_eq hpython (hstage.trans hmidnight) (hnamedIn fun day hday ↦ ?_)
            obtain ⟨year', month', number', hsome, hcalendar'⟩ := hdigitsOnly hday
            rw [hdigits] at hsome
            obtain ⟨rfl, heq⟩ := Prod.mk.inj (Option.some.inj hsome)
            obtain ⟨rfl, rfl⟩ := Prod.mk.inj heq
            exact Option.some.inj (hcalendar.symm.trans hcalendar')
  · unfold IsText at hvalue
    push Not at hvalue
    obtain ⟨text, moment, rfl⟩ := hvalue
    have hrange := h.datetime text moment rfl
    have hdate := utcDate_of_inRange hpython hrange
    rw [← normalizePublishedDate_datetime text moment] at hdate
    exact normalDate_of_eq hpython hdate fun htext ↦ absurd rfl (htext text moment)

/-- Only a readable value has the normal form. -/
theorem readable_of_normalDate (h : NormalDate python value) : Readable python value := by
  obtain ⟨date, hdate, -⟩ := h
  have hutc {moment : DateTime} (hok : utcDate python moment = .ok date) : InRange moment.instant := by
    by_contra hrange
    unfold utcDate at hok
    rw [if_neg hrange] at hok
    cases hok
  constructor
  · rintro text moment rfl
    rw [normalizePublishedDate_datetime] at hdate
    exact hutc hdate
  · intro hvalue text htext moment hiso
    rw [normalizePublishedDate_iso hvalue htext hiso] at hdate
    exact hutc hdate
  · intro hvalue text htext hiso hlisted year month day hdigits
    rw [normalizePublishedDate_digits hvalue htext hiso hlisted, hdigits] at hdate
    cases hcalendar : calendarDate year month day with
    | some found => rfl
    | none =>
      simp only [hpython.date, hcalendar] at hdate
      cases hdate

/-- The date of a value is normalised as it should be exactly where the value is readable. -/
theorem normalDate_iff (value : Value) : NormalDate python value ↔ Readable python value :=
  ⟨readable_of_normalDate hpython, normalDate_of_readable hpython⟩

end Normal

/-! ## Runs on dates -/

/-- Python on plain texts with the calendar. -/
def calendarPython : Python :=
  { blankPython with
    fromisoformat := fun text ↦ (IsoTexts.fromisoformat text.toList).map datetimeOf
    strptime := fun text format ↦ (StrptimeTexts.strptime text.toList format.toList).map datetimeOf
    date := fun year month day ↦
      match calendarDate year month day with
      | some date => .ok ⟨wallOf date 0, some 0⟩
      | none => .error .valueError
    isoDate := fun moment ↦ if h : InRange moment.wall then (dateOfWall moment.wall h).isoformat else "" }

theorem cpythonDates_calendarPython : CPythonDates calendarPython where
  fromisoformat _ := rfl
  strptime _ _ _ := rfl
  date _ _ _ := rfl
  isoDate _ h := dif_pos h
  nfkc _ _ := rfl

/-- A date with slashes and one-digit parts -/
theorem normalDate_slashes : NormalDate calendarPython (some (.str "2026/3/5")) := by
  refine (normalDate_iff cpythonDates_calendarPython _).mpr ⟨fun _ _ h ↦ (nomatch h), ?_, ?_⟩
  · have hiso : normalizeText calendarPython (some (.str "2026/3/5")) false = some "2026/3/5" ∧
        calendarPython.fromisoformat (replaceChar "2026/3/5" 'Z' "+00:00") = none := by decide +kernel
    intro _ text htext moment hmoment
    rw [hiso.1] at htext
    rw [← Option.some.inj htext, hiso.2] at hmoment
    cases hmoment
  · have hlisted : normalizeText calendarPython (some (.str "2026/3/5")) false = some "2026/3/5" ∧
        (datetimeLikeFormats.findSome? (calendarPython.strptime "2026/3/5")).isSome := by decide +kernel
    intro _ text htext _ hnone
    rw [hlisted.1] at htext
    rw [← Option.some.inj htext, Option.eq_none_iff_forall_ne_some] at hnone
    obtain ⟨moment, hmoment⟩ := Option.isSome_iff_exists.mp hlisted.2
    exact absurd hmoment (hnone moment)

/-- The thirteenth month raises `ValueError`, and the first hour of the calendar in a zone ahead of UTC
raises `OverflowError`. -/
theorem not_normalDate_thirteenthMonth :
    ¬ NormalDate calendarPython (some (.str "2026-13-45")) ∧
      ¬ NormalDate calendarPython (some (.str "0001-01-01T00:30:00+01:00")) := by
  have hraises : normalizePublishedDate calendarPython (some (.str "2026-13-45")) = .error .valueError ∧
      normalizePublishedDate calendarPython (some (.str "0001-01-01T00:30:00+01:00")) = .error .overflowError := by
    decide +kernel
  constructor
  · rintro ⟨date, hdate, -⟩
    rw [hraises.1] at hdate
    cases hdate
  · rintro ⟨date, hdate, -⟩
    rw [hraises.2] at hdate
    cases hdate

end TenderPhase1.Crawler
