import TenderPhase1.Foundation.Calendar

/-!
# Texts in the ISO format

What `datetime.fromisoformat` reads: a date as year, month and day or as year, week and day, with
or without hyphens, then any single character and a time of day, then the offset from UTC. It reads
back what `date.isoformat` writes.
-/

namespace TenderPhase1.IsoTexts

open IsoDates Calendar

/-! ## Digits -/

def numberOf (digits : List Char) : ℕ := digits.foldl (fun n c ↦ 10 * n + (c.toNat - '0'.toNat)) 0

/-- The number in the first `width` characters, which have to be digits, and what follows them. -/
def parseDigits (width : ℕ) (chars : List Char) : Option (ℕ × List Char) :=
  let digits := chars.take width
  if digits.length = width ∧ digits.all Char.isDigit then some (numberOf digits, chars.drop width) else none

/-- What follows the character, if the characters begin with it. -/
def expect (c : Char) : List Char → Option (List Char)
  | [] => none
  | first :: rest => if first = c then some rest else none

/-! ## Dates -/

/-- `_isoweek1monday`, as a day number -/
def isoWeek1Monday (year : ℕ) : ℕ :=
  let firstDay := daysBeforeYear year
  let firstWeekday := firstDay % 7
  if 3 < firstWeekday then firstDay - firstWeekday + 7 else firstDay - firstWeekday

/-- A year of 53 weeks begins on a Thursday, or in a leap year on a Wednesday. -/
def hasWeek53 (year : ℕ) : Bool :=
  daysBeforeYear year % 7 = 3 ∨ daysBeforeYear year % 7 = 2 ∧ IsLeap year

/-- `_isoweek_to_gregorian`, nothing where it or the constructor raises `ValueError` -/
def isoWeekDate (year week day : ℕ) : Option CalendarDate :=
  if 1 ≤ year ∧ year ≤ 9999 ∧ 1 ≤ week ∧ (week ≤ 52 ∨ week = 53 ∧ hasWeek53 year) ∧ 1 ≤ day ∧ day ≤ 7 then
    let n := isoWeek1Monday year + (week - 1) * 7 + (day - 1)
    if h : n < dayCount then some (dateOf n h) else none
  else none

/-- Where the date ends and the separator stands. -/
def separatorLocation (chars : List Char) : ℕ :=
  if chars.length = 7 then 7
  else if chars[4]? = some '-' then
    if chars[5]? = some 'W' then
      if chars[8]? = some '-' then if (chars[10]?).any Char.isDigit then 8 else 10
      else 8
    else 10
  else if chars[4]? = some 'W' then
    let digitsEnd := 7 + ((chars.drop 7).takeWhile Char.isDigit).length
    if digitsEnd < 9 then digitsEnd else if digitsEnd % 2 = 0 then 7 else 8
  else 8

/-- The week and the day of a date, the day only where it belongs to the date. -/
def parseWeekDate (year : ℕ) (dashed : Bool) (withDay : Bool) (chars : List Char) : Option CalendarDate :=
  (parseDigits 2 chars).bind fun (week, rest) ↦
    if withDay then
      ((if dashed then expect '-' rest else some rest).bind (parseDigits 1)).bind fun (day, _) ↦
        isoWeekDate year week day
    else isoWeekDate year week 1

def parseMonthDate (year : ℕ) (dashed : Bool) (chars : List Char) : Option CalendarDate :=
  (parseDigits 2 chars).bind fun (month, rest) ↦
    ((if dashed then expect '-' rest else some rest).bind (parseDigits 2)).bind fun (day, _) ↦
      calendarDate year month day

/-- `_parse_isoformat_date` of the characters up to `separator` -/
def parseIsoformatDate (chars : List Char) (separator : ℕ) : Option CalendarDate :=
  (parseDigits 4 chars).bind fun (year, rest) ↦
    let dashed : Bool := rest.head? = some '-'
    let rest := if dashed then rest.tail else rest
    if rest.head? = some 'W' then
      parseWeekDate year dashed ((if dashed then 8 else 7) < separator) rest.tail
    else parseMonthDate year dashed rest

/-! ## Times -/

def dayMicros : ℕ := 86400 * 1000000

structure Clock where
  hour : ℕ
  minute : ℕ
  second : ℕ
  microsecond : ℕ
  deriving DecidableEq, Repr

/-- Something is left of the text. A NUL counts as its end. -/
def unread (rest : List Char) : Bool := rest.head?.any (· ≠ Char.ofNat 0)

/-- What comes after two digits of a clock: the end of it, two more digits, or a fraction. -/
inductive ClockRest where
  | finished (unread : Bool)
  | part (rest : List Char)
  | fraction (rest : List Char)

/-- The character after two digits. With a colon after the hours all parts have one. The last byte
is skipped whatever it is; the caller learns that it was there. -/
def clockRest (colons : Bool) : List Char → Option ClockRest
  | [] => some (.finished false)
  | mark :: rest =>
      if rest = [] ∧ mark.toNat < 128 then some (.finished (unread [mark]))
      else if colons ∧ mark = ':' then some (.part rest)
      else if mark = '.' ∨ mark = ',' then some (.fraction rest)
      else if colons then none
      else some (.part (mark :: rest))

/-- The microseconds of a fraction of a second; digits after the sixth are dropped. -/
def parseFraction (chars : List Char) : Option (ℕ × Bool) :=
  let width := min 6 chars.length
  (parseDigits width chars).map fun (number, rest) ↦
    (number * 10 ^ (6 - width), unread (rest.dropWhile Char.isDigit))

/-- The loop of `_parse_hh_mm_ss_ff`: so many parts of two digits, then the microseconds, and
whether something is left. -/
def parseParts (colons : Bool) : ℕ → List Char → Option (List ℕ × ℕ × Bool)
  | 0, chars => (parseFraction chars).map fun (microsecond, left) ↦ ([], microsecond, left)
  | parts + 1, chars =>
      (parseDigits 2 chars).bind fun (number, rest) ↦
        match clockRest colons rest with
        | none => none
        | some (.finished left) => some ([number], 0, left)
        | some (.fraction rest) => (parseFraction rest).map fun (microsecond, left) ↦ ([number], microsecond, left)
        | some (.part rest) =>
            (parseParts colons parts rest).map fun (numbers, microsecond, left) ↦ (number :: numbers, microsecond, left)

/-- `_parse_hh_mm_ss_ff` -/
def parseClock (chars : List Char) : Option (Clock × Bool) :=
  (parseParts (chars[2]? = some ':') 3 chars).map fun (numbers, microsecond, left) ↦
    (⟨numbers.getD 0 0, numbers.getD 1 0, numbers.getD 2 0, microsecond⟩, left)

def Clock.seconds (clock : Clock) : ℕ := (clock.hour * 60 + clock.minute) * 60 + clock.second

def Clock.micros (clock : Clock) : ℕ := clock.seconds * 1000000 + clock.microsecond

/-- The microseconds of a time of day, nothing where `time(…)` raises `ValueError` -/
def Clock.timeOfDay (clock : Clock) : Option ℕ :=
  if clock.hour < 24 ∧ clock.minute < 60 ∧ clock.second < 60 ∧ clock.microsecond < 1000000 then some clock.micros
  else none

/-- The microseconds of an offset. One of less than a second is none at all. -/
def Clock.offset (clock : Clock) : ℕ := if clock.seconds = 0 then 0 else clock.micros

def zoneMarks : List Char := ['+', '-', 'Z']

/-- The offset from its mark on; it has to be less than a day. -/
def parseOffset (mark : Char) (zone : List Char) : Option ℤ :=
  if mark = 'Z' then if unread zone then none else some 0
  else
    (parseClock zone).bind fun (clock, left) ↦
      if ¬ left ∧ clock.offset < dayMicros then some (if mark = '-' then -clock.offset else clock.offset) else none

/-- `_parse_isoformat_time`. Before an offset the clock may leave something unread. -/
def parseIsoformatTime (chars : List Char) : Option (ℕ × Option ℤ) :=
  let clockChars := chars.takeWhile (¬ zoneMarks.contains ·)
  (parseClock clockChars).bind fun (clock, left) ↦
    clock.timeOfDay.bind fun timeOfDay ↦
      match chars.drop clockChars.length with
      | [] => if left then none else some (timeOfDay, none)
      | mark :: zone => (parseOffset mark zone).map fun offset ↦ (timeOfDay, some offset)

/-- A date, the microseconds since midnight, and the offset from UTC in microseconds where there is one. -/
structure Moment where
  date : CalendarDate
  timeOfDay : ℕ
  offset : Option ℤ
  deriving DecidableEq, Repr

/-- `datetime.fromisoformat(text)`, nothing where it raises `ValueError`. After a separator there has
to be a time. -/
def fromisoformat (chars : List Char) : Option Moment :=
  if chars.length < 7 then none
  else
    (parseIsoformatDate chars (separatorLocation chars)).bind fun date ↦
      match chars.drop (separatorLocation chars) with
      | [] => some ⟨date, 0, none⟩
      | _ :: time => (parseIsoformatTime time).map fun (timeOfDay, offset) ↦ ⟨date, timeOfDay, offset⟩

/-! ## What `date.isoformat` writes -/

theorem isDigit_digitChar {n : ℕ} (h : n < 10) : (Nat.digitChar n).isDigit := by
  have hdigits : ∀ n : Fin 10, (Nat.digitChar n).isDigit := by decide
  exact hdigits ⟨n, h⟩

theorem toNat_digitChar {n : ℕ} (h : n < 10) : (Nat.digitChar n).toNat - '0'.toNat = n := by
  have hdigits : ∀ n : Fin 10, (Nat.digitChar n).toNat - '0'.toNat = n := by decide
  exact hdigits ⟨n, h⟩

theorem isDigit_of_mem_digits {width n : ℕ} {c : Char} (h : c ∈ digits width n) : c.isDigit := by
  induction width generalizing n with
  | zero => exact absurd h List.not_mem_nil
  | succ width ih =>
    rw [digits, List.mem_append, List.mem_singleton] at h
    rcases h with hfirst | rfl
    · exact ih hfirst
    · exact isDigit_digitChar (Nat.mod_lt n (by omega))

theorem numberOf_append (first : List Char) (last : Char) :
    numberOf (first ++ [last]) = 10 * numberOf first + (last.toNat - '0'.toNat) :=
  List.foldl_append

theorem numberOf_digits {width n : ℕ} (h : n < 10 ^ width) : numberOf (digits width n) = n := by
  induction width generalizing n with
  | zero => rw [Nat.lt_one_iff.mp h]; rfl
  | succ width ih =>
    rw [pow_succ] at h
    rw [digits, numberOf_append, toNat_digitChar (Nat.mod_lt n (by omega)), ih (by omega)]
    omega

theorem parseDigits_append {first : List Char} (hdigits : ∀ c ∈ first, c.isDigit) (rest : List Char) :
    parseDigits first.length (first ++ rest) = some (numberOf first, rest) := by
  unfold parseDigits
  rw [List.take_left, List.drop_left]
  exact if_pos ⟨rfl, List.all_eq_true.mpr hdigits⟩

theorem parseDigits_digits {width n : ℕ} (h : n < 10 ^ width) (rest : List Char) :
    parseDigits width (digits width n ++ rest) = some (n, rest) := by
  have hisDigit : ∀ c ∈ digits width n, c.isDigit := fun _ hc ↦ isDigit_of_mem_digits hc
  have hparsed := parseDigits_append hisDigit rest
  rwa [length_digits, numberOf_digits h] at hparsed

theorem digits_succ_eq_cons (width n : ℕ) :
    ∃ c rest, digits (width + 1) n = c :: rest ∧ c.isDigit := by
  cases hdigits : digits (width + 1) n with
  | nil =>
    have hlength := length_digits (width + 1) n
    rw [hdigits] at hlength
    cases hlength
  | cons c rest =>
    have hmem : c ∈ digits (width + 1) n := hdigits ▸ List.mem_cons_self
    exact ⟨c, rest, rfl, isDigit_of_mem_digits hmem⟩

theorem length_isoChars (date : IsoDate) : date.isoChars.length = 10 := by
  simp [IsoDate.isoChars]

/-- A date in ISO format is read back. -/
theorem parseIsoformatDate_isoChars (date : CalendarDate) (separator : ℕ) :
    parseIsoformatDate date.toIsoDate.isoChars separator = some date := by
  have hyear : date.year < 10 ^ 4 := by have := date.year_le; omega
  have hmonth : date.month < 10 ^ 2 := by have := date.month_le; omega
  have hday : date.day < 10 ^ 2 := by have := date.day_le; have := daysInMonth_le date.year date.month; omega
  have hday' := parseDigits_digits hday []
  rw [List.append_nil] at hday'
  obtain ⟨first, rest, hfirst, hdigit⟩ := digits_succ_eq_cons 1 date.month
  have hnotWeek : first ≠ 'W' := by
    rintro rfl
    exact absurd hdigit (by decide)
  unfold parseIsoformatDate
  rw [show date.toIsoDate.isoChars = digits 4 date.year ++ ('-' :: (digits 2 date.month ++ '-' :: digits 2 date.day)) from
    rfl, parseDigits_digits hyear]
  simp only [Option.bind_some, List.head?_cons, decide_true, if_true, List.tail_cons]
  rw [hfirst, List.cons_append, List.head?_cons, if_neg (fun h ↦ hnotWeek (Option.some.inj h)), ← List.cons_append, ← hfirst]
  unfold parseMonthDate
  rw [parseDigits_digits hmonth]
  simp only [Option.bind_some, expect, if_true, hday']
  exact calendarDate_self date

/-- It has no separator in it. -/
theorem separatorLocation_isoChars (date : CalendarDate) : separatorLocation date.toIsoDate.isoChars = 10 := by
  obtain ⟨first, rest, hfirst, hdigit⟩ := digits_succ_eq_cons 1 date.month
  have hnotWeek : first ≠ 'W' := by
    rintro rfl
    exact absurd hdigit (by decide)
  have hchars : date.toIsoDate.isoChars =
      digits 4 date.year ++ ('-' :: first :: (rest ++ '-' :: digits 2 date.day)) := by
    have hdate : date.toIsoDate.isoChars = digits 4 date.year ++ ('-' :: digits 2 date.month ++ '-' :: digits 2 date.day) :=
      rfl
    rw [hdate, hfirst]
    simp
  have hlength : date.toIsoDate.isoChars.length ≠ 7 := by
    rw [length_isoChars]
    decide
  have hfour : date.toIsoDate.isoChars[4]? = some '-' := by
    rw [hchars, List.getElem?_append_right (by simp), length_digits]
    rfl
  have hfive : date.toIsoDate.isoChars[5]? = some first := by
    rw [hchars, List.getElem?_append_right (by simp), length_digits]
    rfl
  unfold separatorLocation
  rw [if_neg hlength, hfour, if_pos rfl, hfive, if_neg (fun h ↦ hnotWeek (Option.some.inj h))]

/-- The text of a date is read as that date at midnight, without an offset. -/
theorem fromisoformat_isoChars (date : CalendarDate) : fromisoformat date.toIsoDate.isoChars = some ⟨date, 0, none⟩ := by
  have hlength := length_isoChars date.toIsoDate
  have hdrop : date.toIsoDate.isoChars.drop 10 = [] := List.drop_eq_nil_of_le hlength.le
  unfold fromisoformat
  rw [if_neg (by omega), separatorLocation_isoChars, parseIsoformatDate_isoChars, Option.bind_some, hdrop]

theorem timeOfDay_lt {clock : Clock} {timeOfDay : ℕ} (h : clock.timeOfDay = some timeOfDay) : timeOfDay < dayMicros := by
  unfold Clock.timeOfDay at h
  split at h
  · rw [← Option.some.inj h]
    unfold Clock.micros Clock.seconds dayMicros
    omega
  · cases h

theorem parseIsoformatTime_timeOfDay_lt {chars : List Char} {timeOfDay : ℕ} {offset : Option ℤ}
    (h : parseIsoformatTime chars = some (timeOfDay, offset)) : timeOfDay < dayMicros := by
  obtain ⟨⟨clock, left⟩, -, h⟩ := Option.bind_eq_some_iff.mp h
  obtain ⟨found, hfound, h⟩ := Option.bind_eq_some_iff.mp h
  have hsame : found = timeOfDay := by
    split at h
    · split at h
      · cases h
      · exact (Prod.mk.inj (Option.some.inj h)).1
    · obtain ⟨_, -, heq⟩ := Option.map_eq_some_iff.mp h
      exact (Prod.mk.inj heq).1
  exact hsame ▸ timeOfDay_lt hfound

theorem fromisoformat_timeOfDay_lt {chars : List Char} {moment : Moment} (h : fromisoformat chars = some moment) :
    moment.timeOfDay < dayMicros := by
  unfold fromisoformat at h
  split at h
  · cases h
  · obtain ⟨date, -, h⟩ := Option.bind_eq_some_iff.mp h
    split at h
    · rw [← Option.some.inj h]
      exact Nat.zero_lt_succ _
    · obtain ⟨⟨timeOfDay, offset⟩, htime, rfl⟩ := Option.map_eq_some_iff.mp h
      exact parseIsoformatTime_timeOfDay_lt htime

example : fromisoformat "2026-W12-5T10:30+08:00".toList =
    (calendarDate 2026 3 20).map fun date ↦ ⟨date, 37800000000, some 28800000000⟩ := by decide

example : fromisoformat "20260305T".toList = none := by decide

end TenderPhase1.IsoTexts
