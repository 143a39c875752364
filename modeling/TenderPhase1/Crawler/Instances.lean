import TenderPhase1.Crawler.Writers

/-!
# Python on plain texts, and SQLite

An instance of the standard library for texts of ASCII characters without escapes,
whose digests are those of a given table, and the connection to SQLite. With them
the writers can be run.
-/

namespace TenderPhase1.Crawler

open PyText

/-! ## Texts and numbers -/

def mapChars (change : Char → Char) (text : String) : String := String.ofList (text.toList.map change)

/-- The text before the first `sep`, and what follows it. -/
def cut (sep : Char) (chars : List Char) : List Char × List Char :=
  (chars.takeWhile (· ≠ sep), (chars.dropWhile (· ≠ sep)).tail)

def plainNumber (chars : List Char) : Option ℕ :=
  if chars ≠ [] ∧ chars.all Char.isDigit then some (digitsValue chars) else none

/-! ## URLs -/

def plainUrlsplit (url : String) : SplitResult :=
  let (rest, fragment) := cut '#' url.toList
  let (rest, query) := cut '?' rest
  let (scheme, rest) := if contains url "://" then cut ':' rest else ([], rest)
  let afterSlashes := rest.drop 2
  let netloc := if scheme = [] then [] else afterSlashes.takeWhile (· ≠ '/')
  let path := if scheme = [] then rest else afterSlashes.dropWhile (· ≠ '/')
  ⟨lower (String.ofList scheme), String.ofList netloc, String.ofList path, String.ofList query,
    String.ofList fragment⟩

def plainUrlunsplit (split : SplitResult) : String :=
  let base := if split.scheme = "" then split.path else split.scheme ++ "://" ++ split.netloc ++ split.path
  let withQuery := if split.query = "" then base else base ++ "?" ++ split.query
  if split.fragment = "" then withQuery else withQuery ++ "#" ++ split.fragment

def plainParseQsl (query : String) (keepBlankValues : Bool) : List (String × String) :=
  let pairs := ((query.toList.splitOnP (· = '&')).filter (· ≠ [])).map (cut '=')
  (pairs.filter fun pair ↦ keepBlankValues || pair.2 ≠ []).map fun pair ↦
    (String.ofList pair.1, String.ofList pair.2)

def plainUrlencode (pairs : List (String × String)) : String :=
  String.intercalate "&" (pairs.map fun pair ↦ pair.1 ++ "=" ++ pair.2)

/-! ## Dates -/

/-- The day number of a date of the Gregorian calendar, counted from 1970-01-01. -/
def dayNumber (year month day : ℕ) : ℤ :=
  let shifted : ℕ := if month ≤ 2 then year - 1 else year
  let monthFromMarch := (month + 9) % 12
  365 * shifted + shifted / 4 - shifted / 100 + shifted / 400 + (153 * monthFromMarch + 2) / 5 + day - 719469

def dayMicroseconds : ℤ := 86400 * 1000000

def twoDigits (n : ℤ) : String := if n < 10 then "0" ++ toString n else toString n

def plainIsoDate (moment : DateTime) : String :=
  let day := moment.wall / dayMicroseconds + 719468
  let dayOfEra := day % 146097
  let yearOfEra := (dayOfEra - dayOfEra / 1460 + dayOfEra / 36524 - dayOfEra / 146096) / 365
  let dayOfYear := dayOfEra - (365 * yearOfEra + yearOfEra / 4 - yearOfEra / 100)
  let monthFromMarch := (5 * dayOfYear + 2) / 153
  let month := if monthFromMarch < 10 then monthFromMarch + 3 else monthFromMarch - 9
  let year := yearOfEra + 400 * (day / 146097) + if month ≤ 2 then 1 else 0
  toString year ++ "-" ++ twoDigits month ++ "-" ++ twoDigits (dayOfYear - (153 * monthFromMarch + 2) / 5 + 1)

/-- `YYYY-MM-DD`, alone or followed by midnight in UTC -/
def plainFromisoformat (text : String) : Option DateTime :=
  let chars := text.toList
  let offset := if chars.drop 10 = "T00:00:00+00:00".toList then some 0 else none
  match plainNumber (chars.take 4), plainNumber ((chars.drop 5).take 2), plainNumber ((chars.drop 8).take 2) with
  | some year, some month, some day =>
      if offset.isSome ∨ chars.length = 10 then some ⟨dayNumber year month day * dayMicroseconds, offset⟩ else none
  | _, _, _ => none

/-! ## The two instances -/

structure Digests where
  entries : List (String × String)
  stripped : ∀ entry ∈ entries, asStr (some entry.2) = some entry.2

def Digests.sha256Text (digests : Digests) (text : String) : String := (digests.entries.lookup text).getD "0"

theorem Digests.asStr_sha256Text (digests : Digests) (text : String) :
    asStr (some (digests.sha256Text text)) = some (digests.sha256Text text) := by
  unfold Digests.sha256Text
  cases h : digests.entries.lookup text with
  | none => decide
  | some digest =>
    obtain ⟨before, after, hentries, -⟩ := List.lookup_eq_some_iff.mp h
    apply digests.stripped (text, digest)
    rw [hentries]
    exact List.mem_append_right _ List.mem_cons_self

theorem lower_True : lower "True" = "true" := by decide

def plainPython (digests : Digests) : Python where
  sha256Text := digests.sha256Text
  asStr_sha256Text := digests.asStr_sha256Text
  nfkc := id
  lower := lower
  lower_true := lower_True
  upper := mapChars Char.toUpper
  urlsplit url := .ok (plainUrlsplit url)
  urlunsplit := plainUrlunsplit
  parseQsl := plainParseQsl
  urlencode := plainUrlencode
  urlparsePath url := .ok (plainUrlsplit url).path
  unquote := id
  guessType name := .ok (if (".pdf".toList).isSuffixOf name.toList then some "application/pdf" else none)
  int text := (plainNumber text.toList).map Int.ofNat
  decimal text := if (plainNumber text.toList).isSome ∧ text.toList.head? ≠ some '0' then some text else none
  fromisoformat := plainFromisoformat
  strptime _ _ := none
  date year month day := .ok ⟨dayNumber year month day * dayMicroseconds, some 0⟩
  isoDate := plainIsoDate
  isoformat moment := plainIsoDate moment ++ "T00:00:00+00:00"

def noDigests : Digests := ⟨[], fun _ h ↦ absurd h List.not_mem_nil⟩

def blankPython : Python := plainPython noDigests

/-- A program that returns, returns its result. -/
theorem eq_ok_of_isOk {Error Result : Type} {program : Except Error Result} (default : Result) (h : program.isOk) :
    program = .ok (program.toOption.getD default) := by
  cases program with
  | error error => cases h
  | ok result => rfl

def maxId (ids : List ℕ) : ℕ := ids.foldr max 0

theorem le_maxId {ids : List ℕ} {id : ℕ} (h : id ∈ ids) : id ≤ maxId ids := by
  induction ids with
  | nil => exact absurd h List.not_mem_nil
  | cons first ids ih =>
    rcases List.mem_cons.mp h with rfl | htail
    · exact le_max_left _ _
    · exact (ih htail).trans (le_max_right _ _)

/-- SQLite with the clock at `now`: ids as `_model_create_kwargs` makes them, no check of foreign
keys, and datetimes without their offset. -/
def sqlite (now : DateTime) : Connection where
  nextId ids := maxId ids + 1
  nextId_notMem _ h := Nat.not_succ_le_self _ (le_maxId h)
  answer rows := rows
  answer_perm _ := List.Perm.refl _
  storedDatetime moment := { moment with offset := none }
  storedAmount := id
  foreignKeys := false
  fails _ := false
  now := now

end TenderPhase1.Crawler
