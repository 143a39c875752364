import TenderPhase1.Foundation.SortedJson
import TenderPhase1.Spiders.DealListIsolation

/-!
# The content hash of a list record

`parse_list_record` hashes the JSON text of the record with its keys sorted. The hash is the content hash of the version
that the record leads to, so it has to change with the record, and only with it.
-/

namespace TenderPhase1.Spiders.GgzyGovCnDeal

open PyText Crawler Jobs JsonText OrderedRows

/-! ## The text of a record -/

mutual

def Json.toValue : Json → JsonText.Value PyFloat
  | .null => .null
  | .bool value => .bool value
  | .int value => .int value
  | .float value => .float value
  | .str text => .str text
  | .list items => .list (toValues items)
  | .dict entries => .dict (toEntries entries)

def toValues : List Json → List (JsonText.Value PyFloat)
  | [] => []
  | item :: items => item.toValue :: toValues items

def toEntries : List (String × Json) → List (String × JsonText.Value PyFloat)
  | [] => []
  | (key, value) :: entries => (key, value.toValue) :: toEntries entries

end

/-- A record as a `dict`, whose keys differ at every level. -/
structure RecordDict where
  entries : List (String × Json)
  distinct : (JsonText.Value.dict (toEntries entries)).Distinct

/-- `json.dumps(record, ensure_ascii=False, sort_keys=True, separators=(",", ":"))` -/
def recordText (floats : FloatFormat PyFloat) (entries : List (String × Json)) : Option (List Char) :=
  canonicalText floats (.dict (toEntries entries))

def recordDigest (floats : FloatFormat PyFloat) (python : Python) (entries : List (String × Json)) :
    Except PyError String :=
  match recordText floats entries with
  | some text => .ok (python.sha256Text (String.ofList text))
  | none => .error .valueError

/-- The library whose digest of a record is computed from its text. -/
def ListLibrary.hashing (library : ListLibrary) (floats : FloatFormat PyFloat) (python : Python) : ListLibrary :=
  { library with digest := recordDigest floats python }

/-! ## Two records -/

section Hashes

variable {library : ListLibrary} {floats : FloatFormat PyFloat} {python : Python} {entries : List (String × Json)}
  {parsed : GgzyGovCnDealListRecord}

/-- The hash of a parsed record is the digest of its JSON text. -/
theorem exists_recordText_of_parseListRecord
    (h : parseListRecord (library.hashing floats python) python entries = .ok (some parsed)) :
    ∃ text, recordText floats entries = some text ∧
      parsed.listItemContentHash = python.sha256Text (String.ofList text) := by
  unfold parseListRecord at h
  cases htitle : recordTitle (library.hashing floats python) python entries with
  | none =>
    rw [htitle] at h
    cases Except.ok.inj h
  | some title =>
    rw [htitle] at h
    dsimp only at h
    obtain ⟨detailUrl, -, h⟩ := bind_eq_ok.mp h
    obtain ⟨normalized, -, h⟩ := bind_eq_ok.mp h
    obtain ⟨publishedDate, -, h⟩ := bind_eq_ok.mp h
    obtain ⟨externalId, -, h⟩ := bind_eq_ok.mp h
    obtain ⟨digest, hdigest, h⟩ := bind_eq_ok.mp h
    change recordDigest floats python entries = .ok digest at hdigest
    unfold recordDigest at hdigest
    cases htext : recordText floats entries with
    | none =>
      rw [htext] at hdigest
      cases hdigest
    | some text =>
      rw [htext] at hdigest
      refine ⟨text, rfl, ?_⟩
      rw [← Option.some.inj (Except.ok.inj h)]
      exact (Except.ok.inj hdigest).symm

/-- Records that are equal as dictionaries have one hash, in whatever order their keys came; records that differ have
different texts, and one hash only by a collision. -/
theorem parseListRecord_contentHash (library : ListLibrary) (floats : FloatFormat PyFloat) (python : Python)
    (first second : RecordDict) {one other : GgzyGovCnDealListRecord}
    (hone : parseListRecord (library.hashing floats python) python first.entries = .ok (some one))
    (hother : parseListRecord (library.hashing floats python) python second.entries = .ok (some other)) :
    (Same (.dict (toEntries first.entries)) (.dict (toEntries second.entries)) →
        one.listItemContentHash = other.listItemContentHash) ∧
      (one.listItemContentHash = other.listItemContentHash →
        Same (.dict (toEntries first.entries)) (.dict (toEntries second.entries)) ∨
          ∃ text otherText : String, text ≠ otherText ∧ python.sha256Text text = python.sha256Text otherText) := by
  obtain ⟨text, htext, hhash⟩ := exists_recordText_of_parseListRecord hone
  obtain ⟨otherText, hotherText, hotherHash⟩ := exists_recordText_of_parseListRecord hother
  rw [hhash, hotherHash]
  constructor
  · intro hsame
    have htexts : recordText floats first.entries = recordText floats second.entries :=
      canonicalText_eq_of_same first.distinct second.distinct hsame
    rw [Option.some.inj (htext.symm.trans (htexts.trans hotherText))]
  · intro hdigests
    by_cases htexts : text = otherText
    · rw [← htexts] at hotherText
      exact Or.inl (same_of_canonicalText first.distinct second.distinct htext hotherText)
    · exact Or.inr ⟨String.ofList text, String.ofList otherText, fun h ↦ htexts (String.ofList_injective h), hdigests⟩

end Hashes

/-! ### One record with its keys in two orders -/

/-- A text for each float, which stands for its two parts. -/
def floatText : PyFloat → List Char
  | .finite mantissa exponent =>
    (textOfInt mantissa).toList ++ (['.', '0'] ++ 'e' :: (textOfInt exponent).toList)
  | .infinite negative => if negative then "-Infinity".toList else "Infinity".toList
  | .nan => "NaN".toList

def floatOfText (text : List Char) : PyFloat :=
  match scanNumber text with
  | some scanned =>
    match intOfText (String.ofList scanned.integer), intOfText (String.ofList (scanned.exponent.drop 1)) with
    | some mantissa, some exponent => .finite mantissa exponent
    | _, _ => .nan
  | none => if text = "-Infinity".toList then .infinite true else if text = "Infinity".toList then .infinite false else .nan

theorem signed_textOfInt (number : ℤ) : ∃ sign digits, (textOfInt number).toList = sign ++ digits ∧
    (sign = [] ∨ sign = ['-']) ∧ IsInteger digits := by
  refine ⟨_, _, toList_textOfInt number, ?_, isInteger_toDigits number.natAbs⟩
  split <;> simp

theorem isExponent_textOfInt (number : ℤ) : IsExponent ('e' :: (textOfInt number).toList) := by
  obtain ⟨sign, digits, htext, hsign, hinteger⟩ := signed_textOfInt number
  obtain ⟨c, others, rfl, hdigit, hdigits⟩ := exists_cons_of_isInteger hinteger
  refine Or.inr ⟨'e', sign, c :: others, by rw [htext], Or.inl rfl, hsign.imp_right Or.inr, List.cons_ne_nil _ _, ?_⟩
  exact List.forall_mem_cons.mpr ⟨hdigit, hdigits⟩

theorem isFraction_zero : IsFraction ['.', '0'] := Or.inr ⟨['0'], rfl, by decide, by decide⟩

theorem literal_floatText (x : PyFloat) : FloatLiteral (floatText x) := by
  cases x with
  | finite mantissa exponent =>
    obtain ⟨sign, digits, htext, hsign, hinteger⟩ := signed_textOfInt mantissa
    rw [floatText, htext]
    exact .number hsign hinteger isFraction_zero (isExponent_textOfInt exponent) (by simp)
  | infinite negative => cases negative <;> exact .constant (by decide)
  | nan => exact .constant (by decide)

theorem floatOfText_floatText (x : PyFloat) : floatOfText (floatText x) = x := by
  cases x with
  | finite mantissa exponent =>
    obtain ⟨sign, digits, htext, hsign, hinteger⟩ := signed_textOfInt mantissa
    have hscanned : scanNumber (floatText (.finite mantissa exponent)) =
        some ⟨(textOfInt mantissa).toList, ['.', '0'], 'e' :: (textOfInt exponent).toList, []⟩ := by
      have hscan := scanNumber_append hsign hinteger isFraction_zero (isExponent_textOfInt exponent)
        (fun c hc ↦ absurd hc (Option.not_mem_none c) : EndsNumber [])
      rwa [List.append_nil, ← htext] at hscan
    simp only [floatOfText, hscanned, String.ofList_toList, List.drop_one, List.tail_cons, intOfText_textOfInt]
  | infinite negative => cases negative <;> rfl
  | nan => rfl

def plainFloats : FloatFormat PyFloat := ⟨floatText, floatOfText, literal_floatText, floatOfText_floatText⟩

section Writable

variable (floats : FloatFormat PyFloat)

theorem exists_writeEntries_of_str (values : List (String × JsonText.Value PyFloat))
    (h : ∀ entry ∈ values, ∃ text, entry.2 = .str text) : ∃ text, writeEntries floats compact values = some text := by
  induction values with
  | nil => exact ⟨_, rfl⟩
  | cons entry values ih =>
    obtain ⟨key, value⟩ := entry
    obtain ⟨hvalue, hvalues⟩ := List.forall_mem_cons.mp h
    obtain ⟨text, rfl⟩ := hvalue
    obtain ⟨others, hothers⟩ := ih hvalues
    simp only [writeEntries, write, hothers, Option.bind_eq_bind, Option.bind_some]
    exact ⟨_, rfl⟩

/-- A record of texts can be written. -/
theorem exists_recordText_of_str {entries : List (String × Json)} (h : ∀ entry ∈ entries, ∃ text, entry.2 = .str text) :
    ∃ text, recordText floats entries = some text := by
  have htexts : ∀ entry ∈ orderBy byKey (sortEntries (toEntries entries)), ∃ text, entry.2 = .str text := by
    intro entry hentry
    replace hentry := mem_orderBy.mp hentry
    induction entries with
    | nil => exact absurd hentry List.not_mem_nil
    | cons first entries ih =>
      obtain ⟨key, value⟩ := first
      obtain ⟨hvalue, hvalues⟩ := List.forall_mem_cons.mp h
      obtain ⟨text, rfl⟩ := hvalue
      rcases List.mem_cons.mp hentry with rfl | hrest
      · exact ⟨text, rfl⟩
      · exact ih hvalues hrest
  unfold recordText canonicalText
  rw [sortKeys]
  cases hordered : orderBy byKey (sortEntries (toEntries entries)) with
  | nil => exact ⟨_, rfl⟩
  | cons entry others =>
    rw [hordered] at htexts
    obtain ⟨hentry, hothers⟩ := List.forall_mem_cons.mp htexts
    obtain ⟨key, value⟩ := entry
    obtain ⟨text, rfl⟩ := hentry
    obtain ⟨rest, hrest⟩ := exists_writeEntries_of_str floats others hothers
    simp only [write, hrest, Option.bind_eq_bind, Option.bind_some]
    exact ⟨_, rfl⟩

end Writable

def idThenTitle : RecordDict := ⟨[("id", .str "7"), ("title", .str "bridge")], ⟨by decide, trivial, trivial, trivial⟩⟩

def titleThenId : RecordDict := ⟨[("title", .str "bridge"), ("id", .str "7")], ⟨by decide, trivial, trivial, trivial⟩⟩

/-- Both orders of the two keys are parsed. -/
theorem parse_idAndTitle (record : RecordDict) (hrecord : record = idThenTitle ∨ record = titleThenId) :
    ∃ parsed, parseListRecord (plainLibrary.hashing plainFloats markingCalendarPython) markingCalendarPython
      record.entries = .ok (some parsed) := by
  have htexts : ∀ entry ∈ record.entries, ∃ text, entry.2 = Json.str text := by
    rcases hrecord with rfl | rfl <;>
      exact List.forall_mem_cons.mpr ⟨⟨_, rfl⟩, List.forall_mem_singleton.mpr ⟨_, rfl⟩⟩
  obtain ⟨text, htext⟩ := exists_recordText_of_str plainFloats htexts
  have hdigest : ((plainLibrary.hashing plainFloats markingCalendarPython).digest record.entries).isOk := by
    change (recordDigest plainFloats markingCalendarPython record.entries).isOk
    rw [recordDigest, htext]
    rfl
  have hconvertible : ConvertibleRecord (plainLibrary.hashing plainFloats markingCalendarPython) markingCalendarPython
      record.entries := by
    rcases hrecord with rfl | rfl
    · exact ⟨⟨none, rfl, by decide +kernel, by decide +kernel⟩, by decide +kernel, hdigest⟩
    · exact ⟨⟨none, rfl, by decide +kernel, by decide +kernel⟩, by decide +kernel, hdigest⟩
  obtain ⟨result, hresult⟩ := exists_of_isOk (isOk_parseListRecord.mpr fun _ ↦ hconvertible)
  have htitled : result.isSome := by
    rw [isSome_of_parseListRecord hresult]
    rcases hrecord with rfl | rfl <;> decide +kernel
  obtain ⟨parsed, rfl⟩ := Option.isSome_iff_exists.mp htitled
  exact ⟨parsed, hresult⟩

theorem parseListRecord_contentHash_idAndTitle : ∃ one other,
    parseListRecord (plainLibrary.hashing plainFloats markingCalendarPython) markingCalendarPython idThenTitle.entries =
        .ok (some one) ∧
      parseListRecord (plainLibrary.hashing plainFloats markingCalendarPython) markingCalendarPython
        titleThenId.entries = .ok (some other) ∧
      one.listItemContentHash = other.listItemContentHash := by
  obtain ⟨one, hone⟩ := parse_idAndTitle idThenTitle (Or.inl rfl)
  obtain ⟨other, hother⟩ := parse_idAndTitle titleThenId (Or.inr rfl)
  refine ⟨one, other, hone, hother, ?_⟩
  refine (parseListRecord_contentHash plainLibrary plainFloats markingCalendarPython idThenTitle titleThenId hone
    hother).1 ⟨rfl, ?_⟩
  exact ⟨⟨.str "7", rfl, rfl⟩, ⟨.str "bridge", rfl, rfl⟩, trivial⟩

end TenderPhase1.Spiders.GgzyGovCnDeal
