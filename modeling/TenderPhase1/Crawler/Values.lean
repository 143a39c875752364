import TenderPhase1.Foundation.PyText
import Mathlib.Data.Int.Basic

/-!
# Crawler items and their values

What the spiders hand to the writers: dictionaries whose values may be any object
of the language, read through `str(value)` and its truth value. The functions of
the standard library that the crawler calls are collected in `Python`; the model
takes them as they come, so that its results hold whatever they return.
-/

namespace TenderPhase1.Crawler

open PyText

/-- A `datetime`: the microseconds that its wall clock shows after 1970-01-01, and those by which
it is ahead of UTC where it knows. -/
structure DateTime where
  wall : ℤ
  offset : Option ℤ
  deriving DecidableEq, Repr

/-- The instant on which aware datetimes are compared; a naive one counts as UTC. -/
def DateTime.instant (moment : DateTime) : ℤ := moment.wall - moment.offset.getD 0

def DateTime.replaceUtc (moment : DateTime) : DateTime := { moment with offset := some 0 }

/-- `dt if dt.tzinfo is not None else dt.replace(tzinfo=timezone.utc)` -/
def DateTime.aware (moment : DateTime) : DateTime :=
  match moment.offset with
  | some _ => moment
  | none => moment.replaceUtc

/-- A value of an item other than `None`. -/
inductive PyObject where
  | str (text : String)
  | datetime (text : String) (moment : DateTime)
  | other (text : String) (truthy : Bool)
  deriving DecidableEq, Repr

def PyObject.text : PyObject → String
  | .str text | .datetime text _ | .other text _ => text

def PyObject.truthy : PyObject → Bool
  | .str text => text ≠ ""
  | .datetime _ _ => true
  | .other _ truthy => truthy

def PyObject.ofBool (value : Bool) : PyObject := .other (if value then "True" else "False") value

def PyObject.ofInt (value : ℤ) : PyObject := .other (toString value) (value ≠ 0)

/-- What `item.get(key)` returns. -/
abbrev Value := Option PyObject

/-- `value or other` -/
def Value.or (value other : Value) : Value :=
  match value with
  | some object => if object.truthy then value else other
  | none => other

def Value.asStr (value : Value) : Option String := PyText.asStr (value.map PyObject.text)

def Value.ofText (text : Option String) : Value := text.map PyObject.str

abbrev Mapping := List (String × Value)

def Mapping.get (mapping : Mapping) (key : String) : Value := (mapping.lookup key).join

def Mapping.set (mapping : Mapping) (key : String) (value : Value) : Mapping :=
  if mapping.any (·.1 = key) then mapping.map fun entry ↦ if entry.1 = key then (key, value) else entry
  else mapping ++ [(key, value)]

/-! ## The standard library -/

/-- The exceptions that the functions below raise. -/
inductive PyError where
  | valueError
  | overflowError
  | invalidOperation
  deriving DecidableEq, Repr

structure SplitResult where
  scheme : String
  netloc : String
  path : String
  query : String
  fragment : String
  deriving DecidableEq, Repr

/-- The functions of the standard library that the crawler calls, under their names there. -/
structure Python where
  /-- `hashlib.sha256(value.encode("utf-8")).hexdigest()` -/
  sha256Text : String → String
  /-- A digest is not empty, and has no white space around it. -/
  asStr_sha256Text : ∀ text, asStr (some (sha256Text text)) = some (sha256Text text)
  /-- `unicodedata.normalize("NFKC", text)` -/
  nfkc : String → String
  /-- `text.lower()` -/
  lower : String → String
  lower_true : lower "True" = "true"
  /-- `text.upper()` -/
  upper : String → String
  /-- `urlsplit(url)` -/
  urlsplit : String → Except PyError SplitResult
  urlunsplit : SplitResult → String
  /-- `parse_qsl(query, keep_blank_values=…)` -/
  parseQsl : String → Bool → List (String × String)
  urlencode : List (String × String) → String
  /-- `urlparse(url).path` -/
  urlparsePath : String → Except PyError String
  unquote : String → String
  /-- `mimetypes.guess_type(name)[0]` -/
  guessType : String → Except PyError (Option String)
  /-- `int(text)`, nothing where it raises `ValueError` -/
  int : String → Option ℤ
  /-- `str(Decimal(text))`, nothing where it raises `InvalidOperation` -/
  decimal : String → Option String
  /-- `datetime.fromisoformat(text)`, nothing where it raises `ValueError` -/
  fromisoformat : String → Option DateTime
  /-- `datetime.strptime(text, format)`, nothing where it raises `ValueError` -/
  strptime : String → String → Option DateTime
  /-- `datetime(year, month, day, tzinfo=timezone.utc)` -/
  date : ℕ → ℕ → ℕ → Except PyError DateTime
  /-- `moment.date().isoformat()` -/
  isoDate : DateTime → String
  /-- `moment.isoformat()` -/
  isoformat : DateTime → String

/-- The wall clocks of `datetime.min` and `datetime.max`. -/
def minWall : ℤ := -62135596800000000
def maxWall : ℤ := 253402300799999999

def DateTime.astimezone (moment : DateTime) : Except PyError DateTime :=
  if minWall ≤ moment.instant ∧ moment.instant ≤ maxWall then .ok ⟨moment.instant, some 0⟩
  else .error .overflowError

/-! ## Items -/

/-- What a spider yields. A key that is not set reads as `None`; so does a value that is no `dict`
where the code asks for one. -/
structure Item where
  sourceCode : Value := none
  sourceSiteName : Value := none
  sourceSiteUrl : Value := none
  crawlJobId : Value := none
  url : Value := none
  normalizedUrl : Value := none
  urlHash : Value := none
  contentHash : Value := none
  rawContentHash : Value := none
  rawBody : Value := none
  documentType : Value := none
  fetchedAt : Value := none
  httpStatus : Value := none
  mimeType : Value := none
  charset : Value := none
  contentLength : Value := none
  storageUri : Value := none
  extraMeta : Option Mapping := none
  externalId : Value := none
  noticeExternalId : Value := none
  projectCode : Value := none
  dedupHash : Value := none
  noticeDedupHash : Value := none
  dedupKey : Value := none
  sourceDuplicateKey : Value := none
  sourceListItemFingerprint : Value := none
  title : Value := none
  noticeType : Value := none
  issuer : Value := none
  purchaser : Value := none
  publisher : Value := none
  region : Value := none
  publishedAt : Value := none
  deadlineAt : Value := none
  budgetAmount : Value := none
  budgetCurrency : Value := none
  summary : Value := none
  contentText : Value := none
  listPageUrl : Value := none
  detailPageUrl : Value := none
  sourceUrl : Value := none
  versionNo : Value := none
  isCurrent : Value := none
  structuredData : Option Mapping := none
  changeSummary : Value := none
  rawDocumentUrlHash : Value := none
  noticeVersionNo : Value := none
  fileName : Value := none
  attachmentType : Value := none
  fileUrl : Value := none
  fileHash : Value := none
  fileExt : Value := none
  fileSizeBytes : Value := none
  downloadedAt : Value := none
  stage : Value := none
  errorType : Value := none
  errorMessage : Value := none
  traceback : Value := none
  retryable : Value := none
  occurredAt : Value := none

section Conversions

variable (python : Python) (value : Value)

def Value.asInt : Option ℤ := value.bind fun object ↦ python.int (strip object.text)

/-- `str.replace` of a single character by a text -/
def replaceChar (text : String) (old : Char) (new : String) : String :=
  String.join (text.toList.map fun c ↦ if c = old then new else String.singleton c)

/-- `_as_decimal`; an amount is given by its text. -/
def Value.asDecimal : Option String :=
  value.bind fun object ↦
    let text := replaceChar (strip object.text) ',' ""
    if text = "" then none else python.decimal text

def writerDatetimeFormats : List String := ["%Y-%m-%d %H:%M:%S", "%Y-%m-%d %H:%M", "%Y-%m-%d", "%Y%m%d"]

def Value.asDatetime : Option DateTime :=
  value.asStr.bind fun text ↦
    match python.fromisoformat (replaceChar text 'Z' "+00:00") with
    | some moment => some moment.aware
    | none => (writerDatetimeFormats.findSome? (python.strptime text)).map DateTime.replaceUtc

def Value.asBool (default : Bool) : Bool :=
  match value with
  | none => default
  | some object =>
      let text := python.lower (strip object.text)
      if ["1", "true", "yes", "y"].contains text then true
      else if ["0", "false", "no", "n"].contains text then false
      else default

def Value.nonNegativeInt : ℤ := max 0 ((value.asInt python).getD 0)

def coerceUtcDatetime (moment : Option DateTime) : Except PyError (Option DateTime) :=
  match moment with
  | none => .ok none
  | some moment =>
      match moment.offset with
      | none => .ok (some moment.replaceUtc)
      | some _ => moment.astimezone.map some

end Conversions

@[simp]
theorem Value.asStr_none : Value.asStr none = none := rfl

@[simp]
theorem Value.asStr_ofText_none : (Value.ofText none).asStr = none := rfl

/-- A text that is not blank is what `or` returns. -/
theorem Value.or_str {text stripped : String} (h : PyText.asStr (some text) = some stripped) (other : Value) :
    Value.or (some (.str text)) other = some (.str text) := by
  have hne : text ≠ "" := by
    rintro rfl
    cases h
  exact if_pos (decide_eq_true hne)

theorem Value.asBool_ofBool_true (python : Python) (default : Bool) :
    Value.asBool python (some (PyObject.ofBool true)) default = true := by
  have hstrip : strip "True" = "True" := by decide
  change (if ["1", "true", "yes", "y"].contains (python.lower (strip "True")) then _ else _) = _
  rw [hstrip, python.lower_true]
  rfl

/-- A text that went through `_as_str` once comes out of an item unchanged. -/
theorem Value.asStr_ofText_asStr (value : Value) : (Value.ofText value.asStr).asStr = value.asStr := by
  cases h : value.asStr with
  | none => rfl
  | some text =>
    have hstr : PyText.asStr (value.map PyObject.text) = some text := h
    exact asStr_of_asStr hstr

end TenderPhase1.Crawler
