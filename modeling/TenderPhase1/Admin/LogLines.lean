import TenderPhase1.Foundation.JsonText

/-!
# Log lines

`JsonLogFormatter` writes a log record as one line of JSON. Whatever texts a record has, the line breaks of a message
and the request id that a client sends among them, the log is read back record by record.
-/

namespace TenderPhase1.Admin

open JsonText

variable {Float : Type}

/-! ## Records -/

/-- An attribute from the `extra` of a log call. What JSON has no form for stands as the text that `_json_default`
gives for it. -/
structure LogField (Float : Type) where
  key : String
  value : Value Float
  distinct : value.Distinct

/-- What the formatter reads of a `LogRecord`; the request id is that of the context. -/
structure LogRecord (Float : Type) where
  timestamp : String
  levelname : String
  name : String
  message : String
  fields : List (LogField Float)
  keys_nodup : (fields.map LogField.key).Nodup
  requestId : Option String
  excInfo : Option String
  excText : Option String

def reservedLogRecordFields : List String :=
  ["name", "msg", "args", "levelname", "levelno", "pathname", "filename", "module", "exc_info", "exc_text",
    "stack_info", "lineno", "funcName", "created", "msecs", "relativeCreated", "thread", "threadName", "processName",
    "process", "taskName", "message", "asctime"]

def isNull : Value Float → Bool
  | .null => true
  | _ => false

/-- The truth value of an attribute; a float is zero where its text is that of a zero. -/
def isTruthy (floats : FloatFormat Float) : Value Float → Bool
  | .null => false
  | .bool value => value
  | .int value => value ≠ 0
  | .float value => ¬ (floats.repr value = "0.0".toList ∨ floats.repr value = "-0.0".toList)
  | .str text => text ≠ ""
  | .list items => !items.isEmpty
  | .dict entries => !entries.isEmpty

def LogRecord.getattr (record : LogRecord Float) (key : String) : Option (LogField Float) :=
  record.fields.find? (·.key = key)

/-! ## The formatter -/

section Format

variable (floats : FloatFormat Float)

/-- `getattr(record, "request_id", None) or get_request_id()` -/
def recordRequestId (record : LogRecord Float) : Option (Value Float) :=
  match (record.getattr "request_id").filter fun field ↦ isTruthy floats field.value with
  | some field => some field.value
  | none => record.requestId.map .str

def keptFields (record : LogRecord Float) : List (LogField Float) :=
  record.fields.filter fun field ↦
    !(reservedLogRecordFields.contains field.key || isNull field.value) && field.key ≠ "request_id"

/-- The assignments to the payload, in their order. -/
def payloadPairs (record : LogRecord Float) : List (String × Value Float) :=
  [("timestamp", .str record.timestamp), ("level", .str record.levelname), ("logger", .str record.name),
      ("message", .str record.message)] ++
    ((recordRequestId floats record).map fun value ↦ ("request_id", value)).toList ++
    (keptFields record).map (fun field ↦ (field.key, field.value)) ++
    ((record.excInfo.or (record.excText.filter (· ≠ ""))).map fun text ↦ ("exception", Value.str text)).toList

def payload (record : LogRecord Float) : List (String × Value Float) := dictOfPairs (payloadPairs floats record)

/-- `JsonLogFormatter.format`, which fails for an integer of too many digits. -/
def format (record : LogRecord Float) : Option (List Char) := write floats spaced (.dict (payload floats record))

/-- What the handler has written; a record that cannot be formatted is reported elsewhere. -/
def logOutput (records : List (LogRecord Float)) : List Char := (records.filterMap (format floats)).flatMap (· ++ ['\n'])

end Format

/-! ## Reading the log -/

section Log

variable {floats : FloatFormat Float} {record : LogRecord Float} {key : String}

/-- The value of the last assignment to a key. -/
theorem lookup_foldl_putEntry (pairs entries : List (String × Value Float)) (key : String) :
    (pairs.foldl putEntry entries).lookup key = (pairs.reverse.lookup key).or (entries.lookup key) := by
  induction pairs generalizing entries with
  | nil => rfl
  | cons pair pairs ih =>
    obtain ⟨first, value⟩ := pair
    rw [List.foldl_cons, ih, lookup_putEntry, List.reverse_cons, List.lookup_append]
    cases pairs.reverse.lookup key with
    | some found => rfl
    | none =>
      by_cases hkey : key = first
      · subst hkey
        simp
      · rw [if_neg hkey, List.lookup_cons, beq_false_of_ne hkey]
        rfl

theorem lookup_payload : (payload floats record).lookup key = (payloadPairs floats record).reverse.lookup key := by
  rw [payload, dictOfPairs, lookup_foldl_putEntry, List.lookup_nil, Option.or_none]

theorem distinct_payload : (Value.dict (payload floats record)).Distinct := by
  refine distinct_dictOfPairs fun pair hpair ↦ ?_
  simp only [payloadPairs, List.mem_append, List.mem_cons, List.not_mem_nil, or_false, Option.mem_toList,
    Option.map_eq_some_iff, List.mem_map] at hpair
  rcases hpair with ((hbase | ⟨value, hvalue, rfl⟩) | ⟨field, -, rfl⟩) | ⟨text, -, rfl⟩
  · rcases hbase with rfl | rfl | rfl | rfl <;> trivial
  · unfold recordRequestId at hvalue
    split at hvalue
    · exact Option.some.inj hvalue ▸ LogField.distinct _
    · obtain ⟨text, -, rfl⟩ := Option.map_eq_some_iff.mp hvalue
      trivial
  · exact field.distinct
  · trivial

/-- The assignments from the last one on, by their four parts. -/
theorem lookup_payload_eq : (payload floats record).lookup key =
    ((((record.excInfo.or (record.excText.filter (· ≠ ""))).map fun text ↦
        ("exception", (Value.str text : Value Float))).toList.lookup key).or
      ((((keptFields record).map fun field ↦ (field.key, field.value)).reverse.lookup key).or
        ((((recordRequestId floats record).map fun value ↦ ("request_id", value)).toList.lookup key).or
          ([("message", .str record.message), ("logger", .str record.name), ("level", .str record.levelname),
            ("timestamp", .str record.timestamp)].lookup key)))) := by
  have hreverse {Value : Type} (value : Option Value) : value.toList.reverse = value.toList := by cases value <;> rfl
  rw [lookup_payload, payloadPairs, List.reverse_append, List.reverse_append, List.reverse_append, List.lookup_append,
    List.lookup_append, List.lookup_append, hreverse, hreverse]
  rfl

theorem lookup_keptFields_of_forall (h : ∀ field ∈ keptFields record, field.key ≠ key) :
    ((keptFields record).map fun field ↦ (field.key, field.value)).reverse.lookup key = none := by
  rw [List.lookup_eq_none_iff]
  intro pair hpair
  obtain ⟨field, hfield, rfl⟩ := List.mem_map.mp (List.mem_reverse.mp hpair)
  exact bne_iff_ne.mpr (h field hfield).symm

theorem keptFields_spec {field : LogField Float} (h : field ∈ keptFields record) :
    field.key ∉ reservedLogRecordFields ∧ field.key ≠ "request_id" := by
  have hkept := (List.mem_filter.mp h).2
  simp only [Bool.and_eq_true, Bool.not_eq_true', Bool.or_eq_false_iff, List.contains_eq_mem, decide_eq_false_iff_not,
    decide_eq_true_eq] at hkept
  exact ⟨hkept.1.1, hkept.2⟩

/-- The line of a record, by what its keys stand for. -/
structure LineOf (floats : FloatFormat Float) (record : LogRecord Float) (line : List (String × Value Float)) :
    Prop where
  message : line.lookup "message" = some (.str record.message)
  requestId : line.lookup "request_id" = recordRequestId floats record
  attributes : ∀ field ∈ keptFields record,
    field.key ≠ "exception" ∨ record.excInfo = none ∧ record.excText = none → line.lookup field.key = some field.value

/-- The payload of a record has what its line has to show. -/
theorem lineOf_payload (floats : FloatFormat Float) (record : LogRecord Float) :
    LineOf floats record (payload floats record) := by
  have hexception {key : String} (hkey : key ≠ "exception") (text : Option String) :
      (text.map fun text ↦ ("exception", (Value.str text : Value Float))).toList.lookup key = none := by
    cases text with
    | none => rfl
    | some text =>
      rw [Option.map_some, Option.toList_some, List.lookup_cons, beq_false_of_ne hkey]
      rfl
  have hrequest {key : String} (hkey : key ≠ "request_id") (value : Option (Value Float)) :
      (value.map fun value ↦ ("request_id", value)).toList.lookup key = none := by
    cases value with
    | none => rfl
    | some value =>
      rw [Option.map_some, Option.toList_some, List.lookup_cons, beq_false_of_ne hkey]
      rfl
  constructor
  · rw [lookup_payload_eq, hexception (by decide), hrequest (by decide), lookup_keptFields_of_forall]
    · rfl
    · intro field hfield hkey
      exact (keptFields_spec hfield).1 (hkey ▸ by decide)
  · rw [lookup_payload_eq, hexception (by decide), lookup_keptFields_of_forall fun field hfield ↦
      (keptFields_spec hfield).2]
    cases recordRequestId floats record <;> rfl
  · intro field hfield hkey
    have hnodup : (((keptFields record).map fun field ↦ (field.key, field.value)).reverse.map Prod.fst).Nodup := by
      rw [List.map_reverse, List.nodup_reverse, List.map_map]
      exact record.keys_nodup.sublist (List.filter_sublist.map LogField.key)
    have hfound : ((keptFields record).map fun field ↦ (field.key, field.value)).reverse.lookup field.key =
        some field.value := by
      rw [lookup_eq_some_iff hnodup, List.mem_reverse]
      exact List.mem_map_of_mem hfield
    rw [lookup_payload_eq, hfound]
    rcases hkey with hne | ⟨hinfo, htext⟩
    · rw [hexception hne]
      rfl
    · rw [hinfo, htext]
      rfl

/-- The log is read back line by line: each record that could be formatted has one line, with its message, its request
id and its attributes. -/
theorem logOutput_readBack (floats : FloatFormat Float) (records : List (LogRecord Float)) :
    (fileLines (logOutput floats records)).map (loads floats) =
        (records.filter fun record ↦ (format floats record).isSome).map (fun record ↦
          some (.dict (payload floats record))) ∧
      ∀ record ∈ records, LineOf floats record (payload floats record) := by
  exact ⟨loads_fileLines (fun _ ↦ distinct_payload) records, fun record _ ↦ lineOf_payload floats record⟩

end Log

end TenderPhase1.Admin
