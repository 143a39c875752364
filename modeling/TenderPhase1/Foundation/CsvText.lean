import TenderPhase1.Foundation.PyText
import Mathlib.Tactic.SplitIfs

/-!
# Comma-separated texts

`csv.writer` and `csv.reader` in the dialect `excel`. The writer puts a field between
quotes if it has a comma, a quote or a line break in it, and doubles the quotes. The
reader takes its text line by line, and a quoted field may go on over several lines.
What was written is read back row for row, as long as no field is longer than the
limit that the reader has for a field.
-/

namespace TenderPhase1.Csv

/-! ## Writing -/

/-- A delimiter, a quote, or a character of the line terminator -/
def isSpecial (c : Char) : Bool := c = ',' || c = '"' || c = '\r' || c = '\n'

/-- `doublequote` -/
def doubled (c : Char) : List Char := if c = '"' then ['"', '"'] else [c]

/-- `join_append` with QUOTE_MINIMAL -/
def writeField (field : List Char) : List Char :=
  if field.any isSpecial then '"' :: (field.flatMap doubled ++ ['"']) else field

def writeFields (fields : List (List Char)) : List Char := fields.flatMap fun field ↦ ',' :: writeField field

/-- `writer.writerow(row)`; a single empty field is quoted, or the row would look like one without fields. -/
def writeRow : List (List Char) → List Char
  | [] => ['\r', '\n']
  | [[]] => ['"', '"', '\r', '\n']
  | first :: fields => writeField first ++ (writeFields fields ++ ['\r', '\n'])

def writeRows (rows : List (List (List Char))) : List Char := rows.flatMap writeRow

/-! ## Reading -/

inductive Place where
  | startRecord
  | startField
  | inField
  | inQuotedField
  | quoteInQuotedField
  | eatCrnl
  deriving DecidableEq, Repr

inductive CsvError where
  | fieldLimit
  | newlineInUnquotedField
  deriving DecidableEq, Repr

/-- The field, the record and the records that have been read so far. -/
structure Reader where
  place : Place
  field : List Char
  fields : List (List Char)
  records : List (List (List Char))
  deriving DecidableEq, Repr

def Reader.start (records : List (List (List Char))) : Reader := ⟨.startRecord, [], [], records⟩

/-- `parse_save_field` -/
def Reader.save (reader : Reader) (place : Place) : Reader :=
  { reader with place := place, field := [], fields := reader.fields ++ [reader.field] }

def Reader.complete (reader : Reader) : Reader := .start (reader.records ++ [reader.fields])

section Reading

variable (limit : ℕ)

/-- `parse_add_char` -/
def Reader.add (reader : Reader) (place : Place) (c : Char) : Except CsvError Reader :=
  if limit ≤ reader.field.length then .error .fieldLimit
  else .ok { reader with place := place, field := reader.field ++ [c] }

def isNewline (c : Char) : Bool := c = '\n' || c = '\r'

def Reader.stepStartField (reader : Reader) (c : Char) : Except CsvError Reader :=
  if isNewline c then .ok (reader.save .eatCrnl)
  else if c = '"' then .ok { reader with place := .inQuotedField }
  else if c = ',' then .ok (reader.save .startField)
  else reader.add limit .inField c

/-- `parse_process_char` on a character of a line -/
def Reader.stepChar (reader : Reader) (c : Char) : Except CsvError Reader :=
  match reader.place with
  | .startRecord => if isNewline c then .ok { reader with place := .eatCrnl } else reader.stepStartField limit c
  | .startField => reader.stepStartField limit c
  | .inField =>
      if isNewline c then .ok (reader.save .eatCrnl)
      else if c = ',' then .ok (reader.save .startField)
      else reader.add limit .inField c
  | .inQuotedField =>
      if c = '"' then .ok { reader with place := .quoteInQuotedField } else reader.add limit .inQuotedField c
  | .quoteInQuotedField =>
      if c = '"' then reader.add limit .inQuotedField c
      else if c = ',' then .ok (reader.save .startField)
      else if isNewline c then .ok (reader.save .eatCrnl)
      else reader.add limit .inField c
  | .eatCrnl => if isNewline c then .ok reader else .error .newlineInUnquotedField

/-- `parse_process_char(self, EOL)` at the end of a line -/
def Reader.stepEol (reader : Reader) : Reader :=
  match reader.place with
  | .startRecord | .eatCrnl => reader.complete
  | .startField | .inField | .quoteInQuotedField => (reader.save .startRecord).complete
  | .inQuotedField => reader

def Reader.step (reader : Reader) : Option Char → Except CsvError Reader
  | some c => reader.stepChar limit c
  | none => .ok reader.stepEol

def Reader.run (reader : Reader) (symbols : List (Option Char)) : Except CsvError Reader :=
  symbols.foldlM (Reader.step limit) reader

/-- The lines of a text end with `\n`, and at the end of each the reader is told so. -/
def endsLine (c : Char) : List (Option Char) := if c = '\n' then [some c, none] else [some c]

def symbols (text : List Char) : List (Option Char) :=
  text.flatMap endsLine ++ if text.getLast?.all (· = '\n') then [] else [none]

/-- What the reader returns when there are no more lines -/
def Reader.finish (reader : Reader) : List (List (List Char)) :=
  if reader.place = .inQuotedField then reader.records ++ [reader.fields ++ [reader.field]] else reader.records

/-- `list(csv.reader(StringIO(text)))` -/
def readRows (text : List Char) : Except CsvError (List (List (List Char))) :=
  (Reader.run limit (.start []) (symbols text)).map Reader.finish

end Reading

/-! ## Reading what was written -/

variable {limit : ℕ} {reader : Reader}

@[simp]
theorem Reader.run_nil : reader.run limit [] = .ok reader := rfl

theorem Reader.run_cons (symbol : Option Char) (rest : List (Option Char)) :
    reader.run limit (symbol :: rest) = (reader.step limit symbol).bind (·.run limit rest) := rfl

theorem Reader.run_append (first second : List (Option Char)) :
    reader.run limit (first ++ second) = (reader.run limit first).bind (·.run limit second) := by
  unfold Reader.run
  rw [List.foldlM_append]
  rfl

theorem Reader.run_cons_of_step {next : Reader} {symbol : Option Char} (h : reader.step limit symbol = .ok next)
    (rest : List (Option Char)) : reader.run limit (symbol :: rest) = next.run limit rest := by
  rw [Reader.run_cons, h]
  rfl

/-- Where a field is read the first character decides between its two forms. -/
theorem Reader.stepChar_startRecord {fields : List (List Char)} {records : List (List (List Char))} {c : Char}
    (h : isNewline c = false) :
    Reader.stepChar limit ⟨.startRecord, [], fields, records⟩ c =
      Reader.stepChar limit ⟨.startField, [], fields, records⟩ c := by
  unfold Reader.stepChar Reader.stepStartField Reader.save Reader.add
  simp [h]

/-- The reader has a field behind it, and is to be told where the next one begins. -/
def Reader.AtEnd (reader : Reader) (field : List Char) (fields : List (List Char)) (records : List (List (List Char))) :
    Prop :=
  (reader.place = .inField ∨ reader.place = .quoteInQuotedField ∨ reader.place = .startField) ∧
    reader.field = field ∧ reader.fields = fields ∧ reader.records = records

section AtEnd

variable {field : List Char} {fields : List (List Char)} {records : List (List (List Char))}

theorem Reader.AtEnd.step_comma (h : reader.AtEnd field fields records) :
    reader.step limit (some ',') = .ok ⟨.startField, [], fields ++ [field], records⟩ := by
  obtain ⟨place, _, _, _⟩ := reader
  obtain ⟨hplace, rfl, rfl, rfl⟩ := h
  have hnewline : isNewline ',' = false := rfl
  rcases hplace with rfl | rfl | rfl <;>
    simp [Reader.step, Reader.stepChar, Reader.stepStartField, Reader.save, hnewline]

theorem Reader.AtEnd.step_return (h : reader.AtEnd field fields records) :
    reader.step limit (some '\r') = .ok ⟨.eatCrnl, [], fields ++ [field], records⟩ := by
  obtain ⟨place, _, _, _⟩ := reader
  obtain ⟨hplace, rfl, rfl, rfl⟩ := h
  have hnewline : isNewline '\r' = true := rfl
  rcases hplace with rfl | rfl | rfl <;>
    simp [Reader.step, Reader.stepChar, Reader.stepStartField, Reader.save, hnewline]

end AtEnd

/-! ### Fields -/

/-- Characters each of which is added to the field, however it is written. -/
theorem Reader.run_flatMap_of_add {form : Char → List (Option Char)} {place : Place} {chars : List Char}
    (hadd : ∀ c ∈ chars, ∀ reader : Reader, reader.place = place → reader.run limit (form c) = reader.add limit place c)
    (hplace : reader.place = place) (hfield : reader.field.length ≤ limit) :
    reader.run limit (chars.flatMap form) =
      if reader.field.length + chars.length ≤ limit then .ok { reader with field := reader.field ++ chars }
      else .error .fieldLimit := by
  induction chars generalizing reader with
  | nil => simp [hfield]
  | cons c chars ih =>
    rw [List.flatMap_cons, Reader.run_append, hadd c List.mem_cons_self reader hplace]
    unfold Reader.add
    rw [List.length_cons]
    split_ifs with hfull hfits hfits
    · omega
    · rfl
    · rw [Except.bind, ih (fun c hc ↦ hadd c (List.mem_cons_of_mem _ hc)) rfl (by simp; omega)]
      simp only [List.length_append, List.length_singleton, List.append_assoc, List.singleton_append, hplace]
      rw [if_pos (by omega)]
    · rw [Except.bind, ih (fun c hc ↦ hadd c (List.mem_cons_of_mem _ hc)) rfl (by simp; omega)]
      simp only [List.length_append, List.length_singleton]
      rw [if_neg (by omega)]

theorem endsLine_of_not_isSpecial {c : Char} (h : isSpecial c = false) : endsLine c = [some c] := by
  refine if_neg ?_
  rintro rfl
  cases h

theorem isNewline_of_not_isSpecial {c : Char} (h : isSpecial c = false) : isNewline c = false := by
  simp only [isSpecial, Bool.or_eq_false_iff] at h
  simp only [isNewline, Bool.or_eq_false_iff]
  exact ⟨h.2, h.1.2⟩

theorem Reader.run_endsLine_inField {c : Char} (h : isSpecial c = false) (hplace : reader.place = .inField) :
    reader.run limit (endsLine c) = reader.add limit .inField c := by
  have hnewline := isNewline_of_not_isSpecial h
  simp only [isSpecial, Bool.or_eq_false_iff, decide_eq_false_iff_not] at h
  rw [endsLine_of_not_isSpecial (by simp [isSpecial, h]), Reader.run_cons, Reader.step, Reader.stepChar, hplace]
  simp only [hnewline, Bool.false_eq_true, if_false, h.1.1.1]
  unfold Reader.add
  split_ifs <;> rfl

/-- In quotes a line break is read as it stands, and the end of the line does not matter. -/
theorem Reader.run_doubled_inQuotedField (c : Char) (hplace : reader.place = .inQuotedField) :
    reader.run limit ((doubled c).flatMap endsLine) = reader.add limit .inQuotedField c := by
  obtain ⟨place, field, fields, records⟩ := reader
  obtain rfl : place = .inQuotedField := hplace
  by_cases hquote : c = '"'
  · subst hquote
    have htext : (doubled '"').flatMap endsLine = [some '"', some '"'] := rfl
    have hfirst : Reader.step limit ⟨.inQuotedField, field, fields, records⟩ (some '"') =
        .ok ⟨.quoteInQuotedField, field, fields, records⟩ := rfl
    rw [htext, Reader.run_cons_of_step hfirst, Reader.run_cons,
      Reader.step, Reader.stepChar]
    simp only [if_true]
    unfold Reader.add
    split_ifs <;> rfl
  · have hadd : Reader.stepChar limit ⟨.inQuotedField, field, fields, records⟩ c =
        Reader.add limit ⟨.inQuotedField, field, fields, records⟩ .inQuotedField c := by
      simp [Reader.stepChar, hquote]
    have htext : (doubled c).flatMap endsLine = endsLine c := by simp [doubled, hquote]
    rw [htext]
    unfold endsLine
    split_ifs with hnewline
    · rw [Reader.run_cons, Reader.step, hadd]
      unfold Reader.add
      split_ifs <;> rfl
    · rw [Reader.run_cons, Reader.step, hadd]
      unfold Reader.add
      split_ifs <;> rfl

/-- The characters of a written field lead to its end. -/
theorem run_writeField (limit : ℕ) (field : List Char) (fields : List (List Char)) (records : List (List (List Char))) :
    ∃ last : Reader, last.AtEnd field fields records ∧
      Reader.run limit ⟨.startField, [], fields, records⟩ ((writeField field).flatMap endsLine) =
        if field.length ≤ limit then .ok last else .error .fieldLimit := by
  unfold writeField
  by_cases hspecial : field.any isSpecial
  · rw [if_pos hspecial]
    have hopen : Reader.step limit ⟨.startField, [], fields, records⟩ (some '"') =
        .ok ⟨.inQuotedField, [], fields, records⟩ := rfl
    have hbody : Reader.run limit ⟨.inQuotedField, [], fields, records⟩ ((field.flatMap doubled).flatMap endsLine) =
        if field.length ≤ limit then .ok ⟨.inQuotedField, field, fields, records⟩ else .error .fieldLimit := by
      rw [List.flatMap_assoc, Reader.run_flatMap_of_add (fun c _ _ h ↦ Reader.run_doubled_inQuotedField c h) rfl
        (Nat.zero_le limit)]
      simp
    have htext : ('"' :: (field.flatMap doubled ++ ['"'])).flatMap endsLine =
        some '"' :: ((field.flatMap doubled).flatMap endsLine ++ [some '"']) := by
      rw [List.flatMap_cons, List.flatMap_append]
      rfl
    refine ⟨⟨.quoteInQuotedField, field, fields, records⟩, ⟨Or.inr (Or.inl rfl), rfl, rfl, rfl⟩, ?_⟩
    rw [htext, Reader.run_cons_of_step hopen, Reader.run_append, hbody]
    split_ifs <;> rfl
  · rw [if_neg hspecial]
    rw [List.any_eq_true, not_exists] at hspecial
    have hplain : ∀ c ∈ field, isSpecial c = false := fun c hc ↦ by simpa [hc] using hspecial c
    cases field with
    | nil => exact ⟨⟨.startField, [], fields, records⟩, ⟨Or.inr (Or.inr rfl), rfl, rfl, rfl⟩, by simp⟩
    | cons c field =>
      -- the first character leaves the start of the field, the others are added where it leads
      have hc := hplain c List.mem_cons_self
      have hnewline := isNewline_of_not_isSpecial hc
      have hfirst : Reader.step limit ⟨.startField, [], fields, records⟩ (some c) =
          Reader.add limit ⟨.startField, [], fields, records⟩ .inField c := by
        simp only [isSpecial, Bool.or_eq_false_iff, decide_eq_false_iff_not] at hc
        simp [Reader.step, Reader.stepChar, Reader.stepStartField, hnewline, hc]
      refine ⟨⟨.inField, c :: field, fields, records⟩, ⟨Or.inl rfl, rfl, rfl, rfl⟩, ?_⟩
      rw [List.flatMap_cons, endsLine_of_not_isSpecial hc, List.singleton_append, Reader.run_cons, hfirst]
      unfold Reader.add
      rw [List.length_cons, List.length_nil]
      split_ifs with hzero hfits hfits
      · omega
      · rfl
      · rw [Except.bind, Reader.run_flatMap_of_add (fun c hc _ ↦ Reader.run_endsLine_inField
          (hplain c (List.mem_cons_of_mem _ hc))) rfl (by simp; omega)]
        rw [if_pos (by simp; omega)]
        rfl
      · rw [Except.bind, Reader.run_flatMap_of_add (fun c hc _ ↦ Reader.run_endsLine_inField
          (hplain c (List.mem_cons_of_mem _ hc))) rfl (by simp; omega)]
        rw [if_neg (by simp; omega)]

/-! ### Rows -/

/-- The fields that follow one that has been read, and the end of the row -/
theorem run_writeFields {field : List Char} {fields : List (List Char)} {records : List (List (List Char))}
    (h : reader.AtEnd field fields records) (more : List (List Char)) :
    reader.run limit ((writeFields more).flatMap endsLine ++ [some '\r', some '\n', none]) =
      if ∀ other ∈ more, other.length ≤ limit then .ok (.start (records ++ [fields ++ field :: more]))
      else .error .fieldLimit := by
  induction more generalizing reader field fields with
  | nil =>
    have hend : reader.run limit [some '\r', some '\n', none] = .ok (.start (records ++ [fields ++ [field]])) := by
      rw [Reader.run_cons_of_step h.step_return]
      rfl
    simpa [writeFields] using hend
  | cons next more ih =>
    have htext : (writeFields (next :: more)).flatMap endsLine =
        some ',' :: ((writeField next).flatMap endsLine ++ (writeFields more).flatMap endsLine) := by
      unfold writeFields
      rw [List.flatMap_cons, List.cons_append, List.flatMap_cons, List.flatMap_append]
      rfl
    obtain ⟨last, hlast, hrun⟩ := run_writeField limit next (fields ++ [field]) records
    rw [htext, List.cons_append, Reader.run_cons_of_step h.step_comma, List.append_assoc, Reader.run_append, hrun]
    by_cases hnext : next.length ≤ limit
    · rw [if_pos hnext, Except.bind, ih hlast]
      simp only [List.mem_cons, forall_eq_or_imp, hnext, true_and, List.append_assoc, List.singleton_append]
    · rw [if_neg hnext, Except.bind, if_neg]
      intro hall
      exact hnext (hall next List.mem_cons_self)

/-- A row begins with a field, unless the row or its one field is empty. -/
theorem Reader.run_start {records : List (List (List Char))} {c : Char} (h : isNewline c = false)
    (rest : List (Option Char)) :
    (Reader.start records).run limit (some c :: rest) = Reader.run limit ⟨.startField, [], [], records⟩ (some c :: rest) := by
  rw [Reader.run_cons, Reader.run_cons, Reader.step, Reader.step, Reader.start, Reader.stepChar_startRecord h]

theorem head_writeField (field : List Char) :
    writeField field = [] ∧ field = [] ∨ ∃ c rest, writeField field = c :: rest ∧ isNewline c = false := by
  unfold writeField
  split_ifs with hspecial
  · exact Or.inr ⟨'"', _, rfl, rfl⟩
  · cases field with
    | nil => exact Or.inl ⟨rfl, rfl⟩
    | cons c field =>
      rw [List.any_cons, Bool.or_eq_true, not_or] at hspecial
      exact Or.inr ⟨c, field, rfl, isNewline_of_not_isSpecial (Bool.eq_false_iff.mpr hspecial.1)⟩

/-- The reader gets back the row that the writer wrote, if no field is too long. -/
theorem run_writeRow (row : List (List Char)) (records : List (List (List Char))) :
    (Reader.start records).run limit ((writeRow row).flatMap endsLine) =
      if ∀ field ∈ row, field.length ≤ limit then .ok (.start (records ++ [row])) else .error .fieldLimit := by
  unfold writeRow
  split
  · simp only [List.not_mem_nil, false_imp_iff, implies_true, if_true]
    rfl
  · simp only [List.mem_singleton, forall_eq, List.length_nil, Nat.zero_le, if_true]
    rfl
  · rename_i first fields hsingle
    have hend : (['\r', '\n'] : List Char).flatMap endsLine = [some '\r', some '\n', none] := rfl
    have hstart : (Reader.start records).run limit
          ((writeField first ++ (writeFields fields ++ ['\r', '\n'])).flatMap endsLine) =
        Reader.run limit ⟨.startField, [], [], records⟩
          ((writeField first ++ (writeFields fields ++ ['\r', '\n'])).flatMap endsLine) := by
      have hhead : ∃ c rest, writeField first ++ (writeFields fields ++ ['\r', '\n']) = c :: rest ∧
          isNewline c = false := by
        rcases head_writeField first with ⟨hempty, rfl⟩ | ⟨c, rest, hcons, hc⟩
        · cases fields with
          | nil => exact absurd rfl (hsingle rfl)
          | cons next fields =>
            rw [hempty]
            exact ⟨',', _, rfl, rfl⟩
        · rw [hcons]
          exact ⟨c, _, rfl, hc⟩
      obtain ⟨c, rest, hcons, hc⟩ := hhead
      have hsymbols : ∃ others, (c :: rest).flatMap endsLine = some c :: others := by
        rw [List.flatMap_cons]
        unfold endsLine
        split_ifs <;> exact ⟨_, rfl⟩
      obtain ⟨others, hothers⟩ := hsymbols
      rw [hcons, hothers, Reader.run_start hc]
    obtain ⟨last, hlast, hrun⟩ := run_writeField limit first [] records
    rw [hstart, List.flatMap_append, List.flatMap_append, hend, Reader.run_append, hrun]
    by_cases hfirst : first.length ≤ limit
    · rw [if_pos hfirst, Except.bind, run_writeFields hlast]
      simp only [List.mem_cons, forall_eq_or_imp, hfirst, true_and, List.nil_append]
    · rw [if_neg hfirst, Except.bind, if_neg]
      intro hall
      exact hfirst (hall first List.mem_cons_self)

/-- The reader gets back the rows that were written, or fails at a field over its limit. -/
theorem run_writeRows (rows records : List (List (List Char))) :
    (Reader.start records).run limit ((writeRows rows).flatMap endsLine) =
      if ∀ row ∈ rows, ∀ field ∈ row, field.length ≤ limit then .ok (.start (records ++ rows))
      else .error .fieldLimit := by
  induction rows generalizing records with
  | nil => simp [writeRows]
  | cons row rows ih =>
    have htext : (writeRows (row :: rows)).flatMap endsLine =
        (writeRow row).flatMap endsLine ++ (writeRows rows).flatMap endsLine := by
      unfold writeRows
      rw [List.flatMap_cons, List.flatMap_append]
    rw [htext, Reader.run_append, run_writeRow]
    by_cases hrow : ∀ field ∈ row, field.length ≤ limit
    · rw [if_pos hrow, Except.bind, ih]
      simp only [List.mem_cons, forall_eq_or_imp, List.append_assoc, List.singleton_append]
      exact if_congr (by rw [and_iff_right hrow]) rfl rfl
    · rw [if_neg hrow, Except.bind, if_neg]
      intro hall
      exact hrow (hall row List.mem_cons_self)

theorem getLast?_writeRow (row : List (List Char)) : (writeRow row).getLast? = some '\n' := by
  unfold writeRow
  split
  · rfl
  · rfl
  · rw [List.getLast?_append_of_ne_nil _ (by simp), List.getLast?_append_of_ne_nil _ (by simp)]
    rfl

theorem symbols_writeRows (rows : List (List (List Char))) : symbols (writeRows rows) = (writeRows rows).flatMap endsLine := by
  have hlast : (writeRows rows).getLast?.all (· = '\n') = true := by
    induction rows using List.reverseRecOn with
    | nil => rfl
    | append_singleton rows row _ =>
      have hne : writeRow row ≠ [] := by
        intro hnil
        have := getLast?_writeRow row
        rw [hnil] at this
        cases this
      rw [writeRows, List.flatMap_append, List.flatMap_singleton, List.getLast?_append_of_ne_nil _ hne, getLast?_writeRow]
      rfl
  rw [symbols, if_pos hlast, List.append_nil]

/-- What was written is read back, unless a field is too long for the reader. -/
theorem readRows_writeRows (limit : ℕ) (rows : List (List (List Char))) :
    readRows limit (writeRows rows) =
      if ∀ row ∈ rows, ∀ field ∈ row, field.length ≤ limit then .ok rows else .error .fieldLimit := by
  rw [readRows, symbols_writeRows, run_writeRows]
  split_ifs <;> rfl

end TenderPhase1.Csv
