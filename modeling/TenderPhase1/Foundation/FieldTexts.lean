import TenderPhase1.Foundation.StrippedTexts

/-!
# Texts of fields

Messages of the form `key=value; key=value`. The reader takes a text apart at its semicolons, and each piece at
its first equals sign. It reads every list of fields back whose keys and values have no delimiter in them, and it
reads what was appended to a text after the text itself.
-/

namespace TenderPhase1.FieldTexts

open PyText

abbrev Field := String × String

/-! ## Writing -/

def fieldText (field : Field) : String := field.1 ++ "=" ++ field.2

def joinFields (fields : List Field) : String := String.intercalate "; " (fields.map fieldText)

/-! ## Reading -/

/-- A piece between two semicolons; white space around the piece, its key and its value is removed. -/
def readField (piece : List Char) : Option Field :=
  let chunk := stripChars piece
  let key := stripChars (chunk.takeWhile (· ≠ '='))
  if '=' ∈ chunk ∧ key ≠ [] then
    some (String.ofList key, String.ofList (stripChars ((chunk.dropWhile (· ≠ '=')).drop 1)))
  else none

def readFields (text : String) : List Field := (text.toList.splitOn ';').filterMap readField

/-- The last field of a key counts. -/
def valueOf (fields : List Field) (key : String) : Option String := fields.reverse.lookup key

/-! ## Reading what was written -/

section Pieces

variable {key : List Char} {front rest : String}

/-- Only white space is stripped. -/
theorem mem_strip {text : String} {c : Char} (hc : isSpace c = false) (hmem : c ∈ text.toList) :
    c ∈ (strip text).toList := by
  have hfront : c ∈ text.toList.dropWhile isSpace := by
    rw [← List.takeWhile_append_dropWhile (p := isSpace) (l := text.toList), List.mem_append] at hmem
    refine hmem.resolve_left fun hspace ↦ ?_
    rw [List.mem_takeWhile_imp hspace] at hc
    cases hc
  have hsplit : Urllib.rstrip (text.toList.dropWhile isSpace) ++ (text.toList.dropWhile isSpace).rtakeWhile isSpace =
      text.toList.dropWhile isSpace := List.rdropWhile_append_rtakeWhile
  rw [strip, String.toList_ofList, Urllib.stripChars_eq]
  rw [← hsplit, List.mem_append] at hfront
  refine hfront.resolve_right fun hspace ↦ ?_
  rw [List.mem_rtakeWhile_imp hspace] at hc
  cases hc

theorem stripChars_rstrip (chars : List Char) : stripChars (Urllib.rstrip chars) = stripChars chars := by
  have hspaces : ∀ c ∈ chars.rtakeWhile isSpace, isSpace c = true := fun c hc ↦ List.mem_rtakeWhile_imp hc
  have hchars : stripChars ([] ++ Urllib.rstrip chars ++ chars.rtakeWhile isSpace) = stripChars (Urllib.rstrip chars) :=
    Urllib.stripChars_surrounded _ (fun _ h ↦ absurd h List.not_mem_nil) hspaces
  rw [List.nil_append, Urllib.rstrip, List.rdropWhile_append_rtakeWhile] at hchars
  exact hchars.symm

/-- A piece is read as the key before its first equals sign and the value behind that. -/
theorem readField_append (value : List Char) (hkey : stripChars key = key) (hne : key ≠ []) (hfree : '=' ∉ key) :
    readField (key ++ '=' :: value) = some (String.ofList key, String.ofList (stripChars value)) := by
  have hhead : (key ++ '=' :: value).dropWhile isSpace = key ++ '=' :: value := by
    have hfirst := (stripChars_eq_self_iff.mp hkey).1
    rw [dropWhile_space_iff, List.head?_append_of_ne_nil _ hne]
    exact hfirst
  have hchunk : stripChars (key ++ '=' :: value) = key ++ '=' :: Urllib.rstrip value := by
    rw [Urllib.stripChars_eq, hhead, Urllib.rstrip_append_cons (by decide)]
  have hfront : ∀ c ∈ key, decide (c ≠ '=') = true := fun c hc ↦ decide_eq_true fun hequal ↦ hfree (hequal ▸ hc)
  have htake : (key ++ '=' :: Urllib.rstrip value).takeWhile (· ≠ '=') = key := by
    rw [List.takeWhile_append_of_pos hfront]
    simp
  have hdrop : (key ++ '=' :: Urllib.rstrip value).dropWhile (· ≠ '=') = '=' :: Urllib.rstrip value := by
    rw [List.dropWhile_append_of_pos hfront]
    simp
  unfold readField
  simp only [hchunk, htake, hdrop, hkey]
  rw [if_pos ⟨by simp, hne⟩, List.drop_one, List.tail_cons, stripChars_rstrip]

/-- What stands behind a semicolon is read as if it stood alone. -/
theorem readFields_append : readFields (front ++ ";" ++ rest) = readFields front ++ readFields rest := by
  have hchars : (front ++ ";" ++ rest).toList = front.toList ++ ';' :: rest.toList := by
    simp
  rw [readFields, hchars, List.splitOn_append_cons_self, List.filterMap_append]
  rfl

/-! ### White space around a text -/

theorem ne_semicolon_of_isSpace {c : Char} (hc : isSpace c = true) : c ≠ ';' := by
  rintro rfl
  exact absurd hc (by decide)

theorem readField_cons {c : Char} (hc : isSpace c = true) (piece : List Char) :
    readField (c :: piece) = readField piece := by
  have hpiece : stripChars (c :: piece) = stripChars piece := by
    rw [stripChars, stripChars, List.dropWhile_cons, if_pos hc]
  rw [readField, readField, hpiece]

theorem readField_concat {c : Char} (hc : isSpace c = true) (piece : List Char) :
    readField (piece ++ [c]) = readField piece := by
  have hpiece : stripChars ([] ++ piece ++ [c]) = stripChars piece :=
    Urllib.stripChars_surrounded piece (fun _ h ↦ absurd h List.not_mem_nil)
      fun d hd ↦ (List.mem_singleton.mp hd) ▸ hc
  rw [List.nil_append] at hpiece
  rw [readField, readField, hpiece]

theorem filterMap_splitOn_cons {c : Char} (hc : isSpace c = true) (chars : List Char) :
    ((c :: chars).splitOn ';').filterMap readField = (chars.splitOn ';').filterMap readField := by
  have hne : chars.splitOn ';' ≠ [] := List.splitOn_ne_nil _ _
  have hhead : ¬(c == ';') = true := by simpa using ne_semicolon_of_isSpace hc
  rw [List.splitOn_cons_eq_if_modifyHead, if_neg hhead]
  generalize chars.splitOn ';' = pieces at hne ⊢
  cases pieces with
  | nil => exact absurd rfl hne
  | cons piece pieces =>
    rw [List.modifyHead_cons, List.filterMap_cons, List.filterMap_cons, readField_cons hc]

/-- The white space belongs to the last piece, which begins behind the last semicolon. -/
theorem filterMap_splitOn_concat {c : Char} (hc : isSpace c = true) (chars : List Char) :
    ((chars ++ [c]).splitOn ';').filterMap readField = (chars.splitOn ';').filterMap readField := by
  induction hlength : chars.length using Nat.strong_induction_on generalizing chars with
  | _ length ih =>
    by_cases hmem : ';' ∈ chars
    · obtain ⟨front, rest, rfl, -⟩ := List.eq_append_cons_of_mem hmem
      have hshorter : rest.length < length := by
        rw [← hlength, List.length_append, List.length_cons]
        omega
      rw [List.append_assoc, List.cons_append, List.splitOn_append_cons_self, List.splitOn_append_cons_self,
        List.filterMap_append, List.filterMap_append, ih _ hshorter rest rfl]
    · have hlast : ';' ∉ chars ++ [c] := by
        simpa [hmem] using (ne_semicolon_of_isSpace hc).symm
      rw [List.splitOn_eq_singleton hmem, List.splitOn_eq_singleton hlast, List.filterMap_cons, List.filterMap_cons,
        readField_concat hc]

/-- White space around a text does not change its fields. -/
theorem readFields_strip (text : String) : readFields (strip text) = readFields text := by
  have hfront (chars : List Char) : ((chars.dropWhile isSpace).splitOn ';').filterMap readField =
      (chars.splitOn ';').filterMap readField := by
    induction chars with
    | nil => rfl
    | cons c chars ih =>
      by_cases hc : isSpace c = true
      · rw [List.dropWhile_cons, if_pos hc, ih, filterMap_splitOn_cons hc]
      · rw [List.dropWhile_cons, if_neg hc]
  have hback (chars : List Char) : ((Urllib.rstrip chars).splitOn ';').filterMap readField =
      (chars.splitOn ';').filterMap readField := by
    induction chars using List.reverseRecOn with
    | nil => rfl
    | append_singleton chars c ih =>
      unfold Urllib.rstrip at ih ⊢
      by_cases hc : isSpace c = true
      · rw [List.rdropWhile_concat_pos _ _ _ hc, ih, filterMap_splitOn_concat hc]
      · rw [List.rdropWhile_concat_neg _ _ _ hc]
  rw [readFields, readFields, strip, String.toList_ofList, Urllib.stripChars_eq, hback, hfront]

theorem readFields_append_field (front : String) (rest : String) :
    readFields (front ++ "; " ++ rest) = readFields front ++ readFields rest := by
  have hsep : "; " = ";" ++ " " := rfl
  have htext : front ++ "; " ++ rest = front ++ ";" ++ (" " ++ rest) := by
    rw [hsep, String.append_assoc, String.append_assoc, String.append_assoc]
  have hrest : readFields (" " ++ rest) = readFields rest := by
    rw [readFields, String.toList_append]
    exact filterMap_splitOn_cons rfl rest.toList
  rw [htext, readFields_append, hrest]

end Pieces

/-- A field that is read back from its text: its key is stripped, and neither part has a delimiter in it. -/
structure Written (field : Field) : Prop where
  key_stripped : Stripped field.1
  key_ne : field.1 ≠ ""
  key_free : '=' ∉ field.1.toList ∧ ';' ∉ field.1.toList
  value_free : ';' ∉ field.2.toList

theorem readFields_fieldText {field : Field} (h : Written field) :
    readFields (fieldText field) = [(field.1, strip field.2)] := by
  have hchars : (fieldText field).toList = field.1.toList ++ '=' :: field.2.toList := by
    simp [fieldText]
  have hpiece : ';' ∉ (fieldText field).toList := by
    rw [hchars]
    simp [h.key_free.2, h.value_free]
  have hkey : stripChars field.1.toList = field.1.toList := by
    have hstrip := congrArg String.toList (h.key_stripped : strip field.1 = field.1)
    rwa [strip, String.toList_ofList] at hstrip
  have hfield := readField_append field.2.toList hkey (String.toList_eq_nil_iff.not.mpr h.key_ne) h.key_free.1
  rw [readFields, List.splitOn_eq_singleton hpiece, List.filterMap_cons, hchars, hfield, String.ofList_toList]
  rfl

/-- Joined fields are read back with their values stripped. -/
theorem readFields_joinFields {fields : List Field} (h : ∀ field ∈ fields, Written field) :
    readFields (joinFields fields) = fields.map fun field ↦ (field.1, strip field.2) := by
  induction fields with
  | nil => rfl
  | cons field fields ih =>
    have hfield := readFields_fieldText (h field List.mem_cons_self)
    have hrest := ih fun other hother ↦ h other (List.mem_cons_of_mem _ hother)
    by_cases hnil : fields = []
    · rw [hnil, joinFields, List.map_singleton, String.intercalate_singleton, hfield]
      rfl
    · have hjoin : joinFields (field :: fields) = fieldText field ++ "; " ++ joinFields fields := by
        rw [joinFields, List.map_cons, String.intercalate_cons_of_ne_nil (by simpa using hnil)]
        rfl
      rw [hjoin, readFields_append_field, hfield, hrest, List.map_cons]
      rfl

/-- Fields that are read later replace earlier ones. -/
theorem valueOf_append (first second : List Field) (key : String) :
    valueOf (first ++ second) key = (valueOf second key).or (valueOf first key) := by
  rw [valueOf, List.reverse_append, List.lookup_append]
  rfl

@[simp]
theorem valueOf_nil (key : String) : valueOf [] key = none := rfl

theorem valueOf_cons (field : Field) (fields : List Field) (key : String) :
    valueOf (field :: fields) key = (valueOf fields key).or (if key = field.1 then some field.2 else none) := by
  have hfield : valueOf [field] key = if key = field.1 then some field.2 else none := by
    obtain ⟨name, value⟩ := field
    by_cases hkey : key = name
    · rw [if_pos hkey, hkey]
      exact List.lookup_cons_self
    · simp [valueOf, hkey]
  rw [← List.singleton_append, valueOf_append, hfield]

end TenderPhase1.FieldTexts
