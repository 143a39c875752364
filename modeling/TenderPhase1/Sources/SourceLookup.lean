import TenderPhase1.Sources.SchedulePostponement

/-!
# Finding a source by its code

`get_source` takes a row that has the very code before it tries the code of which that
one is a legacy alias; `update_source` replaces an alias at once. The row that is read
is the row that is written except where a row has an alias as its code.
-/

namespace TenderPhase1.Sources

open PyText

/-! ## Reading and writing a source -/

/-- The dictionary of columns for `update_fields`; a column that it names may be set to null. -/
structure FieldUpdates where
  name : Option (Option String) := none
  officialUrl : Option (Option String) := none
  baseUrl : Option (Option String) := none
  listUrl : Option (Option String) := none
  description : Option (Option String) := none
  isActive : Option (Option Bool) := none
  supportsJsRender : Option (Option Bool) := none
  crawlIntervalMinutes : Option (Option ℤ) := none
  defaultMaxPages : Option (Option ℤ) := none
  scheduleEnabled : Option (Option Bool) := none
  scheduleDays : Option (Option ℤ) := none
  deriving DecidableEq, Repr

namespace FieldUpdates

/-- `not updates` -/
def isEmpty (updates : FieldUpdates) : Bool := updates = ({} : FieldUpdates)

/-- Whether a column that is NOT NULL is set to null. -/
def setsNull (updates : FieldUpdates) : Bool :=
  updates.name = some none || updates.officialUrl = some none || updates.baseUrl = some none ||
    updates.listUrl = some none || updates.isActive = some none || updates.supportsJsRender = some none ||
    updates.crawlIntervalMinutes = some none || updates.defaultMaxPages = some none ||
    updates.scheduleEnabled = some none || updates.scheduleDays = some none

/-- The row after the loop of `update_fields`, where it can be flushed. -/
def apply (updates : FieldUpdates) (source : SourceSite) : SourceSite :=
  { source with
    name := updates.name.join.getD source.name
    officialUrl := updates.officialUrl.join.getD source.officialUrl
    baseUrl := updates.baseUrl.join.getD source.baseUrl
    listUrl := updates.listUrl.join.getD source.listUrl
    description := updates.description.getD source.description
    isActive := updates.isActive.join.getD source.isActive
    supportsJsRender := updates.supportsJsRender.join.getD source.supportsJsRender
    crawlIntervalMinutes := updates.crawlIntervalMinutes.join.getD source.crawlIntervalMinutes
    defaultMaxPages := updates.defaultMaxPages.join.getD source.defaultMaxPages
    scheduleEnabled := updates.scheduleEnabled.join.getD source.scheduleEnabled
    scheduleDays := updates.scheduleDays.join.getD source.scheduleDays }

@[simp] theorem apply_id (updates : FieldUpdates) (source : SourceSite) : (updates.apply source).id = source.id := rfl

@[simp] theorem apply_code (updates : FieldUpdates) (source : SourceSite) :
    (updates.apply source).code = source.code := rfl

end FieldUpdates

/-- Why the database refuses an UPDATE: a text or a number that its column cannot hold, or a null. -/
inductive Refusal where
  | dataError
  | notNull
  deriving DecidableEq, Repr

/-- The exception of a refused UPDATE, which has the key of the row among its parameters. -/
structure UpdateError where
  id : ℕ
  refusal : Refusal
  deriving DecidableEq, Repr

namespace SourceTable

def getSource (table : SourceTable) (code : String) : Option SourceSite :=
  let normalized := strip code
  if normalized = "" then none
  else
    match table.getModelByCode normalized with
    | some source => some source
    | none =>
      let aliasCode := normalizeSourceCode normalized
      if aliasCode ≠ "" ∧ aliasCode ≠ normalized then table.getModelByCode aliasCode else none

section Updates

-- `storable`: whether the columns of a row can hold the values of an update, nulls apart.
variable (storable : SourceSite → FieldUpdates → Bool)

/-- `update_fields`; a refused UPDATE is rolled back with its session. -/
def updateFields (table : SourceTable) (code : String) (updates : FieldUpdates) :
    Except UpdateError (Option SourceSite × SourceTable) :=
  match table.getModelByCode code with
  | none => .ok (none, table)
  | some source =>
    if !storable source updates then .error ⟨source.id, .dataError⟩
    else if updates.setsNull then .error ⟨source.id, .notNull⟩
    else .ok (some (updates.apply source), table.set (updates.apply source))

def updateSource (table : SourceTable) (code : String) (updates : FieldUpdates) :
    Except UpdateError (Option SourceSite × SourceTable) :=
  match updatedSourceCode code with
  | none => .ok (none, table)
  | some normalized =>
    if updates.isEmpty then .ok (table.getModelByCode normalized, table)
    else table.updateFields storable normalized updates

end Updates

end SourceTable

/-! ## The row that is read and the row that is written -/

section Lookup

variable {storable : SourceSite → FieldUpdates → Bool} {table : SourceTable} {code : String}
  {updates : FieldUpdates} {source : SourceSite}

/-- The aliases of a code that is not empty are not empty. -/
theorem normalizeSourceCode_ne_empty (h : strip code ≠ "") : normalizeSourceCode code ≠ "" := by
  unfold normalizeSourceCode
  dsimp only
  rw [if_neg h]
  cases hlookup : legacySourceCodeAliases.lookup (strip code) with
  | none => exact h
  | some canonical =>
    have hentry := List.lookup_eq_some_iff.mp hlookup
    obtain ⟨first, rest, hsplit, -⟩ := hentry
    have hmem : (strip code, canonical) ∈ legacySourceCodeAliases := by
      rw [hsplit]
      exact List.mem_append_right _ List.mem_cons_self
    have hcanonical : ∀ entry ∈ legacySourceCodeAliases, entry.2 ≠ "" := by decide
    exact hcanonical _ hmem

/-- An update loads the row of the code that has its alias replaced. -/
theorem SourceTable.updateSource_eq :
    table.updateSource storable code updates =
      match table.updatedSource code with
      | none => .ok (none, table)
      | some source =>
        if updates.isEmpty then .ok (some source, table)
        else if !storable source updates then .error ⟨source.id, .dataError⟩
        else if updates.setsNull then .error ⟨source.id, .notNull⟩
        else .ok (some (updates.apply source), table.set (updates.apply source)) := by
  unfold SourceTable.updateSource SourceTable.updatedSource SourceTable.updateFields
  cases updatedSourceCode code with
  | none => rfl
  | some normalized =>
    dsimp only [Option.bind_some]
    cases hrow : table.getModelByCode normalized with
    | none => exact ite_self _
    | some source => rfl

/-- A row is read by its code first. -/
theorem SourceTable.getSource_of_row (h : table.getModelByCode (strip code) = some source) (hcode : strip code ≠ "") :
    table.getSource code = some source := by
  unfold SourceTable.getSource
  dsimp only
  rw [if_neg hcode, h]

/-- Without a row of that code both look for the same one. -/
theorem SourceTable.getSource_of_no_row (h : table.getModelByCode (strip code) = none) :
    table.getSource code = table.updatedSource code := by
  unfold SourceTable.getSource SourceTable.updatedSource updatedSourceCode
  dsimp only
  by_cases hcode : strip code = ""
  · rw [if_pos hcode, if_pos hcode]
    rfl
  · rw [if_neg hcode, if_neg hcode, h]
    dsimp only
    have hne : normalizeSourceCode (strip code) ≠ "" := by
      apply normalizeSourceCode_ne_empty
      rwa [strip_strip]
    by_cases hsame : normalizeSourceCode (strip code) = strip code
    · rw [if_neg (by simp [hsame]), Option.bind_some, hsame, h]
    · rw [if_pos ⟨hne, hsame⟩, Option.bind_some]

/-- The dictionary of an edit, which sets no column but the description to null -/
def SourceUpdates.fields (updates : SourceUpdates) : FieldUpdates where
  name := updates.name.map some
  officialUrl := updates.officialUrl.map some
  baseUrl := updates.baseUrl.map some
  listUrl := updates.listUrl.map some
  description := updates.description
  isActive := updates.isActive.map some
  supportsJsRender := updates.supportsJsRender.map some
  crawlIntervalMinutes := updates.crawlIntervalMinutes.map some
  defaultMaxPages := updates.defaultMaxPages.map some
  scheduleEnabled := updates.scheduleEnabled.map some
  scheduleDays := updates.scheduleDays.map some

/-- The edits of `ScheduleRuntime` are updates by `update_source`. -/
theorem SourceTable.updateSource_fields {updates : SourceUpdates} (hsource : table.updatedSource code = some source)
    (hempty : updates.fields.isEmpty = false) (hstorable : storable source updates.fields = true) :
    table.updateSource storable code updates.fields = .ok (some (updates.apply source), table.set (updates.apply source)) := by
  have hjoin {α : Type} (value : Option α) : (value.map some).join = value := by cases value <;> rfl
  have happly : updates.fields.apply source = updates.apply source := by
    simp only [FieldUpdates.apply, SourceUpdates.fields, SourceUpdates.apply, hjoin]
  have hmap {α : Type} (value : Option α) : value.map some ≠ some none := by cases value <;> exact (nomatch ·)
  have hnull : updates.fields.setsNull = false := by
    simp only [FieldUpdates.setsNull, Bool.or_eq_false_iff, decide_eq_false_iff_not]
    simp only [SourceUpdates.fields]
    exact ⟨⟨⟨⟨⟨⟨⟨⟨⟨hmap _, hmap _⟩, hmap _⟩, hmap _⟩, hmap _⟩, hmap _⟩, hmap _⟩, hmap _⟩, hmap _⟩, hmap _⟩
  rw [SourceTable.updateSource_eq, hsource]
  simp only [hempty, hstorable, hnull, happly, Bool.not_true, Bool.false_eq_true, ↓reduceIte]

/-- The row that is read is the row that is written, and nothing else. -/
def UpdatesSourceRead (storable : SourceSite → FieldUpdates → Bool) (table : SourceTable) (code : String)
    (updates : FieldUpdates) : Prop :=
  match table.getSource code, table.updateSource storable code updates with
  | none, .ok (none, after) => after = table
  | some source, .ok (some updated, after) =>
    (if updates.isEmpty then updated = source else updated = updates.apply source) ∧
      after.find source.id = some updated ∧ ∀ id, id ≠ source.id → after.find id = table.find id
  | some source, .error error => error.id = source.id
  | _, _ => False

/-- No row has a legacy alias as its code, for the code in question. -/
def NoLegacyRow (table : SourceTable) (code : String) : Prop :=
  table.getModelByCode (strip code) = none ∨ normalizeSourceCode (strip code) = strip code

theorem SourceTable.getSource_eq_updatedSource (h : NoLegacyRow table code) :
    table.getSource code = table.updatedSource code := by
  cases hrow : table.getModelByCode (strip code) with
  | none => exact SourceTable.getSource_of_no_row hrow
  | some source =>
    have hsame : normalizeSourceCode (strip code) = strip code := h.resolve_left (by rw [hrow]; exact Option.some_ne_none _)
    by_cases hcode : strip code = ""
    · unfold SourceTable.getSource SourceTable.updatedSource updatedSourceCode
      dsimp only
      rw [if_pos hcode, if_pos hcode, Option.bind_none]
    · rw [SourceTable.getSource_of_row hrow hcode]
      unfold SourceTable.updatedSource updatedSourceCode
      rw [if_neg hcode, Option.bind_some, hsame, hrow]

/-- Without a legacy row every lookup finds the row that is updated. -/
theorem UpdatesSourceRead.of_noLegacyRow (h : NoLegacyRow table code) :
    UpdatesSourceRead storable table code updates := by
  unfold UpdatesSourceRead
  rw [SourceTable.getSource_eq_updatedSource h, SourceTable.updateSource_eq]
  cases hsource : table.updatedSource code with
  | none => rfl
  | some source =>
    have hfind : table.find source.id = some source :=
      SourceTable.find_eq_some_iff.mpr ⟨mem_rows_of_updatedSource hsource, rfl⟩
    dsimp only
    split_ifs with hempty hstorable hnull
    · exact ⟨rfl, hfind, fun _ _ ↦ rfl⟩
    · rfl
    · rfl
    · refine ⟨rfl, SourceTable.find_set hfind rfl rfl, fun id hid ↦ ?_⟩
      exact SourceTable.find_set_of_ne fun hsame ↦ hid hsame.symm

/-- Where a row has an alias as its code, the row that is written is another one or none. -/
theorem NoLegacyRow.of_updatesSourceRead (h : UpdatesSourceRead storable table code updates) :
    NoLegacyRow table code := by
  by_contra hlegacy
  obtain ⟨hrow, hne⟩ := not_or.mp hlegacy
  obtain ⟨source, hsource⟩ := Option.ne_none_iff_exists'.mp hrow
  have hcode : strip code ≠ "" := by
    intro hempty
    apply hne
    rw [hempty]
    decide
  unfold UpdatesSourceRead at h
  rw [SourceTable.getSource_of_row hsource hcode, SourceTable.updateSource_eq] at h
  cases hloaded : table.updatedSource code with
  | none =>
    rw [hloaded] at h
    exact h
  | some loaded =>
    have hother : loaded.id ≠ source.id := by
      intro hid
      obtain ⟨hmem, hsourceCode⟩ := SourceTable.mem_of_getModelByCode hsource
      have hsame : loaded = source :=
        List.inj_on_of_nodup_map table.ids_nodup (mem_rows_of_updatedSource hloaded) hmem hid
      have hloadedCode : loaded.code = normalizeSourceCode (strip code) := by
        unfold SourceTable.updatedSource updatedSourceCode at hloaded
        rw [if_neg hcode, Option.bind_some] at hloaded
        exact (SourceTable.mem_of_getModelByCode hloaded).2
      apply hne
      rw [← hloadedCode, hsame, hsourceCode]
    rw [hloaded] at h
    dsimp only at h
    split_ifs at h with hempty hstorable hnull
    · exact hother (congrArg SourceSite.id h.1)
    · exact hother h
    · exact hother h
    · have hid := congrArg SourceSite.id h.1
      rw [FieldUpdates.apply_id, FieldUpdates.apply_id] at hid
      exact hother hid

/-- What is read under a code is what is written under it, unless a row has a legacy alias as its code. -/
theorem updatesSourceRead_iff : UpdatesSourceRead storable table code updates ↔ NoLegacyRow table code :=
  ⟨NoLegacyRow.of_updatesSourceRead, UpdatesSourceRead.of_noLegacyRow⟩

/-- A row of an earlier version, which is read and cannot be written -/
def legacySources : SourceTable where
  rows := [{ id := 1, code := "2", name := "全国公共资源交易平台", baseUrl := "https://www.ggzy.gov.cn/" }]
  ids_nodup := by decide
  codes_nodup := by decide

theorem legacySource_not_updated :
    legacySources.getSource "2" = legacySources.find 1 ∧
      legacySources.updateSource (fun _ _ ↦ true) "2" { isActive := some (some false) } = .ok (none, legacySources) ∧
        ¬UpdatesSourceRead (fun _ _ ↦ true) legacySources "2" { isActive := some (some false) } := by
  have hread : legacySources.getSource "2" = legacySources.find 1 := by decide +kernel
  have hwritten : legacySources.updateSource (fun _ _ ↦ true) "2" { isActive := some (some false) } =
      .ok (none, legacySources) := by
    rw [SourceTable.updateSource_eq]
    have hloaded : legacySources.updatedSource "2" = none := by decide +kernel
    rw [hloaded]
  refine ⟨hread, hwritten, ?_⟩
  unfold UpdatesSourceRead
  rw [hread, hwritten]
  exact id

end Lookup

end TenderPhase1.Sources
