import TenderPhase1.Foundation.PyNumber
import TenderPhase1.Sources.SourceLookup

/-!
# Requests that change a part of a source

A PATCH body and the configuration form become one validated payload, in which a field
is left out, null or a value. What is null in the payload goes on to `update_fields`:
a URL is written as the text of a null, and a column that takes no null refuses it. A
request keeps the columns of its blank fields exactly where it has no such null.
-/

namespace TenderPhase1.Sources

open PyText

/-! ## Validation -/

/-- A URL that pydantic has accepted as `HttpUrl`, as `str` writes it -/
structure HttpUrl where
  text : String
  http : startsWith text "http"
  deriving DecidableEq

theorem HttpUrl.ne_none (url : HttpUrl) : url.text ≠ "None" := by
  intro hnone
  have hhttp := url.http
  rw [hnone] at hhttp
  exact absurd hhttp (by decide)

abbrev PositiveInt := { number : ℤ // 1 ≤ number }

/-- `SourceSitePatchRequest` before its validation: each field is left out, null or a value. -/
structure PatchBody (Text Url Flag Number : Type*) where
  name : Option (Option Text) := none
  officialUrl : Option (Option Url) := none
  listUrl : Option (Option Url) := none
  description : Option (Option Text) := none
  isActive : Option (Option Flag) := none
  supportsJsRender : Option (Option Flag) := none
  crawlIntervalMinutes : Option (Option Number) := none
  defaultMaxPages : Option (Option Number) := none
  deriving DecidableEq

/-- `SourceSitePatchRequest` after its validation -/
abbrev PatchPayload := PatchBody String HttpUrl Bool PositiveInt

/-- The types of pydantic: what each reads of a value, if it takes the value. -/
structure Pydantic (Text Url Flag Number : Type*) where
  str : Text → Option String
  httpUrl : Url → Option HttpUrl
  bool : Flag → Option Bool
  int : Number → Option ℤ

section Validation

variable {Text Url Flag Number α β : Type*} (pydantic : Pydantic Text Url Flag Number)

/-- A field is left out, null or what its type reads; nothing where the type refuses the value. -/
def validateField (read : α → Option β) : Option (Option α) → Option (Option (Option β))
  | none => some none
  | some none => some (some none)
  | some (some value) => (read value).map fun result ↦ some (some result)

/-- `Field(min_length=1, max_length=255)` and `strip_patch_name` -/
def readName (value : Text) : Option String :=
  (pydantic.str value).bind fun text ↦
    if 1 ≤ text.length ∧ text.length ≤ 255 ∧ strip text ≠ "" then some (strip text) else none

/-- `Field(ge=1)` -/
def readPositive (value : Number) : Option PositiveInt :=
  (pydantic.int value).bind fun number ↦ if h : 1 ≤ number then some ⟨number, h⟩ else none

/-- `model_validate` -/
def PatchBody.validate (body : PatchBody Text Url Flag Number) : Option PatchPayload := do
  let name ← validateField (readName pydantic) body.name
  let officialUrl ← validateField pydantic.httpUrl body.officialUrl
  let listUrl ← validateField pydantic.httpUrl body.listUrl
  let description ← validateField pydantic.str body.description
  let isActive ← validateField pydantic.bool body.isActive
  let supportsJsRender ← validateField pydantic.bool body.supportsJsRender
  let crawlIntervalMinutes ← validateField (readPositive pydantic) body.crawlIntervalMinutes
  let defaultMaxPages ← validateField (readPositive pydantic) body.defaultMaxPages
  return ⟨name, officialUrl, listUrl, description, isActive, supportsJsRender, crawlIntervalMinutes, defaultMaxPages⟩

end Validation

/-! ## The two endpoints -/

/-- `model_dump(exclude_unset=True)` and the conversions that both endpoints make -/
def PatchPayload.updates (payload : PatchPayload) : FieldUpdates where
  name := payload.name
  officialUrl := payload.officialUrl.map fun url ↦ some (urlText (url.map HttpUrl.text))
  baseUrl := payload.officialUrl.map fun url ↦ some (urlText (url.map HttpUrl.text))
  listUrl := payload.listUrl.map fun url ↦ some (urlText (url.map HttpUrl.text))
  description := payload.description
  isActive := payload.isActive
  supportsJsRender := payload.supportsJsRender
  crawlIntervalMinutes := payload.crawlIntervalMinutes.map (Option.map Subtype.val)
  defaultMaxPages := payload.defaultMaxPages.map (Option.map Subtype.val)

inductive SaveError where
  | invalid
  | notFound
  | update (error : UpdateError)
  deriving DecidableEq, Repr

section Endpoints

variable {Text Url Flag Number : Type*} (pydantic : Pydantic Text Url Flag Number)
  (httpUrl : String → Option HttpUrl) (storable : SourceSite → FieldUpdates → Bool)

/-- From the payload to the commit of `update_source`. `sync_source_schedule` comes after it. -/
def SourceTable.savePayload (table : SourceTable) (code : String) (payload : PatchPayload) :
    Except SaveError (SourceSite × SourceTable) :=
  match table.updateSource storable code (PatchPayload.updates payload) with
  | .error error => .error (.update error)
  | .ok (none, _) => .error .notFound
  | .ok (some updated, after) => .ok (updated, after)

def SourceTable.patchSource (table : SourceTable) (code : String) (body : PatchBody Text Url Flag Number) :
    Except SaveError (SourceSite × SourceTable) :=
  match body.validate pydantic with
  | none => .error .invalid
  | some payload => table.savePayload storable code payload

/-- The fields of a form that the body names, in order. `parse_qs` drops those without a value. -/
abbrev FormBody := List (String × String)

/-- `(form_data.get(key) or [""])[0]` -/
def FormBody.first (form : FormBody) (key : String) : String :=
  ((form.find? fun field ↦ field.1 = key ∧ field.2 ≠ "").map Prod.snd).getD ""

/-- The text of a field, `None` where it is blank -/
def FormBody.text (form : FormBody) (key : String) : Option String := asStr (some (form.first key))

/-- `_parse_form_bool`, nothing where it answers 400 -/
def parseFormBool (value : String) : Option Bool :=
  let normalized := lower (strip value)
  if normalized ∈ ["1", "true", "yes", "on"] then some true
  else if normalized ∈ ["0", "false", "no", "off"] then some false
  else none

/-- `_parse_form_positive_int`, nothing where it answers 400 -/
def parseFormPositiveInt (value : String) : Option ℤ := (readInt (strip value)).filter (1 ≤ ·)

def FormBody.payloadData (form : FormBody) : Option (PatchBody String String Bool ℤ) := do
  let isActive ← parseFormBool (form.first "is_active")
  let supportsJsRender ← parseFormBool (form.first "supports_js_render")
  let crawlIntervalMinutes ← parseFormPositiveInt (form.first "crawl_interval_minutes")
  let defaultMaxPages ← parseFormPositiveInt (form.first "default_max_pages")
  return { name := some (form.text "source_name")
           officialUrl := some (form.text "official_url")
           listUrl := some (form.text "list_url")
           description := some (form.text "description")
           isActive := some (some isActive)
           supportsJsRender := some (some supportsJsRender)
           crawlIntervalMinutes := some (some crawlIntervalMinutes)
           defaultMaxPages := some (some defaultMaxPages) }

def typedValues : Pydantic String String Bool ℤ := ⟨some, httpUrl, some, some⟩

/-- The payload of a form that is accepted -/
def FormBody.validate (form : FormBody) : Option PatchPayload :=
  form.payloadData.bind (PatchBody.validate (typedValues httpUrl))

def SourceTable.adminUpdateSourceConfig (table : SourceTable) (code : String) (form : FormBody) :
    Except SaveError (SourceSite × SourceTable) :=
  if table.getSource code = none then .error .notFound
  else
    match form.validate httpUrl with
    | none => .error .invalid
    | some payload => table.savePayload storable code payload

end Endpoints

/-! ## What a request keeps -/

inductive ConfigColumn where
  | name
  | officialUrl
  | baseUrl
  | listUrl
  | description
  | isActive
  | supportsJsRender
  | crawlIntervalMinutes
  | defaultMaxPages
  deriving DecidableEq, Repr

def ConfigColumn.Kept (before after : SourceSite) : ConfigColumn → Prop
  | .name => after.name = before.name
  | .officialUrl => after.officialUrl = before.officialUrl
  | .baseUrl => after.baseUrl = before.baseUrl
  | .listUrl => after.listUrl = before.listUrl
  | .description => after.description = before.description
  | .isActive => after.isActive = before.isActive
  | .supportsJsRender => after.supportsJsRender = before.supportsJsRender
  | .crawlIntervalMinutes => after.crawlIntervalMinutes = before.crawlIntervalMinutes
  | .defaultMaxPages => after.defaultMaxPages = before.defaultMaxPages

def OtherColumnsKept (before after : SourceSite) : Prop :=
  { before with
    name := after.name
    officialUrl := after.officialUrl
    baseUrl := after.baseUrl
    listUrl := after.listUrl
    description := after.description
    isActive := after.isActive
    supportsJsRender := after.supportsJsRender
    crawlIntervalMinutes := after.crawlIntervalMinutes
    defaultMaxPages := after.defaultMaxPages } = after

/-- The columns of a PATCH body whose fields are left out or null; the description may be null. -/
def PatchBody.Blank {Text Url Flag Number : Type*} (body : PatchBody Text Url Flag Number) : ConfigColumn → Prop
  | .name => body.name.join = none
  | .officialUrl | .baseUrl => body.officialUrl.join = none
  | .listUrl => body.listUrl.join = none
  | .description => body.description = none
  | .isActive => body.isActive.join = none
  | .supportsJsRender => body.supportsJsRender.join = none
  | .crawlIntervalMinutes => body.crawlIntervalMinutes.join = none
  | .defaultMaxPages => body.defaultMaxPages.join = none

/-- The columns of a form whose fields are blank; a description that the form names may be blank. -/
def FormBody.Blank (form : FormBody) : ConfigColumn → Prop
  | .name => form.text "source_name" = none
  | .officialUrl | .baseUrl => form.text "official_url" = none
  | .listUrl => form.text "list_url" = none
  | .description => ∀ field ∈ form, field.1 ≠ "description"
  | .isActive => form.text "is_active" = none
  | .supportsJsRender => form.text "supports_js_render" = none
  | .crawlIntervalMinutes => form.text "crawl_interval_minutes" = none
  | .defaultMaxPages => form.text "default_max_pages" = none

/-- A request on a source does not fail at a null. What it saves keeps the blank columns and every column that
is none of the configuration, brings no URL with the text of a null, and leaves the other rows alone. -/
def SourceFrame (table : SourceTable) (source : SourceSite) (blank : ConfigColumn → Prop) :
    Except SaveError (SourceSite × SourceTable) → Prop
  | .error (.update error) => error.refusal ≠ .notNull
  | .error _ => True
  | .ok (updated, after) =>
    (∀ column, blank column → column.Kept source updated) ∧
    ((updated.officialUrl = "None" → source.officialUrl = "None") ∧
      (updated.baseUrl = "None" → source.baseUrl = "None") ∧ (updated.listUrl = "None" → source.listUrl = "None")) ∧
    OtherColumnsKept source updated ∧ after.find source.id = some updated ∧
      ∀ id, id ≠ source.id → after.find id = table.find id

/-- No field of a body is null that the source cannot have as null. A URL that is null changes nothing only where
the source has the text of a null already. -/
structure PatchBody.Harmless {Text Url Flag Number : Type*} (body : PatchBody Text Url Flag Number)
    (source : SourceSite) : Prop where
  name : body.name ≠ some none
  officialUrl : body.officialUrl = some none → source.officialUrl = "None" ∧ source.baseUrl = "None"
  listUrl : body.listUrl = some none → source.listUrl = "None"
  isActive : body.isActive ≠ some none
  supportsJsRender : body.supportsJsRender ≠ some none
  crawlIntervalMinutes : body.crawlIntervalMinutes ≠ some none
  defaultMaxPages : body.defaultMaxPages ≠ some none

/-- The name and the URLs of a form are not blank, and it names a description if the source has one. -/
structure FormBody.Harmless (form : FormBody) (source : SourceSite) : Prop where
  name : form.text "source_name" ≠ none
  officialUrl : form.text "official_url" = none → source.officialUrl = "None" ∧ source.baseUrl = "None"
  listUrl : form.text "list_url" = none → source.listUrl = "None"
  description : (∀ field ∈ form, field.1 ≠ "description") → source.description = none

section Frame

variable {Text Url Flag Number α β : Type*} {pydantic : Pydantic Text Url Flag Number}
  {httpUrl : String → Option HttpUrl} {storable : SourceSite → FieldUpdates → Bool} {table : SourceTable}
  {code : String} {source : SourceSite} {payload : PatchPayload}

theorem setsNull_updates : payload.updates.setsNull = true ↔
    payload.name = some none ∨ payload.isActive = some none ∨ payload.supportsJsRender = some none ∨
      payload.crawlIntervalMinutes = some none ∨ payload.defaultMaxPages = some none := by
  have hurl (url : Option (Option HttpUrl)) : url.map (fun url ↦ some (urlText (url.map HttpUrl.text))) ≠ some none := by
    cases url with
    | none => exact (nomatch ·)
    | some url => exact (nomatch ·)
  have hnumber (number : Option (Option PositiveInt)) :
      number.map (Option.map Subtype.val) = some none ↔ number = some none := by
    rcases number with _ | _ | number <;> simp
  simp only [FieldUpdates.setsNull, Bool.or_eq_true, decide_eq_true_eq]
  simp [PatchPayload.updates, hurl, hnumber, or_assoc]

theorem savePayload_eq (hsource : table.updatedSource code = some source) :
    table.savePayload storable code payload =
      if payload.updates.isEmpty then .ok (source, table)
      else if !storable source payload.updates then .error (.update ⟨source.id, .dataError⟩)
      else if payload.updates.setsNull then .error (.update ⟨source.id, .notNull⟩)
      else .ok (payload.updates.apply source, table.set (payload.updates.apply source)) := by
  unfold SourceTable.savePayload
  rw [SourceTable.updateSource_eq, hsource]
  dsimp only
  split_ifs <;> rfl

/-- A URL after the update has the text of a null where the payload has a null, or from before. -/
theorem urlText_getD_eq {url : Option (Option HttpUrl)} {before : String} :
    ((url.map fun url ↦ some (urlText (url.map HttpUrl.text))).join.getD before = "None" → before = "None") ↔
      (url = some none → before = "None") := by
  rcases url with _ | _ | url
  · simp
  · simp [urlText]
  · simp [urlText, url.ne_none]

/-- What is left out or null in a payload is kept where the payload is stored. -/
theorem kept_apply_updates (h : payload.Harmless source) {column : ConfigColumn} (hblank : payload.Blank column) :
    column.Kept source (payload.updates.apply source) := by
  have hjoin {β : Type} {field : Option (Option β)} (hne : field ≠ some none) (hfield : field.join = none) : field = none := by
    rcases field with _ | _ | value
    · rfl
    · exact absurd rfl hne
    · cases hfield
  have hurl {url : Option (Option HttpUrl)} {before : String} (hnull : url = some none → before = "None")
      (hfield : url.join = none) :
      (url.map fun url ↦ some (urlText (url.map HttpUrl.text))).join.getD before = before := by
    rcases url with _ | _ | url
    · rfl
    · exact (hnull rfl).symm
    · cases hfield
  cases column with
  | name =>
    change payload.name.join.getD source.name = source.name
    rw [hjoin h.name hblank]
    rfl
  | officialUrl => exact hurl (fun hnull ↦ (h.officialUrl hnull).1) hblank
  | baseUrl => exact hurl (fun hnull ↦ (h.officialUrl hnull).2) hblank
  | listUrl => exact hurl h.listUrl hblank
  | description =>
    change payload.description.getD source.description = source.description
    rw [show payload.description = none from hblank]
    rfl
  | isActive =>
    change payload.isActive.join.getD source.isActive = source.isActive
    rw [hjoin h.isActive hblank]
    rfl
  | supportsJsRender =>
    change payload.supportsJsRender.join.getD source.supportsJsRender = source.supportsJsRender
    rw [hjoin h.supportsJsRender hblank]
    rfl
  | crawlIntervalMinutes =>
    change (payload.crawlIntervalMinutes.map (Option.map Subtype.val)).join.getD source.crawlIntervalMinutes =
      source.crawlIntervalMinutes
    rw [hjoin h.crawlIntervalMinutes hblank]
    rfl
  | defaultMaxPages =>
    change (payload.defaultMaxPages.map (Option.map Subtype.val)).join.getD source.defaultMaxPages =
      source.defaultMaxPages
    rw [hjoin h.defaultMaxPages hblank]
    rfl

theorem PatchBody.Harmless.setsNull_eq_false (h : payload.Harmless source) : payload.updates.setsNull = false := by
  rw [← Bool.not_eq_true, setsNull_updates]
  rintro (hname | hactive | hjs | hinterval | hpages)
  · exact h.name hname
  · exact h.isActive hactive
  · exact h.supportsJsRender hjs
  · exact h.crawlIntervalMinutes hinterval
  · exact h.defaultMaxPages hpages

/-- A payload without a null that a column refuses is harmless where its URLs are. -/
theorem PatchBody.Harmless.of_setsNull (hnull : payload.updates.setsNull = false)
    (hofficial : payload.officialUrl = some none → source.officialUrl = "None" ∧ source.baseUrl = "None")
    (hlist : payload.listUrl = some none → source.listUrl = "None") : payload.Harmless source := by
  rw [← Bool.not_eq_true, setsNull_updates] at hnull
  push Not at hnull
  obtain ⟨hname, hactive, hjs, hinterval, hpages⟩ := hnull
  exact ⟨hname, hofficial, hlist, hactive, hjs, hinterval, hpages⟩

/-- The row that a payload without a null for a column leaves is within the frame where the payload is harmless. -/
theorem sourceFrame_ok_iff {blank : ConfigColumn → Prop} {after : SourceTable}
    (hblank : ∀ column, column ≠ .description → blank column → payload.Blank column)
    (hnull : payload.updates.setsNull = false)
    (hafter : after.find source.id = some (payload.updates.apply source))
    (hothers : ∀ id, id ≠ source.id → after.find id = table.find id) :
    SourceFrame table source blank (.ok (payload.updates.apply source, after)) ↔
      payload.Harmless source ∧
        (blank .description → payload.description.getD source.description = source.description) := by
  constructor
  · rintro ⟨hkept, ⟨hofficial, hbase, hlist⟩, -⟩
    refine ⟨.of_setsNull hnull (fun h ↦ ⟨?_, ?_⟩) ?_, hkept .description⟩
    · exact urlText_getD_eq.mp hofficial h
    · exact urlText_getD_eq.mp hbase h
    · exact urlText_getD_eq.mp hlist
  · rintro ⟨hharmless, hdescription⟩
    refine ⟨fun column hcolumn ↦ ?_, ⟨?_, ?_, ?_⟩, rfl, hafter, hothers⟩
    · by_cases hwhich : column = .description
      · subst hwhich
        exact hdescription hcolumn
      · exact kept_apply_updates hharmless (hblank column hwhich hcolumn)
    · exact urlText_getD_eq.mpr fun h ↦ (hharmless.officialUrl h).1
    · exact urlText_getD_eq.mpr fun h ↦ (hharmless.officialUrl h).2
    · exact urlText_getD_eq.mpr hharmless.listUrl

/-- A payload is saved within its frame where it is harmless and does not clear a description that is not named,
or where the columns cannot hold its values. -/
theorem sourceFrame_savePayload_iff {blank : ConfigColumn → Prop} (hsource : table.updatedSource code = some source)
    (hblank : ∀ column, column ≠ .description → blank column → payload.Blank column) :
    SourceFrame table source blank (table.savePayload storable code payload) ↔
      (payload.Harmless source ∧
        (blank .description → payload.description.getD source.description = source.description)) ∨
      storable source payload.updates = false := by
  have hfind : table.find source.id = some source :=
    SourceTable.find_eq_some_iff.mpr ⟨mem_rows_of_updatedSource hsource, rfl⟩
  rw [savePayload_eq hsource]
  split_ifs with hempty hstorable hnull
  · have hnone : payload.updates = ({} : FieldUpdates) := by simpa [FieldUpdates.isEmpty] using hempty
    have hsame : payload.updates.apply source = source := by
      rw [hnone]
      rfl
    have hofficial : payload.officialUrl = none :=
      Option.map_eq_none_iff.mp (congrArg FieldUpdates.officialUrl hnone)
    have hlist : payload.listUrl = none := Option.map_eq_none_iff.mp (congrArg FieldUpdates.listUrl hnone)
    have hdescription : payload.description = none := congrArg FieldUpdates.description hnone
    have hnotNull : payload.updates.setsNull = false := by
      rw [hnone]
      decide
    have hharmless : payload.Harmless source := .of_setsNull hnotNull (by simp [hofficial]) (by simp [hlist])
    have hkept : blank .description → payload.description.getD source.description = source.description := by
      rw [hdescription]
      exact fun _ ↦ rfl
    have hframe : SourceFrame table source blank (.ok (payload.updates.apply source, table)) :=
      (sourceFrame_ok_iff hblank hnotNull (hsame.symm ▸ hfind) fun _ _ ↦ rfl).mpr ⟨hharmless, hkept⟩
    rw [hsame] at hframe
    exact iff_of_true hframe (Or.inl ⟨hharmless, hkept⟩)
  · have hfalse : storable source payload.updates = false := by simpa using hstorable
    exact iff_of_true (nomatch ·) (Or.inr hfalse)
  · refine iff_of_false (fun h ↦ h rfl) (not_or.mpr ⟨fun h ↦ ?_, hstorable ∘ fun h ↦ by simp [h]⟩)
    rw [h.1.setsNull_eq_false] at hnull
    cases hnull
  · rw [sourceFrame_ok_iff hblank (by simpa using hnull) (SourceTable.find_set hfind rfl rfl)
      fun id hid ↦ SourceTable.find_set_of_ne fun hsame ↦ hid hsame.symm]
    have htrue : storable source payload.updates = true := by simpa using hstorable
    simp [htrue]

/-! ## Bodies and forms -/

theorem validateField_some {read : α → Option β} {field : Option (Option α)} {result : Option (Option β)}
    (h : validateField read field = some result) :
    (result = none ↔ field = none) ∧ (result = some none ↔ field = some none) := by
  rcases field with _ | _ | value
  · obtain rfl := Option.some.inj h
    simp
  · obtain rfl := Option.some.inj h
    simp
  · obtain ⟨read, -, rfl⟩ := Option.map_eq_some_iff.mp h
    simp

theorem join_eq_none_iff {field : Option (Option α)} : field.join = none ↔ field = none ∨ field = some none := by
  rcases field with _ | _ | value <;> simp

theorem join_validateField {read : α → Option β} {field : Option (Option α)} {result : Option (Option β)}
    (h : validateField read field = some result) : result.join = none ↔ field.join = none := by
  obtain ⟨hnone, hnull⟩ := validateField_some h
  rw [join_eq_none_iff, join_eq_none_iff, hnone, hnull]

/-- The fields of a payload are those of the body, each validated. -/
theorem PatchBody.validate_eq_some {body : PatchBody Text Url Flag Number} (h : body.validate pydantic = some payload) :
    validateField (readName pydantic) body.name = some payload.name ∧
      validateField pydantic.httpUrl body.officialUrl = some payload.officialUrl ∧
      validateField pydantic.httpUrl body.listUrl = some payload.listUrl ∧
      validateField pydantic.str body.description = some payload.description ∧
      validateField pydantic.bool body.isActive = some payload.isActive ∧
      validateField pydantic.bool body.supportsJsRender = some payload.supportsJsRender ∧
      validateField (readPositive pydantic) body.crawlIntervalMinutes = some payload.crawlIntervalMinutes ∧
      validateField (readPositive pydantic) body.defaultMaxPages = some payload.defaultMaxPages := by
  simp only [PatchBody.validate, Option.bind_eq_bind, Option.bind_eq_some_iff, Option.pure_def] at h
  obtain ⟨name, hname, officialUrl, hofficial, listUrl, hlist, description, hdescription, isActive, hactive,
    supportsJsRender, hjs, crawlIntervalMinutes, hinterval, defaultMaxPages, hpages, hpayload⟩ := h
  obtain rfl := Option.some.inj hpayload
  exact ⟨hname, hofficial, hlist, hdescription, hactive, hjs, hinterval, hpages⟩

/-- Validation keeps which fields are left out and which are null. -/
theorem PatchBody.validate_harmless_iff {body : PatchBody Text Url Flag Number}
    (h : body.validate pydantic = some payload) : payload.Harmless source ↔ body.Harmless source := by
  obtain ⟨hname, hofficial, hlist, -, hactive, hjs, hinterval, hpages⟩ := validate_eq_some h
  constructor
  · intro hharmless
    constructor
    · exact fun hnull ↦ hharmless.name ((validateField_some hname).2.mpr hnull)
    · exact fun hnull ↦ hharmless.officialUrl ((validateField_some hofficial).2.mpr hnull)
    · exact fun hnull ↦ hharmless.listUrl ((validateField_some hlist).2.mpr hnull)
    · exact fun hnull ↦ hharmless.isActive ((validateField_some hactive).2.mpr hnull)
    · exact fun hnull ↦ hharmless.supportsJsRender ((validateField_some hjs).2.mpr hnull)
    · exact fun hnull ↦ hharmless.crawlIntervalMinutes ((validateField_some hinterval).2.mpr hnull)
    · exact fun hnull ↦ hharmless.defaultMaxPages ((validateField_some hpages).2.mpr hnull)
  · intro hharmless
    constructor
    · exact fun hnull ↦ hharmless.name ((validateField_some hname).2.mp hnull)
    · exact fun hnull ↦ hharmless.officialUrl ((validateField_some hofficial).2.mp hnull)
    · exact fun hnull ↦ hharmless.listUrl ((validateField_some hlist).2.mp hnull)
    · exact fun hnull ↦ hharmless.isActive ((validateField_some hactive).2.mp hnull)
    · exact fun hnull ↦ hharmless.supportsJsRender ((validateField_some hjs).2.mp hnull)
    · exact fun hnull ↦ hharmless.crawlIntervalMinutes ((validateField_some hinterval).2.mp hnull)
    · exact fun hnull ↦ hharmless.defaultMaxPages ((validateField_some hpages).2.mp hnull)

theorem PatchBody.validate_blank_iff {body : PatchBody Text Url Flag Number}
    (h : body.validate pydantic = some payload) (column : ConfigColumn) : payload.Blank column ↔ body.Blank column := by
  obtain ⟨hname, hofficial, hlist, hdescription, hactive, hjs, hinterval, hpages⟩ := validate_eq_some h
  cases column with
  | name => exact join_validateField hname
  | officialUrl => exact join_validateField hofficial
  | baseUrl => exact join_validateField hofficial
  | listUrl => exact join_validateField hlist
  | description => exact (validateField_some hdescription).1
  | isActive => exact join_validateField hactive
  | supportsJsRender => exact join_validateField hjs
  | crawlIntervalMinutes => exact join_validateField hinterval
  | defaultMaxPages => exact join_validateField hpages

theorem sourceFrame_patchSource_iff {body : PatchBody Text Url Flag Number}
    (hbody : body.validate pydantic = some payload) (hsource : table.updatedSource code = some source) :
    SourceFrame table source body.Blank (table.patchSource pydantic storable code body) ↔
      body.Harmless source ∨ storable source payload.updates = false := by
  have hblank (column : ConfigColumn) : body.Blank column ↔ payload.Blank column :=
    (PatchBody.validate_blank_iff hbody column).symm
  have hkept : body.Blank .description → payload.description.getD source.description = source.description := by
    intro hdescription
    rw [show payload.description = none from (hblank .description).mp hdescription]
    rfl
  unfold SourceTable.patchSource
  rw [hbody]
  dsimp only
  rw [sourceFrame_savePayload_iff hsource fun column _ ↦ (hblank column).mp, PatchBody.validate_harmless_iff hbody]
  exact or_congr_left (and_iff_left hkept)

/-- The fields of a form that is accepted -/
theorem FormBody.payloadData_eq_some {form : FormBody} {data : PatchBody String String Bool ℤ}
    (h : form.payloadData = some data) :
    data.name = some (form.text "source_name") ∧ data.officialUrl = some (form.text "official_url") ∧
      data.listUrl = some (form.text "list_url") ∧ data.description = some (form.text "description") ∧
      (∃ isActive, data.isActive = some (some isActive) ∧ parseFormBool (form.first "is_active") = some isActive) ∧
      (∃ supportsJsRender, data.supportsJsRender = some (some supportsJsRender) ∧
        parseFormBool (form.first "supports_js_render") = some supportsJsRender) ∧
      (∃ crawlIntervalMinutes, data.crawlIntervalMinutes = some (some crawlIntervalMinutes) ∧
        parseFormPositiveInt (form.first "crawl_interval_minutes") = some crawlIntervalMinutes) ∧
      ∃ defaultMaxPages, data.defaultMaxPages = some (some defaultMaxPages) ∧
        parseFormPositiveInt (form.first "default_max_pages") = some defaultMaxPages := by
  simp only [FormBody.payloadData, Option.bind_eq_bind, Option.bind_eq_some_iff, Option.pure_def] at h
  obtain ⟨isActive, hactive, supportsJsRender, hjs, interval, hinterval, pages, hpages, hdata⟩ := h
  obtain rfl := Option.some.inj hdata
  exact ⟨rfl, rfl, rfl, rfl, ⟨_, rfl, hactive⟩, ⟨_, rfl, hjs⟩, ⟨_, rfl, hinterval⟩, _, rfl, hpages⟩

/-- A flag or a number of a form that is accepted is not blank. -/
theorem FormBody.text_ne_none {form : FormBody} {key : String} {read : String → Option α} {value : α}
    (hread : ∀ text, strip text = "" → read text = none) (h : read (form.first key) = some value) :
    form.text key ≠ none := by
  intro hblank
  have hstrip : strip (form.first key) = "" := by
    by_contra hne
    unfold FormBody.text at hblank
    rw [asStr_some, if_neg hne] at hblank
    cases hblank
  rw [hread _ hstrip] at h
  cases h

theorem parseFormBool_of_blank {text : String} (h : strip text = "") : parseFormBool text = none := by
  unfold parseFormBool
  rw [h]
  decide

theorem parseFormPositiveInt_of_blank {text : String} (h : strip text = "") : parseFormPositiveInt text = none := by
  unfold parseFormPositiveInt
  rw [h]
  decide

/-- A field that a form does not name has no text. -/
theorem FormBody.text_eq_none {form : FormBody} {key : String} (h : ∀ field ∈ form, field.1 ≠ key) :
    form.text key = none := by
  have hfind : (form.find? fun field ↦ field.1 = key ∧ field.2 ≠ "") = none := by
    rw [List.find?_eq_none]
    intro field hfield
    simp [h field hfield]
  unfold FormBody.text FormBody.first
  rw [hfind]
  decide

/-- The payload of a form is harmless where the form is, its description apart. -/
theorem FormBody.validate_harmless_iff {form : FormBody} (h : form.validate httpUrl = some payload) :
    payload.Harmless source ∧ ((∀ field ∈ form, field.1 ≠ "description") →
      payload.description.getD source.description = source.description) ↔ form.Harmless source := by
  obtain ⟨data, hdata, hpayload⟩ := Option.bind_eq_some_iff.mp h
  obtain ⟨hname, hofficial, hlist, hdescription, ⟨isActive, hactive, -⟩, ⟨supportsJsRender, hjs, -⟩,
    ⟨interval, hinterval, -⟩, pages, hpages, -⟩ := FormBody.payloadData_eq_some hdata
  have hcleared : (∀ field ∈ form, field.1 ≠ "description") → payload.description = some none := by
    intro hunnamed
    have hvalidated := (PatchBody.validate_eq_some hpayload).2.2.2.1
    rw [hdescription, FormBody.text_eq_none hunnamed] at hvalidated
    exact (Option.some.inj hvalidated).symm
  rw [PatchBody.validate_harmless_iff hpayload]
  constructor
  · rintro ⟨hharmless, hkept⟩
    refine ⟨fun hnull ↦ hharmless.name ?_, fun hnull ↦ hharmless.officialUrl ?_, fun hnull ↦ hharmless.listUrl ?_, ?_⟩
    · rw [hname, hnull]
    · rw [hofficial, hnull]
    · rw [hlist, hnull]
    · intro hunnamed
      have hsame := hkept hunnamed
      rw [hcleared hunnamed] at hsame
      exact hsame.symm
  · intro hharmless
    refine ⟨⟨?_, ?_, ?_, ?_, ?_, ?_, ?_⟩, ?_⟩
    · rw [hname]
      exact fun hnull ↦ hharmless.name (Option.some.inj hnull)
    · rw [hofficial]
      exact fun hnull ↦ hharmless.officialUrl (Option.some.inj hnull)
    · rw [hlist]
      exact fun hnull ↦ hharmless.listUrl (Option.some.inj hnull)
    · simp [hactive]
    · simp [hjs]
    · simp [hinterval]
    · simp [hpages]
    · intro hunnamed
      rw [hcleared hunnamed, hharmless.description hunnamed]
      rfl

/-- A blank field of an accepted form is blank in its payload. -/
theorem FormBody.validate_blank {form : FormBody} (h : form.validate httpUrl = some payload) (column : ConfigColumn)
    (hne : column ≠ .description) (hblank : form.Blank column) : payload.Blank column := by
  obtain ⟨data, hdata, hpayload⟩ := Option.bind_eq_some_iff.mp h
  obtain ⟨hname, hofficial, hlist, -, ⟨isActive, -, hactive⟩, ⟨supportsJsRender, -, hjs⟩, ⟨interval, -, hinterval⟩,
    pages, -, hpages⟩ := FormBody.payloadData_eq_some hdata
  rw [PatchBody.validate_blank_iff hpayload]
  have hnull {β : Type} {field : Option (Option β)} {text : Option β} (hfield : field = some text) (htext : text = none) :
      field.join = none := by
    rw [hfield, htext]
    rfl
  cases column with
  | name => exact hnull hname hblank
  | officialUrl => exact hnull hofficial hblank
  | baseUrl => exact hnull hofficial hblank
  | listUrl => exact hnull hlist hblank
  | description => exact absurd rfl hne
  | isActive => exact absurd hblank (FormBody.text_ne_none (fun _ ↦ parseFormBool_of_blank) hactive)
  | supportsJsRender => exact absurd hblank (FormBody.text_ne_none (fun _ ↦ parseFormBool_of_blank) hjs)
  | crawlIntervalMinutes =>
    exact absurd hblank (FormBody.text_ne_none (fun _ ↦ parseFormPositiveInt_of_blank) hinterval)
  | defaultMaxPages => exact absurd hblank (FormBody.text_ne_none (fun _ ↦ parseFormPositiveInt_of_blank) hpages)

theorem sourceFrame_adminUpdateSourceConfig_iff {form : FormBody} (hform : form.validate httpUrl = some payload)
    (hfound : table.getSource code ≠ none) (hsource : table.updatedSource code = some source) :
    SourceFrame table source form.Blank (table.adminUpdateSourceConfig httpUrl storable code form) ↔
      form.Harmless source ∨ storable source payload.updates = false := by
  unfold SourceTable.adminUpdateSourceConfig
  rw [if_neg hfound, hform]
  dsimp only
  rw [sourceFrame_savePayload_iff hsource (FormBody.validate_blank hform)]
  exact or_congr_left (FormBody.validate_harmless_iff hform)

/-- A request on a source is saved within its frame just where none of the fields that its columns refuse, and no
URL, is null or blank. -/
theorem sourceFrame_iff (hsource : table.updatedSource code = some source) :
    (∀ (body : PatchBody Text Url Flag Number) (payload : PatchPayload), body.validate pydantic = some payload →
      (SourceFrame table source body.Blank (table.patchSource pydantic storable code body) ↔
        body.Harmless source ∨ storable source payload.updates = false)) ∧
    ∀ (form : FormBody) (payload : PatchPayload), form.validate httpUrl = some payload →
      (SourceFrame table source form.Blank (table.adminUpdateSourceConfig httpUrl storable code form) ↔
        form.Harmless source ∨ storable source payload.updates = false) := by
  have hfound : table.getSource code ≠ none := by
    cases hrow : table.getModelByCode (strip code) with
    | none =>
      rw [SourceTable.getSource_of_no_row hrow, hsource]
      exact Option.some_ne_none _
    | some row =>
      have hcode : strip code ≠ "" := by
        intro hempty
        unfold SourceTable.updatedSource updatedSourceCode at hsource
        rw [if_pos hempty] at hsource
        cases hsource
      rw [SourceTable.getSource_of_row hrow hcode]
      exact Option.some_ne_none _
  exact ⟨fun body payload hbody ↦ sourceFrame_patchSource_iff hbody hsource,
    fun form payload hform ↦ sourceFrame_adminUpdateSourceConfig_iff hform hfound hsource⟩

/-- A source and the URLs that pydantic writes as it reads them -/
def anhuiSources : SourceTable where
  rows := [{ id := 1, code := "anhui_ggzy_zfcg", name := "安徽省公共资源交易监管网（政府采购）",
             baseUrl := "https://ggzy.ah.gov.cn/", officialUrl := "https://ggzy.ah.gov.cn/",
             listUrl := "https://ggzy.ah.gov.cn/zfcg/list?bulletinNature=1&time=1" }]
  ids_nodup := by decide
  codes_nodup := by decide

def anhuiSource : SourceSite :=
  { id := 1, code := "anhui_ggzy_zfcg", name := "安徽省公共资源交易监管网（政府采购）",
    baseUrl := "https://ggzy.ah.gov.cn/", officialUrl := "https://ggzy.ah.gov.cn/",
    listUrl := "https://ggzy.ah.gov.cn/zfcg/list?bulletinNature=1&time=1" }

def httpUrlOf (text : String) : Option HttpUrl := if h : startsWith text "http" then some ⟨text, h⟩ else none

def renamingBody : PatchBody String String Bool ℤ := { name := some (some "安徽政府采购") }

/-- The configuration form with no URL of the list -/
def blankListForm : FormBody :=
  [("source_name", "安徽政府采购"), ("official_url", "https://ggzy.ah.gov.cn/"), ("list_url", ""), ("description", ""),
    ("is_active", "true"), ("supports_js_render", "false"), ("crawl_interval_minutes", "60"),
    ("default_max_pages", "50")]

/-- A patch of the name keeps the frame, and a form with a blank field does not. -/
theorem sourceFrame_anhui :
    SourceFrame anhuiSources anhuiSource renamingBody.Blank
      (anhuiSources.patchSource (typedValues httpUrlOf) (fun _ _ ↦ true) "anhui_ggzy_zfcg" renamingBody) ∧
    ¬SourceFrame anhuiSources anhuiSource (FormBody.Blank blankListForm)
      (anhuiSources.adminUpdateSourceConfig httpUrlOf (fun _ _ ↦ true) "anhui_ggzy_zfcg" blankListForm) := by
  obtain ⟨hpatch, hform⟩ := @sourceFrame_iff String String Bool ℤ (typedValues httpUrlOf) httpUrlOf (fun _ _ ↦ true)
    anhuiSources "anhui_ggzy_zfcg" anhuiSource (by decide +kernel)
  constructor
  · apply (hpatch renamingBody { name := some (some "安徽政府采购") } (by decide +kernel)).mpr
    exact Or.inl ⟨by decide, by decide, by decide, by decide, by decide, by decide, by decide⟩
  · obtain ⟨payload, hpayload⟩ : ∃ payload, FormBody.validate httpUrlOf blankListForm = some payload :=
      Option.isSome_iff_exists.mp (by decide +kernel)
    rw [hform blankListForm payload hpayload]
    rintro (hharmless | hstorable)
    · have hlist := hharmless.listUrl (by decide +kernel)
      exact absurd hlist (by decide +kernel)
    · cases hstorable

/-- A null for the official URL is stored as a text. -/
def nullUrlBody : PatchBody String String Bool ℤ := { officialUrl := some none }

/-- A URL that is null is stored as the text None. -/
theorem nullUrl_stored :
    ((anhuiSources.patchSource (typedValues httpUrlOf) (fun _ _ ↦ true) "anhui_ggzy_zfcg" nullUrlBody).toOption.map
      fun result ↦ (result.1.officialUrl, result.1.baseUrl)) = some ("None", "None") ∧
    ¬SourceFrame anhuiSources anhuiSource nullUrlBody.Blank
      (anhuiSources.patchSource (typedValues httpUrlOf) (fun _ _ ↦ true) "anhui_ggzy_zfcg" nullUrlBody) := by
  refine ⟨by decide +kernel, ?_⟩
  cases hsaved : anhuiSources.patchSource (typedValues httpUrlOf) (fun _ _ ↦ true) "anhui_ggzy_zfcg" nullUrlBody with
  | error error =>
    have hok : (anhuiSources.patchSource (typedValues httpUrlOf) (fun _ _ ↦ true) "anhui_ggzy_zfcg"
      nullUrlBody).toOption.isSome = true := by decide +kernel
    rw [hsaved] at hok
    cases hok
  | ok saved =>
    have hofficial : (anhuiSources.patchSource (typedValues httpUrlOf) (fun _ _ ↦ true) "anhui_ggzy_zfcg"
      nullUrlBody).toOption.map (fun result ↦ result.1.officialUrl) = some "None" := by decide +kernel
    rw [hsaved] at hofficial
    rintro ⟨-, ⟨hnone, -⟩, -⟩
    exact absurd (hnone (Option.some.inj hofficial)) (by decide)

end Frame

end TenderPhase1.Sources
