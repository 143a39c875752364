import TenderPhase1.Crawler.Instances
import TenderPhase1.Foundation.JoinedTexts

/-!
# What the keys tell apart

The keys hash components that are joined with bars, and an absent component is joined as a
hyphen. Where the digest is injective, two inputs of which one has no bar in a component share a
key only if their components agree, but for a hyphen in the place of an absent one.
-/

namespace TenderPhase1.Crawler

open PyText JoinedTexts

/-! ## Components -/

/-- A component as the seed takes it: an empty text is as absent as none. -/
def shown (component : Option String) : Option String := component.bind nonEmpty

/-- What the seed shows of two components is the same, or a hyphen in the place of an absent one. -/
def Alike (component other : Option String) : Prop :=
  shown component = shown other ∨ shown component = none ∧ other = some "-" ∨
    component = some "-" ∧ shown other = none

instance (component other : Option String) : Decidable (Alike component other) := by
  unfold Alike
  infer_instance

def BarFree (component : Option String) : Prop := ∀ text ∈ component, '|' ∉ text.toList

instance (component : Option String) : Decidable (BarFree component) :=
  match component with
  | none => .isTrue fun _ h ↦ (nomatch h)
  | some text => decidable_of_iff ('|' ∉ text.toList) ⟨fun h _ htext ↦ Option.some.inj htext ▸ h, fun h ↦ h text rfl⟩

theorem shown_of_ne_empty {text : String} (h : text ≠ "") : shown (some text) = some text := if_neg h

theorem stableSeedText_eq (component : Option String) : stableSeedText component = (shown component).getD "-" := rfl

theorem eq_of_shown_eq_some {component : Option String} {text : String} (h : shown component = some text) :
    component = some text := by
  obtain ⟨value, hvalue, hshown⟩ := Option.bind_eq_some_iff.mp h
  unfold nonEmpty at hshown
  split at hshown
  · cases hshown
  · rw [hvalue, ← Option.some.inj hshown]

/-- Components with one text in the seed are alike. -/
theorem alike_of_stableSeedText_eq {component other : Option String}
    (h : stableSeedText component = stableSeedText other) : Alike component other := by
  rw [stableSeedText_eq, stableSeedText_eq] at h
  cases hcomponent : shown component with
  | none =>
    cases hother : shown other with
    | none => exact Or.inl (hcomponent.trans hother.symm)
    | some text =>
      rw [hcomponent, hother] at h
      have htext : text = "-" := h.symm
      exact Or.inr (Or.inl ⟨hcomponent, htext ▸ eq_of_shown_eq_some hother⟩)
  | some text =>
    cases hother : shown other with
    | none =>
      rw [hcomponent, hother] at h
      have htext : text = "-" := h
      exact Or.inr (Or.inr ⟨htext ▸ eq_of_shown_eq_some hcomponent, hother⟩)
    | some otherText =>
      rw [hcomponent, hother] at h
      have htext : text = otherText := h
      exact Or.inl (by rw [hcomponent, hother, htext])

theorem bar_notMem_stableSeedText {component : Option String} (h : BarFree component) :
    '|' ∉ (stableSeedText component).toList := by
  rw [stableSeedText_eq]
  cases hshown : shown component with
  | none => decide
  | some text => exact h text (eq_of_shown_eq_some hshown)

section Seeds

variable {python : Python} {components others : List (Option String)}

/-- Equal keys of two inputs, of which one has no bar, have components that are pairwise alike. -/
theorem alike_of_hashSeed_eq (hinjective : Function.Injective python.sha256Text)
    (hlength : components.length = others.length) (h : hashSeed python components = hashSeed python others)
    (hbars : (∀ component ∈ components, BarFree component) ∨ ∀ other ∈ others, BarFree other) :
    List.Forall₂ Alike components others := by
  have hseed : String.intercalate "|" (components.map stableSeedText) = String.intercalate "|" (others.map stableSeedText) :=
    hinjective h
  have hjoined : ['|'].intercalate ((components.map stableSeedText).map String.toList) =
      ['|'].intercalate ((others.map stableSeedText).map String.toList) := by
    have hchars := congrArg String.toList hseed
    rw [String.toList_intercalate, String.toList_intercalate] at hchars
    exact hchars
  have hfree (list : List (Option String)) (hlist : ∀ component ∈ list, BarFree component) :
      ∀ piece ∈ (list.map stableSeedText).map String.toList, '|' ∉ piece := by
    intro piece hpiece
    obtain ⟨text, htext, rfl⟩ := List.mem_map.mp hpiece
    obtain ⟨component, hcomponent, rfl⟩ := List.mem_map.mp htext
    exact bar_notMem_stableSeedText (hlist component hcomponent)
  have hlengths : ((components.map stableSeedText).map String.toList).length =
      ((others.map stableSeedText).map String.toList).length := by
    simpa only [List.length_map] using hlength
  have hpieces : (components.map stableSeedText).map String.toList = (others.map stableSeedText).map String.toList := by
    rcases hbars with hcomponents | hothers
    · exact eq_of_intercalate_eq hlengths hjoined (hfree components hcomponents)
    · exact (eq_of_intercalate_eq hlengths.symm hjoined.symm (hfree others hothers)).symm
  have htexts : components.map stableSeedText = others.map stableSeedText :=
    List.map_injective_iff.mpr (fun _ _ ↦ String.toList_injective) hpieces
  have hpairs : List.Forall₂ (fun text other ↦ text = other) (components.map stableSeedText) (others.map stableSeedText) :=
    htexts ▸ List.forall₂_same.mpr fun _ _ ↦ rfl
  exact (List.forall₂_map_right_iff.mp (List.forall₂_map_left_iff.mp hpairs)).imp
    fun _ _ ↦ alike_of_stableSeedText_eq

end Seeds

/-! ## The three keys -/

section Keys

variable (python : Python)

/-- What `build_source_list_item_fingerprint` takes. -/
structure ListItemFields where
  sourceCode : Value
  title : Value
  detailUrl : Value
  publishedAt : Value
  region : Value := none
  noticeType : Value := none

/-- The detail URL of a fingerprint that includes one. -/
def ListItemFields.normalizedDetail (fields : ListItemFields) (includeDetailLocator : Bool) :
    Except PyError (Option String) :=
  if includeDetailLocator then normalizeDetailUrl python fields.detailUrl else .ok none

def buildSourceListItemFingerprint (fields : ListItemFields) (includeDetailLocator : Bool) : Except PyError String := do
  let normalizedDetail ← fields.normalizedDetail python includeDetailLocator
  let publishedDate ← normalizePublishedDate python fields.publishedAt
  return hashSeed python
    [fields.sourceCode.asStr, normalizeTitle python fields.title, normalizedDetail, publishedDate,
      some (normalizeNoticeType fields.noticeType), normalizeRegion python fields.region]

structure ListItemComponents where
  sourceCode : Option String
  title : Option String
  detailUrl : Option String
  publishedDate : Option String
  noticeType : Option String
  region : Option String
  deriving DecidableEq

def ListItemComponents.all (components : ListItemComponents) : List (Option String) :=
  [components.sourceCode, components.title, components.detailUrl, components.publishedDate, components.noticeType,
    components.region]

def listItemComponents (fields : ListItemFields) (includeDetailLocator : Bool) : Except PyError ListItemComponents := do
  let detailUrl ← fields.normalizedDetail python includeDetailLocator
  let publishedDate ← normalizePublishedDate python fields.publishedAt
  return ⟨fields.sourceCode.asStr, normalizeTitle python fields.title, detailUrl, publishedDate,
    some (normalizeNoticeType fields.noticeType), normalizeRegion python fields.region⟩

structure NoticeComponents where
  title : Option String
  publishedDate : Option String
  purchaserOrPublisher : Option String
  budgetBucket : Option String
  region : Option String
  detailLocator : Option String
  deriving DecidableEq, Repr

def NoticeComponents.all (components : NoticeComponents) : List (Option String) :=
  [components.title, components.publishedDate, components.purchaserOrPublisher, components.budgetBucket,
    components.region, components.detailLocator]

def noticeComponents (fields : KeyFields) (includeDetailLocator : Bool) : Except PyError NoticeComponents := do
  let publishedDate ← normalizePublishedDate python fields.publishedAt
  let budgetBucket ← normalizeBudgetBucket python fields.budgetAmount
  let detailLocator ← fields.detailLocator python includeDetailLocator
  return ⟨normalizeTitle python fields.title, publishedDate,
    normalizePurchaserOrPublisher python fields.purchaser <|> normalizePurchaserOrPublisher python fields.publisher,
    budgetBucket, normalizeRegion python fields.region, detailLocator⟩

/-- The components of a `source_duplicate_key` that is built from a detail locator. -/
structure LocatorComponents where
  sourceCode : Option String
  noticeType : Option String
  detailLocator : Option String
  deriving DecidableEq

def LocatorComponents.all (components : LocatorComponents) : List (Option String) :=
  [components.sourceCode, components.noticeType, components.detailLocator]

/-- The components of a `source_duplicate_key`, nothing where there is no detail locator. -/
def locatorComponents (sourceCode noticeType : Value) (fields : KeyFields) :
    Except PyError (Option LocatorComponents) := do
  let detailLocator ← extractDetailLocator python fields.detailUrl fields.detailId
  return (shown detailLocator).map fun locator ↦
    ⟨normalizeText python sourceCode true, some (normalizeNoticeType noticeType), some locator⟩

variable {python}

theorem buildSourceListItemFingerprint_eq (fields : ListItemFields) (includeDetailLocator : Bool) :
    buildSourceListItemFingerprint python fields includeDetailLocator =
      (listItemComponents python fields includeDetailLocator).map (hashSeed python ·.all) := by
  unfold buildSourceListItemFingerprint listItemComponents
  cases fields.normalizedDetail python includeDetailLocator with
  | error error => rfl
  | ok detailUrl =>
    cases normalizePublishedDate python fields.publishedAt with
    | error error => rfl
    | ok publishedDate => rfl

theorem buildNoticeDedupKey_eq (fields : KeyFields) (includeDetailLocator : Bool) :
    buildNoticeDedupKey python fields includeDetailLocator =
      (noticeComponents python fields includeDetailLocator).map (hashSeed python ·.all) := by
  unfold buildNoticeDedupKey noticeComponents
  cases normalizePublishedDate python fields.publishedAt with
  | error error => rfl
  | ok publishedDate =>
    cases normalizeBudgetBucket python fields.budgetAmount with
    | error error => rfl
    | ok budgetBucket =>
      cases fields.detailLocator python includeDetailLocator with
      | error error => rfl
      | ok detailLocator => rfl

/-- The key is the hash of all the components. -/
theorem buildSourceDuplicateKey_eq {sourceCode noticeType issuer : Value} {fields : KeyFields}
    {components : LocatorComponents} (h : locatorComponents python sourceCode noticeType fields = .ok (some components)) :
    buildSourceDuplicateKey python sourceCode noticeType issuer fields = .ok (hashSeed python components.all) := by
  unfold locatorComponents at h
  unfold buildSourceDuplicateKey
  cases hlocator : extractDetailLocator python fields.detailUrl fields.detailId with
  | error error =>
    rw [hlocator] at h
    cases h
  | ok detailLocator =>
    rw [hlocator] at h
    have hcomponents := Except.ok.inj h
    obtain ⟨locator, hshown, rfl⟩ := Option.map_eq_some_iff.mp hcomponents
    have hbind : detailLocator.bind nonEmpty = some locator := hshown
    simp only [bind, Except.bind, hbind]
    rfl

/-! ### Components that the seed shows as they are -/

/-- A component that is neither a hyphen nor empty. -/
def Plain (component : Option String) : Prop := component ≠ some "-" ∧ component ≠ some ""

theorem Plain.shown_eq {component : Option String} (h : Plain component) : shown component = component := by
  cases component with
  | none => rfl
  | some text => exact shown_of_ne_empty fun hempty ↦ h.2 (congrArg some hempty)

/-- Plain components are told apart. -/
theorem Alike.eq_of_plain {component other : Option String} (h : Alike component other) (hcomponent : Plain component)
    (hother : Plain other) : component = other := by
  rcases h with heq | ⟨-, hhyphen⟩ | ⟨hhyphen, -⟩
  · calc component = shown component := hcomponent.shown_eq.symm
      _ = shown other := heq
      _ = other := hother.shown_eq
  · exact absurd hhyphen hother.1
  · exact absurd hhyphen hcomponent.1

theorem plain_of_mem {text : String} {c : Char} (hmem : c ∈ text.toList) (hc : c ≠ '-') : Plain (some text) := by
  constructor
  · intro h
    rw [Option.some.inj h] at hmem
    exact hc (List.mem_singleton.mp hmem)
  · intro h
    rw [Option.some.inj h] at hmem
    exact absurd hmem List.not_mem_nil

theorem plain_normalizeNoticeType (value : Value) : Plain (some (normalizeNoticeType value)) := by
  have hmem : normalizeNoticeType value ∈ noticeTypes := by
    unfold normalizeNoticeType
    split
    · split
      · rename_i hmem
        exact List.contains_iff_mem.mp hmem
      · decide
    · decide
  have hplain : ∀ noticeType ∈ noticeTypes, some noticeType ≠ some "-" ∧ some noticeType ≠ some "" := by decide
  exact hplain _ hmem

/-- A bucket ends in a digit. -/
theorem plain_normalizeBudgetBucket {value : Value} {bucket : Option String}
    (h : normalizeBudgetBucket python value = .ok bucket) : Plain bucket := by
  have hnone : Plain none := ⟨fun h ↦ (nomatch h), fun h ↦ (nomatch h)⟩
  have hnumber (pre : String) (n : ℕ) : Plain (some (pre ++ toString n)) := by
    have hchars : (pre ++ toString n).toList = pre.toList ++ Nat.toDigits 10 n := by
      rw [String.toList_append]
      exact congrArg _ Nat.toList_repr
    obtain ⟨digit, hdigit⟩ := List.exists_mem_of_ne_nil _ (Nat.toDigits_ne_nil : Nat.toDigits 10 n ≠ [])
    have hisDigit : digit.isDigit := Nat.isDigit_of_mem_toDigits (by decide) (by decide) hdigit
    apply plain_of_mem (hchars ▸ List.mem_append_right _ hdigit)
    rintro rfl
    exact absurd hisDigit (by decide)
  unfold normalizeBudgetBucket at h
  split at h
  · exact Except.ok.inj h ▸ hnone
  · extract_lets multiplier at h
    split at h
    · exact Except.ok.inj h ▸ hnone
    · extract_lets amount at h
      obtain ⟨steps, -, hsteps⟩ := Jobs.bind_eq_ok.mp h
      obtain ⟨coefficient, -, hcoefficient⟩ := Jobs.bind_eq_ok.mp hsteps
      exact Except.ok.inj hcoefficient ▸ hnumber _ coefficient

/-- A normalised date is neither a hyphen nor empty. -/
theorem plain_normalizePublishedDate (hdate : ∀ moment, (python.isoDate moment).length = 10) {value : Value}
    {date : Option String} (h : normalizePublishedDate python value = .ok date) : Plain date := by
  have hnone : Plain none := ⟨fun h ↦ (nomatch h), fun h ↦ (nomatch h)⟩
  have hsome (moment : DateTime) : Plain (some (python.isoDate moment)) := by
    have hlength := hdate moment
    constructor
    · intro h
      rw [Option.some.inj h] at hlength
      exact absurd hlength (by decide)
    · intro h
      rw [Option.some.inj h] at hlength
      exact absurd hlength (by decide)
  unfold normalizePublishedDate at h
  obtain ⟨moment, -, hmoment⟩ := Jobs.bind_eq_ok.mp h
  split at hmoment
  · obtain ⟨utc, -, hutc⟩ := Jobs.bind_eq_ok.mp hmoment
    exact Except.ok.inj hutc ▸ hsome utc
  · split at hmoment
    · exact Except.ok.inj hmoment ▸ hnone
    · obtain ⟨midnight, -, hmidnight⟩ := Jobs.bind_eq_ok.mp hmoment
      obtain ⟨utc, -, hutc⟩ := Jobs.bind_eq_ok.mp hmidnight
      exact Except.ok.inj hutc ▸ hsome utc

/-! ### Equal keys -/

structure ListItemComponents.Agree (components others : ListItemComponents) : Prop where
  sourceCode : Alike components.sourceCode others.sourceCode
  title : Alike components.title others.title
  detailUrl : Alike components.detailUrl others.detailUrl
  publishedDate : components.publishedDate = others.publishedDate
  noticeType : components.noticeType = others.noticeType
  region : Alike components.region others.region

structure NoticeComponents.Agree (components others : NoticeComponents) : Prop where
  title : Alike components.title others.title
  publishedDate : components.publishedDate = others.publishedDate
  purchaserOrPublisher : Alike components.purchaserOrPublisher others.purchaserOrPublisher
  budgetBucket : components.budgetBucket = others.budgetBucket
  region : Alike components.region others.region
  detailLocator : Alike components.detailLocator others.detailLocator

structure LocatorComponents.Agree (components others : LocatorComponents) : Prop where
  sourceCode : Alike components.sourceCode others.sourceCode
  noticeType : components.noticeType = others.noticeType
  detailLocator : components.detailLocator = others.detailLocator

/-- A program whose result is mapped returns what its result is mapped to. -/
theorem map_eq_ok {Error Result Mapped : Type} {program : Except Error Result} {f : Result → Mapped} {mapped : Mapped} :
    program.map f = .ok mapped ↔ ∃ result, program = .ok result ∧ f result = mapped := by
  cases program with
  | error error => exact ⟨fun h ↦ (nomatch h), fun ⟨_, h, _⟩ ↦ (nomatch h)⟩
  | ok result => exact ⟨fun h ↦ ⟨result, rfl, Except.ok.inj h⟩, fun ⟨_, h, hf⟩ ↦ Except.ok.inj h ▸ congrArg _ hf⟩

/-- None of the components has a bar. -/
def BarFreeAll (components : List (Option String)) : Prop := ∀ component ∈ components, BarFree component

variable (hinjective : Function.Injective python.sha256Text) (hdate : ∀ moment, (python.isoDate moment).length = 10)

include hinjective hdate

/-- Equal fingerprints come from components that are alike, or from a collision. -/
theorem listItemComponents_agree {fields other : ListItemFields} {includeDetailLocator : Bool}
    {components others : ListItemComponents} (h : listItemComponents python fields includeDetailLocator = .ok components)
    (hother : listItemComponents python other includeDetailLocator = .ok others)
    (hkey : hashSeed python components.all = hashSeed python others.all)
    (hbars : BarFreeAll components.all ∨ BarFreeAll others.all) : components.Agree others := by
  have hlength : components.all.length = others.all.length := rfl
  have halike := alike_of_hashSeed_eq hinjective hlength hkey hbars
  unfold listItemComponents at h hother
  obtain ⟨detailUrl, -, h⟩ := Jobs.bind_eq_ok.mp h
  obtain ⟨date, hfieldsDate, h⟩ := Jobs.bind_eq_ok.mp h
  obtain ⟨otherDetailUrl, -, hother⟩ := Jobs.bind_eq_ok.mp hother
  obtain ⟨otherDate, hotherDate, hother⟩ := Jobs.bind_eq_ok.mp hother
  obtain rfl := Except.ok.inj h
  obtain rfl := Except.ok.inj hother
  simp only [ListItemComponents.all, List.forall₂_cons] at halike
  obtain ⟨hsourceCode, htitle, hdetailUrl, hpublishedDate, hnoticeType, hregion, -⟩ := halike
  exact
    { sourceCode := hsourceCode
      title := htitle
      detailUrl := hdetailUrl
      publishedDate := hpublishedDate.eq_of_plain (plain_normalizePublishedDate hdate hfieldsDate)
        (plain_normalizePublishedDate hdate hotherDate)
      noticeType := hnoticeType.eq_of_plain (plain_normalizeNoticeType _) (plain_normalizeNoticeType _)
      region := hregion }

/-- The same for the `dedup_key`. -/
theorem noticeComponents_agree {fields other : KeyFields} {includeDetailLocator : Bool}
    {components others : NoticeComponents} (h : noticeComponents python fields includeDetailLocator = .ok components)
    (hother : noticeComponents python other includeDetailLocator = .ok others)
    (hkey : hashSeed python components.all = hashSeed python others.all)
    (hbars : BarFreeAll components.all ∨ BarFreeAll others.all) : components.Agree others := by
  have hlength : components.all.length = others.all.length := rfl
  have halike := alike_of_hashSeed_eq hinjective hlength hkey hbars
  unfold noticeComponents at h hother
  obtain ⟨date, hfieldsDate, h⟩ := Jobs.bind_eq_ok.mp h
  obtain ⟨bucket, hfieldsBucket, h⟩ := Jobs.bind_eq_ok.mp h
  obtain ⟨locator, -, h⟩ := Jobs.bind_eq_ok.mp h
  obtain ⟨otherDate, hotherDate, hother⟩ := Jobs.bind_eq_ok.mp hother
  obtain ⟨otherBucket, hotherBucket, hother⟩ := Jobs.bind_eq_ok.mp hother
  obtain ⟨otherLocator, -, hother⟩ := Jobs.bind_eq_ok.mp hother
  obtain rfl := Except.ok.inj h
  obtain rfl := Except.ok.inj hother
  simp only [NoticeComponents.all, List.forall₂_cons] at halike
  obtain ⟨htitle, hpublishedDate, hparty, hbudgetBucket, hregion, hlocator, -⟩ := halike
  exact
    { title := htitle
      publishedDate := hpublishedDate.eq_of_plain (plain_normalizePublishedDate hdate hfieldsDate)
        (plain_normalizePublishedDate hdate hotherDate)
      purchaserOrPublisher := hparty
      budgetBucket := hbudgetBucket.eq_of_plain (plain_normalizeBudgetBucket hfieldsBucket)
        (plain_normalizeBudgetBucket hotherBucket)
      region := hregion
      detailLocator := hlocator }

omit hdate in
/-- The same for the key that includes the detail locator. -/
theorem locatorComponents_agree {sourceCode noticeType otherCode otherType : Value} {fields other : KeyFields}
    {components others : LocatorComponents} (h : locatorComponents python sourceCode noticeType fields = .ok (some components))
    (hother : locatorComponents python otherCode otherType other = .ok (some others))
    (hkey : hashSeed python components.all = hashSeed python others.all)
    (hbars : BarFreeAll components.all ∨ BarFreeAll others.all) : components.Agree others := by
  have hlength : components.all.length = others.all.length := rfl
  have halike := alike_of_hashSeed_eq hinjective hlength hkey hbars
  have hshown {locator : Option String} {text : String} (h : shown locator = some text) : shown (some text) = some text :=
    eq_of_shown_eq_some h ▸ h
  unfold locatorComponents at h hother
  obtain ⟨detailLocator, -, h⟩ := Jobs.bind_eq_ok.mp h
  obtain ⟨otherLocator, -, hother⟩ := Jobs.bind_eq_ok.mp hother
  obtain ⟨locator, hlocator, rfl⟩ := Option.map_eq_some_iff.mp (Except.ok.inj h)
  obtain ⟨otherText, hotherText, rfl⟩ := Option.map_eq_some_iff.mp (Except.ok.inj hother)
  simp only [LocatorComponents.all, List.forall₂_cons] at halike
  obtain ⟨hsourceCode, hnoticeType, hdetailLocator, -⟩ := halike
  refine ⟨hsourceCode, hnoticeType.eq_of_plain (plain_normalizeNoticeType _) (plain_normalizeNoticeType _), ?_⟩
  have hpresent := hshown hlocator
  have hotherPresent := hshown hotherText
  rcases hdetailLocator with heq | ⟨habsent, -⟩ | ⟨-, habsent⟩
  · rw [hpresent, hotherPresent] at heq
    exact heq
  · rw [habsent] at hpresent
    cases hpresent
  · rw [habsent] at hotherPresent
    cases hotherPresent

/-- Two inputs of one of the three builders that get the same key have components that agree, where one
of the two has no bar in any component: the text that stands for an absent component is a hyphen, and
nothing else is lost. -/
theorem equalKeys_agree :
    (∀ (fields other : KeyFields) (includeDetailLocator : Bool) (key : String),
      buildNoticeDedupKey python fields includeDetailLocator = .ok key →
      buildNoticeDedupKey python other includeDetailLocator = .ok key →
      ∃ components others, noticeComponents python fields includeDetailLocator = .ok components ∧
        noticeComponents python other includeDetailLocator = .ok others ∧
        (BarFreeAll components.all ∨ BarFreeAll others.all → components.Agree others)) ∧
    (∀ (fields other : ListItemFields) (includeDetailLocator : Bool) (key : String),
      buildSourceListItemFingerprint python fields includeDetailLocator = .ok key →
      buildSourceListItemFingerprint python other includeDetailLocator = .ok key →
      ∃ components others, listItemComponents python fields includeDetailLocator = .ok components ∧
        listItemComponents python other includeDetailLocator = .ok others ∧
        (BarFreeAll components.all ∨ BarFreeAll others.all → components.Agree others)) ∧
    ∀ (sourceCode noticeType issuer otherCode otherType otherIssuer : Value) (fields other : KeyFields)
      (components others : LocatorComponents),
      locatorComponents python sourceCode noticeType fields = .ok (some components) →
      locatorComponents python otherCode otherType other = .ok (some others) →
      buildSourceDuplicateKey python sourceCode noticeType issuer fields =
        buildSourceDuplicateKey python otherCode otherType otherIssuer other →
      (BarFreeAll components.all ∨ BarFreeAll others.all → components.Agree others) := by
  refine ⟨?_, ?_, ?_⟩
  · intro fields other includeDetailLocator key h hother
    rw [buildNoticeDedupKey_eq] at h hother
    obtain ⟨components, hcomponents, hkey⟩ := map_eq_ok.mp h
    obtain ⟨others, hothers, hotherKey⟩ := map_eq_ok.mp hother
    exact ⟨components, others, hcomponents, hothers,
      noticeComponents_agree hinjective hdate hcomponents hothers (hkey.trans hotherKey.symm)⟩
  · intro fields other includeDetailLocator key h hother
    rw [buildSourceListItemFingerprint_eq] at h hother
    obtain ⟨components, hcomponents, hkey⟩ := map_eq_ok.mp h
    obtain ⟨others, hothers, hotherKey⟩ := map_eq_ok.mp hother
    exact ⟨components, others, hcomponents, hothers,
      listItemComponents_agree hinjective hdate hcomponents hothers (hkey.trans hotherKey.symm)⟩
  · intro sourceCode noticeType issuer otherCode otherType otherIssuer fields other components others h hother hkey
    rw [buildSourceDuplicateKey_eq h, buildSourceDuplicateKey_eq hother] at hkey
    exact locatorComponents_agree hinjective h hother (Except.ok.inj hkey)

end Keys

/-! ## Two accidents -/

/-- A text between two marks: a digest from which the text can be read. -/
def marked (text : String) : String := "#" ++ text ++ "#"

theorem marked_injective : Function.Injective marked := by
  intro text other h
  have hchars := congrArg String.toList h
  simp only [marked, String.toList_append] at hchars
  exact String.toList_injective (List.append_cancel_left (List.append_cancel_right hchars))

theorem asStr_marked (text : String) : asStr (some (marked text)) = some (marked text) := by
  have hkept : stripChars (marked text).toList = (marked text).toList := by
    have hmark : isSpace '#' = false := by decide
    have hchars : (marked text).toList = '#' :: (text.toList ++ ['#']) := by
      simp [marked, String.toList_append]
    rw [hchars, stripChars, List.dropWhile_cons_of_neg (by simp [hmark]), List.reverse_cons, List.reverse_append]
    simp [hmark]
  have hnotEmpty : (marked text).toList ≠ [] := by
    simp [marked, String.toList_append]
  have hlist := asStr_ofList hkept hnotEmpty
  rwa [String.ofList_toList] at hlist

/-- Python on plain texts with digests from which the texts can be read; a date has ten characters. -/
def markingPython : Python :=
  { blankPython with
    sha256Text := marked
    asStr_sha256Text := asStr_marked
    isoDate := fun moment ↦ if (plainIsoDate moment).length = 10 then plainIsoDate moment else "0001-01-01" }

theorem length_isoDate_markingPython (moment : DateTime) : (markingPython.isoDate moment).length = 10 := by
  change (if (plainIsoDate moment).length = 10 then plainIsoDate moment else "0001-01-01").length = 10
  split
  · assumption
  · rfl

/-- The fields of a notice with a purchaser and a region. -/
def partyFields (purchaser region : Option String) : KeyFields where
  title := some (.str "road works")
  publishedAt := none
  purchaser := Value.ofText purchaser
  publisher := none
  budgetAmount := none
  region := Value.ofText region

def regionFields (region : Option String) : ListItemFields where
  sourceCode := some (.str "anhui")
  title := some (.str "road works")
  detailUrl := none
  publishedAt := none
  region := Value.ofText region

def idFields (detailId : String) : KeyFields :=
  { partyFields none none with detailId := some (.str detailId) }

/-- Two notices, one without a purchaser and one whose purchaser is a hyphen, have components that agree. -/
theorem equalKeys_agree_hyphen :
    ∃ components others, noticeComponents markingPython (partyFields none none) false = .ok components ∧
      noticeComponents markingPython (partyFields (some "-") none) false = .ok others ∧ components.Agree others := by
  obtain ⟨components, others, h, hother, hagree⟩ :=
    (equalKeys_agree marked_injective length_isoDate_markingPython).1 (partyFields none none) (partyFields (some "-") none)
      false (marked "roadworks|-|-|-|-|-") (by decide +kernel) (by decide +kernel)
  have htitle : noticeComponents markingPython (partyFields none none) false =
      .ok ⟨some "roadworks", none, none, none, none, none⟩ := by decide +kernel
  have hcomponents := Except.ok.inj (htitle.symm.trans h)
  have hbars : BarFreeAll components.all := by
    rw [← hcomponents]
    unfold BarFreeAll
    decide
  exact ⟨components, others, h, hother, hagree (Or.inl hbars)⟩

/-- A purchaser that is a hyphen is taken for none, and a bar moves from the purchaser to the region; the
other two builders lose the same. -/
theorem equalKeys_not_components :
    Function.Injective markingPython.sha256Text ∧
    (buildNoticeDedupKey markingPython (partyFields none none) false =
        buildNoticeDedupKey markingPython (partyFields (some "-") none) false ∧
      noticeComponents markingPython (partyFields none none) false ≠
        noticeComponents markingPython (partyFields (some "-") none) false) ∧
    (buildNoticeDedupKey markingPython (partyFields (some "city|-") (some "north")) false =
        buildNoticeDedupKey markingPython (partyFields (some "city") (some "-|north")) false ∧
      noticeComponents markingPython (partyFields (some "city|-") (some "north")) false ≠
        noticeComponents markingPython (partyFields (some "city") (some "-|north")) false) ∧
    (buildSourceListItemFingerprint markingPython (regionFields none) false =
        buildSourceListItemFingerprint markingPython (regionFields (some "-")) false ∧
      listItemComponents markingPython (regionFields none) false ≠
        listItemComponents markingPython (regionFields (some "-")) false) ∧
    buildSourceDuplicateKey markingPython (some (.str "anhui|announcement")) none none (idFields "7") =
        buildSourceDuplicateKey markingPython (some (.str "anhui")) none none (idFields "announcement|7") ∧
      locatorComponents markingPython (some (.str "anhui|announcement")) none (idFields "7") ≠
        locatorComponents markingPython (some (.str "anhui")) none (idFields "announcement|7") :=
  ⟨marked_injective, by decide +kernel⟩

end TenderPhase1.Crawler
