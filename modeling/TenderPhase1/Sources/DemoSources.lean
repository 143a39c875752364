import Mathlib.Data.List.MinMax
import TenderPhase1.Foundation.OrderedRows
import TenderPhase1.Sources.SourceLookup

/-!
# Seeding the demo sources

`bootstrap_demo_sources` saves five sources. A source that has the code of a seed is overwritten, and the seed of
ggzy_gov_cn_deal takes a row with a legacy code where no row has its own. What a run leaves does not depend on the
runs before it.
-/

namespace TenderPhase1.Sources

open Jobs OrderedRows

/-! ## The seeds -/

structure DemoSourceSeed where
  code : String
  name : String
  baseUrl : String
  officialUrl : String
  listUrl : String
  description : String
  isActive : Bool
  supportsJsRender : Bool
  crawlIntervalMinutes : ℤ
  defaultMaxPages : ℤ
  scheduleEnabled : Bool
  scheduleDays : ℤ
  deriving DecidableEq, Repr

def demoSourceSeeds : List DemoSourceSeed :=
  [{ code := "anhui_ggzy_zfcg"
     name := "安徽省公共资源交易监管网（政府采购）"
     baseUrl := "https://ggzy.ah.gov.cn/"
     officialUrl := "https://ggzy.ah.gov.cn/"
     listUrl := "https://ggzy.ah.gov.cn/zfcg/list?bulletinNature=1&time=1"
     description := "Phase-3 主样板来源（已实现可运行抓取）"
     isActive := true
     supportsJsRender := false
     crawlIntervalMinutes := 1440
     defaultMaxPages := 50
     scheduleEnabled := true
     scheduleDays := 1 },
   { code := "ccgp_gov_cn"
     name := "中国政府采购网"
     baseUrl := "https://www.ccgp.gov.cn/"
     officialUrl := "https://www.ccgp.gov.cn/"
     listUrl := "https://search.ccgp.gov.cn/bxsearch"
     description := "Phase-3 扩展来源占位（待接入可运行 parser）"
     isActive := false
     supportsJsRender := false
     crawlIntervalMinutes := 1440
     defaultMaxPages := 50
     scheduleEnabled := false
     scheduleDays := 1 },
   { code := "ggzy_gov_cn_deal"
     name := "全国公共资源交易平台（政府采购）"
     baseUrl := "https://www.ggzy.gov.cn/"
     officialUrl := "https://www.ggzy.gov.cn/"
     listUrl := "https://www.ggzy.gov.cn/deal/dealList.html?HEADER_DEAL_TYPE=02"
     description := "Phase-3 可运行来源（政府采购聚合，支持源级去重）"
     isActive := true
     supportsJsRender := false
     crawlIntervalMinutes := 1440
     defaultMaxPages := 50
     scheduleEnabled := false
     scheduleDays := 1 },
   { code := "ccgp_hubei"
     name := "湖北省政府采购网/公共资源交易平台"
     baseUrl := "https://www.ccgp-hubei.gov.cn/"
     officialUrl := "https://www.ccgp-hubei.gov.cn/"
     listUrl := "https://www.ccgp-hubei.gov.cn/notice.html"
     description := "Phase-3 扩展来源占位（待接入可运行 parser）"
     isActive := false
     supportsJsRender := false
     crawlIntervalMinutes := 1440
     defaultMaxPages := 50
     scheduleEnabled := false
     scheduleDays := 1 },
   { code := "ccgp_jiangsu"
     name := "江苏政府采购网"
     baseUrl := "https://www.ccgp-jiangsu.gov.cn/"
     officialUrl := "https://www.ccgp-jiangsu.gov.cn/"
     listUrl := "https://www.ccgp-jiangsu.gov.cn/home/list"
     description := "Phase-3 扩展来源占位（待接入可运行 parser）"
     isActive := false
     supportsJsRender := false
     crawlIntervalMinutes := 1440
     defaultMaxPages := 50
     scheduleEnabled := false
     scheduleDays := 1 }]

/-- The code whose seed takes over a legacy row -/
def dealCode : String := "ggzy_gov_cn_deal"

def legacyCodes : List String := ["ggzy_gov_cn", "2"]

/-- The id of a new row, from the ids of the rows there are. -/
structure IdSupply where
  next : List ℕ → ℕ
  next_fresh : ∀ ids, next ids ∉ ids

theorem maximum_succ_notMem (ids : List ℕ) : ids.max?.getD 0 + 1 ∉ ids := by
  intro hmem
  cases hmax : ids.max? with
  | none =>
    rw [List.max?_eq_none_iff.mp hmax] at hmem
    exact absurd hmem List.not_mem_nil
  | some greatest =>
    have hle : ids.max?.getD 0 + 1 ≤ greatest := (List.max?_eq_some_iff.mp hmax).2 _ hmem
    rw [hmax, Option.getD_some] at hle
    omega

/-- `_model_create_kwargs` on SQLite; another database gives the id of its sequence. -/
def sqliteIds : IdSupply where
  next ids := ids.max?.getD 0 + 1
  next_fresh := maximum_succ_notMem

/-! ## A run -/

namespace DemoSourceSeed

/-- The assignments to a source, its next run among them. -/
def write (seed : DemoSourceSeed) (now : Instant) (source : SourceSite) : SourceSite :=
  { source with
    code := seed.code
    name := seed.name
    baseUrl := seed.baseUrl
    officialUrl := seed.officialUrl
    listUrl := seed.listUrl
    description := some seed.description
    isActive := seed.isActive
    supportsJsRender := seed.supportsJsRender
    crawlIntervalMinutes := seed.crawlIntervalMinutes
    defaultMaxPages := seed.defaultMaxPages
    scheduleEnabled := seed.scheduleEnabled
    scheduleDays := seed.scheduleDays
    nextScheduledRunAt := calculateNextScheduledRun seed.scheduleEnabled seed.scheduleDays seed.isActive now }

/-- A new row before the assignments. -/
def newSource (seed : DemoSourceSeed) (id : ℕ) : SourceSite where
  id := id
  code := seed.code
  name := seed.name
  baseUrl := seed.baseUrl

@[simp] theorem write_id (seed : DemoSourceSeed) (now : Instant) (source : SourceSite) :
    (seed.write now source).id = source.id := rfl

@[simp] theorem write_code (seed : DemoSourceSeed) (now : Instant) (source : SourceSite) :
    (seed.write now source).code = seed.code := rfl

/-- Every column that a seed writes is written by each. -/
@[simp] theorem write_write (seed before : DemoSourceSeed) (now earlier : Instant) (source : SourceSite) :
    seed.write now (before.write earlier source) = seed.write now source := rfl

end DemoSourceSeed

/-- The row with the least id among those that have a legacy code. -/
def legacySource (rows : List SourceSite) : Option SourceSite :=
  (orderBy [SortKey.on compare SourceSite.id] (rows.filter fun row ↦ legacyCodes.contains row.code)).head?

def sourceOfSeed (table : SourceTable) (seed : DemoSourceSeed) : Option SourceSite :=
  match table.getModelByCode seed.code with
  | some source => some source
  | none => if seed.code = dealCode then legacySource table.rows else none

section Run

-- `clock`: when the next run of each seed is computed.
variable (supply : IdSupply) (clock : DemoSourceSeed → Instant)

def savedSource (table : SourceTable) (seed : DemoSourceSeed) : SourceSite :=
  seed.write (clock seed)
    ((sourceOfSeed table seed).getD (seed.newSource (supply.next (table.rows.map SourceSite.id))))

def savedRows (table : SourceTable) (seed : DemoSourceSeed) : List SourceSite :=
  match sourceOfSeed table seed with
  | some source => table.rows.map fun row ↦ if row.id = source.id then seed.write (clock seed) row else row
  | none => table.rows ++ [savedSource supply clock table seed]

section Steps

variable {supply : IdSupply} {clock : DemoSourceSeed → Instant} {table : SourceTable} {seed other : DemoSourceSeed}
  {row source : SourceSite} {code : String}

theorem mem_of_legacySource {rows : List SourceSite} (h : legacySource rows = some source) :
    source ∈ rows ∧ source.code ∈ legacyCodes := by
  have hmem := List.mem_filter.mp (mem_orderBy.mp (List.mem_of_head? h))
  exact ⟨hmem.1, by simpa using hmem.2⟩

/-- A seed takes the row with its code, or a legacy row where there is none. -/
theorem of_sourceOfSeed (h : sourceOfSeed table seed = some source) :
    source ∈ table.rows ∧ (source.code = seed.code ∨
      source.code ∈ legacyCodes ∧ seed.code = dealCode ∧ table.getModelByCode seed.code = none) := by
  unfold sourceOfSeed at h
  cases hfound : table.getModelByCode seed.code with
  | some found =>
    rw [hfound] at h
    obtain rfl := Option.some.inj h
    obtain ⟨hmem, hcode⟩ := SourceTable.mem_of_getModelByCode hfound
    exact ⟨hmem, Or.inl hcode⟩
  | none =>
    simp only [hfound] at h
    split_ifs at h with hdeal
    obtain ⟨hmem, hlegacy⟩ := mem_of_legacySource h
    exact ⟨hmem, Or.inr ⟨hlegacy, hdeal, rfl⟩⟩

/-- The source that is taken is the one row with its id. -/
theorem eq_of_taken (h : sourceOfSeed table seed = some source) (hrow : row ∈ table.rows) (hid : row.id = source.id) :
    row = source :=
  List.inj_on_of_nodup_map table.ids_nodup hrow (of_sourceOfSeed h).1 hid

theorem savedSource_of_some (h : sourceOfSeed table seed = some source) :
    savedSource supply clock table seed = seed.write (clock seed) source := by
  rw [savedSource, h, Option.getD_some]

theorem savedSource_of_none (h : sourceOfSeed table seed = none) :
    savedSource supply clock table seed =
      seed.write (clock seed) (seed.newSource (supply.next (table.rows.map SourceSite.id))) := by
  rw [savedSource, h, Option.getD_none]

theorem savedRows_of_some (h : sourceOfSeed table seed = some source) : savedRows supply clock table seed =
    table.rows.map fun row ↦ if row.id = source.id then seed.write (clock seed) row else row := by
  rw [savedRows, h]

@[simp] theorem savedSource_code : (savedSource supply clock table seed).code = seed.code := rfl

variable (supply clock) in
/-- A new source has an id that no row has. -/
theorem savedSource_id_notMem (h : sourceOfSeed table seed = none) :
    (savedSource supply clock table seed).id ∉ table.rows.map SourceSite.id := by
  rw [savedSource_of_none h]
  exact supply.next_fresh (table.rows.map SourceSite.id)

/-- After a seed the table holds its source and the rows with other ids. -/
theorem mem_savedRows : row ∈ savedRows supply clock table seed ↔
    row = savedSource supply clock table seed ∨
      row ∈ table.rows ∧ row.id ≠ (savedSource supply clock table seed).id := by
  unfold savedRows
  cases h : sourceOfSeed table seed with
  | none =>
    have hfresh := savedSource_id_notMem supply clock h
    have hne (hrow : row ∈ table.rows) : row.id ≠ (savedSource supply clock table seed).id := fun hid ↦
      hfresh (hid ▸ List.mem_map_of_mem hrow)
    rw [List.mem_append, List.mem_singleton, or_comm]
    exact or_congr_right ⟨fun hrow ↦ ⟨hrow, hne hrow⟩, And.left⟩
  | some source =>
    rw [savedSource_of_some h, List.mem_map, DemoSourceSeed.write_id]
    constructor
    · rintro ⟨original, horiginal, rfl⟩
      split_ifs with hid
      · rw [eq_of_taken h horiginal hid]
        exact Or.inl rfl
      · exact Or.inr ⟨horiginal, hid⟩
    · rintro (rfl | ⟨hrow, hid⟩)
      · exact ⟨source, (of_sourceOfSeed h).1, if_pos rfl⟩
      · exact ⟨row, hrow, if_neg hid⟩

theorem map_id_savedRows_of_some (h : sourceOfSeed table seed = some source) :
    (savedRows supply clock table seed).map SourceSite.id = table.rows.map SourceSite.id := by
  rw [savedRows, h, List.map_map]
  refine List.map_congr_left fun row _ ↦ ?_
  rw [Function.comp_apply]
  split_ifs
  · exact DemoSourceSeed.write_id seed _ row
  · rfl

variable (supply clock table seed) in
/-- The ids stay in place, and a new one comes last. -/
theorem map_id_savedRows : ∃ created, (savedRows supply clock table seed).map SourceSite.id =
    table.rows.map SourceSite.id ++ created := by
  cases h : sourceOfSeed table seed with
  | some source => exact ⟨[], (map_id_savedRows_of_some h).trans (List.append_nil _).symm⟩
  | none =>
    refine ⟨[(savedSource supply clock table seed).id], ?_⟩
    rw [savedRows, h, List.map_append, List.map_singleton]

theorem ids_nodup_savedRows : ((savedRows supply clock table seed).map SourceSite.id).Nodup := by
  cases h : sourceOfSeed table seed with
  | some source => exact (map_id_savedRows_of_some h).symm ▸ table.ids_nodup
  | none =>
    rw [savedRows, h, List.map_append, List.map_singleton]
    exact List.Nodup.append table.ids_nodup (List.nodup_singleton _)
      (List.disjoint_singleton.mpr (savedSource_id_notMem supply clock h))

/-- A row that stays has another code than the seed. -/
theorem code_ne_of_kept (hrow : row ∈ table.rows) (hid : row.id ≠ (savedSource supply clock table seed).id) :
    row.code ≠ seed.code := by
  intro hcode
  have hfound : table.getModelByCode seed.code = some row := hcode ▸ SourceTable.getModelByCode_of_mem hrow
  have htaken : sourceOfSeed table seed = some row := by rw [sourceOfSeed, hfound]
  rw [savedSource_of_some htaken] at hid
  exact hid rfl

theorem codes_nodup_savedRows : ((savedRows supply clock table seed).map SourceSite.code).Nodup := by
  refine (List.Nodup.of_map _ ids_nodup_savedRows).map_on ?_
  intro first hfirst second hsecond hcodes
  rcases mem_savedRows.mp hfirst with rfl | ⟨hfirstMem, hfirstId⟩
  · rcases mem_savedRows.mp hsecond with rfl | ⟨hsecondMem, hsecondId⟩
    · rfl
    · exact absurd hcodes.symm (code_ne_of_kept hsecondMem hsecondId)
  · rcases mem_savedRows.mp hsecond with rfl | ⟨hsecondMem, hsecondId⟩
    · exact absurd hcodes (code_ne_of_kept hfirstMem hfirstId)
    · exact List.inj_on_of_nodup_map table.codes_nodup hfirstMem hsecondMem hcodes

end Steps

/-- One turn of the loop. -/
def saveSeed (table : SourceTable) (seed : DemoSourceSeed) : SourceTable :=
  ⟨savedRows supply clock table seed, ids_nodup_savedRows, codes_nodup_savedRows⟩

/-- The loop, which keeps the ids of the sources that it saves. -/
def saveSeeds (state : SourceTable × List ℕ) (seeds : List DemoSourceSeed) : SourceTable × List ℕ :=
  seeds.foldl (fun state seed ↦ (saveSeed supply clock state.1 seed,
    state.2 ++ [(savedSource supply clock state.1 seed).id])) state

/-- `bootstrap_demo_sources`; the sources are read again once they are committed. -/
def bootstrapDemoSources (table : SourceTable) : SourceTable × List SourceSite :=
  let saved := saveSeeds supply clock (table, []) demoSourceSeeds
  (saved.1, saved.2.filterMap saved.1.find)

end Run

/-! ## Lookups after a run -/

section Lookups

variable {supply : IdSupply} {clock : DemoSourceSeed → Instant} {table : SourceTable} {seed other : DemoSourceSeed}
  {seeds : List DemoSourceSeed} {row source : SourceSite} {code : String}

theorem getModelByCode_eq_some_iff : table.getModelByCode code = some row ↔ row ∈ table.rows ∧ row.code = code := by
  constructor
  · exact SourceTable.mem_of_getModelByCode
  · rintro ⟨hmem, rfl⟩
    exact SourceTable.getModelByCode_of_mem hmem

/-- A row that is not taken keeps its id from the saved source. -/
theorem id_ne_savedSource (hrow : row ∈ table.rows) (hother : sourceOfSeed table seed ≠ some row) :
    row.id ≠ (savedSource supply clock table seed).id := by
  intro hid
  cases h : sourceOfSeed table seed with
  | none =>
    have hmem : row.id ∈ table.rows.map SourceSite.id := List.mem_map_of_mem hrow
    exact savedSource_id_notMem supply clock h (hid ▸ hmem)
  | some source =>
    rw [savedSource_of_some h] at hid
    rw [eq_of_taken h hrow hid] at hother
    exact hother h

/-- A seed changes the lookups of its own code and of the code of the row that it takes. -/
theorem getModelByCode_saveSeed : (saveSeed supply clock table seed).getModelByCode code =
    if code = seed.code then some (savedSource supply clock table seed)
    else if (sourceOfSeed table seed).map SourceSite.code = some code then none
    else table.getModelByCode code := by
  split_ifs with hself htaken
  · exact getModelByCode_eq_some_iff.mpr ⟨mem_savedRows.mpr (Or.inl rfl), hself.symm⟩
  · obtain ⟨source, hsource, rfl⟩ := Option.map_eq_some_iff.mp htaken
    rw [Option.eq_none_iff_forall_ne_some]
    intro row hrow
    obtain ⟨hmem, hcode⟩ := getModelByCode_eq_some_iff.mp hrow
    rcases mem_savedRows.mp hmem with rfl | ⟨hkept, hid⟩
    · exact hself hcode.symm
    · rw [savedSource_of_some hsource, DemoSourceSeed.write_id] at hid
      exact hid (congrArg SourceSite.id
        (List.inj_on_of_nodup_map table.codes_nodup hkept (of_sourceOfSeed hsource).1 hcode))
  · ext row
    rw [getModelByCode_eq_some_iff, getModelByCode_eq_some_iff]
    constructor
    · rintro ⟨hmem, rfl⟩
      rcases mem_savedRows.mp hmem with rfl | ⟨hkept, -⟩
      · exact absurd rfl hself
      · exact ⟨hkept, rfl⟩
    · rintro ⟨hmem, rfl⟩
      have hother : sourceOfSeed table seed ≠ some row := fun h ↦ htaken (h ▸ rfl)
      exact ⟨mem_savedRows.mpr (Or.inr ⟨hmem, id_ne_savedSource hmem hother⟩), rfl⟩

/-- The code of a taken row is the code of the seed or a legacy code. -/
theorem code_of_sourceOfSeed (h : (sourceOfSeed table seed).map SourceSite.code = some code) :
    code = seed.code ∨ code ∈ legacyCodes ∧ seed.code = dealCode := by
  obtain ⟨source, hsource, rfl⟩ := Option.map_eq_some_iff.mp h
  rcases (of_sourceOfSeed hsource).2 with hcode | ⟨hlegacy, hdeal, -⟩
  · exact Or.inl hcode
  · exact Or.inr ⟨hlegacy, hdeal⟩

/-- Only the seed of the deal code takes a legacy row. -/
theorem legacySource_savedRows (hseed : seed.code ∉ legacyCodes) (hdeal : seed.code ≠ dealCode) :
    legacySource (savedRows supply clock table seed) = legacySource table.rows := by
  have hnot : legacyCodes.contains seed.code = false := by simpa using hseed
  unfold legacySource savedRows
  congr 2
  cases h : sourceOfSeed table seed with
  | none =>
    dsimp only
    rw [List.filter_append, List.filter_singleton, savedSource_code, hnot, cond_false, List.append_nil]
  | some source =>
    have hsource : source.code = seed.code := by
      rcases (of_sourceOfSeed h).2 with hcode | ⟨-, hcode, -⟩
      · exact hcode
      · exact absurd hcode hdeal
    have hrow (row : SourceSite) (hrow : row ∈ table.rows) (hid : row.id = source.id) : row.code = seed.code := by
      rw [eq_of_taken h hrow hid, hsource]
    dsimp only
    rw [List.filter_map]
    calc (table.rows.filter ((fun row ↦ legacyCodes.contains row.code) ∘ fun row ↦
            if row.id = source.id then seed.write (clock seed) row else row)).map
          (fun row ↦ if row.id = source.id then seed.write (clock seed) row else row)
        = (table.rows.filter fun row ↦ legacyCodes.contains row.code).map
          (fun row ↦ if row.id = source.id then seed.write (clock seed) row else row) := by
          congr 1
          refine List.filter_congr fun row hmem ↦ ?_
          rw [Function.comp_apply]
          split_ifs with hid
          · rw [DemoSourceSeed.write_code, hrow row hmem hid]
          · rfl
      _ = table.rows.filter fun row ↦ legacyCodes.contains row.code := by
          refine (List.map_congr_left fun row hmem ↦ if_neg fun hid ↦ ?_).trans (List.map_id _)
          obtain ⟨hmem, hlegacy⟩ := List.mem_filter.mp hmem
          rw [hrow row hmem hid, hnot] at hlegacy
          exact absurd hlegacy Bool.false_ne_true

/-- A seed does not change what another one takes. -/
theorem sourceOfSeed_saveSeed (hseed : seed.code ∉ legacyCodes) (hother : other.code ∉ legacyCodes)
    (hne : other.code ≠ seed.code) : sourceOfSeed (saveSeed supply clock table seed) other = sourceOfSeed table other := by
  have hfound : (saveSeed supply clock table seed).getModelByCode other.code = table.getModelByCode other.code := by
    rw [getModelByCode_saveSeed, if_neg hne, if_neg]
    intro htaken
    rcases code_of_sourceOfSeed htaken with hcode | ⟨hlegacy, -⟩
    · exact hne hcode
    · exact hother hlegacy
  unfold sourceOfSeed
  rw [hfound]
  cases table.getModelByCode other.code with
  | some source => rfl
  | none =>
    dsimp only
    split_ifs with hdeal
    · exact legacySource_savedRows hseed fun h ↦ hne (hdeal.trans h.symm)
    · rfl

/-- Seeds with different codes, none of them a legacy code. -/
structure Separate (seeds : List DemoSourceSeed) : Prop where
  codes_nodup : (seeds.map DemoSourceSeed.code).Nodup
  not_legacy : ∀ seed ∈ seeds, seed.code ∉ legacyCodes

theorem Separate.tail (h : Separate (seed :: seeds)) : Separate seeds :=
  ⟨(List.nodup_cons.mp h.codes_nodup).2, fun other hother ↦ h.not_legacy other (List.mem_cons_of_mem seed hother)⟩

theorem Separate.code_ne (h : Separate (seed :: seeds)) (hother : other ∈ seeds) : other.code ≠ seed.code := fun hcode ↦
  (List.nodup_cons.mp h.codes_nodup).1 (hcode ▸ List.mem_map_of_mem hother)

theorem Separate.sourceOfSeed_eq (h : Separate (seed :: seeds)) (hother : other ∈ seeds) :
    sourceOfSeed (saveSeed supply clock table seed) other = sourceOfSeed table other :=
  sourceOfSeed_saveSeed (h.not_legacy seed List.mem_cons_self) (h.tail.not_legacy other hother) (h.code_ne hother)

theorem saveSeeds_cons (state : SourceTable × List ℕ) : saveSeeds supply clock state (seed :: seeds) =
    saveSeeds supply clock (saveSeed supply clock state.1 seed,
      state.2 ++ [(savedSource supply clock state.1 seed).id]) seeds := rfl

/-- The code of no seed leads to the row that it led to, unless a seed takes that row. -/
theorem getModelByCode_saveSeeds (h : Separate seeds) (hcode : code ∉ seeds.map DemoSourceSeed.code) (ids : List ℕ) :
    (saveSeeds supply clock (table, ids) seeds).1.getModelByCode code =
      if ∃ seed ∈ seeds, (sourceOfSeed table seed).map SourceSite.code = some code then none
      else table.getModelByCode code := by
  induction seeds generalizing table ids with
  | nil => simp [saveSeeds]
  | cons seed seeds ih =>
    obtain ⟨hhead, htail⟩ := not_or.mp (mt List.mem_cons.mpr hcode)
    have hrest : (∃ other ∈ seeds, (sourceOfSeed (saveSeed supply clock table seed) other).map SourceSite.code = some code) ↔
        ∃ other ∈ seeds, (sourceOfSeed table other).map SourceSite.code = some code :=
      exists_congr fun other ↦ and_congr_right fun hother ↦ by rw [h.sourceOfSeed_eq hother]
    rw [saveSeeds_cons, ih h.tail htail, if_congr hrest rfl rfl, getModelByCode_saveSeed, if_neg hhead]
    by_cases hnow : (sourceOfSeed table seed).map SourceSite.code = some code <;>
      by_cases hlater : ∃ other ∈ seeds, (sourceOfSeed table other).map SourceSite.code = some code <;>
      simp only [List.exists_mem_cons_iff, hnow, hlater, true_or, or_true, or_self, if_true, if_false]

/-- The row that a seed finds or makes, in terms of the table before the run. -/
def BaseRow (table : SourceTable) (seed : DemoSourceSeed) (base : SourceSite) : Prop :=
  sourceOfSeed table seed = some base ∨
    sourceOfSeed table seed = none ∧ ∃ id ∉ table.rows.map SourceSite.id, base = seed.newSource id

variable (supply clock table seed) in
theorem exists_savedSource : ∃ base, BaseRow table seed base ∧
    savedSource supply clock table seed = seed.write (clock seed) base := by
  cases h : sourceOfSeed table seed with
  | some source => exact ⟨source, Or.inl h, savedSource_of_some h⟩
  | none => exact ⟨_, Or.inr ⟨h, _, supply.next_fresh _, rfl⟩, savedSource_of_none h⟩

variable (supply clock table) in
/-- The seeds after one leave its source as it is. -/
theorem Separate.getModelByCode_head (h : Separate (seed :: seeds)) (ids : List ℕ) :
    (saveSeeds supply clock (table, ids) (seed :: seeds)).1.getModelByCode seed.code =
      some (savedSource supply clock table seed) := by
  rw [saveSeeds_cons, getModelByCode_saveSeeds h.tail (List.nodup_cons.mp h.codes_nodup).1, if_neg,
    getModelByCode_saveSeed, if_pos rfl]
  rintro ⟨other, hother, htaken⟩
  rcases code_of_sourceOfSeed htaken with hcode | ⟨hlegacy, -⟩
  · exact h.code_ne hother hcode.symm
  · exact h.not_legacy seed List.mem_cons_self hlegacy

variable (supply clock table) in
/-- The code of each seed leads to its source. -/
theorem exists_getModelByCode_saveSeeds (h : Separate seeds) (hseed : seed ∈ seeds) (ids : List ℕ) :
    ∃ base, BaseRow table seed base ∧
      (saveSeeds supply clock (table, ids) seeds).1.getModelByCode seed.code = some (seed.write (clock seed) base) := by
  induction seeds generalizing table ids with
  | nil => exact absurd hseed List.not_mem_nil
  | cons head seeds ih =>
    rcases List.mem_cons.mp hseed with rfl | hrest
    · obtain ⟨base, hbase, hsaved⟩ := exists_savedSource supply clock table seed
      exact ⟨base, hbase, hsaved ▸ h.getModelByCode_head supply clock table ids⟩
    · obtain ⟨base, hbase, hfound⟩ := ih (saveSeed supply clock table head) h.tail hrest
        (ids ++ [(savedSource supply clock table head).id])
      refine ⟨base, ?_, hfound⟩
      rw [BaseRow, h.sourceOfSeed_eq hrest] at hbase
      refine hbase.imp_right fun ⟨hnone, id, hid, hnew⟩ ↦ ⟨hnone, id, ?_, hnew⟩
      obtain ⟨created, hids⟩ := map_id_savedRows supply clock table head
      intro hmem
      exact hid (hids ▸ List.mem_append_left created hmem)

variable (supply clock table) in
/-- The sources that a run returns, in the order of the seeds. -/
theorem find_saveSeeds (h : Separate seeds) (ids : List ℕ) :
    ∃ saved, (saveSeeds supply clock (table, ids) seeds).2 = ids ++ saved ∧
      saved.map (saveSeeds supply clock (table, ids) seeds).1.find =
        seeds.map fun seed ↦ (saveSeeds supply clock (table, ids) seeds).1.getModelByCode seed.code := by
  induction seeds generalizing table ids with
  | nil => exact ⟨[], (List.append_nil ids).symm, rfl⟩
  | cons seed seeds ih =>
    obtain ⟨saved, hsaved, hfind⟩ := ih (saveSeed supply clock table seed) h.tail
      (ids ++ [(savedSource supply clock table seed).id])
    have hhead := h.getModelByCode_head supply clock table ids
    refine ⟨(savedSource supply clock table seed).id :: saved, ?_, ?_⟩
    · rw [saveSeeds_cons, hsaved, List.append_assoc, List.singleton_append]
    · have hmem := (getModelByCode_eq_some_iff.mp hhead).1
      rw [List.map_cons, List.map_cons, hhead]
      exact congrArg₂ List.cons (SourceTable.find_eq_some_iff.mpr ⟨hmem, rfl⟩) hfind

end Lookups

/-! ## Runs one after the other -/

/-- What a run makes of a row that has the code of a seed already. -/
def rewritten (clock : DemoSourceSeed → Instant) (seeds : List DemoSourceSeed) (row : SourceSite) : SourceSite :=
  seeds.foldl (fun row seed ↦ if row.code = seed.code then seed.write (clock seed) row else row) row

section Runs

variable {supply : IdSupply} {clock earlier : DemoSourceSeed → Instant} {table before : SourceTable}
  {seed : DemoSourceSeed} {seeds : List DemoSourceSeed}

/-- A change of the columns that the seeds write, the code apart. -/
structure Overwritten (change : SourceSite → SourceSite) : Prop where
  id_eq : ∀ row, (change row).id = row.id
  code_eq : ∀ row, (change row).code = row.code
  write_eq : ∀ (seed : DemoSourceSeed) now row, seed.write now (change row) = seed.write now row

variable {change : SourceSite → SourceSite}

theorem overwritten_id : Overwritten fun row ↦ row := ⟨fun _ ↦ rfl, fun _ ↦ rfl, fun _ _ _ ↦ rfl⟩

theorem Overwritten.next (h : Overwritten change) (clock : DemoSourceSeed → Instant) (seed : DemoSourceSeed) :
    Overwritten fun row ↦ if (change row).code = seed.code then seed.write (clock seed) (change row) else change row := by
  refine ⟨fun row ↦ ?_, fun row ↦ ?_, fun other now row ↦ ?_⟩ <;> split_ifs with hcode
  · exact h.id_eq row
  · exact h.id_eq row
  · exact hcode.symm.trans (h.code_eq row)
  · exact h.code_eq row
  · exact h.write_eq other now row
  · exact h.write_eq other now row

theorem map_id_of_overwritten (h : Overwritten change) (rows : List SourceSite) :
    (rows.map change).map SourceSite.id = rows.map SourceSite.id := by
  rw [List.map_map]
  exact List.map_congr_left fun row _ ↦ h.id_eq row

theorem legacySource_map (h : Overwritten change) (rows : List SourceSite) :
    legacySource (rows.map change) = (legacySource rows).map change := by
  have hfilter : (rows.map change).filter (fun row ↦ legacyCodes.contains row.code) =
      (rows.filter fun row ↦ legacyCodes.contains row.code).map change := by
    rw [List.filter_map]
    congr 1
    refine List.filter_congr fun row _ ↦ ?_
    rw [Function.comp_apply, h.code_eq]
  unfold legacySource orderBy
  rw [hfilter, ← List.head?_map]
  congr 1
  symm
  refine List.map_mergeSort fun a _ b _ ↦ ?_
  simp only [compareBy, compareLex, SortKey.on, h.id_eq]

/-- A seed takes the same row of tables that differ in what the seeds write. -/
theorem sourceOfSeed_map (h : Overwritten change) (hrows : table.rows = before.rows.map change) :
    sourceOfSeed table seed = (sourceOfSeed before seed).map change := by
  have hfound : table.getModelByCode seed.code = (before.getModelByCode seed.code).map change := by
    unfold SourceTable.getModelByCode
    rw [hrows, List.find?_map]
    congr 2
    funext row
    rw [Function.comp_apply, h.code_eq]
  unfold sourceOfSeed
  rw [hfound]
  cases before.getModelByCode seed.code with
  | some source => rfl
  | none =>
    rw [Option.map_none]
    dsimp only
    rw [hrows, legacySource_map h]
    split_ifs <;> rfl

/-- One turn of the loop on such tables leaves such tables. -/
theorem rows_saveSeed_map (h : Overwritten change) (hrows : table.rows = before.rows.map change) :
    (saveSeed supply clock table seed).rows = (saveSeed supply earlier before seed).rows.map fun row ↦
      if (change row).code = seed.code then seed.write (clock seed) (change row) else change row := by
  have htaken : sourceOfSeed table seed = (sourceOfSeed before seed).map change := sourceOfSeed_map h hrows
  unfold saveSeed savedRows savedSource
  dsimp only
  cases hsource : sourceOfSeed before seed with
  | some source =>
    rw [htaken, hsource, Option.map_some]
    dsimp only
    rw [hrows, List.map_map, List.map_map]
    refine List.map_congr_left fun row hrow ↦ ?_
    rw [Function.comp_apply, Function.comp_apply, h.id_eq, h.id_eq, h.code_eq]
    split_ifs with hid hcode hcode
    · rw [h.write_eq, h.write_eq, DemoSourceSeed.write_write]
    · exact absurd rfl hcode
    · have hself : sourceOfSeed before seed = some row := by
        rw [sourceOfSeed, getModelByCode_eq_some_iff.mpr ⟨hrow, hcode⟩]
      exact absurd (congrArg SourceSite.id (Option.some.inj (hself.symm.trans hsource))) hid
    · rfl
  | none =>
    rw [htaken, hsource, Option.map_none]
    dsimp only
    rw [Option.getD_none, Option.getD_none, hrows, map_id_of_overwritten h, List.map_append, List.map_singleton]
    congr 1
    · refine List.map_congr_left fun row hrow ↦ ?_
      rw [h.code_eq, if_neg]
      intro hcode
      have hself : sourceOfSeed before seed = some row := by
        rw [sourceOfSeed, getModelByCode_eq_some_iff.mpr ⟨hrow, hcode⟩]
      exact absurd (hself.symm.trans hsource) (Option.some_ne_none row)
    · rw [h.code_eq, DemoSourceSeed.write_code, if_pos rfl, h.write_eq, DemoSourceSeed.write_write]

/-- A run after another one, when it started from the same rows up to what the seeds write. -/
theorem rows_saveSeeds_map (h : Overwritten change) (hrows : table.rows = before.rows.map change) (ids others : List ℕ) :
    (saveSeeds supply clock (table, ids) seeds).1.rows =
      (saveSeeds supply earlier (before, others) seeds).1.rows.map fun row ↦ rewritten clock seeds (change row) := by
  induction seeds generalizing table before change ids others with
  | nil => exact hrows
  | cons seed seeds ih => exact ih (h.next clock seed) (rows_saveSeed_map h hrows) _ _

/-- A table that has a row for each of the seeds. -/
theorem rows_saveSeeds_of_codes (hcodes : ∀ seed ∈ seeds, seed.code ∈ table.rows.map SourceSite.code) (ids : List ℕ) :
    (saveSeeds supply clock (table, ids) seeds).1.rows = table.rows.map (rewritten clock seeds) := by
  induction seeds generalizing table ids with
  | nil => exact (List.map_id _).symm
  | cons seed seeds ih =>
    obtain ⟨source, hsource, hcode⟩ := List.mem_map.mp (hcodes seed List.mem_cons_self)
    have htaken : sourceOfSeed table seed = some source := by
      rw [sourceOfSeed, getModelByCode_eq_some_iff.mpr ⟨hsource, hcode⟩]
    have hsaved : (saveSeed supply clock table seed).rows =
        table.rows.map fun row ↦ if row.code = seed.code then seed.write (clock seed) row else row := by
      refine (savedRows_of_some htaken).trans ?_
      refine List.map_congr_left fun row hrow ↦ if_congr ⟨fun hid ↦ ?_, fun hrowCode ↦ ?_⟩ rfl rfl
      · rw [eq_of_taken htaken hrow hid, hcode]
      · rw [List.inj_on_of_nodup_map table.codes_nodup hrow hsource (hrowCode.trans hcode.symm)]
    have hkept : (saveSeed supply clock table seed).rows.map SourceSite.code = table.rows.map SourceSite.code := by
      rw [hsaved, List.map_map]
      exact List.map_congr_left fun row _ ↦ (overwritten_id.next clock seed).code_eq row
    rw [saveSeeds_cons, ih, hsaved, List.map_map]
    · rfl
    · intro other hother
      rw [hkept]
      exact hcodes other (List.mem_cons_of_mem seed hother)

theorem eq_of_rows_eq (h : table.rows = before.rows) : table = before := by
  cases table
  cases before
  exact (SourceTable.mk.injEq ..).mpr h

theorem separate_demoSourceSeeds : Separate demoSourceSeeds := ⟨by decide, by decide⟩

/-- A source is active where its crawler exists. -/
theorem isActive_eq_isSome_getSourceAdapter :
    ∀ seed ∈ demoSourceSeeds, seed.isActive = (getSourceAdapter seed.code).isSome := by
  decide +kernel

/-- The sources that a run returns are those of the seeds, in their order. -/
theorem bootstrapDemoSources_snd : (bootstrapDemoSources supply clock table).2.map some =
    demoSourceSeeds.map fun seed ↦ (bootstrapDemoSources supply clock table).1.getModelByCode seed.code := by
  obtain ⟨saved, hsaved, hfind⟩ := find_saveSeeds supply clock table separate_demoSourceSeeds []
  have hsome : ∀ found ∈ saved.map (saveSeeds supply clock (table, []) demoSourceSeeds).1.find, found ≠ none := by
    rw [hfind]
    intro found hmem
    obtain ⟨seed, hseed, rfl⟩ := List.mem_map.mp hmem
    obtain ⟨base, -, hfound⟩ := exists_getModelByCode_saveSeeds supply clock table separate_demoSourceSeeds hseed []
    exact hfound ▸ Option.some_ne_none _
  refine Eq.trans ?_ hfind
  unfold bootstrapDemoSources
  dsimp only
  rw [hsaved, List.nil_append]
  clear hsaved hfind
  induction saved with
  | nil => rfl
  | cons id saved ih =>
    obtain ⟨source, hsource⟩ := Option.ne_none_iff_exists'.mp (hsome _ List.mem_cons_self)
    rw [List.filterMap_cons_some hsource, List.map_cons, List.map_cons, hsource,
      ih fun found hmem ↦ hsome found (List.mem_cons_of_mem _ hmem)]

/-- A run makes no difference to the run after it. -/
theorem bootstrapDemoSources_bootstrapDemoSources :
    bootstrapDemoSources supply clock (bootstrapDemoSources supply earlier table).1 =
      bootstrapDemoSources supply clock table := by
  have hcodes (seed : DemoSourceSeed) (hseed : seed ∈ demoSourceSeeds) :
      seed.code ∈ (bootstrapDemoSources supply earlier table).1.rows.map SourceSite.code := by
    obtain ⟨base, -, hfound⟩ := exists_getModelByCode_saveSeeds supply earlier table separate_demoSourceSeeds hseed []
    obtain ⟨hmem, hcode⟩ := getModelByCode_eq_some_iff.mp hfound
    exact List.mem_map.mpr ⟨_, hmem, hcode⟩
  have hrows : (bootstrapDemoSources supply clock (bootstrapDemoSources supply earlier table).1).1.rows =
      (bootstrapDemoSources supply clock table).1.rows :=
    calc (bootstrapDemoSources supply clock (bootstrapDemoSources supply earlier table).1).1.rows
        = (bootstrapDemoSources supply earlier table).1.rows.map (rewritten clock demoSourceSeeds) :=
          rows_saveSeeds_of_codes hcodes []
      _ = (bootstrapDemoSources supply clock table).1.rows :=
          (rows_saveSeeds_map overwritten_id (List.map_id _).symm [] []).symm
  have htables : (bootstrapDemoSources supply clock (bootstrapDemoSources supply earlier table).1).1 =
      (bootstrapDemoSources supply clock table).1 := eq_of_rows_eq hrows
  refine Prod.ext htables (List.map_injective_iff.mpr (Option.some_injective _) ?_)
  rw [bootstrapDemoSources_snd, bootstrapDemoSources_snd, htables]

end Runs

/-! ## What the runs leave -/

/-- The table and the sources that a run returns, in terms of the table that it found. -/
structure Seeded (clock : DemoSourceSeed → Instant) (table : SourceTable) (after : SourceTable × List SourceSite) : Prop where
  seeds_eq : ∀ seed ∈ demoSourceSeeds, ∃ base, BaseRow table seed base ∧
    after.1.getModelByCode seed.code = some (seed.write (clock seed) base)
  others_eq : ∀ code ∉ demoSourceSeeds.map DemoSourceSeed.code, after.1.getModelByCode code =
    if table.getModelByCode dealCode = none ∧ (legacySource table.rows).map SourceSite.code = some code then none
    else table.getModelByCode code
  saved_eq : after.2.map some = demoSourceSeeds.map fun seed ↦ after.1.getModelByCode seed.code

/-- The code that a row gives up for a seed is that of the legacy row. -/
theorem taken_iff {table : SourceTable} {code : String} (hcode : code ∉ demoSourceSeeds.map DemoSourceSeed.code) :
    (∃ seed ∈ demoSourceSeeds, (sourceOfSeed table seed).map SourceSite.code = some code) ↔
      table.getModelByCode dealCode = none ∧ (legacySource table.rows).map SourceSite.code = some code := by
  constructor
  · rintro ⟨seed, hseed, htaken⟩
    rcases code_of_sourceOfSeed htaken with rfl | ⟨-, hdeal⟩
    · exact absurd (List.mem_map_of_mem hseed) hcode
    · unfold sourceOfSeed at htaken
      rw [hdeal] at htaken
      cases hfound : table.getModelByCode dealCode with
      | some source =>
        simp only [hfound, Option.map_some, Option.some.injEq] at htaken
        obtain ⟨-, hsource⟩ := getModelByCode_eq_some_iff.mp hfound
        exact absurd (List.mem_map.mpr ⟨seed, hseed, hdeal.trans (hsource.symm.trans htaken)⟩) hcode
      | none =>
        simp only [hfound, if_pos] at htaken
        exact ⟨rfl, htaken⟩
  · rintro ⟨hmissing, hlegacy⟩
    obtain ⟨seed, hseed, hdeal⟩ : ∃ seed ∈ demoSourceSeeds, seed.code = dealCode := by decide
    refine ⟨seed, hseed, ?_⟩
    unfold sourceOfSeed
    simp only [hdeal, hmissing, if_pos]
    exact hlegacy

/-- However often the sources were seeded before, a run leaves what it leaves of the first table. -/
theorem bootstrapDemoSources_runs (supply : IdSupply) (runs : List (DemoSourceSeed → Instant))
    (clock : DemoSourceSeed → Instant) (table : SourceTable) :
    bootstrapDemoSources supply clock (runs.foldl (fun table run ↦ (bootstrapDemoSources supply run table).1) table) =
        bootstrapDemoSources supply clock table ∧
      Seeded clock table (bootstrapDemoSources supply clock table) := by
  refine ⟨?_, ?_, ?_, bootstrapDemoSources_snd⟩
  · induction runs generalizing table with
    | nil => rfl
    | cons run runs ih => exact (ih _).trans bootstrapDemoSources_bootstrapDemoSources
  · intro seed hseed
    exact exists_getModelByCode_saveSeeds supply clock table separate_demoSourceSeeds hseed []
  · intro code hcode
    refine (getModelByCode_saveSeeds separate_demoSourceSeeds hcode []).trans ?_
    exact if_congr (taken_iff hcode) rfl rfl

end TenderPhase1.Sources
