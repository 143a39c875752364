import TenderPhase1.Foundation.OrderedRows
import TenderPhase1.Sources.SourceLookup

/-!
# The migration to the code ggzy_gov_cn_deal

Revision 20260321_0008 gives the code to the best row of the platform, and renames the row that has it already
where that is another one. A table can keep rows with legacy codes afterwards, and the lookups of a source then
still meet two rows.
-/

namespace TenderPhase1.Migrations

open PyText Sources OrderedRows

def ggzyCode : String := "ggzy_gov_cn_deal"

/-! ## The statements -/

/-- `name LIKE '%全国公共资源交易平台%'` -/
def likePlatformName (name : String) : Bool := contains name "全国公共资源交易平台"

def isCandidate (row : SourceSite) : Bool :=
  ["2", "ggzy_gov_cn", ggzyCode].contains row.code || likePlatformName row.name

/-- The CASE of the ORDER BY -/
def codeRank (code : String) : ℕ :=
  if code = "2" then 0 else if code = "ggzy_gov_cn" then 1 else if code = ggzyCode then 2 else 3

def candidateOrder : List (SortKey SourceSite) :=
  [SortKey.on compare fun row : SourceSite ↦ codeRank row.code, SortKey.on compare SourceSite.id]

def candidateRows (table : SourceTable) : List SourceSite := orderBy candidateOrder (table.rows.filter isCandidate)

def legacyCode (id : ℕ) : String := ggzyCode ++ "_legacy_" ++ toString id

/-- The columns of the second UPDATE -/
def normalizedSource (row : SourceSite) : SourceSite :=
  { row with
    code := ggzyCode
    name := if row.name = "" then "全国公共资源交易平台（政府采购）" else row.name
    baseUrl := "https://www.ggzy.gov.cn/"
    officialUrl := "https://www.ggzy.gov.cn/"
    listUrl := "https://www.ggzy.gov.cn/deal/dealList.html?HEADER_DEAL_TYPE=02"
    defaultMaxPages := if row.defaultMaxPages < 1 then 50 else row.defaultMaxPages }

inductive IntegrityError where
  | duplicateCode
  deriving DecidableEq, Repr

def changeRow (id : ℕ) (change : SourceSite → SourceSite) (row : SourceSite) : SourceSite :=
  if row.id = id then { change row with id := row.id } else row

@[simp] theorem changeRow_id (id : ℕ) (change : SourceSite → SourceSite) (row : SourceSite) :
    (changeRow id change row).id = row.id := by
  unfold changeRow
  split_ifs <;> rfl

theorem map_id_changeRow (id : ℕ) (change : SourceSite → SourceSite) (rows : List SourceSite) :
    (rows.map (changeRow id change)).map SourceSite.id = rows.map SourceSite.id := by
  rw [List.map_map]
  exact List.map_congr_left fun row _ ↦ changeRow_id id change row

/-- `UPDATE source_site SET … WHERE id = :source_id` -/
def updateWhereId (table : SourceTable) (id : ℕ) (change : SourceSite → SourceSite) : Except IntegrityError SourceTable :=
  if h : ((table.rows.map (changeRow id change)).map SourceSite.code).Nodup then
    .ok ⟨table.rows.map (changeRow id change), (map_id_changeRow id change table.rows) ▸ table.ids_nodup, h⟩
  else .error .duplicateCode

/-- The first UPDATE: another row gives up the code. -/
def releaseCode (table : SourceTable) (targetId : ℕ) : Except IntegrityError SourceTable :=
  match table.getModelByCode ggzyCode with
  | none => .ok table
  | some existing =>
    if existing.id = targetId then .ok table
    else updateWhereId table existing.id fun row ↦ { row with code := legacyCode existing.id }

/-- `upgrade` -/
def upgradeSourceCodes (table : SourceTable) : Except IntegrityError SourceTable :=
  match (candidateRows table).head? with
  | none => .ok table
  | some target => do
    let released ← releaseCode table target.id
    updateWhereId released target.id normalizedSource

/-! ## The rows afterwards -/

def releasedRow (targetId : ℕ) (row : SourceSite) : SourceSite :=
  if row.code = ggzyCode ∧ row.id ≠ targetId then { row with code := legacyCode row.id } else row

def upgradedRow (targetId : ℕ) (row : SourceSite) : SourceSite :=
  if row.id = targetId then normalizedSource row else releasedRow targetId row

/-- Another row has the code, and its legacy code is taken. -/
def LegacyCodeTaken (table : SourceTable) (targetId : ℕ) : Prop :=
  ∃ displaced ∈ table.rows, displaced.code = ggzyCode ∧ displaced.id ≠ targetId ∧
    ∃ other ∈ table.rows, other.code = legacyCode displaced.id

theorem legacyCode_ne (id : ℕ) : legacyCode id ≠ ggzyCode := by
  intro h
  have hlength := congrArg String.length h
  simp only [legacyCode, String.length_append] at hlength
  have htail : "_legacy_".length = 8 := rfl
  omega

section Updates

variable {table after : SourceTable} {row : SourceSite} {targetId : ℕ} {change : SourceSite → SourceSite}

theorem eq_of_id_eq {other : SourceSite} (hrow : row ∈ table.rows) (hother : other ∈ table.rows)
    (hid : row.id = other.id) : row = other :=
  List.inj_on_of_nodup_map table.ids_nodup hrow hother hid

theorem eq_of_code_eq {other : SourceSite} (hrow : row ∈ table.rows) (hother : other ∈ table.rows)
    (hcode : row.code = other.code) : row = other :=
  List.inj_on_of_nodup_map table.codes_nodup hrow hother hcode

/-- The constraint holds as long as no other row has the new code. -/
theorem nodup_codes_changeRow (hrow : row ∈ table.rows) :
    ((table.rows.map (changeRow row.id change)).map SourceSite.code).Nodup ↔
      ∀ other ∈ table.rows, other.id ≠ row.id → other.code ≠ (change row).code := by
  have hnew : (changeRow row.id change row).code = (change row).code := by rw [changeRow, if_pos rfl]
  have hkept {other : SourceSite} (hid : other.id ≠ row.id) : (changeRow row.id change other) = other := by
    rw [changeRow, if_neg hid]
  rw [List.map_map]
  constructor
  · intro hnodup other hother hid hcode
    have hsame : other = row := by
      refine List.inj_on_of_nodup_map hnodup hother hrow ?_
      rw [Function.comp_apply, Function.comp_apply, hkept hid, hnew, hcode]
    exact hid (congrArg SourceSite.id hsame)
  · intro hfree
    refine (List.Nodup.of_map _ table.ids_nodup).map_on ?_
    intro first hfirst second hsecond hcodes
    rw [Function.comp_apply, Function.comp_apply] at hcodes
    by_cases hfirstId : first.id = row.id
    · obtain rfl := eq_of_id_eq hfirst hrow hfirstId
      by_contra hne
      have hsecondId : second.id ≠ first.id := fun hid ↦ hne (eq_of_id_eq hsecond hfirst hid).symm
      rw [hkept hsecondId, hnew] at hcodes
      exact hfree second hsecond hsecondId hcodes.symm
    · rw [hkept hfirstId] at hcodes
      by_cases hsecondId : second.id = row.id
      · obtain rfl := eq_of_id_eq hsecond hrow hsecondId
        rw [hnew] at hcodes
        exact absurd hcodes (hfree first hfirst hfirstId)
      · rw [hkept hsecondId] at hcodes
        exact eq_of_code_eq hfirst hsecond hcodes

/-- The first UPDATE fails exactly where the legacy code is taken. -/
theorem releaseCode_result (table : SourceTable) (targetId : ℕ) :
    match releaseCode table targetId with
    | .ok released => released.rows = table.rows.map (releasedRow targetId) ∧ ¬ LegacyCodeTaken table targetId
    | .error _ => LegacyCodeTaken table targetId := by
  unfold releaseCode
  cases hexisting : table.getModelByCode ggzyCode with
  | none =>
    have hmissing (row : SourceSite) (hrow : row ∈ table.rows) : row.code ≠ ggzyCode := by
      simpa using List.find?_eq_none.mp hexisting row hrow
    refine ⟨?_, fun ⟨displaced, hmem, hcode, _⟩ ↦ hmissing displaced hmem hcode⟩
    symm
    refine (List.map_congr_left fun row hrow ↦ ?_).trans (List.map_id _)
    rw [releasedRow, if_neg fun h ↦ hmissing row hrow h.1]
    rfl
  | some existing =>
    have hmem : existing ∈ table.rows := List.mem_of_find?_eq_some hexisting
    have hcode : existing.code = ggzyCode := by simpa using List.find?_some hexisting
    have honly (row : SourceSite) (hrow : row ∈ table.rows) (hrowCode : row.code = ggzyCode) : row = existing :=
      eq_of_code_eq hrow hmem (hrowCode.trans hcode.symm)
    dsimp only
    by_cases htarget : existing.id = targetId
    · rw [if_pos htarget]
      have hnone (row : SourceSite) (hrow : row ∈ table.rows) : ¬ (row.code = ggzyCode ∧ row.id ≠ targetId) := by
        rintro ⟨hrowCode, hid⟩
        exact hid (honly row hrow hrowCode ▸ htarget)
      refine ⟨?_, fun ⟨displaced, hmem, hcode, hid, _⟩ ↦ hnone displaced hmem ⟨hcode, hid⟩⟩
      symm
      refine (List.map_congr_left fun row hrow ↦ ?_).trans (List.map_id _)
      rw [releasedRow, if_neg (hnone row hrow)]
      rfl
    · rw [if_neg htarget]
      have hrows : table.rows.map (changeRow existing.id fun row ↦ { row with code := legacyCode existing.id }) =
          table.rows.map (releasedRow targetId) := by
        refine List.map_congr_left fun row hrow ↦ ?_
        unfold changeRow releasedRow
        by_cases hid : row.id = existing.id
        · obtain rfl := eq_of_id_eq hrow hmem hid
          rw [if_pos rfl, if_pos ⟨hcode, htarget⟩]
        · rw [if_neg hid, if_neg fun h ↦ hid (congrArg SourceSite.id (honly row hrow h.1))]
      have hfree : ((table.rows.map (changeRow existing.id fun row ↦ { row with code := legacyCode existing.id })).map
          SourceSite.code).Nodup ↔ ∀ other ∈ table.rows, other.id ≠ existing.id → other.code ≠ legacyCode existing.id :=
        nodup_codes_changeRow hmem
      unfold updateWhereId
      split_ifs with hnodup
      · refine ⟨hrows, ?_⟩
        rintro ⟨displaced, hdisplaced, hdisplacedCode, hid, other, hother, htaken⟩
        obtain rfl := honly displaced hdisplaced hdisplacedCode
        refine hfree.mp hnodup other hother ?_ htaken
        intro hsame
        obtain rfl := eq_of_id_eq hother hmem hsame
        exact legacyCode_ne _ (htaken.symm.trans hcode)
      · have htaken := mt hfree.mpr hnodup
        push Not at htaken
        obtain ⟨other, hother, -, htaken⟩ := htaken
        exact ⟨existing, hmem, hcode, htarget, other, hother, htaken⟩

theorem releasedRow_id (targetId : ℕ) (row : SourceSite) : (releasedRow targetId row).id = row.id := by
  unfold releasedRow
  split_ifs <;> rfl

theorem releasedRow_of_id {targetId : ℕ} (h : row.id = targetId) : releasedRow targetId row = row := by
  rw [releasedRow, if_neg fun hreleased ↦ hreleased.2 h]

theorem releasedRow_code_ne {targetId : ℕ} (h : row.id ≠ targetId) : (releasedRow targetId row).code ≠ ggzyCode := by
  unfold releasedRow
  split_ifs with hreleased
  · exact legacyCode_ne row.id
  · exact fun hcode ↦ hreleased ⟨hcode, h⟩

/-- Once the code is released the second UPDATE goes through. -/
theorem updateWhereId_released {released : SourceTable} {target : SourceSite} (htarget : target ∈ table.rows)
    (hreleased : released.rows = table.rows.map (releasedRow target.id)) :
    ∃ after, updateWhereId released target.id normalizedSource = .ok after ∧
      after.rows = table.rows.map (upgradedRow target.id) := by
  have hmem : target ∈ released.rows := by
    rw [hreleased]
    exact List.mem_map.mpr ⟨target, htarget, releasedRow_of_id rfl⟩
  have hnodup : ((released.rows.map (changeRow target.id normalizedSource)).map SourceSite.code).Nodup := by
    refine (nodup_codes_changeRow hmem).mpr ?_
    intro other hother hid
    rw [hreleased] at hother
    obtain ⟨row, -, rfl⟩ := List.mem_map.mp hother
    rw [releasedRow_id] at hid
    exact releasedRow_code_ne hid
  refine ⟨_, dif_pos hnodup, ?_⟩
  change released.rows.map (changeRow target.id normalizedSource) = _
  rw [hreleased, List.map_map]
  refine List.map_congr_left fun row _ ↦ ?_
  rw [Function.comp_apply, changeRow, upgradedRow, releasedRow_id]
  split_ifs with hid
  · rw [releasedRow_of_id hid]
    rfl
  · rfl

end Updates

/-! ## Lookups afterwards -/

section Lookups

variable {table after : SourceTable} {target row : SourceSite}

/-- The row that gets the code: the first of the candidates. -/
structure BestCandidate (table : SourceTable) (target : SourceSite) : Prop where
  mem : target ∈ table.rows
  candidate : isCandidate target
  first : ∀ row ∈ table.rows, isCandidate row →
    codeRank target.code < codeRank row.code ∨ codeRank target.code = codeRank row.code ∧ target.id ≤ row.id

theorem bestCandidate_of_head? (h : (candidateRows table).head? = some target) : BestCandidate table target := by
  have hmem := List.mem_filter.mp (mem_orderBy.mp (List.mem_of_head? h))
  refine ⟨hmem.1, hmem.2, ?_⟩
  intro row hrow hcandidate
  have hle := isLE_of_head?_orderBy h row (List.mem_filter.mpr ⟨hrow, hcandidate⟩)
  simp only [candidateOrder, compareBy, compareLex, SortKey.on] at hle
  rcases lt_trichotomy (codeRank target.code) (codeRank row.code) with hlt | heq | hgt
  · exact Or.inl hlt
  · rw [heq, Nat.compare_eq_eq.mpr rfl] at hle
    refine Or.inr ⟨heq, ?_⟩
    by_contra hlt
    simp [Nat.compare_eq_gt.mpr (not_le.mp hlt)] at hle
  · simp [Nat.compare_eq_gt.mpr hgt] at hle

/-- Where a row has the code 2, it is the one. -/
theorem BestCandidate.code_eq_two (h : BestCandidate table target) (hrow : row ∈ table.rows) (hcode : row.code = "2") :
    target.code = "2" := by
  have hcandidate : isCandidate row := by simp [isCandidate, hcode]
  have hzero : codeRank row.code = 0 := by rw [hcode]; rfl
  have htarget : codeRank target.code = 0 := by
    rcases h.first row hrow hcandidate with hlt | ⟨heq, -⟩ <;> omega
  unfold codeRank at htarget
  split_ifs at htarget with htwo
  exact htwo

/-- A row that keeps the code ggzy_gov_cn gives way to the row with the code 2. -/
theorem BestCandidate.code_eq_two_of_alias (h : BestCandidate table target) (hrow : row ∈ table.rows)
    (hcode : row.code = "ggzy_gov_cn") (hid : row.id ≠ target.id) : target.code = "2" := by
  have hcandidate : isCandidate row := by simp [isCandidate, hcode]
  have hone : codeRank row.code = 1 := by rw [hcode]; rfl
  have hne : target.code ≠ "ggzy_gov_cn" := fun htarget ↦
    hid (congrArg SourceSite.id (eq_of_code_eq hrow h.mem (hcode.trans htarget.symm)))
  have htarget : codeRank target.code ≤ 1 := by
    rcases h.first row hrow hcandidate with hlt | ⟨heq, -⟩ <;> omega
  unfold codeRank at htarget
  split_ifs at htarget with htwo
  · exact htwo
  · omega
  · omega

/-- Only the two aliases stand for another code. -/
theorem normalizeSourceCode_eq_self {code : String} (hstrip : strip code = code) (htwo : code ≠ "2")
    (halias : code ≠ "ggzy_gov_cn") : normalizeSourceCode code = code := by
  unfold normalizeSourceCode
  dsimp only
  rw [hstrip]
  have hlookup : legacySourceCodeAliases.lookup code = none := by
    simp only [legacySourceCodeAliases, List.lookup_cons, beq_false_of_ne htwo, beq_false_of_ne halias, List.lookup_nil]
  rw [hlookup]
  exact ite_self _

/-- What an alias of the code, or the code itself, finds once the migration has gone through. -/
theorem getModelByCode_ggzyCode (htarget : target ∈ table.rows)
    (hafter : after.rows = table.rows.map (upgradedRow target.id)) :
    after.getModelByCode ggzyCode = some (normalizedSource target) := by
  have hmem : normalizedSource target ∈ after.rows := by
    rw [hafter]
    refine List.mem_map.mpr ⟨target, htarget, ?_⟩
    rw [upgradedRow, if_pos rfl]
  exact SourceTable.getModelByCode_of_mem hmem

/-- A row with an alias as its code has kept it. -/
theorem mem_of_alias (hafter : after.rows = table.rows.map (upgradedRow target.id)) {code : String}
    (hcode : code = "2" ∨ code = "ggzy_gov_cn") (hrow : row ∈ after.rows) (hrowCode : row.code = code) :
    row ∈ table.rows ∧ row.id ≠ target.id := by
  have hne : code ≠ ggzyCode := by rcases hcode with rfl | rfl <;> decide
  have hlegacy (id : ℕ) : code ≠ legacyCode id := by
    intro heq
    have hlength := congrArg String.length heq
    simp only [legacyCode, String.length_append] at hlength
    have htail : "_legacy_".length = 8 := rfl
    have hhead : ggzyCode.length = 16 := rfl
    rcases hcode with rfl | rfl
    · have hshort : "2".length = 1 := rfl
      omega
    · have hshort : "ggzy_gov_cn".length = 11 := rfl
      omega
  rw [hafter] at hrow
  obtain ⟨original, horiginal, rfl⟩ := List.mem_map.mp hrow
  unfold upgradedRow at hrowCode ⊢
  split_ifs at hrowCode ⊢ with hid
  · exact absurd hrowCode.symm hne
  · unfold releasedRow at hrowCode ⊢
    split_ifs at hrowCode ⊢ with hreleased
    · exact absurd hrowCode.symm (hlegacy original.id)
    · exact ⟨horiginal, hid⟩

/-- The lookups agree unless both aliases were codes of rows. -/
theorem getSource_eq_updatedSource_iff (h : BestCandidate table target)
    (hafter : after.rows = table.rows.map (upgradedRow target.id)) :
    (∀ code, after.getSource code = after.updatedSource code) ↔
      ¬ ((∃ row ∈ table.rows, row.code = "2") ∧ ∃ row ∈ table.rows, row.code = "ggzy_gov_cn") := by
  constructor
  · rintro hagree ⟨⟨two, htwo, htwoCode⟩, kept, hkept, hkeptCode⟩
    have htarget : target.code = "2" := h.code_eq_two htwo htwoCode
    have hid : kept.id ≠ target.id := by
      intro hsame
      have hcodes := congrArg SourceSite.code (eq_of_id_eq hkept h.mem hsame)
      rw [hkeptCode, htarget] at hcodes
      exact absurd hcodes (by decide)
    have hmem : kept ∈ after.rows := by
      rw [hafter]
      refine List.mem_map.mpr ⟨kept, hkept, ?_⟩
      rw [upgradedRow, if_neg hid, releasedRow, if_neg]
      rintro ⟨hdeal, -⟩
      rw [hkeptCode] at hdeal
      exact absurd hdeal (by decide)
    have hread : after.getSource "ggzy_gov_cn" = some kept := by
      refine SourceTable.getSource_of_row ?_ (by decide +kernel)
      have hstrip : strip "ggzy_gov_cn" = kept.code := by rw [hkeptCode]; decide +kernel
      rw [hstrip]
      exact SourceTable.getModelByCode_of_mem hmem
    have hwritten : after.updatedSource "ggzy_gov_cn" = some (normalizedSource target) := by
      have hcode : updatedSourceCode "ggzy_gov_cn" = some ggzyCode := by decide +kernel
      rw [SourceTable.updatedSource, hcode, Option.bind_some]
      exact getModelByCode_ggzyCode h.mem hafter
    have hsame : some kept = some (normalizedSource target) := hread.symm.trans ((hagree "ggzy_gov_cn").trans hwritten)
    have hids : kept.id = (normalizedSource target).id := congrArg SourceSite.id (Option.some.inj hsame)
    exact hid hids
  · intro hnot code
    apply SourceTable.getSource_eq_updatedSource
    by_contra hlegacy
    obtain ⟨hrow, hne⟩ := not_or.mp hlegacy
    obtain ⟨found, hfound⟩ := Option.ne_none_iff_exists'.mp hrow
    obtain ⟨hmem, hcode⟩ := SourceTable.mem_of_getModelByCode hfound
    have halias : strip code = "2" ∨ strip code = "ggzy_gov_cn" := by
      by_contra hneither
      obtain ⟨htwo, hother⟩ := not_or.mp hneither
      exact hne (normalizeSourceCode_eq_self (strip_strip code) htwo hother)
    obtain ⟨hkept, hid⟩ := mem_of_alias hafter halias hmem hcode
    rcases halias with htwo | hother
    · have htarget := h.code_eq_two hkept (hcode.trans htwo)
      exact hid (congrArg SourceSite.id (eq_of_code_eq hkept h.mem (hcode.trans (htwo.trans htarget.symm))))
    · have htarget := h.code_eq_two_of_alias hkept (hcode.trans hother) hid
      exact hnot ⟨⟨target, h.mem, htarget⟩, found, hkept, hcode.trans hother⟩

/-- What the migration leaves where it goes through. -/
structure Upgraded (table : SourceTable) (target : SourceSite) (after : SourceTable) : Prop where
  rows : after.rows = table.rows.map (upgradedRow target.id)
  found : ∀ code, normalizeSourceCode (strip code) = ggzyCode → after.updatedSource code = some (normalizedSource target)
  agree : (∀ code, after.getSource code = after.updatedSource code) ↔
    ¬ ((∃ row ∈ table.rows, row.code = "2") ∧ ∃ row ∈ table.rows, row.code = "ggzy_gov_cn")
  free : ¬ LegacyCodeTaken table target.id

/-- The best candidate gets the code, every other row keeps its own except the one that had it, and both lookups of a
source then find the same row under every code unless two rows had legacy codes. The migration fails exactly where
the legacy code of the row that gives way is taken. -/
theorem upgradeSourceCodes_upgraded (table : SourceTable) (hcandidate : ∃ row ∈ table.rows, isCandidate row) :
    ∃ target, BestCandidate table target ∧
      match upgradeSourceCodes table with
      | .ok after => Upgraded table target after
      | .error _ => LegacyCodeTaken table target.id := by
  cases htarget : (candidateRows table).head? with
  | none =>
    obtain ⟨row, hrow, hisCandidate⟩ := hcandidate
    have hmem : row ∈ candidateRows table := mem_orderBy.mpr (List.mem_filter.mpr ⟨hrow, hisCandidate⟩)
    rw [List.head?_eq_none_iff.mp htarget] at hmem
    exact absurd hmem List.not_mem_nil
  | some target =>
    have hbest := bestCandidate_of_head? htarget
    refine ⟨target, hbest, ?_⟩
    unfold upgradeSourceCodes
    rw [htarget]
    dsimp only
    have hresult := releaseCode_result table target.id
    cases hreleased : releaseCode table target.id with
    | error error =>
      rw [hreleased] at hresult
      exact hresult
    | ok released =>
      rw [hreleased] at hresult
      obtain ⟨after, hafter, hrows⟩ := updateWhereId_released hbest.mem hresult.1
      change match updateWhereId released target.id normalizedSource with
        | .ok after => Upgraded table target after
        | .error _ => LegacyCodeTaken table target.id
      rw [hafter]
      refine ⟨hrows, ?_, getSource_eq_updatedSource_iff hbest hrows, hresult.2⟩
      intro code hcode
      have hne : strip code ≠ "" := by
        intro hempty
        rw [hempty] at hcode
        exact absurd hcode (by decide +kernel)
      rw [SourceTable.updatedSource, updatedSourceCode, if_neg hne, Option.bind_some, hcode]
      exact getModelByCode_ggzyCode hbest.mem hrows

end Lookups

/-- A row of each code the platform ever had. -/
def threePlatformRows : SourceTable where
  rows :=
    [{ id := 1, code := ggzyCode, name := "全国公共资源交易平台", baseUrl := "" },
      { id := 2, code := "ggzy_gov_cn", name := "", baseUrl := "" },
      { id := 3, code := "2", name := "", baseUrl := "", defaultMaxPages := 0 }]
  ids_nodup := by decide
  codes_nodup := by decide

theorem upgradeSourceCodes_upgraded_threePlatformRows :
    ∃ target, BestCandidate threePlatformRows target ∧
      match upgradeSourceCodes threePlatformRows with
      | .ok after => Upgraded threePlatformRows target after
      | .error _ => LegacyCodeTaken threePlatformRows target.id :=
  upgradeSourceCodes_upgraded threePlatformRows ⟨_, List.mem_cons_self, by decide +kernel⟩

end TenderPhase1.Migrations
