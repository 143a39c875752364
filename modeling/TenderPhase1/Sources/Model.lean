import TenderPhase1.Foundation.ObjectSession
import TenderPhase1.Foundation.PyText
import TenderPhase1.Jobs.Model

/-!
# Sources and their adapters

The rows of `source_site`, and the registry of the sources that have a spider. A
source is found by its code; two codes of earlier versions still name the source
`ggzy_gov_cn_deal`.
-/

namespace TenderPhase1.Sources

open ObjectSession PyText Jobs

structure SourceSite where
  id : ℕ
  code : String
  name : String
  baseUrl : String
  officialUrl : String := ""
  listUrl : String := ""
  description : Option String := none
  isActive : Bool := true
  supportsJsRender : Bool := false
  crawlIntervalMinutes : ℤ := 60
  defaultMaxPages : ℤ := 50
  scheduleEnabled : Bool := false
  scheduleDays : ℤ := 1
  lastScheduledRunAt : Option Instant := none
  nextScheduledRunAt : Option Instant := none
  lastScheduleStatus : Option String := none
  deriving DecidableEq, Repr

/-- The UPDATE of a changed source; the primary key is never among the changed columns. -/
def SourceSite.writeBack (loaded current stored : SourceSite) : SourceSite where
  id := stored.id
  code := mergeColumn loaded.code current.code stored.code
  name := mergeColumn loaded.name current.name stored.name
  baseUrl := mergeColumn loaded.baseUrl current.baseUrl stored.baseUrl
  officialUrl := mergeColumn loaded.officialUrl current.officialUrl stored.officialUrl
  listUrl := mergeColumn loaded.listUrl current.listUrl stored.listUrl
  description := mergeColumn loaded.description current.description stored.description
  isActive := mergeColumn loaded.isActive current.isActive stored.isActive
  supportsJsRender := mergeColumn loaded.supportsJsRender current.supportsJsRender stored.supportsJsRender
  crawlIntervalMinutes :=
    mergeColumn loaded.crawlIntervalMinutes current.crawlIntervalMinutes stored.crawlIntervalMinutes
  defaultMaxPages := mergeColumn loaded.defaultMaxPages current.defaultMaxPages stored.defaultMaxPages
  scheduleEnabled := mergeColumn loaded.scheduleEnabled current.scheduleEnabled stored.scheduleEnabled
  scheduleDays := mergeColumn loaded.scheduleDays current.scheduleDays stored.scheduleDays
  lastScheduledRunAt := mergeColumn loaded.lastScheduledRunAt current.lastScheduledRunAt stored.lastScheduledRunAt
  nextScheduledRunAt := mergeColumn loaded.nextScheduledRunAt current.nextScheduledRunAt stored.nextScheduledRunAt
  lastScheduleStatus := mergeColumn loaded.lastScheduleStatus current.lastScheduleStatus stored.lastScheduleStatus

instance : Entity SourceSite where
  key := SourceSite.id
  writeBack := SourceSite.writeBack
  key_writeBack _ _ _ := rfl
  writeBack_unchanged loaded stored := by simp [SourceSite.writeBack]

/-! ## The adapter registry -/

structure SourceAdapterMeta where
  sourceCode : String
  spiderName : String
  businessCode : String
  displayName : String
  baseUrl : String
  officialUrl : String
  listUrl : String
  supportedJobTypes : List JobType
  deriving DecidableEq, Repr

/-- `_INTEGRATED_ADAPTERS`; each adapter's key is its source code. -/
def integratedAdapters : List SourceAdapterMeta :=
  [{ sourceCode := "example_source"
     spiderName := "example_source"
     businessCode := "example_source"
     displayName := "示例来源"
     baseUrl := "https://example.com/"
     officialUrl := "https://example.com/"
     listUrl := "https://example.com/notices"
     supportedJobTypes := [.manual, .manualRetry, .backfill] },
   { sourceCode := "anhui_ggzy_zfcg"
     spiderName := "anhui_ggzy_zfcg"
     businessCode := "anhui_ggzy_zfcg"
     displayName := "安徽省公共资源交易监管网（政府采购）"
     baseUrl := "https://ggzy.ah.gov.cn/"
     officialUrl := "https://ggzy.ah.gov.cn/"
     listUrl := "https://ggzy.ah.gov.cn/zfcg/list?bulletinNature=1&time=1"
     supportedJobTypes := [.manual, .manualRetry, .backfill] },
   { sourceCode := "ggzy_gov_cn_deal"
     spiderName := "ggzy_gov_cn_deal"
     businessCode := "ggzy_gov_cn_deal"
     displayName := "全国公共资源交易平台（政府采购）"
     baseUrl := "https://www.ggzy.gov.cn/"
     officialUrl := "https://www.ggzy.gov.cn/"
     listUrl := "https://www.ggzy.gov.cn/deal/dealList.html?HEADER_DEAL_TYPE=02"
     supportedJobTypes := [.manual, .manualRetry, .backfill] }]

def legacySourceCodeAliases : List (String × String) :=
  [("2", "ggzy_gov_cn_deal"), ("ggzy_gov_cn", "ggzy_gov_cn_deal")]

def normalizeSourceCode (sourceCode : String) : String :=
  let normalized := strip sourceCode
  if normalized = "" then normalized else (legacySourceCodeAliases.lookup normalized).getD normalized

def getSourceAdapter (sourceCode : String) : Option SourceAdapterMeta :=
  integratedAdapters.find? (·.sourceCode = normalizeSourceCode sourceCode)

def resolveSpiderName (sourceCode : String) : Option String :=
  (getSourceAdapter sourceCode).map SourceAdapterMeta.spiderName

def supportsJobType (sourceCode : String) (jobType : JobType) : Bool :=
  match getSourceAdapter sourceCode with
  | some adapter => adapter.supportedJobTypes.contains jobType
  | none => false

end TenderPhase1.Sources
