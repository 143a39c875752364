import TenderPhase1.Foundation.Transition
import TenderPhase1.Foundation.ObjectSession
import TenderPhase1.Foundation.PyText
import TenderPhase1.Jobs.Lifecycle
import TenderPhase1.Jobs.Transactions
import TenderPhase1.Jobs.TerminalStatus
import TenderPhase1.Jobs.LeaseRenewal
import TenderPhase1.Dispatch.Processes
import TenderPhase1.Dispatch.SpiderLaunches
import TenderPhase1.Dispatch.DispatchFailure
import TenderPhase1.Executors.Classification
import TenderPhase1.Executors.Runs
import TenderPhase1.Executors.Settling
import TenderPhase1.Executors.Supervision
import TenderPhase1.Executors.LeaseHeld
import TenderPhase1.Executors.SpiderExit
import TenderPhase1.Jobs.Session
import TenderPhase1.Trigger.CreateCrawlJob
import TenderPhase1.Crawler.Deduplication
import TenderPhase1.Crawler.Database
import TenderPhase1.Crawler.Writers
import TenderPhase1.Crawler.WriterFrame
import TenderPhase1.Crawler.Constraints
import TenderPhase1.Crawler.NewSource
import TenderPhase1.Crawler.SourceCache
import TenderPhase1.Crawler.Instances
import TenderPhase1.Crawler.NoticeMerge
import TenderPhase1.Crawler.AttachmentMerge
import TenderPhase1.Crawler.CurrentVersion
import TenderPhase1.Spiders.GgzyGovCnDeal
import TenderPhase1.Spiders.ListDrafts
import TenderPhase1.Crawler.Lookups
import TenderPhase1.Crawler.RecordFrame
import TenderPhase1.Foundation.CurrentMarks
import TenderPhase1.Crawler.VersionSet
import TenderPhase1.Crawler.CurrentRecords
import TenderPhase1.Crawler.NoticeIdentity
import TenderPhase1.Crawler.AttachmentStore
import TenderPhase1.Spiders.PageBundle
import TenderPhase1.Crawler.LinkedVersion
import TenderPhase1.Spiders.AttachmentLinks
import TenderPhase1.Crawler.AttachmentOwners
import TenderPhase1.Crawler.SourceDuplicates
import TenderPhase1.Spiders.StoredTwice
import TenderPhase1.Executors.Agreement
import TenderPhase1.Trigger.SpiderArgs
import TenderPhase1.Trigger.Requests
import TenderPhase1.Trigger.RequestFrame
import TenderPhase1.Trigger.RetryLineage
import TenderPhase1.Crawler.InsertCounters
import TenderPhase1.Jobs.CounterFrame
import TenderPhase1.Jobs.RowCoherence
import TenderPhase1.Trigger.LaunchCommands
import TenderPhase1.Trigger.JobParams
import TenderPhase1.Trigger.LaunchPaths
import TenderPhase1.Trigger.RetryFidelity
import TenderPhase1.Foundation.UnmodifiedObjects
import TenderPhase1.Trigger.JobOwnership
import TenderPhase1.Sources.SchedulePostponement
import TenderPhase1.Crawler.RawDocumentStore
import TenderPhase1.Foundation.IsoDate
import TenderPhase1.Foundation.LastWrites
import TenderPhase1.Crawler.DocumentAccepted
import TenderPhase1.Executors.ListPageDates
import TenderPhase1.Spiders.AnhuiList
import TenderPhase1.Spiders.ListArchive
import TenderPhase1.Spiders.ListPages
import TenderPhase1.Foundation.OrderedRows
import TenderPhase1.Notices.ListLaw
import TenderPhase1.Crawler.ArrivalOrder
import TenderPhase1.Crawler.DedupKeys
import TenderPhase1.Crawler.DuplicateFlags
import TenderPhase1.Crawler.PublishedDates
import TenderPhase1.Crawler.PublishedEnvelope
import TenderPhase1.Sources.ScheduleAgreement
import TenderPhase1.Foundation.FirstOccurrences
import TenderPhase1.Spiders.AnhuiListPage
import TenderPhase1.Spiders.DealListIsolation
import TenderPhase1.Spiders.ListRuns
import TenderPhase1.Spiders.ListSkips
import TenderPhase1.Crawler.UrlNormalForm
import TenderPhase1.Crawler.DocumentLinks
import TenderPhase1.Spiders.PageDocuments
import TenderPhase1.Admin.CsrfTokens
import TenderPhase1.Crawler.BudgetAgreement
import TenderPhase1.Crawler.NoticeColumns
import TenderPhase1.Crawler.UrlEnds
import TenderPhase1.Foundation.SuffixCode
import TenderPhase1.Notices.RelatedNotices
import TenderPhase1.Sources.PartialUpdates
import TenderPhase1.Sources.SourceHealth
import TenderPhase1.Spiders.PaginationTarget
import TenderPhase1.Spiders.RecordRoundTrip
import TenderPhase1.Spiders.TitleNormalForm
import TenderPhase1.Foundation.CsvText
import TenderPhase1.Notices.NoticeExport
import TenderPhase1.Foundation.FieldTexts
import TenderPhase1.Migrations.SourceMutex
import TenderPhase1.Migrations.StructuredContext
import TenderPhase1.Admin.ErrorList
import TenderPhase1.Foundation.QueryParams
import TenderPhase1.Migrations.SourceCodes
import TenderPhase1.Notices.ListLinks
import TenderPhase1.Jobs.Progress
import TenderPhase1.Sources.DemoSources
import TenderPhase1.Admin.BasicAuth
import TenderPhase1.Admin.LogLines
import TenderPhase1.Crawler.StagingFiles
import TenderPhase1.Foundation.SortedJson
import TenderPhase1.Spiders.RecordHash
