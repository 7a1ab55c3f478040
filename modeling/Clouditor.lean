import Clouditor.Transitions
import Clouditor.AppendLoops
import Clouditor.PagedCalls
import Clouditor.SeparatedTexts
import Clouditor.TokenStages
import Clouditor.NeighbourScans
import Clouditor.FairRuns
import Clouditor.ErrorGroups
import Clouditor.ResultSlots
import Clouditor.LockPrograms
import Clouditor.LockedStages
import Clouditor.ProtoText
import Clouditor.RegoValues
import Clouditor.StructDecoding
import Clouditor.SQLConditions
import Clouditor.SQLGroups
import Clouditor.SQLRanking
import Clouditor.Requests
import Clouditor.FieldSerializers
import Clouditor.MetricRanges
import Clouditor.Pagination
import Clouditor.PageChains
import Clouditor.PageBounds
import Clouditor.Base64
import Clouditor.WireFormat
import Clouditor.PageTokens
import Clouditor.EvaluationData
import Clouditor.EvaluationAggregation
import Clouditor.EvaluationQuery
import Clouditor.EvaluationRun
import Clouditor.AssuranceLevels
import Clouditor.ControlLookup
import Clouditor.EvaluationVerdict
import Clouditor.EvaluationManual
import Clouditor.ManualCreation
import Clouditor.EvaluationGroups
import Clouditor.EvaluationSlots
import Clouditor.EvaluationJobs
import Clouditor.EvaluationRights
import Clouditor.MemoTable
import Clouditor.RegoEval
import Clouditor.EvalLocks
import Clouditor.RegoHistory
import Clouditor.QueryCache
import Clouditor.MetricPolicies
import Clouditor.PolicyTimes
import Clouditor.RuntimeVersions
import Clouditor.AssessmentConfiguration
import Clouditor.KeyedRows
import Clouditor.CatalogLoading
import Clouditor.MetricStore
import Clouditor.MetricConfigurations
import Clouditor.MetricLifecycle
import Clouditor.MetricCoherence
import Clouditor.ConfigurationRaces
import Clouditor.EventSubscribers
import Clouditor.ScopedRequests
import Clouditor.WriteIsolation
import Clouditor.RequestEffects
import Clouditor.StoredRows
import Clouditor.Interleavings
import Clouditor.DiscoveredResources
import Clouditor.BucketPolicies
import Clouditor.KubernetesResources
import Clouditor.AzureResources
import Clouditor.AzureBackups
import Clouditor.AzureStorageAccounts
import Clouditor.AzureRuns
import Clouditor.CipherSuites
import Clouditor.RetentionPeriods
import Clouditor.PagerCalls
import Clouditor.LazyConnections
import Clouditor.AzureIds
import Clouditor.SnakeCaseNames
import Clouditor.DiscoveryStarts
import Clouditor.ScopedLists
import Clouditor.ResourceTypes
import Clouditor.GraphEdges
import Clouditor.ReadIsolation
import Clouditor.CloudServiceLists
import Clouditor.Authentication
import Clouditor.ListOrdering
import Clouditor.StreamTable
import Clouditor.StreamWorld
import Clouditor.SingleSender
import Clouditor.StreamDelivery
import Clouditor.MessageStreams
import Clouditor.EvidenceHandling
import Clouditor.DiscoveryEvidences
import Clouditor.StreamAccounts
import Clouditor.EvidencePipeline
import Clouditor.ConcurrentRequests
import Clouditor.AwsCompute
import Clouditor.PagesUnderChanges
import Clouditor.CliSessions
import Clouditor.HookRegistries
import Clouditor.BundledPolicies
import Clouditor.MetricCoverage
import Clouditor.BundledEvaluations
