import BitBrat.Routing.Agreement
import BitBrat.Bus.Publishing
import BitBrat.Persistence.Terminal
import BitBrat.Persistence.Refinement
import BitBrat.Router.RuleOrder
import BitBrat.Auth.UserMirror
import BitBrat.Reflex.Interpolation
import BitBrat.Reflex.ReflexValidity
import BitBrat.Egress.Delivered
import BitBrat.Bus.Isolation
import BitBrat.Feedback.FeedbackLaw
import BitBrat.Reflex.CacheConvergence
import BitBrat.State.OptimisticConcurrency
import BitBrat.State.MutationOperators
import BitBrat.Analyzer.SessionWindow
import BitBrat.Analyzer.WindowMemory
import BitBrat.Analyzer.Subscriptions
import BitBrat.Analyzer.ObserverLifecycle
import BitBrat.Scheduler.UpdateRace
import BitBrat.Mcp.AccessControl
import BitBrat.Mcp.WatcherConvergence
import BitBrat.Mcp.RegistryConsistency
import BitBrat.Mcp.ConnectionAgreement
import BitBrat.Mcp.CircuitBreaker
import BitBrat.Prompt.Budget
import BitBrat.Backup.Inverse
import BitBrat.Backup.PgRoundTrip
import BitBrat.Disposition.ReachesBot
import BitBrat.Analyst.WindowAgreement
import BitBrat.Gateway.TokenRevocation
import BitBrat.LlmBot.MemoryBounds
import BitBrat.Brat.ContextCache
import BitBrat.Brat.AgentDevConfinement
import BitBrat.Brat.DeploymentAgreement
import BitBrat.Gateway.ClientIsolation
import BitBrat.Context.Packs
import BitBrat.Ingress.ConnectorDelivery
import BitBrat.OAuth.StateBinding
import BitBrat.Routing.BestCandidate
import BitBrat.Routing.MarkIfSeen
import BitBrat.Bus.DedupeWindow
import BitBrat.Types.DerivedEvent
import BitBrat.Router.Rotation
import BitBrat.Persistence.CrashRetry
import BitBrat.StoryEngine.StoryLog
import BitBrat.Brat.OverlayAgreement
import BitBrat.Release.Integrity
import BitBrat.Persistence.SnapshotEvent
import BitBrat.Auth.Enrichment
import BitBrat.Reflex.ReflexSelector
import BitBrat.Reflex.ReflexService
import BitBrat.Feedback.PromptTemplate
import BitBrat.State.FailureAtomicity
import BitBrat.State.PrefixLookup
import BitBrat.Persistence.TypedQuery
import BitBrat.Analyzer.SnapshotCoverage
import BitBrat.Analyzer.SnapshotRoundTrip
import BitBrat.Analyzer.EvictionPlan
import BitBrat.Analyzer.ReportDelivery
import BitBrat.Prompt.SpecHeap
import BitBrat.Logging.RedactionMemory
import BitBrat.LlmBot.ToolNaming
import BitBrat.Disposition.SnapshotLaws
import BitBrat.Release.ReleaseNotes
import BitBrat.Mcp.RegistrationWrites
import BitBrat.Release.ArchitectureVersion
import BitBrat.Brat.SecureInjection
import BitBrat.Brat.PortAllocation
import BitBrat.Brat.InfrastructureRegistry
import BitBrat.Brat.TaskQueue
import BitBrat.LlmBot.MemoryReducer
import BitBrat.Ingress.ConfigRegistry
import BitBrat.Ingress.GenericEnvelope
import BitBrat.OAuth.TokenStore
import BitBrat.Brat.ConfigRedaction
import BitBrat.Brat.DockerUp
import BitBrat.Common.FeatureGate
import BitBrat.Common.EventContext
import BitBrat.Persistence.StripLaw
import BitBrat.Reflex.ReflexMetrics
import BitBrat.Reflex.FieldAccessor
import BitBrat.Common.Retry
import BitBrat.LlmBot.UserContext
import BitBrat.Brat.ArchitectureInterpolation
import BitBrat.Routing.QueryAnalyzer
import BitBrat.Brat.LogRetrieval
import BitBrat.Brat.Migration
