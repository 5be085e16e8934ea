import MarketSupport.Library.FrozenMap
import MarketSupport.Library.Runs
import MarketSupport.Library.VersionCell
import MarketSupport.Hashing
import MarketSupport.Rendering.ResponseIds
import MarketSupport.State.Root
import MarketSupport.Library.Index
import MarketSupport.State.Publication
import MarketSupport.State.RootStep
import MarketSupport.State.CoordinatorRuns
import MarketSupport.State.RootInvariant
import MarketSupport.Properties.Indexes
import MarketSupport.Properties.Capacities
import MarketSupport.Properties.Clarifications
import MarketSupport.Properties.Concurrency
import MarketSupport.Properties.ActionLedger
import MarketSupport.Properties.Replay
import MarketSupport.Properties.RevisionCapacity
import MarketSupport.Properties.TurnReservations
import MarketSupport.Properties.AdapterResults
import MarketSupport.Properties.AlignmentBounds
import MarketSupport.Properties.GroundingLimit
import MarketSupport.Properties.VerdictRemediation
import MarketSupport.Properties.PlainTextMarkers
import MarketSupport.Properties.MediaMarkers
import MarketSupport.Properties.Downtime
import MarketSupport.Properties.OrderKeys
import MarketSupport.Properties.ResponseFramings
import MarketSupport.Properties.ReportProducts
import MarketSupport.Properties.FailedOperations
import MarketSupport.Properties.PlanAuthority
import MarketSupport.Properties.DeterministicPlans
import MarketSupport.Properties.TurnOrdinals
import MarketSupport.Properties.SessionCapacity
import MarketSupport.Properties.MaterialPackRefs
import MarketSupport.Properties.OutboundActions
import MarketSupport.Properties.DocumentCaching
import MarketSupport.Properties.DocumentSelection
import MarketSupport.Properties.EvidenceBuilding
import MarketSupport.Properties.EvictionOrders
import MarketSupport.Properties.CanonicalDecimals
import MarketSupport.Properties.DeterministicReplies
import MarketSupport.Properties.GroundingAdmission
import MarketSupport.Properties.ComposerAuthority
import MarketSupport.Properties.SanitizedMarkers
import MarketSupport.Properties.AbortedReservations
import MarketSupport.Observability.DirectAudit
import MarketSupport.Prompts.ProviderErrors
import MarketSupport.Prompts.InvocationJournal
import MarketSupport.Prompts.ProviderCalls
import MarketSupport.Prompts.SelectorCache
import MarketSupport.Lifecycle.JournalAudit
import MarketSupport.Lifecycle.AuditProposal
import MarketSupport.Lifecycle.ClosedRows
import MarketSupport.Lifecycle.CallRows
import MarketSupport.Properties.DirectAudits
import MarketSupport.Properties.InvocationAudits
import MarketSupport.Properties.SelectorCaching
import MarketSupport.Recall.OutcomeModels
import MarketSupport.Recall.Service
import MarketSupport.Recall.Flow
import MarketSupport.Properties.Recall
import MarketSupport.Library.Strongest
import MarketSupport.Library.Sections
import MarketSupport.Recall.DocumentQaCorpus
import MarketSupport.Properties.DocumentCorpus
import MarketSupport.Observability.RuntimeTrace
import MarketSupport.Properties.TraceRedaction
