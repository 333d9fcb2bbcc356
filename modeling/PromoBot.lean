import PromoBot.Lib.TransitionSystem
import PromoBot.Lib.SqlTable
import PromoBot.Lib.Tickets
import PromoBot.Lib.PyText
import PromoBot.Domain.StateMachines
import PromoBot.Database.Deliveries
import PromoBot.Delivery.Service
import PromoBot.Delivery.Outbox
import PromoBot.Relay.Models
import PromoBot.Database.SourceMessages
import PromoBot.Relay.Queue
import PromoBot.Relay.Processor
import PromoBot.Relay.Fencing
import PromoBot.Relay.Recovery
import PromoBot.Database.Candidates
import PromoBot.Lib.StateMachine
import PromoBot.Database.Refinement
import PromoBot.Database.Checkpoints
import PromoBot.Relay.Catchup
import PromoBot.Telegram.Monitor
import PromoBot.Telegram.Handover
import PromoBot.Database.ShadowDeliveries
import PromoBot.Affiliate.ShadowDelivery
import PromoBot.Affiliate.AtMostOnce
import PromoBot.Lib.Regex
import PromoBot.Lib.PyUrl
import PromoBot.Stores.Urls
import PromoBot.Relay.Parser
import PromoBot.Lib.Fallible
import PromoBot.Lib.PyJson
import PromoBot.Providers.LinkGenerate
import PromoBot.Database.History
import PromoBot.Database.Proofs
import PromoBot.Stores.ShortLinks
import PromoBot.Affiliate.Conversion
import PromoBot.Affiliate.Generation
import PromoBot.Affiliate.Transitions
import PromoBot.Lib.SingleFlight
import PromoBot.Affiliate.SingleFlight
import PromoBot.Affiliate.Stranding
import PromoBot.Affiliate.Identities
import PromoBot.Affiliate.Replacements
import PromoBot.Lib.Cut
import PromoBot.Relay.Tokens
import PromoBot.Providers.CoinShadow
import PromoBot.Affiliate.Rendering
import PromoBot.Affiliate.Reuse
import PromoBot.Affiliate.Enrichment
import PromoBot.Lib.PyDict
import PromoBot.Lib.Trace
import PromoBot.Providers.Top
import PromoBot.Providers.Transport
import PromoBot.Providers.Audit
import PromoBot.Affiliate.SendAccounting
import PromoBot.Affiliate.ExactAccounts
import PromoBot.Lib.UrlRoundTrip
import PromoBot.Stores.Canonical
import PromoBot.Database.SourceMessageLinks
import PromoBot.Relay.Links
import PromoBot.Relay.Deduplication
import PromoBot.Relay.Coherence
import PromoBot.Database.CoinEvidence
import PromoBot.Affiliate.CoinGeneration
import PromoBot.Affiliate.EvidenceCoherence
import PromoBot.Affiliate.EvidenceLockstep
import PromoBot.Database.LinkUses
import PromoBot.Affiliate.ShadowPreviews
import PromoBot.Affiliate.DeliveryUses
import PromoBot.Affiliate.UseLockstep
import PromoBot.Lib.Slots
import PromoBot.Relay.Workers
import PromoBot.Relay.Draining
import PromoBot.Affiliate.ShadowRunController
import PromoBot.Affiliate.ShadowListener
import PromoBot.Telegram.ShadowEvents
import PromoBot.Telegram.EventAccounting
import PromoBot.Affiliate.PreviewValidation
import PromoBot.Lib.UrlJoin
import PromoBot.Security.UrlExpander
import PromoBot.Security.ExpanderFence
import PromoBot.Lib.PyDecimal
import PromoBot.Providers.Discovery
import PromoBot.Discovery.Ranking
import PromoBot.Database.DiscoveryCache
import PromoBot.Database.Discoveries
import PromoBot.Database.DiscoveryEffects
import PromoBot.Discovery.Scanner
import PromoBot.Discovery.Steps
import PromoBot.Discovery.Ledger
import PromoBot.Discovery.QueryBudget
import PromoBot.Discovery.Accounting
import PromoBot.Discovery.SkuMatcher
import PromoBot.Discovery.SkuRanking
import PromoBot.Database.SkuRefinements
import PromoBot.Discovery.SkuRunner
import PromoBot.Database.SkuEffects
import PromoBot.Discovery.SkuSteps
import PromoBot.Discovery.SkuBooks
import PromoBot.Discovery.SkuAccounting
import PromoBot.Discovery.Frozen
import PromoBot.Lib.DecimalText
import PromoBot.Providers.DiscoveryParser
import PromoBot.Discovery.CacheReplay
import PromoBot.Lib.Substitution
import PromoBot.Observability.Redaction
import PromoBot.Observability.Assignments
import PromoBot.Observability.Noninterference
import PromoBot.Lib.Raises
import PromoBot.Relay.ExpanderErrors
import PromoBot.Lib.Preferred
import PromoBot.Lib.QueryString
import PromoBot.Stores.Idempotence
import PromoBot.Security.ShortLinkProduct
import PromoBot.Affiliate.ProductAgreement
import PromoBot.Security.ShortLinkDiagnostics
import PromoBot.Security.ShortLinkResolver
import PromoBot.Security.ShortLinkSafety
import PromoBot.Providers.TopWire
import PromoBot.Lib.Splice
import PromoBot.Affiliate.CoinOccurrences
import PromoBot.Lib.UrlParts
import PromoBot.Relay.DroppedLinks
import PromoBot.Providers.Offers
import PromoBot.Database.Offers
import PromoBot.Affiliate.Persistence
import PromoBot.Lib.Utf16
import PromoBot.Telegram.Adaptation
import PromoBot.Telegram.LinkOrder
import PromoBot.Providers.LinkMatching
import PromoBot.Discovery.SkuDecision
import PromoBot.Lib.RowOrder
import PromoBot.Database.SkuRankOrder
import PromoBot.Lib.DecimalOrder
import PromoBot.Discovery.RankingLaws
import PromoBot.Lib.Lookup
import PromoBot.Lib.JsonText
import PromoBot.Relay.MessageJson
import PromoBot.Relay.MessageIdentity
import PromoBot.Lib.DbSession
import PromoBot.Affiliate.Atomicity
import PromoBot.Migrations.CandidateBackfill
import PromoBot.Lib.PyStr
import PromoBot.Lib.Verdict
import PromoBot.Providers.ResponseFields
import PromoBot.Providers.Parsing
import PromoBot.Providers.ParsingVerdicts
import PromoBot.Providers.LinkVerdicts
import PromoBot.Providers.DiscoverySku
import PromoBot.Providers.DiscoveryVerdicts
import PromoBot.Providers.DiscoverySkuVerdicts
import PromoBot.Providers.ClosedErrors
import PromoBot.Lib.PyInt
import PromoBot.Lib.Segments
import PromoBot.Telegram.MessageLinks
import PromoBot.Lib.Calendar
import PromoBot.Lib.PyDatetime
import PromoBot.Lib.SqlWhere
import PromoBot.Affiliate.HistoryQuery
import PromoBot.Affiliate.HistoryFilters
import PromoBot.Security.PinnedConnections
import PromoBot.Lib.Spans
import PromoBot.Security.WrapperLinks
import PromoBot.Affiliate.MultiPreviews
import PromoBot.Affiliate.MultiOutcomes
import PromoBot.Affiliate.MultiStages
import PromoBot.Affiliate.MultiPreviewSafety
import PromoBot.Affiliate.LegacyTransitions
import PromoBot.Affiliate.LegacyTransitionSafety
import PromoBot.Providers.Contracts
import PromoBot.Providers.ContractsWire
import PromoBot.Discovery.Queries
import PromoBot.Discovery.ScanSteps
import PromoBot.Discovery.CacheProvenance
import PromoBot.Lib.Progress
import PromoBot.Discovery.ScanProgress
import PromoBot.Discovery.Report
import PromoBot.Discovery.CallOrder
import PromoBot.Affiliate.SendClearance
import PromoBot.Affiliate.AuditTrail
