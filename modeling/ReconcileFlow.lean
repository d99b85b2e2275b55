import ReconcileFlow.ToMathlib.Allocation
import ReconcileFlow.ToMathlib.Checked
import ReconcileFlow.ToMathlib.CircuitBreaker
import ReconcileFlow.ToMathlib.EffectImage
import ReconcileFlow.ToMathlib.EffectRun
import ReconcileFlow.ToMathlib.EvictingTable
import ReconcileFlow.ToMathlib.FirstFit
import ReconcileFlow.ToMathlib.GreedyMatching
import ReconcileFlow.ToMathlib.JsonLines
import ReconcileFlow.ToMathlib.KeyedTable
import ReconcileFlow.ToMathlib.Numerals
import ReconcileFlow.ToMathlib.Reports
import ReconcileFlow.ToMathlib.Separators
import ReconcileFlow.ToMathlib.Snapshot
import ReconcileFlow.Model.AgentProcess
import ReconcileFlow.Model.BackgroundRuns
import ReconcileFlow.Model.ConcurrentDispatch
import ReconcileFlow.Model.ConcurrentRuns
import ReconcileFlow.Model.Config
import ReconcileFlow.Model.Database
import ReconcileFlow.Model.Decimal
import ReconcileFlow.Model.Digest
import ReconcileFlow.Model.Domain
import ReconcileFlow.Model.Environment
import ReconcileFlow.Model.Groq
import ReconcileFlow.Model.Incidents
import ReconcileFlow.Model.InputHash
import ReconcileFlow.Model.Matcher
import ReconcileFlow.Model.Metrics
import ReconcileFlow.Model.Nodes
import ReconcileFlow.Model.Notifications
import ReconcileFlow.Model.Obligations
import ReconcileFlow.Model.Offline
import ReconcileFlow.Model.Parsers
import ReconcileFlow.Model.Progress
import ReconcileFlow.Model.Prompts
import ReconcileFlow.Model.Readers
import ReconcileFlow.Model.Rules
import ReconcileFlow.Model.RunRegistry
import ReconcileFlow.Model.Runtime
import ReconcileFlow.Model.Schemas
import ReconcileFlow.Model.Service
import ReconcileFlow.Model.Smtp
import ReconcileFlow.Model.WebApp
import ReconcileFlow.Soundness.AmountTolerance
import ReconcileFlow.Soundness.AuditTrail
import ReconcileFlow.Soundness.AuditedActions
import ReconcileFlow.Soundness.ContactsMade
import ReconcileFlow.Soundness.BatchIndependence
import ReconcileFlow.Soundness.BlankCells
import ReconcileFlow.Soundness.CallBudget
import ReconcileFlow.Soundness.CancelledRows
import ReconcileFlow.Soundness.ConcurrentDelivery
import ReconcileFlow.Soundness.DecimalText
import ReconcileFlow.Soundness.Decisions
import ReconcileFlow.Soundness.Delivery
import ReconcileFlow.Soundness.DispatchLoop
import ReconcileFlow.Soundness.Frames
import ReconcileFlow.Soundness.FallbackTemplates
import ReconcileFlow.Soundness.FinishedRuns
import ReconcileFlow.Soundness.FuzzyApplication
import ReconcileFlow.Soundness.FuzzyFallback
import ReconcileFlow.Soundness.GreedyPairing
import ReconcileFlow.Soundness.InputIdentity
import ReconcileFlow.Soundness.KeyCompleteness
import ReconcileFlow.Soundness.KeyEncoding
import ReconcileFlow.Soundness.KeyMatching
import ReconcileFlow.Soundness.Lifecycle
import ReconcileFlow.Soundness.LlmContainment
import ReconcileFlow.Soundness.LookupPriority
import ReconcileFlow.Soundness.MatchedAmounts
import ReconcileFlow.Soundness.MismatchKeys
import ReconcileFlow.Soundness.NetAmount
import ReconcileFlow.Soundness.ObligationAccounting
import ReconcileFlow.Soundness.ObligationBuilding
import ReconcileFlow.Soundness.ObligationGroups
import ReconcileFlow.Soundness.ObligationIds
import ReconcileFlow.Soundness.OfflineMaximum
import ReconcileFlow.Soundness.OfflineProposal
import ReconcileFlow.Soundness.OutcomeTold
import ReconcileFlow.Soundness.PaiseRange
import ReconcileFlow.Soundness.Pipeline
import ReconcileFlow.Soundness.ProviderLoad
import ReconcileFlow.Soundness.RegistryBound
import ReconcileFlow.Soundness.Rerun
import ReconcileFlow.Soundness.ResponsibleParty
import ReconcileFlow.Soundness.RowOrder
import ReconcileFlow.Soundness.RowValidation
import ReconcileFlow.Soundness.Guardrail
import ReconcileFlow.Soundness.History
import ReconcileFlow.Soundness.Closing
import ReconcileFlow.Soundness.RunRecords
import ReconcileFlow.Soundness.DryRun
import ReconcileFlow.Soundness.DryRunLifecycle
import ReconcileFlow.Soundness.ConcurrentLifecycle
import ReconcileFlow.Soundness.SendAttempts
import ReconcileFlow.Soundness.SettlementAccounting
import ReconcileFlow.Soundness.SmtpContainment
import ReconcileFlow.Soundness.RunTrail
import ReconcileFlow.Soundness.RegistryRetention
import ReconcileFlow.Soundness.ProgressPolls
import ReconcileFlow.Soundness.CustomerData
import ReconcileFlow.Soundness.Preview
import ReconcileFlow.Soundness.LedgerBalance
import ReconcileFlow.Soundness.CleanBooks
import ReconcileFlow.Soundness.Repair
import ReconcileFlow.Soundness.Waiting
import ReconcileFlow.Soundness.Recipients
import ReconcileFlow.Soundness.RunPages
import ReconcileFlow.Soundness.Metrics
import ReconcileFlow.Soundness.Uploads
import ReconcileFlow.Soundness.ServedRuns
