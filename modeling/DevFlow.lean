import DevFlow.Library.Raising
import DevFlow.Library.Orders
import DevFlow.Library.Regex
import DevFlow.Library.Documents
import DevFlow.Library.Sha256
import DevFlow.Library.Runs
import DevFlow.Library.Tables
import DevFlow.Library.Cursors
import DevFlow.Library.Locks
import DevFlow.Library.Fence
import DevFlow.Library.Durable
import DevFlow.Library.Plans
import DevFlow.Persistence.Rows
import DevFlow.Persistence.RunLog
import DevFlow.Persistence.TokenBudget
import DevFlow.Persistence.TokenBudgetRuns
import DevFlow.Persistence.BudgetLocks
import DevFlow.Persistence.PlanningBudget
import DevFlow.Persistence.Leases
import DevFlow.Persistence.Evidence
import DevFlow.Persistence.LeaseRuns
import DevFlow.Persistence.Takeover
import DevFlow.Persistence.Dispatch
import DevFlow.Persistence.Reconciliation
import DevFlow.Persistence.History
import DevFlow.Persistence.Ledger
import DevFlow.Dispatch.Delivery
import DevFlow.Dispatch.Safety
import DevFlow.Dispatch.DeliveryRuns
import DevFlow.Dispatch.Consistency
import DevFlow.Models.Dag
import DevFlow.Models.DagOrder
import DevFlow.Models.DagClosure
import DevFlow.Models.DagQueries
import DevFlow.Models.Texts
import DevFlow.Models.TaskRecords
import DevFlow.Models.DagRecords
import DevFlow.Workspace.Scope
import DevFlow.Persistence.DagStore
import DevFlow.Models.RemainingDag
import DevFlow.Models.Checkpoint
import DevFlow.Workspace.Git
import DevFlow.Workspace.Ancestry
import DevFlow.Workspace.Worktree
import DevFlow.Models.Merge
import DevFlow.Models.MultiRun
import DevFlow.Models.Integration
import DevFlow.Runtime.RunReconciler
import DevFlow.Runtime.Recovery
import DevFlow.Runtime.ReconcileOutcome
import DevFlow.Runtime.Concurrency
import DevFlow.Runtime.ReconcileProgress
import DevFlow.Runtime.Classification
import DevFlow.Runtime.TornReads
import DevFlow.Workers.Executor
import DevFlow.Workers.ReleaseEvidence
import DevFlow.Runtime.ConflictEvidence
import DevFlow.Runtime.IntegrationRepair
import DevFlow.Runtime.RepairRecovery
import DevFlow.Runtime.CompletedRepair
import DevFlow.Runtime.Scheduler
import DevFlow.Runtime.SchedulerStates
import DevFlow.Runtime.SchedulerRuns
import DevFlow.Runtime.MergeQueue
import DevFlow.Persistence.MultiCompletion
import DevFlow.Runtime.ExecutionBase
import DevFlow.Runtime.ProductController
import DevFlow.Runtime.SchedulerPlan
import DevFlow.Runtime.AbortedGate
import DevFlow.Runtime.QueueHistory
import DevFlow.Runtime.Orchestrator
import DevFlow.Workers.Backend
import DevFlow.Workers.Slices
import DevFlow.Workers.EvidenceRows
import DevFlow.Workers.ResumeStrategy
import DevFlow.Workers.WorkerCommits
import DevFlow.Workers.SingleTaskEnd
import DevFlow.Api.ResumableCheckpoint
import DevFlow.Api.DerivedRuns
import DevFlow.Api.ProductInvariant
import DevFlow.Api.Derivations
import DevFlow.Api.CompletedWork
import DevFlow.Persistence.Publication
import DevFlow.Persistence.PublicationRuns
import DevFlow.Workspace.Provision
import DevFlow.Workspace.SynchronizedBase
import DevFlow.Api.Baseline
import DevFlow.Api.EventStream
import DevFlow.Library.Lines
import DevFlow.Library.Utf8
import DevFlow.Library.DecodeErrors
import DevFlow.Library.Groups
import DevFlow.Library.Numerals
import DevFlow.Workspace.ChangedFiles
import DevFlow.Workspace.WorkingTree
import DevFlow.Library.Substrings
import DevFlow.Library.Scans
import DevFlow.Tools.Toolbox
import DevFlow.Tools.Patches
import DevFlow.Context.Relevance
import DevFlow.Context.RegionCoverage
import DevFlow.Tools.Ranges
import DevFlow.Tools.PathScopes
import DevFlow.Tools.SymbolSource
import DevFlow.Tools.Searching
import DevFlow.Library.Trailers
import DevFlow.Runtime.CommitMessages
import DevFlow.Library.JsonStrings
import DevFlow.Runtime.DecisionCommits
import DevFlow.Library.Repeats
import DevFlow.Workers.EvidenceKeys
import DevFlow.Workers.Continuation
import DevFlow.Workers.ContinuationRuns
import DevFlow.Workers.ContinuationSlices
import DevFlow.Workers.ContinuationKeys
import DevFlow.Workers.ContinuationEvidence
import DevFlow.Models.WorkPackages
import DevFlow.Planning.Compilation
import DevFlow.Planning.CompiledPlan
import DevFlow.Library.Doubles
import DevFlow.Library.Bisection
import DevFlow.Context.TokenEstimator
import DevFlow.Models.AgentMessages
import DevFlow.Context.Retention
import DevFlow.Context.RetentionRuns
import DevFlow.Context.RequestEstimates
import DevFlow.Agents.PlannerRequests
import DevFlow.Agents.PlannerCapacity
import DevFlow.Models.RemainingQueries
import DevFlow.Library.ShellWords
import DevFlow.Models.VerificationRecords
import DevFlow.Verification.Commands
import DevFlow.Verification.Verifier
import DevFlow.Verification.HardGate
import DevFlow.Models.RepairRecords
import DevFlow.Verification.FailureReports
import DevFlow.Verification.Sandbox
import DevFlow.Runtime.RepairHandoffs
import DevFlow.Library.Joins
import DevFlow.Library.Words
import DevFlow.Runtime.FailureSignatures
import DevFlow.Runtime.MergeTreeRoundTrip
import DevFlow.Runtime.OrchestratorRuns
import DevFlow.Workflows.EscalationRuns
import DevFlow.Workspace.CommitDiffListing
import DevFlow.Library.Sessions
import DevFlow.Library.JsonReader
import DevFlow.Agents.ToolFailures
import DevFlow.Agents.Developer
import DevFlow.Agents.DeveloperRuns
import DevFlow.Agents.RepeatedFailures
import DevFlow.Api.RecoveryInspection
import DevFlow.Library.Interleaving
import DevFlow.Api.RecoveryRuns
import DevFlow.Workers.ContractGate
import DevFlow.Context.PacketRuns
import DevFlow.Context.Packets
