import AvoCorrelate.Lib.Tables
import AvoCorrelate.Lib.Transactions
import AvoCorrelate.Contracts
import AvoCorrelate.Domain
import AvoCorrelate.Persistence
import AvoCorrelate.Services.Run
import AvoCorrelate.Services.Budget
import AvoCorrelate.Services.Activity
import AvoCorrelate.Services.Evidence
import AvoCorrelate.Services.Terminal
import AvoCorrelate.Effects.Run
import AvoCorrelate.Effects.Budget
import AvoCorrelate.Effects.Activity
import AvoCorrelate.Effects.Evidence
import AvoCorrelate.Effects.Terminal
import AvoCorrelate.Journal
import AvoCorrelate.Ledger
import AvoCorrelate.Cap
import AvoCorrelate.Reconciliation
import AvoCorrelate.Candidates
import AvoCorrelate.Lineage
import AvoCorrelate.Review
import AvoCorrelate.Lib.Interleaving
import AvoCorrelate.ExactCas.Journal
import AvoCorrelate.ExactCas.Controller
import AvoCorrelate.ExactCas.JournalLogic
import AvoCorrelate.ExactCas.ControllerLogic
import AvoCorrelate.ExactCas.Dispatch
import AvoCorrelate.ExactCas.Rejection
import AvoCorrelate.ExactCas.Recovery
import AvoCorrelate.ExactCas.Completion
import AvoCorrelate.ExactCas.Reobservation
import AvoCorrelate.Lib.Served
import AvoCorrelate.Promotion.Documents
import AvoCorrelate.Promotion.Records
import AvoCorrelate.Promotion.DrillRecords
import AvoCorrelate.Promotion.Journal
import AvoCorrelate.Promotion.Service
import AvoCorrelate.Promotion.JournalLogic
import AvoCorrelate.Promotion.ServiceLogic
import AvoCorrelate.Promotion.Merge
import AvoCorrelate.Promotion.Outcomes
import AvoCorrelate.Promotion.Fencing
import AvoCorrelate.Promotion.Rollback
import AvoCorrelate.Promotion.Pending
import AvoCorrelate.Promotion.RollbackRecovery
import AvoCorrelate.Promotion.RollbackReplay
import AvoCorrelate.Graduation.Documents
import AvoCorrelate.Graduation.Disk
import AvoCorrelate.Graduation.Journal
import AvoCorrelate.Graduation.Recording
import AvoCorrelate.Graduation.Executor
import AvoCorrelate.Graduation.Reading
import AvoCorrelate.Graduation.Forms
import AvoCorrelate.Graduation.Faultless
import AvoCorrelate.Graduation.JournalLogic
import AvoCorrelate.Graduation.Dispatching
import AvoCorrelate.Graduation.Verdicts
import AvoCorrelate.Graduation.Succession
import AvoCorrelate.Graduation.Branches
import AvoCorrelate.Graduation.Exclusion
import AvoCorrelate.Graduation.Eligibility
import AvoCorrelate.Graduation.Sequencing
import AvoCorrelate.Lib.Alone
import AvoCorrelate.Graduation.Carrying
import AvoCorrelate.Graduation.Steps
import AvoCorrelate.Graduation.Chains
import AvoCorrelate.Graduation.Coordinator
import AvoCorrelate.Graduation.Resuming
import AvoCorrelate.Graduation.Freeing
import AvoCorrelate.Lib.Parts
import AvoCorrelate.Graduation.Evidence
import AvoCorrelate.MainRollback.Records
import AvoCorrelate.MainRollback.Forms
import AvoCorrelate.MainRollback.Coordinator
import AvoCorrelate.MainRollback.Refusal
import AvoCorrelate.Lib.Told
import AvoCorrelate.Lib.Turns
import AvoCorrelate.SyntheticValidation.Contracts
import AvoCorrelate.SyntheticValidation.Journal
import AvoCorrelate.SyntheticValidation.Service
import AvoCorrelate.SyntheticValidation.Provider
import AvoCorrelate.SyntheticValidation.JournalLogic
import AvoCorrelate.SyntheticValidation.Creation
import AvoCorrelate.SyntheticValidation.Quarantine
import AvoCorrelate.SyntheticValidation.Uncertainty
import AvoCorrelate.MainRollback.Cleanup.Records
import AvoCorrelate.MainRollback.Cleanup.Journal
import AvoCorrelate.MainRollback.Cleanup.Coordinator
import AvoCorrelate.MainRollback.Cleanup.Provider
import AvoCorrelate.MainRollback.Cleanup.JournalLogic
import AvoCorrelate.MainRollback.Cleanup.Dispatching
import AvoCorrelate.MainRollback.Cleanup.Convergence
import AvoCorrelate.MainRollback.Rerunning
import AvoCorrelate.Promotion.Issuing
import AvoCorrelate.Campaign.Records
import AvoCorrelate.Campaign.Journal
import AvoCorrelate.Campaign.Service
import AvoCorrelate.Campaign.ServiceLogic
import AvoCorrelate.Campaign.Packaging
import AvoCorrelate.Activities
import AvoCorrelate.Resolving
import AvoCorrelate.Reserving
import AvoCorrelate.Worker.Scheduler
import AvoCorrelate.Worker.Handlers
import AvoCorrelate.Worker.FollowUp
import AvoCorrelate.Lib.Streaks
import AvoCorrelate.Lib.Checks
import AvoCorrelate.Lib.Json
import AvoCorrelate.MainLedger.Contracts
import AvoCorrelate.MainLedger.Accounting
import AvoCorrelate.MainLedger.Threshold
import AvoCorrelate.MainLedger.Journal
import AvoCorrelate.MainLedger.Recording
import AvoCorrelate.MainLedger.Reading
import AvoCorrelate.MainLedger.Chain
import AvoCorrelate.MainLedger.Steps
import AvoCorrelate.MainLedger.Invariant
import AvoCorrelate.MainLedger.Index
import AvoCorrelate.MainLedger.Interruption
import AvoCorrelate.MainLedger.Service
import AvoCorrelate.Lib.Crashes
import AvoCorrelate.Worker.Variation
import AvoCorrelate.Paths
import AvoCorrelate.Boundary
import AvoCorrelate.Approval
import AvoCorrelate.Replay
import AvoCorrelate.History
import AvoCorrelate.Graduation.Refusing
import AvoCorrelate.RollbackAuthority.Adopting
import AvoCorrelate.MainRollback.Resolved
import AvoCorrelate.Promotion.Presentation
import AvoCorrelate.Expiry
import AvoCorrelate.Leases
import AvoCorrelate.MainLedger.Agreement
import AvoCorrelate.Settlement
import AvoCorrelate.SyntheticValidation.Cleanup
import AvoCorrelate.Comparison
import AvoCorrelate.Worker.Usage
import AvoCorrelate.Lib.Text
import AvoCorrelate.Lib.Base64
import AvoCorrelate.Canonical
import AvoCorrelate.Capabilities
import AvoCorrelate.SourceTree
import AvoCorrelate.Git.Topology
import AvoCorrelate.Git.ChangedPaths
import AvoCorrelate.Git.Patch
import AvoCorrelate.MountInfo
import AvoCorrelate.Tools.Edit
import AvoCorrelate.Tools.Broker
import AvoCorrelate.Lib.Dicts
import AvoCorrelate.StructuredSchema
