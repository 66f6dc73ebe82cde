import IndiaSwing.Lib.ExceptFold
import IndiaSwing.Lib.UnitBudget
import IndiaSwing.Timestamps
import IndiaSwing.Quotes
import IndiaSwing.SwingPortfolio
import IndiaSwing.SwingSizing
import IndiaSwing.SwingSizingSafety
import IndiaSwing.SwingSizingBatch
import IndiaSwing.ContentIds
import IndiaSwing.Lib.DecimalContext
import IndiaSwing.Simulator
import IndiaSwing.Lib.SortedTuples
import IndiaSwing.PromotedAllocation
import IndiaSwing.PromotedAllocationBatch
import IndiaSwing.PromotedAllocationSafety
import IndiaSwing.PaperTrades
import IndiaSwing.Lib.FirstHit
import IndiaSwing.Calendar
import IndiaSwing.PaperOutcomes
import IndiaSwing.Lib.OrderedPrefixes
import IndiaSwing.ResolverSteps
import IndiaSwing.ResolverMonotone
import IndiaSwing.Lib.PartialWrites
import IndiaSwing.PaperHistory
import IndiaSwing.Reconciliation
import IndiaSwing.ReconciliationSafety
import IndiaSwing.ResolverLedger
import IndiaSwing.InterruptedReconciliation
import IndiaSwing.LedgerRuns
import IndiaSwing.ReconciliationRuns
import IndiaSwing.OutcomeRecords
import IndiaSwing.OutcomeJob
import IndiaSwing.Portfolio
import IndiaSwing.PortfolioBatch
import IndiaSwing.Lib.LinkedRecords
import IndiaSwing.PortfolioJobs
import IndiaSwing.PortfolioSteps
import IndiaSwing.Lib.ActionRuns
import IndiaSwing.PortfolioRuns
import IndiaSwing.ClosureCoverage
import IndiaSwing.PreparationCoverage
import IndiaSwing.RealizedOutcomes
import IndiaSwing.DailyWorkflow
import IndiaSwing.DailyWorkflowStore
import IndiaSwing.DailyWorkflowRunner
import IndiaSwing.DailyWorkflowRuns
import IndiaSwing.WorkflowAttempts
import IndiaSwing.WorkflowInvariants
import IndiaSwing.WorkflowTerminals
import IndiaSwing.WorkflowRestarts
import IndiaSwing.TrialLifecycle
import IndiaSwing.TrialLifecycleStore
import IndiaSwing.HoldoutReuse
import IndiaSwing.Lib.CreateOnce
import IndiaSwing.EventFiles
import IndiaSwing.PortfolioFiles
import IndiaSwing.TrialFiles
import IndiaSwing.Lib.DigitText
import IndiaSwing.Lib.JsonText
import IndiaSwing.Lib.JsonRoundTrip
import IndiaSwing.Lib.CivilTime
import IndiaSwing.Identity
import IndiaSwing.IdentityText
import IndiaSwing.ContentBinding
import IndiaSwing.IdentityOrder
import IndiaSwing.Lib.JsonRecord
import IndiaSwing.Lib.Utf8Text
import IndiaSwing.Lib.Checked
import IndiaSwing.Lib.TextPatterns
import IndiaSwing.PilotWindows
import IndiaSwing.Arming
import IndiaSwing.ArmingCodec
import IndiaSwing.ArmingRoundTrip
import IndiaSwing.ArmingBinding
import IndiaSwing.Lib.RelatedRuns
import IndiaSwing.TradeIntents
import IndiaSwing.TrialSlippage
import IndiaSwing.Lib.ObjectStore
import IndiaSwing.PaperPilotNotification
import IndiaSwing.Lib.JsonSize
import IndiaSwing.NotificationDelivery
import IndiaSwing.PipelineState
import IndiaSwing.StatePublication
import IndiaSwing.StateManifests
import IndiaSwing.StatePublicationInputs
import IndiaSwing.StateWrites
import IndiaSwing.StatePublicationRuns
import IndiaSwing.Lib.TierSelection
import IndiaSwing.PromotedIntents
import IndiaSwing.PromotedIntentSteps
import IndiaSwing.PromotedIntentSafety
import IndiaSwing.PromotedIntentBatches
import IndiaSwing.Lib.Grouping
import IndiaSwing.IdentityConflicts
import IndiaSwing.IdentityCandidates
import IndiaSwing.IdentityTransitions
import IndiaSwing.IdentityMaterialization
import IndiaSwing.LegacyArchive
import IndiaSwing.LegacyArchiveRows
import IndiaSwing.LegacyArchiveRecords
import IndiaSwing.LegacyArchiveSafety
import IndiaSwing.DecisionInputs
import IndiaSwing.DecisionReferences
import IndiaSwing.DecisionRisk
import IndiaSwing.BackfillPlan
import IndiaSwing.BackfillRunner
import IndiaSwing.BackfillRunnerSteps
import IndiaSwing.BackfillPreservation
import IndiaSwing.BackfillRuns
import IndiaSwing.BackfillResumption
import IndiaSwing.Lib.DecimalPrecision
import IndiaSwing.PortfolioRollover
import IndiaSwing.PortfolioRolloverSteps
import IndiaSwing.PortfolioRolloverChains
import IndiaSwing.PortfolioRolloverPredecessors
import IndiaSwing.Lib.Windows
import IndiaSwing.TechnicalFeatures
import IndiaSwing.TechnicalVectors
import IndiaSwing.TechnicalVectorBounds
import IndiaSwing.TechnicalFeaturePanels
import IndiaSwing.Lib.DecimalRange
import IndiaSwing.CorporateActions
import IndiaSwing.PriceAdjustments
import IndiaSwing.PriceAdjustmentPanels
import IndiaSwing.Lib.Slices
import IndiaSwing.WalkForwardPlans
import IndiaSwing.WalkForwardSplits
import IndiaSwing.IntentEvaluability
import IndiaSwing.PaperBacktest
import IndiaSwing.CostSchedules
import IndiaSwing.EquityCharges
import IndiaSwing.EquityChargeInvariance
import IndiaSwing.FamilyAggregation
import IndiaSwing.Lib.StepDown
import IndiaSwing.HolmGate
import IndiaSwing.Lib.DecimalSigns
import IndiaSwing.SwingSignals
import IndiaSwing.SwingSignalSteps
import IndiaSwing.SwingProposals
import IndiaSwing.SwingProposalCoverage
import IndiaSwing.SwingQuoteGate
import IndiaSwing.SwingRanking
import IndiaSwing.SwingQuoteGateSteps
import IndiaSwing.SwingRankingSteps
import IndiaSwing.Lib.DirectoryTree
import IndiaSwing.StateInventoryParsing
import IndiaSwing.StateTrees
import IndiaSwing.StateTreeInventories
import IndiaSwing.RiskGate
import IndiaSwing.RiskGateBounds
import IndiaSwing.TrialLanguage
import IndiaSwing.TrialAppendRuns
import IndiaSwing.PortfolioChain
import IndiaSwing.IntentRounding
import IndiaSwing.CrossSection
import IndiaSwing.CrossSectionSteps
import IndiaSwing.CrossSectionMonotone
import IndiaSwing.DueWindows
import IndiaSwing.DueWindowPosture
import IndiaSwing.CrossSectionTotality
import IndiaSwing.CrossSectionRenaming
import IndiaSwing.Lib.TickGrid
import IndiaSwing.SwingLevels
import IndiaSwing.BaselineGenerators
import IndiaSwing.Lib.KeySort
import IndiaSwing.BaselineGeneratorSteps
import IndiaSwing.BaselineBatches
import IndiaSwing.Calibration
import IndiaSwing.CalibrationOrder
import IndiaSwing.RegimeEnsemble
import IndiaSwing.RegimeEnsembleSteps
import IndiaSwing.RegimeEnsembleTotality
import IndiaSwing.StateInventorySizes
import IndiaSwing.BhavcopyReconciliation
import IndiaSwing.BhavcopyAgreement
import IndiaSwing.LegacyMto
import IndiaSwing.LegacyMtoGrammar
import IndiaSwing.Lib.DepthFirst
import IndiaSwing.CalendarNavigation
import IndiaSwing.BackfillCoverage
