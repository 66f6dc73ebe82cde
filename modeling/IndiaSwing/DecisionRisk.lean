import Mathlib.Algebra.Order.Ring.Rat
import Mathlib.Data.Prod.Lex
import Mathlib.Data.Rat.Floor
import Mathlib.Data.String.Basic
import IndiaSwing.DecisionInputs
import IndiaSwing.Lib.KeySort

namespace IndiaSwing

open ExceptGuards KeySort

namespace Decision

section Arithmetic

/-- A decimal context with its traps: an operation rounds its exact result, or raises. -/
structure TrappingContext where
  round : ℚ → Except PyException ℚ

namespace TrappingContext

/-- The context that neither rounds nor raises. -/
def exact : TrappingContext := ⟨.ok⟩

variable (ctx : TrappingContext)

def add (a b : ℚ) : Except PyException ℚ := ctx.round (a + b)

def sub (a b : ℚ) : Except PyException ℚ := ctx.round (a - b)

def mul (a b : ℚ) : Except PyException ℚ := ctx.round (a * b)

def div (a b : ℚ) : Except PyException ℚ := ctx.round (a / b)

end TrappingContext

end Arithmetic

section Risk

variable (ctx : TrappingContext)

/-- `floor_units` -/
def floorUnits (value : ℚ) : ℤ := if value ≤ 0 then 0 else ⌊value⌋

structure RiskEvaluation where
  approved : Bool
  decision : Option TradeDecision
  reasons : List String
  deriving DecidableEq, Repr

/-- The reasons that come before the amounts, with the two halts that negate a limit. -/
def haltReasons (policy : RiskPolicy) (setup : TradeSetup) (research : ResearchAssessment)
    (portfolio : PortfolioState) (lossHalt drawdownHalt : ℚ) : List String :=
  findings [
    (research.verdict ≠ .approve, "research verdict is " ++ research.verdict.value),
    (setup.earliestEntryAt.instant ≤ setup.decisionTime, "entry is not strictly after the decision time"),
    (policy.maxOpenRisk ≤ portfolio.openRisk, "portfolio open-risk limit is already exhausted"),
    (policy.maxOpenPositions ≤ portfolio.openPositions,
      "maximum number of open positions is already reached"),
    (portfolio.dailyRealizedPnl ≤ lossHalt, "daily loss halt is active"),
    (portfolio.pilotRealizedPnl ≤ drawdownHalt, "pilot drawdown halt is active"),
    (setup.entryExpiresAt = none, "entry validity window is missing"),
    (policy.requireValidatedProbabilities && setup.probabilityStatus ≠ .validated,
      "probability estimate is not validated"),
    (policy.requireValidatedProbabilities && setup.calibrationSampleSize < policy.minCalibrationSampleSize,
      "probability calibration sample is too small")]

/-- The amounts that an evaluation calculates. -/
structure RiskAmounts where
  costPerShare : ℚ
  netLossPerShare : ℚ
  netRewardPerShare : ℚ
  netRewardRisk : ℚ
  expectedR : ℚ
  quantity : ℤ
  deriving DecidableEq, Repr

/-- The arithmetic of `evaluate` up to the quantity. -/
def riskAmounts (policy : RiskPolicy) (candidate : Candidate) (portfolio : PortfolioState) :
    Except PyException RiskAmounts := do
  let setup := candidate.setup
  let costBps := max policy.estimatedRoundTripCostBps candidate.signals.estimatedCostBps
  let costPerShare ← ctx.div (← ctx.mul setup.entryHigh costBps) 10000
  let netLossPerShare ← ctx.add (← ctx.sub setup.entryHigh setup.stop) costPerShare
  let netRewardPerShare ← ctx.sub (← ctx.sub setup.target setup.entryHigh) costPerShare
  let netRewardRisk ←
    if netLossPerShare ≤ 0 ∨ netRewardPerShare ≤ 0 then pure 0 else ctx.div netRewardPerShare netLossPerShare
  let timeProbability ← ctx.sub (← ctx.sub 1 setup.targetProbability) setup.stopProbability
  let expectedR ← ctx.add
    (← ctx.sub (← ctx.mul setup.targetProbability netRewardRisk) setup.stopProbability)
    (← ctx.mul timeProbability setup.expectedTimeExitR)
  let remainingOpenRisk ← ctx.sub policy.maxOpenRisk portfolio.openRisk
  let remainingExposure ← ctx.sub policy.maxGrossExposure portfolio.grossExposure
  let remainingCash ← ctx.sub portfolio.capital portfolio.grossExposure
  let liquidityNotional ← ctx.mul candidate.instrument.medianDailyTradedValue policy.maxTurnoverParticipation
  let notionalCap := min (min (min policy.maxPositionNotional remainingExposure) remainingCash) liquidityNotional
  let riskBudget := min policy.perTradeRisk remainingOpenRisk
  let byRisk ← if 0 < netLossPerShare then floorUnits <$> ctx.div riskBudget netLossPerShare else pure 0
  let byNotional ← if 0 < setup.entryHigh then floorUnits <$> ctx.div notionalCap setup.entryHigh else pure 0
  return ⟨costPerShare, netLossPerShare, netRewardPerShare, netRewardRisk, expectedR, min byRisk byNotional⟩

/-- The reasons that the amounts give. -/
def amountReasons (policy : RiskPolicy) (amounts : RiskAmounts) : List String :=
  let nonPositive : Bool := amounts.netLossPerShare ≤ 0 || amounts.netRewardPerShare ≤ 0
  findings [
    (nonPositive, "setup has non-positive net risk or reward"),
    (!nonPositive && amounts.netRewardRisk < policy.minNetRewardRisk,
      "net reward-to-risk is below the policy minimum"),
    (amounts.expectedR < policy.minExpectedR, "cost-adjusted expected R is below the policy minimum"),
    (amounts.quantity < 1, "risk, exposure, or liquidity caps produce zero quantity")]

/-- `decision_material` -/
def buyMaterial (policy : RiskPolicy) (candidate : Candidate) (research : ResearchAssessment) (rank : ℤ)
    (referenceReadiness : String) (executionEligible : Bool) (amounts : RiskAmounts)
    (plannedMaxLoss estimatedCost : ℚ) : TradeDecision where
  action := .buy
  signalId := .absent
  decisionTime := candidate.setup.decisionTime
  symbol := some candidate.instrument.symbol
  quantity := amounts.quantity
  entryLow := some candidate.setup.entryLow
  entryHigh := some candidate.setup.entryHigh
  stop := some candidate.setup.stop
  target := some candidate.setup.target
  plannedMaxLoss := plannedMaxLoss
  estimatedCost := estimatedCost
  netRewardRisk := amounts.netRewardRisk
  expectedR := amounts.expectedR
  reasons := [candidate.setup.setupReason, candidate.setup.stopReason, candidate.setup.targetReason]
  thesis := research.thesis
  bearCase := research.bearCase
  cancelConditions := candidate.setup.cancelConditions
  metadata := [("rank", .written (.int rank)), ("instrument_id", .of candidate.instrument.instrumentId),
    ("listing_id", .of candidate.instrument.listingId),
    ("instrument_fingerprint", .written candidate.instrument.contentFingerprint),
    ("universe_snapshot_id", .written candidate.instrument.universeSnapshotId),
    ("risk_policy", .of policy.policyVersion), ("forecast_model", candidate.forecast.modelVersion),
    ("research_model", research.modelVersion)]
  targetProbability := candidate.setup.targetProbability
  stopProbability := candidate.setup.stopProbability
  probabilityStatus := candidate.setup.probabilityStatus
  calibrationSampleSize := candidate.setup.calibrationSampleSize
  earliestEntryAt := some candidate.setup.earliestEntryAt
  entryExpiresAt := candidate.setup.entryExpiresAt
  maxHoldingSessions := candidate.setup.maxHoldingSessions
  orderType := "LIMIT"
  referenceReadiness := referenceReadiness
  executionEligible := executionEligible

variable (policy : RiskPolicy) (candidate : Candidate) (research : ResearchAssessment)
  (portfolio : PortfolioState) (rank : ℤ) (identityContext : ContentId) (referenceReadiness : String)
  (executionEligible : Bool)

/-- The end of `evaluate`, when no reason stands against the trade. -/
def approveTrade (amounts : RiskAmounts) : Except PyException TradeDecision := do
  let plannedMaxLoss ← ctx.mul amounts.netLossPerShare amounts.quantity
  let estimatedCost ← ctx.mul amounts.costPerShare amounts.quantity
  let material := buyMaterial policy candidate research rank referenceReadiness executionEligible amounts
    plannedMaxLoss estimatedCost
  let candidateId ← candidate.identity
  let researchId ← research.identity
  let materialId ← material.material
  let decision := { material with
    signalId := .ofFields "trade-signal-v3" [identityContext, candidateId, researchId, portfolio.identity,
      policy.identity, .int rank, materialId] }
  decision.check
  return decision

/-- `RiskEngine.evaluate` -/
def evaluateRisk : Except PyException RiskEvaluation := do
  let lossHalt ← ctx.round (-policy.maxDailyLoss)
  let drawdownHalt ← ctx.round (-policy.maxPilotDrawdown)
  let amounts ← riskAmounts ctx policy candidate portfolio
  let reasons := haltReasons policy candidate.setup research portfolio lossHalt drawdownHalt ++
    amountReasons policy amounts
  if reasons ≠ [] then return ⟨false, none, reasons⟩
  else do
    let decision ← approveTrade ctx policy candidate research portfolio rank identityContext
      referenceReadiness executionEligible amounts
    return ⟨true, some decision, []⟩

end Risk

end Decision

end IndiaSwing
