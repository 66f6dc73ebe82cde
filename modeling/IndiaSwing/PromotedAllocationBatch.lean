import IndiaSwing.PromotedAllocation

namespace IndiaSwing

open ExceptFold (foldItems)
open ExceptGuards

structure PromotedOperationalAllocationOutcome where
  quoteOutcome : PromotedOperationalQuoteOutcome
  portfolioContext : PromotedOperationalPortfolioContext
  allocationPolicy : PromotedOperationalAllocationPolicy
  stateBefore : PromotedOperationalAllocationState
  stateAfter : PromotedOperationalAllocationState
  disposition : PromotedOperationalAllocationDisposition
  reasonCodes : List PromotedOperationalAllocationReason
  operationalQuantity : ℕ
  referenceEntryPrice : Option ℚ
  entryNotional : ℚ
  estimatedRoundTripCost : ℚ
  plannedMaxLoss : ℚ
  operationalNetRewardRisk : ℚ
  deriving DecidableEq

def PromotedOperationalAllocationOutcome.researchQuantity
    (outcome : PromotedOperationalAllocationOutcome) : ℕ :=
  outcome.quoteOutcome.candidate.researchIntent.evaluationIntent.entryOrder.quantity

/-- The last check of `_verify`, on the fields that go with each disposition. -/
def PromotedOperationalAllocationOutcome.inconsistent
    (outcome : PromotedOperationalAllocationOutcome) : Bool :=
  match outcome.disposition with
  | .allocated => outcome.reasonCodes ≠ [] ∨ outcome.operationalQuantity = 0
  | .veto => outcome.reasonCodes = [] ∨ outcome.operationalQuantity ≠ 0 ∨
    outcome.entryNotional ≠ 0 ∨ outcome.estimatedRoundTripCost ≠ 0 ∨ outcome.plannedMaxLoss ≠ 0 ∨
    outcome.stateAfter ≠ outcome.stateBefore

/-- The constructor's `_verify`: the outcome has to replay from its own inputs. -/
def PromotedOperationalAllocationOutcome.verify (outcome : PromotedOperationalAllocationOutcome) :
    Except PromotedOperationalAllocationError Unit := do
  raiseIf (outcome.quoteOutcome.disposition ≠ .pass) .quote
  let some reference := outcome.referenceEntryPrice | throw .outcome
  raiseIf (reference ≤ 0) .outcome
  raiseIf (outcome.entryNotional < 0 ∨ outcome.estimatedRoundTripCost < 0 ∨
    outcome.plannedMaxLoss < 0) .outcome
  let replayed ← evaluateAllocation outcome.portfolioContext outcome.allocationPolicy
    outcome.stateBefore outcome.quoteOutcome
  raiseIf (replayed.disposition ≠ outcome.disposition) .outcome
  raiseIf (outcome.reasonCodes ≠ replayed.reasons) .outcome
  raiseIf (outcome.reasonCodes ≠ PromotedOperationalAllocationReason.sortedValues.filter
    (· ∈ outcome.reasonCodes)) .outcome
  raiseIf (outcome.operationalQuantity ≠ replayed.quantity) .outcome
  raiseIf (outcome.referenceEntryPrice ≠ outcome.quoteOutcome.referenceEntryPrice) .outcome
  raiseIf (outcome.entryNotional ≠ replayed.notional ∨
    outcome.estimatedRoundTripCost ≠ replayed.cost ∨ outcome.plannedMaxLoss ≠ replayed.loss ∨
    outcome.operationalNetRewardRisk ≠ replayed.netRewardRisk) .outcome
  raiseIf (outcome.stateAfter ≠ replayed.stateAfter) .outcome
  raiseIf (outcome.researchQuantity < outcome.operationalQuantity) .outcome
  raiseIf (outcome.inconsistent = true) .outcome

structure VerifiedPromotedOperationalAllocationBatch where
  quoteGateBatch : VerifiedPromotedOperationalQuoteGateBatch
  portfolioContext : PromotedOperationalPortfolioContext
  allocationPolicy : PromotedOperationalAllocationPolicy
  allocationOutcomes : List PromotedOperationalAllocationOutcome
  upstreamQuoteVetoes : List PromotedOperationalQuoteOutcome
  initialState : PromotedOperationalAllocationState
  finalState : PromotedOperationalAllocationState
  allocatedCount : ℕ
  vetoCount : ℕ
  deriving DecidableEq

def passOutcomes (batch : VerifiedPromotedOperationalQuoteGateBatch) :
    List PromotedOperationalQuoteOutcome :=
  batch.outcomes.filter (·.disposition = .pass)

def vetoOutcomes (batch : VerifiedPromotedOperationalQuoteGateBatch) :
    List PromotedOperationalQuoteOutcome :=
  batch.outcomes.filter (·.disposition = .veto)

def allocatedOutcomeCount (outcomes : List PromotedOperationalAllocationOutcome) : ℕ :=
  (outcomes.filter (·.disposition = .allocated)).length

def initialAllocationState (portfolioContext : PromotedOperationalPortfolioContext) :
    PromotedOperationalAllocationState where
  cashAvailable := portfolioContext.portfolio.cashAvailable
  grossExposure := portfolioContext.portfolio.grossExposure
  openRisk := portfolioContext.portfolio.openRisk
  openListingKeys := portfolioContext.openListingKeys
  cash_nonneg := portfolioContext.portfolio.cash_nonneg
  gross_nonneg := portfolioContext.portfolio.gross_nonneg
  risk_nonneg := portfolioContext.portfolio.risk_nonneg
  keys_canonical := portfolioContext.keys_canonical

/-- The snapshot is from the future, or older than the policy accepts. -/
def portfolioUnacceptable (evaluatedAt : Instant)
    (portfolioContext : PromotedOperationalPortfolioContext)
    (allocationPolicy : PromotedOperationalAllocationPolicy) : Bool :=
  evaluatedAt < portfolioContext.portfolio.asOf ∨
    (allocationPolicy.maximumPortfolioAgeSeconds : ℤ) * 1000000 <
      evaluatedAt - portfolioContext.portfolio.asOf

def VerifiedPromotedOperationalAllocationBatch.verifyChain
    (batch : VerifiedPromotedOperationalAllocationBatch) :
    PromotedOperationalAllocationState →
      List (PromotedOperationalAllocationOutcome × PromotedOperationalQuoteOutcome) →
      Except PromotedOperationalAllocationError PromotedOperationalAllocationState
  | expectedState, [] => .ok expectedState
  | expectedState, (outcome, passOutcome) :: rest => do
    outcome.verify
    raiseIf (outcome.quoteOutcome ≠ passOutcome) .coverage
    raiseIf (outcome.portfolioContext ≠ batch.portfolioContext) .coverage
    raiseIf (outcome.allocationPolicy ≠ batch.allocationPolicy) .coverage
    raiseIf (outcome.stateBefore ≠ expectedState) .coverage
    batch.verifyChain outcome.stateAfter rest

def VerifiedPromotedOperationalAllocationBatch.verifyCoverage
    (batch : VerifiedPromotedOperationalAllocationBatch) :
    Except PromotedOperationalAllocationError Unit := do
  raiseIf (portfolioUnacceptable batch.quoteGateBatch.evaluatedAt batch.portfolioContext
    batch.allocationPolicy = true) .portfolio
  raiseIf (batch.upstreamQuoteVetoes ≠ vetoOutcomes batch.quoteGateBatch) .coverage
  raiseIf (batch.allocationOutcomes.length ≠ (passOutcomes batch.quoteGateBatch).length) .coverage
  raiseIf (batch.initialState ≠ initialAllocationState batch.portfolioContext) .coverage
  let expectedState ← batch.verifyChain batch.initialState
    (batch.allocationOutcomes.zip (passOutcomes batch.quoteGateBatch))
  raiseIf (batch.finalState ≠ expectedState) .coverage
  raiseIf (batch.allocatedCount ≠ allocatedOutcomeCount batch.allocationOutcomes ∨
    batch.vetoCount ≠ batch.allocationOutcomes.length -
      allocatedOutcomeCount batch.allocationOutcomes) .coverage

section Assembly

variable (portfolioContext : PromotedOperationalPortfolioContext)
variable (allocationPolicy : PromotedOperationalAllocationPolicy)

def allocationOutcome (state : PromotedOperationalAllocationState)
    (quoteOutcome : PromotedOperationalQuoteOutcome) (result : AllocationEvaluation) :
    PromotedOperationalAllocationOutcome where
  quoteOutcome := quoteOutcome
  portfolioContext := portfolioContext
  allocationPolicy := allocationPolicy
  stateBefore := state
  stateAfter := result.stateAfter
  disposition := result.disposition
  reasonCodes := result.reasons
  operationalQuantity := result.quantity
  referenceEntryPrice := quoteOutcome.referenceEntryPrice
  entryNotional := result.notional
  estimatedRoundTripCost := result.cost
  plannedMaxLoss := result.loss
  operationalNetRewardRisk := result.netRewardRisk

/-- One turn of the assembly loop: evaluate, then construct the outcome. -/
def allocateStep (state : PromotedOperationalAllocationState)
    (quoteOutcome : PromotedOperationalQuoteOutcome) :
    Except PromotedOperationalAllocationError
      (PromotedOperationalAllocationOutcome × PromotedOperationalAllocationState) := do
  let replayed ← evaluateAllocation portfolioContext allocationPolicy state quoteOutcome
  let outcome := allocationOutcome portfolioContext allocationPolicy state quoteOutcome replayed
  outcome.verify
  return (outcome, replayed.stateAfter)

def allocationBatch (quoteGateBatch : VerifiedPromotedOperationalQuoteGateBatch)
    (outcomes : List PromotedOperationalAllocationOutcome)
    (finalState : PromotedOperationalAllocationState) :
    VerifiedPromotedOperationalAllocationBatch where
  quoteGateBatch := quoteGateBatch
  portfolioContext := portfolioContext
  allocationPolicy := allocationPolicy
  allocationOutcomes := outcomes
  upstreamQuoteVetoes := vetoOutcomes quoteGateBatch
  initialState := initialAllocationState portfolioContext
  finalState := finalState
  allocatedCount := allocatedOutcomeCount outcomes
  vetoCount := outcomes.length - allocatedOutcomeCount outcomes

def assemblePromotedOperationalAllocationBatch
    (quoteGateBatch : VerifiedPromotedOperationalQuoteGateBatch) :
    Except PromotedOperationalAllocationError VerifiedPromotedOperationalAllocationBatch := do
  raiseIf (portfolioUnacceptable quoteGateBatch.evaluatedAt portfolioContext
    allocationPolicy = true) .portfolio
  let (outcomes, state) ← foldItems (allocateStep portfolioContext allocationPolicy)
    (initialAllocationState portfolioContext) (passOutcomes quoteGateBatch)
  let batch := allocationBatch portfolioContext allocationPolicy quoteGateBatch outcomes state
  batch.verifyCoverage
  return batch

end Assembly

end IndiaSwing
