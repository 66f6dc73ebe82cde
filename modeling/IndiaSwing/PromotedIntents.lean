import Mathlib.Data.String.Basic
import IndiaSwing.Lib.Checked
import IndiaSwing.Lib.TextPatterns
import IndiaSwing.Lib.TierSelection
import IndiaSwing.TradeIntents

namespace IndiaSwing

open ExceptGuards KeySort TextPatterns

inductive MarketRegime
  | highVolatility | rangeBound | riskOff | trending
  deriving DecidableEq, Repr

def MarketRegime.value : MarketRegime → String
  | highVolatility => "HIGH_VOLATILITY"
  | rangeBound => "RANGE_BOUND"
  | riskOff => "RISK_OFF"
  | trending => "TRENDING"

/-- `_fraction` -/
def isFraction (allowOne : Bool) (value : ℚ) : Bool :=
  0 < value && value ≤ 1 && (allowOne || value < 1)

structure IntentPolicyFields where
  maximumPositions : ℕ
  grossExposureFraction : ℚ
  portfolioRiskFraction : ℚ
  minimumEnsembleScore : ℚ
  minimumMedianTradedValue : ℚ
  minimumSignalTradedValueRatio : ℚ
  maximumTickFraction : ℚ
  minimumAverageTrueRangeTicks : ℚ
  maximumAnnualizedVolatility : ℚ
  maximumZeroVolumeFraction : ℚ
  stopAtrMultiple : ℚ
  minimumNetRewardRisk : ℚ
  roundTripCostBufferFraction : ℚ
  maximumHoldingSessions : ℕ
  maximumParticipation : ℚ
  allowedRegimes : List MarketRegime
  deriving DecidableEq, Repr

/-- `PromotedIntentPolicyConfig.__post_init__` -/
def validateIntentPolicy (config : IntentPolicyFields) : Except String Unit :=
  raiseIf (config.maximumPositions = 0 ∨
      ¬isFraction true config.grossExposureFraction ∨
      ¬isFraction false config.portfolioRiskFraction ∨
      ¬isFraction true config.minimumEnsembleScore ∨
      config.minimumMedianTradedValue ≤ 0 ∨
      config.minimumSignalTradedValueRatio ≤ 0 ∨
      ¬isFraction false config.maximumTickFraction ∨
      config.minimumAverageTrueRangeTicks ≤ 0 ∨
      config.maximumAnnualizedVolatility ≤ 0 ∨
      ¬isFraction true config.maximumZeroVolumeFraction ∨
      config.stopAtrMultiple ≤ 0 ∨
      config.minimumNetRewardRisk ≤ 0 ∨
      config.minimumNetRewardRisk < 5 / 2 ∨
      ¬isFraction false config.roundTripCostBufferFraction ∨
      config.maximumHoldingSessions = 0 ∨
      ¬isFraction true config.maximumParticipation ∨
      config.allowedRegimes = [] ∨
      config.allowedRegimes ≠ sortOn (·.value) config.allowedRegimes.dedup ∨
      .riskOff ∈ config.allowedRegimes ∨
      .highVolatility ∈ config.allowedRegimes)
    "promoted intent configuration is invalid"

abbrev PromotedIntentPolicyConfig :=
  {config : IntentPolicyFields // validateIntentPolicy config = .ok ()}

def IntentPolicyFields.configId (config : IntentPolicyFields) : ContentId :=
  .ofFields "promoted-research-intent-config/v1"
    [.int config.maximumPositions, .decimal config.grossExposureFraction,
      .decimal config.portfolioRiskFraction, .decimal config.minimumEnsembleScore,
      .decimal config.minimumMedianTradedValue, .decimal config.minimumSignalTradedValueRatio,
      .decimal config.maximumTickFraction, .decimal config.minimumAverageTrueRangeTicks,
      .decimal config.maximumAnnualizedVolatility, .decimal config.maximumZeroVolumeFraction,
      .decimal config.stopAtrMultiple, .decimal config.minimumNetRewardRisk,
      .decimal config.roundTripCostBufferFraction, .int config.maximumHoldingSessions,
      .decimal config.maximumParticipation,
      .list (config.allowedRegimes.map fun regime => .text regime.value)]

section Sources

/-- `NSE:[A-Z0-9][A-Z0-9&\-]{0,31}` -/
def isCorpusListingKey (text : List Char) : Bool :=
  text.take 4 = ['N', 'S', 'E', ':'] && (text.drop 4).head?.any (fun c => c.isUpper || c.isDigit) &&
    (text.drop 4).all (fun c => c.isUpper || c.isDigit || c = '&' || c = '-') &&
    (text.drop 4).length ≤ 32

/-- `INE[A-Z0-9]{9}` -/
def isEquityIsin (text : List Char) : Bool :=
  text.take 3 = ['I', 'N', 'E'] && (text.drop 3).all (fun c => c.isUpper || c.isDigit) &&
    (text.drop 3).length = 9

/-- A bar of an input history with the corpus bar that it was adjusted from. -/
structure FeatureInputBar where
  marketSession : SessionDate
  listingKey : String
  isin : String
  barId : ContentId
  adjustedClose : ℚ
  listingKey_valid : isCorpusListingKey listingKey.toList = true
  isin_valid : isEquityIsin isin.toList = true
  close_pos : 0 < adjustedClose

structure StableRawBarBinding where
  marketSession : SessionDate
  rawBarId : ContentId
  identitySnapshotId : ContentId

/-- The bars of an input history, the last of them of its signal session. -/
structure PromotedFeatureInputHistory where
  signalSession : SessionDate
  bars : List FeatureInputBar
  bars_ne_nil : bars ≠ []
  last_session : (bars.getLast bars_ne_nil).marketSession = signalSession

/-- An input history comes with one identity binding for each of its bars. -/
structure PromotedFeatureInputResult where
  resultId : ContentId
  identityBindings : List StableRawBarBinding
  inputHistory : Option PromotedFeatureInputHistory
  bound : ∀ history ∈ inputHistory, List.Forall₂
    (fun (binding : StableRawBarBinding) (bar : FeatureInputBar) =>
      binding.rawBarId = bar.barId ∧ binding.marketSession = bar.marketSession)
    identityBindings history.bars

structure PromotedTechnicalFeatureVector where
  featureId : ContentId
  stableInstrumentId : ContentId
  stableListingId : ContentId
  signalSession : SessionDate
  averageTrueRange : ℚ
  annualizedRealizedVolatility : ℚ
  medianPriorTradedValue : ℚ
  signalTradedValueRatio : ℚ
  zeroVolumeFraction : ℚ
  signalTickSize : ℚ
  signalTickFraction : ℚ
  averageTrueRangeInTicks : ℚ
  range_pos : 0 < averageTrueRange
  tick_pos : 0 < signalTickSize

/-- A vector is computed from an input history. -/
structure PromotedTechnicalFeatureResult where
  sourceResult : PromotedFeatureInputResult
  featureVector : Option PromotedTechnicalFeatureVector
  resultId : ContentId
  computed : ∀ vector ∈ featureVector, ∃ history, sourceResult.inputHistory = some history ∧
    vector.signalSession = history.signalSession

structure PromotedOpportunityScore where
  sourceFeatureId : ContentId
  regimeEvidenceId : ContentId
  stableInstrumentId : ContentId
  stableListingId : ContentId
  specialistScoreIds : List ContentId
  ensembleScore : ℚ
  rankTier : ℕ
  tieSize : ℕ
  tier_pos : 0 < rankTier
  tie_pos : 0 < tieSize

def PromotedOpportunityScore.opportunityId (opportunity : PromotedOpportunityScore) : ContentId :=
  .ofFields "promoted-opportunity-score/v1"
    [opportunity.sourceFeatureId, opportunity.regimeEvidenceId, opportunity.stableInstrumentId,
      opportunity.stableListingId, .list opportunity.specialistScoreIds,
      .decimal opportunity.ensembleScore, .int opportunity.rankTier, .int opportunity.tieSize]

inductive CrossSectionStatus
  | scoredResolvedSubset | sourceFeatureBlocked | crossSectionTooSmall
  deriving DecidableEq, Repr

def CrossSectionStatus.value : CrossSectionStatus → String
  | scoredResolvedSubset => "SCORED_RESOLVED_SUBSET_COLLECTION_ONLY"
  | sourceFeatureBlocked => "SOURCE_FEATURE_BLOCKED"
  | crossSectionTooSmall => "CROSS_SECTION_TOO_SMALL_BLOCKED"

/-- `PromotedCrossSectionResult`: a scored result has a vector and the score of that vector. -/
structure PromotedCrossSectionResult where
  sourceResult : PromotedTechnicalFeatureResult
  status : CrossSectionStatus
  opportunityScore : Option PromotedOpportunityScore
  scored : status = .scoredResolvedSubset → ∃ vector opportunity,
    sourceResult.featureVector = some vector ∧ opportunityScore = some opportunity ∧
      opportunity.sourceFeatureId = vector.featureId ∧
      opportunity.stableInstrumentId = vector.stableInstrumentId ∧
      opportunity.stableListingId = vector.stableListingId
  unscored : status ≠ .scoredResolvedSubset → opportunityScore = none
  blocked : status = .sourceFeatureBlocked → sourceResult.featureVector = none
  tooSmall : status = .crossSectionTooSmall → sourceResult.featureVector.isSome

def PromotedCrossSectionResult.resultId (result : PromotedCrossSectionResult) : ContentId :=
  .ofFields "promoted-cross-section-result/v1"
    [result.sourceResult.resultId, .text result.status.value,
      .option (·.opportunityId) result.opportunityScore]

/-- Which instrument and listing a result is about, if it is scored. -/
def PromotedCrossSectionResult.cell (result : PromotedCrossSectionResult) :
    Option (ContentId × ContentId) :=
  result.opportunityScore.map fun opportunity =>
    (opportunity.stableInstrumentId, opportunity.stableListingId)

/-- A verified panel: all vectors are of its signal session, no source result appears twice, and no
instrument and listing is scored twice. -/
structure VerifiedPromotedCrossSectionPanel where
  panelId : ContentId
  signalSession : SessionDate
  sourceUniverseCrossSectionComplete : Bool
  regime : Option MarketRegime
  results : List PromotedCrossSectionResult
  sessions : ∀ result ∈ results, ∀ vector ∈ result.sourceResult.featureVector,
    vector.signalSession = signalSession
  distinctSources : (results.map (·.sourceResult.resultId)).Nodup
  distinctCells : (results.filterMap (·.cell)).Nodup

end Sources

section Decisions

/-- `PromotedCandidateDecisionStatus` -/
inductive CandidateDecisionStatus
  | selectedResearchOnly | sourceResultBlocked | sourceUniverseIncomplete | regimeVetoed
  | scoreBelowMinimum | liquidityBelowMinimum | signalLiquidityWeak | tickFrictionTooHigh
  | atrInTicksTooLow | volatilityAboveMaximum | zeroVolumeHistoryTooHigh | unaffordableOrInvalidRisk
  | boundaryTieRejected | outsidePositionCapacity
  deriving DecidableEq, Repr

def CandidateDecisionStatus.value : CandidateDecisionStatus → String
  | selectedResearchOnly => "SELECTED_RESEARCH_ONLY"
  | sourceResultBlocked => "SOURCE_RESULT_BLOCKED"
  | sourceUniverseIncomplete => "SOURCE_UNIVERSE_INCOMPLETE"
  | regimeVetoed => "REGIME_VETOED"
  | scoreBelowMinimum => "SCORE_BELOW_MINIMUM"
  | liquidityBelowMinimum => "LIQUIDITY_BELOW_MINIMUM"
  | signalLiquidityWeak => "SIGNAL_LIQUIDITY_WEAK"
  | tickFrictionTooHigh => "TICK_FRICTION_TOO_HIGH"
  | atrInTicksTooLow => "ATR_IN_TICKS_TOO_LOW"
  | volatilityAboveMaximum => "VOLATILITY_ABOVE_MAXIMUM"
  | zeroVolumeHistoryTooHigh => "ZERO_VOLUME_HISTORY_TOO_HIGH"
  | unaffordableOrInvalidRisk => "UNAFFORDABLE_OR_INVALID_RISK"
  | boundaryTieRejected => "BOUNDARY_TIE_REJECTED"
  | outsidePositionCapacity => "OUTSIDE_POSITION_CAPACITY"

/-- `_reason_codes` -/
def decisionReasonCodes (status : CandidateDecisionStatus) : List String :=
  sortOn id [status.value, "NO_LIVE_ALERT_AUTHORITY", "NO_EXECUTION_AUTHORITY",
    "SCORE_IS_NOT_A_PROBABILITY"].dedup

structure CandidateDecision where
  sourceResultId : ContentId
  sourceFeatureId : Option ContentId
  opportunityId : Option ContentId
  stableInstrumentId : Option ContentId
  stableListingId : Option ContentId
  signalSession : Option SessionDate
  ensembleScore : Option ℚ
  rankTier : Option ℕ
  tieSize : Option ℕ
  status : CandidateDecisionStatus
  reasonCodes : List String
  selected : Bool
  deriving DecidableEq

/-- `PromotedCandidateDecision.__post_init__` -/
def validateDecision (decision : CandidateDecision) : Except String Unit := do
  raiseIf (decision.rankTier = some 0 ∨ decision.tieSize = some 0 ∨ decision.reasonCodes = [] ∨
      decision.selected ≠ decide (decision.status = .selectedResearchOnly))
    "promoted intent graph is invalid"
  raiseIf (decision.opportunityId.isSome ≠ (decision.sourceFeatureId.isSome &&
      decision.stableInstrumentId.isSome && decision.stableListingId.isSome &&
      decision.signalSession.isSome && decision.ensembleScore.isSome && decision.rankTier.isSome &&
      decision.tieSize.isSome))
    "promoted intent graph is invalid"
  raiseIf (decision.reasonCodes ≠ decisionReasonCodes decision.status) "promoted intent graph is invalid"

abbrev PromotedCandidateDecision := {decision : CandidateDecision // validateDecision decision = .ok ()}

def CandidateDecision.decisionId (decision : CandidateDecision) : ContentId :=
  .ofFields "promoted-candidate-decision/v1"
    [decision.sourceResultId, .option id decision.sourceFeatureId, .option id decision.opportunityId,
      .option id decision.stableInstrumentId, .option id decision.stableListingId,
      .option .int decision.signalSession, .option .decimal decision.ensembleScore,
      .option (fun tier : ℕ => .int tier) decision.rankTier,
      .option (fun size : ℕ => .int size) decision.tieSize, .text decision.status.value,
      .list (decision.reasonCodes.map .text), boolId decision.selected]

/-- The fields of `_decision` -/
def decisionFields (result : PromotedCrossSectionResult) (status : CandidateDecisionStatus) :
    CandidateDecision where
  sourceResultId := result.resultId
  sourceFeatureId := result.sourceResult.featureVector.map (·.featureId)
  opportunityId := result.opportunityScore.map (·.opportunityId)
  stableInstrumentId := result.opportunityScore.map (·.stableInstrumentId)
  stableListingId := result.opportunityScore.map (·.stableListingId)
  signalSession := result.sourceResult.featureVector.map (·.signalSession)
  ensembleScore := result.opportunityScore.map (·.ensembleScore)
  rankTier := result.opportunityScore.map (·.rankTier)
  tieSize := result.opportunityScore.map (·.tieSize)
  status := status
  reasonCodes := decisionReasonCodes status
  selected := decide (status = .selectedResearchOnly)

/-- `_decision` -/
def makeDecision (result : PromotedCrossSectionResult) (status : CandidateDecisionStatus) :
    Except String PromotedCandidateDecision :=
  Checked.build validateDecision (decisionFields result status)

end Decisions

section Preparation

variable (ctx : DecimalContext)

/-- `_on_tick_floor` -/
def onTickFloor (value tickSize : ℚ) : ℚ := ctx.mul ⌊ctx.div value tickSize⌋ tickSize

/-- `_on_tick_ceiling` -/
def onTickCeiling (value tickSize : ℚ) : ℚ := ctx.mul ⌈ctx.div value tickSize⌉ tickSize

structure PreparedCandidateFields where
  sourceResult : PromotedCrossSectionResult
  opportunity : PromotedOpportunityScore
  vector : PromotedTechnicalFeatureVector
  universeSnapshotId : ContentId
  symbol : String
  isin : String
  signalClose : ℚ
  entryPrice : ℚ
  stopPrice : ℚ
  targetPrice : ℚ
  quantity : ℤ

/-- `_PreparedCandidate.__post_init__` -/
def validatePreparedCandidate (candidate : PreparedCandidateFields) : Except String Unit :=
  raiseIf (candidate.symbol = "" ∨ ¬isNormalizedUpper candidate.symbol ∨
      candidate.isin.toList.length ≠ 12 ∨ candidate.signalClose ≤ 0 ∨ candidate.entryPrice ≤ 0 ∨
      candidate.stopPrice ≤ 0 ∨ candidate.targetPrice ≤ 0 ∨
      ¬(candidate.stopPrice < candidate.entryPrice ∧ candidate.entryPrice < candidate.targetPrice) ∨
      candidate.quantity ≤ 0)
    "promoted intent graph is invalid"

abbrev PreparedCandidate :=
  {candidate : PreparedCandidateFields // validatePreparedCandidate candidate = .ok ()}

structure SourceSecurity where
  symbol : String
  isin : String
  identitySnapshotId : ContentId
  signalClose : ℚ

/-- `_source_security` -/
def sourceSecurity (vector : PromotedTechnicalFeatureVector) (result : PromotedCrossSectionResult) :
    Except String SourceSecurity :=
  let source := result.sourceResult.sourceResult
  match source.inputHistory with
  | none => .error "promoted intent graph is invalid"
  | some history =>
    match history.bars.getLast?, source.identityBindings.getLast? with
    | some signalBar, some signalBinding => do
      raiseIf (history.signalSession ≠ vector.signalSession ∨
          source.identityBindings.length ≠ history.bars.length)
        "promoted intent graph is invalid"
      raiseIf (signalBar.marketSession ≠ vector.signalSession ∨
          signalBar.listingKey.toList.take 4 ≠ ['N', 'S', 'E', ':'] ∨
          signalBinding.marketSession ≠ vector.signalSession ∨
          signalBinding.rawBarId ≠ signalBar.barId)
        "promoted intent graph is invalid"
      return ⟨String.ofList (signalBar.listingKey.toList.drop 4), signalBar.isin,
        signalBinding.identitySnapshotId, signalBar.adjustedClose⟩
    | _, _ => .error "promoted intent graph is invalid"

/-- `_preparation_status` -/
def preparationStatus (opportunity : PromotedOpportunityScore) (vector : PromotedTechnicalFeatureVector)
    (config : IntentPolicyFields) : Option CandidateDecisionStatus :=
  if opportunity.ensembleScore < config.minimumEnsembleScore then some .scoreBelowMinimum
  else if vector.medianPriorTradedValue < config.minimumMedianTradedValue then
    some .liquidityBelowMinimum
  else if vector.signalTradedValueRatio < config.minimumSignalTradedValueRatio then
    some .signalLiquidityWeak
  else if config.maximumTickFraction < vector.signalTickFraction then some .tickFrictionTooHigh
  else if vector.averageTrueRangeInTicks < config.minimumAverageTrueRangeTicks then
    some .atrInTicksTooLow
  else if config.maximumAnnualizedVolatility < vector.annualizedRealizedVolatility then
    some .volatilityAboveMaximum
  else if config.maximumZeroVolumeFraction < vector.zeroVolumeFraction then
    some .zeroVolumeHistoryTooHigh
  else none

/-- The prices of a candidate at a signal close, and its size, or `none` where it cannot be sized. -/
def pricesAndQuantity (vector : PromotedTechnicalFeatureVector) (config : IntentPolicyFields)
    (initialCapital signalClose : ℚ) : Option (ℚ × ℚ × ℚ × ℤ) :=
  let entryPrice := onTickFloor ctx signalClose vector.signalTickSize
  let stopPrice := onTickFloor ctx
    (ctx.sub entryPrice (ctx.mul vector.averageTrueRange config.stopAtrMultiple)) vector.signalTickSize
  if stopPrice ≤ 0 ∨ entryPrice ≤ stopPrice then none
  else
    let costBuffer := ctx.mul entryPrice config.roundTripCostBufferFraction
    let riskPerShare := ctx.add (ctx.sub entryPrice stopPrice) costBuffer
    if riskPerShare ≤ 0 then none
    else
      let riskBudget := ctx.div (ctx.mul initialCapital config.portfolioRiskFraction) config.maximumPositions
      let slotNotional :=
        ctx.div (ctx.mul initialCapital config.grossExposureFraction) config.maximumPositions
      let quantity := min (DecimalContext.toInt (ctx.div riskBudget riskPerShare))
        (DecimalContext.toInt (ctx.div slotNotional entryPrice))
      if quantity ≤ 0 then none
      else
        let targetRaw := ctx.add (ctx.add entryPrice costBuffer)
          (ctx.mul config.minimumNetRewardRisk riskPerShare)
        let targetPrice := onTickCeiling ctx targetRaw vector.signalTickSize
        if targetPrice ≤ entryPrice then none
        else some (entryPrice, stopPrice, targetPrice, quantity)

/-- `_prepare` -/
def prepareCandidate (result : PromotedCrossSectionResult) (opportunity : PromotedOpportunityScore)
    (vector : PromotedTechnicalFeatureVector) (config : IntentPolicyFields) (initialCapital : ℚ) :
    Except String (Option PreparedCandidate) := do
  let security ← sourceSecurity vector result
  match pricesAndQuantity ctx vector config initialCapital security.signalClose with
  | none => return none
  | some (entryPrice, stopPrice, targetPrice, quantity) =>
    let candidate ← Checked.build validatePreparedCandidate
      ⟨result, opportunity, vector, security.identitySnapshotId, security.symbol, security.isin,
        security.signalClose, entryPrice, stopPrice, targetPrice, quantity⟩
    return some candidate

end Preparation

section Generation

variable (ctx : DecimalContext)

/-- What the first loop makes of a result. -/
inductive Screened
  | blocked (status : CandidateDecisionStatus)
  | prepared (candidate : PreparedCandidate)

/-- The body of the first loop of `generate` -/
def screenResult (panel : VerifiedPromotedCrossSectionPanel) (config : IntentPolicyFields)
    (initialCapital : ℚ) (result : PromotedCrossSectionResult) : Except String Screened :=
  match result.status, result.opportunityScore, result.sourceResult.featureVector with
  | .scoredResolvedSubset, some opportunity, some vector =>
    if ¬panel.sourceUniverseCrossSectionComplete then .ok (.blocked .sourceUniverseIncomplete)
    else if ¬panel.regime.any fun regime => regime ∈ config.allowedRegimes then
      .ok (.blocked .regimeVetoed)
    else
      match preparationStatus opportunity vector config with
      | some status => .ok (.blocked status)
      | none => do
        match ← prepareCandidate ctx result opportunity vector config initialCapital with
        | none => return .blocked .unaffordableOrInvalidRisk
        | some candidate => return .prepared candidate
  | _, _, _ => .ok (.blocked .sourceResultBlocked)

/-- A dictionary, with what was assigned last in front. -/
abbrev Statuses := List (ContentId × CandidateDecisionStatus)

/-- The first loop of `generate` -/
def screenResults (panel : VerifiedPromotedCrossSectionPanel) (config : IntentPolicyFields)
    (initialCapital : ℚ) : List PromotedCrossSectionResult → Statuses → List PreparedCandidate →
    Except String (Statuses × List PreparedCandidate)
  | [], statuses, prepared => .ok (statuses, prepared)
  | result :: results, statuses, prepared => do
    match ← screenResult ctx panel config initialCapital result with
    | .blocked status =>
      screenResults panel config initialCapital results ((result.resultId, status) :: statuses) prepared
    | .prepared candidate =>
      screenResults panel config initialCapital results statuses (prepared ++ [candidate])

def PreparedCandidate.opportunityId (candidate : PreparedCandidate) : ContentId :=
  candidate.1.opportunity.opportunityId

def PreparedCandidate.rankTier (candidate : PreparedCandidate) : ℕ := candidate.1.opportunity.rankTier

/-- `_select_complete_tiers` -/
def selectCompleteTiers (candidates : List PreparedCandidate) (maximumPositions : ℕ) :
    Finset ContentId × Finset ContentId :=
  TierSelection.select PreparedCandidate.rankTier PreparedCandidate.opportunityId maximumPositions
    candidates (TierSelection.tiers PreparedCandidate.rankTier candidates) ∅

/-- The status of a prepared candidate after the selection. -/
def selectionStatus (selection : Finset ContentId × Finset ContentId) (candidate : PreparedCandidate) :
    CandidateDecisionStatus :=
  if candidate.opportunityId ∈ selection.1 then .selectedResearchOnly
  else if candidate.opportunityId ∈ selection.2 then .boundaryTieRejected
  else .outsidePositionCapacity

/-- The decisions of the results. A result without a status is a `KeyError`. -/
def makeDecisions (statuses : Statuses) (results : List PromotedCrossSectionResult) :
    Except String (List PromotedCandidateDecision) :=
  results.mapM fun result =>
    match statuses.lookup result.resultId with
    | none => .error "KeyError"
    | some status => makeDecision result status

/-- `EvaluationTradeIntent.__post_init__` -/
def EvaluationTradeIntent.create (signalId universeSnapshotId : ContentId) (isin : String)
    (entryOrder : LimitEntryOrder) (stopPrice targetPrice : ℚ) (maxHoldingSessions : ℕ) :
    Except String EvaluationTradeIntent :=
  if isin.toList.length ≠ 12 ∨ ¬isNormalizedUpper isin then
    .error "isin must be normalized 12-character text"
  else if hstop : stopPrice ≤ 0 then .error "stop_price must be positive"
  else if hstopTick : ¬OnTick stopPrice entryOrder.tickSize then
    .error "stop_price must be an exact tick multiple"
  else if htarget : targetPrice ≤ 0 then .error "target_price must be positive"
  else if htargetTick : ¬OnTick targetPrice entryOrder.tickSize then
    .error "target_price must be an exact tick multiple"
  else if hprices : ¬(stopPrice < entryOrder.limitPrice ∧ entryOrder.limitPrice < targetPrice) then
    .error "intent prices must satisfy stop < limit < target"
  else if hholding : maxHoldingSessions = 0 then .error "max_holding_sessions must be positive"
  else
    .ok ⟨signalId, universeSnapshotId, isin, entryOrder, stopPrice, targetPrice, maxHoldingSessions,
      positive_of_check hstop, positive_of_check htarget, not_not.mp hstopTick, not_not.mp htargetTick,
      (not_not.mp hprices).1, (not_not.mp hprices).2, Nat.pos_of_ne_zero hholding⟩

/-- A research intent with what it was made from. -/
structure IdentifiedResearchIntent extends PromotedResearchTradeIntent where
  decisionId : ContentId
  sourceCrossSectionPanelId : ContentId
  sourceFeatureId : ContentId
  opportunityId : ContentId
  stableInstrumentId : ContentId
  stableListingId : ContentId
  universeSnapshotId : ContentId
  signal_eq : evaluationIntent.signalId = decisionId
  snapshot_eq : evaluationIntent.universeSnapshotId = universeSnapshotId

/-- `PromotedResearchTradeIntent.__post_init__` -/
def IdentifiedResearchIntent.create (decisionId panelId : ContentId) (candidate : PreparedCandidateFields)
    (evaluationIntent : EvaluationTradeIntent) (estimatedCostBuffer plannedNetRewardRisk : ℚ) :
    Except String IdentifiedResearchIntent :=
  let entry := evaluationIntent.entryOrder.limitPrice
  let reward := evaluationIntent.targetPrice - entry - estimatedCostBuffer
  let risk := entry - evaluationIntent.stopPrice + estimatedCostBuffer
  if hids : evaluationIntent.signalId ≠ decisionId ∨
      evaluationIntent.universeSnapshotId ≠ candidate.universeSnapshotId then
    .error "promoted intent graph is invalid"
  else if hbuffer : estimatedCostBuffer ≤ 0 then .error "promoted intent graph is invalid"
  else if hplanned : plannedNetRewardRisk < 5 / 2 then .error "promoted intent graph is invalid"
  else if hrisk : risk ≤ 0 then .error "promoted intent graph is invalid"
  else if hratio : reward / risk ≠ plannedNetRewardRisk then .error "promoted intent graph is invalid"
  else
    .ok
      { evaluationIntent := evaluationIntent
        estimatedCostBuffer := estimatedCostBuffer
        plannedNetRewardRisk := plannedNetRewardRisk
        buffer_pos := positive_of_check hbuffer
        planned_ge := not_lt.mp hplanned
        risk_pos := not_le.mp hrisk
        planned_eq := not_not.mp hratio
        decisionId := decisionId
        sourceCrossSectionPanelId := panelId
        sourceFeatureId := candidate.vector.featureId
        opportunityId := candidate.opportunity.opportunityId
        stableInstrumentId := candidate.opportunity.stableInstrumentId
        stableListingId := candidate.opportunity.stableListingId
        universeSnapshotId := candidate.universeSnapshotId
        signal_eq := not_not.mp (not_or.mp hids).1
        snapshot_eq := not_not.mp (not_or.mp hids).2 }

/-- The intent of a selected candidate. -/
def makeIntent (panel : VerifiedPromotedCrossSectionPanel) (config : IntentPolicyFields)
    (entrySession : SessionDate) (candidate : PreparedCandidate) (decision : PromotedCandidateDecision) :
    Except String IdentifiedResearchIntent := do
  let prepared := candidate.1
  raiseIf (prepared.symbol = "" ∨ ¬isNormalizedUpper prepared.symbol)
    "symbol must be normalized uppercase text"
  let entryOrder ← (LimitEntryOrder.create prepared.symbol panel.signalSession entrySession entrySession
    prepared.quantity.toNat prepared.entryPrice prepared.vector.signalTickSize
      config.maximumParticipation).mapError (·.message)
  let evaluationIntent ← EvaluationTradeIntent.create decision.1.decisionId prepared.universeSnapshotId
    prepared.isin entryOrder prepared.stopPrice prepared.targetPrice config.maximumHoldingSessions
  let costBuffer := ctx.mul prepared.entryPrice config.roundTripCostBufferFraction
  let netReward := ctx.sub (ctx.sub prepared.targetPrice prepared.entryPrice) costBuffer
  let netRisk := ctx.add (ctx.sub prepared.entryPrice prepared.stopPrice) costBuffer
  IdentifiedResearchIntent.create decision.1.decisionId panel.panelId prepared evaluationIntent costBuffer
    (ctx.div netReward netRisk)

/-- The loop over the prepared candidates. -/
def makeIntents (panel : VerifiedPromotedCrossSectionPanel) (config : IntentPolicyFields)
    (entrySession : SessionDate) (decisions : List (ContentId × PromotedCandidateDecision)) :
    List PreparedCandidate → Except String (List IdentifiedResearchIntent)
  | [] => .ok []
  | candidate :: candidates =>
    match decisions.lookup candidate.1.sourceResult.resultId with
    | none => .error "KeyError"
    | some decision =>
      if decision.1.selected then do
        let intent ← makeIntent ctx panel config entrySession candidate decision
        let intents ← makeIntents panel config entrySession decisions candidates
        return intent :: intents
      else makeIntents panel config entrySession decisions candidates

structure IntentBatchFields where
  sourcePanelId : ContentId
  configId : ContentId
  signalSession : SessionDate
  entrySession : SessionDate
  initialCapital : ℚ
  decisions : List PromotedCandidateDecision
  intents : List IdentifiedResearchIntent
  selectedCount : ℕ
  blockedCount : ℤ
  sourceUniverseComplete : Bool

/-- `VerifiedPromotedResearchIntentBatch.__post_init__` -/
def validateIntentBatch (batch : IntentBatchFields) : Except String Unit := do
  raiseIf (batch.entrySession ≤ batch.signalSession ∨ batch.initialCapital ≤ 0 ∨ batch.decisions = [] ∨
      batch.selectedCount ≠ batch.intents.length ∨
      batch.blockedCount ≠ batch.decisions.length - batch.selectedCount)
    "promoted intent graph is invalid"
  raiseIf (∃ intent ∈ batch.intents, intent.sourceCrossSectionPanelId ≠ batch.sourcePanelId ∨
      intent.evaluationIntent.entryOrder.signalSession ≠ batch.signalSession ∨
      intent.evaluationIntent.entryOrder.firstEligibleSession ≠ batch.entrySession)
    "promoted intent graph is invalid"
  let selectedDecisionIds :=
    ((batch.decisions.filter (·.1.selected)).map (·.1.decisionId)).toFinset
  raiseIf (selectedDecisionIds.card ≠ batch.selectedCount ∨
      selectedDecisionIds ≠ (batch.intents.map (·.decisionId)).toFinset)
    "promoted intent graph is invalid"

abbrev VerifiedPromotedResearchIntentBatch :=
  {batch : IntentBatchFields // validateIntentBatch batch = .ok ()}

/-- `PromotedResearchIntentService.generate` -/
def generate (panel : VerifiedPromotedCrossSectionPanel) (config : PromotedIntentPolicyConfig)
    (entrySession : SessionDate) (initialCapital : ℚ) :
    Except String VerifiedPromotedResearchIntentBatch := do
  raiseIf (initialCapital ≤ 0) "promoted intent source is invalid"
  raiseIf (∃ result ∈ panel.results, ∃ vector ∈ result.sourceResult.featureVector,
      vector.signalSession ≠ panel.signalSession)
    "promoted intent graph is invalid"
  raiseIf (entrySession ≤ panel.signalSession) "promoted intent source is invalid"
  let (statuses, prepared) ← screenResults ctx panel config.1 initialCapital panel.results [] []
  let selection := selectCompleteTiers prepared config.1.maximumPositions
  let statuses := prepared.foldl (fun statuses candidate =>
    (candidate.1.sourceResult.resultId, selectionStatus selection candidate) :: statuses) statuses
  let decisions ← makeDecisions statuses panel.results
  let decisionByResult := ((panel.results.map (·.resultId)).zip decisions).reverse
  let intents ← makeIntents ctx panel config.1 entrySession decisionByResult prepared
  Checked.build validateIntentBatch
    { sourcePanelId := panel.panelId
      configId := config.1.configId
      signalSession := panel.signalSession
      entrySession := entrySession
      initialCapital := initialCapital
      decisions := decisions
      intents := intents
      selectedCount := intents.length
      blockedCount := decisions.length - intents.length
      sourceUniverseComplete := panel.sourceUniverseCrossSectionComplete }

end Generation

end IndiaSwing
