import Mathlib.Data.Prod.Lex
import IndiaSwing.Lib.KeySort
import IndiaSwing.Lib.SortedTuples
import IndiaSwing.PromotedIntents
import IndiaSwing.TechnicalVectors

namespace IndiaSwing.CrossSection

open ExceptGuards KeySort SortedTuples Features

def graphError : String := "promoted cross-section graph is invalid"

def configError : String := "promoted cross-section configuration is invalid"

/-- `_unit` -/
def isUnit (value : ℚ) : Bool := 0 ≤ value && value ≤ 1

/-- `_clamp` -/
def clamp (value : ℚ) : ℚ := max 0 (min value 1)

inductive AlphaSpecialist
  | liquidityQuality | momentumBreakout | pullbackContinuation | volatilityContraction
  deriving DecidableEq, Repr

/-- `sorted(AlphaSpecialist, key=lambda value: value.value)` -/
def AlphaSpecialist.all : List AlphaSpecialist :=
  [.liquidityQuality, .momentumBreakout, .pullbackContinuation, .volatilityContraction]

def marketRegimes : List MarketRegime := [.highVolatility, .rangeBound, .riskOff, .trending]

section Config

variable (ctx : DecimalContext)

structure AlphaRegimeWeighting where
  regime : MarketRegime
  momentumBreakout : ℚ
  pullbackContinuation : ℚ
  volatilityContraction : ℚ
  liquidityQuality : ℚ
  deriving DecidableEq, Repr

namespace AlphaRegimeWeighting

variable (w : AlphaRegimeWeighting)

def weights : List ℚ := [w.momentumBreakout, w.pullbackContinuation, w.volatilityContraction, w.liquidityQuality]

/-- `AlphaRegimeWeighting.__post_init__` -/
def check : Except String Unit := do
  raiseIf (∃ value ∈ w.weights, ¬isUnit value) "weighting must be between zero and one"
  raiseIf (ctx.sum 0 w.weights ≠ 1) "specialist weights must sum exactly to one"

def weightingId : ContentId :=
  .ofFields "" (.text w.regime.value :: w.weights.map .decimal)

def weightFor : AlphaSpecialist → ℚ
  | .liquidityQuality => w.liquidityQuality
  | .momentumBreakout => w.momentumBreakout
  | .pullbackContinuation => w.pullbackContinuation
  | .volatilityContraction => w.volatilityContraction

end AlphaRegimeWeighting

structure CrossSectionConfigFields where
  minimumComputedInstruments : ℤ
  trendingBreadthThreshold : ℚ
  trendingMomentumThreshold : ℚ
  riskOffBreadthThreshold : ℚ
  highVolatilityThreshold : ℚ
  trendGateDistance : ℚ
  idealPullbackDepth : ℚ
  pullbackTolerance : ℚ
  breakoutReferenceDistance : ℚ
  volumeRatioFullConfirmation : ℚ
  contractionZeroQualityRatio : ℚ
  weightings : List AlphaRegimeWeighting
  deriving DecidableEq, Repr

namespace CrossSectionConfigFields

variable (c : CrossSectionConfigFields)

/-- `PromotedCrossSectionConfig.__post_init__`, of weightings that passed their own checks -/
def check : Except String Unit := do
  c.weightings.forM (·.check ctx)
  raiseIf (c.minimumComputedInstruments ≤ 0 ∨ ¬isUnit c.trendingBreadthThreshold ∨
      ¬isUnit c.riskOffBreadthThreshold ∨ c.highVolatilityThreshold ≤ 0 ∨ c.trendGateDistance ≤ 0 ∨
      c.idealPullbackDepth < 0 ∨ c.pullbackTolerance ≤ 0 ∨ c.breakoutReferenceDistance ≤ 0 ∨
      c.volumeRatioFullConfirmation ≤ 0 ∨ c.contractionZeroQualityRatio ≤ 1 ∨
      c.trendingBreadthThreshold ≤ c.riskOffBreadthThreshold ∨
      c.weightings ≠ sortOn (·.regime.value) c.weightings ∨
      ∃ regime ∈ marketRegimes, regime ∉ c.weightings.map (·.regime))
    configError

def configId : ContentId :=
  .ofFields "promoted-cross-section-config/v1"
    [.int c.minimumComputedInstruments, .decimal c.trendingBreadthThreshold,
      .decimal c.trendingMomentumThreshold, .decimal c.riskOffBreadthThreshold,
      .decimal c.highVolatilityThreshold, .decimal c.trendGateDistance, .decimal c.idealPullbackDepth,
      .decimal c.pullbackTolerance, .decimal c.breakoutReferenceDistance,
      .decimal c.volumeRatioFullConfirmation, .decimal c.contractionZeroQualityRatio,
      .list (c.weightings.map (·.weightingId))]

/-- `weighting_for` -/
def weightingFor (regime : MarketRegime) : Except String AlphaRegimeWeighting :=
  match c.weightings.filter (·.regime = regime) with
  | [weighting] => .ok weighting
  | _ => .error configError

end CrossSectionConfigFields

abbrev CrossSectionConfig := { c : CrossSectionConfigFields // c.check ctx = .ok () }

end Config

section Ranks

variable (ctx : DecimalContext)

abbrev CellKey := ContentId × ContentId

/-- The dictionary `by_value`: values are ranked by value, and no identifier breaks a tie. -/
def percentileOf (values : List ℚ) (higherIsBetter : Bool) (value : ℚ) : ℚ :=
  let unique := sorted values.dedup
  let rank := if unique.length = 1 then 1 / 2 else ctx.div (unique.idxOf value) (unique.length - 1 : ℕ)
  if higherIsBetter then rank else ctx.sub 1 rank

/-- `_percentile_ranks` -/
def percentileRanks (values : List (CellKey × ℚ)) (higherIsBetter : Bool) :
    Except String (List (CellKey × ℚ)) := do
  raiseIf (values = [] ∨ ¬(values.map (·.1)).Nodup) graphError
  return values.map fun (key, value) => (key, percentileOf ctx (values.map (·.2)) higherIsBetter value)

/-- The dense rank of a score, from the highest, and how many scores tie with it. -/
def tierOf (scores : List ℚ) (score : ℚ) : ℕ × ℕ :=
  ((scores.dedup.insertionSort (· ≥ ·)).idxOf score + 1, scores.count score)

/-- `_rank_tiers` -/
def rankTiers (values : List (CellKey × ℚ)) : Except String (List (CellKey × (ℕ × ℕ))) := do
  raiseIf (values = [] ∨ ¬(values.map (·.1)).Nodup) graphError
  return values.map fun (key, value) => (key, tierOf (values.map (·.2)) value)

/-- `ranks[key]` -/
def entryOf {α : Type} (entries : List (CellKey × α)) (key : CellKey) : Except String α :=
  (entries.lookup key).elim (.error "KeyError") .ok

/-- `_median` -/
def medianOf (values : List ℚ) : Except String ℚ :=
  if values = [] then .error graphError
  else
    let ordered := sorted values
    let middle := ordered.length / 2
    if ordered.length % 2 = 1 then .ok (ordered.getD middle 0)
    else .ok (ctx.div (ctx.add (ordered.getD (middle - 1) 0) (ordered.getD middle 0)) 2)

end Ranks

section Regime

variable (ctx : DecimalContext) (hex : ContentId → String)

def cellOf (v : TechnicalVectorFields) : CellKey := (v.stableInstrumentId, v.stableListingId)

def featureId (v : TechnicalVectorFields) : ContentId :=
  .ofFields "promoted-technical-feature-vector/v1"
    [v.sourceHistoryId, v.configId, v.stableInstrumentId, v.stableListingId, .int v.signalSession,
      .int v.cutoff, .int v.knowledgeTime, .list v.inputBarIds, .decimal v.returnShort,
      .decimal v.returnMedium, .decimal v.returnLong, .decimal v.simpleMovingAverageShort,
      .decimal v.simpleMovingAverageLong, .decimal v.distanceFromShortAverage,
      .decimal v.distanceFromLongAverage, .decimal v.positiveCloseFractionShort,
      .decimal v.averageTrueRange, .decimal v.averageTrueRangeFraction,
      .decimal v.annualizedRealizedVolatility, .decimal v.priorBreakoutHigh, .decimal v.priorBreakoutLow,
      .decimal v.breakoutDistance, .decimal v.rangePosition, .decimal v.maximumDrawdown,
      .decimal v.signalGapReturn, .decimal v.medianPriorVolume, .decimal v.signalVolumeRatio,
      .decimal v.medianPriorTradedValue, .decimal v.signalTradedValueRatio, .decimal v.zeroVolumeFraction,
      .decimal v.rangeContractionRatio, .decimal v.signalTickSize, .decimal v.signalTickFraction,
      .decimal v.averageTrueRangeInTicks, .int v.tickChangeCount]

structure RegimeEvidenceFields where
  sourceFeaturePanelId : ContentId
  configId : ContentId
  regime : MarketRegime
  computedInstrumentCount : ℕ
  marketBreadth : ℚ
  medianMediumMomentum : ℚ
  medianAnnualizedVolatility : ℚ
  featureIds : List ContentId
  deriving DecidableEq, Repr

/-- `PromotedMarketRegimeEvidence.__post_init__` -/
def RegimeEvidenceFields.check (e : RegimeEvidenceFields) : Except String Unit :=
  raiseIf (e.computedInstrumentCount = 0 ∨ ¬isUnit e.marketBreadth ∨ e.medianAnnualizedVolatility < 0 ∨
      e.featureIds.length ≠ e.computedInstrumentCount ∨ e.featureIds ≠ sortOn hex e.featureIds.dedup)
    graphError

abbrev RegimeEvidence := { e : RegimeEvidenceFields // e.check hex = .ok () }

def RegimeEvidenceFields.evidenceId (e : RegimeEvidenceFields) : ContentId :=
  .ofFields "promoted-market-regime-evidence/v1"
    [e.sourceFeaturePanelId, e.configId, .text e.regime.value, .int e.computedInstrumentCount,
      .decimal e.marketBreadth, .decimal e.medianMediumMomentum, .decimal e.medianAnnualizedVolatility,
      .list e.featureIds]

/-- The regime that the thresholds give to a breadth, a momentum and a volatility. -/
def regimeOf (c : CrossSectionConfigFields) (breadth momentum volatility : ℚ) : MarketRegime :=
  if c.highVolatilityThreshold ≤ volatility then .highVolatility
  else if breadth ≤ c.riskOffBreadthThreshold ∧ momentum ≤ 0 then .riskOff
  else if c.trendingBreadthThreshold ≤ breadth ∧ c.trendingMomentumThreshold ≤ momentum then .trending
  else .rangeBound

/-- `_regime` -/
def regimeEvidence (vectors : List TechnicalVector) (c : CrossSectionConfigFields) (panelId : ContentId) :
    Except String (RegimeEvidence hex) := do
  let breadth := ctx.div (vectors.countP fun v => 0 < v.1.distanceFromLongAverage) vectors.length
  let momentum ← medianOf ctx (vectors.map (·.1.returnMedium))
  let volatility ← medianOf ctx (vectors.map (·.1.annualizedRealizedVolatility))
  Checked.build (RegimeEvidenceFields.check hex)
    { sourceFeaturePanelId := panelId
      configId := c.configId
      regime := regimeOf c breadth momentum volatility
      computedInstrumentCount := vectors.length
      marketBreadth := breadth
      medianMediumMomentum := momentum
      medianAnnualizedVolatility := volatility
      featureIds := sortOn hex (vectors.map (featureId ·.1)) }

end Regime

section Scores

variable (ctx : DecimalContext)

structure SpecialistScoreFields where
  specialist : AlphaSpecialist
  rawScore : ℚ
  regimeWeight : ℚ
  weightedScore : ℚ
  components : List (String × ℚ)
  deriving DecidableEq, Repr

/-- `PromotedSpecialistScore.__post_init__` -/
def SpecialistScoreFields.check (s : SpecialistScoreFields) : Except String Unit :=
  raiseIf (¬isUnit s.rawScore ∨ ¬isUnit s.regimeWeight ∨ s.weightedScore ≠ ctx.mul s.rawScore s.regimeWeight ∨
      s.components = [] ∨ s.components ≠ sortOn (·.1) s.components ∨ ¬(s.components.map (·.1)).Nodup)
    graphError

abbrev SpecialistScore := { s : SpecialistScoreFields // s.check ctx = .ok () }

/-- The percentiles of a vector in its cross-section. -/
structure CellRanks where
  short : ℚ
  long : ℚ
  liquidity : ℚ
  lowVolatility : ℚ
  lowTickFriction : ℚ

/-- What `_score_parts` computes of a vector alone. -/
structure Qualities where
  breakout : ℚ
  volume : ℚ
  contraction : ℚ
  trendGate : ℚ
  pullback : ℚ

def trendGate (c : CrossSectionConfigFields) (v : TechnicalVectorFields) : ℚ :=
  clamp (ctx.div v.distanceFromLongAverage c.trendGateDistance)

def qualitiesOf (c : CrossSectionConfigFields) (v : TechnicalVectorFields) : Qualities :=
  let pullbackDepth := max 0 (ctx.round (-v.breakoutDistance))
  { breakout := clamp (ctx.div (ctx.add v.breakoutDistance c.breakoutReferenceDistance) c.breakoutReferenceDistance)
    volume := clamp (ctx.div v.signalVolumeRatio c.volumeRatioFullConfirmation)
    contraction := clamp (ctx.div (ctx.sub c.contractionZeroQualityRatio v.rangeContractionRatio)
      (ctx.sub c.contractionZeroQualityRatio (1 / 2)))
    trendGate := trendGate ctx c v
    pullback := clamp (ctx.sub 1 (ctx.div |ctx.sub pullbackDepth c.idealPullbackDepth| c.pullbackTolerance)) }

/-- The dictionary `raw` -/
def rawScore (r : CellRanks) (q : Qualities) : AlphaSpecialist → ℚ
  | .momentumBreakout => clamp (ctx.add (ctx.add (ctx.add (ctx.mul (7 / 20) r.short) (ctx.mul (1 / 4) r.long))
      (ctx.mul (1 / 4) q.breakout)) (ctx.mul (3 / 20) q.volume))
  | .pullbackContinuation => clamp (ctx.mul q.trendGate (ctx.add (ctx.add (ctx.mul (1 / 2) q.pullback)
      (ctx.mul (1 / 4) r.short)) (ctx.mul (1 / 4) q.volume)))
  | .volatilityContraction => clamp (ctx.add (ctx.add (ctx.add (ctx.mul (2 / 5) q.contraction)
      (ctx.mul (1 / 4) q.breakout)) (ctx.mul (1 / 5) r.lowVolatility)) (ctx.mul (3 / 20) q.volume))
  | .liquidityQuality => clamp (ctx.add (ctx.mul (3 / 4) r.liquidity) (ctx.mul (1 / 4) r.lowTickFriction))

/-- The dictionary `components` -/
def componentsOf (r : CellRanks) (q : Qualities) : AlphaSpecialist → List (String × ℚ)
  | .momentumBreakout => [("breakout_quality", q.breakout), ("long_return_percentile", r.long),
      ("short_return_percentile", r.short), ("volume_quality", q.volume)]
  | .pullbackContinuation => [("pullback_quality", q.pullback), ("short_return_percentile", r.short),
      ("trend_gate", q.trendGate), ("volume_quality", q.volume)]
  | .volatilityContraction => [("breakout_quality", q.breakout), ("contraction_quality", q.contraction),
      ("low_volatility_percentile", r.lowVolatility), ("volume_quality", q.volume)]
  | .liquidityQuality => [("low_tick_friction_percentile", r.lowTickFriction), ("traded_value_percentile", r.liquidity)]

def specialistScore (w : AlphaRegimeWeighting) (r : CellRanks) (q : Qualities) (specialist : AlphaSpecialist) :
    Except String (SpecialistScore ctx) :=
  Checked.build (SpecialistScoreFields.check ctx)
    { specialist := specialist
      rawScore := rawScore ctx r q specialist
      regimeWeight := w.weightFor specialist
      weightedScore := ctx.mul (rawScore ctx r q specialist) (w.weightFor specialist)
      components := sortOn (·.1) (componentsOf r q specialist) }

structure ScoreParts where
  vector : TechnicalVector
  specialistScores : List (SpecialistScore ctx)
  ensembleScore : ℚ

/-- The body of the loop of `_score_parts` -/
def scorePart (c : CrossSectionConfigFields) (w : AlphaRegimeWeighting) (v : TechnicalVector) (r : CellRanks) :
    Except String (ScoreParts ctx) := do
  let scores ← AlphaSpecialist.all.mapM (specialistScore ctx w r (qualitiesOf ctx c v.1))
  return ⟨v, scores, ctx.sum 0 (scores.map (·.1.weightedScore))⟩

/-- `_score_parts` -/
def scoreParts (vectors : List TechnicalVector) (regime : MarketRegime) (c : CrossSectionConfigFields) :
    Except String (List (ScoreParts ctx)) := do
  raiseIf (¬(vectors.map (cellOf ·.1)).Nodup) graphError
  let shortRanks ← percentileRanks ctx (vectors.map fun v => (cellOf v.1, v.1.returnShort)) true
  let longRanks ← percentileRanks ctx (vectors.map fun v => (cellOf v.1, v.1.returnLong)) true
  let liquidityRanks ← percentileRanks ctx (vectors.map fun v => (cellOf v.1, v.1.medianPriorTradedValue)) true
  let lowVolatilityRanks ←
    percentileRanks ctx (vectors.map fun v => (cellOf v.1, v.1.annualizedRealizedVolatility)) false
  let lowTickFrictionRanks ← percentileRanks ctx (vectors.map fun v => (cellOf v.1, v.1.signalTickFraction)) false
  let weighting ← c.weightingFor regime
  vectors.mapM fun v => do
    let short ← entryOf shortRanks (cellOf v.1)
    let long ← entryOf longRanks (cellOf v.1)
    let liquidity ← entryOf liquidityRanks (cellOf v.1)
    let lowVolatility ← entryOf lowVolatilityRanks (cellOf v.1)
    let lowTickFriction ← entryOf lowTickFrictionRanks (cellOf v.1)
    scorePart ctx c weighting v ⟨short, long, liquidity, lowVolatility, lowTickFriction⟩

structure OpportunityScoreFields where
  sourceFeatureId : ContentId
  regimeEvidenceId : ContentId
  stableInstrumentId : ContentId
  stableListingId : ContentId
  specialistScores : List (SpecialistScore ctx)
  ensembleScore : ℚ
  rankTier : ℕ
  tieSize : ℕ

/-- `PromotedOpportunityScore.__post_init__` -/
def OpportunityScoreFields.check (o : OpportunityScoreFields ctx) : Except String Unit :=
  raiseIf (o.specialistScores.map (·.1.specialist) ≠ AlphaSpecialist.all ∨ ¬isUnit o.ensembleScore ∨
      o.ensembleScore ≠ ctx.sum 0 (o.specialistScores.map (·.1.weightedScore)) ∨ o.rankTier = 0 ∨ o.tieSize = 0)
    graphError

abbrev OpportunityScore := { o : OpportunityScoreFields ctx // o.check = .ok () }

variable (hex : ContentId → String)

/-- The opportunity of a score, with its tier. -/
def opportunityScore (evidenceId : ContentId) (tiers : List (CellKey × (ℕ × ℕ))) (part : ScoreParts ctx) :
    Except String (OpportunityScore ctx) := do
  let (rankTier, tieSize) ← entryOf tiers (cellOf part.vector.1)
  Checked.build (OpportunityScoreFields.check ctx)
    { sourceFeatureId := featureId part.vector.1
      regimeEvidenceId := evidenceId
      stableInstrumentId := part.vector.1.stableInstrumentId
      stableListingId := part.vector.1.stableListingId
      specialistScores := part.specialistScores
      ensembleScore := part.ensembleScore
      rankTier := rankTier
      tieSize := tieSize }

/-- `_score_promoted_feature_vectors` -/
def scorePromotedFeatureVectors (vectors : List TechnicalVector) (panelId : ContentId) (config : CrossSectionConfig ctx) :
    Except String (Option (RegimeEvidence hex) × List (OpportunityScore ctx)) := do
  raiseIf (¬(vectors.map (cellOf ·.1)).Nodup) graphError
  if (vectors.length : ℤ) < config.1.minimumComputedInstruments then return (none, [])
  else do
    let evidence ← regimeEvidence ctx hex vectors config.1 panelId
    let parts ← scoreParts ctx vectors evidence.1.regime config.1
    let tiers ← rankTiers (parts.map fun part => (cellOf part.vector.1, part.ensembleScore))
    let opportunities ← parts.mapM (opportunityScore ctx evidence.1.evidenceId tiers)
    return (some evidence, sortOn (fun o => toLex (o.1.rankTier, toLex (hex o.1.stableInstrumentId,
      hex o.1.stableListingId))) opportunities)

end Scores

end IndiaSwing.CrossSection
