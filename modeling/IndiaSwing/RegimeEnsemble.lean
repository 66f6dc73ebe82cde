import IndiaSwing.CrossSection
import IndiaSwing.SwingSignals

namespace IndiaSwing.RegimeEnsemble

open ExceptGuards KeySort TextPatterns Windows CrossSection
open Signals (signalContext AsOfSwingBar InstrumentSwingHistory)

section Arithmetic

def divide (a b : ℚ) : Except String ℚ :=
  if b = 0 then .error (if a = 0 then "InvalidOperation" else "DivisionByZero") else .ok (signalContext.div a b)

/-- `a / b - ONE` -/
def relativeChange (a b : ℚ) : Except String ℚ := do
  let quotient ← divide a b
  return signalContext.sub quotient 1

/-- `_clamp` with its bounds -/
def clampTo (lower upper value : ℚ) : ℚ := max lower (min value upper)

/-- `_mean` -/
def mean (values : List ℚ) : Except String ℚ :=
  if values = [] then .error "mean requires values" else divide (signalContext.sum 0 values) values.length

/-- `_median` -/
def median (values : List ℚ) : Except String ℚ :=
  if values = [] then .error "median requires values"
  else
    let ordered := values.insertionSort (· ≤ ·)
    let middle := ordered.length / 2
    if ordered.length % 2 = 1 then .ok (ordered.getD middle 0)
    else divide (signalContext.add (ordered.getD (middle - 1) 0) (ordered.getD middle 0)) 2

/-- `max` of a generator -/
def largest (values : List ℚ) : Except String ℚ := values.max?.elim (.error "ValueError") .ok

/-- `bars[-n]` -/
def barFromEnd (n : ℕ) (bars : List AsOfSwingBar) : Except String AsOfSwingBar :=
  (fromEnd n bars).elim (.error "IndexError") .ok

end Arithmetic

section Config

/-- The fields of a `RegimeEnsembleConfig`. -/
structure RegimeEnsembleConfigFields where
  minimumHistorySessions : ℕ
  shortMomentumSessions : ℕ
  longMomentumSessions : ℕ
  trendSessions : ℕ
  volatilitySessions : ℕ
  volumeSessions : ℕ
  breakoutSessions : ℕ
  contractionSessions : ℕ
  horizonSessions : ℕ
  trendingBreadthThreshold : ℚ
  trendingMomentumThreshold : ℚ
  riskOffBreadthThreshold : ℚ
  highVolatilityThreshold : ℚ
  weightings : List AlphaRegimeWeighting
  deriving DecidableEq, Repr

namespace RegimeEnsembleConfigFields

variable (c : RegimeEnsembleConfigFields)

def integerFields : List (String × ℕ) :=
  [("minimum_history_sessions", c.minimumHistorySessions), ("short_momentum_sessions", c.shortMomentumSessions),
    ("long_momentum_sessions", c.longMomentumSessions), ("trend_sessions", c.trendSessions),
    ("volatility_sessions", c.volatilitySessions), ("volume_sessions", c.volumeSessions),
    ("breakout_sessions", c.breakoutSessions), ("contraction_sessions", c.contractionSessions),
    ("horizon_sessions", c.horizonSessions)]

/-- `required`: the bars that the features look back to. -/
def required : ℕ :=
  max (max (max (max (max (max (c.shortMomentumSessions + 1) (c.longMomentumSessions + 1)) c.trendSessions)
    (c.volatilitySessions + 1)) (c.volumeSessions + 1)) (c.breakoutSessions + 1)) c.contractionSessions

/-- `RegimeEnsembleConfig.__post_init__`, of weightings that passed their own checks -/
def check : Except String Unit := do
  c.weightings.forM (·.check signalContext)
  c.integerFields.forM fun (name, value) => raiseIf (value = 0) (name ++ " must be a positive integer")
  raiseIf (c.minimumHistorySessions < c.required) "minimum history cannot be shorter than a feature lookback"
  raiseIf (¬isUnit c.trendingBreadthThreshold) "trending_breadth_threshold must be between zero and one"
  raiseIf (¬isUnit c.riskOffBreadthThreshold) "risk_off_breadth_threshold must be between zero and one"
  raiseIf (c.highVolatilityThreshold ≤ 0) "high_volatility_threshold must be positive"
  raiseIf (c.trendingBreadthThreshold ≤ c.riskOffBreadthThreshold) "risk-off breadth must be below trending breadth"
  -- the regimes are compared as a set, so a regime may have two weightings
  raiseIf (c.weightings ≠ sortOn (·.regime.value) c.weightings ∨
      ∃ regime ∈ marketRegimes, regime ∉ c.weightings.map (·.regime))
    "config requires one exact weighting for every market regime"

/-- `config_id` -/
def configId : ContentId :=
  .ofFields "regime-aware-alpha-ensemble/v1" (c.integerFields.map (fun field => .int field.2) ++
    [.decimal c.trendingBreadthThreshold, .decimal c.trendingMomentumThreshold, .decimal c.riskOffBreadthThreshold,
      .decimal c.highVolatilityThreshold, .list (c.weightings.map (·.weightingId))])

/-- `weighting_for` -/
def weightingFor (regime : MarketRegime) : Except String AlphaRegimeWeighting :=
  match c.weightings.filter (·.regime = regime) with
  | [weighting] => .ok weighting
  | _ => .error "market regime weighting is unavailable"

end RegimeEnsembleConfigFields

abbrev RegimeEnsembleConfig := { c : RegimeEnsembleConfigFields // c.check = .ok () }

end Config

section Metrics

/-- `history_id`, of the fields that the model has -/
def historyId (history : InstrumentSwingHistory) : ContentId :=
  .ofFields "InstrumentSwingHistory" [.text history.1.instrumentId, .text history.1.listingId,
    .decimal history.1.tickSize, .text history.1.tickEvidenceId, .text history.1.adjustmentEvidenceId,
    .list (history.1.bars.map fun bar => .ofFields "AsOfSwingBar" [.int bar.1.marketSession, .decimal bar.1.openPrice,
      .decimal bar.1.high, .decimal bar.1.low, .decimal bar.1.close, .decimal bar.1.volume, .decimal bar.1.tradedValue,
      .int bar.1.availableAt, .text bar.1.evidenceId, .text bar.1.contentHash])]

/-- The fields of an `AlphaInstrumentMetrics`. -/
structure AlphaInstrumentMetricsFields where
  historyId : ContentId
  instrumentId : String
  listingId : String
  shortMomentum : ℚ
  longMomentum : ℚ
  trendDistance : ℚ
  breakoutProximity : ℚ
  pullbackDepth : ℚ
  volumeRatio : ℚ
  realizedVolatility : ℚ
  atrFraction : ℚ
  contraction : ℚ
  medianTradedValue : ℚ
  deriving DecidableEq, Repr

/-- `AlphaInstrumentMetrics.__post_init__` -/
def AlphaInstrumentMetricsFields.check (m : AlphaInstrumentMetricsFields) : Except String Unit := do
  raiseIf (m.instrumentId = "") "metrics instrument_id is required"
  raiseIf (m.listingId = "") "metrics listing_id is required"
  raiseIf (¬isUnit m.breakoutProximity) "metrics.breakout_proximity must be between zero and one"
  raiseIf (¬isUnit m.contraction) "metrics.contraction must be between zero and one"
  raiseIf (m.realizedVolatility < 0 ∨ m.atrFraction ≤ 0 ∨ m.medianTradedValue ≤ 0 ∨ m.volumeRatio ≤ 0)
    "metrics contain a non-positive market measure"

abbrev AlphaInstrumentMetrics := { m : AlphaInstrumentMetricsFields // m.check = .ok () }

/-- `_true_range` -/
def trueRange (bar previous : AsOfSwingBar) : ℚ :=
  max (max (signalContext.sub bar.1.high bar.1.low) |signalContext.sub bar.1.high previous.1.close|)
    |signalContext.sub bar.1.low previous.1.close|

variable (config : RegimeEnsembleConfig) (bars : List AsOfSwingBar) (current : AsOfSwingBar)

/-- The change of the close since the bar of `sessions` bars before. -/
def momentum (sessions : ℕ) : Except String ℚ := do
  let start ← barFromEnd (sessions + 1) bars
  relativeChange current.1.close start.1.close

def trendDistance : Except String ℚ := do
  let trendAverage ← mean ((lastOf config.1.trendSessions bars).map (·.1.close))
  relativeChange current.1.close trendAverage

/-- `breakout_proximity` and `pullback_depth` -/
def breakoutAndPullback : Except String (ℚ × ℚ) := do
  let priorHigh ← largest ((beforeLast config.1.breakoutSessions bars).map (·.1.high))
  let quotient ← divide current.1.close priorHigh
  let scaled ← divide (signalContext.sub quotient (9 / 10)) (1 / 10)
  return (clamp scaled, signalContext.sub 1 quotient)

def volumeRatio : Except String ℚ := do
  let previousVolume ← median ((beforeLast config.1.volumeSessions bars).map (·.1.volume))
  divide current.1.volume previousVolume

/-- `volatility_bars` -/
def volatilityBars : List AsOfSwingBar := lastOf (config.1.volatilitySessions + 1) bars

def realizedVolatility : Except String ℚ := do
  let returns ← (steps (volatilityBars config bars)).mapM fun pair => relativeChange pair.2.1.close pair.1.1.close
  let variance ← mean (returns.map fun value => signalContext.mul value value)
  return DecimalContext.sqrt 28 variance

def atrFraction : Except String ℚ := do
  let trueRangeMean ← mean ((steps (volatilityBars config bars)).map fun pair => trueRange pair.2 pair.1)
  divide trueRangeMean current.1.close

/-- `range_fractions` -/
def rangeFractions : Except String (List ℚ) :=
  (lastOf config.1.volatilitySessions bars).mapM fun bar => divide (signalContext.sub bar.1.high bar.1.low) bar.1.close

/-- The contraction of the recent ranges against all of them. -/
def contraction : Except String ℚ := do
  let fractions ← rangeFractions config bars
  let baselineRange ← mean fractions
  raiseIf (baselineRange ≤ 0) "history has no positive intraday range"
  let recentRange ← mean (lastOf config.1.contractionSessions fractions)
  let quotient ← divide recentRange baselineRange
  return clamp (signalContext.sub 1 quotient)

/-- `calculate_alpha_instrument_metrics` -/
def calculateAlphaInstrumentMetrics (history : InstrumentSwingHistory) (config : RegimeEnsembleConfig) :
    Except String AlphaInstrumentMetrics := do
  let bars := history.1.bars
  raiseIf (bars.length < config.1.minimumHistorySessions) "history is shorter than the configured minimum"
  let current ← barFromEnd 1 bars
  let shortMomentum ← momentum bars current config.1.shortMomentumSessions
  let longMomentum ← momentum bars current config.1.longMomentumSessions
  let distance ← trendDistance config bars current
  let (breakoutProximity, pullbackDepth) ← breakoutAndPullback config bars current
  let ratio ← volumeRatio config bars current
  let volatility ← realizedVolatility config bars
  let atr ← atrFraction config bars current
  let contracted ← contraction config bars
  let medianTradedValue ← median ((lastOf config.1.volumeSessions bars).map (·.1.tradedValue))
  Checked.build AlphaInstrumentMetricsFields.check
    { historyId := historyId history
      instrumentId := history.1.instrumentId
      listingId := history.1.listingId
      shortMomentum := shortMomentum
      longMomentum := longMomentum
      trendDistance := distance
      breakoutProximity := breakoutProximity
      pullbackDepth := pullbackDepth
      volumeRatio := ratio
      realizedVolatility := volatility
      atrFraction := atr
      contraction := contracted
      medianTradedValue := medianTradedValue }

end Metrics

section Market

/-- `_percentile_ranks` -/
def percentileRanks (values : List (String × ℚ)) (higherIsBetter : Bool) : Except String (List (String × ℚ)) := do
  raiseIf (values = []) "rank calculation requires values"
  return values.map fun (id, value) => (id, percentileOf signalContext (values.map (·.2)) higherIsBetter value)

/-- `ranks[instrument_id]` -/
def rankOf (ranks : List (String × ℚ)) (instrumentId : String) : Except String ℚ :=
  (ranks.lookup instrumentId).elim (.error "KeyError") .ok

/-- What `_market_regime` returns. -/
structure MarketState where
  regime : MarketRegime
  breadth : ℚ
  medianMomentum : ℚ
  medianVolatility : ℚ
  deriving DecidableEq, Repr

/-- `_market_regime` -/
def marketRegime (metrics : List AlphaInstrumentMetrics) (c : RegimeEnsembleConfigFields) : Except String MarketState := do
  let breadth ← divide (metrics.countP fun m => 0 < m.1.trendDistance) metrics.length
  let medianMomentum ← median (metrics.map (·.1.shortMomentum))
  let medianVolatility ← median (metrics.map (·.1.realizedVolatility))
  let regime : MarketRegime :=
    if c.highVolatilityThreshold ≤ medianVolatility then .highVolatility
    else if breadth ≤ c.riskOffBreadthThreshold ∧ medianMomentum ≤ 0 then .riskOff
    else if c.trendingBreadthThreshold ≤ breadth ∧ c.trendingMomentumThreshold ≤ medianMomentum then .trending
    else .rangeBound
  return ⟨regime, breadth, medianMomentum, medianVolatility⟩

/-- `_pullback_quality` -/
def pullbackQuality (m : AlphaInstrumentMetricsFields) : ℚ :=
  if m.trendDistance ≤ 0 ∨ m.shortMomentum ≤ 0 then 0
  else clamp (signalContext.sub 1 (signalContext.div |signalContext.sub m.pullbackDepth (1 / 25)| (2 / 25)))

end Market

section Scores

/-- The fields of an `AlphaSpecialistScore`. -/
structure AlphaSpecialistScoreFields where
  specialist : AlphaSpecialist
  rawScore : ℚ
  regimeWeight : ℚ
  weightedScore : ℚ
  rationale : String
  deriving DecidableEq, Repr

/-- `AlphaSpecialistScore.__post_init__` -/
def AlphaSpecialistScoreFields.check (s : AlphaSpecialistScoreFields) : Except String Unit := do
  raiseIf (¬isUnit s.rawScore) "specialist raw_score must be between zero and one"
  raiseIf (¬isUnit s.regimeWeight) "specialist regime_weight must be between zero and one"
  raiseIf (s.weightedScore ≠ signalContext.mul s.rawScore s.regimeWeight) "specialist weighted score differs"
  raiseIf (stripText s.rationale.toList = []) "specialist rationale is required"

abbrev AlphaSpecialistScore := { s : AlphaSpecialistScoreFields // s.check = .ok () }

/-- The percentiles of an instrument. -/
structure EnsembleRanks where
  short : ℚ
  long : ℚ
  liquidity : ℚ
  lowVolatility : ℚ

/-- `_clamp(value.volume_ratio / Decimal("2"))` -/
def volumeQuality (m : AlphaInstrumentMetricsFields) : ℚ := clamp (signalContext.div m.volumeRatio 2)

/-- The dictionary `raw` -/
def rawScore (m : AlphaInstrumentMetricsFields) (r : EnsembleRanks) : AlphaSpecialist → ℚ
  | .momentumBreakout => clamp (signalContext.add (signalContext.add (signalContext.add
      (signalContext.mul (7 / 20) r.short) (signalContext.mul (1 / 4) r.long))
      (signalContext.mul (1 / 4) m.breakoutProximity)) (signalContext.mul (3 / 20) (volumeQuality m)))
  | .pullbackContinuation => clamp (signalContext.mul (clamp (signalContext.div m.trendDistance (1 / 10)))
      (signalContext.add (signalContext.add (signalContext.mul (1 / 2) (pullbackQuality m))
        (signalContext.mul (1 / 4) r.short)) (signalContext.mul (1 / 4) (volumeQuality m))))
  | .volatilityContraction => clamp (signalContext.add (signalContext.add (signalContext.add
      (signalContext.mul (2 / 5) m.contraction) (signalContext.mul (1 / 4) m.breakoutProximity))
      (signalContext.mul (1 / 5) r.lowVolatility)) (signalContext.mul (3 / 20) (volumeQuality m)))
  | .liquidityQuality => r.liquidity

/-- The dictionary `rationales`; the text of a decimal is a parameter, since a rational has no trailing zeros. -/
def rationaleOf (text : ℚ → String) (m : AlphaInstrumentMetricsFields) (r : EnsembleRanks) : AlphaSpecialist → String
  | .momentumBreakout => "short rank " ++ text r.short ++ "; long rank " ++ text r.long ++ "; breakout proximity " ++
      text m.breakoutProximity ++ "; volume ratio " ++ text m.volumeRatio
  | .pullbackContinuation => "trend distance " ++ text m.trendDistance ++ "; pullback depth " ++ text m.pullbackDepth ++
      "; volume ratio " ++ text m.volumeRatio
  | .volatilityContraction => "contraction " ++ text m.contraction ++ "; realized volatility " ++
      text m.realizedVolatility ++ "; breakout proximity " ++ text m.breakoutProximity
  | .liquidityQuality => "cross-sectional traded-value rank " ++ text r.liquidity

def specialistScore (text : ℚ → String) (w : AlphaRegimeWeighting) (m : AlphaInstrumentMetricsFields) (r : EnsembleRanks)
    (specialist : AlphaSpecialist) : Except String AlphaSpecialistScore :=
  Checked.build AlphaSpecialistScoreFields.check
    { specialist := specialist
      rawScore := rawScore m r specialist
      regimeWeight := w.weightFor specialist
      weightedScore := signalContext.mul (rawScore m r specialist) (w.weightFor specialist)
      rationale := rationaleOf text m r specialist }

/-- The fields of a `RegimeCrossSectionScore`. -/
structure RegimeCrossSectionScoreFields where
  configId : ContentId
  historyId : ContentId
  instrumentId : String
  listingId : String
  market : MarketState
  metrics : AlphaInstrumentMetrics
  specialistScores : List AlphaSpecialistScore
  ensembleScore : ℚ
  medianReturnPct : ℚ
  downsideReturnPct : ℚ
  uncertainty : ℚ
  deriving DecidableEq

/-- `RegimeCrossSectionScore.__post_init__` -/
def RegimeCrossSectionScoreFields.check (s : RegimeCrossSectionScoreFields) : Except String Unit := do
  raiseIf (s.instrumentId = "") "cross-section score instrument_id is required"
  raiseIf (s.listingId = "") "cross-section score listing_id is required"
  raiseIf (¬isUnit s.market.breadth) "cross-section score market_breadth must be between zero and one"
  raiseIf (s.metrics.1.historyId ≠ s.historyId ∨ s.metrics.1.instrumentId ≠ s.instrumentId ∨
      s.metrics.1.listingId ≠ s.listingId) "cross-section score metrics lineage differs"
  raiseIf (s.specialistScores.map (·.1.specialist) ≠ AlphaSpecialist.all)
    "cross-section score requires one ordered score for every specialist"
  raiseIf (s.ensembleScore ≠ signalContext.sum 0 (s.specialistScores.map (·.1.weightedScore)))
    "cross-section ensemble score differs from specialist sum"
  raiseIf (¬isUnit s.ensembleScore) "cross-section score ensemble_score must be between zero and one"
  raiseIf (0 ≤ s.downsideReturnPct) "cross-section score downside return must be negative"
  raiseIf (¬isUnit s.uncertainty) "cross-section score uncertainty must be between zero and one"

abbrev RegimeCrossSectionScore := { s : RegimeCrossSectionScoreFields // s.check = .ok () }

def regimeMultiplier : MarketRegime → ℚ
  | .riskOff => 1 / 2
  | .highVolatility => 3 / 4
  | _ => 1

def regimePenalty : MarketRegime → ℚ
  | .riskOff => 3 / 20
  | .highVolatility => 1 / 10
  | _ => 0

def medianReturnPct (m : AlphaInstrumentMetricsFields) (regime : MarketRegime) (ensembleScore : ℚ) : ℚ :=
  let momentumAnchor := signalContext.mul (clampTo (-(1 / 10)) (1 / 10) m.shortMomentum) (1 / 4)
  let impliedFraction := signalContext.mul (signalContext.add (signalContext.mul
    (signalContext.sub ensembleScore (1 / 2)) (1 / 10)) momentumAnchor) (regimeMultiplier regime)
  clampTo (-15) 15 (signalContext.mul impliedFraction 100)

/-- `downside_fraction` -/
def downsideFraction (m : AlphaInstrumentMetricsFields) (horizonSessions : ℕ) : ℚ :=
  max (1 / 50) (signalContext.mul (signalContext.mul m.atrFraction (DecimalContext.sqrt 28 horizonSessions)) (3 / 2))

def downsideReturnPct (m : AlphaInstrumentMetricsFields) (horizonSessions : ℕ) : ℚ :=
  -min 25 (signalContext.mul (downsideFraction m horizonSessions) 100)

def uncertaintyOf (m : AlphaInstrumentMetricsFields) (regime : MarketRegime) (dispersion : ℚ) : ℚ :=
  clamp (signalContext.add (signalContext.add (signalContext.add (7 / 20) (signalContext.mul (7 / 20) dispersion))
    (signalContext.mul (1 / 5) (clamp (signalContext.div m.realizedVolatility (1 / 20))))) (regimePenalty regime))

/-- The body of the loop of `calculate_regime_cross_section` -/
def crossSectionScore (text : ℚ → String) (c : RegimeEnsembleConfigFields) (market : MarketState)
    (w : AlphaRegimeWeighting) (m : AlphaInstrumentMetrics) (r : EnsembleRanks) :
    Except String RegimeCrossSectionScore := do
  let scores ← AlphaSpecialist.all.mapM (specialistScore text w m.1 r)
  let ensembleScore := signalContext.sum 0 (scores.map (·.1.weightedScore))
  let dispersion ← mean (scores.map fun score => |signalContext.sub score.1.rawScore ensembleScore|)
  Checked.build RegimeCrossSectionScoreFields.check
    { configId := c.configId
      historyId := m.1.historyId
      instrumentId := m.1.instrumentId
      listingId := m.1.listingId
      market := market
      metrics := m
      specialistScores := scores
      ensembleScore := ensembleScore
      medianReturnPct := medianReturnPct m.1 market.regime ensembleScore
      downsideReturnPct := downsideReturnPct m.1 c.horizonSessions
      uncertainty := uncertaintyOf m.1 market.regime dispersion }

/-- The fields of a `RegimeCrossSection`. -/
structure RegimeCrossSectionFields where
  configId : ContentId
  market : MarketState
  scores : List RegimeCrossSectionScore
  deriving DecidableEq

/-- `RegimeCrossSection.__post_init__` -/
def RegimeCrossSectionFields.check (x : RegimeCrossSectionFields) : Except String Unit := do
  raiseIf (¬isUnit x.market.breadth) "cross-section market_breadth must be between zero and one"
  raiseIf (x.scores = [] ∨ x.scores ≠ sortOn (·.1.instrumentId) x.scores ∨ ¬(x.scores.map (·.1.instrumentId)).Nodup)
    "cross-section scores must be a non-empty unique instrument-ordered exact tuple"
  x.scores.forM fun score => raiseIf (score.1.configId ≠ x.configId ∨ score.1.market ≠ x.market)
    "cross-section score binding differs from the cross-section"

abbrev RegimeCrossSection := { x : RegimeCrossSectionFields // x.check = .ok () }

/-- The sessions of a history's bars. -/
def sessionsOf (history : InstrumentSwingHistory) : List SessionDate := history.1.bars.map (·.1.marketSession)

/-- `calculate_regime_cross_section` -/
def calculateRegimeCrossSection (text : ℚ → String) (histories : List InstrumentSwingHistory)
    (config : RegimeEnsembleConfig) : Except String RegimeCrossSection := do
  raiseIf (histories = [] ∨ histories ≠ sortOn (·.1.instrumentId) histories ∨
      ¬(histories.map (·.1.instrumentId)).Nodup ∨ ¬(histories.map (·.1.listingId)).Nodup)
    "histories must be a non-empty unique instrument/listing-ordered exact tuple"
  let metrics ← histories.mapM fun history => do
    raiseIf (some (sessionsOf history) ≠ histories.head?.map sessionsOf)
      "cross-sectional histories must have identical session coverage"
    calculateAlphaInstrumentMetrics history config
  let market ← marketRegime metrics config.1
  let shortRanks ← percentileRanks (metrics.map fun m => (m.1.instrumentId, m.1.shortMomentum)) true
  let longRanks ← percentileRanks (metrics.map fun m => (m.1.instrumentId, m.1.longMomentum)) true
  let liquidityRanks ← percentileRanks (metrics.map fun m => (m.1.instrumentId, m.1.medianTradedValue)) true
  let lowVolatilityRanks ← percentileRanks (metrics.map fun m => (m.1.instrumentId, m.1.realizedVolatility)) false
  let weighting ← config.1.weightingFor market.regime
  let scores ← metrics.mapM fun m => do
    let short ← rankOf shortRanks m.1.instrumentId
    let long ← rankOf longRanks m.1.instrumentId
    let liquidity ← rankOf liquidityRanks m.1.instrumentId
    let lowVolatility ← rankOf lowVolatilityRanks m.1.instrumentId
    crossSectionScore text config.1 market weighting m ⟨short, long, liquidity, lowVolatility⟩
  Checked.build RegimeCrossSectionFields.check ⟨config.1.configId, market, scores⟩

end Scores

end IndiaSwing.RegimeEnsemble
