import IndiaSwing.RegimeEnsembleSteps

namespace IndiaSwing.RegimeEnsemble

open DecimalContext ExceptGuards KeySort CrossSection
open Signals (signalContext AsOfSwingBar AsOfSwingBarFields InstrumentSwingHistory InstrumentSwingHistoryFields)

section CrossSections

variable {text : ℚ → String} {config : RegimeEnsembleConfig} {histories : List InstrumentSwingHistory}
  {metrics : List AlphaInstrumentMetrics}

/-- Metrics of a history. -/
def MetricsOf (history : InstrumentSwingHistory) (m : AlphaInstrumentMetrics) : Prop :=
  m.1.historyId = historyId history ∧ m.1.instrumentId = history.1.instrumentId ∧ m.1.listingId = history.1.listingId

/-- A score of a history, within the bounds. -/
structure ScoreOf (history : InstrumentSwingHistory) (s : RegimeCrossSectionScore) : Prop where
  historyId : s.1.historyId = historyId history
  instrumentId : s.1.instrumentId = history.1.instrumentId
  listingId : s.1.listingId = history.1.listingId
  bounded : Bounded s.1

/-- The loop over the histories: it ends with the first history that has no range. -/
theorem historyMetrics_cases (hsessions : ∀ h ∈ histories, some (sessionsOf h) = histories.head?.map sessionsOf)
    (hlength : ∀ h ∈ histories, config.1.minimumHistorySessions ≤ h.1.bars.length) :
    ((∀ h ∈ histories, HasRange config h.1.bars) ∧ ∃ metrics, (histories.mapM fun history => do
        raiseIf (some (sessionsOf history) ≠ histories.head?.map sessionsOf)
          "cross-sectional histories must have identical session coverage"
        calculateAlphaInstrumentMetrics history config) = .ok metrics ∧ List.Forall₂ MetricsOf histories metrics) ∨
      ((∃ h ∈ histories, ¬HasRange config h.1.bars) ∧ ∃ error, (histories.mapM fun history => do
        raiseIf (some (sessionsOf history) ≠ histories.head?.map sessionsOf)
          "cross-sectional histories must have identical session coverage"
        calculateAlphaInstrumentMetrics history config) = .error error ∧
          error = "history has no positive intraday range") := by
  apply mapM_cases
  intro history hhistory
  rw [raiseIf_neg (not_not.mpr (hsessions history hhistory)), ok_bind]
  exact metrics_cases (hlength history hhistory)

/-- The loop over the metrics: every instrument has its score. -/
theorem scores_ok {market : MarketState} {w : AlphaRegimeWeighting} (hw : w.check signalContext = .ok ())
    (htotal : roundedTotal signalContext w ≤ 1) (hbreadth : isUnit market.breadth = true) (hne : metrics ≠ [])
    (hnodup : (metrics.map (·.1.instrumentId)).Nodup) (c : RegimeEnsembleConfigFields) :
    ∃ short long liquidity lowVolatility scores,
      percentileRanks (metrics.map fun m => (m.1.instrumentId, m.1.shortMomentum)) true = .ok short ∧
      percentileRanks (metrics.map fun m => (m.1.instrumentId, m.1.longMomentum)) true = .ok long ∧
      percentileRanks (metrics.map fun m => (m.1.instrumentId, m.1.medianTradedValue)) true = .ok liquidity ∧
      percentileRanks (metrics.map fun m => (m.1.instrumentId, m.1.realizedVolatility)) false = .ok lowVolatility ∧
      (metrics.mapM fun m => do
        let short ← rankOf short m.1.instrumentId
        let long ← rankOf long m.1.instrumentId
        let liquidity ← rankOf liquidity m.1.instrumentId
        let lowVolatility ← rankOf lowVolatility m.1.instrumentId
        crossSectionScore text c market w m ⟨short, long, liquidity, lowVolatility⟩) = .ok scores ∧
      List.Forall₂ (fun m score => Bounded score.1 ∧ score.1.configId = c.configId ∧ score.1.market = market ∧
        score.1.metrics = m ∧ score.1.historyId = m.1.historyId ∧ score.1.instrumentId = m.1.instrumentId ∧
        score.1.listingId = m.1.listingId) metrics scores := by
  obtain ⟨short, hshort, hshortOf⟩ := percentileRanks_ok hne hnodup (·.1.shortMomentum) true
  obtain ⟨long, hlong, hlongOf⟩ := percentileRanks_ok hne hnodup (·.1.longMomentum) true
  obtain ⟨liquidity, hliquidity, hliquidityOf⟩ := percentileRanks_ok hne hnodup (·.1.medianTradedValue) true
  obtain ⟨volatility, hvolatility, hvolatilityOf⟩ := percentileRanks_ok hne hnodup (·.1.realizedVolatility) false
  obtain ⟨scores, hscores, hall⟩ : ∃ scores, (metrics.mapM fun m => do
      let short ← rankOf short m.1.instrumentId
      let long ← rankOf long m.1.instrumentId
      let liquidity ← rankOf liquidity m.1.instrumentId
      let lowVolatility ← rankOf volatility m.1.instrumentId
      crossSectionScore text c market w m ⟨short, long, liquidity, lowVolatility⟩) = .ok scores ∧ _ :=
    mapM_exists fun m hm => by
      obtain ⟨a, ha, -⟩ := hshortOf m hm
      obtain ⟨b, hb, -⟩ := hlongOf m hm
      obtain ⟨l, hl, hunit⟩ := hliquidityOf m hm
      obtain ⟨v, hv, -⟩ := hvolatilityOf m hm
      rw [ha, ok_bind, hb, ok_bind, hl, ok_bind, hv, ok_bind]
      exact @crossSectionScore_ok text w ⟨a, b, l, v⟩ market hw htotal hbreadth hunit c m
  exact ⟨short, long, liquidity, volatility, scores, hshort, hlong, hliquidity, hvolatility, hscores, hall⟩

/-- What makes a cross-section pass its own checks. -/
theorem crossSectionCheck_ok {x : RegimeCrossSectionFields} (hbreadth : isUnit x.market.breadth = true)
    (hne : x.scores ≠ []) (hordered : x.scores.Pairwise fun a b => a.1.instrumentId ≤ b.1.instrumentId)
    (hnodup : (x.scores.map (·.1.instrumentId)).Nodup)
    (hbound : ∀ score ∈ x.scores, score.1.configId = x.configId ∧ score.1.market = x.market) : x.check = .ok () := by
  unfold RegimeCrossSectionFields.check
  rw [raiseIf_neg (not_not.mpr hbreadth), ok_bind, raiseIf_neg, ok_bind, forM_eq_ok]
  · intro score hscore
    rw [raiseIf_eq_ok, not_or, not_not, not_not]
    exact hbound score hscore
  · rw [not_or, not_or, not_not, not_not]
    exact ⟨hne, (sortOn_of_pairwise (fun score : RegimeCrossSectionScore => score.1.instrumentId) hordered).symm, hnodup⟩

/-- A bar that opens and closes at one price. -/
def sampleBar (session : SessionDate) (low high close volume : ℚ) (evidence : String) : AsOfSwingBarFields where
  marketSession := session
  openPrice := close
  high := high
  low := low
  close := close
  volume := volume
  tradedValue := volume * close
  availableAt := 0
  evidenceId := evidence
  contentHash := "hash"

/-- A history of two bars. -/
def sampleHistory (name : String) (first second : AsOfSwingBar) : InstrumentSwingHistoryFields where
  instrumentId := name
  listingId := name
  tickSize := 1 / 20
  tickEvidenceId := "tick"
  adjustmentEvidenceId := "adjustment"
  bars := [first, second]

def sampleLeader : InstrumentSwingHistory :=
  ⟨sampleHistory "A" ⟨sampleBar 739000 60 100 70 1000 "a1", by decide +kernel⟩
    ⟨sampleBar 739001 90 100 96 2000 "a2", by decide +kernel⟩, by decide +kernel⟩

def sampleFollower : InstrumentSwingHistory :=
  ⟨sampleHistory "B" ⟨sampleBar 739000 95 105 100 100 "b1", by decide +kernel⟩
    ⟨sampleBar 739001 95 105 100 100 "b2", by decide +kernel⟩, by decide +kernel⟩

/-- A history whose last bar has one price. -/
def sampleFlat : InstrumentSwingHistory :=
  ⟨sampleHistory "B" ⟨sampleBar 739000 95 105 100 100 "b1", by decide +kernel⟩
    ⟨sampleBar 739001 100 100 100 100 "b2", by decide +kernel⟩, by decide +kernel⟩

def sampleWeighting (momentum pullback volatility liquidity : ℚ) (regime : MarketRegime) : AlphaRegimeWeighting :=
  ⟨regime, momentum, pullback, volatility, liquidity⟩

/-- A config of two sessions with some weightings. -/
def sampleConfig (weightings : List AlphaRegimeWeighting) : RegimeEnsembleConfigFields where
  minimumHistorySessions := 2
  shortMomentumSessions := 1
  longMomentumSessions := 1
  trendSessions := 2
  volatilitySessions := 1
  volumeSessions := 1
  breakoutSessions := 1
  contractionSessions := 1
  horizonSessions := 10
  trendingBreadthThreshold := 3 / 5
  trendingMomentumThreshold := 1 / 50
  riskOffBreadthThreshold := 7 / 20
  highVolatilityThreshold := 7 / 200
  weightings := weightings

def evenConfig : RegimeEnsembleConfig :=
  ⟨sampleConfig (marketRegimes.map (sampleWeighting (1 / 4) (1 / 4) (1 / 4) (1 / 4))), by decide +kernel⟩

/-- Two weightings for each regime. -/
def repeatedConfig : RegimeEnsembleConfig :=
  ⟨sampleConfig (marketRegimes.flatMap fun regime =>
    [sampleWeighting (1 / 4) (1 / 4) (1 / 4) (1 / 4) regime, sampleWeighting 1 0 0 0 regime]), by decide +kernel⟩

/-- Weights that add up to one in the order of their check, and to more in the order of the specialists. -/
def overweightConfig : RegimeEnsembleConfig :=
  ⟨sampleConfig (marketRegimes.map (sampleWeighting (4 / 10 ^ 28) 1 0 (4 / 10 ^ 28))), by decide +kernel⟩

end CrossSections

end IndiaSwing.RegimeEnsemble
