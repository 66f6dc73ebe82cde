import Mathlib.Data.Finset.Dedup
import IndiaSwing.SwingQuoteGate

namespace IndiaSwing.Signals

open ExceptGuards KeySort

section Policy

inductive SwingRankingFactor
  | relativeStrength
  | trendQuality
  | volumeConfirmation
  | liquidityQuality
  | spreadQuality
  | entryQuality
  deriving DecidableEq, Repr

def SwingRankingFactor.value : SwingRankingFactor → String
  | .relativeStrength => "RELATIVE_STRENGTH"
  | .trendQuality => "TREND_QUALITY"
  | .volumeConfirmation => "VOLUME_CONFIRMATION"
  | .liquidityQuality => "LIQUIDITY_QUALITY"
  | .spreadQuality => "SPREAD_QUALITY"
  | .entryQuality => "ENTRY_QUALITY"

/-- `_unit_decimal` -/
def unitDecimal (value : ℚ) (message : String) : Except SignalError Unit :=
  raiseIf (value < 0 ∨ 1 < value) (.ranking message)

/-- The fields of a `SwingOpportunityRankingPolicy`. -/
structure SwingRankingPolicyFields where
  relativeStrengthWeight : ℚ
  trendQualityWeight : ℚ
  volumeConfirmationWeight : ℚ
  liquidityQualityWeight : ℚ
  spreadQualityWeight : ℚ
  entryQualityWeight : ℚ
  deriving DecidableEq, Repr

namespace SwingRankingPolicyFields

variable (p : SwingRankingPolicyFields)

def weights : List (SwingRankingFactor × ℚ) :=
  [(.relativeStrength, p.relativeStrengthWeight), (.trendQuality, p.trendQualityWeight),
    (.volumeConfirmation, p.volumeConfirmationWeight), (.liquidityQuality, p.liquidityQualityWeight),
    (.spreadQuality, p.spreadQualityWeight), (.entryQuality, p.entryQualityWeight)]

/-- `SwingOpportunityRankingPolicy.__post_init__` -/
def check : Except SignalError Unit := do
  p.weights.forM fun (_, value) => unitDecimal value "ranking weights must be finite Decimals in [0, 1]"
  raiseIf (signalContext.sum 0 (p.weights.map (·.2)) ≠ 1) (.ranking "ranking weights must sum exactly to one")

/-- `policy_id` -/
def policyId : ContentId :=
  .ofFields "swing-opportunity-ranking-policy/v1" (p.weights.map fun weight => .decimal weight.2)

end SwingRankingPolicyFields

abbrev SwingOpportunityRankingPolicy := { p : SwingRankingPolicyFields // p.check = .ok () }

/-- `SwingOpportunityRankingPolicy()` -/
def defaultSwingRankingPolicy : SwingOpportunityRankingPolicy :=
  ⟨⟨1 / 4, 1 / 4, 15 / 100, 15 / 100, 1 / 10, 1 / 10⟩, by decide +kernel⟩

end Policy

section Components

/-- The fields of a `SwingRankingComponent`. -/
structure SwingRankingComponentFields where
  factor : SwingRankingFactor
  rawValue : ℚ
  weight : ℚ
  contribution : ℚ
  deriving DecidableEq, Repr

namespace SwingRankingComponentFields

variable (c : SwingRankingComponentFields)

/-- `SwingRankingComponent.__post_init__` -/
def check : Except SignalError Unit := do
  unitDecimal c.rawValue "ranking raw value must be in [0, 1]"
  unitDecimal c.weight "ranking component weight must be in [0, 1]"
  raiseIf (c.contribution ≠ signalContext.mul c.rawValue c.weight) (.ranking "ranking contribution does not replay")

/-- `component_id` -/
def componentId : ContentId :=
  .ofFields "swing-ranking-component/v1" [.text c.factor.value, .decimal c.rawValue, .decimal c.weight,
    .decimal c.contribution]

end SwingRankingComponentFields

abbrev SwingRankingComponent := { c : SwingRankingComponentFields // c.check = .ok () }

variable (outcome : SwingQuoteGateOutcome) (policy : SwingOpportunityRankingPolicy)

/-- `_clamp_unit(ONE - observed_spread_bps / gate_max_spread)` -/
def spreadQuality (observedSpreadBps gateMaxSpread : ℚ) : Except SignalError ℚ := do
  let quotient ← divide observedSpreadBps gateMaxSpread
  return clamp (signalContext.sub 1 quotient)

/-- The quality of an ask within the entry range of a proposal. -/
def entryQuality (levels : SwingTradeLevels) (bestAsk : ℚ) : Except SignalError ℚ := do
  let entryWidth := signalContext.sub levels.1.entryHigh levels.1.entryLow
  raiseIf (entryWidth ≤ 0) (.ranking "proposal entry range is not rankable")
  let quotient ← divide (signalContext.sub levels.1.entryHigh bestAsk) entryWidth
  return clamp quotient

/-- `raw_values` -/
def rawValue (metrics : SwingTechnicalMetrics) (spreadQuality entryQuality : ℚ) : SwingRankingFactor → ℚ
  | .relativeStrength => metrics.1.relativeStrength
  | .trendQuality => metrics.1.trendQuality
  | .volumeConfirmation => metrics.1.volumeConfirmation
  | .liquidityQuality => metrics.1.liquidityQuality
  | .spreadQuality => spreadQuality
  | .entryQuality => entryQuality

/-- `_calculate_components` -/
def calculateComponents : Except SignalError (List SwingRankingComponent) := do
  outcome.1.check
  raiseIf (outcome.1.evaluation.disposition ≠ .pass) (.ranking "only quote-gate PASS outcomes can be ranked")
  match outcome.1.evaluation.observedSpreadBps, outcome.1.quote.1.bestAsk with
  | some observedSpreadBps, some bestAsk =>
    let spreadQuality ← spreadQuality observedSpreadBps outcome.1.policy.1.maximumSpreadBps
    let entryQuality ← entryQuality outcome.1.proposal.1.levels bestAsk
    policy.1.weights.mapM fun (factor, weight) =>
      let raw := rawValue outcome.1.proposal.1.metrics spreadQuality entryQuality factor
      Checked.build SwingRankingComponentFields.check ⟨factor, raw, weight, signalContext.mul raw weight⟩
  | _, _ => .error (.ranking "passing quote outcome lacks ranking inputs")

/-- The sum of the contributions. -/
def rankingScore (components : List SwingRankingComponent) : ℚ :=
  signalContext.sum 0 (components.map (·.1.contribution))

end Components

section Opportunities

/-- The fields of a `SwingRankedOpportunity`. -/
structure SwingRankedOpportunityFields where
  quoteGateOutcome : SwingQuoteGateOutcome
  policy : SwingOpportunityRankingPolicy
  rank : ℕ
  components : List SwingRankingComponent
  rankingScore : ℚ
  deriving DecidableEq

/-- `SwingRankedOpportunity.__post_init__` -/
def SwingRankedOpportunityFields.check (o : SwingRankedOpportunityFields) : Except SignalError Unit := do
  raiseIf (o.rank = 0) (.ranking "opportunity rank must be a positive integer")
  o.quoteGateOutcome.1.check
  raiseIf (o.quoteGateOutcome.1.evaluation.disposition ≠ .pass)
    (.ranking "ranked opportunity must bind a PASS outcome")
  let replayed ← calculateComponents o.quoteGateOutcome o.policy
  raiseIf (o.components.map (·.1.componentId) ≠ replayed.map (·.1.componentId))
    (.ranking "ranking components do not replay")
  unitDecimal o.rankingScore "ranking score must be in [0, 1]"
  raiseIf (o.rankingScore ≠ Signals.rankingScore o.components) (.ranking "ranking score does not replay")

abbrev SwingRankedOpportunity := { o : SwingRankedOpportunityFields // o.check = .ok () }

/-- The key of `_sort_key`, with zero for a spread that is missing. -/
def opportunityKey (score : ℚ) (outcome : SwingQuoteGateOutcome) : ℚ ×ₗ ℚ ×ₗ String ×ₗ String :=
  toLex (-score, toLex (outcome.1.evaluation.observedSpreadBps.getD 0,
    toLex (outcome.1.proposal.1.assembly.stableInstrumentId, outcome.1.proposal.1.assembly.stableListingId)))

/-- `sorted` by `_sort_key`, which raises for a spread that is missing -/
def sortOpportunities {α : Type} (score : α → ℚ) (outcome : α → SwingQuoteGateOutcome) (values : List α) :
    Except SignalError (List α) := do
  raiseIf (∃ value ∈ values, (outcome value).1.evaluation.observedSpreadBps = none)
    (.ranking "passing outcome lacks observed spread")
  return sortOn (fun value => opportunityKey (score value) (outcome value)) values

/-- The fields of a `SwingOpportunityRankingBatch`. -/
structure SwingOpportunityRankingBatchFields where
  quoteGateBatch : SwingQuoteGateBatch
  policy : SwingOpportunityRankingPolicy
  rankedOpportunities : List SwingRankedOpportunity
  vetoedOutcomes : List SwingQuoteGateOutcome
  rankedSubjectCount : ℕ
  vetoedSubjectCount : ℕ

namespace SwingOpportunityRankingBatchFields

variable (b : SwingOpportunityRankingBatchFields)

def passed : List SwingQuoteGateOutcome := b.quoteGateBatch.1.outcomes.filter (·.1.passed)

def vetoed : List SwingQuoteGateOutcome := b.quoteGateBatch.1.outcomes.filter (¬·.1.passed)

/-- `_verify_coverage` -/
def check : Except SignalError Unit := do
  b.quoteGateBatch.1.check
  b.rankedOpportunities.forM fun value => do
    value.1.check
    raiseIf (value.1.policy.1.policyId ≠ b.policy.1.policyId)
      (.ranking "ranked opportunity policy differs from the batch")
  b.vetoedOutcomes.forM (·.1.check)
  raiseIf (b.vetoedOutcomes ≠ b.vetoed) (.ranking "quote-gate vetoes were not preserved exactly")
  let rankedIds : List ContentId := b.rankedOpportunities.map (·.1.quoteGateOutcome.1.outcomeId)
  let passedIds : List ContentId := b.passed.map (·.1.outcomeId)
  raiseIf (¬rankedIds.Nodup ∨ rankedIds.toFinset ≠ passedIds.toFinset)
    (.ranking "ranked opportunities do not exactly cover passing outcomes")
  raiseIf (b.rankedOpportunities.map (·.1.rank) ≠ List.range' 1 b.rankedOpportunities.length)
    (.ranking "opportunity ranks are not contiguous")
  let expectedOrder ← sortOpportunities (·.1.rankingScore) (·.1.quoteGateOutcome) b.rankedOpportunities
  raiseIf (b.rankedOpportunities ≠ expectedOrder) (.ranking "ranked opportunities are out of order")
  raiseIf (b.rankedSubjectCount ≠ b.rankedOpportunities.length ∨ b.vetoedSubjectCount ≠ b.vetoedOutcomes.length ∨
    b.rankedSubjectCount + b.vetoedSubjectCount ≠ b.quoteGateBatch.1.outcomes.length)
    (.ranking "ranking subject counts are inconsistent")

end SwingOpportunityRankingBatchFields

abbrev SwingOpportunityRankingBatch := { b : SwingOpportunityRankingBatchFields // b.check = .ok () }

/-- A passing outcome with its score and its components. -/
structure ScoredOutcome where
  score : ℚ
  outcome : SwingQuoteGateOutcome
  components : List SwingRankingComponent
  deriving DecidableEq

def scoreOutcome (policy : SwingOpportunityRankingPolicy) (outcome : SwingQuoteGateOutcome) :
    Except SignalError ScoredOutcome := do
  let components ← calculateComponents outcome policy
  return ⟨rankingScore components, outcome, components⟩

/-- The opportunity of a scored outcome at a rank. -/
def rankOutcome (policy : SwingOpportunityRankingPolicy) (place : ScoredOutcome × ℕ) :
    Except SignalError SwingRankedOpportunity :=
  Checked.build SwingRankedOpportunityFields.check
    ⟨place.1.outcome, policy, place.2, place.1.components, place.1.score⟩

/-- `assemble_swing_opportunity_ranking_batch` -/
def assembleSwingOpportunityRankingBatch (quoteGateBatch : SwingQuoteGateBatch)
    (policy : Option SwingOpportunityRankingPolicy) : Except SignalError SwingOpportunityRankingBatch := do
  quoteGateBatch.1.check
  let policy := policy.getD defaultSwingRankingPolicy
  let vetoed := quoteGateBatch.1.outcomes.filter (¬·.1.passed)
  let scored ← (quoteGateBatch.1.outcomes.filter (·.1.passed)).mapM (scoreOutcome policy)
  let ordered ← sortOpportunities (·.score) (·.outcome) scored
  let ranked ← (ordered.zipIdx 1).mapM (rankOutcome policy)
  Checked.build SwingOpportunityRankingBatchFields.check
    { quoteGateBatch := quoteGateBatch
      policy := policy
      rankedOpportunities := ranked
      vetoedOutcomes := vetoed
      rankedSubjectCount := ranked.length
      vetoedSubjectCount := vetoed.length }

end Opportunities

end IndiaSwing.Signals
