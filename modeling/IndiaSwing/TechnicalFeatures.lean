import Mathlib.Data.List.Sort
import IndiaSwing.ContentIds
import IndiaSwing.Lib.Checked
import IndiaSwing.Lib.DecimalPrecision
import IndiaSwing.Lib.ExceptGuards
import IndiaSwing.Lib.Windows
import IndiaSwing.Timestamps

namespace IndiaSwing.Features

open ExceptGuards Windows

/-- The errors of the technical features: the boundary's own, the degenerate input, and what Python raises. -/
inductive FeatureError
  | technical (message : String)
  | degenerateInput
  | zeroDivision
  | invalidOperation
  | indexError
  | valueError
  deriving DecidableEq, Repr

def FeatureError.graph : FeatureError := .technical "promoted technical-feature graph is invalid"

def FeatureError.future : FeatureError := .technical "promoted technical-feature contains future-known evidence"

def FeatureError.config : FeatureError := .technical "promoted technical-feature configuration is invalid"

section Config

/-- The fields of a `PromotedTechnicalFeatureConfig`. -/
structure TechnicalFeatureConfigFields where
  minimumHistorySessions : ℤ
  shortReturnSessions : ℤ
  mediumReturnSessions : ℤ
  longReturnSessions : ℤ
  shortTrendSessions : ℤ
  longTrendSessions : ℤ
  atrSessions : ℤ
  volatilitySessions : ℤ
  liquiditySessions : ℤ
  breakoutSessions : ℤ
  drawdownSessions : ℤ
  contractionShortSessions : ℤ
  contractionLongSessions : ℤ
  tickHistorySessions : ℤ
  annualizationSessions : ℤ
  deriving DecidableEq, Repr

namespace TechnicalFeatureConfigFields

variable (c : TechnicalFeatureConfigFields)

/-- `integer_names` -/
def counts : List ℤ :=
  [c.minimumHistorySessions, c.shortReturnSessions, c.mediumReturnSessions, c.longReturnSessions, c.shortTrendSessions,
    c.longTrendSessions, c.atrSessions, c.volatilitySessions, c.liquiditySessions, c.breakoutSessions,
    c.drawdownSessions, c.contractionShortSessions, c.contractionLongSessions, c.tickHistorySessions,
    c.annualizationSessions]

/-- The values whose maximum is `required_history_sessions`. -/
def requiredCounts : List ℤ :=
  [c.shortReturnSessions + 1, c.mediumReturnSessions + 1, c.longReturnSessions + 1, c.shortTrendSessions,
    c.longTrendSessions, c.atrSessions + 1, c.volatilitySessions + 1, c.liquiditySessions + 1, c.breakoutSessions + 1,
    c.drawdownSessions, c.contractionShortSessions + 1, c.contractionLongSessions + 1, c.tickHistorySessions]

def requiredHistorySessions : ℤ := c.requiredCounts.foldl max (c.shortReturnSessions + 1)

/-- `PromotedTechnicalFeatureConfig.__post_init__` -/
def check : Except FeatureError Unit := do
  raiseIf (∃ n ∈ c.counts, n ≤ 0) .config
  raiseIf (c.shortTrendSessions < 2 ∨
      ¬(c.shortReturnSessions ≤ c.mediumReturnSessions ∧ c.mediumReturnSessions ≤ c.longReturnSessions) ∨
      c.longTrendSessions < c.shortTrendSessions ∨ c.contractionLongSessions < c.contractionShortSessions ∨
      c.minimumHistorySessions < c.requiredHistorySessions) .config

/-- `config_id` -/
def configId : ContentId := .ofFields "promoted-technical-feature-config/v1" (c.counts.map .int)

end TechnicalFeatureConfigFields

abbrev TechnicalFeatureConfig := { c : TechnicalFeatureConfigFields // c.check = .ok () }

/-- The defaults of the source. -/
def TechnicalFeatureConfig.default : TechnicalFeatureConfig :=
  ⟨⟨61, 5, 20, 60, 20, 50, 14, 20, 20, 20, 60, 5, 20, 60, 252⟩, by decide⟩

end Config

section Inputs

/-- A `PromotedFeatureInputBar`, with what its adjusted bar and its tick specification ensure. -/
@[ext] structure FeatureInputBar where
  adjustedBarId : ContentId
  tickSpecificationId : ContentId
  stableInstrumentId : ContentId
  stableListingId : ContentId
  marketSession : SessionDate
  adjustedOpen : ℚ
  adjustedHigh : ℚ
  adjustedLow : ℚ
  adjustedClose : ℚ
  adjustedVolume : ℚ
  tickSize : ℚ
  knowledgeTime : Instant
  open_pos : 0 < adjustedOpen
  low_pos : 0 < adjustedLow
  close_pos : 0 < adjustedClose
  high_bound : max (max adjustedOpen adjustedLow) adjustedClose ≤ adjustedHigh
  low_bound : adjustedLow ≤ min (min adjustedOpen adjustedHigh) adjustedClose
  volume_nonneg : 0 ≤ adjustedVolume
  tick_pos : 0 < tickSize
  deriving Repr

instance : DecidableEq FeatureInputBar := fun _ _ => decidable_of_iff _ FeatureInputBar.ext_iff.symm

/-- `input_bar_id` -/
def FeatureInputBar.inputBarId (b : FeatureInputBar) : ContentId :=
  .ofFields "promoted-feature-input-bar/v1" [b.adjustedBarId, b.tickSpecificationId, b.stableInstrumentId,
    b.stableListingId, .int b.marketSession, .decimal b.adjustedOpen, .decimal b.adjustedHigh,
    .decimal b.adjustedLow, .decimal b.adjustedClose, .decimal b.adjustedVolume, .decimal b.tickSize,
    .int b.knowledgeTime]

/-- `max(value.knowledge_time for value in bars)` -/
def latestKnowledge (bars : List FeatureInputBar) : Option Instant := (bars.map (·.knowledgeTime)).max?

/-- A `PromotedFeatureInputHistory`: bars of one listing, one for each session. -/
structure FeatureInputHistory where
  sourceAdjustedHistoryId : ContentId
  stableInstrumentId : ContentId
  stableListingId : ContentId
  signalSession : SessionDate
  cutoff : Instant
  knowledgeTime : Instant
  bars : List FeatureInputBar
  sessions : (bars.map (·.marketSession)).Pairwise (· < ·)
  latest : latestKnowledge bars = some knowledgeTime
  known : knowledgeTime ≤ cutoff

/-- `history_id` -/
def FeatureInputHistory.historyId (h : FeatureInputHistory) : ContentId :=
  .ofFields "promoted-feature-input-history/v1" [h.sourceAdjustedHistoryId, h.stableInstrumentId,
    h.stableListingId, .int h.signalSession, .int h.cutoff, .int h.knowledgeTime,
    .list (h.bars.map (·.inputBarId))]

inductive FeatureInputStatus
  | inputGraphAssembledCollectionOnly
  | corporateActionAdjustmentBlocked
  | exactSessionTickCoverageBlocked
  deriving DecidableEq, Repr

/-- A `PromotedFeatureInputResult`: only an assembled one has a history. -/
structure FeatureInputResult where
  resultId : ContentId
  status : FeatureInputStatus
  inputHistory : Option FeatureInputHistory
  assembled : status = .inputGraphAssembledCollectionOnly ↔ inputHistory.isSome = true

/-- A `VerifiedPromotedFeatureInputPanel`: its histories were assembled at its cutoff. -/
structure FeatureInputPanel where
  cutoff : Instant
  knowledgeTime : Instant
  results : List FeatureInputResult
  histories : ∀ result ∈ results, ∀ history ∈ result.inputHistory, history.cutoff = cutoff

end Inputs

section Arithmetic

/-- `context.prec = 28`, `ROUND_HALF_EVEN` -/
def featureContext : DecimalContext := .ofPrecision 28

def divide (a b : ℚ) : Except FeatureError ℚ := if b = 0 then .error .zeroDivision else .ok (featureContext.div a b)

def squareRoot (value : ℚ) : Except FeatureError ℚ :=
  if value < 0 then .error .invalidOperation else .ok (DecimalContext.sqrt 28 value)

/-- `_mean` -/
def mean (values : List ℚ) : Except FeatureError ℚ :=
  if values = [] then .error .graph else divide (featureContext.sum 0 values) values.length

/-- `_median` -/
def median (values : List ℚ) : Except FeatureError ℚ :=
  if values = [] then .error .graph
  else
    let ordered := values.insertionSort (· ≤ ·)
    let middle := ordered.length / 2
    if ordered.length % 2 = 1 then .ok (ordered.getD middle 0)
    else divide (featureContext.add (ordered.getD (middle - 1) 0) (ordered.getD middle 0)) 2

/-- `max` and `min` of a generator -/
def largest (values : List ℚ) : Except FeatureError ℚ := values.max?.elim (.error .valueError) .ok

def smallest (values : List ℚ) : Except FeatureError ℚ := values.min?.elim (.error .valueError) .ok

/-- `bars[-n]` -/
def barFromEnd (n : ℕ) (bars : List FeatureInputBar) : Except FeatureError FeatureInputBar :=
  (fromEnd n bars).elim (.error .indexError) .ok

/-- `a / b - _ONE` -/
def relativeChange (a b : ℚ) : Except FeatureError ℚ := do
  let quotient ← divide a b
  return featureContext.sub quotient 1

/-- The true range of a bar after another one. -/
def trueRange (previous current : FeatureInputBar) : ℚ :=
  max (max (featureContext.sub current.adjustedHigh current.adjustedLow)
    |featureContext.sub current.adjustedHigh previous.adjustedClose|)
    |featureContext.sub current.adjustedLow previous.adjustedClose|

/-- `_true_ranges` -/
def trueRanges (bars : List FeatureInputBar) : List ℚ := (steps bars).map fun pair => trueRange pair.1 pair.2

/-- `_returns` -/
def returns (bars : List FeatureInputBar) : Except FeatureError (List ℚ) :=
  (steps bars).mapM fun pair => relativeChange pair.2.adjustedClose pair.1.adjustedClose

/-- The loop of `_maximum_drawdown`, from a peak and the worst drawdown so far. -/
def drawdownFrom : ℚ → ℚ → List ℚ → Except FeatureError ℚ
  | _, worst, [] => .ok worst
  | peak, worst, close :: closes => do
    let change ← relativeChange close (max peak close)
    drawdownFrom (max peak close) (min worst change) closes

/-- `_maximum_drawdown` -/
def maximumDrawdown : List ℚ → Except FeatureError ℚ
  | [] => .error .indexError
  | first :: closes => drawdownFrom first 0 (first :: closes)

end Arithmetic

end IndiaSwing.Features
