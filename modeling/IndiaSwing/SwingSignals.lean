import IndiaSwing.DecisionReferences
import IndiaSwing.Lib.Checked
import IndiaSwing.Lib.DecimalPrecision
import IndiaSwing.Lib.Windows

namespace IndiaSwing.Signals

open ExceptGuards TextPatterns Windows

/-- The exceptions of the signal kernels, of the batches over them, of the calendar, and those that Python raises
itself. -/
inductive SignalError
  | signal (message : String)
  | universeBatch (message : String)
  | proposalBatch (message : String)
  | marketData (message : String)
  | quoteGate (message : String)
  | ranking (message : String)
  | calendar (error : Decision.PyException)
  | python (name : String)
  deriving DecidableEq, Repr

section Arithmetic

/-- The arithmetic context. -/
def signalContext : DecimalContext := .ofPrecision 28

def divide (a b : ℚ) : Except SignalError ℚ :=
  if b = 0 then .error (.python (if a = 0 then "InvalidOperation" else "DivisionByZero"))
  else .ok (signalContext.div a b)

/-- `_clamp` -/
def clamp (value : ℚ) : ℚ := max 0 (min value 1)

/-- `_mean` -/
def mean (values : List ℚ) : Except SignalError ℚ :=
  if values = [] then .error (.signal "mean requires at least one value")
  else divide (signalContext.sum 0 values) values.length

/-- `_median` -/
def median (values : List ℚ) : Except SignalError ℚ :=
  if values = [] then .error (.signal "median requires at least one value")
  else
    let ordered := values.insertionSort (· ≤ ·)
    let middle := ordered.length / 2
    if ordered.length % 2 = 1 then .ok (ordered.getD middle 0)
    else divide (signalContext.add (ordered.getD (middle - 1) 0) (ordered.getD middle 0)) 2

/-- `max` of a generator -/
def largest (values : List ℚ) : Except SignalError ℚ := values.max?.elim (.error (.python "ValueError")) .ok

/-- `a / b - ONE` -/
def relativeChange (a b : ℚ) : Except SignalError ℚ := do
  let quotient ← divide a b
  return signalContext.sub quotient 1

/-- `_clamp((a / b - lowest) / Decimal("0.10"))` -/
def proximity (a b lowest : ℚ) : Except SignalError ℚ := do
  let quotient ← divide a b
  let scaled ← divide (signalContext.sub quotient lowest) (1 / 10)
  return clamp scaled

/-- `_tick_floor` -/
def tickFloor (value tick : ℚ) : ℚ := signalContext.mul ⌊signalContext.div value tick⌋ tick

/-- `_tick_ceiling` -/
def tickCeiling (value tick : ℚ) : ℚ := signalContext.mul ⌈signalContext.div value tick⌉ tick

end Arithmetic

section Histories

/-- The fields of an `AsOfSwingBar`. -/
structure AsOfSwingBarFields where
  marketSession : SessionDate
  openPrice : ℚ
  high : ℚ
  low : ℚ
  close : ℚ
  volume : ℚ
  tradedValue : ℚ
  availableAt : Instant
  evidenceId : String
  contentHash : String
  deriving DecidableEq, Repr

namespace AsOfSwingBarFields

variable (b : AsOfSwingBarFields)

/-- The amounts that have to be positive, with their names, before the volume is read. -/
def prices : List (String × ℚ) :=
  [("open", b.openPrice), ("high", b.high), ("low", b.low), ("close", b.close), ("traded_value", b.tradedValue)]

/-- `AsOfSwingBar.__post_init__` -/
def check : Except SignalError Unit := do
  b.prices.forM fun (name, value) => raiseIf (value ≤ 0) (.signal ("bar " ++ name ++ " must be positive"))
  raiseIf (b.high < max (max b.openPrice b.low) b.close) (.signal "bar high is inconsistent")
  raiseIf (min (min b.openPrice b.high) b.close < b.low) (.signal "bar low is inconsistent")
  raiseIf (b.volume ≤ 0) (.signal "bar volume must be positive")
  let impliedPrice ← divide b.tradedValue b.volume
  raiseIf (¬(b.low ≤ impliedPrice ∧ impliedPrice ≤ b.high)) (.signal "bar traded value implies an invalid price")
  raiseIf (stripText b.evidenceId.toList = []) (.signal "bar evidence_id is required")
  raiseIf (stripText b.contentHash.toList = []) (.signal "bar content_hash is required")

end AsOfSwingBarFields

abbrev AsOfSwingBar := { b : AsOfSwingBarFields // b.check = .ok () }

/-- The fields of an `InstrumentSwingHistory` that the kernels read or that its constructor checks against its bars. -/
structure InstrumentSwingHistoryFields where
  instrumentId : String
  listingId : String
  tickSize : ℚ
  tickEvidenceId : String
  adjustmentEvidenceId : String
  bars : List AsOfSwingBar
  deriving DecidableEq

/-- `InstrumentSwingHistory.__post_init__` -/
def InstrumentSwingHistoryFields.check (h : InstrumentSwingHistoryFields) : Except SignalError Unit := do
  raiseIf (stripText h.instrumentId.toList = []) (.signal "history instrument_id is required")
  raiseIf (stripText h.listingId.toList = []) (.signal "history listing_id is required")
  raiseIf (h.tickSize ≤ 0) (.signal "history tick_size must be positive")
  raiseIf (stripText h.tickEvidenceId.toList = []) (.signal "history tick_evidence_id is required")
  raiseIf (stripText h.adjustmentEvidenceId.toList = []) (.signal "history adjustment_evidence_id is required")
  raiseIf (h.bars = []) (.signal "history bars must be a non-empty exact tuple")
  raiseIf (¬(h.bars.map (·.1.marketSession)).Pairwise (· < ·)) (.signal "history sessions must be ordered and unique")
  raiseIf (¬(h.bars.map (·.1.evidenceId)).Nodup) (.signal "history evidence IDs must be unique")
  raiseIf (h.tickEvidenceId ∈ h.bars.map (·.1.evidenceId)) (.signal "tick and bar evidence IDs must differ")
  raiseIf (h.adjustmentEvidenceId ∈ h.bars.map (·.1.evidenceId) ∨ h.adjustmentEvidenceId = h.tickEvidenceId)
    (.signal "adjustment, tick, and bar evidence IDs must differ")

abbrev InstrumentSwingHistory := { h : InstrumentSwingHistoryFields // h.check = .ok () }

/-- `bars[-n]` -/
def barFromEnd (n : ℕ) (bars : List AsOfSwingBar) : Except SignalError AsOfSwingBar :=
  (fromEnd n bars).elim (.error (.python "IndexError")) .ok

end Histories

section Config

/-- The fields of a `DeterministicSwingSignalConfig`. -/
structure SwingSignalConfigFields where
  minimumHistorySessions : ℕ
  momentumLookbackSessions : ℕ
  trendLookbackSessions : ℕ
  atrLookbackSessions : ℕ
  volumeLookbackSessions : ℕ
  breakoutLookbackSessions : ℕ
  fullMomentumScore : ℚ
  minimumDailyTradedValue : ℚ
  entryAtrBuffer : ℚ
  stopAtrMultiple : ℚ
  targetNetRewardRisk : ℚ
  baseRoundTripCostBps : ℚ
  maximumHoldingSessions : ℕ
  entryDelayMinutes : ℕ
  entryExpiryBufferMinutes : ℕ
  deriving DecidableEq, Repr

namespace SwingSignalConfigFields

variable (c : SwingSignalConfigFields)

def integerFields : List (String × ℕ) :=
  [("minimum_history_sessions", c.minimumHistorySessions), ("momentum_lookback_sessions", c.momentumLookbackSessions),
    ("trend_lookback_sessions", c.trendLookbackSessions), ("atr_lookback_sessions", c.atrLookbackSessions),
    ("volume_lookback_sessions", c.volumeLookbackSessions),
    ("breakout_lookback_sessions", c.breakoutLookbackSessions),
    ("maximum_holding_sessions", c.maximumHoldingSessions), ("entry_delay_minutes", c.entryDelayMinutes),
    ("entry_expiry_buffer_minutes", c.entryExpiryBufferMinutes)]

def decimalFields : List (String × ℚ) :=
  [("full_momentum_score", c.fullMomentumScore), ("minimum_daily_traded_value", c.minimumDailyTradedValue),
    ("entry_atr_buffer", c.entryAtrBuffer), ("stop_atr_multiple", c.stopAtrMultiple),
    ("target_net_reward_risk", c.targetNetRewardRisk), ("base_round_trip_cost_bps", c.baseRoundTripCostBps)]

/-- `required`: the bars that the features look back to. -/
def required : ℕ :=
  max (max (max (max (c.momentumLookbackSessions + 1) c.trendLookbackSessions) (c.atrLookbackSessions + 1))
    (c.volumeLookbackSessions + 1)) (c.breakoutLookbackSessions + 1)

/-- `DeterministicSwingSignalConfig.__post_init__` -/
def check : Except SignalError Unit := do
  c.integerFields.forM fun (name, value) => raiseIf (value = 0) (.signal (name ++ " must be a positive integer"))
  raiseIf (c.minimumHistorySessions < c.required)
    (.signal "minimum history cannot be shorter than a feature lookback")
  c.decimalFields.forM fun (name, value) => raiseIf (value ≤ 0) (.signal (name ++ " must be positive"))

/-- `config_id` -/
def configId : ContentId :=
  .ofFields "deterministic-swing-signals/v1" (c.integerFields.map (fun field => .int field.2) ++
    c.decimalFields.map fun field => .decimal field.2)

end SwingSignalConfigFields

abbrev DeterministicSwingSignalConfig := { c : SwingSignalConfigFields // c.check = .ok () }

/-- `DeterministicSwingSignalConfig()` -/
def defaultSwingSignalConfig : DeterministicSwingSignalConfig :=
  ⟨{ minimumHistorySessions := 60
     momentumLookbackSessions := 20
     trendLookbackSessions := 50
     atrLookbackSessions := 14
     volumeLookbackSessions := 20
     breakoutLookbackSessions := 20
     fullMomentumScore := 1 / 10
     minimumDailyTradedValue := 10000000
     entryAtrBuffer := 1 / 10
     stopAtrMultiple := 3 / 2
     targetNetRewardRisk := 5 / 2
     baseRoundTripCostBps := 30
     maximumHoldingSessions := 10
     entryDelayMinutes := 5
     entryExpiryBufferMinutes := 15 }, by decide +kernel⟩

end Config

section Metrics

/-- The fields of a `SwingTechnicalMetrics`. -/
structure SwingTechnicalMetricsFields where
  momentumReturn : ℚ
  trendQuality : ℚ
  volumeConfirmation : ℚ
  medianTradedValue : ℚ
  atr : ℚ
  relativeStrength : ℚ
  liquidityQuality : ℚ
  evidenceIds : List String
  deriving DecidableEq, Repr

/-- `SwingTechnicalMetrics.__post_init__` -/
def SwingTechnicalMetricsFields.check (m : SwingTechnicalMetricsFields) : Except SignalError Unit := do
  raiseIf (m.atr ≤ 0) (.signal "ATR must be positive")
  raiseIf (m.medianTradedValue < 0) (.signal "median_traded_value cannot be negative")
  raiseIf (m.evidenceIds = [] ∨ ∃ value ∈ m.evidenceIds, stripText value.toList = [])
    (.signal "metrics evidence_ids must be a non-empty exact text tuple")
  raiseIf (¬m.evidenceIds.Nodup) (.signal "metrics evidence IDs must be unique")

/-- `metrics_id` -/
def SwingTechnicalMetricsFields.metricsId (m : SwingTechnicalMetricsFields) : ContentId :=
  .ofFields "SwingTechnicalMetrics" [.decimal m.momentumReturn, .decimal m.trendQuality, .decimal m.volumeConfirmation,
    .decimal m.medianTradedValue, .decimal m.atr, .decimal m.relativeStrength, .decimal m.liquidityQuality,
    .list (m.evidenceIds.map .text)]

abbrev SwingTechnicalMetrics := { m : SwingTechnicalMetricsFields // m.check = .ok () }

variable (config : DeterministicSwingSignalConfig) (bars : List AsOfSwingBar) (current : AsOfSwingBar)

/-- The trend part of the metrics. -/
def trendQuality : Except SignalError ℚ := do
  let trendBars := lastOf config.1.trendLookbackSessions bars
  let positive := ((steps trendBars).filter fun pair => pair.1.1.close < pair.2.1.close).length
  let positiveFraction ← divide positive ((trendBars.length - 1 : ℕ) : ℚ)
  let movingAverage ← mean (trendBars.map (·.1.close))
  let aboveAverage ← proximity current.1.close movingAverage (95 / 100)
  let priorHigh ← largest ((beforeLast config.1.breakoutLookbackSessions bars).map (·.1.high))
  let breakoutProximity ← proximity current.1.close priorHigh (90 / 100)
  divide (signalContext.add (signalContext.add positiveFraction aboveAverage) breakoutProximity) 3

/-- The volume part of the metrics. -/
def volumeConfirmation : Except SignalError ℚ := do
  let priorVolume ← median ((beforeLast config.1.volumeLookbackSessions bars).map (·.1.volume))
  let quotient ← divide current.1.volume priorVolume
  let half ← divide quotient 2
  return clamp half

/-- The true range of a bar after another one. -/
def trueRange (previous bar : AsOfSwingBar) : ℚ :=
  max (max (signalContext.sub bar.1.high bar.1.low) |signalContext.sub bar.1.high previous.1.close|)
    |signalContext.sub bar.1.low previous.1.close|

/-- The bars that the average true range reads. -/
def atrBars : List AsOfSwingBar := lastOf (config.1.atrLookbackSessions + 1) bars

/-- `atr` -/
def averageTrueRange : Except SignalError ℚ :=
  mean ((steps (atrBars config bars)).map fun pair => trueRange pair.1 pair.2)

/-- `calculate_swing_technical_metrics` -/
def calculateSwingTechnicalMetrics (history : InstrumentSwingHistory) (config : DeterministicSwingSignalConfig) :
    Except SignalError SwingTechnicalMetrics := do
  let bars := history.1.bars
  raiseIf (bars.length < config.1.minimumHistorySessions)
    (.signal "history is shorter than the configured minimum")
  let current ← barFromEnd 1 bars
  let momentumStart ← barFromEnd (config.1.momentumLookbackSessions + 1) bars
  let momentum ← relativeChange current.1.close momentumStart.1.close
  let trend ← trendQuality config bars current
  let volume ← volumeConfirmation config bars current
  let medianTradedValue ← median ((lastOf config.1.volumeLookbackSessions bars).map (·.1.tradedValue))
  let atr ← averageTrueRange config bars
  raiseIf (atr ≤ 0) (.signal "ATR must be positive")
  let strength ← divide momentum config.1.fullMomentumScore
  let multiple ← divide medianTradedValue config.1.minimumDailyTradedValue
  let liquidity ← divide multiple 2
  Checked.build SwingTechnicalMetricsFields.check
    { momentumReturn := momentum
      trendQuality := trend
      volumeConfirmation := volume
      medianTradedValue := medianTradedValue
      atr := atr
      relativeStrength := clamp strength
      liquidityQuality := clamp liquidity
      evidenceIds := (lastOf config.1.required bars).map (·.1.evidenceId) }

end Metrics

section Levels

/-- The fields of a `SwingTradeLevels`. -/
structure SwingTradeLevelsFields where
  entryLow : ℚ
  entryHigh : ℚ
  stop : ℚ
  target : ℚ
  estimatedCostBps : ℚ
  deriving DecidableEq, Repr

/-- `SwingTradeLevels.__post_init__` -/
def SwingTradeLevelsFields.check (l : SwingTradeLevelsFields) : Except SignalError Unit := do
  raiseIf (l.entryLow ≤ 0) (.signal "levels.entry_low must be positive")
  raiseIf (l.entryHigh ≤ 0) (.signal "levels.entry_high must be positive")
  raiseIf (l.target ≤ 0) (.signal "levels.target must be positive")
  raiseIf (l.stop ≤ 0) (.signal "ATR stop is non-positive")
  raiseIf (l.estimatedCostBps < 0) (.signal "levels.estimated_cost_bps cannot be negative")

/-- `levels_id` -/
def SwingTradeLevelsFields.levelsId (l : SwingTradeLevelsFields) : ContentId :=
  .ofFields "SwingTradeLevels" [.decimal l.entryLow, .decimal l.entryHigh, .decimal l.stop, .decimal l.target,
    .decimal l.estimatedCostBps]

abbrev SwingTradeLevels := { l : SwingTradeLevelsFields // l.check = .ok () }

/-- The levels around a close, before they are checked. -/
def tradeLevels (currentClose tick atr estimatedCostBps : ℚ) (config : DeterministicSwingSignalConfig) :
    SwingTradeLevelsFields :=
  let entryLow := tickFloor currentClose tick
  let entryHigh := tickCeiling (signalContext.add currentClose (signalContext.mul config.1.entryAtrBuffer atr)) tick
  let stop := tickFloor (signalContext.sub entryLow (signalContext.mul config.1.stopAtrMultiple atr)) tick
  let costPerShare := signalContext.div (signalContext.mul entryHigh estimatedCostBps) 10000
  let netLossPerShare := signalContext.add (signalContext.sub entryHigh stop) costPerShare
  let target := tickCeiling (signalContext.add (signalContext.add entryHigh costPerShare)
    (signalContext.mul config.1.targetNetRewardRisk netLossPerShare)) tick
  ⟨entryLow, entryHigh, stop, target, estimatedCostBps⟩

/-- `calculate_swing_trade_levels` -/
def calculateSwingTradeLevels (currentClose tick atr estimatedCostBps : ℚ)
    (config : DeterministicSwingSignalConfig) : Except SignalError SwingTradeLevels := do
  raiseIf (currentClose ≤ 0) (.signal "current_close must be positive")
  raiseIf (tick ≤ 0) (.signal "tick must be positive")
  raiseIf (atr ≤ 0) (.signal "atr must be positive")
  raiseIf (estimatedCostBps < 0) (.signal "estimated_cost_bps cannot be negative")
  raiseIf (currentClose ≠ tickFloor currentClose tick) (.signal "signal close is not tick-aligned")
  Checked.build SwingTradeLevelsFields.check (tradeLevels currentClose tick atr estimatedCostBps config)

end Levels

section Window

/-- The fields of a `SwingNextEntryWindow`. -/
structure SwingNextEntryWindowFields where
  entryDay : SessionDate
  earliestEntryAt : Instant
  entryExpiresAt : Instant
  holdingBoundaryDay : SessionDate
  deriving DecidableEq, Repr

/-- `SwingNextEntryWindow.__post_init__` -/
def SwingNextEntryWindowFields.check (w : SwingNextEntryWindowFields) : Except SignalError Unit := do
  raiseIf (w.entryExpiresAt ≤ w.earliestEntryAt) (.signal "entry window must open before it expires")
  raiseIf (w.holdingBoundaryDay < w.entryDay) (.signal "holding boundary cannot precede the entry day")

/-- `window_id` -/
def SwingNextEntryWindowFields.windowId (w : SwingNextEntryWindowFields) : ContentId :=
  .ofFields "SwingNextEntryWindow" [.int w.entryDay, .int w.earliestEntryAt, .int w.entryExpiresAt,
    .int w.holdingBoundaryDay]

abbrev SwingNextEntryWindow := { w : SwingNextEntryWindowFields // w.check = .ok () }

def minutes (n : ℕ) : ℤ := 60000000 * n

/-- `calculate_next_entry_window` -/
def calculateNextEntryWindow (calendar : Decision.CalendarSnapshot) (marketSession : SessionDate)
    (config : DeterministicSwingSignalConfig) : Except SignalError SwingNextEntryWindow := do
  let entryDay ← (calendar.nextSession marketSession).mapError .calendar
  match entryDay.sessionWindows.filter (·.phase = .liveContinuous) with
  | [] => .error (.signal "next session has no executable window")
  | entryWindow :: _ =>
    let earliestEntryAt := entryWindow.opensAt + minutes config.1.entryDelayMinutes
    let entryExpiresAt := entryWindow.closesAt - minutes config.1.entryExpiryBufferMinutes
    let _ ← (entryDay.requireSameSessionWindow ⟨earliestEntryAt, Decision.istOffsetMinutes⟩
      ⟨entryExpiresAt, Decision.istOffsetMinutes⟩).mapError .calendar
    let holdingBoundary ← (calendar.advanceSessions entryDay.day config.1.maximumHoldingSessions).mapError .calendar
    Checked.build SwingNextEntryWindowFields.check ⟨entryDay.day, earliestEntryAt, entryExpiresAt, holdingBoundary.day⟩

end Window

end IndiaSwing.Signals
