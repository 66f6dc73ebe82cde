import IndiaSwing.ContentIds
import IndiaSwing.Timestamps
import IndiaSwing.Lib.ExceptGuards
import IndiaSwing.Lib.TextPatterns

namespace IndiaSwing

open ExceptGuards TextPatterns

namespace Decision

section Texts

inductive ExceptionKind
  | dataIntegrity
  | calendarIntegrity
  | typeError
  | valueError
  | other
  deriving DecidableEq, Repr

/-- What `except Exception` catches: the class, as far as the handlers tell classes apart, and its name. -/
structure PyException where
  kind : ExceptionKind
  name : String
  deriving DecidableEq, Repr

def typeError : PyException := ⟨.typeError, "TypeError"⟩

def valueError : PyException := ⟨.valueError, "ValueError"⟩

def unicodeEncodeError : PyException := ⟨.valueError, "UnicodeEncodeError"⟩

/-- A `str` that a component returns: one that UTF-8 can write, plain or the hex digits of an id, or one with
lone surrogates. -/
inductive PyText
  | written (id : ContentId)
  | surrogates (codePoints : List ℕ)
  deriving DecidableEq, Repr

def isBlankText (text : String) : Bool := text.toList.all isSpace

def isBlankId : ContentId → Bool
  | .text value => isBlankText value
  | _ => false

/-- `not value.strip()` -/
def PyText.isBlank : PyText → Bool
  | .written id => isBlankId id
  | .surrogates _ => false

def PyText.of (text : String) : PyText := .written (.text text)

/-- A text within the canonical JSON of a content id, which is encoded as UTF-8. -/
def writeText : PyText → Except PyException ContentId
  | .written id => .ok id
  | .surrogates _ => .error unicodeEncodeError

def writeTexts (texts : List PyText) : Except PyException ContentId := do
  return .list (← texts.mapM writeText)

def boolId (value : Bool) : ContentId := .text (if value then "true" else "false")

end Texts

section Inputs

inductive Board
  | main
  | sme
  | unknown
  deriving DecidableEq, Repr

def Board.value : Board → String
  | .main => "MAIN"
  | .sme => "SME"
  | .unknown => "UNKNOWN"

inductive MarketCapBucket
  | large
  | mid
  | small
  | micro
  | unknown
  deriving DecidableEq, Repr

def MarketCapBucket.value : MarketCapBucket → String
  | .large => "LARGE"
  | .mid => "MID"
  | .small => "SMALL"
  | .micro => "MICRO"
  | .unknown => "UNKNOWN"

inductive Surveillance
  | none
  | asm
  | gsm
  | tradeToTrade
  | unknown
  deriving DecidableEq, Repr

def Surveillance.value : Surveillance → String
  | .none => "NONE"
  | .asm => "ASM"
  | .gsm => "GSM"
  | .tradeToTrade => "TRADE_TO_TRADE"
  | .unknown => "UNKNOWN"

structure InstrumentSnapshot where
  instrumentId : String
  listingId : String
  universeSnapshotId : ContentId
  exchange : String
  segment : String
  symbol : String
  board : Board
  marketCapBucket : MarketCapBucket
  active : Bool
  suspended : Bool
  surveillance : Surveillance
  lastPrice : ℚ
  medianDailyTradedValue : ℚ
  quotedSpreadBps : ℚ
  lowerCircuitLocked : Bool
  historySessions : ℤ
  priceSession : SessionDate
  dataAvailableAt : Instant
  contentFingerprint : ContentId
  deriving DecidableEq, Repr

/-- `_calculated_content_fingerprint` -/
def InstrumentSnapshot.calculatedContentFingerprint (i : InstrumentSnapshot) : ContentId :=
  .ofFields "InstrumentSnapshot" [.text i.instrumentId, .text i.listingId, i.universeSnapshotId,
    .text i.exchange, .text i.segment, .text i.symbol, .text i.board.value, .text i.marketCapBucket.value,
    boolId i.active, boolId i.suspended, .text i.surveillance.value, .decimal i.lastPrice,
    .decimal i.medianDailyTradedValue, .decimal i.quotedSpreadBps, boolId i.lowerCircuitLocked,
    .int i.historySessions, .int i.priceSession, .int i.dataAvailableAt]

def InstrumentSnapshot.identity (i : InstrumentSnapshot) : ContentId :=
  .pair i.calculatedContentFingerprint i.contentFingerprint

structure PortfolioState where
  capital : ℚ
  openRisk : ℚ
  grossExposure : ℚ
  openPositions : ℤ
  dailyRealizedPnl : ℚ
  pilotRealizedPnl : ℚ
  deriving DecidableEq, Repr

/-- `PortfolioState.__post_init__` -/
def PortfolioState.check (p : PortfolioState) : Except PyException Unit := do
  raiseIf (p.capital ≤ 0) valueError
  raiseIf (p.openRisk < 0 ∨ p.grossExposure < 0) valueError
  raiseIf (p.openPositions < 0) valueError

def PortfolioState.identity (p : PortfolioState) : ContentId :=
  .ofFields "PortfolioState" [.decimal p.capital, .decimal p.openRisk, .decimal p.grossExposure,
    .int p.openPositions, .decimal p.dailyRealizedPnl, .decimal p.pilotRealizedPnl]

structure RiskPolicy where
  policyVersion : String
  perTradeRisk : ℚ
  maxOpenRisk : ℚ
  maxPositionNotional : ℚ
  maxGrossExposure : ℚ
  maxTurnoverParticipation : ℚ
  minNetRewardRisk : ℚ
  minExpectedR : ℚ
  estimatedRoundTripCostBps : ℚ
  maxSpreadBps : ℚ
  minHistorySessions : ℤ
  requireValidatedProbabilities : Bool
  minCalibrationSampleSize : ℤ
  maxOpenPositions : ℤ
  maxDailyLoss : ℚ
  maxPilotDrawdown : ℚ
  bannedSurveillance : List Surveillance
  deriving DecidableEq, Repr

/-- The policy that `Pipeline` has by default. -/
def defaultRiskPolicy : RiskPolicy where
  policyVersion := "pilot-v1"
  perTradeRisk := 250
  maxOpenRisk := 500
  maxPositionNotional := 20000
  maxGrossExposure := 40000
  maxTurnoverParticipation := 25 / 10000
  minNetRewardRisk := 25 / 10
  minExpectedR := 20 / 100
  estimatedRoundTripCostBps := 30
  maxSpreadBps := 50
  minHistorySessions := 120
  requireValidatedProbabilities := true
  minCalibrationSampleSize := 100
  maxOpenPositions := 2
  maxDailyLoss := 750
  maxPilotDrawdown := 1500
  bannedSurveillance := [.asm, .gsm, .tradeToTrade]

/-- `RiskPolicy.__post_init__` -/
def RiskPolicy.check (p : RiskPolicy) : Except PyException Unit := do
  raiseIf (∃ limit ∈ [p.perTradeRisk, p.maxOpenRisk, p.maxPositionNotional, p.maxGrossExposure,
    p.maxTurnoverParticipation, p.minNetRewardRisk, p.maxDailyLoss, p.maxPilotDrawdown], limit ≤ 0) valueError
  raiseIf (p.estimatedRoundTripCostBps < 0 ∨ p.maxSpreadBps < 0) valueError
  raiseIf (p.minHistorySessions ≤ 0) valueError
  raiseIf (p.minCalibrationSampleSize < 0) valueError
  raiseIf (p.maxOpenPositions ≤ 0) valueError

/-- Every default passes the check of the policy. -/
theorem defaultRiskPolicy_check : defaultRiskPolicy.check = .ok () := by decide +kernel

def RiskPolicy.identity (p : RiskPolicy) : ContentId :=
  .ofFields "RiskPolicy" [.text p.policyVersion, .decimal p.perTradeRisk, .decimal p.maxOpenRisk,
    .decimal p.maxPositionNotional, .decimal p.maxGrossExposure, .decimal p.maxTurnoverParticipation,
    .decimal p.minNetRewardRisk, .decimal p.minExpectedR, .decimal p.estimatedRoundTripCostBps,
    .decimal p.maxSpreadBps, .int p.minHistorySessions, boolId p.requireValidatedProbabilities,
    .int p.minCalibrationSampleSize, .int p.maxOpenPositions, .decimal p.maxDailyLoss,
    .decimal p.maxPilotDrawdown, .list (p.bannedSurveillance.map fun s => .text s.value)]

end Inputs

section Findings

/-- The texts of the findings that are there, in their order. -/
def findings (cases : List (Bool × String)) : List String := (cases.filter (·.1)).map (·.2)

end Findings

section Outputs

/-- What the parts of a candidate are bound to. -/
structure SnapshotBinding where
  instrumentId : PyText
  listingId : PyText
  universeSnapshotId : PyText
  dataSnapshotId : PyText
  dataSnapshotFingerprint : PyText
  instrumentFingerprint : PyText
  deriving DecidableEq, Repr

def SnapshotBinding.texts (b : SnapshotBinding) : List PyText :=
  [b.instrumentId, b.listingId, b.universeSnapshotId, b.dataSnapshotId, b.dataSnapshotFingerprint,
    b.instrumentFingerprint]

structure ForecastSummary extends SnapshotBinding where
  symbol : PyText
  asOf : Instant
  horizonSessions : ℤ
  medianReturnPct : ℚ
  downsideReturnPct : ℚ
  uncertainty : ℚ
  sampleCount : ℤ
  modelVersion : PyText
  deriving DecidableEq, Repr

def outsideUnit (p : ℚ) : Prop := p < 0 ∨ 1 < p

instance (p : ℚ) : Decidable (outsideUnit p) := inferInstanceAs (Decidable (_ ∨ _))

def anyBlank (texts : List PyText) : Prop := ∃ text ∈ texts, text.isBlank = true

instance (texts : List PyText) : Decidable (anyBlank texts) := inferInstanceAs (Decidable (∃ text ∈ texts, _))

/-- `ForecastSummary.__post_init__` -/
def ForecastSummary.check (f : ForecastSummary) : Except PyException Unit := do
  raiseIf (anyBlank ([f.symbol, f.modelVersion] ++ f.texts)) valueError
  raiseIf (f.horizonSessions ≤ 0) valueError
  raiseIf (f.sampleCount ≤ 0) valueError
  raiseIf (outsideUnit f.uncertainty) valueError

def ForecastSummary.identity (f : ForecastSummary) : Except PyException ContentId := do
  let texts ← writeTexts ([f.symbol, f.modelVersion] ++ f.texts)
  return .ofFields "ForecastSummary" [texts, .int f.asOf, .int f.horizonSessions, .decimal f.medianReturnPct,
    .decimal f.downsideReturnPct, .decimal f.uncertainty, .int f.sampleCount]

structure SignalFeatures extends SnapshotBinding where
  relativeStrength : ℚ
  trendQuality : ℚ
  volumeConfirmation : ℚ
  liquidityQuality : ℚ
  newsScore : ℚ
  estimatedCostBps : ℚ
  providerVersion : PyText
  deriving DecidableEq, Repr

/-- `SignalFeatures.__post_init__` -/
def SignalFeatures.check (f : SignalFeatures) : Except PyException Unit := do
  raiseIf (anyBlank (f.texts ++ [f.providerVersion])) valueError
  raiseIf (∃ p ∈ [f.relativeStrength, f.trendQuality, f.volumeConfirmation, f.liquidityQuality],
    outsideUnit p) valueError
  raiseIf (f.newsScore < -1 ∨ 1 < f.newsScore) valueError
  raiseIf (f.estimatedCostBps < 0) valueError

def SignalFeatures.identity (f : SignalFeatures) : Except PyException ContentId := do
  let texts ← writeTexts (f.texts ++ [f.providerVersion])
  return .ofFields "SignalFeatures" [texts, .decimal f.relativeStrength, .decimal f.trendQuality,
    .decimal f.volumeConfirmation, .decimal f.liquidityQuality, .decimal f.newsScore,
    .decimal f.estimatedCostBps]

inductive ProbabilityStatus
  | provisional
  | validated
  deriving DecidableEq, Repr

def ProbabilityStatus.value : ProbabilityStatus → String
  | .provisional => "PROVISIONAL"
  | .validated => "VALIDATED"

/-- An instant and the minutes of its offset from UTC. -/
structure ZonedInstant where
  instant : Instant
  offsetMinutes : ℤ
  deriving DecidableEq, Repr

def ZonedInstant.istDate (t : ZonedInstant) : SessionDate := t.instant.istDate

structure TradeSetup extends SnapshotBinding where
  symbol : PyText
  decisionTime : Instant
  earliestEntryAt : ZonedInstant
  entryLow : ℚ
  entryHigh : ℚ
  stop : ℚ
  target : ℚ
  targetProbability : ℚ
  stopProbability : ℚ
  expectedTimeExitR : ℚ
  maxHoldingSessions : ℤ
  setupReason : PyText
  stopReason : PyText
  targetReason : PyText
  cancelConditions : List PyText
  probabilityStatus : ProbabilityStatus
  calibrationSampleSize : ℤ
  entryExpiresAt : Option ZonedInstant
  providerVersion : PyText
  deriving DecidableEq, Repr

/-- `TradeSetup.__post_init__` -/
def TradeSetup.check (t : TradeSetup) : Except PyException Unit := do
  raiseIf (anyBlank ([t.symbol] ++ t.texts ++ [t.providerVersion])) valueError
  raiseIf (∃ expiry ∈ t.entryExpiresAt, expiry.instant ≤ t.earliestEntryAt.instant) valueError
  raiseIf (anyBlank t.cancelConditions) typeError
  raiseIf (¬(0 < t.stop ∧ t.stop < t.entryLow ∧ t.entryLow ≤ t.entryHigh ∧ t.entryHigh < t.target)) valueError
  raiseIf (outsideUnit t.targetProbability) valueError
  raiseIf (outsideUnit t.stopProbability) valueError
  raiseIf (1 < t.targetProbability + t.stopProbability) valueError
  raiseIf (t.maxHoldingSessions ≤ 0) valueError
  raiseIf (t.calibrationSampleSize < 0) valueError
  raiseIf (t.probabilityStatus = .validated ∧ t.calibrationSampleSize ≤ 0) valueError

def TradeSetup.identity (t : TradeSetup) : Except PyException ContentId := do
  let texts ← writeTexts ([t.symbol, t.setupReason, t.stopReason, t.targetReason, t.providerVersion] ++ t.texts)
  let conditions ← writeTexts t.cancelConditions
  return .ofFields "TradeSetup" [texts, conditions, .int t.decisionTime, .int t.earliestEntryAt.instant,
    .decimal t.entryLow, .decimal t.entryHigh, .decimal t.stop, .decimal t.target,
    .decimal t.targetProbability, .decimal t.stopProbability, .decimal t.expectedTimeExitR,
    .int t.maxHoldingSessions, .text t.probabilityStatus.value, .int t.calibrationSampleSize,
    .option (fun expiry => .int expiry.instant) t.entryExpiresAt]

structure Candidate where
  instrument : InstrumentSnapshot
  forecast : ForecastSummary
  signals : SignalFeatures
  setup : TradeSetup
  evidenceIds : List PyText
  deriving DecidableEq, Repr

/-- `Candidate.__post_init__` on parts of the right types -/
def Candidate.check (c : Candidate) : Except PyException Unit := do
  raiseIf (anyBlank c.evidenceIds) typeError
  raiseIf (¬c.evidenceIds.Nodup) valueError
  raiseIf (∃ symbol ∈ [c.forecast.symbol, c.setup.symbol], symbol ≠ .of c.instrument.symbol) valueError
  raiseIf (∃ part ∈ [c.forecast.toSnapshotBinding, c.signals.toSnapshotBinding, c.setup.toSnapshotBinding],
    part.instrumentId ≠ .of c.instrument.instrumentId) valueError
  raiseIf (∃ part ∈ [c.forecast.toSnapshotBinding, c.signals.toSnapshotBinding, c.setup.toSnapshotBinding],
    part.listingId ≠ .of c.instrument.listingId) valueError
  raiseIf (∃ part ∈ [c.forecast.toSnapshotBinding, c.signals.toSnapshotBinding, c.setup.toSnapshotBinding],
    part.universeSnapshotId ≠ .written c.instrument.universeSnapshotId) valueError
  raiseIf (∃ part ∈ [c.signals.toSnapshotBinding, c.setup.toSnapshotBinding],
    part.dataSnapshotId ≠ c.forecast.dataSnapshotId) valueError
  raiseIf (∃ part ∈ [c.signals.toSnapshotBinding, c.setup.toSnapshotBinding],
    part.dataSnapshotFingerprint ≠ c.forecast.dataSnapshotFingerprint) valueError
  raiseIf (∃ part ∈ [c.forecast.toSnapshotBinding, c.signals.toSnapshotBinding, c.setup.toSnapshotBinding],
    part.instrumentFingerprint ≠ .written c.instrument.contentFingerprint) valueError

/-- `content_id` of a candidate -/
def Candidate.identity (c : Candidate) : Except PyException ContentId := do
  let forecast ← c.forecast.identity
  let signals ← c.signals.identity
  let setup ← c.setup.identity
  let evidence ← writeTexts c.evidenceIds
  return .ofFields "Candidate" [c.instrument.identity, forecast, signals, setup, evidence]

inductive ResearchVerdict
  | approve
  | veto
  | uncertain
  deriving DecidableEq, Repr

def ResearchVerdict.value : ResearchVerdict → String
  | .approve => "APPROVE"
  | .veto => "VETO"
  | .uncertain => "UNCERTAIN"

structure ResearchAssessment extends SnapshotBinding where
  symbol : PyText
  verdict : ResearchVerdict
  thesis : PyText
  bearCase : PyText
  risks : List PyText
  evidenceIds : List PyText
  modelVersion : PyText
  deriving DecidableEq, Repr

/-- `ResearchAssessment.__post_init__` -/
def ResearchAssessment.check (a : ResearchAssessment) : Except PyException Unit := do
  raiseIf (anyBlank ([a.symbol, a.thesis, a.bearCase, a.modelVersion] ++ a.texts)) valueError
  raiseIf (anyBlank a.risks) typeError
  raiseIf (anyBlank a.evidenceIds) typeError
  raiseIf (a.evidenceIds = []) valueError
  raiseIf (¬a.evidenceIds.Nodup) valueError

/-- `content_id` of an assessment -/
def ResearchAssessment.identity (a : ResearchAssessment) : Except PyException ContentId := do
  let texts ← writeTexts ([a.symbol, a.thesis, a.bearCase, a.modelVersion] ++ a.texts)
  let risks ← writeTexts a.risks
  let evidence ← writeTexts a.evidenceIds
  return .ofFields "ResearchAssessment" [texts, risks, evidence, .text a.verdict.value]

inductive DecisionAction
  | buy
  | noTrade
  deriving DecidableEq, Repr

def DecisionAction.value : DecisionAction → String
  | .buy => "BUY"
  | .noTrade => "NO_TRADE"

structure TradeDecision where
  action : DecisionAction
  signalId : ContentId
  decisionTime : Instant
  symbol : Option String
  quantity : ℤ
  entryLow : Option ℚ
  entryHigh : Option ℚ
  stop : Option ℚ
  target : Option ℚ
  plannedMaxLoss : ℚ
  estimatedCost : ℚ
  netRewardRisk : ℚ
  expectedR : ℚ
  reasons : List PyText
  thesis : PyText
  bearCase : PyText
  cancelConditions : List PyText
  metadata : List (String × PyText)
  targetProbability : ℚ
  stopProbability : ℚ
  probabilityStatus : ProbabilityStatus
  calibrationSampleSize : ℤ
  earliestEntryAt : Option ZonedInstant
  entryExpiresAt : Option ZonedInstant
  maxHoldingSessions : ℤ
  orderType : String
  referenceReadiness : String
  executionEligible : Bool
  deriving DecidableEq, Repr

/-- A `BUY` decision without an entry window, a horizon, an order type or a readiness. -/
def TradeDecision.lacksEntry (d : TradeDecision) : Prop :=
  d.quantity ≤ 0 ∨ d.earliestEntryAt = none ∨ d.entryExpiresAt = none ∨
    (∃ entry ∈ d.earliestEntryAt, ∃ expiry ∈ d.entryExpiresAt, expiry.instant ≤ entry.instant) ∨
      d.maxHoldingSessions ≤ 0 ∨ isBlankText d.orderType = true ∨ isBlankText d.referenceReadiness = true

instance (d : TradeDecision) : Decidable d.lacksEntry :=
  inferInstanceAs (Decidable (_ ∨ _ ∨ _ ∨ (∃ entry ∈ d.earliestEntryAt, ∃ expiry ∈ d.entryExpiresAt, _) ∨ _))

/-- `TradeDecision.__post_init__` up to the hash -/
def TradeDecision.check (d : TradeDecision) : Except PyException Unit := do
  raiseIf (anyBlank d.reasons) typeError
  raiseIf (anyBlank d.cancelConditions) typeError
  raiseIf (d.quantity < 0) valueError
  raiseIf (d.action = .buy ∧ d.lacksEntry) valueError
  raiseIf (d.executionEligible = true ∧ d.referenceReadiness ≠ "POINT_IN_TIME_VERIFIED") valueError
  raiseIf (outsideUnit d.targetProbability) valueError
  raiseIf (outsideUnit d.stopProbability) valueError
  raiseIf (d.calibrationSampleSize < 0) valueError

/-- The fields of a decision other than its signal id and its hash. -/
def TradeDecision.material (d : TradeDecision) : Except PyException ContentId := do
  let reasons ← writeTexts d.reasons
  let texts ← writeTexts [d.thesis, d.bearCase]
  let conditions ← writeTexts d.cancelConditions
  let metadata ← writeTexts (d.metadata.map (·.2))
  return .ofFields "TradeDecision" [.text d.action.value, .int d.decisionTime, .option .text d.symbol,
    .int d.quantity, .option .decimal d.entryLow, .option .decimal d.entryHigh, .option .decimal d.stop,
    .option .decimal d.target, .decimal d.plannedMaxLoss, .decimal d.estimatedCost, .decimal d.netRewardRisk,
    .decimal d.expectedR, reasons, texts, conditions, .list (d.metadata.map fun pair => .text pair.1), metadata,
    .decimal d.targetProbability, .decimal d.stopProbability, .text d.probabilityStatus.value,
    .int d.calibrationSampleSize, .option (fun t => .int t.instant) d.earliestEntryAt,
    .option (fun t => .int t.instant) d.entryExpiresAt, .int d.maxHoldingSessions, .text d.orderType,
    .text d.referenceReadiness, boolId d.executionEligible]

end Outputs

end Decision

end IndiaSwing
