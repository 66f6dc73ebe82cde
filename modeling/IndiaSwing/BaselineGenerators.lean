import IndiaSwing.PromotedIntents
import IndiaSwing.TradeIntents
import IndiaSwing.WalkForwardPlans

namespace IndiaSwing.Baselines

open ExceptGuards KeySort TextPatterns

section Checks

/-- `_positive_decimal` -/
def checkPositive (value : ℚ) (name : String) : Except String Unit :=
  raiseIf (value ≤ 0) (name ++ " must be a finite positive Decimal")

/-- `_fraction` -/
def checkFraction (value : ℚ) (name : String) : Except String Unit := do
  checkPositive value name
  raiseIf (1 ≤ value) (name ++ " must be below one")

/-- `_positive_integer` -/
def checkPositiveInteger (value : ℕ) (name : String) : Except String Unit :=
  raiseIf (value = 0) (name ++ " must be a positive integer")

/-- `_normalized_text` -/
def checkNormalizedText (value : String) (name : String) : Except String Unit :=
  raiseIf (value = "" ∨ stripText value.toList ≠ value.toList) (name ++ " must be normalized non-empty text")

variable (hex : ContentId → String)

/-- A tuple of ids that is sorted, unique and not empty. -/
def checkIds (values : List ContentId) (message : String) : Except String Unit :=
  raiseIf (values = [] ∨ ¬(values.map hex).Pairwise (· < ·)) message

end Checks

section Inputs

structure PointInTimeInstrumentFields where
  symbol : String
  isin : String
  universeSnapshotId : ContentId
  eligibleSessions : List SessionDate
  tickSize : ℚ
  stableInstrumentId : Option String
  eligibilityBindings : List (SessionDate × ContentId)
  deriving DecidableEq, Repr

namespace PointInTimeInstrumentFields

variable (i : PointInTimeInstrumentFields)

/-- `PointInTimeInstrument.__post_init__` -/
def check : Except String Unit := do
  raiseIf (i.symbol = "" ∨ ¬isNormalizedUpper i.symbol) "symbol must be normalized uppercase text"
  raiseIf (i.isin.toList.length ≠ 12 ∨ ¬isNormalizedUpper i.isin) "isin must be normalized 12-character text"
  raiseIf (i.eligibleSessions = [] ∨ ¬i.eligibleSessions.Pairwise (· < ·))
    "eligible_sessions must be a sorted unique non-empty tuple"
  checkPositive i.tickSize "tick_size"
  raiseIf (∃ stable ∈ i.stableInstrumentId, stripText stable.toList = [])
    "stable_instrument_id must be non-empty text when supplied"
  raiseIf (i.eligibilityBindings ≠ [] ∧ i.eligibilityBindings.map (·.1) ≠ i.eligibleSessions)
    "eligibility bindings must cover every eligible session exactly once"
  raiseIf (∃ first ∈ i.eligibilityBindings.head?, i.universeSnapshotId ≠ first.2)
    "primary universe snapshot must equal the first eligibility binding"

/-- `instrument_id` -/
def instrumentId : ContentId :=
  .ofFields "point-in-time-evaluation-instrument/v1"
    [.text i.symbol, .text i.isin, i.universeSnapshotId, .list (i.eligibleSessions.map .int), .decimal i.tickSize,
      .option .text i.stableInstrumentId, .list (i.eligibilityBindings.map fun b => .pair (.int b.1) b.2)]

end PointInTimeInstrumentFields

abbrev PointInTimeInstrument := { i : PointInTimeInstrumentFields // i.check = .ok () }

structure EvaluationDatasetFields where
  sessions : List SessionDate
  bars : List SimulationBar
  sourceSnapshotIds : List ContentId
  universeSnapshotIds : List ContentId

/-- `EvaluationDataset.__post_init__` -/
def EvaluationDatasetFields.check (hex : ContentId → String) (d : EvaluationDatasetFields) : Except String Unit := do
  raiseIf (d.sessions = [] ∨ ¬d.sessions.Pairwise (· < ·)) "sessions must be sorted unique dates"
  raiseIf (d.bars ≠ sortOn (fun bar => toLex (bar.session, bar.symbol)) d.bars) "bars must be an ordered exact tuple"
  raiseIf (¬(d.bars.map fun bar => (bar.session, bar.symbol)).Nodup)
    "dataset cannot contain duplicate symbol/session bars"
  raiseIf (∃ bar ∈ d.bars, bar.session ∉ d.sessions) "bar session is outside the dataset calendar"
  checkIds hex d.sourceSnapshotIds "source_snapshot_ids must be a sorted unique tuple"
  checkIds hex d.universeSnapshotIds "universe_snapshot_ids must be a sorted unique tuple"

abbrev EvaluationDataset (hex : ContentId → String) := { d : EvaluationDatasetFields // d.check hex = .ok () }

structure MomentumBaselineConfigFields where
  lookbackSessions : ℕ
  maximumPositions : ℕ
  grossExposureFraction : ℚ
  minimumMomentum : ℚ
  stopLossFraction : ℚ
  targetGainFraction : ℚ
  maximumHoldingSessions : ℕ
  version : String
  deriving DecidableEq, Repr

/-- `MomentumBaselineConfig.__post_init__` -/
def MomentumBaselineConfigFields.check (c : MomentumBaselineConfigFields) : Except String Unit := do
  checkPositiveInteger c.lookbackSessions "lookback_sessions"
  checkPositiveInteger c.maximumPositions "maximum_positions"
  checkFraction c.grossExposureFraction "gross_exposure_fraction"
  checkFraction c.stopLossFraction "stop_loss_fraction"
  checkPositive c.targetGainFraction "target_gain_fraction"
  checkPositiveInteger c.maximumHoldingSessions "maximum_holding_sessions"
  checkNormalizedText c.version "version"

abbrev MomentumBaselineConfig := { c : MomentumBaselineConfigFields // c.check = .ok () }

/-- `strategy_id` -/
def MomentumBaselineConfigFields.strategyId (c : MomentumBaselineConfigFields) : ContentId :=
  .ofFields "deterministic-momentum-baseline-config/v1"
    [.int c.lookbackSessions, .int c.maximumPositions, .decimal c.grossExposureFraction, .decimal c.minimumMomentum,
      .decimal c.stopLossFraction, .decimal c.targetGainFraction, .int c.maximumHoldingSessions, .text c.version,
      .text "MOMENTUM_DESC_THEN_SIGNAL_TURNOVER_DESC_THEN_SYMBOL", .text "TEST_FOLD_FIRST_SESSION_CLOSE",
      .text "NEXT_SESSION_LIMIT_AT_SIGNAL_CLOSE"]

structure EqualWeightBenchmarkConfigFields where
  maximumConstituents : ℕ
  grossExposureFraction : ℚ
  stopLossFraction : ℚ
  targetGainFraction : ℚ
  maximumHoldingSessions : ℕ
  version : String
  deriving DecidableEq, Repr

/-- `EqualWeightBenchmarkConfig.__post_init__` -/
def EqualWeightBenchmarkConfigFields.check (c : EqualWeightBenchmarkConfigFields) : Except String Unit := do
  checkPositiveInteger c.maximumConstituents "maximum_constituents"
  checkFraction c.grossExposureFraction "gross_exposure_fraction"
  checkFraction c.stopLossFraction "stop_loss_fraction"
  checkPositive c.targetGainFraction "target_gain_fraction"
  checkPositiveInteger c.maximumHoldingSessions "maximum_holding_sessions"
  checkNormalizedText c.version "version"

abbrev EqualWeightBenchmarkConfig := { c : EqualWeightBenchmarkConfigFields // c.check = .ok () }

/-- `benchmark_id` -/
def EqualWeightBenchmarkConfigFields.benchmarkId (c : EqualWeightBenchmarkConfigFields) : ContentId :=
  .ofFields "deterministic-equal-weight-benchmark-config/v1"
    [.int c.maximumConstituents, .decimal c.grossExposureFraction, .decimal c.stopLossFraction,
      .decimal c.targetGainFraction, .int c.maximumHoldingSessions, .text c.version,
      .text "SIGNAL_TURNOVER_DESC_THEN_SYMBOL", .text "EQUAL_SLOT_NOTIONAL", .text "TEST_FOLD_FIRST_SESSION_CLOSE",
      .text "NEXT_SESSION_LIMIT_AT_SIGNAL_CLOSE"]

end Inputs

section Batches

inductive GeneratedIntentRole
  | strategy
  | benchmark
  deriving DecidableEq, Repr

def GeneratedIntentRole.value : GeneratedIntentRole → String
  | .strategy => "STRATEGY"
  | .benchmark => "BENCHMARK"

structure GeneratedSignalDecisionFields where
  generatorId : ContentId
  role : GeneratedIntentRole
  foldId : ContentId
  signalSession : SessionDate
  instrumentId : ContentId
  symbol : String
  scoreName : String
  score : Option ℚ
  selected : Bool
  reason : String
  evidenceBarIds : List ContentId
  deriving DecidableEq, Repr

/-- `GeneratedSignalDecision.__post_init__` -/
def GeneratedSignalDecisionFields.check (d : GeneratedSignalDecisionFields) : Except String Unit := do
  raiseIf (¬isNormalizedUpper d.symbol) "decision symbol must be normalized"
  checkNormalizedText d.scoreName "score_name"
  checkNormalizedText d.reason "reason"
  raiseIf (¬d.evidenceBarIds.Nodup) "evidence bar IDs must be an exact unique tuple"
  raiseIf (d.selected ≠ decide (d.reason = "SELECTED")) "selected flag and reason disagree"

abbrev GeneratedSignalDecision := { d : GeneratedSignalDecisionFields // d.check = .ok () }

/-- `decision_id` -/
def GeneratedSignalDecisionFields.decisionId (d : GeneratedSignalDecisionFields) : ContentId :=
  .ofFields "generated-evaluation-signal-decision/v1"
    [d.generatorId, .text d.role.value, d.foldId, .int d.signalSession, d.instrumentId, .text d.symbol,
      .text d.scoreName, .option .decimal d.score, boolId d.selected, .text d.reason, .list d.evidenceBarIds]

structure GeneratedIntentBatchFields where
  generatorId : ContentId
  role : GeneratedIntentRole
  splitPlanId : ContentId
  sourceSnapshotIds : List ContentId
  decisions : List GeneratedSignalDecision
  intents : List EvaluationTradeIntent

namespace GeneratedIntentBatchFields

variable (hex : ContentId → String) (b : GeneratedIntentBatchFields)

def decisionKey (d : GeneratedSignalDecision) : SessionDate ×ₗ String := toLex (d.1.signalSession, d.1.symbol)

def intentKey (intent : EvaluationTradeIntent) : SessionDate ×ₗ String :=
  toLex (intent.entryOrder.signalSession, hex intent.intentId)

def selectedKeys : List (SessionDate × String × ContentId) :=
  (b.decisions.filter (·.1.selected)).map fun d => (d.1.signalSession, d.1.symbol, d.1.decisionId)

def intentKeys : List (SessionDate × String × ContentId) :=
  b.intents.map fun intent => (intent.entryOrder.signalSession, intent.entryOrder.symbol, intent.signalId)

/-- `GeneratedIntentBatch.__post_init__` -/
def check : Except String Unit := do
  checkIds hex b.sourceSnapshotIds "source snapshots must be sorted and unique"
  raiseIf (b.decisions = [] ∨ b.decisions ≠ sortOn decisionKey b.decisions) "decisions must be an ordered exact tuple"
  raiseIf (¬(b.decisions.map fun d => (d.1.foldId, d.1.signalSession, d.1.instrumentId)).Nodup)
    "decisions cannot contain duplicate candidates"
  raiseIf (∃ d ∈ b.decisions, d.1.generatorId ≠ b.generatorId ∨ d.1.role ≠ b.role)
    "decision binding differs from batch"
  raiseIf (b.intents ≠ sortOn (intentKey hex) b.intents) "intents must be an ordered exact tuple"
  raiseIf (¬(b.selectedKeys ⊆ b.intentKeys ∧ b.intentKeys ⊆ b.selectedKeys))
    "selected decisions and intents disagree"

end GeneratedIntentBatchFields

abbrev GeneratedIntentBatch (hex : ContentId → String) :=
  { b : GeneratedIntentBatchFields // b.check hex = .ok () }

end Batches

section Generation

variable (ctx : DecimalContext) {hex : ContentId → String} (plan : PurgedWalkForwardPlan) (dataset : EvaluationDataset hex)
  (instruments : List PointInTimeInstrument) (policy : DailyExecutionPolicy) (initialCapital : ℚ)

/-- The loop over the instruments, with the symbols and the ISINs seen. -/
def checkInstruments : List String → List String → List PointInTimeInstrument → Except String Unit
  | _, _, [] => .ok ()
  | symbols, isins, i :: rest => do
    raiseIf (i.1.symbol ∈ symbols ∨ i.1.isin ∈ isins) "instrument symbols and ISINs must be unique"
    raiseIf (i.1.universeSnapshotId ∉ dataset.1.universeSnapshotIds) "instrument universe is absent from dataset"
    raiseIf (∃ b ∈ i.1.eligibilityBindings, b.2 ∉ dataset.1.universeSnapshotIds)
      "instrument eligibility binding is absent from dataset"
    raiseIf (∃ s ∈ i.1.eligibleSessions, s ∉ dataset.1.sessions) "instrument eligibility exceeds dataset calendar"
    checkInstruments (i.1.symbol :: symbols) (i.1.isin :: isins) rest

/-- `_validate_inputs` -/
def validateInputs (maximumHoldingSessions : ℕ) : Except String Unit := do
  checkPositive initialCapital "initial_capital"
  raiseIf (dataset.1.sessions ≠ plan.1.orderedSessions) "dataset calendar differs from split plan"
  raiseIf (instruments = [] ∨ instruments ≠ sortOn (·.1.symbol) instruments)
    "instruments must be a non-empty symbol-ordered tuple"
  checkInstruments dataset [] [] instruments
  raiseIf (∃ fold ∈ plan.1.folds, fold.1.testSessions.length < maximumHoldingSessions + 1)
    "test fold cannot contain the registered next-session holding horizon"

/-- The bar of a symbol in a session; of several the last one counts, as in a dictionary. -/
def barAt (session : SessionDate) (symbol : String) : Option SimulationBar :=
  dataset.1.bars.reverse.find? fun bar => bar.session = session ∧ bar.symbol = symbol

/-- The registered sizes of one generator. -/
structure Sizing where
  slotNotional : ℚ
  stopLossFraction : ℚ
  targetGainFraction : ℚ
  maximumHoldingSessions : ℕ

/-- `_intent` -/
def intent (sizing : Sizing) (decision : GeneratedSignalDecision) (instrument : PointInTimeInstrument)
    (signalBar : SimulationBar) (entrySession : SessionDate) : Except String EvaluationTradeIntent := do
  let limitPrice := onTickFloor ctx signalBar.close instrument.1.tickSize
  raiseIf (limitPrice ≤ 0) "signal close cannot produce a positive limit"
  let quantity := DecimalContext.toInt (ctx.div sizing.slotNotional limitPrice)
  raiseIf (quantity ≤ 0) "selected instrument is unaffordable"
  let stopPrice := onTickFloor ctx (ctx.mul limitPrice (ctx.sub 1 sizing.stopLossFraction)) instrument.1.tickSize
  let targetPrice := onTickCeiling ctx (ctx.mul limitPrice (ctx.add 1 sizing.targetGainFraction)) instrument.1.tickSize
  raiseIf (stopPrice ≤ 0 ∨ ¬(stopPrice < limitPrice ∧ limitPrice < targetPrice))
    "configured exits are invalid at the signal price"
  raiseIf (instrument.1.symbol = "" ∨ ¬isNormalizedUpper instrument.1.symbol)
    "symbol must be normalized uppercase text"
  let order ← (LimitEntryOrder.create instrument.1.symbol decision.1.signalSession entrySession entrySession
    quantity.toNat limitPrice instrument.1.tickSize policy.maximumParticipation).mapError (·.message)
  EvaluationTradeIntent.create decision.1.decisionId instrument.1.universeSnapshotId instrument.1.isin order stopPrice
    targetPrice sizing.maximumHoldingSessions

/-- What a fold says of an instrument: the reason, the score and the evidence. -/
structure SignalReason where
  reason : String
  score : Option ℚ
  evidenceBarIds : List ContentId
  deriving DecidableEq, Repr

/-- An instrument that is left to rank, with its signal bar. -/
structure Candidate where
  score : ℚ
  turnover : ℚ
  instrument : PointInTimeInstrument
  evidenceBarIds : List ContentId
  signalBar : SimulationBar

/-- The reasons by instrument id, in the order of their assignment. -/
abbrev Reasons := List (ContentId × SignalReason)

/-- Of several reasons of an instrument the last one counts, as in a dictionary. -/
def Reasons.get (reasons : Reasons) (id : ContentId) : Option SignalReason :=
  (reasons.reverse.find? (·.1 = id)).map (·.2)

def Candidate.limitPrice (c : Candidate) : ℚ := onTickFloor ctx c.signalBar.close c.instrument.1.tickSize

/-- The slot pays for a share at the limit. -/
def Candidate.Affordable (slotNotional : ℚ) (c : Candidate) : Prop :=
  ¬(c.limitPrice ctx ≤ 0 ∨ DecimalContext.toInt (ctx.div slotNotional (c.limitPrice ctx)) ≤ 0)

instance (slotNotional : ℚ) (c : Candidate) : Decidable (c.Affordable ctx slotNotional) :=
  inferInstanceAs (Decidable (¬_))

def Candidate.reason (c : Candidate) (reason : String) : ContentId × SignalReason :=
  (c.instrument.1.instrumentId, ⟨reason, some c.score, c.evidenceBarIds⟩)

/-- The instruments that a screen turns away, with its reasons. -/
def rejections (screen : PointInTimeInstrument → SignalReason ⊕ Candidate) : Reasons :=
  instruments.filterMap fun i => (screen i).getLeft?.map fun reason => (i.1.instrumentId, reason)

def candidates (screen : PointInTimeInstrument → SignalReason ⊕ Candidate) : List Candidate :=
  instruments.filterMap fun i => (screen i).getRight?

/-- What the two generators differ in. -/
structure Generator where
  generatorId : ContentId
  role : GeneratedIntentRole
  scoreName : String
  sizing : Sizing
  reasons : SessionDate → Reasons

/-- The decision of a fold on an instrument. An instrument without a reason is a `KeyError`. -/
def instrumentDecision (generator : Generator) (fold : WalkForwardFold) (signalSession : SessionDate)
    (instrument : PointInTimeInstrument) : Except String GeneratedSignalDecision :=
  match (generator.reasons signalSession).get instrument.1.instrumentId with
  | none => .error "KeyError"
  | some reason => Checked.build GeneratedSignalDecisionFields.check
    { generatorId := generator.generatorId
      role := generator.role
      foldId := fold.1.foldId
      signalSession := signalSession
      instrumentId := instrument.1.instrumentId
      symbol := instrument.1.symbol
      scoreName := generator.scoreName
      score := reason.score
      selected := decide (reason.reason = "SELECTED")
      reason := reason.reason
      evidenceBarIds := reason.evidenceBarIds }

/-- The intent of a selected decision, from its instrument and its signal bar. -/
def selectedIntent (generator : Generator) (signalSession entrySession : SessionDate) (decision : GeneratedSignalDecision) :
    Except String EvaluationTradeIntent :=
  match instruments.reverse.find? (·.1.instrumentId = decision.1.instrumentId) with
  | none => .error "KeyError"
  | some instrument =>
    match barAt dataset signalSession instrument.1.symbol with
    | none => .error "KeyError"
    | some signalBar => intent ctx policy generator.sizing decision instrument signalBar entrySession

/-- The decisions and the intents of a fold. -/
def generateFold (generator : Generator) (fold : WalkForwardFold) :
    Except String (List GeneratedSignalDecision × List EvaluationTradeIntent) :=
  match fold.1.testSessions with
  | signalSession :: entrySession :: _ => do
    let decisions ← instruments.mapM (instrumentDecision generator fold signalSession)
    let intents ← (decisions.filter (·.1.selected)).mapM
      (selectedIntent ctx dataset instruments policy generator signalSession entrySession)
    return (decisions, intents)
  | _ => .error "IndexError"

/-- The loop over the folds, and the batch of what it collected. -/
def generateBatch (generator : Generator) : Except String (GeneratedIntentBatch hex) := do
  let folds ← plan.1.folds.mapM (generateFold ctx dataset instruments policy generator)
  Checked.build (GeneratedIntentBatchFields.check hex)
    { generatorId := generator.generatorId
      role := generator.role
      splitPlanId := plan.1.planId
      sourceSnapshotIds := dataset.1.sourceSnapshotIds
      decisions := sortOn GeneratedIntentBatchFields.decisionKey (folds.flatMap (·.1))
      intents := sortOn (GeneratedIntentBatchFields.intentKey hex) (folds.flatMap (·.2)) }

end Generation

section Momentum

variable (ctx : DecimalContext) {hex : ContentId → String} (config : MomentumBaselineConfig) (plan : PurgedWalkForwardPlan)
  (dataset : EvaluationDataset hex) (instruments : List PointInTimeInstrument) (policy : DailyExecutionPolicy)
  (initialCapital : ℚ)

/-- The session the momentum is measured from, when the calendar goes back so far. -/
def lookbackSession (signalSession : SessionDate) : Option SessionDate :=
  if dataset.1.sessions.idxOf signalSession < config.1.lookbackSessions then none
  else dataset.1.sessions[dataset.1.sessions.idxOf signalSession - config.1.lookbackSessions]?

/-- The loop over the instruments of a fold. -/
def momentumScreen (signalSession : SessionDate) (i : PointInTimeInstrument) : SignalReason ⊕ Candidate :=
  if signalSession ∉ i.1.eligibleSessions then .inl ⟨"NOT_POINT_IN_TIME_ELIGIBLE", none, []⟩
  else
    match lookbackSession config dataset signalSession with
    | none => .inl ⟨"INSUFFICIENT_LOOKBACK", none, []⟩
    | some startSession =>
      match barAt dataset startSession i.1.symbol, barAt dataset signalSession i.1.symbol with
      | some startBar, some signalBar =>
        let evidence := [startBar.barId, signalBar.barId]
        let momentum := ctx.sub (ctx.div signalBar.close startBar.close) 1
        if signalBar.tradable = false ∨ signalBar.volume = 0 then
          .inl ⟨"NOT_TRADABLE_AT_SIGNAL_CLOSE", some momentum, evidence⟩
        else if momentum < config.1.minimumMomentum then
          .inl ⟨"BELOW_MINIMUM_MOMENTUM", some momentum, evidence⟩
        else .inr ⟨momentum, ctx.mul signalBar.close signalBar.volume, i, evidence, signalBar⟩
      | startBar, signalBar =>
        .inl ⟨"MISSING_AS_OF_BAR", none, (startBar.toList ++ signalBar.toList).map (·.barId)⟩

/-- Falling momentum, then falling turnover, then the symbol -/
def momentumKey (c : Candidate) : ℚ ×ₗ ℚ ×ₗ String :=
  toLex (-c.score, toLex (-c.turnover, c.instrument.1.symbol))

/-- The loop over the ranked candidates, with the instruments selected so far. -/
def selectMomentum (maximumPositions : ℕ) (slotNotional : ℚ) : List ContentId → List Candidate → Reasons
  | _, [] => []
  | selected, c :: rest =>
    if ¬c.Affordable ctx slotNotional then
      c.reason "INSUFFICIENT_SLOT_NOTIONAL" :: selectMomentum maximumPositions slotNotional selected rest
    else if maximumPositions ≤ selected.length then
      c.reason "OUTSIDE_POSITION_RANK" :: selectMomentum maximumPositions slotNotional selected rest
    else
      c.reason "SELECTED" ::
        selectMomentum maximumPositions slotNotional (selected.insert c.instrument.1.instrumentId) rest

def momentumSizing : Sizing where
  slotNotional :=
    ctx.div (ctx.mul initialCapital config.1.grossExposureFraction) config.1.maximumPositions
  stopLossFraction := config.1.stopLossFraction
  targetGainFraction := config.1.targetGainFraction
  maximumHoldingSessions := config.1.maximumHoldingSessions

def momentumReasons (signalSession : SessionDate) : Reasons :=
  let screen := momentumScreen ctx config dataset signalSession
  rejections instruments screen ++
    selectMomentum ctx config.1.maximumPositions (momentumSizing ctx config initialCapital).slotNotional []
      (sortOn momentumKey (candidates instruments screen))

def momentumGenerator : Generator where
  generatorId := config.1.strategyId
  role := .strategy
  scoreName := "CLOSE_MOMENTUM"
  sizing := momentumSizing ctx config initialCapital
  reasons := momentumReasons ctx config dataset instruments initialCapital

/-- `DeterministicMomentumIntentGenerator.generate` -/
def generateMomentum : Except String (GeneratedIntentBatch hex) := do
  raiseIf (plan.1.labelHorizonSessions < config.1.maximumHoldingSessions)
    "strategy holding period exceeds label horizon"
  validateInputs plan dataset instruments initialCapital config.1.maximumHoldingSessions
  generateBatch ctx plan dataset instruments policy (momentumGenerator ctx config dataset instruments initialCapital)

end Momentum

section EqualWeight

variable (ctx : DecimalContext) {hex : ContentId → String} (config : EqualWeightBenchmarkConfig)
  (plan : PurgedWalkForwardPlan) (dataset : EvaluationDataset hex) (instruments : List PointInTimeInstrument)
  (policy : DailyExecutionPolicy) (initialCapital : ℚ)

def equalWeightSizing : Sizing where
  slotNotional :=
    ctx.div (ctx.mul initialCapital config.1.grossExposureFraction) config.1.maximumConstituents
  stopLossFraction := config.1.stopLossFraction
  targetGainFraction := config.1.targetGainFraction
  maximumHoldingSessions := config.1.maximumHoldingSessions

/-- The loop over the instruments of a fold, which also asks for a slot that pays for a share. -/
def equalWeightScreen (signalSession : SessionDate) (i : PointInTimeInstrument) : SignalReason ⊕ Candidate :=
  if signalSession ∉ i.1.eligibleSessions then .inl ⟨"NOT_POINT_IN_TIME_ELIGIBLE", none, []⟩
  else
    match barAt dataset signalSession i.1.symbol with
    | none => .inl ⟨"MISSING_AS_OF_BAR", none, []⟩
    | some signalBar =>
      let turnover := ctx.mul signalBar.close signalBar.volume
      let candidate : Candidate := ⟨turnover, turnover, i, [signalBar.barId], signalBar⟩
      if signalBar.tradable = false ∨ signalBar.volume = 0 then
        .inl ⟨"NOT_TRADABLE_AT_SIGNAL_CLOSE", some turnover, [signalBar.barId]⟩
      else if ¬candidate.Affordable ctx (equalWeightSizing ctx config initialCapital).slotNotional then
        .inl ⟨"INSUFFICIENT_SLOT_NOTIONAL", some turnover, [signalBar.barId]⟩
      else .inr candidate

/-- Falling turnover, then the symbol -/
def equalWeightKey (c : Candidate) : ℚ ×ₗ String := toLex (-c.turnover, c.instrument.1.symbol)

def equalWeightReasons (signalSession : SessionDate) : Reasons :=
  let screen := equalWeightScreen ctx config dataset initialCapital signalSession
  let ranked := sortOn equalWeightKey (candidates instruments screen)
  let selectedIds := (ranked.take config.1.maximumConstituents).map (·.instrument.1.instrumentId)
  rejections instruments screen ++ ranked.map fun c =>
    c.reason (if c.instrument.1.instrumentId ∈ selectedIds then "SELECTED" else "OUTSIDE_CONSTITUENT_RANK")

def equalWeightGenerator : Generator where
  generatorId := config.1.benchmarkId
  role := .benchmark
  scoreName := "SIGNAL_TURNOVER"
  sizing := equalWeightSizing ctx config initialCapital
  reasons := equalWeightReasons ctx config dataset instruments initialCapital

/-- `DeterministicEqualWeightBenchmarkGenerator.generate` -/
def generateEqualWeight : Except String (GeneratedIntentBatch hex) := do
  raiseIf (plan.1.labelHorizonSessions < config.1.maximumHoldingSessions)
    "benchmark holding period exceeds label horizon"
  validateInputs plan dataset instruments initialCapital config.1.maximumHoldingSessions
  generateBatch ctx plan dataset instruments policy
    (equalWeightGenerator ctx config dataset instruments initialCapital)

end EqualWeight

end IndiaSwing.Baselines
