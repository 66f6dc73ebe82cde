import IndiaSwing.ContentIds
import IndiaSwing.Lib.Checked
import IndiaSwing.Lib.DecimalContext
import IndiaSwing.Lib.ExceptGuards
import IndiaSwing.Lib.KeySort
import IndiaSwing.Lib.SortedTuples
import IndiaSwing.Timestamps
import Mathlib.Data.String.Basic

namespace IndiaSwing.Calibration

open ExceptGuards KeySort SortedTuples

inductive CalibrationPartition
  | train
  | validation
  | test
  deriving DecidableEq, Repr

def CalibrationPartition.value : CalibrationPartition → String
  | .train => "TRAIN"
  | .validation => "VALIDATION"
  | .test => "TEST"

inductive CalibrationOutcome
  | target
  | stop
  | time
  deriving DecidableEq, Repr

def CalibrationOutcome.value : CalibrationOutcome → String
  | .target => "TARGET"
  | .stop => "STOP"
  | .time => "TIME"

structure CalibrationObservationFields where
  signalConfigId : String
  sourceTrialId : String
  sourceResultId : String
  sourceCompletionEventId : String
  sourceTradeId : String
  signalId : String
  signalSession : SessionDate
  resolvedSession : SessionDate
  knownAt : Instant
  partition : CalibrationPartition
  outcome : CalibrationOutcome
  realizedTimeExitR : Option ℚ
  deriving DecidableEq, Repr

/-- `CalibrationObservation.__post_init__` -/
def CalibrationObservationFields.check (o : CalibrationObservationFields) : Except String Unit := do
  raiseIf (o.resolvedSession < o.signalSession) "outcome cannot resolve before its signal"
  raiseIf (o.knownAt.istDate < o.resolvedSession) "outcome cannot be known before its resolved session"
  raiseIf (o.outcome = .time ∧ o.realizedTimeExitR = none) "time exits require realized_time_exit_r"
  raiseIf (o.outcome ≠ .time ∧ o.realizedTimeExitR ≠ none) "target and stop outcomes cannot carry time-exit R"

abbrev CalibrationObservation := { o : CalibrationObservationFields // o.check = .ok () }

/-- `observation_id` -/
def CalibrationObservationFields.observationId (o : CalibrationObservationFields) : ContentId :=
  .list [.text o.signalConfigId, .text o.sourceTrialId, .text o.sourceResultId, .text o.sourceCompletionEventId,
    .text o.sourceTradeId, .text o.signalId, .int o.signalSession, .int o.resolvedSession, .int o.knownAt,
    .text o.partition.value, .text o.outcome.value, .option .decimal o.realizedTimeExitR]

structure WalkForwardCalibrationPlanFields where
  registeredAt : Instant
  signalConfigId : String
  sourceTrialIds : List String
  minimumSampleSize : ℕ
  adverseStopPriorTrades : ℕ
  method : String
  deriving DecidableEq, Repr

/-- `WalkForwardCalibrationPlan.__post_init__` -/
def WalkForwardCalibrationPlanFields.check (p : WalkForwardCalibrationPlanFields) : Except String Unit := do
  raiseIf (p.sourceTrialIds = [] ∨ ¬SortedUnique p.sourceTrialIds)
    "source trial IDs must be sorted, unique, and non-empty"
  raiseIf (p.minimumSampleSize < 100) "minimum sample size cannot be below 100"
  raiseIf (p.method ≠ "TEST_ONLY_ADVERSE_STOP_PRIOR/v1") "unsupported calibration method"

abbrev WalkForwardCalibrationPlan := { p : WalkForwardCalibrationPlanFields // p.check = .ok () }

/-- `plan_id` -/
def WalkForwardCalibrationPlanFields.planId (p : WalkForwardCalibrationPlanFields) : ContentId :=
  .list [.int p.registeredAt, .text p.signalConfigId, .list (p.sourceTrialIds.map .text), .int p.minimumSampleSize,
    .int p.adverseStopPriorTrades, .text p.method]

section Evidence

variable (ctx : DecimalContext) (hex : ContentId → String) (observations : List CalibrationObservation)

/-- How many observations have an outcome. -/
def countOf (outcome : CalibrationOutcome) : ℕ := observations.countP (·.1.outcome = outcome)

/-- The returns of the time exits, in the order of the observations. -/
def timeValues : List ℚ :=
  (observations.filter (·.1.outcome = .time)).filterMap (·.1.realizedTimeExitR)

/-- The sum of some returns by their number, or zero without one. -/
def meanReturn (values : List ℚ) : ℚ := if values = [] then 0 else ctx.div (ctx.sum 0 values) values.length

def timeExitMean : ℚ := meanReturn ctx (timeValues observations)

/-- The observations of every trial name one result and one completion. -/
def OneResultEach (trialIds : List String) : Prop :=
  ∀ trialId ∈ trialIds,
    ((observations.filter (·.1.sourceTrialId = trialId)).map (·.1.sourceResultId)).dedup.length = 1 ∧
      ((observations.filter (·.1.sourceTrialId = trialId)).map (·.1.sourceCompletionEventId)).dedup.length = 1

instance (trialIds : List String) : Decidable (OneResultEach observations trialIds) :=
  inferInstanceAs (Decidable (∀ _ ∈ trialIds, _))

def idText (o : CalibrationObservation) : String := hex o.1.observationId

/-- The distinct trials of the observations, sorted. -/
def observedTrials : List String := sorted (observations.map (·.1.sourceTrialId)).dedup

end Evidence

structure WalkForwardCalibrationFields where
  plan : WalkForwardCalibrationPlan
  planId : ContentId
  signalConfigId : String
  cutoff : Instant
  sourceTrialIds : List String
  observations : List CalibrationObservation
  observationIds : List ContentId
  sampleSize : ℕ
  targetCount : ℕ
  stopCount : ℕ
  timeCount : ℕ
  adverseStopPriorTrades : ℕ
  targetProbability : ℚ
  stopProbability : ℚ
  expectedTimeExitR : ℚ
  method : String
  schemaVersion : String
  deriving DecidableEq

namespace WalkForwardCalibrationFields

variable (ctx : DecimalContext) (hex : ContentId → String) (c : WalkForwardCalibrationFields)

/-- The checks of the bindings, the observations and their ids. -/
def checkBindings : Except String Unit := do
  raiseIf (c.planId ≠ c.plan.1.planId ∨ c.signalConfigId ≠ c.plan.1.signalConfigId ∨
      c.sourceTrialIds ≠ c.plan.1.sourceTrialIds ∨ c.adverseStopPriorTrades ≠ c.plan.1.adverseStopPriorTrades ∨
      c.method ≠ c.plan.1.method)
    "calibration differs from its preregistered plan"
  raiseIf (c.cutoff ≤ c.plan.1.registeredAt) "calibration plan must predate its cutoff"
  raiseIf (¬SortedUnique c.sourceTrialIds) "calibration source trials must be sorted and unique"
  raiseIf (c.observations = [] ∨ c.observations ≠ sortOn (idText hex) c.observations)
    "calibration observations must be an ordered exact tuple"
  raiseIf (∃ o ∈ c.observations, o.1.signalConfigId ≠ c.signalConfigId ∨ o.1.partition ≠ .test ∨
      c.cutoff < o.1.knownAt ∨ o.1.knownAt ≤ c.plan.1.registeredAt)
    "calibration observation violates its plan or cutoff"
  raiseIf (observedTrials c.observations ≠ c.sourceTrialIds) "calibration observations omit a source trial"
  raiseIf (¬(c.observations.map (·.1.sourceTradeId)).Nodup) "calibration contains a duplicate trade"
  raiseIf (¬(c.observations.map (·.1.signalId)).Nodup) "calibration contains a duplicate signal"
  raiseIf (¬OneResultEach c.observations c.sourceTrialIds) "each source trial requires one completed evaluation result"
  raiseIf (¬SortedUnique (c.observationIds.map hex)) "observation IDs must be sorted and unique"
  raiseIf (c.observationIds.map hex ≠ c.observations.map (idText hex))
    "observation IDs differ from calibration observations"

/-- The checks of the counts and the probabilities. -/
def checkValues : Except String Unit := do
  raiseIf (c.sampleSize < c.plan.1.minimumSampleSize) "validated calibration is below its planned sample size"
  raiseIf (c.sampleSize ≠ c.observations.length) "sample size differs from calibration observations"
  raiseIf (c.targetCount + c.stopCount + c.timeCount ≠ c.sampleSize)
    "calibration outcome counts differ from sample size"
  raiseIf (c.targetCount ≠ countOf c.observations .target ∨ c.stopCount ≠ countOf c.observations .stop ∨
      c.timeCount ≠ (timeValues c.observations).length)
    "calibration counts differ from its observations"
  let denominator : ℚ := (c.sampleSize + c.adverseStopPriorTrades : ℕ)
  raiseIf (c.targetProbability ≠ ctx.div c.targetCount denominator ∨
      ¬(0 ≤ c.targetProbability ∧ c.targetProbability ≤ 1))
    "target_probability differs from the registered method"
  raiseIf (c.stopProbability ≠ ctx.div (c.stopCount + c.adverseStopPriorTrades : ℕ) denominator ∨
      ¬(0 ≤ c.stopProbability ∧ c.stopProbability ≤ 1))
    "stop_probability differs from the registered method"
  raiseIf (1 < ctx.add c.targetProbability c.stopProbability) "calibrated target and stop probabilities exceed one"
  raiseIf (c.expectedTimeExitR ≠ timeExitMean ctx c.observations) "time-exit R differs from calibration observations"
  raiseIf (c.method ≠ "TEST_ONLY_ADVERSE_STOP_PRIOR/v1") "unsupported calibration method"
  raiseIf (c.schemaVersion ≠ "walk-forward-calibration/v1") "unsupported calibration schema"

/-- `WalkForwardCalibration.__post_init__` -/
def check : Except String Unit := do
  c.checkBindings hex
  c.checkValues ctx

/-- `calibration_id` -/
def calibrationId : ContentId :=
  .list [c.plan.1.planId, c.planId, .text c.signalConfigId, .int c.cutoff, .list (c.sourceTrialIds.map .text),
    .list (c.observations.map (·.1.observationId)), .list c.observationIds, .int c.sampleSize, .int c.targetCount,
    .int c.stopCount, .int c.timeCount, .int c.adverseStopPriorTrades, .decimal c.targetProbability,
    .decimal c.stopProbability, .decimal c.expectedTimeExitR, .text c.method, .text c.schemaVersion]

end WalkForwardCalibrationFields

abbrev WalkForwardCalibration (ctx : DecimalContext) (hex : ContentId → String) :=
  { c : WalkForwardCalibrationFields // c.check ctx hex = .ok () }

section Builder

variable (ctx : DecimalContext) (hex : ContentId → String) (plan : WalkForwardCalibrationPlan)
  (observations : List CalibrationObservation) (cutoff : Instant)

/-- The loop over the observations. -/
def checkObservation (o : CalibrationObservation) : Except String Unit := do
  raiseIf (o.1.signalConfigId ≠ plan.1.signalConfigId) "observation uses another signal configuration"
  raiseIf (o.1.partition ≠ .test) "only untouched test-partition outcomes may calibrate"
  raiseIf (cutoff < o.1.knownAt) "calibration contains future-known outcomes"
  raiseIf (o.1.knownAt ≤ plan.1.registeredAt) "calibration plan was registered after an outcome was known"

/-- The admission checks of the builder. -/
def checkAdmission : Except String Unit := do
  raiseIf (observations = []) "observations must be a non-empty exact tuple"
  raiseIf (cutoff ≤ plan.1.registeredAt) "calibration plan must predate its cutoff"
  observations.forM (checkObservation plan cutoff)
  raiseIf (¬(observations.map (idText hex)).Nodup) "calibration observations contain duplicates"
  raiseIf (¬(observations.map (·.1.sourceTradeId)).Nodup) "one evaluated trade cannot be counted twice"
  raiseIf (¬(observations.map (·.1.signalId)).Nodup) "one signal cannot be counted twice"
  raiseIf (observedTrials observations ≠ plan.1.sourceTrialIds)
    "calibration does not cover every preregistered source trial"
  raiseIf (¬OneResultEach observations plan.1.sourceTrialIds) "each source trial requires one completed evaluation result"
  raiseIf (observations.length < plan.1.minimumSampleSize)
    "calibration sample is smaller than its preregistered minimum"

def targetProbability : ℚ :=
  ctx.div (countOf observations .target) (observations.length + plan.1.adverseStopPriorTrades : ℕ)

def stopProbability : ℚ :=
  ctx.div (countOf observations .stop + plan.1.adverseStopPriorTrades : ℕ)
    (observations.length + plan.1.adverseStopPriorTrades : ℕ)

/-- The values that the builder computes. The time-exit returns are added in the order of the caller. -/
def calibrationFields : WalkForwardCalibrationFields where
  plan := plan
  planId := plan.1.planId
  signalConfigId := plan.1.signalConfigId
  cutoff := cutoff
  sourceTrialIds := plan.1.sourceTrialIds
  observations := sortOn (idText hex) observations
  observationIds := sortOn hex (observations.map (·.1.observationId))
  sampleSize := observations.length
  targetCount := countOf observations .target
  stopCount := countOf observations .stop
  timeCount := (timeValues observations).length
  adverseStopPriorTrades := plan.1.adverseStopPriorTrades
  targetProbability := targetProbability ctx plan observations
  stopProbability := stopProbability ctx plan observations
  expectedTimeExitR := timeExitMean ctx observations
  method := "TEST_ONLY_ADVERSE_STOP_PRIOR/v1"
  schemaVersion := "walk-forward-calibration/v1"

/-- `build_walk_forward_calibration` -/
def buildWalkForwardCalibration : Except String (WalkForwardCalibration ctx hex) := do
  checkAdmission hex plan observations cutoff
  Checked.build (WalkForwardCalibrationFields.check ctx hex) (calibrationFields ctx hex plan observations cutoff)

end Builder

end IndiaSwing.Calibration
