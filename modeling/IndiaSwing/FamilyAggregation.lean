import Mathlib.Algebra.BigOperators.Group.Finset.Basic
import Mathlib.Data.Nat.Choose.Sum
import Mathlib.Data.Prod.Lex
import Mathlib.Data.String.Basic
import IndiaSwing.Lib.Checked
import IndiaSwing.Lib.DecimalPrecision
import IndiaSwing.Lib.KeySort
import IndiaSwing.Lib.SortedTuples
import IndiaSwing.Lib.TextPatterns
import IndiaSwing.TrialRegistry

namespace IndiaSwing.FamilyAggregation

open ExceptGuards KeySort SortedTuples TextPatterns

/-- The exceptions of a family aggregation: its own, those of the registry and those of the run store. -/
inductive FamilyError
  | aggregation (message : String)
  | registration (message : String)
  | registry (error : TrialError)
  | runStore (message : String)
  deriving DecidableEq, Repr

section Constants

/-- The arithmetic context. -/
def familyContext : DecimalContext := .ofPrecision 28

/-- `FOLD_SIGN_HOLM_POLICY` -/
def foldSignHolmPolicy : String := "holm-familywise-primary-fold-sign-v1"

/-- `FOLD_SIGN_HOLM_ALPHA` -/
def foldSignHolmAlpha : ℚ := 5 / 100

/-- The step-down threshold of a rank in a family. -/
def holmThreshold (alpha : ℚ) (familySize rank : ℕ) : ℚ :=
  familyContext.div alpha ((familySize - rank + 1 : ℕ) : ℚ)

end Constants

section Runs

/-- The excess of the primary metric of a fold over the benchmark, in the base and in the stressed scenario. -/
structure FoldComparisonSummary where
  basePrimaryExcess : ℚ
  stressedPrimaryExcess : Option ℚ
  deriving DecidableEq, Repr

/-- `comparison_metrics` -/
def FoldComparisonSummary.comparisonMetrics (summary : FoldComparisonSummary) : List (String × ℚ) :=
  ("base_primary_excess", summary.basePrimaryExcess) ::
    (summary.stressedPrimaryExcess.map fun excess => ("stressed_primary_excess", excess)).toList

/-- What the aggregation reads of the comparison of a run. -/
structure ComparisonOutcome where
  trialId : String
  comparisonId : String
  primaryMetric : String
  passed : Bool
  deriving DecidableEq, Repr

/-- A run; it has a fold. -/
structure DeterministicComparisonRun where
  comparison : ComparisonOutcome
  foldSummaries : List FoldComparisonSummary
  folds_ne_nil : foldSummaries ≠ []
  deriving DecidableEq

namespace DeterministicComparisonRun

variable (run : DeterministicComparisonRun)

def foldCount : ℕ := run.foldSummaries.length

/-- The folds in which a metric is above zero. -/
def wins (metric : String) : ℕ :=
  (run.foldSummaries.filter fun summary => ∃ value ∈ summary.comparisonMetrics.lookup metric, 0 < value).length

def baseWins : ℕ := run.wins "base_primary_excess"

def stressedWins : ℕ := run.wins "stressed_primary_excess"

theorem wins_le (metric : String) : run.wins metric ≤ run.foldCount := List.length_filter_le _ _

end DeterministicComparisonRun

/-- `_exact_sign_tail` -/
def exactSignTail (wins sampleCount : ℕ) : Except FamilyError ℚ := do
  raiseIf (sampleCount = 0 ∨ sampleCount < wins) (.aggregation "sign-test counts are invalid")
  let numerator := ∑ value ∈ Finset.Ico wins (sampleCount + 1), sampleCount.choose value
  .ok (familyContext.div numerator ((2 ^ sampleCount : ℕ) : ℚ))

end Runs

section Decisions

/-- The fields of a `FamilyTrialDecision`. -/
structure FamilyTrialDecisionFields where
  trialId : String
  comparisonId : String
  foldCount : ℕ
  baseWins : ℕ
  stressedWins : ℕ
  basePValue : ℚ
  stressedPValue : ℚ
  rawPValue : ℚ
  holmRank : ℕ
  holmThreshold : ℚ
  hypothesisRejected : Bool
  comparisonPassed : Bool
  eligible : Bool
  deriving DecidableEq, Repr

namespace FamilyTrialDecisionFields

variable (d : FamilyTrialDecisionFields)

/-- The numbers between zero and one, with their names. -/
def fractions : List (String × ℚ) :=
  [("base_p_value", d.basePValue), ("stressed_p_value", d.stressedPValue), ("raw_p_value", d.rawPValue),
    ("holm_threshold", d.holmThreshold)]

/-- `FamilyTrialDecision.__post_init__` -/
def check : Except FamilyError Unit := do
  raiseIf (d.foldCount = 0) (.aggregation "fold_count must be positive")
  raiseIf (d.foldCount < d.baseWins) (.aggregation "base_wins is invalid")
  raiseIf (d.foldCount < d.stressedWins) (.aggregation "stressed_wins is invalid")
  d.fractions.forM fun (name, value) =>
    raiseIf (¬(0 ≤ value ∧ value ≤ 1)) (.aggregation (name ++ " must be between zero and one"))
  raiseIf (d.rawPValue ≠ max d.basePValue d.stressedPValue)
    (.aggregation "raw p-value must be the conservative scenario maximum")
  let baseTail ← exactSignTail d.baseWins d.foldCount
  let stressedTail ← exactSignTail d.stressedWins d.foldCount
  raiseIf (d.basePValue ≠ baseTail ∨ d.stressedPValue ≠ stressedTail)
    (.aggregation "p-values differ from exact fold-sign evidence")
  raiseIf (d.holmRank = 0) (.aggregation "holm_rank must be positive")
  raiseIf (d.eligible ≠ (d.hypothesisRejected && d.comparisonPassed))
    (.aggregation "eligible status differs from statistical and trade gates")

end FamilyTrialDecisionFields

abbrev FamilyTrialDecision := { d : FamilyTrialDecisionFields // d.check = .ok () }

/-- The order of the step-down. -/
def FamilyTrialDecisionFields.pValueKey (d : FamilyTrialDecisionFields) : ℚ ×ₗ String := toLex (d.rawPValue, d.trialId)

end Decisions

section Aggregates

/-- The fields of a `TrialFamilyEvaluationAggregate`. -/
structure FamilyAggregateFields where
  strategyFamilyId : String
  policy : String
  alpha : ℚ
  registeredTrialIds : List String
  decisions : List FamilyTrialDecision

/-- The ranks of the decisions are consecutive. -/
def checkRanks : ℕ → List FamilyTrialDecision → Except FamilyError Unit
  | _, [] => .ok ()
  | expectedRank, decision :: decisions => do
    raiseIf (decision.1.holmRank ≠ expectedRank) (.aggregation "Holm ranks must be consecutive")
    checkRanks (expectedRank + 1) decisions

/-- The step-down of the decisions, again. -/
def checkStepDown (alpha : ℚ) (familySize : ℕ) : ℕ → Bool → List FamilyTrialDecision → Except FamilyError Unit
  | _, _, [] => .ok ()
  | rank, continueRejecting, decision :: decisions => do
    let threshold := holmThreshold alpha familySize rank
    let rejected := continueRejecting && decide (decision.1.rawPValue ≤ threshold)
    raiseIf (decision.1.holmThreshold ≠ threshold ∨ decision.1.hypothesisRejected ≠ rejected)
      (.aggregation "Holm decision differs from step-down policy")
    checkStepDown alpha familySize (rank + 1) (if rejected then continueRejecting else false) decisions

namespace FamilyAggregateFields

variable (a : FamilyAggregateFields)

/-- `TrialFamilyEvaluationAggregate.__post_init__` -/
def check : Except FamilyError Unit := do
  raiseIf (stripText a.strategyFamilyId.toList = []) (.aggregation "strategy_family_id is required")
  raiseIf (a.policy ≠ foldSignHolmPolicy ∨ a.alpha ≠ foldSignHolmAlpha)
    (.aggregation "unsupported familywise policy or alpha")
  raiseIf (a.registeredTrialIds = [] ∨ a.registeredTrialIds ≠ sorted a.registeredTrialIds.dedup)
    (.aggregation "registered trial IDs must be sorted and unique")
  raiseIf (a.decisions = [] ∨
      a.decisions ≠ sortOn (fun d : FamilyTrialDecision => toLex (d.1.holmRank, d.1.trialId)) a.decisions)
    (.aggregation "family decisions must be ordered by Holm rank")
  raiseIf ((∃ d ∈ a.decisions, d.1.trialId ∉ a.registeredTrialIds) ∨
      ∃ trialId ∈ a.registeredTrialIds, trialId ∉ a.decisions.map (·.1.trialId))
    (.aggregation "family decisions must cover every registered trial")
  checkRanks 1 a.decisions
  raiseIf (a.decisions ≠ sortOn (fun d : FamilyTrialDecision => d.1.pValueKey) a.decisions)
    (.aggregation "Holm decisions are not p-value ordered")
  checkStepDown a.alpha a.decisions.length 1 true a.decisions

/-- `eligible_trial_ids` -/
def eligibleTrialIds : List String := sorted ((a.decisions.filter (·.1.eligible)).map (·.1.trialId))

/-- `passed` -/
def passed : Bool := a.eligibleTrialIds ≠ []

end FamilyAggregateFields

abbrev FamilyAggregate := { a : FamilyAggregateFields // a.check = .ok () }

end Aggregates

section Aggregator

/-- What an aggregator reads besides the runs: the registry, the texts of the trial ids, the multiple-testing
policy that a declaration states, and the run store's check that a run is persisted. -/
structure TrialFamilyEvaluationAggregator where
  registry : LocalTrialRegistry
  hex : ContentId → String
  multipleTestingPolicy : Digest → String
  requirePersisted : DeterministicComparisonRun → Except FamilyError Unit

/-- A run with its evidence. -/
structure RawTrial where
  rawP : ℚ
  trialId : String
  run : DeterministicComparisonRun
  baseWins : ℕ
  stressedWins : ℕ
  baseP : ℚ
  stressedP : ℚ

def RawTrial.key (raw : RawTrial) : ℚ ×ₗ String := toLex (raw.rawP, raw.trialId)

/-- The decisions of the sorted evidence from a rank on. -/
def holmDecisions (familySize : ℕ) : ℕ → Bool → List RawTrial → Except FamilyError (List FamilyTrialDecision)
  | _, _, [] => .ok []
  | rank, continueRejecting, raw :: rest => do
    let threshold := holmThreshold foldSignHolmAlpha familySize rank
    let rejected := continueRejecting && decide (raw.rawP ≤ threshold)
    let decision ← Checked.build FamilyTrialDecisionFields.check
      { trialId := raw.trialId
        comparisonId := raw.run.comparison.comparisonId
        foldCount := raw.run.foldCount
        baseWins := raw.baseWins
        stressedWins := raw.stressedWins
        basePValue := raw.baseP
        stressedPValue := raw.stressedP
        rawPValue := raw.rawP
        holmRank := rank
        holmThreshold := threshold
        hypothesisRejected := rejected
        comparisonPassed := raw.run.comparison.passed
        eligible := rejected && raw.run.comparison.passed }
    let decisions ← holmDecisions familySize (rank + 1) (if rejected then continueRejecting else false) rest
    .ok (decision :: decisions)

namespace TrialFamilyEvaluationAggregator

variable (aggregator : TrialFamilyEvaluationAggregator) (strategyFamilyId : String)

/-- `registration_ids` -/
def registrationIds : List String :=
  ((aggregator.registry.registrationsForFamily strategyFamilyId).map fun r => aggregator.hex r.trialId).dedup

def requireRegistered (trialId : String) : Except FamilyError TrialRegistration :=
  match aggregator.registry.find? fun r => aggregator.hex r.trialId = trialId with
  | some registration => .ok registration
  | none => .error (.registry ⟨.trialNotRegistered, "trial is not registered"⟩)

/-- The evidence of a run. -/
def measureRun (run : DeterministicComparisonRun) : Except FamilyError RawTrial := do
  aggregator.requirePersisted run
  let registration ← aggregator.requireRegistered run.comparison.trialId
  raiseIf (registration.strategyFamilyId ≠ strategyFamilyId ∨
      registration.primaryMetric ≠ run.comparison.primaryMetric)
    (.aggregation "run differs from its family registration")
  raiseIf (∃ summary ∈ run.foldSummaries, summary.comparisonMetrics.lookup "stressed_primary_excess" = none)
    (.aggregation "Holm fold-sign policy requires stressed folds")
  let baseP ← exactSignTail run.baseWins run.foldCount
  let stressedP ← exactSignTail run.stressedWins run.foldCount
  .ok ⟨max baseP stressedP, aggregator.hex registration.trialId, run, run.baseWins, run.stressedWins, baseP, stressedP⟩

/-- The evidence of the runs of a family, which they cover exactly once. -/
def measureFamily (runs : List DeterministicComparisonRun) : Except FamilyError (List RawTrial) := do
  raiseIf (stripText strategyFamilyId.toList = []) (.registration "strategy_family_id is required")
  raiseIf (aggregator.registry.registrationsForFamily strategyFamilyId = [])
    (.aggregation "trial family is not registered")
  raiseIf (∃ registration ∈ aggregator.registry.registrationsForFamily strategyFamilyId,
      aggregator.multipleTestingPolicy registration.declaration ≠ foldSignHolmPolicy)
    (.aggregation "every family registration must preregister the supported Holm fold-sign policy")
  raiseIf (¬(runs.map (·.comparison.trialId)).Nodup ∨
      (∃ run ∈ runs, run.comparison.trialId ∉ aggregator.registrationIds strategyFamilyId) ∨
      ∃ trialId ∈ aggregator.registrationIds strategyFamilyId, trialId ∉ runs.map (·.comparison.trialId))
    (.aggregation "runs must cover every registered family trial exactly once")
  runs.mapM (aggregator.measureRun strategyFamilyId)

/-- `aggregate` -/
def aggregate (runs : List DeterministicComparisonRun) : Except FamilyError FamilyAggregate := do
  let raw ← aggregator.measureFamily strategyFamilyId runs
  let decisions ← holmDecisions raw.length 1 true (sortOn RawTrial.key raw)
  Checked.build FamilyAggregateFields.check
    { strategyFamilyId := strategyFamilyId
      policy := foldSignHolmPolicy
      alpha := foldSignHolmAlpha
      registeredTrialIds := sorted (aggregator.registrationIds strategyFamilyId)
      decisions := decisions }

end TrialFamilyEvaluationAggregator

end Aggregator

end IndiaSwing.FamilyAggregation
