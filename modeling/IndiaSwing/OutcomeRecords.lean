import IndiaSwing.PaperOutcomes
import IndiaSwing.PaperTrades

namespace IndiaSwing

open ExceptGuards (raiseIf)

def PaperError.operational (message : String) : PaperError := ⟨.paperOutcomeOperationalError, message⟩

/-- `PaperOutcomeOperationalError` and its subclasses. -/
def PaperErrorClass.isOperational : PaperErrorClass → Bool
  | .paperOutcomeOperationalError | .paperOutcomeOperationalConflict | .paperPortfolioError
  | .paperPortfolioNotFound | .paperPortfolioConflict | .paperPortfolioPreparationError => true
  | _ => false

/-- Operational errors are raised again; anything else becomes one with a fixed text. -/
def PaperError.failSafely (message : String) (e : PaperError) : PaperError :=
  if e.class_.isOperational then e else .operational message

structure PaperOutcomeJobSpec where
  registrationId : Digest
  calendarMaterializationId : Digest
  tickSnapshotId : Digest
  historicalArtifactIds : List Digest
  series : String
  validatedIsin : String
  asOf : Instant
  policy : PaperOutcomePolicy
  expectedReplayId : ContentId
  artifacts : historicalArtifactIds ≠ [] ∧ historicalArtifactIds.Nodup
  deriving DecidableEq

namespace PaperOutcomeJobSpec

def create (registrationId calendarMaterializationId tickSnapshotId : Digest)
    (historicalArtifactIds : List Digest) (series validatedIsin : String) (asOf : Instant)
    (policy : PaperOutcomePolicy) (expectedReplayId : ContentId) :
    Except PaperError PaperOutcomeJobSpec :=
  if hids : historicalArtifactIds ≠ [] ∧ historicalArtifactIds.Nodup then
    .ok ⟨registrationId, calendarMaterializationId, tickSnapshotId, historicalArtifactIds, series,
      validatedIsin, asOf, policy, expectedReplayId, hids⟩
  else .error (.operational "historical_artifact_ids must be a non-empty unique tuple")

def jobSpecId (spec : PaperOutcomeJobSpec) : ContentId :=
  .ofFields "paper-outcome-job-spec/v1"
    [.digest spec.registrationId, .digest spec.calendarMaterializationId,
      .digest spec.tickSnapshotId, .list (spec.historicalArtifactIds.map .digest), .text spec.series,
      .text spec.validatedIsin, .int spec.asOf, spec.policy.policyId, spec.expectedReplayId]

/-- The id of a job names its registration. -/
theorem registrationId_of_jobSpecId {a b : PaperOutcomeJobSpec} (h : a.jobSpecId = b.jobSpecId) :
    a.registrationId = b.registrationId := by
  have hfields := (ContentId.ofFields_inj.mp h).2
  have hhead := (List.cons.inj hfields).1
  exact ContentId.digest.inj hhead

end PaperOutcomeJobSpec

structure PaperOutcomeEvidence where
  registration : PaperTradeRegistration
  binding : PaperInstrumentBinding
  calendar : CalendarSnapshot
  observations : List PaperOutcomeObservation

/-- A `PaperOutcomeEvidenceSource`, as the result of its `load`. -/
def PaperOutcomeEvidenceSource := PaperOutcomeJobSpec → Except PaperError PaperOutcomeEvidence

inductive ReviewClassification
  | profitableOutcome
  | dataFailure
  | executionDeviation
  | tailOrGapLoss
  | postEntryNewsShock
  | marketRegimeMove
  | sectorMove
  | stopPlacementReview
  | unresolvedForecastMiss
  deriving DecidableEq, Repr

inductive ReviewConfidence
  | high
  | medium
  | low
  deriving DecidableEq, Repr

inductive Preventability
  | yes
  | partly
  | no
  | unresolved
  deriving DecidableEq, Repr

/-- `allowed_review_states` -/
def allowedReviewState : ReviewClassification → Option (ReviewConfidence × Preventability)
  | .profitableOutcome => some (.high, .no)
  | .tailOrGapLoss => some (.medium, .partly)
  | .unresolvedForecastMiss => some (.low, .unresolved)
  | _ => none

structure PaperOutcomeReview where
  registrationId : Digest
  replayId : ContentId
  netPnl : ℚ
  plannedRisk : ℚ
  realizedR : ℚ
  classification : ReviewClassification
  confidence : ReviewConfidence
  preventability : Preventability
  deriving DecidableEq

def PaperOutcomeReview.create (ctx : DecimalContext) (registrationId : Digest) (replayId : ContentId)
    (netPnl plannedRisk realizedR : ℚ) (classification : ReviewClassification)
    (confidence : ReviewConfidence) (preventability : Preventability) :
    Except PaperError PaperOutcomeReview := do
  raiseIf (plannedRisk ≤ 0) (.operational "review planned risk is invalid")
  raiseIf (realizedR ≠ ctx.div netPnl plannedRisk)
    (.operational "review realized R differs from P&L")
  raiseIf (allowedReviewState classification ≠ some (confidence, preventability) ∨
      (classification = .profitableOutcome ∧ netPnl < 0) ∨
      (classification ≠ .profitableOutcome ∧ 0 ≤ netPnl))
    (.operational "paper outcome review evidence classification is inconsistent")
  return ⟨registrationId, replayId, netPnl, plannedRisk, realizedR, classification, confidence,
    preventability⟩

def ReviewClassification.value : ReviewClassification → String
  | .profitableOutcome => "PROFITABLE_OUTCOME"
  | .dataFailure => "DATA_FAILURE"
  | .executionDeviation => "EXECUTION_DEVIATION"
  | .tailOrGapLoss => "TAIL_OR_GAP_LOSS"
  | .postEntryNewsShock => "POST_ENTRY_NEWS_SHOCK"
  | .marketRegimeMove => "MARKET_REGIME_MOVE"
  | .sectorMove => "SECTOR_MOVE"
  | .stopPlacementReview => "STOP_PLACEMENT_REVIEW"
  | .unresolvedForecastMiss => "UNRESOLVED_FORECAST_MISS"

/-- The confidence and the preventability follow from the classification of a review. -/
def PaperOutcomeReview.reviewId (review : PaperOutcomeReview) : ContentId :=
  .ofFields "paper-outcome-review/v1"
    [.digest review.registrationId, review.replayId, .decimal review.netPnl,
      .decimal review.plannedRisk, .decimal review.realizedR, .text review.classification.value]

/-- The loss was worse than the stop: a stop fill below the stop price. -/
def isGapLoss (exit : Option PaperOutcomeFill) (stopPrice : ℚ) : Bool :=
  exit.any fun fill => fill.reason = some .stop && fill.price.val < stopPrice

def reviewClassification (exit : Option PaperOutcomeFill) (net stopPrice : ℚ) : ReviewClassification :=
  if 0 ≤ net then .profitableOutcome
  else if isGapLoss exit stopPrice then .tailOrGapLoss
  else .unresolvedForecastMiss

def reviewConfidence : ReviewClassification → ReviewConfidence
  | .profitableOutcome => .high
  | .tailOrGapLoss => .medium
  | _ => .low

def reviewPreventability : ReviewClassification → Preventability
  | .profitableOutcome => .no
  | .tailOrGapLoss => .partly
  | _ => .unresolved

def buildPaperOutcomeReview (ctx : DecimalContext) (replay : PaperOutcomeReplay)
    (summary : PaperTradeSummary) (plannedRisk stopPrice : ℚ) :
    Except PaperError (Option PaperOutcomeReview) :=
  if replay.status ≠ .closed then .ok none
  else do
    raiseIf (summary.grossPnl = none) (.operational "closed paper outcome has no P&L")
    match summary.estimatedNetPnl with
    | none => .error (.operational "closed paper outcome has no P&L")
    | some net =>
      raiseIf (plannedRisk ≤ 0) (.operational "planned paper risk is invalid")
      raiseIf (stopPrice ≤ 0) (.operational "paper stop price is invalid")
      let classification := reviewClassification replay.exit net stopPrice
      let review ← PaperOutcomeReview.create ctx replay.registrationId replay.replayId net plannedRisk
        (ctx.div net plannedRisk) classification (reviewConfidence classification)
        (reviewPreventability classification)
      return some review

structure PaperOutcomeRunRecord where
  jobSpecId : ContentId
  registrationId : Digest
  symbol : String
  replayId : ContentId
  bindingId : ContentId
  policyId : ContentId
  calendarSnapshotId : Digest
  asOf : Instant
  outcomeStatus : PaperOutcomeStatus
  reasonCode : String
  sourceObservationIds : List ContentId
  eventIds : List ContentId
  appendedEventIds : List ContentId
  grossPnl : Option ℚ
  estimatedNetPnl : Option ℚ
  review : Option PaperOutcomeReview
  deriving DecidableEq

namespace PaperOutcomeRunRecord

/-- The checks of the constructor. -/
def create (value : PaperOutcomeRunRecord) : Except PaperError PaperOutcomeRunRecord := do
  raiseIf (¬value.sourceObservationIds.Nodup)
    (.operational "source observation IDs must be a unique tuple")
  raiseIf (¬value.eventIds.Nodup) (.operational "event IDs must be a unique tuple")
  raiseIf (¬value.appendedEventIds.Nodup) (.operational "appended event IDs must be a unique tuple")
  raiseIf (¬value.appendedEventIds ⊆ value.eventIds)
    (.operational "appended events are not in the event chain")
  raiseIf (value.grossPnl.isNone ≠ value.estimatedNetPnl.isNone)
    (.operational "P&L fields must be present together")
  raiseIf (value.outcomeStatus = .closed ∧ (value.review = none ∨ value.estimatedNetPnl = none))
    (.operational "closed outcome requires P&L and review")
  raiseIf (value.outcomeStatus ≠ .closed ∧ value.review ≠ none)
    (.operational "non-closed outcome cannot carry a review")
  raiseIf (∃ review ∈ value.review, review.registrationId ≠ value.registrationId ∨
      review.replayId ≠ value.replayId ∨ some review.netPnl ≠ value.estimatedNetPnl)
    (.operational "review lineage differs")
  raiseIf (value.reasonCode = "") (.operational "reason code is invalid")
  return value

def recordId (value : PaperOutcomeRunRecord) : ContentId :=
  .ofFields "paper-outcome-run-record/v1"
    [value.jobSpecId, .digest value.registrationId, .text value.symbol, value.replayId,
      value.bindingId, value.policyId, .digest value.calendarSnapshotId, .int value.asOf,
      .text value.outcomeStatus.value, .text value.reasonCode, .list value.sourceObservationIds,
      .list value.eventIds, .list value.appendedEventIds, .option .decimal value.grossPnl,
      .option .decimal value.estimatedNetPnl, .option (·.reviewId) value.review]

end PaperOutcomeRunRecord

/-- One create-once record for each job spec id. -/
structure LocalPaperOutcomeRunStore where
  records : ContentId → Option PaperOutcomeRunRecord

namespace LocalPaperOutcomeRunStore

def empty : LocalPaperOutcomeRunStore := ⟨fun _ => none⟩

variable (store : LocalPaperOutcomeRunStore)

/-- `get`, with `none` for `PaperOutcomeOperationalNotFound`. -/
def get (jobSpecId : ContentId) : Option PaperOutcomeRunRecord := store.records jobSpecId

def put (value : PaperOutcomeRunRecord) :
    Except PaperError (PaperOutcomeRunRecord × LocalPaperOutcomeRunStore) :=
  match store.get value.jobSpecId with
  | some stored =>
    if stored ≠ value then
      .error ⟨.paperOutcomeOperationalConflict, "paper outcome job already has another terminal record"⟩
    else .ok (stored, store)
  | none => .ok (value, ⟨Function.update store.records value.jobSpecId (some value)⟩)

end LocalPaperOutcomeRunStore

end IndiaSwing
