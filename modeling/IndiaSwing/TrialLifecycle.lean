import Mathlib.Data.String.Basic
import IndiaSwing.Lib.SortedTuples
import IndiaSwing.TrialRegistry

namespace IndiaSwing

open ExceptGuards
open SortedTuples

inductive TrialLifecycleEventType
  | trialStarted
  | holdoutUnsealed
  | holdoutFeaturesAccessed
  | holdoutLabelsAccessed
  | holdoutResultsAccessed
  | trialCompleted
  | trialPromoted
  | trialFailed
  | trialAborted
  | trialInvalidated
  deriving DecidableEq, Repr

namespace TrialLifecycleEventType

def value : TrialLifecycleEventType → String
  | trialStarted => "TRIAL_STARTED"
  | holdoutUnsealed => "HOLDOUT_UNSEALED"
  | holdoutFeaturesAccessed => "HOLDOUT_FEATURES_ACCESSED"
  | holdoutLabelsAccessed => "HOLDOUT_LABELS_ACCESSED"
  | holdoutResultsAccessed => "HOLDOUT_RESULTS_ACCESSED"
  | trialCompleted => "TRIAL_COMPLETED"
  | trialPromoted => "TRIAL_PROMOTED"
  | trialFailed => "TRIAL_FAILED"
  | trialAborted => "TRIAL_ABORTED"
  | trialInvalidated => "TRIAL_INVALIDATED"

/-- `HOLDOUT_ACCESS_EVENT_TYPES` -/
def holdoutAccess : TrialLifecycleEventType → Bool
  | holdoutFeaturesAccessed | holdoutLabelsAccessed | holdoutResultsAccessed => true
  | _ => false

/-- `HOLDOUT_EVENT_TYPES` -/
def holdout (eventType : TrialLifecycleEventType) : Bool :=
  eventType = holdoutUnsealed || eventType.holdoutAccess

end TrialLifecycleEventType

structure TrialLifecycleEvent where
  trialId : ContentId
  sequence : ℕ
  previousEventId : Option ContentId
  eventType : TrialLifecycleEventType
  occurredAt : Instant
  holdoutId : Option Digest
  metrics : List (String × ℚ)
  passed : Option Bool
  evaluationResultId : Option ContentId
  familyAggregateId : Option ContentId
  deriving DecidableEq, Repr

namespace TrialLifecycleEvent

def eventId (event : TrialLifecycleEvent) : ContentId :=
  .ofFields "research-trial-lifecycle-event/v3"
    [event.trialId, .int event.sequence, .option id event.previousEventId,
      .text event.eventType.value, .int event.occurredAt, .option .digest event.holdoutId,
      .list (event.metrics.map fun metric => .pair (.text metric.1) (.decimal metric.2)),
      .option (fun passed => .int (if passed then 1 else 0)) event.passed,
      .option id event.evaluationResultId, .option id event.familyAggregateId]

def checkHoldoutField (event : TrialLifecycleEvent) : Except TrialError Unit :=
  if event.eventType.holdout then
    raiseIf (event.holdoutId = none) (.lifecycle "holdout event requires holdout_id")
  else
    raiseIf (event.holdoutId ≠ none) (.lifecycle "non-holdout event cannot carry holdout_id")

def checkOutcomeFields (event : TrialLifecycleEvent) : Except TrialError Unit :=
  if event.eventType = .trialCompleted then do
    raiseIf (event.metrics = [] ∨ event.passed = none ∨ event.evaluationResultId = none)
      (.lifecycle "completed trial requires a generated result, metrics, and pass result")
    raiseIf (event.familyAggregateId ≠ none)
      (.lifecycle "completed trial cannot carry family promotion")
  else if event.eventType = .trialPromoted then
    raiseIf (event.metrics ≠ [] ∨ event.passed ≠ none ∨ event.evaluationResultId ≠ none ∨
      event.familyAggregateId = none)
      (.lifecycle "promotion requires only a persisted family aggregate")
  else do
    raiseIf (event.metrics ≠ [] ∨ event.passed ≠ none ∨ event.evaluationResultId ≠ none)
      (.lifecycle "only a completed trial can carry a generated evaluation result")
    raiseIf (event.familyAggregateId ≠ none)
      (.lifecycle "only promotion can carry a family aggregate")

/-- The constructor's checks of an event. -/
def create (event : TrialLifecycleEvent) : Except TrialError TrialLifecycleEvent := do
  raiseIf (event.sequence = 0) (.lifecycle "sequence must be a positive integer")
  raiseIf (event.sequence = 1 ∧ event.previousEventId ≠ none)
    (.lifecycle "first event cannot have a predecessor")
  raiseIf (event.sequence ≠ 1 ∧ event.previousEventId = none)
    (.lifecycle "later events require a predecessor")
  event.checkHoldoutField
  raiseIf (¬SortedUnique (event.metrics.map (·.1)))
    (.lifecycle "metrics must be a sorted unique tuple")
  event.checkOutcomeFields
  return event

theorem create_eq_ok {event result : TrialLifecycleEvent} (h : create event = .ok result) :
    event.checkHoldoutField = .ok () ∧ event.checkOutcomeFields = .ok () ∧ result = event := by
  obtain ⟨-, h⟩ := raiseIf_bind_eq_ok.mp h
  obtain ⟨-, h⟩ := raiseIf_bind_eq_ok.mp h
  obtain ⟨-, h⟩ := raiseIf_bind_eq_ok.mp h
  obtain ⟨_, hholdout, h⟩ := bind_eq_ok.mp h
  obtain ⟨-, h⟩ := raiseIf_bind_eq_ok.mp h
  obtain ⟨_, houtcome, h⟩ := bind_eq_ok.mp h
  exact ⟨hholdout, houtcome, (Except.ok.inj h).symm⟩

end TrialLifecycleEvent

/-- What the validation of a history has seen so far. -/
structure TrialHistory where
  started : Bool
  unsealed : Bool
  holdoutResultsAccessed : Bool
  terminal : Option TrialLifecycleEventType
  promoted : Bool
  invalidated : Bool
  previous : Option TrialLifecycleEvent
  deriving DecidableEq

def TrialHistory.initial : TrialHistory := ⟨false, false, false, none, false, false, none⟩

/-- The checks on where an event stands in its chain. -/
def validateTrialLinks (registration : TrialRegistration) (expectedSequence : ℕ)
    (history : TrialHistory) (event : TrialLifecycleEvent) : Except TrialError Unit := do
  raiseIf (event.trialId ≠ registration.trialId) (.integrity "event belongs to another trial")
  raiseIf (event.sequence ≠ expectedSequence) (.integrity "trial event sequence contains a gap")
  raiseIf (event.previousEventId ≠ history.previous.map (·.eventId))
    (.integrity "trial event predecessor chain is broken")
  raiseIf (history.previous.any fun previous => event.occurredAt < previous.occurredAt)
    (.integrity "trial event time moved backwards")
  raiseIf (event.occurredAt < registration.registeredAt)
    (.integrity "trial event predates its registration")
  raiseIf (history.invalidated = true) (.conflict "no event may follow invalidation")
  raiseIf (history.promoted = true ∧ event.eventType ≠ .trialInvalidated)
    (.conflict "only invalidation may follow promotion")
  raiseIf (history.terminal ≠ none ∧ event.eventType ≠ .trialInvalidated ∧
    ¬(history.terminal = some .trialCompleted ∧ history.promoted = false ∧
      event.eventType = .trialPromoted))
    (.conflict
      "only invalidation, or one eligible promotion, may follow a completed trial")

/-- The checks on a later event of a started trial. -/
def validateStartedTrial (registration : TrialRegistration) (history : TrialHistory)
    (event : TrialLifecycleEvent) : Except TrialError TrialHistory := do
  raiseIf (history.started = false) (.conflict "trial must start before other lifecycle events")
  raiseIf (event.eventType = .holdoutUnsealed ∧ history.unsealed = true)
    (.conflict "holdout can be unsealed only once")
  raiseIf (event.eventType.holdoutAccess = true ∧ history.unsealed = false)
    (.conflict "holdout access requires a prior unseal event")
  let resultsAccessed := history.holdoutResultsAccessed ||
    event.eventType = .holdoutResultsAccessed
  raiseIf (event.eventType.holdout = true ∧
    (registration.holdoutSealed = false ∨ event.holdoutId ≠ registration.holdoutId))
    (.conflict "holdout event does not match the sealed registration")
  raiseIf (event.eventType = .trialCompleted ∧ registration.stage = .confirmatory ∧
    resultsAccessed = false)
    (.conflict "completed confirmatory trial requires audited holdout results access")
  raiseIf (event.eventType = .trialCompleted ∧
    ¬∀ metric ∈ registration.primaryMetric :: registration.secondaryMetrics,
      metric ∈ event.metrics.map (·.1))
    (.conflict "completed outcome omits a registered evaluation metric")
  raiseIf (event.eventType = .trialPromoted ∧ history.terminal ≠ some .trialCompleted)
    (.conflict "promotion requires a completed trial")
  return { history with
    unsealed := history.unsealed || event.eventType = .holdoutUnsealed
    holdoutResultsAccessed := resultsAccessed
    terminal := match event.eventType with
      | .trialCompleted | .trialFailed | .trialAborted => some event.eventType
      | _ => history.terminal
    promoted := history.promoted || event.eventType = .trialPromoted
    invalidated := history.invalidated || event.eventType = .trialInvalidated
    previous := some event }

/-- One turn of the loop of `_validate_history`. -/
def validateTrialEvent (registration : TrialRegistration) (expectedSequence : ℕ)
    (history : TrialHistory) (event : TrialLifecycleEvent) : Except TrialError TrialHistory := do
  validateTrialLinks registration expectedSequence history event
  if event.eventType = .trialStarted then
    raiseIf (history.started = true ∨ expectedSequence ≠ 1)
      (.conflict "trial can start exactly once as its first event")
    return { history with started := true, previous := some event }
  else
    validateStartedTrial registration history event

def validateTrialEvents (registration : TrialRegistration) :
    ℕ → TrialHistory → List TrialLifecycleEvent → Except TrialError TrialHistory
  | _, history, [] => .ok history
  | sequence, history, event :: rest => do
    let next ← validateTrialEvent registration sequence history event
    validateTrialEvents registration (sequence + 1) next rest

/-- `_validate_history` -/
def validateTrialHistory (registration : TrialRegistration) (events : List TrialLifecycleEvent) :
    Except TrialError TrialHistory :=
  validateTrialEvents registration 1 .initial events

section Lemmas

variable {registration : TrialRegistration} {history after : TrialHistory}
variable {event : TrialLifecycleEvent} {sequence : ℕ}

theorem validateTrialEvents_concat (events : List TrialLifecycleEvent) (sequence : ℕ)
    (history : TrialHistory) :
    validateTrialEvents registration sequence history (events ++ [event]) = .ok after ↔
      ∃ middle, validateTrialEvents registration sequence history events = .ok middle ∧
        validateTrialEvent registration (sequence + events.length) middle event = .ok after := by
  induction events generalizing sequence history with
  | nil =>
    cases h : validateTrialEvent registration sequence history event with
    | error e => simp [validateTrialEvents, h]
    | ok next => simp [validateTrialEvents, h]
  | cons first rest ih =>
    have hlength : sequence + (first :: rest).length = sequence + 1 + rest.length := by
      rw [List.length_cons]
      omega
    simp only [List.cons_append, validateTrialEvents, bind_eq_ok, ih, hlength]
    constructor
    · rintro ⟨next, hfirst, middle, hrest, hevent⟩
      exact ⟨middle, ⟨next, hfirst, hrest⟩, hevent⟩
    · rintro ⟨middle, ⟨next, hfirst, hrest⟩, hevent⟩
      exact ⟨next, hfirst, middle, hrest, hevent⟩

theorem validateTrialEvent_links (h : validateTrialEvent registration sequence history event = .ok after) :
    validateTrialLinks registration sequence history event = .ok () := by
  obtain ⟨u, hlinks, -⟩ := bind_eq_ok.mp h
  exact hlinks

/-- An accepted `HOLDOUT_UNSEALED` is of the holdout that its trial registered. -/
theorem validateTrialEvent_unsealed
    (h : validateTrialEvent registration sequence history event = .ok after)
    (hunsealed : event.eventType = .holdoutUnsealed) :
    registration.holdoutId ≠ none ∧ event.holdoutId = registration.holdoutId := by
  obtain ⟨u, -, h⟩ := bind_eq_ok.mp h
  rw [if_neg (by simp [hunsealed])] at h
  obtain ⟨-, h⟩ := raiseIf_bind_eq_ok.mp h
  obtain ⟨-, h⟩ := raiseIf_bind_eq_ok.mp h
  obtain ⟨-, h⟩ := raiseIf_bind_eq_ok.mp h
  obtain ⟨hmatches, -⟩ := raiseIf_bind_eq_ok.mp h
  have hholdout : event.eventType.holdout = true := by
    simp [TrialLifecycleEventType.holdout, hunsealed]
  rw [not_and, not_or] at hmatches
  obtain ⟨hsealed, hsame⟩ := hmatches hholdout
  refine ⟨?_, not_not.mp hsame⟩
  intro hnone
  simp [TrialRegistration.holdoutSealed, hnone] at hsealed

/-- A trial starts with its first event. -/
theorem validateTrialEvent_started
    (h : validateTrialEvent registration sequence history event = .ok after)
    (hstarted : event.eventType = .trialStarted) : sequence = 1 := by
  obtain ⟨u, -, h⟩ := bind_eq_ok.mp h
  rw [if_pos hstarted] at h
  obtain ⟨hfirst, -⟩ := raiseIf_bind_eq_ok.mp h
  exact not_not.mp (not_or.mp hfirst).2

end Lemmas

end IndiaSwing
