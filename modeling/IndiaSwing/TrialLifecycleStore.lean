import Mathlib.Algebra.Order.Ring.Rat
import Mathlib.Data.Prod.Lex
import IndiaSwing.Lib.ActionRuns
import IndiaSwing.TrialLifecycle

namespace IndiaSwing

open ActionRuns
open ExceptGuards
open SortedTuples

/-- What a completion reads of an engine-generated comparison. -/
structure TrialEvaluationComparisonResult where
  comparisonId : ContentId
  trialId : ContentId
  splitPlanId : Digest
  executionPolicyId : Digest
  costScheduleId : Digest
  passThresholds : List (String × ℚ)
  baseMetrics : List (String × ℚ)
  comparisonMetrics : List (String × ℚ)
  passed : Bool
  deriving DecidableEq

/-- What a promotion reads of a family aggregate. -/
structure TrialFamilyEvaluationAggregate where
  aggregateId : ContentId
  strategyFamilyId : String
  registeredTrialIds : List ContentId
  eligibleTrialIds : List ContentId
  decisions : List (ContentId × ContentId)
  deriving DecidableEq

/-- The registry and the stores that the lifecycle reads, and all lifecycle events in the order in
which they were appended. -/
structure TrialStores where
  registry : LocalTrialRegistry
  events : List TrialLifecycleEvent
  comparisons : List TrialEvaluationComparisonResult
  aggregates : Option (List TrialFamilyEvaluationAggregate)

def TrialStores.empty (aggregates : Option (List TrialFamilyEvaluationAggregate)) : TrialStores :=
  ⟨[], [], [], aggregates⟩

/-- The arguments of `append`. -/
structure TrialEventRequest where
  trialId : ContentId
  eventType : TrialLifecycleEventType
  occurredAt : Instant
  holdoutId : Option Digest
  metrics : List (String × ℚ)
  passed : Option Bool
  evaluationComparison : Option TrialEvaluationComparisonResult
  familyAggregate : Option TrialFamilyEvaluationAggregate

namespace TrialStores

variable (stores : TrialStores)

/-- The events of one trial. -/
def eventsOf (trialId : ContentId) : List TrialLifecycleEvent :=
  stores.events.filter (·.trialId = trialId)

def listEvents (trialId : ContentId) : Except TrialError (List TrialLifecycleEvent) := do
  let registration ← stores.registry.get trialId
  let _ ← validateTrialHistory registration (stores.eventsOf trialId)
  return stores.eventsOf trialId

/-- `_reject_contaminated_confirmatory_successor` -/
def rejectContaminated (registration : TrialRegistration) : Except TrialError Unit :=
  match registration.parentTrialId with
  | none => .ok ()
  | some parentId => do
    let parent ← (stores.registry.get parentId).mapError
      fun _ => .conflict "successor parent is not registered"
    let parentEvents ← stores.listEvents parent.trialId
    raiseIf (parentEvents.any (·.eventType = .holdoutUnsealed) = true ∧
      registration.stage = .confirmatory ∧ registration.holdoutId = parent.holdoutId)
      (.conflict "confirmatory successor cannot reuse its parent's unsealed holdout")

/-- The metrics, the pass flag and the result id that an event carries. -/
def outcome (registration : TrialRegistration) (request : TrialEventRequest) :
    Except TrialError (List (String × ℚ) × Option Bool × Option ContentId) :=
  match request.evaluationComparison with
  | none => do
    raiseIf (request.eventType = .trialCompleted)
      (.conflict "trial completion requires an engine-generated comparison")
    return (request.metrics, request.passed, none)
  | some comparison => do
    raiseIf (request.eventType ≠ .trialCompleted)
      (.conflict "only trial completion can carry an evaluation result")
    raiseIf (request.metrics ≠ [] ∨ request.passed ≠ none)
      (.conflict "caller-provided completion metrics are forbidden")
    raiseIf (comparison ∉ stores.comparisons)
      (.conflict "trial completion requires a persisted evaluation result")
    raiseIf (comparison.trialId ≠ registration.trialId)
      (.conflict "evaluation comparison belongs to another trial")
    raiseIf (comparison.splitPlanId ≠ registration.splitPlanId ∨
      comparison.executionPolicyId ≠ registration.executionPolicyHash ∨
      comparison.costScheduleId ≠ registration.costScheduleHash ∨
      comparison.passThresholds ≠ registration.passThresholds)
      (.conflict "evaluation result does not match registered policies or thresholds")
    let metrics := (sorted ((comparison.baseMetrics ++ comparison.comparisonMetrics).map toLex)).map ofLex
    return (metrics, some comparison.passed, some comparison.comparisonId)

def familyIds (strategyFamilyId : String) : List ContentId :=
  (stores.registry.registrationsForFamily strategyFamilyId).map (·.trialId)

/-- The aggregate names exactly the trials of the family. -/
def CoversFamily (strategyFamilyId : String) (aggregate : TrialFamilyEvaluationAggregate) : Prop :=
  (∀ trialId ∈ aggregate.registeredTrialIds, trialId ∈ stores.familyIds strategyFamilyId) ∧
    ∀ trialId ∈ stores.familyIds strategyFamilyId, trialId ∈ aggregate.registeredTrialIds

instance (strategyFamilyId : String) (aggregate : TrialFamilyEvaluationAggregate) :
    Decidable (stores.CoversFamily strategyFamilyId aggregate) :=
  inferInstanceAs (Decidable ((∀ _ ∈ _, _) ∧ ∀ _ ∈ _, _))

/-- The aggregate id that a promotion carries. -/
def promotion (registration : TrialRegistration) (request : TrialEventRequest) :
    Except TrialError (Option ContentId) :=
  match request.familyAggregate with
  | none => do
    raiseIf (request.eventType = .trialPromoted) (.conflict "trial promotion requires a family aggregate")
    return none
  | some aggregate => do
    raiseIf (request.eventType ≠ .trialPromoted)
      (.conflict "only trial promotion can carry a family aggregate")
    match stores.aggregates with
    | none => throw (.conflict "trial promotion requires a configured family-aggregate store")
    | some aggregates =>
      raiseIf (request.metrics ≠ [] ∨ request.passed ≠ none)
        (.conflict "caller-provided promotion outcome is forbidden")
      raiseIf (aggregate ∉ aggregates) (.conflict "trial promotion requires a persisted family aggregate")
      raiseIf (aggregate.strategyFamilyId ≠ registration.strategyFamilyId ∨
        ¬stores.CoversFamily registration.strategyFamilyId aggregate ∨
        request.trialId ∉ aggregate.eligibleTrialIds)
        (.conflict "family aggregate does not make this current family trial eligible")
      return some aggregate.aggregateId

/-- The checks of a promotion under the lock. -/
def confirmPromotion (registration : TrialRegistration) (request : TrialEventRequest)
    (existing : List TrialLifecycleEvent) : Except TrialError Unit :=
  match request.familyAggregate with
  | none => .ok ()
  | some aggregate => do
    raiseIf (¬stores.CoversFamily registration.strategyFamilyId aggregate)
      (.conflict "family aggregate no longer covers the current family")
    let completed := existing.find? (·.eventType = .trialCompleted)
    let decision := aggregate.decisions.find? (·.1 = request.trialId)
    raiseIf (completed = none ∨ decision = none ∨
      completed.bind (·.evaluationResultId) ≠ decision.map (·.2))
      (.conflict "promotion aggregate differs from the completed comparison")

/-- A first `TRIAL_STARTED` is checked against the parent's holdout. -/
def checkStart (registration : TrialRegistration) (request : TrialEventRequest)
    (existing : List TrialLifecycleEvent) : Except TrialError Unit :=
  if existing = [] ∧ request.eventType = .trialStarted then stores.rejectContaminated registration
  else .ok ()

/-- The event that an accepted request adds. -/
def draft (request : TrialEventRequest) (existing : List TrialLifecycleEvent)
    (outcome : List (String × ℚ) × Option Bool × Option ContentId)
    (familyAggregateId : Option ContentId) : TrialLifecycleEvent where
  trialId := request.trialId
  sequence := existing.length + 1
  previousEventId := existing.getLast?.map (·.eventId)
  eventType := request.eventType
  occurredAt := request.occurredAt
  holdoutId := request.holdoutId
  metrics := outcome.1
  passed := outcome.2.1
  evaluationResultId := outcome.2.2
  familyAggregateId := familyAggregateId

def append (request : TrialEventRequest) : Except TrialError (TrialLifecycleEvent × TrialStores) := do
  let registration ← stores.registry.get request.trialId
  let outcome ← stores.outcome registration request
  let familyAggregateId ← stores.promotion registration request
  let existing ← stores.listEvents request.trialId
  stores.checkStart registration request existing
  stores.confirmPromotion registration request existing
  let event ← TrialLifecycleEvent.create (draft request existing outcome familyAggregateId)
  let _ ← validateTrialHistory registration (existing ++ [event])
  return (event, { stores with events := stores.events ++ [event] })

end TrialStores

/-- The steps of a run over the registry and the lifecycle store. -/
inductive TrialAction
  | register (registration : TrialRegistration)
  | append (request : TrialEventRequest)
  | persistComparison (comparison : TrialEvaluationComparisonResult)
  | persistAggregate (aggregate : TrialFamilyEvaluationAggregate)

/-- The stores after a step; a refused one leaves them as they are. -/
def trialStep (stores : TrialStores) : TrialAction → TrialStores
  | .register registration =>
    match stores.registry.register registration with
    | .ok (_, registry) => { stores with registry }
    | .error _ => stores
  | .append request =>
    match stores.append request with
    | .ok (_, after) => after
    | .error _ => stores
  | .persistComparison comparison => { stores with comparisons := stores.comparisons ++ [comparison] }
  | .persistAggregate aggregate => { stores with aggregates := stores.aggregates.map (· ++ [aggregate]) }

/-- The stores that a run leads to. -/
def runTrials (aggregates : Option (List TrialFamilyEvaluationAggregate)) (actions : List TrialAction) :
    TrialStores :=
  run trialStep (.empty aggregates) actions

section Lemmas

variable {stores after : TrialStores} {registration trial : TrialRegistration} {trialId : ContentId}
variable {events : List TrialLifecycleEvent} {event : TrialLifecycleEvent} {request : TrialEventRequest}
variable {history : TrialHistory}

/-- The invariant of the stores: parents are registered, and every registered trial has a valid
history. -/
structure TrialStoresValid (stores : TrialStores) : Prop where
  parents : ParentsRegistered stores.registry
  owned : ∀ event ∈ stores.events, ∃ registration ∈ stores.registry, registration.trialId = event.trialId
  validated : ∀ registration ∈ stores.registry,
    ∃ history, validateTrialHistory registration (stores.eventsOf registration.trialId) = .ok history

theorem TrialStoresValid.listEvents (h : TrialStoresValid stores) (hmem : registration ∈ stores.registry) :
    stores.listEvents registration.trialId = .ok (stores.eventsOf registration.trialId) := by
  obtain ⟨history, hvalid⟩ := h.validated registration hmem
  unfold TrialStores.listEvents
  rw [registry_get_ok.mpr ⟨hmem, rfl⟩, ok_bind, hvalid, ok_bind]
  rfl

theorem trialListEvents_ok (h : stores.listEvents trialId = .ok events) :
    events = stores.eventsOf trialId := by
  obtain ⟨_, -, h⟩ := bind_eq_ok.mp h
  obtain ⟨_, -, h⟩ := bind_eq_ok.mp h
  exact (Except.ok.inj h).symm

theorem validateTrialHistory_unsealed (h : validateTrialHistory registration events = .ok history)
    (hmem : event ∈ events) (hunsealed : event.eventType = .holdoutUnsealed) :
    registration.holdoutId ≠ none ∧ event.holdoutId = registration.holdoutId := by
  unfold validateTrialHistory at h
  induction events using List.reverseRecOn generalizing history with
  | nil => cases hmem
  | append_singleton events last ih =>
    obtain ⟨middle, hevents, hlast⟩ := (validateTrialEvents_concat events 1 .initial).mp h
    rcases List.mem_append.mp hmem with hin | hin
    · exact ih hevents hin
    · rw [List.mem_singleton.mp hin] at hunsealed ⊢
      exact validateTrialEvent_unsealed hlast hunsealed

/-- What an accepted append has checked and written. -/
structure Appended (stores after : TrialStores) (request : TrialEventRequest)
    (registration : TrialRegistration) (event : TrialLifecycleEvent) : Prop where
  registered : registration ∈ stores.registry
  trial : registration.trialId = request.trialId
  written : after = { stores with events := stores.events ++ [event] }
  drafted : ∃ outcome aggregateId, stores.outcome registration request = .ok outcome ∧
    stores.promotion registration request = .ok aggregateId ∧
    event = TrialStores.draft request (stores.eventsOf request.trialId) outcome aggregateId ∧
    event.checkHoldoutField = .ok () ∧ event.checkOutcomeFields = .ok ()
  validated : ∃ history, validateTrialHistory registration
    (stores.eventsOf request.trialId ++ [event]) = .ok history
  start_checked : stores.checkStart registration request (stores.eventsOf request.trialId) = .ok ()

theorem trialAppend_ok (h : stores.append request = .ok (event, after)) :
    ∃ registration, Appended stores after request registration event := by
  obtain ⟨registration, hget, h⟩ := bind_eq_ok.mp h
  obtain ⟨outcome, houtcome, h⟩ := bind_eq_ok.mp h
  obtain ⟨aggregateId, hpromotion, h⟩ := bind_eq_ok.mp h
  obtain ⟨existing, hexisting, h⟩ := bind_eq_ok.mp h
  obtain ⟨_, hstart, h⟩ := bind_eq_ok.mp h
  obtain ⟨_, -, h⟩ := bind_eq_ok.mp h
  obtain ⟨created, hcreated, h⟩ := bind_eq_ok.mp h
  obtain ⟨history, hvalid, hdone⟩ := bind_eq_ok.mp h
  obtain ⟨hmem, hid⟩ := registry_get_ok.mp hget
  cases trialListEvents_ok hexisting
  cases hdone
  obtain ⟨hholdout, hfields, rfl⟩ := TrialLifecycleEvent.create_eq_ok hcreated
  exact ⟨registration, hmem, hid, rfl, ⟨outcome, aggregateId, houtcome, hpromotion, rfl, hholdout, hfields⟩,
    ⟨history, hvalid⟩, hstart⟩

theorem Appended.event_trial (h : Appended stores after request registration event) :
    event.trialId = request.trialId := by
  obtain ⟨_, _, -, -, rfl, -⟩ := h.drafted
  rfl

theorem Appended.event_type (h : Appended stores after request registration event) :
    event.eventType = request.eventType := by
  obtain ⟨_, _, -, -, rfl, -⟩ := h.drafted
  rfl

/-- The last event of a validated history stands at its place in it. -/
theorem Appended.last_validated (h : Appended stores after request registration event) :
    ∃ middle final, validateTrialEvent registration (1 + (stores.eventsOf request.trialId).length)
      middle event = .ok final := by
  obtain ⟨final, hvalid⟩ := h.validated
  obtain ⟨middle, -, hlast⟩ := (validateTrialEvents_concat _ 1 .initial).mp hvalid
  exact ⟨middle, final, hlast⟩

theorem eventsOf_concat :
    ({ stores with events := stores.events ++ [event] } : TrialStores).eventsOf trialId =
      stores.eventsOf trialId ++ if event.trialId = trialId then [event] else [] := by
  by_cases h : event.trialId = trialId <;> simp [TrialStores.eventsOf, h]

/-- Stores stay valid under one more event of a registered trial that the validation accepts. -/
theorem TrialStoresValid.concat (hvalid : TrialStoresValid stores) (hregistered : registration ∈ stores.registry)
    (htrial : event.trialId = registration.trialId)
    (haccepted : ∃ history,
      validateTrialHistory registration (stores.eventsOf registration.trialId ++ [event]) = .ok history) :
    TrialStoresValid { stores with events := stores.events ++ [event] } := by
  refine ⟨hvalid.parents, fun other hother => ?_, fun other hother => ?_⟩
  · rcases List.mem_append.mp hother with hin | hin
    · exact hvalid.owned other hin
    · rw [List.mem_singleton.mp hin, htrial]
      exact ⟨registration, hregistered, rfl⟩
  · rw [eventsOf_concat, htrial]
    by_cases hsame : registration.trialId = other.trialId
    · rw [if_pos hsame, ← TrialRegistration.trialId_injective hsame]
      exact haccepted
    · rw [if_neg hsame, List.append_nil]
      exact hvalid.validated other hother

theorem Appended.valid (h : Appended stores after request registration event)
    (hvalid : TrialStoresValid stores) : TrialStoresValid after := by
  rw [h.written]
  refine hvalid.concat h.registered (h.event_trial.trans h.trial.symm) ?_
  rw [h.trial]
  exact h.validated

theorem eventsOf_unregistered (hvalid : TrialStoresValid stores) (hnew : registration ∉ stores.registry) :
    stores.eventsOf registration.trialId = [] := by
  refine List.filter_eq_nil_iff.mpr fun event hevent heq => ?_
  obtain ⟨owner, hmem, hid⟩ := hvalid.owned event hevent
  rw [of_decide_eq_true heq] at hid
  rw [TrialRegistration.trialId_injective hid] at hmem
  exact hnew hmem

theorem register_valid {result : TrialRegistration} {registry : LocalTrialRegistry}
    (hvalid : TrialStoresValid stores)
    (h : stores.registry.register registration = .ok (result, registry)) :
    TrialStoresValid { stores with registry } := by
  rcases register_cases h with rfl | ⟨rfl, hnew, hparent⟩
  · exact hvalid
  · refine ⟨fun trial htrial parentId hid => ?_, fun event hevent => ?_, fun other hother => ?_⟩
    · rcases List.mem_append.mp htrial with hin | hin
      · obtain ⟨parent, hmem, hparent⟩ := hvalid.parents trial hin parentId hid
        exact ⟨parent, List.mem_append_left _ hmem, hparent⟩
      · rw [List.mem_singleton.mp hin] at hid
        obtain ⟨parent, hmem, hparent⟩ := hparent parentId hid
        exact ⟨parent, List.mem_append_left _ hmem, hparent⟩
    · obtain ⟨owner, hmem, hid⟩ := hvalid.owned event hevent
      exact ⟨owner, List.mem_append_left _ hmem, hid⟩
    · rcases List.mem_append.mp hother with hin | hin
      · exact hvalid.validated other hin
      · rw [List.mem_singleton.mp hin]
        have hnone := eventsOf_unregistered hvalid hnew
        refine ⟨.initial, ?_⟩
        show validateTrialHistory registration (stores.eventsOf registration.trialId) = _
        rw [hnone]
        rfl

theorem trialStep_valid (hvalid : TrialStoresValid stores) (action : TrialAction) :
    TrialStoresValid (trialStep stores action) := by
  cases action with
  | register registration =>
    cases h : stores.registry.register registration with
    | error e => simpa [trialStep, h] using hvalid
    | ok pair =>
      obtain ⟨result, registry⟩ := pair
      simpa [trialStep, h] using register_valid hvalid h
  | append request =>
    cases h : stores.append request with
    | error e => simpa [trialStep, h] using hvalid
    | ok pair =>
      obtain ⟨event, after⟩ := pair
      obtain ⟨registration, happended⟩ := trialAppend_ok h
      simpa [trialStep, h] using happended.valid hvalid
  | persistComparison | persistAggregate =>
    exact ⟨hvalid.parents, hvalid.owned, hvalid.validated⟩

theorem trialStoresValid_empty {aggregates : Option (List TrialFamilyEvaluationAggregate)} :
    TrialStoresValid (.empty aggregates) :=
  ⟨fun _ h => (by cases h), fun _ h => (by cases h), fun _ h => (by cases h)⟩

end Lemmas

end IndiaSwing
