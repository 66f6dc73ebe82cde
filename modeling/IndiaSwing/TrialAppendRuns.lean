import IndiaSwing.TrialLanguage
import IndiaSwing.TrialLifecycleStore

namespace IndiaSwing

open ActionRuns
open ExceptGuards

/-- What an append has read before it takes the lock. -/
structure PreparedAppend where
  request : TrialEventRequest
  registration : TrialRegistration
  outcome : List (String × ℚ) × Option Bool × Option ContentId
  familyAggregateId : Option ContentId

namespace TrialStores

variable (stores : TrialStores)

/-- `append` before its lock -/
def prepare (request : TrialEventRequest) : Except TrialError PreparedAppend := do
  let registration ← stores.registry.get request.trialId
  let outcome ← stores.outcome registration request
  let familyAggregateId ← stores.promotion registration request
  return ⟨request, registration, outcome, familyAggregateId⟩

/-- `append` under its lock -/
def commit (prepared : PreparedAppend) : Except TrialError (TrialLifecycleEvent × TrialStores) := do
  let existing ← stores.listEvents prepared.request.trialId
  stores.checkStart prepared.registration prepared.request existing
  stores.confirmPromotion prepared.registration prepared.request existing
  let event ← TrialLifecycleEvent.create
    (draft prepared.request existing prepared.outcome prepared.familyAggregateId)
  let _ ← validateTrialHistory prepared.registration (existing ++ [event])
  return (event, { stores with events := stores.events ++ [event] })

theorem append_eq (request : TrialEventRequest) : stores.append request = stores.prepare request >>= stores.commit := by
  unfold append prepare commit
  cases hget : stores.registry.get request.trialId with
  | error e => rfl
  | ok registration =>
    cases houtcome : stores.outcome registration request with
    | error e => simp [houtcome]
    | ok outcome =>
      cases hpromotion : stores.promotion registration request with
      | error e => simp [houtcome, hpromotion]
      | ok familyAggregateId => simp [houtcome, hpromotion, pure_eq_ok]

end TrialStores

/-- The stores and the appends that wait for the lock. -/
structure AppendingStores where
  stores : TrialStores
  waiting : List PreparedAppend

inductive AppendTurn
  | store (action : TrialAction)
  | prepare (request : TrialEventRequest)
  | commit (index : ℕ)

/-- One turn: the stores take a whole action, an append reads what it needs, or a waiting one has the lock. -/
def appendTurn (state : AppendingStores) : AppendTurn → AppendingStores
  | .store action => { state with stores := trialStep state.stores action }
  | .prepare request =>
    match state.stores.prepare request with
    | .ok prepared => { state with waiting := state.waiting ++ [prepared] }
    | .error _ => state
  | .commit index =>
    match state.waiting[index]? with
    | none => state
    | some prepared =>
      match state.stores.commit prepared with
      | .ok (_, after) => ⟨after, state.waiting.eraseIdx index⟩
      | .error _ => { state with waiting := state.waiting.eraseIdx index }

/-- The stores and the waiting appends that turns in any order lead to. -/
def runAppends (aggregates : Option (List TrialFamilyEvaluationAggregate)) (turns : List AppendTurn) :
    AppendingStores :=
  run appendTurn ⟨.empty aggregates, []⟩ turns

section Runs

variable {stores after : TrialStores} {state : AppendingStores} {prepared : PreparedAppend}
variable {request : TrialEventRequest} {event : TrialLifecycleEvent} {registration : TrialRegistration}

theorem trialStep_registry (action : TrialAction) (h : registration ∈ stores.registry) :
    registration ∈ (trialStep stores action).registry := by
  cases action with
  | register other =>
    cases hregister : stores.registry.register other with
    | error e => simpa [trialStep, hregister] using h
    | ok pair =>
      obtain ⟨result, registry⟩ := pair
      have hgrown : registration ∈ registry := by
        rcases register_cases hregister with rfl | ⟨rfl, -, -⟩
        · exact h
        · exact List.mem_append_left _ h
      simpa [trialStep, hregister] using hgrown
  | append request =>
    cases happend : stores.append request with
    | error e => simpa [trialStep, happend] using h
    | ok pair =>
      obtain ⟨event, after⟩ := pair
      obtain ⟨_, happended⟩ := trialAppend_ok happend
      have hsame : after.registry = stores.registry := by rw [happended.written]
      simpa [trialStep, happend, hsame] using h
  | persistComparison | persistAggregate => exact h

theorem prepare_registered (h : stores.prepare request = .ok prepared) :
    prepared.registration ∈ stores.registry ∧ prepared.registration.trialId = prepared.request.trialId := by
  obtain ⟨registration, hget, h⟩ := bind_eq_ok.mp h
  obtain ⟨outcome, -, h⟩ := bind_eq_ok.mp h
  obtain ⟨familyAggregateId, -, h⟩ := bind_eq_ok.mp h
  obtain rfl := Except.ok.inj h
  exact registry_get_ok.mp hget

/-- What the locked part of an append has checked and written, whatever was read before the lock. -/
theorem commit_ok (h : stores.commit prepared = .ok (event, after)) :
    after = { stores with events := stores.events ++ [event] } ∧ event.trialId = prepared.request.trialId ∧
      ∃ history, validateTrialHistory prepared.registration
        (stores.eventsOf prepared.request.trialId ++ [event]) = .ok history := by
  obtain ⟨existing, hexisting, h⟩ := bind_eq_ok.mp h
  obtain ⟨_, -, h⟩ := bind_eq_ok.mp h
  obtain ⟨_, -, h⟩ := bind_eq_ok.mp h
  obtain ⟨created, hcreated, h⟩ := bind_eq_ok.mp h
  obtain ⟨history, hvalid, hdone⟩ := bind_eq_ok.mp h
  cases trialListEvents_ok hexisting
  cases hdone
  obtain ⟨-, -, rfl⟩ := TrialLifecycleEvent.create_eq_ok hcreated
  exact ⟨rfl, rfl, history, hvalid⟩

/-- The invariant of a run: the stores are valid, and a waiting append is of a registered trial. -/
structure AppendingValid (state : AppendingStores) : Prop where
  stores : TrialStoresValid state.stores
  waiting : ∀ prepared ∈ state.waiting,
    prepared.registration ∈ state.stores.registry ∧ prepared.registration.trialId = prepared.request.trialId

theorem appendTurn_valid (h : AppendingValid state) (turn : AppendTurn) : AppendingValid (appendTurn state turn) := by
  cases turn with
  | store action =>
    exact ⟨trialStep_valid h.stores action, fun prepared hmem =>
      ⟨trialStep_registry action (h.waiting prepared hmem).1, (h.waiting prepared hmem).2⟩⟩
  | prepare request =>
    dsimp only [appendTurn]
    split
    · rename_i prepared hprepared
      refine ⟨h.stores, fun other hmem => ?_⟩
      rcases List.mem_append.mp hmem with hin | hin
      · exact h.waiting other hin
      · rw [List.mem_singleton.mp hin]
        exact prepare_registered hprepared
    · exact h
  | commit index =>
    dsimp only [appendTurn]
    split
    · exact h
    · rename_i prepared hget
      obtain ⟨hregistered, htrial⟩ := h.waiting prepared (List.mem_of_getElem? hget)
      split
      · rename_i event after hcommit
        obtain ⟨rfl, hevent, haccepted⟩ := commit_ok hcommit
        refine ⟨h.stores.concat hregistered (hevent.trans htrial.symm) ?_, fun other hmem => ?_⟩
        · rw [htrial]
          exact haccepted
        · exact h.waiting other (List.mem_of_mem_eraseIdx hmem)
      · exact ⟨h.stores, fun other hmem => h.waiting other (List.mem_of_mem_eraseIdx hmem)⟩

theorem runAppends_valid (aggregates : Option (List TrialFamilyEvaluationAggregate)) (turns : List AppendTurn) :
    AppendingValid (runAppends aggregates turns) := by
  apply run_invariant
  · exact ⟨trialStoresValid_empty, fun _ hmem => (by cases hmem)⟩
  · exact fun state turn h => appendTurn_valid h turn

end Runs

theorem chain_of_initial {registration : TrialRegistration} {before events : List TrialLifecycleEvent}
    (hinitial : before <+: events) (h : LifecycleChain registration events) : LifecycleChain registration before := by
  obtain ⟨rest, rfl⟩ := hinitial
  induction rest using List.reverseRecOn with
  | nil => rwa [List.append_nil] at h
  | append_singleton rest event ih =>
    rw [← List.append_assoc] at h
    exact ih (chain_init h)

/-- The histories that appends can reach are in the language of lifecycles, which is closed under prefixes, and the
validation accepts exactly that language. -/
theorem trial_histories_language :
    (∀ aggregates turns, ∀ registration ∈ (runAppends aggregates turns).stores.registry,
      LifecycleChain registration ((runAppends aggregates turns).stores.eventsOf registration.trialId) ∧
        ∀ before, before <+: (runAppends aggregates turns).stores.eventsOf registration.trialId →
          ∃ history, validateTrialHistory registration before = .ok history) ∧
    (∀ aggregates turns, ∀ event ∈ (runAppends aggregates turns).stores.events,
      ∃ registration ∈ (runAppends aggregates turns).stores.registry, registration.trialId = event.trialId) ∧
    ∀ registration events, LifecycleChain registration events →
      ∃ history, validateTrialHistory registration events = .ok history := by
  refine ⟨fun aggregates turns registration hmem => ?_, fun aggregates turns => ?_, fun registration events h => ?_⟩
  · have hchain := validateTrialHistory_accepts.mp
      ((runAppends_valid aggregates turns).stores.validated registration hmem)
    exact ⟨hchain, fun before hinitial => validateTrialHistory_accepts.mpr (chain_of_initial hinitial hchain)⟩
  · exact (runAppends_valid aggregates turns).stores.owned
  · exact validateTrialHistory_accepts.mpr h

section Samples

/-- An exploratory registration at an instant. -/
def sampleTrial (registeredAt : Instant) : TrialRegistration where
  registeredAt := registeredAt
  stage := .exploratory
  strategyFamilyId := "swing"
  parentTrialId := none
  splitPlanId := 1
  primaryMetric := "sharpe"
  secondaryMetrics := []
  executionPolicyHash := 2
  costScheduleHash := 3
  passThresholds := []
  holdoutId := none
  declaration := 4
  confirmatory_sealed := by intro h; cases h

def sampleStart (registration : TrialRegistration) (sequence : ℕ) (previous : Option ContentId)
    (occurredAt : Instant) : TrialLifecycleEvent where
  trialId := registration.trialId
  sequence := sequence
  previousEventId := previous
  eventType := .trialStarted
  occurredAt := occurredAt
  holdoutId := none
  metrics := []
  passed := none
  evaluationResultId := none
  familyAggregateId := none

theorem trial_histories_language_start :
    ∃ history, validateTrialHistory (sampleTrial 10) [sampleStart (sampleTrial 10) 1 none 10] = .ok history := by
  apply trial_histories_language.2.2
  exact validateTrialHistory_accepts.mp ⟨.of [sampleStart (sampleTrial 10) 1 none 10], by decide +kernel⟩

def sampleOther (registration : TrialRegistration) : TrialLifecycleEvent :=
  sampleStart registration 2 (some (sampleStart registration 1 none 10).eventId) 10

/-- A chain of the shape may start again, or before its registration, and is then rejected. -/
theorem shape_admits_rejected_chains :
    (LifecycleShape (sampleTrial 10) [sampleStart (sampleTrial 10) 1 none 10, sampleOther (sampleTrial 10)] ∧
      LifecycleMatches (sampleTrial 10) [sampleStart (sampleTrial 10) 1 none 10, sampleOther (sampleTrial 10)] ∧
      ¬∃ history, validateTrialHistory (sampleTrial 10)
        [sampleStart (sampleTrial 10) 1 none 10, sampleOther (sampleTrial 10)] = .ok history) ∧
    (LifecycleShape (sampleTrial 10) [sampleStart (sampleTrial 10) 1 none 9] ∧
      LifecycleMatches (sampleTrial 10) [sampleStart (sampleTrial 10) 1 none 9] ∧
      ¬∃ history, validateTrialHistory (sampleTrial 10) [sampleStart (sampleTrial 10) 1 none 9] = .ok history) := by
  have hone : ∀ {P : List TrialLifecycleEvent → TrialLifecycleEvent → Prop} {a : TrialLifecycleEvent},
      Preceded P [a] ↔ P [] a := by
    intro P a
    rw [← List.nil_append [a], preceded_concat]
    exact and_iff_right preceded_nil
  have htwo : ∀ {P : List TrialLifecycleEvent → TrialLifecycleEvent → Prop} {a b : TrialLifecycleEvent},
      Preceded P [a, b] ↔ P [] a ∧ P [a] b := by
    intro P a b
    rw [← List.singleton_append, preceded_concat, hone]
  refine ⟨⟨⟨?_, ?_, ?_, ?_, ?_, ?_, ?_, ?_, ?_, ?_⟩, ⟨?_, ?_, ?_⟩, ?_⟩, ⟨⟨?_, ?_, ?_, ?_, ?_, ?_, ?_, ?_, ?_, ?_⟩,
    ⟨?_, ?_, ?_⟩, ?_⟩⟩
  case refine_14 =>
    rintro ⟨history, h⟩
    have hchain := validateTrialHistory_accepts.mp ⟨history, h⟩
    have hstarts := hchain.startsOnce
    simp [sampleStart, sampleOther] at hstarts
  case refine_28 =>
    rintro ⟨history, h⟩
    have hchain := validateTrialHistory_accepts.mp ⟨history, h⟩
    have hregistered := hchain.registered _ List.mem_cons_self
    simp [sampleStart, sampleTrial] at hregistered
  all_goals simp [htwo, hone, sampleStart, sampleOther, sampleTrial, TrialLifecycleEventType.holdout,
    TrialLifecycleEventType.holdoutAccess, TrialLifecycleEventType.outcome]

end Samples

end IndiaSwing
