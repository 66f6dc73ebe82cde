import IndiaSwing.Lib.Slices
import IndiaSwing.TrialLifecycleStore

namespace IndiaSwing

open ActionRuns
open ExceptGuards
open ListSplits (split_concat)

variable {stores after : TrialStores} {registration parent ancestor : TrialRegistration}
variable {event : TrialLifecycleEvent} {request : TrialEventRequest} {holdoutId : Digest}
variable {action : TrialAction}

/-- The trial has unsealed the holdout. -/
def HasUnsealed (events : List TrialLifecycleEvent) (trial : TrialRegistration) (holdoutId : Digest) :
    Prop :=
  ∃ event ∈ events, event.trialId = trial.trialId ∧ event.eventType = .holdoutUnsealed ∧
    event.holdoutId = some holdoutId

/-- No confirmatory trial has started after one of its ancestors had unsealed its holdout. -/
def NoHoldoutReuse (stores : TrialStores) : Prop :=
  ∀ earlier start later, stores.events = earlier ++ start :: later → start.eventType = .trialStarted →
    ∀ registration ∈ stores.registry, registration.trialId = start.trialId →
      registration.stage = .confirmatory → ∀ holdoutId, registration.holdoutId = some holdoutId →
        ∀ ancestor, Ancestor stores.registry ancestor registration →
          ¬HasUnsealed earlier ancestor holdoutId

/-- A request for a `TRIAL_STARTED` that carries nothing else. -/
structure BareStart (request : TrialEventRequest) : Prop where
  type : request.eventType = .trialStarted
  holdout : request.holdoutId = none
  metrics : request.metrics = []
  passed : request.passed = none
  comparison : request.evaluationComparison = none
  aggregate : request.familyAggregate = none

/-- A confirmatory trial that is about to start, below a parent that has not unsealed its holdout,
has no ancestor further up that has. -/
def HoldoutFreshAbove (stores : TrialStores) (action : TrialAction) : Prop :=
  ∀ request, action = .append request → BareStart request →
    ∀ registration ∈ stores.registry, registration.trialId = request.trialId →
      registration.registeredAt ≤ request.occurredAt → stores.eventsOf request.trialId = [] →
      registration.stage = .confirmatory → ∀ holdoutId, registration.holdoutId = some holdoutId →
        ∀ parent ∈ stores.registry, registration.parentTrialId = some parent.trialId →
          ¬HasUnsealed stores.events parent holdoutId →
            ∀ ancestor, Ancestor stores.registry ancestor parent →
              ¬HasUnsealed stores.events ancestor holdoutId

theorem mem_eventsOf {trialId : ContentId} :
    event ∈ stores.eventsOf trialId ↔ event ∈ stores.events ∧ event.trialId = trialId := by
  simp [TrialStores.eventsOf]

/-- The check against the parent is exact: it fails only on the trial's own holdout. -/
theorem rejectContaminated_ok (hvalid : TrialStoresValid stores) (hmem : parent ∈ stores.registry)
    (hlink : registration.parentTrialId = some parent.trialId)
    (hstage : registration.stage = .confirmatory) (hholdout : registration.holdoutId = some holdoutId) :
    stores.rejectContaminated registration = .ok () ↔ ¬HasUnsealed stores.events parent holdoutId := by
  have hget : stores.registry.get parent.trialId = .ok parent := registry_get_ok.mpr ⟨hmem, rfl⟩
  have hcontaminated : (stores.eventsOf parent.trialId).any (·.eventType = .holdoutUnsealed) = true ∧
      registration.holdoutId = parent.holdoutId ↔ HasUnsealed stores.events parent holdoutId := by
    obtain ⟨history, hhistory⟩ := hvalid.validated parent hmem
    constructor
    · rintro ⟨hany, hsame⟩
      obtain ⟨event, hevent, hunsealed⟩ := List.any_eq_true.mp hany
      have htype := of_decide_eq_true hunsealed
      have howner := (validateTrialHistory_unsealed hhistory hevent htype).2
      obtain ⟨hin, htrial⟩ := mem_eventsOf.mp hevent
      exact ⟨event, hin, htrial, htype, by rw [howner, ← hsame, hholdout]⟩
    · rintro ⟨event, hin, htrial, htype, hof⟩
      have hevent : event ∈ stores.eventsOf parent.trialId := mem_eventsOf.mpr ⟨hin, htrial⟩
      have howner := (validateTrialHistory_unsealed hhistory hevent htype).2
      refine ⟨List.any_eq_true.mpr ⟨event, hevent, by simp [htype]⟩, ?_⟩
      rw [hholdout, ← howner, hof]
  unfold TrialStores.rejectContaminated
  rw [hlink]
  dsimp only
  rw [hget]
  show (stores.listEvents parent.trialId >>= _) = _ ↔ _
  rw [hvalid.listEvents hmem, ok_bind, raiseIf_eq_ok, ← hcontaminated]
  simp [hstage]

/-- A bare first start passes every check but the one against the parent. -/
theorem bareStart_append (hvalid : TrialStoresValid stores) (hbare : BareStart request)
    (hmem : registration ∈ stores.registry) (hid : registration.trialId = request.trialId)
    (htime : registration.registeredAt ≤ request.occurredAt)
    (hfirst : stores.eventsOf request.trialId = [])
    (hcheck : stores.rejectContaminated registration = .ok ()) :
    ∃ event, event.eventType = .trialStarted ∧ event.trialId = request.trialId ∧
      stores.append request = .ok (event, { stores with events := stores.events ++ [event] }) := by
  obtain ⟨htype, hholdout, hmetrics, hpassed, hcomparison, haggregate⟩ := hbare
  have hget : stores.registry.get request.trialId = .ok registration := registry_get_ok.mpr ⟨hmem, hid⟩
  have houtcome : stores.outcome registration request = .ok ([], none, none) := by
    unfold TrialStores.outcome
    rw [hcomparison, hmetrics, hpassed]
    simp [htype, pure_eq_ok]
  have hpromotion : stores.promotion registration request = .ok none := by
    unfold TrialStores.promotion
    rw [haggregate]
    simp [htype, pure_eq_ok]
  have hlist : stores.listEvents request.trialId = .ok [] := by
    have hlisted := hvalid.listEvents hmem
    rw [hid, hfirst] at hlisted
    exact hlisted
  have hstart : stores.checkStart registration request [] = .ok () := by
    unfold TrialStores.checkStart
    rw [if_pos ⟨rfl, htype⟩]
    exact hcheck
  have hconfirm : stores.confirmPromotion registration request [] = .ok () := by
    unfold TrialStores.confirmPromotion
    rw [haggregate]
  let started := TrialStores.draft request [] ([], none, none) none
  have hcreate : TrialLifecycleEvent.create started = .ok started := by
    simp [started, TrialStores.draft, TrialLifecycleEvent.create, TrialLifecycleEvent.checkHoldoutField,
      TrialLifecycleEvent.checkOutcomeFields, TrialLifecycleEventType.holdout,
      TrialLifecycleEventType.holdoutAccess, htype, hholdout, SortedTuples.SortedUnique,
      SortedTuples.sorted, pure_eq_ok]
  have hvalidated : validateTrialHistory registration ([] ++ [started]) =
      .ok { TrialHistory.initial with started := true, previous := some started } := by
    simp [started, TrialStores.draft, validateTrialHistory, validateTrialEvents, validateTrialEvent,
      validateTrialLinks, TrialHistory.initial, htype, hid, not_lt.mpr htime, pure_eq_ok]
  refine ⟨started, htype, rfl, ?_⟩
  unfold TrialStores.append
  rw [hget, ok_bind, houtcome, ok_bind, hpromotion, ok_bind, hlist, ok_bind, hstart, ok_bind, hconfirm,
    ok_bind, hcreate, ok_bind, hvalidated, ok_bind]
  rfl

/-- An accepted start was asked for as a bare one, as the first event of its trial. -/
theorem Appended.bareStart (h : Appended stores after request registration event)
    (htype : event.eventType = .trialStarted) :
    BareStart request ∧ registration.registeredAt ≤ request.occurredAt ∧
      stores.eventsOf request.trialId = [] := by
  have hrequest : request.eventType = .trialStarted := h.event_type.symm.trans htype
  obtain ⟨middle, final, hlast⟩ := h.last_validated
  have hfirst := validateTrialEvent_started hlast htype
  have hlinks := validateTrialEvent_links hlast
  obtain ⟨outcome, aggregateId, houtcome, hpromotion, rfl, hholdout, hfields⟩ := h.drafted
  have hnone : stores.eventsOf request.trialId = [] := List.length_eq_zero_iff.mp (by omega)
  obtain ⟨-, hlinks⟩ := raiseIf_bind_eq_ok.mp hlinks
  obtain ⟨-, hlinks⟩ := raiseIf_bind_eq_ok.mp hlinks
  obtain ⟨-, hlinks⟩ := raiseIf_bind_eq_ok.mp hlinks
  obtain ⟨-, hlinks⟩ := raiseIf_bind_eq_ok.mp hlinks
  obtain ⟨htime, -⟩ := raiseIf_bind_eq_ok.mp hlinks
  have hcomparison : request.evaluationComparison = none := by
    cases hgiven : request.evaluationComparison with
    | none => rfl
    | some comparison =>
      unfold TrialStores.outcome at houtcome
      rw [hgiven] at houtcome
      simp [hrequest] at houtcome
  have haggregate : request.familyAggregate = none := by
    cases hgiven : request.familyAggregate with
    | none => rfl
    | some aggregate =>
      unfold TrialStores.promotion at hpromotion
      rw [hgiven] at hpromotion
      simp [hrequest] at hpromotion
  have hcarried : outcome = (request.metrics, request.passed, none) := by
    unfold TrialStores.outcome at houtcome
    rw [hcomparison] at houtcome
    simp [hrequest, pure_eq_ok] at houtcome
    exact houtcome.symm
  rw [hcarried] at hfields hholdout
  have hempty : request.metrics = [] ∧ request.passed = none := by
    unfold TrialLifecycleEvent.checkOutcomeFields at hfields
    rw [if_neg (by simp [TrialStores.draft, hrequest]), if_neg (by simp [TrialStores.draft, hrequest])]
      at hfields
    obtain ⟨hfields, -⟩ := raiseIf_bind_eq_ok.mp hfields
    simpa [TrialStores.draft] using hfields
  refine ⟨⟨hrequest, ?_, hempty.1, hempty.2, hcomparison, haggregate⟩, not_lt.mp htime, hnone⟩
  simpa [TrialLifecycleEvent.checkHoldoutField, TrialStores.draft, hrequest,
    TrialLifecycleEventType.holdout, TrialLifecycleEventType.holdoutAccess] using hholdout

/-- A new event keeps the property exactly if it is not a start on an unsealed holdout. -/
theorem noHoldoutReuse_concat (hno : NoHoldoutReuse stores) :
    NoHoldoutReuse { stores with events := stores.events ++ [event] } ↔
      (event.eventType = .trialStarted → ∀ registration ∈ stores.registry,
        registration.trialId = event.trialId → registration.stage = .confirmatory →
          ∀ holdoutId, registration.holdoutId = some holdoutId →
            ∀ ancestor, Ancestor stores.registry ancestor registration →
              ¬HasUnsealed stores.events ancestor holdoutId) := by
  constructor
  · intro h htype registration hmem hid
    exact h stores.events event [] rfl htype registration hmem hid
  · intro h earlier start later hsplit htype registration hmem hid
    rcases split_concat hsplit with ⟨rfl, rfl, -⟩ | ⟨init, hinit, -⟩
    · exact h htype registration hmem hid
    · exact hno earlier start init hinit htype registration hmem hid

/-- A new registration is above no trial that has started. -/
theorem noHoldoutReuse_register {result : TrialRegistration} {registry : LocalTrialRegistry}
    (hvalid : TrialStoresValid stores) (hno : NoHoldoutReuse stores)
    (h : stores.registry.register registration = .ok (result, registry)) :
    NoHoldoutReuse { stores with registry } := by
  have hsub : stores.registry ⊆ registry := by
    rcases register_cases h with rfl | ⟨rfl, -, -⟩
    · exact List.Subset.refl _
    · exact List.subset_append_left _ _
  intro earlier start later hsplit htype trial htrial hid hstage holdoutId hholdout ancestor hancestor
  have hstart : start ∈ stores.events := by
    rw [show stores.events = earlier ++ start :: later from hsplit]
    simp
  obtain ⟨owner, howner, hownerId⟩ := hvalid.owned start hstart
  have heq : owner = trial := TrialRegistration.trialId_injective (hownerId.trans hid.symm)
  rw [heq] at howner
  exact hno earlier start later hsplit htype trial howner hid hstage holdoutId hholdout ancestor
    (hancestor.restrict hvalid.parents howner)

theorem noHoldoutReuse_append (hvalid : TrialStoresValid stores) (hno : NoHoldoutReuse stores) :
    NoHoldoutReuse (trialStep stores (.append request)) ↔ HoldoutFreshAbove stores (.append request) := by
  constructor
  · rintro h _ ⟨⟩ hbare registration hmem hid htime hfirst hstage holdoutId hholdout parent hparent
      hlink hfresh ancestor hancestor
    have hcheck := (rejectContaminated_ok hvalid hparent hlink hstage hholdout).mpr hfresh
    obtain ⟨event, htype, htrial, happend⟩ := bareStart_append hvalid hbare hmem hid htime hfirst hcheck
    rw [show trialStep stores (.append request) = { stores with events := stores.events ++ [event] } by
      simp [trialStep, happend]] at h
    exact (noHoldoutReuse_concat hno).mp h htype registration hmem (hid.trans htrial.symm) hstage holdoutId
      hholdout ancestor (.above hparent hlink hancestor)
  · intro h
    cases happend : stores.append request with
    | error e => simpa [trialStep, happend] using hno
    | ok pair =>
      obtain ⟨event, after⟩ := pair
      obtain ⟨registration, happended⟩ := trialAppend_ok happend
      rw [show trialStep stores (.append request) = after by simp [trialStep, happend],
        happended.written, noHoldoutReuse_concat hno]
      intro htype trial htrial hid hstage holdoutId hholdout ancestor hancestor
      have heq : trial = registration := TrialRegistration.trialId_injective
        (hid.trans (happended.event_trial.trans happended.trial.symm))
      subst heq
      obtain ⟨hbare, htime, hfirst⟩ := happended.bareStart htype
      have hcheck : stores.rejectContaminated trial = .ok () := by
        have hchecked := happended.start_checked
        unfold TrialStores.checkStart at hchecked
        rwa [if_pos ⟨hfirst, hbare.type⟩] at hchecked
      have hparents {parent : TrialRegistration} (hparent : parent ∈ stores.registry)
          (hlink : trial.parentTrialId = some parent.trialId) :
          ¬HasUnsealed stores.events parent holdoutId :=
        (rejectContaminated_ok hvalid hparent hlink hstage hholdout).mp hcheck
      cases hancestor with
      | parent hparent hlink => exact hparents hparent hlink
      | above hparent hlink hrest =>
        exact h request rfl hbare trial htrial happended.trial htime hfirst hstage holdoutId hholdout _
          hparent hlink (hparents hparent hlink) ancestor hrest

theorem noHoldoutReuse_step (hvalid : TrialStoresValid stores) (hno : NoHoldoutReuse stores)
    (action : TrialAction) :
    NoHoldoutReuse (trialStep stores action) ↔ HoldoutFreshAbove stores action := by
  cases action with
  | append request => exact noHoldoutReuse_append hvalid hno
  | register registration =>
    refine iff_of_true ?_ fun _ h => by cases h
    cases h : stores.registry.register registration with
    | error e => simpa [trialStep, h] using hno
    | ok pair =>
      obtain ⟨result, registry⟩ := pair
      simpa [trialStep, h] using noHoldoutReuse_register hvalid hno h
  | persistComparison | persistAggregate => exact iff_of_true hno fun _ h => by cases h

/-- In a run no confirmatory trial ever starts on a holdout that an ancestor has unsealed, exactly if
every start below an untouched parent is also untouched further up. -/
theorem holdouts_not_reused_iff (aggregates : Option (List TrialFamilyEvaluationAggregate))
    (actions : List TrialAction) :
    (∀ earlier, earlier <+: actions → NoHoldoutReuse (runTrials aggregates earlier)) ↔
      EveryStep trialStep (.empty aggregates) HoldoutFreshAbove actions := by
  let sound (stores : TrialStores) : Prop := TrialStoresValid stores ∧ NoHoldoutReuse stores
  have hstart : sound (.empty aggregates) := by
    refine ⟨trialStoresValid_empty, fun earlier start later hsplit => ?_⟩
    cases earlier <;> cases hsplit
  have hstep : ∀ stores action, sound stores →
      (sound (trialStep stores action) ↔ HoldoutFreshAbove stores action) := by
    rintro stores action ⟨hvalid, hno⟩
    rw [← noHoldoutReuse_step hvalid hno action]
    exact and_iff_right (trialStep_valid hvalid action)
  rw [← everyStep_iff_prefixes hstart hstep]
  have hvalid : ∀ earlier, TrialStoresValid (runTrials aggregates earlier) :=
    run_invariant trialStoresValid_empty fun _ action hvalid => trialStep_valid hvalid action
  exact forall₂_congr fun earlier _ => (and_iff_right (hvalid earlier)).symm

/-- A registration of the family `momentum`, with nothing but its stage, parent and holdout of its own. -/
def familyTrial (registeredAt : Instant) (stage : TrialStage) (parent : Option TrialRegistration)
    (holdoutId : Option Digest) (sealed_ : stage = .confirmatory → holdoutId ≠ none) :
    TrialRegistration where
  registeredAt := registeredAt
  stage := stage
  strategyFamilyId := "momentum"
  parentTrialId := parent.map (·.trialId)
  splitPlanId := 1
  primaryMetric := "net_cagr"
  secondaryMetrics := []
  executionPolicyHash := 2
  costScheduleHash := 3
  passThresholds := []
  holdoutId := holdoutId
  declaration := 4
  confirmatory_sealed := sealed_

/-- A request for an event without an outcome. -/
def bareRequest (trial : TrialRegistration) (eventType : TrialLifecycleEventType) (occurredAt : Instant)
    (holdoutId : Option Digest) : TrialAction :=
  .append ⟨trial.trialId, eventType, occurredAt, holdoutId, [], none, none, none⟩

def unsealingTrial : TrialRegistration := familyTrial 0 .confirmatory none (some 9) (by simp)

theorem bridging_unsealed : TrialStage.exploratory = .confirmatory → (none : Option Digest) ≠ none := by decide

def bridgingTrial : TrialRegistration := familyTrial 3 .exploratory (some unsealingTrial) none bridging_unsealed

def reusingTrial : TrialRegistration := familyTrial 4 .confirmatory (some bridgingTrial) (some 9) (by simp)

/-- The holdout is unsealed two generations up, with an exploratory trial in between. -/
def bridgedReuse : List TrialAction :=
  [.register unsealingTrial, bareRequest unsealingTrial .trialStarted 1 none,
    bareRequest unsealingTrial .holdoutUnsealed 2 (some 9), .register bridgingTrial, .register reusingTrial,
    bareRequest reusingTrial .trialStarted 5 none]

theorem not_all_holdouts_fresh :
    ¬∀ (aggregates : Option (List TrialFamilyEvaluationAggregate)) (actions : List TrialAction),
      NoHoldoutReuse (runTrials aggregates actions) := by
  intro h
  have hrun := h none bridgedReuse
  have hregistry : (runTrials none bridgedReuse).registry = [unsealingTrial, bridgingTrial, reusingTrial] := by
    decide +kernel
  have hevents : (runTrials none bridgedReuse).events.map (fun event =>
      (event.trialId, event.eventType, event.holdoutId)) =
        [(unsealingTrial.trialId, .trialStarted, none), (unsealingTrial.trialId, .holdoutUnsealed, some 9),
          (reusingTrial.trialId, .trialStarted, none)] := by
    decide +kernel
  obtain ⟨first, unsealed, start, hlist⟩ : ∃ first unsealed start,
      (runTrials none bridgedReuse).events = [first, unsealed, start] := by
    obtain ⟨first, unsealed, start, hlist⟩ := List.length_eq_three.mp
      (by simpa using congrArg List.length hevents)
    exact ⟨first, unsealed, start, hlist⟩
  rw [hlist] at hevents
  simp only [List.map_cons, List.map_nil, List.cons.injEq, Prod.mk.injEq, and_true] at hevents
  obtain ⟨-, ⟨hunsealedOf, hunsealedType, hunsealedHoldout⟩, hstartOf, hstartType, -⟩ := hevents
  have habove : Ancestor (runTrials none bridgedReuse).registry unsealingTrial reusingTrial := by
    rw [hregistry]
    have hbridging : bridgingTrial ∈ [unsealingTrial, bridgingTrial, reusingTrial] := by simp
    exact .above hbridging rfl (.parent (by simp) rfl)
  refine hrun [first, unsealed] start [] hlist hstartType reusingTrial ?_ hstartOf.symm rfl 9 rfl
    unsealingTrial habove ⟨unsealed, by simp, hunsealedOf, hunsealedType, hunsealedHoldout⟩
  rw [hregistry]
  simp

end IndiaSwing
