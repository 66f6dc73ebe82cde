import IndiaSwing.Lib.Slices
import IndiaSwing.TrialLifecycle

namespace IndiaSwing

open ExceptGuards
open ListSplits (split_concat)

/-- The outcomes of a trial. -/
def TrialLifecycleEventType.outcome : TrialLifecycleEventType → Bool
  | trialCompleted | trialFailed | trialAborted => true
  | _ => false

section Preceded

variable {α : Type*} {P : List α → α → Prop} {values : List α} {value : α}

/-- Every member of a list stands to those before it as `P` says. -/
def Preceded (P : List α → α → Prop) (values : List α) : Prop :=
  ∀ before value after, values = before ++ value :: after → P before value

theorem preceded_nil : Preceded P ([] : List α) := by
  intro before value after h
  cases before <;> cases h

theorem preceded_concat : Preceded P (values ++ [value]) ↔ Preceded P values ∧ P values value := by
  constructor
  · intro h
    refine ⟨fun before other after heq => ?_, h values value [] rfl⟩
    apply h before other (after ++ [value])
    rw [heq, List.append_assoc, List.cons_append]
  · rintro ⟨hvalues, hvalue⟩ before other after heq
    rcases split_concat heq with ⟨rfl, rfl, -⟩ | ⟨init, heq', -⟩
    · exact hvalue
    · exact hvalues before other init heq'

theorem pairwise_concat {R : α → α → Prop} :
    (values ++ [value]).Pairwise R ↔ values.Pairwise R ∧ ∀ other ∈ values, R other value := by
  simp [List.pairwise_append]

end Preceded

/-- The shape of a chain of lifecycle events: it begins with the start, its one unsealing precedes every access to
the holdout, it has one outcome and then no holdout event, its one promotion directly follows a completion, nothing
follows an invalidation, times do not go back, and a confirmatory trial has read its holdout results before it
completes. -/
structure LifecycleShape (registration : TrialRegistration) (events : List TrialLifecycleEvent) : Prop where
  begins : ∀ first ∈ events.head?, first.eventType = .trialStarted
  unsealedOnce : events.Pairwise fun a b => ¬(a.eventType = .holdoutUnsealed ∧ b.eventType = .holdoutUnsealed)
  unsealedFirst : Preceded (fun before event => event.eventType.holdoutAccess = true →
    ∃ earlier ∈ before, earlier.eventType = .holdoutUnsealed) events
  oneOutcome : events.Pairwise fun a b => ¬(a.eventType.outcome = true ∧ b.eventType.outcome = true)
  outcomeEndsHoldout : events.Pairwise fun a b => a.eventType.outcome = true → b.eventType.holdout = false
  promotedOnce : events.Pairwise fun a b => ¬(a.eventType = .trialPromoted ∧ b.eventType = .trialPromoted)
  promotedNext : Preceded (fun before event => event.eventType = .trialPromoted →
    ∃ last ∈ before.getLast?, last.eventType = .trialCompleted) events
  invalidatedLast : events.Pairwise fun a _ => a.eventType ≠ .trialInvalidated
  times : events.Pairwise fun a b => a.occurredAt ≤ b.occurredAt
  resultsRead : registration.stage = .confirmatory → Preceded (fun before event =>
    event.eventType = .trialCompleted → ∃ earlier ∈ before, earlier.eventType = .holdoutResultsAccessed) events

/-- The ids and the metrics of a chain are those of its registration and of its own events. -/
structure LifecycleMatches (registration : TrialRegistration) (events : List TrialLifecycleEvent) : Prop where
  linked : Preceded (fun before event => event.trialId = registration.trialId ∧
    event.sequence = before.length + 1 ∧ event.previousEventId = before.getLast?.map (·.eventId)) events
  holdouts : ∀ event ∈ events, event.eventType.holdout = true →
    registration.holdoutSealed = true ∧ event.holdoutId = registration.holdoutId
  metrics : ∀ event ∈ events, event.eventType = .trialCompleted →
    ∀ metric ∈ registration.primaryMetric :: registration.secondaryMetrics, metric ∈ event.metrics.map (·.1)

/-- A chain of the language of lifecycles: of the shape, matching, with no later start and no event before the
registration. -/
structure LifecycleChain (registration : TrialRegistration) (events : List TrialLifecycleEvent) : Prop where
  shape : LifecycleShape registration events
  matching : LifecycleMatches registration events
  startsOnce : events.Pairwise fun _ b => b.eventType ≠ .trialStarted
  registered : ∀ event ∈ events, registration.registeredAt ≤ event.occurredAt

/-- The outcome that a chain ends up with. -/
def lastOutcome (events : List TrialLifecycleEvent) : Option TrialLifecycleEventType :=
  (events.filter (·.eventType.outcome)).getLast?.map (·.eventType)

/-- What the validation has seen of a chain. -/
def TrialHistory.of (events : List TrialLifecycleEvent) : TrialHistory where
  started := events.any (·.eventType = .trialStarted)
  unsealed := events.any (·.eventType = .holdoutUnsealed)
  holdoutResultsAccessed := events.any (·.eventType = .holdoutResultsAccessed)
  terminal := lastOutcome events
  promoted := events.any (·.eventType = .trialPromoted)
  invalidated := events.any (·.eventType = .trialInvalidated)
  previous := events.getLast?

/-- What the validation asks of an event after those before it. -/
structure EventAllowed (registration : TrialRegistration) (before : List TrialLifecycleEvent)
    (event : TrialLifecycleEvent) : Prop where
  linked : event.trialId = registration.trialId ∧ event.sequence = before.length + 1 ∧
    event.previousEventId = before.getLast?.map (·.eventId)
  time : ∀ last ∈ before.getLast?, last.occurredAt ≤ event.occurredAt
  registered : registration.registeredAt ≤ event.occurredAt
  invalidated : ∀ earlier ∈ before, earlier.eventType ≠ .trialInvalidated
  promoted : (∃ earlier ∈ before, earlier.eventType = .trialPromoted) → event.eventType = .trialInvalidated
  ended : lastOutcome before ≠ none → event.eventType = .trialInvalidated ∨
    (lastOutcome before = some .trialCompleted ∧ event.eventType = .trialPromoted)
  starts : event.eventType = .trialStarted ↔ before = []
  started : before ≠ [] → ∃ earlier ∈ before, earlier.eventType = .trialStarted
  unsealed : event.eventType = .holdoutUnsealed → ∀ earlier ∈ before, earlier.eventType ≠ .holdoutUnsealed
  accessed : event.eventType.holdoutAccess = true → ∃ earlier ∈ before, earlier.eventType = .holdoutUnsealed
  holdout : event.eventType.holdout = true →
    registration.holdoutSealed = true ∧ event.holdoutId = registration.holdoutId
  resultsRead : event.eventType = .trialCompleted → registration.stage = .confirmatory →
    ∃ earlier ∈ before, earlier.eventType = .holdoutResultsAccessed
  metrics : event.eventType = .trialCompleted →
    ∀ metric ∈ registration.primaryMetric :: registration.secondaryMetrics, metric ∈ event.metrics.map (·.1)
  completed : event.eventType = .trialPromoted → lastOutcome before = some .trialCompleted

section Steps

variable {registration : TrialRegistration} {before events : List TrialLifecycleEvent}
variable {event : TrialLifecycleEvent} {after : TrialHistory}

theorem lastOutcome_concat : lastOutcome (before ++ [event]) =
    if event.eventType.outcome then some event.eventType else lastOutcome before := by
  cases h : event.eventType.outcome <;> simp [lastOutcome, List.filter_append, h]

theorem lastOutcome_eq_none : lastOutcome before = none ↔ ∀ earlier ∈ before, earlier.eventType.outcome = false := by
  simp [lastOutcome]

theorem validateTrialLinks_of : validateTrialLinks registration (1 + before.length) (.of before) event = .ok () ↔
    (event.trialId = registration.trialId ∧ event.sequence = before.length + 1 ∧
      event.previousEventId = before.getLast?.map (·.eventId)) ∧
    (∀ last ∈ before.getLast?, last.occurredAt ≤ event.occurredAt) ∧
    registration.registeredAt ≤ event.occurredAt ∧
    (∀ earlier ∈ before, earlier.eventType ≠ .trialInvalidated) ∧
    ((∃ earlier ∈ before, earlier.eventType = .trialPromoted) → event.eventType = .trialInvalidated) ∧
    (lastOutcome before ≠ none → event.eventType = .trialInvalidated ∨
      (lastOutcome before = some .trialCompleted ∧ (∀ earlier ∈ before, earlier.eventType ≠ .trialPromoted) ∧
        event.eventType = .trialPromoted)) := by
  have hlast : (before.getLast?.any fun previous => decide (event.occurredAt < previous.occurredAt)) = true ↔
      ¬∀ last ∈ before.getLast?, last.occurredAt ≤ event.occurredAt := by
    cases before.getLast? with
    | none => simp
    | some last => simp
  unfold validateTrialLinks
  simp only [raiseIf_bind_eq_ok, raiseIf_eq_ok]
  simp only [TrialHistory.of, hlast, not_not, not_lt, not_and, List.any_eq_true, List.any_eq_false,
    decide_eq_true_eq, not_exists, ne_eq, Nat.add_comm 1 before.length, and_assoc]
  refine and_congr_right fun _ => and_congr_right fun _ => and_congr_right fun _ => and_congr_right fun _ =>
    and_congr_right fun _ => and_congr_right fun _ => and_congr_right fun _ => ?_
  tauto

/-- The flags after an event other than a start. -/
theorem historyOf_concat (h : event.eventType ≠ .trialStarted) :
    { TrialHistory.of before with
      unsealed := (TrialHistory.of before).unsealed || event.eventType = .holdoutUnsealed
      holdoutResultsAccessed := (TrialHistory.of before).holdoutResultsAccessed ||
        event.eventType = .holdoutResultsAccessed
      terminal := match event.eventType with
        | .trialCompleted | .trialFailed | .trialAborted => some event.eventType
        | _ => (TrialHistory.of before).terminal
      promoted := (TrialHistory.of before).promoted || event.eventType = .trialPromoted
      invalidated := (TrialHistory.of before).invalidated || event.eventType = .trialInvalidated
      previous := some event } = TrialHistory.of (before ++ [event]) := by
  unfold TrialHistory.of
  rw [lastOutcome_concat]
  cases htype : event.eventType <;> simp_all [TrialLifecycleEventType.outcome]

theorem historyOf_started (h : event.eventType = .trialStarted) :
    { TrialHistory.of before with started := true, previous := some event } = TrialHistory.of (before ++ [event]) := by
  unfold TrialHistory.of
  rw [lastOutcome_concat]
  simp [h, TrialLifecycleEventType.outcome]

theorem validateStartedTrial_of (hstarted : event.eventType ≠ .trialStarted) :
    validateStartedTrial registration (.of before) event = .ok after ↔
    ((∃ earlier ∈ before, earlier.eventType = .trialStarted) ∧
      (event.eventType = .holdoutUnsealed → ∀ earlier ∈ before, earlier.eventType ≠ .holdoutUnsealed) ∧
      (event.eventType.holdoutAccess = true → ∃ earlier ∈ before, earlier.eventType = .holdoutUnsealed) ∧
      (event.eventType.holdout = true →
        registration.holdoutSealed = true ∧ event.holdoutId = registration.holdoutId) ∧
      (event.eventType = .trialCompleted → registration.stage = .confirmatory →
        ∃ earlier ∈ before, earlier.eventType = .holdoutResultsAccessed) ∧
      (event.eventType = .trialCompleted →
        ∀ metric ∈ registration.primaryMetric :: registration.secondaryMetrics,
          metric ∈ event.metrics.map (·.1)) ∧
      (event.eventType = .trialPromoted → lastOutcome before = some .trialCompleted)) ∧
    after = .of (before ++ [event]) := by
  unfold validateStartedTrial
  simp only [raiseIf_bind_eq_ok]
  have hafter : ∀ history, history = TrialHistory.of (before ++ [event]) →
      ((pure history : Except TrialError TrialHistory) = .ok after ↔ after = .of (before ++ [event])) := by
    rintro _ rfl
    rw [pure_eq_ok, Except.ok.injEq]
    exact eq_comm
  refine (and_congr_right fun _ => and_congr_right fun _ => and_congr_right fun _ => and_congr_right fun _ =>
    and_congr_right fun _ => and_congr_right fun _ => and_congr_right fun _ =>
      hafter _ (historyOf_concat hstarted)).trans ?_
  simp only [TrialHistory.of, not_and, Bool.not_eq_false, List.any_eq_true, List.any_eq_false,
    decide_eq_true_eq, not_or, not_not, ne_eq, not_forall, not_exists, exists_prop, and_assoc]
  refine and_congr_right fun _ => and_congr_right fun _ => and_congr_right fun _ => and_congr_right fun _ =>
    and_congr_left fun _ => ?_
  refine forall₂_congr fun hcompleted _ => ?_
  simp [hcompleted]

/-- One turn of the validation, on a chain whose flags are those of its events. -/
theorem validateTrialEvent_of :
    validateTrialEvent registration (1 + before.length) (.of before) event = .ok after ↔
      EventAllowed registration before event ∧ after = .of (before ++ [event]) := by
  unfold validateTrialEvent
  rw [bind_eq_ok]
  have hunit : ∀ {P : Unit → Prop}, (∃ u, validateTrialLinks registration (1 + before.length) (.of before) event =
      .ok u ∧ P u) ↔ validateTrialLinks registration (1 + before.length) (.of before) event = .ok () ∧ P () :=
    ⟨fun ⟨_, h⟩ => h, fun h => ⟨(), h⟩⟩
  rw [hunit, validateTrialLinks_of]
  by_cases hstarted : event.eventType = .trialStarted
  · rw [if_pos hstarted, raiseIf_bind_eq_ok, historyOf_started hstarted, pure_eq_ok, Except.ok.injEq]
    constructor
    · rintro ⟨⟨hlinked, htime, hregistered, hinvalidated, hpromoted, hended⟩, hfirst, rfl⟩
      have hnil : before = [] := by
        have hsequence := not_not.mp (not_or.mp hfirst).2
        exact List.length_eq_zero_iff.mp (by omega)
      subst hnil
      refine ⟨⟨hlinked, htime, hregistered, hinvalidated, hpromoted, ?_, ?_, ?_, ?_, ?_, ?_, ?_, ?_, ?_⟩, rfl⟩
      all_goals simp [hstarted, lastOutcome, TrialLifecycleEventType.holdoutAccess, TrialLifecycleEventType.holdout]
    · rintro ⟨h, rfl⟩
      have hnil := h.starts.mp hstarted
      subst hnil
      exact ⟨⟨h.linked, h.time, h.registered, h.invalidated, h.promoted, by simp [lastOutcome]⟩,
        by simp [TrialHistory.of], rfl⟩
  · rw [if_neg hstarted, validateStartedTrial_of hstarted]
    constructor
    · rintro ⟨⟨hlinked, htime, hregistered, hinvalidated, hpromoted, hended⟩,
        ⟨hbegun, hunsealed, haccessed, hholdout, hresults, hmetrics, hcompleted⟩, rfl⟩
      refine ⟨⟨hlinked, htime, hregistered, hinvalidated, hpromoted, ?_, ?_, fun _ => hbegun, hunsealed, haccessed,
        hholdout, hresults, hmetrics, hcompleted⟩, rfl⟩
      · intro hsome
        exact (hended hsome).imp_right fun h => ⟨h.1, h.2.2⟩
      · refine ⟨fun h => absurd h hstarted, ?_⟩
        rintro rfl
        obtain ⟨earlier, hmem, -⟩ := hbegun
        cases hmem
    · rintro ⟨h, rfl⟩
      have hne : before ≠ [] := fun hnil => hstarted (h.starts.mpr hnil)
      refine ⟨⟨h.linked, h.time, h.registered, h.invalidated, h.promoted, ?_⟩,
        ⟨h.started hne, h.unsealed, h.accessed, h.holdout, h.resultsRead, h.metrics, h.completed⟩, rfl⟩
      intro hsome
      refine (h.ended hsome).imp_right fun hcompleted => ⟨hcompleted.1, ?_, hcompleted.2⟩
      intro earlier hmem hpromoted
      have hinvalidated := h.promoted ⟨earlier, hmem, hpromoted⟩
      rw [hcompleted.2] at hinvalidated
      cases hinvalidated

/-- The validation accepts an extended chain exactly when it accepts the chain and allows the event. -/
theorem validateTrialHistory_of : validateTrialHistory registration events = .ok after ↔
    Preceded (EventAllowed registration) events ∧ after = .of events := by
  unfold validateTrialHistory
  induction events using List.reverseRecOn generalizing after with
  | nil =>
    simp only [validateTrialEvents, Except.ok.injEq, preceded_nil, true_and]
    exact eq_comm
  | append_singleton events event ih =>
    rw [validateTrialEvents_concat, preceded_concat]
    constructor
    · rintro ⟨middle, hevents, hevent⟩
      obtain ⟨hallowed, rfl⟩ := ih.mp hevents
      obtain ⟨hlast, rfl⟩ := validateTrialEvent_of.mp hevent
      exact ⟨⟨hallowed, hlast⟩, rfl⟩
    · rintro ⟨⟨hallowed, hlast⟩, rfl⟩
      exact ⟨.of events, ih.mpr ⟨hallowed, rfl⟩, validateTrialEvent_of.mpr ⟨hlast, rfl⟩⟩

theorem lastOutcome_ne_none : lastOutcome before ≠ none ↔ ∃ earlier ∈ before, earlier.eventType.outcome = true := by
  rw [Ne, lastOutcome_eq_none]
  simp

/-- A promotion comes directly after the completion that it promotes. -/
theorem completed_of_promoted (hall : Preceded (EventAllowed registration) before)
    (h : EventAllowed registration before event) (hpromoted : event.eventType = .trialPromoted) :
    ∃ last ∈ before.getLast?, last.eventType = .trialCompleted := by
  have hcompleted := h.completed hpromoted
  rcases List.eq_nil_or_concat before with rfl | ⟨init, last, rfl⟩
  · cases hcompleted
  · rw [List.concat_eq_append] at *
    refine ⟨last, by simp, ?_⟩
    have hlast := (preceded_concat.mp hall).2
    rw [lastOutcome_concat] at hcompleted
    split at hcompleted
    · exact Option.some.inj hcompleted
    · have hended := hlast.ended (by rw [hcompleted]; exact Option.some_ne_none _)
      rcases hended with hinvalidated | ⟨-, hearlier⟩
      · exact absurd hinvalidated (h.invalidated last (by simp))
      · have hinvalidated := h.promoted ⟨last, by simp, hearlier⟩
        rw [hpromoted] at hinvalidated
        cases hinvalidated

theorem chain_concat (hchain : LifecycleChain registration before)
    (hall : Preceded (EventAllowed registration) before) (h : EventAllowed registration before event) :
    LifecycleChain registration (before ++ [event]) := by
  have hended : ∀ earlier ∈ before, earlier.eventType.outcome = true →
      event.eventType = .trialInvalidated ∨ event.eventType = .trialPromoted := by
    intro earlier hmem houtcome
    exact (h.ended (lastOutcome_ne_none.mpr ⟨earlier, hmem, houtcome⟩)).imp_right And.right
  obtain ⟨hshape, hmatching, hstarts, hregistered⟩ := hchain
  refine ⟨⟨?_, ?_, ?_, ?_, ?_, ?_, ?_, ?_, ?_, ?_⟩, ⟨?_, ?_, ?_⟩, ?_, ?_⟩
  · cases before with
    | nil =>
      intro first hfirst
      obtain rfl : event = first := by simpa using hfirst
      exact h.starts.mpr rfl
    | cons head rest => exact hshape.begins
  · exact pairwise_concat.mpr ⟨hshape.unsealedOnce, fun earlier hmem both => h.unsealed both.2 earlier hmem both.1⟩
  · exact preceded_concat.mpr ⟨hshape.unsealedFirst, h.accessed⟩
  · refine pairwise_concat.mpr ⟨hshape.oneOutcome, fun earlier hmem both => ?_⟩
    rcases hended earlier hmem both.1 with htype | htype
    · rw [htype] at both
      exact absurd both.2 (by decide)
    · rw [htype] at both
      exact absurd both.2 (by decide)
  · refine pairwise_concat.mpr ⟨hshape.outcomeEndsHoldout, fun earlier hmem houtcome => ?_⟩
    rcases hended earlier hmem houtcome with htype | htype
    · rw [htype]
      rfl
    · rw [htype]
      rfl
  · refine pairwise_concat.mpr ⟨hshape.promotedOnce, fun earlier hmem both => ?_⟩
    have hinvalidated := h.promoted ⟨earlier, hmem, both.1⟩
    rw [both.2] at hinvalidated
    cases hinvalidated
  · exact preceded_concat.mpr ⟨hshape.promotedNext, completed_of_promoted hall h⟩
  · exact pairwise_concat.mpr ⟨hshape.invalidatedLast, h.invalidated⟩
  · refine pairwise_concat.mpr ⟨hshape.times, fun earlier hmem => ?_⟩
    rcases List.eq_nil_or_concat before with rfl | ⟨init, last, rfl⟩
    · cases hmem
    · rw [List.concat_eq_append] at *
      have hlast : last.occurredAt ≤ event.occurredAt := h.time last (by simp)
      rcases List.mem_append.mp hmem with hin | hin
      · exact ((pairwise_concat.mp hshape.times).2 earlier hin).trans hlast
      · rw [List.mem_singleton.mp hin]
        exact hlast
  · exact fun hconfirmatory => preceded_concat.mpr
      ⟨hshape.resultsRead hconfirmatory, fun hcompleted => h.resultsRead hcompleted hconfirmatory⟩
  · exact preceded_concat.mpr ⟨hmatching.linked, h.linked⟩
  · exact List.forall_mem_append.mpr ⟨hmatching.holdouts, by simpa using h.holdout⟩
  · exact List.forall_mem_append.mpr ⟨hmatching.metrics, by simpa using h.metrics⟩
  · refine pairwise_concat.mpr ⟨hstarts, fun earlier hmem hstarted => ?_⟩
    rw [h.starts.mp hstarted] at hmem
    cases hmem
  · exact List.forall_mem_append.mpr ⟨hregistered, by simpa using h.registered⟩

theorem chain_init (h : LifecycleChain registration (before ++ [event])) : LifecycleChain registration before := by
  obtain ⟨hshape, hmatching, hstarts, hregistered⟩ := h
  refine ⟨⟨?_, (pairwise_concat.mp hshape.unsealedOnce).1, (preceded_concat.mp hshape.unsealedFirst).1,
    (pairwise_concat.mp hshape.oneOutcome).1, (pairwise_concat.mp hshape.outcomeEndsHoldout).1,
    (pairwise_concat.mp hshape.promotedOnce).1, (preceded_concat.mp hshape.promotedNext).1,
    (pairwise_concat.mp hshape.invalidatedLast).1, (pairwise_concat.mp hshape.times).1,
    fun hconfirmatory => (preceded_concat.mp (hshape.resultsRead hconfirmatory)).1⟩,
    ⟨(preceded_concat.mp hmatching.linked).1, (List.forall_mem_append.mp hmatching.holdouts).1,
      (List.forall_mem_append.mp hmatching.metrics).1⟩,
    (pairwise_concat.mp hstarts).1, (List.forall_mem_append.mp hregistered).1⟩
  cases before with
  | nil => exact fun first hfirst => (by cases hfirst)
  | cons head rest => exact hshape.begins

theorem allowed_of_chain (h : LifecycleChain registration (before ++ [event])) :
    EventAllowed registration before event := by
  obtain ⟨hshape, hmatching, hstarts, hregistered⟩ := h
  have hlater : ∀ earlier ∈ before, event.eventType ≠ .trialStarted := (pairwise_concat.mp hstarts).2
  have hnext := (preceded_concat.mp hshape.promotedNext).2
  have hcompleted : event.eventType = .trialPromoted → lastOutcome before = some .trialCompleted := by
    intro hpromoted
    obtain ⟨last, hlast, htype⟩ := hnext hpromoted
    obtain ⟨init, rfl⟩ := List.getLast?_eq_some_iff.mp hlast
    rw [lastOutcome_concat, htype]
    rfl
  have hended : (∃ earlier ∈ before, earlier.eventType.outcome = true) →
      event.eventType = .trialInvalidated ∨ event.eventType = .trialPromoted := by
    rintro ⟨earlier, hmem, houtcome⟩
    have hone := (pairwise_concat.mp hshape.oneOutcome).2 earlier hmem
    have hholdout := (pairwise_concat.mp hshape.outcomeEndsHoldout).2 earlier hmem houtcome
    have hstarted := hlater earlier hmem
    cases htype : event.eventType <;>
      simp_all [TrialLifecycleEventType.outcome, TrialLifecycleEventType.holdout, TrialLifecycleEventType.holdoutAccess]
  have hbegins : ∀ first ∈ before.head?, first.eventType = .trialStarted := by
    cases before with
    | nil => exact fun first hfirst => (by cases hfirst)
    | cons head rest => exact hshape.begins
  refine ⟨(preceded_concat.mp hmatching.linked).2, ?_, ?_, (pairwise_concat.mp hshape.invalidatedLast).2, ?_, ?_, ?_,
    ?_, ?_, (preceded_concat.mp hshape.unsealedFirst).2, ?_, ?_, ?_, hcompleted⟩
  · exact fun last hlast => (pairwise_concat.mp hshape.times).2 last (List.mem_of_getLast? hlast)
  · exact hregistered event (by simp)
  · rintro ⟨earlier, hmem, hpromoted⟩
    obtain ⟨front, back, rfl⟩ := List.append_of_mem hmem
    obtain ⟨last, hlast, htype⟩ := (preceded_concat.mp hshape.promotedNext).1 front earlier back rfl hpromoted
    have houtcome : ∃ earlier' ∈ front ++ earlier :: back, earlier'.eventType.outcome = true :=
      ⟨last, List.mem_append_left _ (List.mem_of_getLast? hlast), by rw [htype]; rfl⟩
    refine (hended houtcome).resolve_right fun htwice => ?_
    exact (pairwise_concat.mp hshape.promotedOnce).2 earlier hmem ⟨hpromoted, htwice⟩
  · intro hsome
    exact (hended (lastOutcome_ne_none.mp hsome)).imp_right fun hpromoted => ⟨hcompleted hpromoted, hpromoted⟩
  · constructor
    · intro hstarted
      cases before with
      | nil => rfl
      | cons head rest => exact absurd hstarted (hlater head List.mem_cons_self)
    · rintro rfl
      exact hshape.begins event rfl
  · intro hne
    obtain ⟨head, rest, rfl⟩ := List.exists_cons_of_ne_nil hne
    exact ⟨head, List.mem_cons_self, hbegins head rfl⟩
  · exact fun hunsealed earlier hmem htype =>
      (pairwise_concat.mp hshape.unsealedOnce).2 earlier hmem ⟨htype, hunsealed⟩
  · exact hmatching.holdouts event (by simp)
  · exact fun hcompleted hconfirmatory => (preceded_concat.mp (hshape.resultsRead hconfirmatory)).2 hcompleted
  · exact hmatching.metrics event (by simp)

/-- The language of lifecycles is what the validation accepts. -/
theorem lifecycleChain_iff : LifecycleChain registration events ↔ Preceded (EventAllowed registration) events := by
  induction events using List.reverseRecOn with
  | nil =>
    refine ⟨fun _ => preceded_nil, fun _ => ⟨⟨?_, .nil, preceded_nil, .nil, .nil, .nil, preceded_nil, .nil, .nil,
      fun _ => preceded_nil⟩, ⟨preceded_nil, ?_, ?_⟩, .nil, ?_⟩⟩
    all_goals simp
  | append_singleton events event ih =>
    rw [preceded_concat]
    constructor
    · intro h
      exact ⟨ih.mp (chain_init h), allowed_of_chain h⟩
    · rintro ⟨hall, hlast⟩
      exact chain_concat (ih.mpr hall) hall hlast

theorem validateTrialHistory_accepts : (∃ history, validateTrialHistory registration events = .ok history) ↔
    LifecycleChain registration events := by
  rw [lifecycleChain_iff]
  constructor
  · rintro ⟨history, h⟩
    exact (validateTrialHistory_of.mp h).1
  · intro h
    exact ⟨.of events, validateTrialHistory_of.mpr ⟨h, rfl⟩⟩

end Steps

end IndiaSwing
