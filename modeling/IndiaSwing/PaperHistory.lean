import Mathlib.Data.List.Induction
import IndiaSwing.PaperTrades

namespace IndiaSwing

open ExceptGuards

variable {registration : PaperTradeRegistration} {events : List PaperTradeEvent}
variable {status next : PaperTradeStatus} {occurredAt : Instant} {body : PaperTradeEventBody}

/-- The last event of a chain is checked against the status of the events before it. -/
theorem historyStatus_snoc {sequence : ℕ} {prior : Option PaperTradeEvent} {event : PaperTradeEvent} :
    historyStatus registration sequence prior status (events ++ [event]) =
      (historyStatus registration sequence prior status events >>= fun current =>
        validateEvent registration (sequence + events.length) (events.getLast?.or prior) current
          event) := by
  induction events generalizing sequence prior status with
  | nil =>
    show (validateEvent registration sequence prior status event >>= fun next =>
      historyStatus registration (sequence + 1) (some event) next []) = _
    simp only [historyStatus, List.length_nil, Nat.add_zero, List.getLast?_nil, Option.none_or, ok_bind]
    exact bind_pure _
  | cons first rest ih =>
    have hlast : (first :: rest).getLast?.or prior = rest.getLast?.or (some first) := by
      rw [List.getLast?_cons]
      cases rest.getLast? <;> rfl
    have hlength : sequence + (first :: rest).length = sequence + 1 + rest.length := by
      rw [List.length_cons]
      omega
    rw [List.cons_append, historyStatus, historyStatus, bind_assoc, hlast, hlength]
    exact congrArg _ (funext fun next => ih)

theorem validateEvent_nextEvent :
    validateEvent registration (events.length + 1) events.getLast? status
        (nextEvent registration events occurredAt body) = .ok next ↔
      (∀ last ∈ events.getLast?, last.occurredAt ≤ occurredAt) ∧
        registration.decisionTime ≤ occurredAt ∧ status.terminal = false ∧
        validateEventBody registration events.getLast? status occurredAt body = .ok next := by
  unfold validateEvent
  rw [raiseIf_bind_eq_ok, raiseIf_bind_eq_ok, raiseIf_bind_eq_ok, raiseIf_bind_eq_ok,
    raiseIf_bind_eq_ok]
  simp only [nextEvent, ne_eq, not_true_eq_false, or_self, not_false_eq_true, true_and, not_exists,
    not_and, not_lt, Bool.not_eq_true]

theorem validateEventBody_entry {prior : Option PaperTradeEvent} {observedPrice : Price}
    {evidenceId : ContentId} {session : SessionDate} {lineage : Option ReplayLineage} :
    validateEventBody registration prior status occurredAt
        (.entryRecorded observedPrice evidenceId session lineage) = .ok next ↔
      status = .alerted ∧
        (registration.firstSession ≤ session ∧ session ≤ registration.expirySession) ∧
        (registration.entryLow ≤ observedPrice.val ∧ observedPrice.val ≤ registration.entryHigh) ∧
        next = .open_ := by
  simp only [validateEventBody, raiseIf_bind_eq_ok, pure_eq_ok, ne_eq, not_not, Except.ok.injEq]
  exact ⟨fun ⟨h, hs, hp, hn⟩ => ⟨h, hs, hp, hn.symm⟩, fun ⟨h, hs, hp, hn⟩ => ⟨h, hs, hp, hn.symm⟩⟩

/-- An exit after an entry is no earlier than it; on its session it is an automated stop of the same
replay, and afterwards it has evidence of its own. -/
theorem validateEventBody_exit {entry : PaperTradeEvent} {entryPrice observedPrice : Price}
    {entryEvidence evidenceId : ContentId} {entrySession session : SessionDate}
    {entryLineage lineage : Option ReplayLineage} {reasonCode : Option ExitReasonCode}
    (hentry : entry.body = .entryRecorded entryPrice entryEvidence entrySession entryLineage) :
    validateEventBody registration (some entry) status occurredAt
        (.exitRecorded observedPrice evidenceId reasonCode session lineage) = .ok next ↔
      status = .open_ ∧ entrySession ≤ session ∧
        (session = entrySession → reasonCode = some .stopExit ∧ lineage ≠ none ∧
          lineage.map (·.replayId) = entryLineage.map (·.replayId) ∧
          observedPrice.val ≤ registration.stop) ∧
        (session ≠ entrySession → evidenceId ≠ entryEvidence) ∧ next = .closed := by
  simp only [validateEventBody, Option.bind_some, hentry, PaperTradeEventBody.marketSession,
    PaperTradeEventBody.replayId, PaperTradeEventBody.lineage, PaperTradeEventBody.evidenceId,
    raiseIf_bind_eq_ok, ne_eq, not_not, Option.mem_def, Option.some.injEq, exists_eq_left', not_lt]
  refine and_congr_right fun _ => and_congr_right fun _ => ?_
  by_cases hsession : entrySession = session
  · rw [if_pos hsession, raiseIf_bind_eq_ok, not_not, pure_eq_ok, Except.ok.injEq]
    simp only [hsession, not_true_eq_false, false_imp_iff, forall_const, true_and, eq_comm]
  · rw [if_neg hsession, raiseIf_bind_eq_ok, pure_eq_ok, Except.ok.injEq]
    simp only [Ne.symm hsession, not_false_eq_true, false_imp_iff, forall_const, true_and, eq_comm]

theorem validateEventBody_expired {prior : Option PaperTradeEvent} {reasonCode : String}
    {lineage : Option ReplayLineage} :
    validateEventBody registration prior status occurredAt (.expired reasonCode lineage) = .ok next ↔
      (status = .alerted ∧ registration.entryExpiresAt ≤ occurredAt) ∧ next = .expired := by
  simp only [validateEventBody, raiseIf_bind_eq_ok, pure_eq_ok, ne_eq, not_or, not_not, not_lt,
    Except.ok.injEq]
  exact ⟨fun ⟨h, hn⟩ => ⟨h, hn.symm⟩, fun ⟨h, hn⟩ => ⟨h, hn.symm⟩⟩

/-- The chains that the rules accept, by the status they end in. -/
inductive ChainShape : List PaperTradeEvent → PaperTradeStatus → Prop
  | unrecorded : ChainShape [] .alerted
  | entered (entry : PaperTradeEvent) (isEntry : entry.body.isEntry = true) :
    ChainShape [entry] .open_
  | exited (entry exit : PaperTradeEvent) (isEntry : entry.body.isEntry = true)
    (isExit : exit.body.isExit = true) : ChainShape [entry, exit] .closed
  | expired (event : PaperTradeEvent) (isExpired : event.body.isExpired = true) :
    ChainShape [event] .expired
  | invalidated (event : PaperTradeEvent) (isInvalidated : event.body.isInvalidated = true) :
    ChainShape [event] .invalidated
  | enteredInvalidated (entry event : PaperTradeEvent) (isEntry : entry.body.isEntry = true)
    (isInvalidated : event.body.isInvalidated = true) : ChainShape [entry, event] .invalidated

/-- What the event type and the status before it make of the status after it. -/
theorem validateEventBody_status {prior : Option PaperTradeEvent}
    (h : validateEventBody registration prior status occurredAt body = .ok next) :
    (body.isEntry = true ∧ status = .alerted ∧ next = .open_) ∨
    (body.isExit = true ∧ status = .open_ ∧ next = .closed) ∨
    (body.isExpired = true ∧ status = .alerted ∧ next = .expired) ∨
    (body.isInvalidated = true ∧ next = .invalidated) := by
  cases body with
  | entryRecorded price evidence session lineage =>
    obtain ⟨hstatus, -, -, hnext⟩ := validateEventBody_entry.mp h
    exact .inl ⟨rfl, hstatus, hnext⟩
  | exitRecorded price evidence reason session lineage =>
    unfold validateEventBody at h
    obtain ⟨hstatus, h⟩ := raiseIf_bind_eq_ok.mp h
    obtain ⟨-, h⟩ := raiseIf_bind_eq_ok.mp h
    refine .inr (.inl ⟨rfl, not_not.mp hstatus, ?_⟩)
    split at h
    · exact (Except.ok.inj (raiseIf_bind_eq_ok.mp h).2).symm
    · exact (Except.ok.inj (raiseIf_bind_eq_ok.mp h).2).symm
  | expired reason lineage =>
    obtain ⟨⟨hstatus, -⟩, hnext⟩ := validateEventBody_expired.mp h
    exact .inr (.inr (.inl ⟨rfl, hstatus, hnext⟩))
  | invalidated reason => exact .inr (.inr (.inr ⟨rfl, (Except.ok.inj h).symm⟩))

theorem validateEvent_ok {sequence : ℕ} {prior : Option PaperTradeEvent} {event : PaperTradeEvent}
    (h : validateEvent registration sequence prior status event = .ok next) :
    status.terminal = false ∧
      validateEventBody registration prior status event.occurredAt event.body = .ok next := by
  unfold validateEvent at h
  obtain ⟨-, h⟩ := raiseIf_bind_eq_ok.mp h
  obtain ⟨-, h⟩ := raiseIf_bind_eq_ok.mp h
  obtain ⟨-, h⟩ := raiseIf_bind_eq_ok.mp h
  obtain ⟨-, h⟩ := raiseIf_bind_eq_ok.mp h
  obtain ⟨hlive, h⟩ := raiseIf_bind_eq_ok.mp h
  exact ⟨Bool.eq_false_iff.mpr hlive, h⟩

/-- `ChainStatus registration events status`: the rules accept the chain and leave it in `status`. -/
def ChainStatus (registration : PaperTradeRegistration) (events : List PaperTradeEvent)
    (status : PaperTradeStatus) : Prop :=
  historyStatus registration 1 none .alerted events = .ok status

theorem ChainStatus.shape (h : ChainStatus registration events status) : ChainShape events status := by
  induction events using List.reverseRecOn generalizing status with
  | nil =>
    obtain rfl := Except.ok.inj h
    exact .unrecorded
  | append_singleton before event ih =>
    unfold ChainStatus at h
    rw [historyStatus_snoc] at h
    obtain ⟨current, hbefore, hevent⟩ := bind_eq_ok.mp h
    obtain ⟨hlive, hbody⟩ := validateEvent_ok hevent
    cases ih hbefore with
    | unrecorded =>
      rcases validateEventBody_status hbody with ⟨hkind, -, rfl⟩ | ⟨-, hopen, -⟩ | ⟨hkind, -, rfl⟩ |
        ⟨hkind, rfl⟩
      · exact .entered event hkind
      · cases hopen
      · exact .expired event hkind
      · exact .invalidated event hkind
    | entered entry isEntry =>
      rcases validateEventBody_status hbody with ⟨-, halerted, -⟩ | ⟨hkind, -, rfl⟩ | ⟨-, halerted, -⟩ |
        ⟨hkind, rfl⟩
      · cases halerted
      · exact .exited entry event isEntry hkind
      · cases halerted
      · exact .enteredInvalidated entry event isEntry hkind
    | exited => cases hlive
    | expired => cases hlive
    | invalidated => cases hlive
    | enteredInvalidated => cases hlive

theorem ChainStatus.unique (h : ChainStatus registration events status)
    (h' : ChainStatus registration events next) : status = next :=
  Except.ok.inj (h.symm.trans h')

/-- The status that a summary reports is the one the rules leave the chain in. -/
theorem ChainShape.summaryStatus_eq (h : ChainShape events status) : summaryStatus events = status := by
  cases h with
  | unrecorded => rfl
  | entered entry isEntry =>
    cases hbody : entry.body <;> simp_all [summaryStatus, PaperTradeEventBody.isEntry,
      PaperTradeEventBody.isExit, PaperTradeEventBody.isExpired, PaperTradeEventBody.isInvalidated]
  | exited entry exit isEntry isExit =>
    cases hentry : entry.body <;> cases hexit : exit.body <;>
      simp_all [summaryStatus, PaperTradeEventBody.isEntry, PaperTradeEventBody.isExit,
        PaperTradeEventBody.isExpired, PaperTradeEventBody.isInvalidated]
  | expired event isExpired =>
    cases hbody : event.body <;> simp_all [summaryStatus, PaperTradeEventBody.isExpired,
      PaperTradeEventBody.isInvalidated]
  | invalidated event isInvalidated => simp [summaryStatus, isInvalidated]
  | enteredInvalidated entry event isEntry isInvalidated => simp [summaryStatus, isInvalidated]

section Ledger

variable {ledger : LocalPaperTradeLedger} {registrationId : Digest}

theorem validatePaperTradeHistory_ok : validatePaperTradeHistory registration events = .ok () ↔
    ∃ status, ChainStatus registration events status := by
  simp only [validatePaperTradeHistory, bind_eq_ok, pure_eq_ok, and_true]
  rfl

theorem getRegistration_ok (h : ledger.getRegistration registrationId = .ok registration) :
    registration ∈ ledger.registrations ∧ registration.registrationId = registrationId := by
  unfold LocalPaperTradeLedger.getRegistration at h
  split at h
  next value hfound =>
    obtain rfl := Except.ok.inj h
    exact ⟨List.mem_of_find?_eq_some hfound, by simpa using List.find?_some hfound⟩
  next => cases h

theorem listEvents_ok (h : ledger.listEvents registrationId = .ok events) :
    events = ledger.events registrationId ∧
      ∃ registration, ledger.getRegistration registrationId = .ok registration ∧
        ∃ status, ChainStatus registration events status := by
  unfold LocalPaperTradeLedger.listEvents at h
  obtain ⟨registration, hregistration, h⟩ := bind_eq_ok.mp h
  obtain ⟨_, hvalid, h⟩ := bind_eq_ok.mp h
  obtain rfl := Except.ok.inj h
  have hid := (getRegistration_ok hregistration).2
  exact ⟨by rw [hid], registration, hregistration, validatePaperTradeHistory_ok.mp hvalid⟩

theorem listEvents_of_chain (hregistration : ledger.getRegistration registrationId = .ok registration)
    (hchain : ChainStatus registration (ledger.events registrationId) status) :
    ledger.listEvents registrationId = .ok (ledger.events registrationId) := by
  have hid := (getRegistration_ok hregistration).2
  have hvalid : validatePaperTradeHistory registration (ledger.events registrationId) = .ok () :=
    validatePaperTradeHistory_ok.mpr ⟨status, hchain⟩
  simp only [LocalPaperTradeLedger.listEvents, hregistration, ok_bind, hid, hvalid, pure_eq_ok]

/-- The conditions under which a chain in a given status takes one more event. -/
structure EventFits (registration : PaperTradeRegistration) (events : List PaperTradeEvent)
    (status : PaperTradeStatus) (occurredAt : Instant) (body : PaperTradeEventBody)
    (next : PaperTradeStatus) : Prop where
  ordered : ∀ last ∈ events.getLast?, last.occurredAt ≤ occurredAt
  after_decision : registration.decisionTime ≤ occurredAt
  live : status.terminal = false
  rules : validateEventBody registration events.getLast? status occurredAt body = .ok next

theorem chainStatus_nextEvent (hchain : ChainStatus registration events status) :
    ChainStatus registration (events ++ [nextEvent registration events occurredAt body]) next ↔
      EventFits registration events status occurredAt body next := by
  unfold ChainStatus at hchain ⊢
  rw [historyStatus_snoc, hchain, ok_bind, Option.or_none, Nat.add_comm, validateEvent_nextEvent]
  exact ⟨fun ⟨ho, hd, hl, hr⟩ => ⟨ho, hd, hl, hr⟩, fun ⟨ho, hd, hl, hr⟩ => ⟨ho, hd, hl, hr⟩⟩

theorem chainStatus_first : ChainStatus registration [nextEvent registration [] occurredAt body] next ↔
    EventFits registration [] .alerted occurredAt body next := by
  have hempty : ChainStatus registration [] .alerted := rfl
  exact chainStatus_nextEvent hempty

/-- An event that fits is stored at the end of its chain. -/
theorem append_of_fits (hregistration : ledger.getRegistration registrationId = .ok registration)
    (hchain : ChainStatus registration (ledger.events registrationId) status)
    (hfits : EventFits registration (ledger.events registrationId) status occurredAt body next) :
    ledger.append registrationId occurredAt body =
      .ok (nextEvent registration (ledger.events registrationId) occurredAt body,
        ledger.storeEvent registrationId
          (nextEvent registration (ledger.events registrationId) occurredAt body)) := by
  have hvalid := validatePaperTradeHistory_ok.mpr ⟨next, (chainStatus_nextEvent hchain).mpr hfits⟩
  simp only [LocalPaperTradeLedger.append, hregistration, ok_bind,
    listEvents_of_chain hregistration hchain, hvalid, pure_eq_ok, (getRegistration_ok hregistration).2]

/-- What an append that succeeded found and stored. -/
theorem append_ok {event : PaperTradeEvent} {after : LocalPaperTradeLedger}
    (h : ledger.append registrationId occurredAt body = .ok (event, after)) :
    ∃ registration status next, ledger.getRegistration registrationId = .ok registration ∧
      ChainStatus registration (ledger.events registrationId) status ∧
      EventFits registration (ledger.events registrationId) status occurredAt body next ∧
      event = nextEvent registration (ledger.events registrationId) occurredAt body ∧
      after = ledger.storeEvent registrationId event := by
  unfold LocalPaperTradeLedger.append at h
  obtain ⟨registration, hregistration, h⟩ := bind_eq_ok.mp h
  obtain ⟨existing, hexisting, h⟩ := bind_eq_ok.mp h
  obtain ⟨_, hvalid, h⟩ := bind_eq_ok.mp h
  obtain ⟨rfl, rfl⟩ := Prod.mk.inj (Except.ok.inj h)
  obtain ⟨rfl, registration', hregistration', status, hchain⟩ := listEvents_ok hexisting
  obtain rfl := Except.ok.inj (hregistration.symm.trans hregistration')
  obtain ⟨next, hnext⟩ := validatePaperTradeHistory_ok.mp hvalid
  refine ⟨registration, status, next, hregistration, hchain,
    (chainStatus_nextEvent hchain).mp hnext, rfl, ?_⟩
  rw [(getRegistration_ok hregistration).2]

@[simp] theorem storeEvent_events (event : PaperTradeEvent) :
    (ledger.storeEvent registrationId event).events registrationId =
      ledger.events registrationId ++ [event] := Function.update_self ..

@[simp] theorem storeEvent_events_ne {other : Digest} (event : PaperTradeEvent)
    (h : other ≠ registrationId) :
    (ledger.storeEvent registrationId event).events other = ledger.events other :=
  Function.update_of_ne h ..

@[simp] theorem storeEvent_registrations (event : PaperTradeEvent) :
    (ledger.storeEvent registrationId event).registrations = ledger.registrations := rfl

@[simp] theorem storeEvent_getRegistration (event : PaperTradeEvent) (other : Digest) :
    (ledger.storeEvent registrationId event).getRegistration other = ledger.getRegistration other := rfl

end Ledger

end IndiaSwing
