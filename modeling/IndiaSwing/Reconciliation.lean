import IndiaSwing.Lib.PartialWrites
import IndiaSwing.PaperHistory
import IndiaSwing.PaperOutcomes

namespace IndiaSwing

open ExceptGuards (raiseIf)
open PartialWrites

def PaperError.reconciliation (message : String) : PaperError :=
  ⟨.paperOutcomeReconciliationError, message⟩

inductive ReconciliationStatus
  | noChange
  | reconciled
  deriving DecidableEq, Repr

structure ReconciliationResult where
  registrationId : Digest
  replayId : ContentId
  status : ReconciliationStatus
  events : List PaperTradeEvent
  appendedEventIds : List ContentId
  deriving DecidableEq, Repr

/-- `_EXIT_REASON_CODE` -/
def exitReasonCode : PaperOutcomeExitReason → ExitReasonCode
  | .stop => .stopExit
  | .target => .targetExit
  | .time => .timeExit

/-- An event that a replay implies, before the ledger numbers and chains it. -/
structure ExpectedEvent where
  occurredAt : Instant
  body : PaperTradeEventBody
  deriving DecidableEq, Repr

section Expected

variable (replay : PaperOutcomeReplay)

def replayLineage : ReplayLineage where
  replayId := replay.replayId
  outcomePolicyId := replay.policyId
  instrumentBindingId := replay.bindingId
  calendarSnapshotId := .digest replay.calendarSnapshotId

def entryExpectation (entry : PaperOutcomeFill) : ExpectedEvent where
  occurredAt := entry.observedAt
  body := .entryRecorded entry.price entry.evidenceId entry.marketSession (some (replayLineage replay))

def exitExpectation (exit : PaperOutcomeFill) (reason : PaperOutcomeExitReason) : ExpectedEvent where
  occurredAt := exit.observedAt
  body := .exitRecorded exit.price exit.evidenceId (some (exitReasonCode reason)) exit.marketSession
    (some (replayLineage replay))

def expiredExpectation : ExpectedEvent where
  occurredAt := replay.asOf
  body := .expired "ENTRY_WINDOW_EXPIRED_UNFILLED" (some (replayLineage replay))

/-- `_expected_events`. A replay carries the fills of its status, so the last case stands for
`WAITING` and `BLOCKED`. -/
def expectedEvents : Except PaperError (List ExpectedEvent) :=
  match replay.status, replay.entry, replay.exit with
  | .expired, _, _ => .ok [expiredExpectation replay]
  | .open_, some entry, _ => .ok [entryExpectation replay entry]
  | .closed, some entry, some exit =>
    match exit.reason with
    | none => .error (.reconciliation "closed replay exit reason is invalid")
    | some reason => .ok [entryExpectation replay entry, exitExpectation replay exit reason]
  | _, _, _ => .error (.reconciliation "replay status cannot be reconciled")

end Expected

/-- The event without the replay it names. -/
def PaperTradeEventBody.withoutReplayId : PaperTradeEventBody → PaperTradeEventBody
  | .entryRecorded price evidence session lineage =>
    .entryRecorded price evidence session (lineage.map ({ · with replayId := .absent }))
  | .exitRecorded price evidence reason session lineage =>
    .exitRecorded price evidence reason session (lineage.map ({ · with replayId := .absent }))
  | .expired reason lineage => .expired reason (lineage.map ({ · with replayId := .absent }))
  | .invalidated reason => .invalidated reason

/-- `_matches`: a stored entry keeps the replay that first caused it. -/
def EventMatches (existing : PaperTradeEvent) (want : ExpectedEvent) : Prop :=
  existing.occurredAt = want.occurredAt ∧
    if want.body.isEntry then existing.body.withoutReplayId = want.body.withoutReplayId
    else existing.body = want.body

instance (existing : PaperTradeEvent) (want : ExpectedEvent) : Decidable (EventMatches existing want) :=
  inferInstanceAs (Decidable (_ ∧ _))

/-- The stored chain is a prefix of the expected one. -/
def ChainMatches (existing : List PaperTradeEvent) (expected : List ExpectedEvent) : Prop :=
  existing.length ≤ expected.length ∧ ∀ pair ∈ existing.zip expected, EventMatches pair.1 pair.2

instance (existing : List PaperTradeEvent) (expected : List ExpectedEvent) :
    Decidable (ChainMatches existing expected) := inferInstanceAs (Decidable (_ ∧ _))

def appendExpected (registrationId : Digest) (want : ExpectedEvent) :
    Writes LocalPaperTradeLedger PaperError PaperTradeEvent :=
  .mapError (fun _ => .reconciliation "paper ledger append failed")
    (.update fun ledger => ledger.append registrationId want.occurredAt want.body)

section Reconcile

variable (replay : PaperOutcomeReplay)

/-- `WAITING` and `BLOCKED` never write. -/
def reconcileUndecided : Writes LocalPaperTradeLedger PaperError ReconciliationResult := do
  let existing ← Writes.read fun ledger =>
    (ledger.listEvents replay.registrationId).mapError
      fun _ => .reconciliation "replay registration could not be loaded"
  return ⟨replay.registrationId, replay.replayId, .noChange, existing, []⟩

/-- The events are appended one by one: the ones before a rejected event stay. -/
def reconcileDecided : Writes LocalPaperTradeLedger PaperError ReconciliationResult := do
  let registration ← Writes.read fun ledger =>
    (ledger.getRegistration replay.registrationId).mapError
      fun _ => .reconciliation "replay registration could not be loaded"
  let expected ← Writes.lift (expectedEvents replay)
  let existing ← Writes.read fun ledger => ledger.listEvents registration.registrationId
  let _ ← Writes.lift (raiseIf (¬ChainMatches existing expected)
    (.reconciliation "ledger event chain does not match this replay"))
  let appended ← Writes.forItems (appendExpected registration.registrationId)
    (expected.drop existing.length)
  return {
    registrationId := registration.registrationId
    replayId := replay.replayId
    status := if appended = [] then .noChange else .reconciled
    events := existing ++ appended
    appendedEventIds := appended.map (·.eventId) }

def reconcilePaperOutcome : Writes LocalPaperTradeLedger PaperError ReconciliationResult :=
  if replay.status = .waiting ∨ replay.status = .blocked then reconcileUndecided replay
  else reconcileDecided replay

end Reconcile

end IndiaSwing

namespace IndiaSwing

open ExceptGuards
open PartialWrites PartialWrites.Writes

variable {ledger after : LocalPaperTradeLedger} {replay : PaperOutcomeReplay}
variable {registration : PaperTradeRegistration} {status : PaperTradeStatus}

/-- The chains that replays imply, by the status of the replay. -/
inductive ExpectedShape (replay : PaperOutcomeReplay) : List ExpectedEvent → Prop
  | expired (status_eq : replay.status = .expired) : ExpectedShape replay [expiredExpectation replay]
  | opened (status_eq : replay.status = .open_) (entry : PaperOutcomeFill)
    (entry_eq : replay.entry = some entry) : ExpectedShape replay [entryExpectation replay entry]
  | closed (status_eq : replay.status = .closed) (entry exit : PaperOutcomeFill)
    (reason : PaperOutcomeExitReason) (entry_eq : replay.entry = some entry)
    (exit_eq : replay.exit = some exit) (reason_eq : exit.reason = some reason) :
    ExpectedShape replay [entryExpectation replay entry, exitExpectation replay exit reason]

theorem expectedEvents_ok {expected : List ExpectedEvent} (h : expectedEvents replay = .ok expected) :
    ExpectedShape replay expected := by
  unfold expectedEvents at h
  split at h
  next hstatus =>
    obtain rfl := Except.ok.inj h
    exact .expired hstatus
  next entry hstatus hentry =>
    obtain rfl := Except.ok.inj h
    exact .opened hstatus entry hentry
  next entry exit hstatus hentry hexit =>
    split at h
    next => cases h
    next reason hreason =>
      obtain rfl := Except.ok.inj h
      exact .closed hstatus entry exit reason hentry hexit hreason
  next => cases h

theorem ExpectedShape.expectedEvents_eq {expected : List ExpectedEvent}
    (h : ExpectedShape replay expected) : expectedEvents replay = .ok expected := by
  cases h with
  | expired status_eq => simp [expectedEvents, status_eq]
  | opened status_eq entry entry_eq => simp [expectedEvents, status_eq, entry_eq]
  | closed status_eq entry exit reason entry_eq exit_eq reason_eq =>
    simp [expectedEvents, status_eq, entry_eq, exit_eq, reason_eq]

theorem ExpectedShape.decided {expected : List ExpectedEvent} (h : ExpectedShape replay expected) :
    ¬(replay.status = .waiting ∨ replay.status = .blocked) := by
  cases h with
  | expired status_eq => simp [status_eq]
  | opened status_eq => simp [status_eq]
  | closed status_eq => simp [status_eq]

section Append

variable {registrationId : Digest} {next : PaperTradeStatus}

theorem appendExpected_of_fits (want : ExpectedEvent)
    (hregistration : ledger.getRegistration registrationId = .ok registration)
    (hchain : ChainStatus registration (ledger.events registrationId) status)
    (hfits : EventFits registration (ledger.events registrationId) status want.occurredAt want.body next) :
    appendExpected registrationId want ledger =
      (.ok (nextEvent registration (ledger.events registrationId) want.occurredAt want.body),
        ledger.storeEvent registrationId
          (nextEvent registration (ledger.events registrationId) want.occurredAt want.body)) :=
  mapError_run_ok.mpr (update_run_ok.mpr (append_of_fits hregistration hchain hfits))

theorem appendExpected_of_not_fits (want : ExpectedEvent)
    (hregistration : ledger.getRegistration registrationId = .ok registration)
    (hchain : ChainStatus registration (ledger.events registrationId) status)
    (hfits : ∀ next, ¬EventFits registration (ledger.events registrationId) status want.occurredAt
      want.body next) :
    appendExpected registrationId want ledger =
      (.error (.reconciliation "paper ledger append failed"), ledger) := by
  cases happend : ledger.append registrationId want.occurredAt want.body with
  | error e => exact mapError_run_error.mpr ⟨e, update_of_error happend, rfl⟩
  | ok pair =>
    obtain ⟨registration', status', next, hregistration', hchain', hfits', -⟩ := append_ok happend
    obtain rfl := Except.ok.inj (hregistration.symm.trans hregistration')
    obtain rfl := hchain.unique hchain'
    exact absurd hfits' (hfits next)

variable {want : ExpectedEvent}

theorem appendExpected_ok {event : PaperTradeEvent}
    (h : appendExpected registrationId want ledger = (.ok event, after)) :
    ledger.append registrationId want.occurredAt want.body = .ok (event, after) :=
  update_run_ok.mp (mapError_run_ok.mp h)

theorem appendExpected_error {e : PaperError}
    (h : appendExpected registrationId want ledger = (.error e, after)) : after = ledger := by
  cases happend : ledger.append registrationId want.occurredAt want.body with
  | error e' =>
    obtain ⟨e'', h, -⟩ := mapError_run_error.mp h
    rw [update_of_error happend] at h
    exact (Prod.mk.inj h).2.symm
  | ok pair =>
    obtain ⟨e'', h, -⟩ := mapError_run_error.mp h
    rw [update_run_ok.mpr happend] at h
    cases (Prod.mk.inj h).1

end Append

/-- A decided replay that the stored chain contradicts writes nothing. -/
theorem reconcileDecided_mismatch {expected : List ExpectedEvent}
    (hregistration : ledger.getRegistration replay.registrationId = .ok registration)
    (hexpected : expectedEvents replay = .ok expected)
    (hchain : ChainStatus registration (ledger.events replay.registrationId) status)
    (hmatch : ¬ChainMatches (ledger.events replay.registrationId) expected) :
    reconcileDecided replay ledger =
      (.error (.reconciliation "ledger event chain does not match this replay"), ledger) := by
  have hid := (getRegistration_ok hregistration).2
  unfold reconcileDecided
  rw [bind_of_ok (t := ledger) (a := registration) (by rw [read_run, hregistration]; rfl)]
  rw [bind_of_ok (t := ledger) (a := expected) (by rw [lift_run, hexpected])]
  rw [bind_of_ok (t := ledger) (a := ledger.events replay.registrationId)
    (by rw [read_run, hid, listEvents_of_chain hregistration hchain])]
  exact bind_of_error (by rw [lift_run, raiseIf_pos hmatch])

/-- The result of appending the missing part of the expected chain. -/
def reconciledResult (replay : PaperOutcomeReplay) (existing appended : List PaperTradeEvent) :
    ReconciliationResult where
  registrationId := replay.registrationId
  replayId := replay.replayId
  status := if appended = [] then .noChange else .reconciled
  events := existing ++ appended
  appendedEventIds := appended.map (·.eventId)

/-- A decided replay whose chain is a prefix of the expected one appends the rest of it. -/
theorem reconcileDecided_match {expected : List ExpectedEvent}
    (hregistration : ledger.getRegistration replay.registrationId = .ok registration)
    (hexpected : expectedEvents replay = .ok expected)
    (hchain : ChainStatus registration (ledger.events replay.registrationId) status)
    (hmatch : ChainMatches (ledger.events replay.registrationId) expected) :
    reconcileDecided replay ledger =
      (forItems (appendExpected replay.registrationId)
          (expected.drop (ledger.events replay.registrationId).length) >>= fun appended =>
        pure (reconciledResult replay (ledger.events replay.registrationId) appended)) ledger := by
  have hid := (getRegistration_ok hregistration).2
  unfold reconcileDecided
  rw [bind_of_ok (t := ledger) (a := registration) (by rw [read_run, hregistration]; rfl)]
  rw [bind_of_ok (t := ledger) (a := expected) (by rw [lift_run, hexpected])]
  rw [bind_of_ok (t := ledger) (a := ledger.events replay.registrationId)
    (by rw [read_run, hid, listEvents_of_chain hregistration hchain])]
  rw [bind_of_ok (t := ledger) (a := ()) (by rw [lift_run, raiseIf_neg (not_not.mpr hmatch)]), hid]
  rfl

/-- What a decided replay went through before its appends. -/
theorem reconcileDecided_reached {x : Except PaperError ReconciliationResult}
    (h : reconcileDecided replay ledger = (x, after)) :
    (after = ledger ∧ ∃ e, x = .error e) ∨
    ∃ registration status expected,
      ledger.getRegistration replay.registrationId = .ok registration ∧
      ChainStatus registration (ledger.events replay.registrationId) status ∧
      ExpectedShape replay expected ∧ ChainMatches (ledger.events replay.registrationId) expected := by
  cases hregistration : ledger.getRegistration replay.registrationId with
  | error e =>
    refine .inl ?_
    unfold reconcileDecided at h
    rw [bind_of_error (t := ledger) (by rw [read_run, hregistration]; rfl)] at h
    obtain ⟨rfl, rfl⟩ := Prod.mk.inj h
    exact ⟨rfl, _, rfl⟩
  | ok registration =>
    have hid := (getRegistration_ok hregistration).2
    cases hexpected : expectedEvents replay with
    | error e =>
      refine .inl ?_
      unfold reconcileDecided at h
      rw [bind_of_ok (t := ledger) (a := registration) (by rw [read_run, hregistration]; rfl),
        bind_of_error (t := ledger) (by rw [lift_run, hexpected])] at h
      obtain ⟨rfl, rfl⟩ := Prod.mk.inj h
      exact ⟨rfl, _, rfl⟩
    | ok expected =>
      cases hexisting : ledger.listEvents registration.registrationId with
      | error e =>
        refine .inl ?_
        unfold reconcileDecided at h
        rw [bind_of_ok (t := ledger) (a := registration) (by rw [read_run, hregistration]; rfl),
          bind_of_ok (t := ledger) (a := expected) (by rw [lift_run, hexpected]),
          bind_of_error (t := ledger) (by rw [read_run, hexisting])] at h
        obtain ⟨rfl, rfl⟩ := Prod.mk.inj h
        exact ⟨rfl, _, rfl⟩
      | ok existing =>
        rw [hid] at hexisting
        obtain ⟨rfl, registration', hregistration', status, hchain⟩ := listEvents_ok hexisting
        obtain rfl := Except.ok.inj (hregistration.symm.trans hregistration')
        by_cases hmatch : ChainMatches (ledger.events replay.registrationId) expected
        · exact .inr ⟨registration, status, expected, rfl, hchain, expectedEvents_ok hexpected, hmatch⟩
        · rw [reconcileDecided_mismatch hregistration hexpected hchain hmatch] at h
          obtain ⟨rfl, rfl⟩ := Prod.mk.inj h
          exact .inl ⟨rfl, _, rfl⟩

end IndiaSwing
