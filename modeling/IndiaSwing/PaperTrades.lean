import Mathlib.Algebra.Order.Ring.Rat
import IndiaSwing.Lib.DecimalContext
import IndiaSwing.Lib.ExceptGuards
import IndiaSwing.ContentIds
import IndiaSwing.Timestamps
import Mathlib.Data.List.Sort

namespace IndiaSwing

open ExceptGuards (raiseIf)

/-- The exception classes of the paper-trade and paper-outcome packages. -/
inductive PaperErrorClass
  | valueError
  | paperTradeError
  | paperTradeIntegrityError
  | paperTradeConflict
  | paperOutcomeError
  | paperOutcomeIntegrityError
  | paperOutcomeReconciliationError
  | paperOutcomeOperationalError
  | paperOutcomeOperationalConflict
  | paperPortfolioError
  | paperPortfolioNotFound
  | paperPortfolioConflict
  | paperPortfolioPreparationError
  deriving DecidableEq, Repr

structure PaperError where
  class_ : PaperErrorClass
  message : String
  deriving DecidableEq, Repr

def PaperError.integrity (message : String) : PaperError := ⟨.paperTradeIntegrityError, message⟩

def PaperError.conflict (message : String) : PaperError := ⟨.paperTradeConflict, message⟩

/-- A SHA-256 that was computed outside the model, as the number its digits write. -/
abbrev Digest := ℕ

/-- A positive finite `Decimal`. -/
abbrev Price := {value : ℚ // 0 < value}

@[ext] structure PaperTradeRegistration where
  registrationId : Digest
  alertId : Digest
  symbol : String
  quantity : ℕ
  decisionTime : Instant
  earliestEntryAt : Instant
  entryExpiresAt : Instant
  entryLow : ℚ
  entryHigh : ℚ
  stop : ℚ
  target : ℚ
  maxHoldingSessions : ℕ
  estimatedRoundTripCost : ℚ
  quantity_pos : 0 < quantity
  window : earliestEntryAt < entryExpiresAt
  decision_lt : decisionTime < entryExpiresAt
  stop_pos : 0 < stop
  stop_lt : stop < entryLow
  low_le_high : entryLow ≤ entryHigh
  high_lt : entryHigh < target
  holding_pos : 0 < maxHoldingSessions
  cost_nonneg : 0 ≤ estimatedRoundTripCost
  deriving Repr

instance : DecidableEq PaperTradeRegistration := fun _ _ => decidable_of_iff _ PaperTradeRegistration.ext_iff.symm

namespace PaperTradeRegistration

variable (registration : PaperTradeRegistration)

def firstSession : SessionDate := registration.earliestEntryAt.istDate

def expirySession : SessionDate := registration.entryExpiresAt.istDate

end PaperTradeRegistration

inductive PaperTradeStatus
  | alerted
  | open_
  | closed
  | expired
  | invalidated
  deriving DecidableEq, Repr

def PaperTradeStatus.terminal : PaperTradeStatus → Bool
  | .alerted | .open_ => false
  | .closed | .expired | .invalidated => true

inductive ExitReasonCode
  | stopExit
  | targetExit
  | timeExit
  deriving DecidableEq, Repr

def ExitReasonCode.value : ExitReasonCode → String
  | .stopExit => "STOP_EXIT"
  | .targetExit => "TARGET_EXIT"
  | .timeExit => "TIME_EXIT"

/-- The automated replay lineage of an event: fully present or fully absent. -/
structure ReplayLineage where
  replayId : ContentId
  outcomePolicyId : ContentId
  instrumentBindingId : ContentId
  calendarSnapshotId : ContentId
  deriving DecidableEq, Repr

/-- The event types with the fields that the constructor lets each of them carry. -/
inductive PaperTradeEventBody
  | entryRecorded (observedPrice : Price) (evidenceId : ContentId) (marketSession : SessionDate)
      (lineage : Option ReplayLineage)
  | exitRecorded (observedPrice : Price) (evidenceId : ContentId)
      (reasonCode : Option ExitReasonCode) (marketSession : SessionDate)
      (lineage : Option ReplayLineage)
  | expired (reasonCode : String) (lineage : Option ReplayLineage)
  | invalidated (reasonCode : String)
  deriving DecidableEq, Repr

namespace PaperTradeEventBody

def lineage : PaperTradeEventBody → Option ReplayLineage
  | entryRecorded _ _ _ lineage => lineage
  | exitRecorded _ _ _ _ lineage => lineage
  | expired _ lineage => lineage
  | invalidated _ => none

def replayId (body : PaperTradeEventBody) : Option ContentId := body.lineage.map (·.replayId)

def marketSession : PaperTradeEventBody → Option SessionDate
  | entryRecorded _ _ session _ => some session
  | exitRecorded _ _ _ session _ => some session
  | expired _ _ | invalidated _ => none

def evidenceId : PaperTradeEventBody → Option ContentId
  | entryRecorded _ evidence _ _ => some evidence
  | exitRecorded _ evidence _ _ _ => some evidence
  | expired _ _ | invalidated _ => none

def observedPrice : PaperTradeEventBody → Option Price
  | entryRecorded price _ _ _ => some price
  | exitRecorded price _ _ _ _ => some price
  | expired _ _ | invalidated _ => none

def reasonCode : PaperTradeEventBody → Option String
  | entryRecorded _ _ _ _ => none
  | exitRecorded _ _ reason _ _ => reason.map (·.value)
  | expired reason _ => some reason
  | invalidated reason => some reason

def eventType : PaperTradeEventBody → String
  | entryRecorded _ _ _ _ => "ENTRY_RECORDED"
  | exitRecorded _ _ _ _ _ => "EXIT_RECORDED"
  | expired _ _ => "EXPIRED"
  | invalidated _ => "INVALIDATED"

def isEntry : PaperTradeEventBody → Bool
  | entryRecorded _ _ _ _ => true
  | _ => false

def isExit : PaperTradeEventBody → Bool
  | exitRecorded _ _ _ _ _ => true
  | _ => false

def isExpired : PaperTradeEventBody → Bool
  | expired _ _ => true
  | _ => false

def isInvalidated : PaperTradeEventBody → Bool
  | invalidated _ => true
  | _ => false

end PaperTradeEventBody

structure PaperTradeEvent where
  registrationId : Digest
  alertId : Digest
  sequence : ℕ
  previousEventId : Option ContentId
  occurredAt : Instant
  body : PaperTradeEventBody
  sequence_pos : 0 < sequence
  predecessor : sequence = 1 ↔ previousEventId = none
  deriving DecidableEq, Repr

def PaperTradeEvent.eventId (event : PaperTradeEvent) : ContentId :=
  .ofFields "paper-trade-event/v2"
    [.digest event.registrationId, .digest event.alertId, .int event.sequence,
      .option id event.previousEventId, .text event.body.eventType, .int event.occurredAt,
      .option (fun price => .decimal price.val) event.body.observedPrice,
      .option id event.body.evidenceId, .option .text event.body.reasonCode,
      .option .int event.body.marketSession,
      .option (fun lineage => .list [lineage.replayId, lineage.outcomePolicyId,
        lineage.instrumentBindingId, lineage.calendarSnapshotId]) event.body.lineage]

section History

variable (registration : PaperTradeRegistration)

/-- The rules on one event type, given the status and the event before it. -/
def validateEventBody (prior : Option PaperTradeEvent) (status : PaperTradeStatus)
    (occurredAt : Instant) : PaperTradeEventBody → Except PaperError PaperTradeStatus
  | .entryRecorded observedPrice _ marketSession _ => do
    raiseIf (status ≠ .alerted) (.conflict "paper entry can be recorded only once")
    raiseIf (¬(registration.firstSession ≤ marketSession ∧
        marketSession ≤ registration.expirySession))
      (.conflict "paper entry lies outside its validity window")
    raiseIf (¬(registration.entryLow ≤ observedPrice.val ∧
        observedPrice.val ≤ registration.entryHigh))
      (.conflict "paper entry lies outside its planned range")
    return .open_
  | .exitRecorded observedPrice evidenceId reasonCode marketSession lineage => do
    raiseIf (status ≠ .open_) (.conflict "paper exit requires a recorded entry")
    let priorSession := prior.bind (·.body.marketSession)
    let priorReplayId := prior.bind (·.body.replayId)
    let priorEvidenceId := prior.bind (·.body.evidenceId)
    raiseIf (∃ session ∈ priorSession, marketSession < session)
      (.conflict "paper exit session precedes its entry session")
    if priorSession = some marketSession then
      raiseIf (¬(reasonCode = some .stopExit ∧ lineage ≠ none ∧
          lineage.map (·.replayId) = priorReplayId ∧ observedPrice.val ≤ registration.stop))
        (.conflict "same-session paper exit requires a matching automated stop")
    else
      raiseIf (some evidenceId = priorEvidenceId)
        (.conflict "paper exit requires later, independently identified evidence")
    return .closed
  | .expired _ _ => do
    raiseIf (status ≠ .alerted ∨ occurredAt < registration.entryExpiresAt)
      (.conflict "paper alert cannot expire at this point")
    return .expired
  | .invalidated _ => return .invalidated

def validateEvent (sequence : ℕ) (prior : Option PaperTradeEvent) (status : PaperTradeStatus)
    (event : PaperTradeEvent) : Except PaperError PaperTradeStatus := do
  raiseIf (event.registrationId ≠ registration.registrationId ∨ event.alertId ≠ registration.alertId)
    (.integrity "paper event belongs to another registration")
  raiseIf (event.sequence ≠ sequence ∨ event.previousEventId ≠ prior.map (·.eventId))
    (.integrity "paper event predecessor chain is broken")
  raiseIf (∃ previous ∈ prior, event.occurredAt < previous.occurredAt)
    (.integrity "paper event time moved backwards")
  raiseIf (event.occurredAt < registration.decisionTime)
    (.conflict "paper event predates its alert")
  raiseIf (status.terminal = true) (.conflict "no event may follow a terminal paper outcome")
  validateEventBody registration prior status event.occurredAt event.body

/-- The loop of `validate_paper_trade_history`, which ends with the status of the chain. -/
def historyStatus : ℕ → Option PaperTradeEvent → PaperTradeStatus → List PaperTradeEvent →
    Except PaperError PaperTradeStatus
  | _, _, status, [] => .ok status
  | sequence, prior, status, event :: rest => do
    let next ← validateEvent registration sequence prior status event
    historyStatus (sequence + 1) (some event) next rest

def validatePaperTradeHistory (events : List PaperTradeEvent) : Except PaperError Unit := do
  let _ ← historyStatus registration 1 none .alerted events
  return ()

end History

/-- The create-once registrations and the append-only event chain of each of them. -/
structure LocalPaperTradeLedger where
  registrations : List PaperTradeRegistration
  events : Digest → List PaperTradeEvent

structure PaperTradeSummary where
  registrationId : Digest
  alertId : Digest
  status : PaperTradeStatus
  entryPrice : Option ℚ
  exitPrice : Option ℚ
  grossPnl : Option ℚ
  estimatedNetPnl : Option ℚ
  eventIds : List ContentId
  deriving DecidableEq, Repr

/-- The event that follows a chain. -/
def nextEvent (registration : PaperTradeRegistration) (existing : List PaperTradeEvent)
    (occurredAt : Instant) (body : PaperTradeEventBody) : PaperTradeEvent where
  registrationId := registration.registrationId
  alertId := registration.alertId
  sequence := existing.length + 1
  previousEventId := existing.getLast?.map (·.eventId)
  occurredAt := occurredAt
  body := body
  sequence_pos := Nat.succ_pos _
  predecessor := by
    rw [Nat.add_eq_right, List.length_eq_zero_iff, Option.map_eq_none_iff, List.getLast?_eq_none_iff]

def summaryStatus (events : List PaperTradeEvent) : PaperTradeStatus :=
  if events.any (·.body.isInvalidated) then .invalidated
  else if events.any (·.body.isExpired) then .expired
  else if events.any (·.body.isExit) then .closed
  else if events.any (·.body.isEntry) then .open_
  else .alerted

def recordedPrice (kind : PaperTradeEventBody → Bool) (events : List PaperTradeEvent) : Option ℚ :=
  ((events.find? fun event => kind event.body).bind (·.body.observedPrice)).map (·.val)

namespace LocalPaperTradeLedger

variable (ledger : LocalPaperTradeLedger)

def empty : LocalPaperTradeLedger := ⟨[], fun _ => []⟩

def getRegistration (registrationId : Digest) : Except PaperError PaperTradeRegistration :=
  match ledger.registrations.find? (·.registrationId = registrationId) with
  | some registration => .ok registration
  | none => .error (.integrity "paper registration was not found safely")

def registerValue (value : PaperTradeRegistration) :
    Except PaperError (PaperTradeRegistration × LocalPaperTradeLedger) :=
  match ledger.registrations.find? (·.registrationId = value.registrationId) with
  | some stored =>
    if stored ≠ value then .error (.conflict "alert already has another paper registration")
    else .ok (stored, ledger)
  | none => .ok (value, { ledger with registrations := ledger.registrations ++ [value] })

/-- `list_registrations`: the registration files in the order of their names. -/
def listRegistrations : List PaperTradeRegistration :=
  ledger.registrations.insertionSort fun a b => a.registrationId ≤ b.registrationId

def listEvents (registrationId : Digest) : Except PaperError (List PaperTradeEvent) := do
  let registration ← ledger.getRegistration registrationId
  validatePaperTradeHistory registration (ledger.events registration.registrationId)
  return ledger.events registration.registrationId

def storeEvent (registrationId : Digest) (event : PaperTradeEvent) : LocalPaperTradeLedger :=
  { ledger with
    events := Function.update ledger.events registrationId (ledger.events registrationId ++ [event]) }

def append (registrationId : Digest) (occurredAt : Instant) (body : PaperTradeEventBody) :
    Except PaperError (PaperTradeEvent × LocalPaperTradeLedger) := do
  let registration ← ledger.getRegistration registrationId
  let existing ← ledger.listEvents registrationId
  let event := nextEvent registration existing occurredAt body
  validatePaperTradeHistory registration (existing ++ [event])
  return (event, ledger.storeEvent registration.registrationId event)

def summary (ctx : DecimalContext) (registrationId : Digest) : Except PaperError PaperTradeSummary := do
  let registration ← ledger.getRegistration registrationId
  let events ← ledger.listEvents registrationId
  let entryPrice := recordedPrice (·.isEntry) events
  let exitPrice := recordedPrice (·.isExit) events
  let grossPnl := entryPrice.bind fun entry => exitPrice.map fun exit =>
    ctx.mul (ctx.sub exit entry) registration.quantity
  return {
    registrationId := registration.registrationId
    alertId := registration.alertId
    status := summaryStatus events
    entryPrice, exitPrice, grossPnl
    estimatedNetPnl := grossPnl.map fun gross => ctx.sub gross registration.estimatedRoundTripCost
    eventIds := events.map (·.eventId) }

end LocalPaperTradeLedger

end IndiaSwing
