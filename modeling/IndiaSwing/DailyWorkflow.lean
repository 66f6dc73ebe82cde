import IndiaSwing.Lib.ExceptGuards
import IndiaSwing.ContentIds
import IndiaSwing.Timestamps
import IndiaSwing.PaperTrades

namespace IndiaSwing

open ExceptGuards

/-- The exceptions of the daily workflow package, and one that a caller's clock raises. -/
inductive DailyPaperWorkflowError
  | error (message : String)
  | executionError (message : String)
  | rejected (reasonCode : String)
  | retryExhausted
  | foreign
  deriving DecidableEq, Repr

inductive DailyPaperWorkflowOutputStatus
  | complete
  | noActivePositions
  deriving DecidableEq, Repr

inductive DailyPaperWorkflowEventStatus
  | started
  | completed
  | rejected
  | failed
  deriving DecidableEq, Repr

@[ext] structure PublishedManifestPin where
  objectName : String
  generation : ℕ
  sha256 : Digest
  generation_pos : 0 < generation
  deriving Repr

instance : DecidableEq PublishedManifestPin := fun _ _ => decidable_of_iff _ PublishedManifestPin.ext_iff.symm

def PublishedManifestPin.pinId (pin : PublishedManifestPin) : ContentId :=
  .ofFields "pin" [.text pin.objectName, .int pin.generation, .digest pin.sha256]

@[ext] structure DailyPaperWorkflowSpec where
  runId : Digest
  derivedEvidenceId : Digest
  stateBucket : String
  portfolioGenesisArtifactId : Option Digest
  previousRolloverId : Option Digest
  dailyLossLimit : Price
  cumulativeLossLimit : Price
  maximumAttempts : ℕ
  lineage : previousRolloverId ≠ none → portfolioGenesisArtifactId ≠ none
  attempts_pos : 1 ≤ maximumAttempts
  attempts_le : maximumAttempts ≤ 10

instance : DecidableEq DailyPaperWorkflowSpec := fun _ _ => decidable_of_iff _ DailyPaperWorkflowSpec.ext_iff.symm

def DailyPaperWorkflowSpec.workflowId (spec : DailyPaperWorkflowSpec) : ContentId :=
  .ofFields "daily-paper-workflow-spec/v2"
    [.digest spec.runId, .digest spec.derivedEvidenceId, .text spec.stateBucket,
      .option .digest spec.portfolioGenesisArtifactId, .option .digest spec.previousRolloverId,
      .decimal spec.dailyLossLimit, .decimal spec.cumulativeLossLimit, .int spec.maximumAttempts]

/-- What a portfolio run leaves: every id of it when the run is complete, none when there was no
active position. -/
structure DailyPaperWorkflowOutput where
  status : DailyPaperWorkflowOutputStatus
  preparationId : Option Digest
  batchId : Option Digest
  stateId : Option Digest
  outcomeManifestPins : List PublishedManifestPin
  portfolioManifestPin : Option PublishedManifestPin
  telegramReceiptId : Digest
  rollover : Option (Digest × Digest × PublishedManifestPin)
  pins_nodup : outcomeManifestPins.Nodup
  complete_lineage : status = .complete → preparationId ≠ none ∧ batchId ≠ none ∧ stateId ≠ none ∧
    outcomeManifestPins ≠ [] ∧ portfolioManifestPin ≠ none
  empty_lineage : status = .noActivePositions → preparationId = none ∧ batchId = none ∧
    stateId = none ∧ outcomeManifestPins = [] ∧ portfolioManifestPin = none ∧ rollover = none
  deriving DecidableEq

def DailyPaperWorkflowOutput.outputId (output : DailyPaperWorkflowOutput) : ContentId :=
  .ofFields "daily-paper-workflow-output/v2"
    [.text (match output.status with
        | .complete => "COMPLETE"
        | .noActivePositions => "NO_ACTIVE_POSITIONS"),
      .option .digest output.preparationId, .option .digest output.batchId,
      .option .digest output.stateId, .list (output.outcomeManifestPins.map (·.pinId)),
      .option (·.pinId) output.portfolioManifestPin, .digest output.telegramReceiptId,
      .option (fun (request, rollover, pin) => .list [.digest request, .digest rollover, pin.pinId])
        output.rollover]

/-- The record of a finished workflow. -/
structure DailyPaperWorkflowTerminal where
  workflowId : ContentId
  output : DailyPaperWorkflowOutput
  startedAt : Instant
  completedAt : Instant
  forward : startedAt ≤ completedAt
  deriving DecidableEq

namespace DailyPaperWorkflowTerminal

def terminalId (terminal : DailyPaperWorkflowTerminal) : ContentId :=
  .ofFields "daily-paper-workflow-terminal/v1"
    [terminal.workflowId, terminal.output.outputId, .int terminal.startedAt, .int terminal.completedAt]

def create (workflowId : ContentId) (output : DailyPaperWorkflowOutput)
    (startedAt completedAt : Instant) : Except DailyPaperWorkflowError DailyPaperWorkflowTerminal :=
  if h : startedAt ≤ completedAt then .ok ⟨workflowId, output, startedAt, completedAt, h⟩
  else .error (.error "workflow terminal time moved backwards")

/-- The status of the event that closes the attempt of a terminal. -/
def expectedStatus (terminal : DailyPaperWorkflowTerminal) : DailyPaperWorkflowEventStatus :=
  match terminal.output.status with
  | .complete => .completed
  | .noActivePositions => .rejected

def expectedReason (terminal : DailyPaperWorkflowTerminal) : Option String :=
  match terminal.output.status with
  | .complete => none
  | .noActivePositions => some "NO_ACTIVE_POSITIONS"

def expectedTerminalId (terminal : DailyPaperWorkflowTerminal) : Option ContentId :=
  match terminal.output.status with
  | .complete => some terminal.terminalId
  | .noActivePositions => none

/-- The check of the last event's status, terminal id and reason against the terminal. -/
def Closes (terminal : DailyPaperWorkflowTerminal) (status : DailyPaperWorkflowEventStatus)
    (reasonCode : Option String) (terminalId : Option ContentId) : Prop :=
  status = terminal.expectedStatus ∧
    (terminal.expectedStatus = .completed → terminalId = some terminal.terminalId) ∧
    (terminal.expectedStatus = .rejected → reasonCode = some "NO_ACTIVE_POSITIONS")

instance (terminal : DailyPaperWorkflowTerminal) (status : DailyPaperWorkflowEventStatus)
    (reasonCode : Option String) (terminalId : Option ContentId) :
    Decidable (terminal.Closes status reasonCode terminalId) :=
  inferInstanceAs (Decidable (_ ∧ (_ → _) ∧ (_ → _)))

/-- What the runner and its repair append for a terminal closes it. -/
theorem closes_expected (terminal : DailyPaperWorkflowTerminal) :
    terminal.Closes terminal.expectedStatus terminal.expectedReason terminal.expectedTerminalId := by
  unfold Closes expectedStatus expectedReason expectedTerminalId
  cases terminal.output.status <;> simp

theorem expectedStatus_ne_started (terminal : DailyPaperWorkflowTerminal) :
    terminal.expectedStatus ≠ .started := by
  unfold expectedStatus
  cases terminal.output.status <;> simp

end DailyPaperWorkflowTerminal

/-- One record of the append-only attempt history. -/
structure DailyPaperWorkflowEvent where
  workflowId : ContentId
  sequence : ℕ
  previousEventId : Option ContentId
  status : DailyPaperWorkflowEventStatus
  occurredAt : Instant
  reasonCode : Option String
  terminalId : Option ContentId
  deriving DecidableEq, Repr

/-- A reason code is a capital letter and up to 63 capitals, digits and underscores. -/
def reasonCodeValid (code : String) : Bool :=
  match code.toList with
  | [] => false
  | first :: rest => first.isUpper && rest.length ≤ 63 &&
      rest.all fun c => c.isUpper || c.isDigit || c = '_'

namespace DailyPaperWorkflowEvent

def eventId (event : DailyPaperWorkflowEvent) : ContentId :=
  .ofFields "daily-paper-workflow-event/v1"
    [event.workflowId, .int event.sequence, .option id event.previousEventId,
      .text (match event.status with
        | .started => "STARTED"
        | .completed => "COMPLETED"
        | .rejected => "REJECTED"
        | .failed => "FAILED"),
      .int event.occurredAt, .option .text event.reasonCode, .option id event.terminalId]

/-- The constructor's checks of an event. -/
def create (event : DailyPaperWorkflowEvent) :
    Except DailyPaperWorkflowError DailyPaperWorkflowEvent := do
  raiseIf (event.sequence = 0) (.error "workflow event sequence is invalid")
  raiseIf (event.reasonCode.any (!reasonCodeValid ·)) (.error "workflow reason code is invalid")
  match event.status with
  | .started =>
    raiseIf (event.reasonCode ≠ none ∨ event.terminalId ≠ none)
      (.error "started workflow event has terminal fields")
  | .completed =>
    raiseIf (event.reasonCode ≠ none ∨ event.terminalId = none)
      (.error "completed workflow event lacks terminal")
  | .rejected | .failed =>
    raiseIf (event.reasonCode = none ∨ event.terminalId ≠ none)
      (.error "failed workflow event lacks a reason")
  return event

/-- The event closes an attempt the way the terminal says. -/
def Agrees (event : DailyPaperWorkflowEvent) (terminal : DailyPaperWorkflowTerminal) : Prop :=
  terminal.Closes event.status event.reasonCode event.terminalId

instance (event : DailyPaperWorkflowEvent) (terminal : DailyPaperWorkflowTerminal) :
    Decidable (event.Agrees terminal) :=
  inferInstanceAs (Decidable (terminal.Closes _ _ _))

end DailyPaperWorkflowEvent

end IndiaSwing
