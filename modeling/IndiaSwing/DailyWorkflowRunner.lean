import IndiaSwing.DailyWorkflowStore

namespace IndiaSwing

open ExceptGuards

/-- How the worker's `execute` ends. An output of another type counts as `raised`. -/
inductive WorkerResult
  | output (value : DailyPaperWorkflowOutput)
  | rejected (reasonCode : String)
  | raised

/-- How a clock answers. -/
inductive ClockReading
  | time (value : Instant)
  | invalid
  | raises
  deriving DecidableEq, Repr

def clockValue : ClockReading → Except DailyPaperWorkflowError Instant
  | .time value => .ok value
  | .invalid => .error (.executionError "workflow clock returned an invalid time")
  | .raises => .error .foreign

/-- What the surroundings answer in one step of a call: the clock, the clock once more for the end
of a failed attempt, the worker, and the fate of a write. -/
structure StepInput where
  clock : ClockReading
  endClock : ClockReading
  worker : WorkerResult
  fate : WriteFate

def attemptEndTime (endClock : ClockReading) (startedAt : Instant) : Instant :=
  match clockValue endClock with
  | .error _ => startedAt
  | .ok value => max value startedAt

/-- The places where the runner appends an event. -/
inductive WorkflowAppend
  | start (startedAt : Instant)
  | repair (terminal : DailyPaperWorkflowTerminal) (occurredAt : Instant)
  | complete (terminal : DailyPaperWorkflowTerminal)
  | reject (occurredAt : Instant) (reasonCode : String)
  | fail (occurredAt : Instant)

namespace WorkflowAppend

def status : WorkflowAppend → DailyPaperWorkflowEventStatus
  | start _ => .started
  | repair terminal _ | complete terminal => terminal.expectedStatus
  | reject _ _ => .rejected
  | fail _ => .failed

def occurredAt : WorkflowAppend → Instant
  | start startedAt => startedAt
  | repair _ occurredAt | reject occurredAt _ | fail occurredAt => occurredAt
  | complete terminal => terminal.completedAt

def reasonCode : WorkflowAppend → Option String
  | start _ => none
  | repair terminal _ | complete terminal => terminal.expectedReason
  | reject _ reasonCode => some reasonCode
  | fail _ => some "WORKFLOW_EXECUTION_FAILED"

def terminalId : WorkflowAppend → Option ContentId
  | repair terminal _ | complete terminal => terminal.expectedTerminalId
  | start _ | reject _ _ | fail _ => none

/-- The event that goes at the end of a chain. -/
def toEvent (event : WorkflowAppend) (workflowId : ContentId) (events : List DailyPaperWorkflowEvent) :
    DailyPaperWorkflowEvent :=
  ⟨workflowId, events.length + 1, events.getLast?.map (·.eventId), event.status, event.occurredAt,
    event.reasonCode, event.terminalId⟩

/-- Only a worker's own rejection can carry a reason that the event refuses. -/
theorem create_toEvent {event : WorkflowAppend} {workflowId : ContentId}
    {events : List DailyPaperWorkflowEvent} (h : event.reasonCode.all reasonCodeValid = true) :
    DailyPaperWorkflowEvent.create (event.toEvent workflowId events) =
      .ok (event.toEvent workflowId events) := by
  have hsequence : ¬events.length + 1 = 0 := Nat.succ_ne_zero _
  have hreason : ¬event.reasonCode.any (!reasonCodeValid ·) = true := by
    cases hcode : event.reasonCode with
    | none => simp
    | some code => simpa [hcode] using h
  unfold DailyPaperWorkflowEvent.create toEvent
  rw [raiseIf_neg hsequence, ok_bind, raiseIf_neg hreason, ok_bind]
  cases event with
  | start | reject | fail => simp [status, reasonCode, terminalId, pure_eq_ok]
  | repair terminal | complete terminal =>
    cases houtput : terminal.output.status <;>
      simp [status, reasonCode, terminalId, houtput, pure_eq_ok,
        DailyPaperWorkflowTerminal.expectedStatus, DailyPaperWorkflowTerminal.expectedReason,
        DailyPaperWorkflowTerminal.expectedTerminalId]

end WorkflowAppend

/-- Where a call of `run_daily_paper_workflow` stands: before which of its store steps, or in the
worker, or at its end. -/
inductive CallPhase
  | putSpec
  | readTerminal
  | listRepair (terminal : DailyPaperWorkflowTerminal)
  | listAttempts
  | append (event : WorkflowAppend)
  | confirm (event : WorkflowAppend)
  | work (startedAt : Instant)
  | putTerminal (terminal : DailyPaperWorkflowTerminal)
  | finished (result : Except DailyPaperWorkflowError DailyPaperWorkflowTerminal)

namespace CallPhase

def raised (e : DailyPaperWorkflowError) : CallPhase := finished (.error e)

end CallPhase

/-- The attempt that a failed `append_event` leaves: only inside the `try` it goes to the general
`except` branch. -/
def WorkflowAppend.onError (event : WorkflowAppend) (input : StepInput)
    (e : DailyPaperWorkflowError) : CallPhase :=
  match event with
  | complete terminal => .append (.fail (attemptEndTime input.endClock terminal.startedAt))
  | start _ | repair _ _ | reject _ _ | fail _ => .raised e

/-- What follows an event that is stored. -/
def WorkflowAppend.onStored : WorkflowAppend → CallPhase
  | start startedAt => .work startedAt
  | repair terminal _ | complete terminal => .finished (.ok terminal)
  | reject _ reasonCode => .raised (.rejected reasonCode)
  | fail _ => .raised (.executionError "daily paper workflow execution failed safely")

section Runner

variable (spec : DailyPaperWorkflowSpec) (input : StepInput)

/-- The branch of a call that finds the terminal. -/
def repairOrReturn (terminal : DailyPaperWorkflowTerminal) (events : List DailyPaperWorkflowEvent) :
    CallPhase :=
  match events.getLast? with
  | none => .raised (.executionError "workflow terminal lacks an attempt")
  | some last =>
    if last.status = .started then
      match clockValue input.clock with
      | .error e => .raised e
      | .ok occurredAt => .append (.repair terminal occurredAt)
    else if last.Agrees terminal then .finished (.ok terminal)
    else .raised (.executionError "workflow terminal attempt status differs")

/-- The branch of a call that finds no terminal. -/
def startOrExhaust (events : List DailyPaperWorkflowEvent) : CallPhase :=
  if attempts events ≥ spec.maximumAttempts then .raised .retryExhausted
  else
    match clockValue input.clock with
    | .error e => .raised e
    | .ok startedAt => .append (.start startedAt)

/-- The worker's end, up to the publication of the terminal. -/
def afterWork (startedAt : Instant) : CallPhase :=
  let failed := CallPhase.append (.fail (attemptEndTime input.endClock startedAt))
  match input.worker with
  | .raised => failed
  | .rejected reasonCode => .append (.reject (attemptEndTime input.endClock startedAt) reasonCode)
  | .output output =>
    match clockValue input.clock with
    | .error _ => failed
    | .ok completedAt =>
      match DailyPaperWorkflowTerminal.create spec.workflowId output startedAt completedAt with
      | .error _ => failed
      | .ok terminal => .putTerminal terminal

/-- One step of a call. -/
def callStep (store : LocalDailyPaperWorkflowStore) :
    CallPhase → CallPhase × LocalDailyPaperWorkflowStore
  | .putSpec =>
    match store.putSpec input.fate spec with
    | (.error e, store) => (.raised e, store)
    | (.ok stored, store) =>
      if stored ≠ spec then (.raised (.executionError "stored workflow spec differs"), store)
      else (.readTerminal, store)
  | .readTerminal =>
    match store.terminal with
    | none => (.listAttempts, store)
    | some terminal =>
      if terminal.workflowId ≠ spec.workflowId then
        (.raised (.executionError "stored workflow terminal differs"), store)
      else (.listRepair terminal, store)
  | .listRepair terminal =>
    match store.listEvents spec.workflowId with
    | .error e => (.raised e, store)
    | .ok events => (repairOrReturn input terminal events, store)
  | .listAttempts =>
    match store.listEvents spec.workflowId with
    | .error e => (.raised e, store)
    | .ok events => (startOrExhaust spec input events, store)
  | .append event =>
    match store.writeEvent spec.workflowId input.fate event.status event.occurredAt event.reasonCode
        event.terminalId with
    | (.error e, store) => (event.onError input e, store)
    | (.ok (), store) => (.confirm event, store)
  | .confirm event =>
    match store.listEvents spec.workflowId with
    | .error e => (event.onError input e, store)
    | .ok _ => (event.onStored, store)
  | .work startedAt => (afterWork spec input startedAt, store)
  | .putTerminal terminal =>
    match store.putTerminal input.fate terminal with
    | (.error _, store) => (.append (.fail (attemptEndTime input.endClock terminal.startedAt)), store)
    | (.ok stored, store) => (.append (.complete stored), store)
  | .finished result => (.finished result, store)

end Runner

end IndiaSwing
