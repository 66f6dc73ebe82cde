import Mathlib.Data.List.Nodup
import Mathlib.Logic.Function.Basic
import IndiaSwing.Lib.ActionRuns
import IndiaSwing.DailyWorkflowRunner

namespace IndiaSwing

open ActionRuns

/-- Any number of calls of one specification on one store. A call that is killed is one that takes
no further step. `starts` lists the calls that recorded a `STARTED` event and `executions` those that
ran the worker. -/
structure WorkflowSystem where
  store : LocalDailyPaperWorkflowStore
  calls : ℕ → CallPhase
  starts : List ℕ
  executions : List ℕ

namespace WorkflowSystem

def initial : WorkflowSystem := ⟨.empty, fun _ => .putSpec, [], []⟩

end WorkflowSystem

/-- One step of one of the calls. -/
structure WorkflowAction where
  call : ℕ
  input : StepInput

def CallPhase.inWork : CallPhase → Bool
  | work _ => true
  | _ => false

/-- A step of the system: the chosen call takes its next step. -/
def systemStep (spec : DailyPaperWorkflowSpec) (system : WorkflowSystem) (action : WorkflowAction) :
    WorkflowSystem :=
  let phase := system.calls action.call
  let (next, store) := callStep spec action.input system.store phase
  { store
    calls := Function.update system.calls action.call next
    starts := if attempts system.store.events < attempts store.events then
      system.starts ++ [action.call] else system.starts
    executions := if phase.inWork then system.executions ++ [action.call] else system.executions }

@[simp] theorem systemStep_store (spec : DailyPaperWorkflowSpec) (system : WorkflowSystem)
    (action : WorkflowAction) : (systemStep spec system action).store =
      (callStep spec action.input system.store (system.calls action.call)).2 := rfl

@[simp] theorem systemStep_calls (spec : DailyPaperWorkflowSpec) (system : WorkflowSystem)
    (action : WorkflowAction) : (systemStep spec system action).calls =
      Function.update system.calls action.call
        (callStep spec action.input system.store (system.calls action.call)).1 := rfl

def runSystem (spec : DailyPaperWorkflowSpec) (actions : List WorkflowAction) : WorkflowSystem :=
  run (systemStep spec) .initial actions

section Step

variable {spec : DailyPaperWorkflowSpec} {input : StepInput} {store : LocalDailyPaperWorkflowStore}
variable {event : WorkflowAppend} {phase : CallPhase}

/-- An event's write is let through: the chain is readable, it is open for a closing event and at
rest for a `STARTED`, the event accepts its reason code, and the file gets there. -/
def Accepted (spec : DailyPaperWorkflowSpec) (store : LocalDailyPaperWorkflowStore)
    (event : WorkflowAppend) (fate : WriteFate) : Prop :=
  Readable spec.workflowId store ∧ (Dangling store.events ↔ event.status ≠ .started) ∧
    event.reasonCode.all reasonCodeValid = true ∧ fate ≠ .lost

def LocalDailyPaperWorkflowStore.appended (store : LocalDailyPaperWorkflowStore)
    (spec : DailyPaperWorkflowSpec) (event : WorkflowAppend) : LocalDailyPaperWorkflowStore :=
  { store with events := store.events ++ [event.toEvent spec.workflowId store.events] }

theorem nextEvent_append (hread : Readable spec.workflowId store)
    (hdangling : Dangling store.events ↔ event.status ≠ .started)
    (hreason : event.reasonCode.all reasonCodeValid = true) :
    store.nextEvent spec.workflowId event.status event.occurredAt event.reasonCode event.terminalId =
      .ok (event.toEvent spec.workflowId store.events) :=
  nextEvent_of hread hdangling (WorkflowAppend.create_toEvent hreason)

theorem nextEvent_append_inv {stored : DailyPaperWorkflowEvent}
    (h : store.nextEvent spec.workflowId event.status event.occurredAt event.reasonCode
      event.terminalId = .ok stored) :
    Readable spec.workflowId store ∧ (Dangling store.events ↔ event.status ≠ .started) ∧
      event.reasonCode.all reasonCodeValid = true ∧
      stored = event.toEvent spec.workflowId store.events := by
  obtain ⟨hread, hdangling, hreason, hstored⟩ := nextEvent_eq_ok h
  exact ⟨hread, hdangling, hreason, hstored⟩

/-- What one step of a call does to the store. -/
theorem callStep_store (spec : DailyPaperWorkflowSpec) (input : StepInput)
    (store : LocalDailyPaperWorkflowStore) (phase : CallPhase) :
    (callStep spec input store phase).2 = store ∨
    (phase = .putSpec ∧ store.spec = none ∧
      (callStep spec input store phase).2 = { store with spec := some spec }) ∨
    (∃ terminal, phase = .putTerminal terminal ∧ store.terminal = none ∧
      (callStep spec input store phase).2 = { store with terminal := some terminal }) ∨
    (∃ event, phase = .append event ∧ Accepted spec store event input.fate ∧
      (callStep spec input store phase).2 = store.appended spec event) := by
  cases phase with
  | putSpec =>
    cases hspec : store.spec with
    | none => cases hfate : input.fate <;>
        simp [callStep, LocalDailyPaperWorkflowStore.putSpec, hspec, hfate]
    | some stored =>
      left
      by_cases hsame : stored = spec <;>
        simp [callStep, LocalDailyPaperWorkflowStore.putSpec, hspec, hsame]
  | readTerminal =>
    left
    cases hterminal : store.terminal with
    | none => simp [callStep, hterminal]
    | some terminal =>
      by_cases hid : terminal.workflowId = spec.workflowId <;> simp [callStep, hterminal, hid]
  | listRepair terminal =>
    left
    cases hread : store.listEvents spec.workflowId <;> simp [callStep, hread]
  | listAttempts =>
    left
    cases hread : store.listEvents spec.workflowId <;> simp [callStep, hread]
  | confirm event =>
    left
    cases hread : store.listEvents spec.workflowId <;> simp [callStep, hread]
  | work startedAt => exact .inl rfl
  | finished result => exact .inl rfl
  | putTerminal terminal =>
    cases hterminal : store.terminal with
    | none => cases hfate : input.fate <;>
        simp [callStep, LocalDailyPaperWorkflowStore.putTerminal, hterminal, hfate]
    | some stored =>
      left
      by_cases hsame : stored = terminal <;>
        simp [callStep, LocalDailyPaperWorkflowStore.putTerminal, hterminal, hsame]
  | append event =>
    cases hnext : store.nextEvent spec.workflowId event.status event.occurredAt event.reasonCode
      event.terminalId with
    | error e =>
      left
      simp [callStep, LocalDailyPaperWorkflowStore.writeEvent, hnext]
    | ok stored =>
      obtain ⟨hread, hdangling, hreason, rfl⟩ := nextEvent_append_inv hnext
      cases hfate : input.fate with
      | lost =>
        left
        simp [callStep, LocalDailyPaperWorkflowStore.writeEvent, hnext, hfate]
      | durable | unconfirmed =>
        right; right; right
        refine ⟨event, rfl, ⟨hread, hdangling, hreason, by simp⟩, ?_⟩
        simp [callStep, LocalDailyPaperWorkflowStore.writeEvent, hnext, hfate,
          LocalDailyPaperWorkflowStore.appended]

/-- Only the steps that append an event change the chain. -/
theorem callStep_events (h : ∀ event, phase ≠ .append event) :
    (callStep spec input store phase).2.events = store.events := by
  rcases callStep_store spec input store phase with
    hstore | ⟨-, -, hstore⟩ | ⟨_, -, -, hstore⟩ | ⟨event, hphase, -⟩
  · rw [hstore]
  · rw [hstore]
  · rw [hstore]
  · exact absurd hphase (h event)

/-- An event whose write is let through is stored, whether or not its writer learns of it. -/
theorem callStep_append (h : Accepted spec store event input.fate) :
    (callStep spec input store (.append event)).2 = store.appended spec event := by
  obtain ⟨hread, hdangling, hreason, hfate⟩ := h
  have hnext := nextEvent_append hread hdangling hreason
  cases hfate' : input.fate with
  | lost => exact absurd hfate' hfate
  | durable | unconfirmed =>
    simp [callStep, LocalDailyPaperWorkflowStore.writeEvent, hnext, hfate',
      LocalDailyPaperWorkflowStore.appended]

/-- The writer of an event goes on only if its write was let through and is durable. -/
theorem callStep_append_phase (spec : DailyPaperWorkflowSpec) (input : StepInput)
    (store : LocalDailyPaperWorkflowStore) (event : WorkflowAppend) :
    (Accepted spec store event input.fate ∧ input.fate = .durable ∧
      (callStep spec input store (.append event)).1 = .confirm event) ∨
    (¬(Accepted spec store event input.fate ∧ input.fate = .durable) ∧
      ∃ e, (callStep spec input store (.append event)).1 = event.onError input e) := by
  cases hnext : store.nextEvent spec.workflowId event.status event.occurredAt event.reasonCode
    event.terminalId with
  | error e =>
    right
    refine ⟨?_, e, by simp [callStep, LocalDailyPaperWorkflowStore.writeEvent, hnext]⟩
    rintro ⟨⟨hread, hdangling, hreason, -⟩, -⟩
    rw [nextEvent_append hread hdangling hreason] at hnext
    cases hnext
  | ok stored =>
    obtain ⟨hread, hdangling, hreason, -⟩ := nextEvent_append_inv hnext
    cases hfate : input.fate with
    | durable =>
      left
      refine ⟨⟨hread, hdangling, hreason, by simp⟩, rfl, ?_⟩
      simp [callStep, LocalDailyPaperWorkflowStore.writeEvent, hnext, hfate]
    | lost | unconfirmed =>
      right
      refine ⟨by simp, .error "workflow event store is unavailable", ?_⟩
      simp [callStep, LocalDailyPaperWorkflowStore.writeEvent, hnext, hfate]

theorem callStep_confirm (h : Readable spec.workflowId store) :
    callStep spec input store (.confirm event) = (event.onStored, store) := by
  simp [callStep, h.listEvents]

theorem callStep_confirm_unreadable (input : StepInput) (event : WorkflowAppend)
    (h : ¬Readable spec.workflowId store) :
    ∃ e, e ≠ .retryExhausted ∧
      callStep spec input store (.confirm event) = (event.onError input e, store) := by
  obtain ⟨e, he, hread⟩ := listEvents_eq_error h
  exact ⟨e, he, by simp [callStep, hread]⟩

@[simp] theorem attempts_appended : attempts (store.appended spec event).events =
    attempts store.events + if event.status = .started then 1 else 0 :=
  attempts_concat

/-- The attempts grow only where a call's own `STARTED` is let through. -/
theorem callStep_attempts (spec : DailyPaperWorkflowSpec) (input : StepInput)
    (store : LocalDailyPaperWorkflowStore) (phase : CallPhase) :
    attempts (callStep spec input store phase).2.events = attempts store.events ∨
    (∃ startedAt, phase = .append (.start startedAt) ∧
      Accepted spec store (.start startedAt) input.fate ∧
      attempts (callStep spec input store phase).2.events = attempts store.events + 1) := by
  rcases callStep_store spec input store phase with
    h | ⟨-, -, h⟩ | ⟨_, -, -, h⟩ | ⟨event, rfl, haccepted, h⟩
  · exact .inl (by rw [h])
  · exact .inl (by rw [h])
  · exact .inl (by rw [h])
  · rw [h, attempts_appended]
    cases event with
    | start startedAt => exact .inr ⟨startedAt, rfl, haccepted, by simp [WorkflowAppend.status]⟩
    | repair terminal _ | complete terminal =>
      exact .inl (by simp [WorkflowAppend.status, terminal.expectedStatus_ne_started])
    | reject | fail => exact .inl (by simp [WorkflowAppend.status])

end Step

end IndiaSwing
