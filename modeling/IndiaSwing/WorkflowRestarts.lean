import Mathlib.Tactic.IntervalCases
import IndiaSwing.WorkflowInvariants

namespace IndiaSwing

open ExceptGuards

variable {spec : DailyPaperWorkflowSpec} {store : LocalDailyPaperWorkflowStore} {phase : CallPhase}
variable {input : StepInput} {terminal : DailyPaperWorkflowTerminal} {occurredAt : Instant}

/-- The surroundings of a call, step by step, whose writes all get there. -/
structure DurableInputs where
  step : ℕ → StepInput
  durable : ∀ n, (step n).fate = .durable

/-- A call that nothing else runs beside, after its first `n` steps. -/
def callAfter (spec : DailyPaperWorkflowSpec) (inputs : DurableInputs)
    (store : LocalDailyPaperWorkflowStore) : ℕ → CallPhase × LocalDailyPaperWorkflowStore
  | 0 => (.putSpec, store)
  | n + 1 =>
    let (phase, store) := callAfter spec inputs store n
    callStep spec (inputs.step n) store phase

/-- A call and the number of steps after which it is killed, unless it has ended by then. -/
structure KilledCall where
  inputs : DurableInputs
  steps : ℕ

/-- The store after a history of calls, one after the other. -/
def afterCalls (spec : DailyPaperWorkflowSpec) (history : List KilledCall) :
    LocalDailyPaperWorkflowStore :=
  history.foldl (fun store call => (callAfter spec call.inputs store call.steps).2) .empty

/-- What the next call may do: return the stored terminal, find the budget spent, or record a new
attempt and run the worker. -/
def Resumes (spec : DailyPaperWorkflowSpec) (store : LocalDailyPaperWorkflowStore)
    (inputs : DurableInputs) : Prop :=
  ∃ n, (∃ terminal, store.terminal = some terminal ∧
      (callAfter spec inputs store n).1 = .finished (.ok terminal)) ∨
    (spec.maximumAttempts ≤ attempts store.events ∧
      (callAfter spec inputs store n).1 = .finished (.error .retryExhausted)) ∨
    ∃ startedAt, (callAfter spec inputs store n).1 = .work startedAt ∧
      attempts (callAfter spec inputs store n).2.events = attempts store.events + 1

/-- The call reads a time from its clock, no earlier than the last event. -/
def ClockForward (store : LocalDailyPaperWorkflowStore) (inputs : DurableInputs) : Prop :=
  ∃ occurredAt, clockValue (inputs.step 2).clock = .ok occurredAt ∧
    ∀ last ∈ store.events.getLast?, last.occurredAt ≤ occurredAt

/-- The condition on the store and the clock: the chain can be read; under a terminal, the clock
serves the repair of an open chain; without one, the budget is spent, or the chain is at rest and
the clock serves the new attempt. -/
def Ready (spec : DailyPaperWorkflowSpec) (store : LocalDailyPaperWorkflowStore)
    (inputs : DurableInputs) : Prop :=
  Readable spec.workflowId store ∧
    match store.terminal with
    | some _ => Dangling store.events → ClockForward store inputs
    | none => spec.maximumAttempts ≤ attempts store.events ∨
        (¬Dangling store.events ∧ ClockForward store inputs)

/-- Some later call can still go on, given a good clock. -/
def Resumable (spec : DailyPaperWorkflowSpec) (store : LocalDailyPaperWorkflowStore) : Prop :=
  Readable spec.workflowId store ∧
    (store.terminal ≠ none ∨ spec.maximumAttempts ≤ attempts store.events ∨ ¬Dangling store.events)

/-- What calls one after the other keep of the store: below a terminal the chain is open or closed
the way the terminal says. -/
structure HistorySound (spec : DailyPaperWorkflowSpec) (store : LocalDailyPaperWorkflowStore) : Prop where
  spec_own : ∀ stored, store.spec = some stored → stored = spec
  terminal_own : ∀ terminal, store.terminal = some terminal → terminal.workflowId = spec.workflowId
  closed : ∀ terminal, store.terminal = some terminal → ∃ last, store.events.getLast? = some last ∧
    (last.status = .started ∨ last.Agrees terminal)

/-- The chain can be read and its last event is the `STARTED` of this instant. -/
def OpenSince (spec : DailyPaperWorkflowSpec) (store : LocalDailyPaperWorkflowStore)
    (startedAt : Instant) : Prop :=
  Readable spec.workflowId store ∧ ∃ last, store.events.getLast? = some last ∧
    last.status = .started ∧ last.occurredAt = startedAt

/-- What a lone call knows of the store at each of its steps. -/
def SoleCall (spec : DailyPaperWorkflowSpec) (store : LocalDailyPaperWorkflowStore) :
    CallPhase → Prop
  | .putSpec | .readTerminal | .finished _ => True
  | .listRepair terminal | .append (.repair terminal _) | .confirm (.repair terminal _) =>
    store.terminal = some terminal
  | .listAttempts | .append (.start _) | .confirm (.reject _ _) | .confirm (.fail _) =>
    store.terminal = none
  | .confirm (.start startedAt) => store.terminal = none ∧
      (Readable spec.workflowId store → OpenSince spec store startedAt)
  | .work startedAt => store.terminal = none ∧ OpenSince spec store startedAt
  | .putTerminal terminal => store.terminal = none ∧ OpenSince spec store terminal.startedAt ∧
      terminal.workflowId = spec.workflowId
  | .append (.complete terminal) => store.terminal = some terminal ∧
      OpenSince spec store terminal.startedAt
  | .confirm (.complete terminal) => store.terminal = some terminal ∧ Readable spec.workflowId store
  | .append (.reject _ _) | .append (.fail _) => store.terminal = none

theorem OpenSince.dangling {startedAt : Instant} (h : OpenSince spec store startedAt) :
    Dangling store.events := by
  obtain ⟨-, last, hlast, hstarted, -⟩ := h
  exact ⟨last, hlast, hstarted⟩

/-- A durable write is let through or leaves its writer with an error. -/
theorem callStep_append_durable (hfate : input.fate = .durable) (event : WorkflowAppend) :
    (Accepted spec store event .durable ∧
      callStep spec input store (.append event) = (.confirm event, store.appended spec event)) ∨
    (¬Accepted spec store event .durable ∧
      ∃ e, callStep spec input store (.append event) = (event.onError input e, store)) := by
  cases hnext : store.nextEvent spec.workflowId event.status event.occurredAt event.reasonCode
    event.terminalId with
  | error e =>
    right
    refine ⟨?_, e, by simp [callStep, LocalDailyPaperWorkflowStore.writeEvent, hnext]⟩
    rintro ⟨hread, hdangling, hreason, -⟩
    rw [nextEvent_append hread hdangling hreason] at hnext
    cases hnext
  | ok stored =>
    obtain ⟨hread, hdangling, hreason, rfl⟩ := nextEvent_append_inv hnext
    left
    refine ⟨⟨hread, hdangling, hreason, by simp⟩, ?_⟩
    simp [callStep, LocalDailyPaperWorkflowStore.writeEvent, hnext, hfate,
      LocalDailyPaperWorkflowStore.appended]

theorem readable_appended {event : WorkflowAppend} (h : Accepted spec store event .durable) :
    Readable spec.workflowId (store.appended spec event) ↔
      ∀ last ∈ store.events.getLast?, last.occurredAt ≤ event.occurredAt :=
  readable_append (nextEvent_append h.1 h.2.1 h.2.2.1) rfl

theorem HistorySound.appended (hs : HistorySound spec store) {event : WorkflowAppend}
    (hcloses : ∀ terminal, store.terminal = some terminal →
      event.status = .started ∨ terminal.Closes event.status event.reasonCode event.terminalId) :
    HistorySound spec (store.appended spec event) where
  spec_own := hs.spec_own
  terminal_own := hs.terminal_own
  closed terminal hterminal :=
    ⟨event.toEvent spec.workflowId store.events, by simp [LocalDailyPaperWorkflowStore.appended],
      hcloses terminal hterminal⟩

/-- Only a worker's own rejection can carry a reason that the event refuses. -/
theorem reasonCode_valid (event : WorkflowAppend) (h : ∀ occurredAt code, event ≠ .reject occurredAt code) :
    event.reasonCode.all reasonCodeValid = true := by
  cases event with
  | start | fail => rfl
  | reject occurredAt code => exact absurd rfl (h occurredAt code)
  | repair terminal _ | complete terminal =>
    simp only [WorkflowAppend.reasonCode, DailyPaperWorkflowTerminal.expectedReason]
    cases terminal.output.status <;> rfl

theorem create_terminal_ok {workflowId : ContentId} {output : DailyPaperWorkflowOutput}
    {startedAt completedAt : Instant}
    (h : DailyPaperWorkflowTerminal.create workflowId output startedAt completedAt = .ok terminal) :
    terminal.workflowId = workflowId ∧ terminal.startedAt = startedAt := by
  unfold DailyPaperWorkflowTerminal.create at h
  split at h
  · cases h
    exact ⟨rfl, rfl⟩
  · cases h

theorem sole_append {event : WorkflowAppend} (hs : HistorySound spec store)
    (hp : SoleCall spec store (.append event)) (hfate : input.fate = .durable) :
    HistorySound spec (callStep spec input store (.append event)).2 ∧
      SoleCall spec (callStep spec input store (.append event)).2
        (callStep spec input store (.append event)).1 := by
  rcases callStep_append_durable hfate event with ⟨haccepted, hstep⟩ | ⟨hrefused, e, hstep⟩
  · rw [hstep]
    cases event with
    | start startedAt =>
      refine ⟨hs.appended fun _ _ => .inl rfl, hp, fun hread => ⟨hread, ?_⟩⟩
      exact ⟨(WorkflowAppend.start startedAt).toEvent spec.workflowId store.events,
        by simp [LocalDailyPaperWorkflowStore.appended], rfl, rfl⟩
    | repair terminal occurredAt =>
      refine ⟨hs.appended fun other hother => .inr ?_, hp⟩
      rw [show store.terminal = some terminal from hp] at hother
      cases hother
      exact terminal.closes_expected
    | complete terminal =>
      obtain ⟨hterminal, -, last, hlast, -, hstartedAt⟩ := hp
      refine ⟨hs.appended fun other hother => .inr ?_, hterminal, ?_⟩
      · rw [hterminal] at hother
        cases hother
        exact terminal.closes_expected
      · refine (readable_appended haccepted).mpr fun other hother => ?_
        rw [hlast] at hother
        cases hother
        rw [hstartedAt]
        exact terminal.forward
    | reject | fail =>
      have hnone : store.terminal = none := hp
      refine ⟨hs.appended fun other hother => ?_, hp⟩
      rw [hnone] at hother
      cases hother
  · rw [hstep]
    refine ⟨hs, ?_⟩
    cases event with
    | complete terminal =>
      obtain ⟨-, hopen⟩ := hp
      have hreason := reasonCode_valid (.complete terminal) (by simp)
      have hstatus : (WorkflowAppend.complete terminal).status ≠ .started :=
        terminal.expectedStatus_ne_started
      exact absurd ⟨hopen.1, iff_of_true hopen.dangling hstatus, hreason, by simp⟩ hrefused
    | start | repair | reject | fail => trivial

theorem sole_confirm (input : StepInput) {event : WorkflowAppend} (hp : SoleCall spec store (.confirm event)) :
    (callStep spec input store (.confirm event)).2 = store ∧
      SoleCall spec store (callStep spec input store (.confirm event)).1 := by
  by_cases hread : Readable spec.workflowId store
  · rw [callStep_confirm hread]
    refine ⟨rfl, ?_⟩
    cases event with
    | start startedAt => exact ⟨hp.1, hp.2 hread⟩
    | repair | complete | reject | fail => trivial
  · obtain ⟨e, -, hstep⟩ := callStep_confirm_unreadable input event hread
    rw [hstep]
    refine ⟨rfl, ?_⟩
    cases event with
    | complete terminal => exact absurd hp.2 hread
    | start | repair | reject | fail => trivial

theorem sole_work {startedAt : Instant} (hp : SoleCall spec store (.work startedAt)) :
    SoleCall spec store (afterWork spec input startedAt) := by
  obtain ⟨hnone, hopen⟩ := hp
  unfold afterWork
  cases input.worker with
  | raised | rejected => exact hnone
  | output output =>
    cases clockValue input.clock with
    | error e => exact hnone
    | ok completedAt =>
      dsimp only
      cases hterminal : DailyPaperWorkflowTerminal.create spec.workflowId output startedAt completedAt with
      | error e => exact hnone
      | ok terminal =>
        obtain ⟨hown, hstarted⟩ := create_terminal_ok hterminal
        exact ⟨hnone, hstarted ▸ hopen, hown⟩

theorem sole_putTerminal (hs : HistorySound spec store) (hp : SoleCall spec store (.putTerminal terminal))
    (hfate : input.fate = .durable) :
    HistorySound spec (callStep spec input store (.putTerminal terminal)).2 ∧
      SoleCall spec (callStep spec input store (.putTerminal terminal)).2
        (callStep spec input store (.putTerminal terminal)).1 := by
  obtain ⟨hnone, hopen, hown⟩ := hp
  have hstep : callStep spec input store (.putTerminal terminal) =
      (.append (.complete terminal), { store with terminal := some terminal }) := by
    simp [callStep, LocalDailyPaperWorkflowStore.putTerminal, hnone, hfate]
  rw [hstep]
  refine ⟨⟨hs.spec_own, fun other hother => ?_, fun other hother => ?_⟩, rfl, hopen⟩
  · cases hother
    exact hown
  · obtain ⟨-, last, hlast, hstarted, -⟩ := hopen
    exact ⟨last, hlast, .inl hstarted⟩

def LocalDailyPaperWorkflowStore.withSpec (store : LocalDailyPaperWorkflowStore)
    (spec : DailyPaperWorkflowSpec) : LocalDailyPaperWorkflowStore :=
  { store with spec := some spec }

theorem callStep_putSpec_durable (hs : HistorySound spec store) (hfate : input.fate = .durable) :
    callStep spec input store .putSpec = (.readTerminal, store.withSpec spec) := by
  cases hspec : store.spec with
  | none =>
    simp [callStep, LocalDailyPaperWorkflowStore.putSpec, LocalDailyPaperWorkflowStore.withSpec, hspec,
      hfate]
  | some stored =>
    obtain rfl := hs.spec_own stored hspec
    have hstore : store.withSpec stored = store := by
      unfold LocalDailyPaperWorkflowStore.withSpec
      rw [← hspec]
    rw [hstore]
    simp [callStep, LocalDailyPaperWorkflowStore.putSpec, hspec]

/-- A durable step of a lone call keeps what it knows. -/
theorem sole_step (hs : HistorySound spec store) (hp : SoleCall spec store phase)
    (hfate : input.fate = .durable) :
    HistorySound spec (callStep spec input store phase).2 ∧
      SoleCall spec (callStep spec input store phase).2 (callStep spec input store phase).1 := by
  cases phase with
  | putSpec =>
    rw [callStep_putSpec_durable hs hfate]
    exact ⟨⟨fun _ h => (Option.some.inj h).symm, hs.terminal_own, hs.closed⟩, trivial⟩
  | readTerminal =>
    rw [callStep_readTerminal hs.terminal_own]
    refine ⟨hs, ?_⟩
    cases hterminal : store.terminal with
    | none => exact hterminal
    | some terminal => exact hterminal
  | listRepair terminal =>
    have hterminal : store.terminal = some terminal := hp
    cases hread : store.listEvents spec.workflowId with
    | error e =>
      have hstep : callStep spec input store (.listRepair terminal) = (.raised e, store) := by
        simp [callStep, hread]
      rw [hstep]
      exact ⟨hs, trivial⟩
    | ok events =>
      have hreadable := (listEvents_eq_ok.mp hread).1
      rcases callStep_listRepair input hreadable (hs.closed terminal hterminal) with
        ⟨-, hstep⟩ | ⟨-, hstep⟩
      · rw [hstep]
        refine ⟨hs, ?_⟩
        cases clockValue input.clock with
        | error e => trivial
        | ok occurredAt => exact hterminal
      · rw [hstep]
        exact ⟨hs, trivial⟩
  | listAttempts =>
    have hnone : store.terminal = none := hp
    cases hread : store.listEvents spec.workflowId with
    | error e =>
      have hstep : callStep spec input store .listAttempts = (.raised e, store) := by
        simp [callStep, hread]
      rw [hstep]
      exact ⟨hs, trivial⟩
    | ok events =>
      have hstep : callStep spec input store .listAttempts =
          (startOrExhaust spec input events, store) := by
        simp [callStep, hread]
      rw [hstep]
      refine ⟨hs, ?_⟩
      unfold startOrExhaust
      split
      · trivial
      · cases clockValue input.clock with
        | error e => trivial
        | ok startedAt => exact hnone
  | append event => exact sole_append hs hp hfate
  | confirm event =>
    obtain ⟨hstore, hnext⟩ := sole_confirm input hp
    rw [hstore]
    exact ⟨hs, hnext⟩
  | work startedAt => exact ⟨hs, sole_work hp⟩
  | putTerminal terminal => exact sole_putTerminal hs hp hfate
  | finished result => exact ⟨hs, trivial⟩

theorem historySound_empty : HistorySound spec .empty where
  spec_own _ h := by cases h
  terminal_own _ h := by cases h
  closed _ h := by cases h

theorem sole_call (hs : HistorySound spec store) (inputs : DurableInputs) (n : ℕ) :
    HistorySound spec (callAfter spec inputs store n).2 ∧
      SoleCall spec (callAfter spec inputs store n).2 (callAfter spec inputs store n).1 := by
  induction n with
  | zero => exact ⟨hs, trivial⟩
  | succ n ih => exact sole_step ih.1 ih.2 (inputs.durable n)

theorem afterCalls_concat (history : List KilledCall) (call : KilledCall) :
    afterCalls spec (history ++ [call]) =
      (callAfter spec call.inputs (afterCalls spec history) call.steps).2 := by
  simp [afterCalls]

theorem afterCalls_sound (spec : DailyPaperWorkflowSpec) (history : List KilledCall) :
    HistorySound spec (afterCalls spec history) := by
  induction history using List.reverseRecOn with
  | nil => exact historySound_empty
  | append_singleton history call ih =>
    rw [afterCalls_concat]
    exact (sole_call ih call.inputs call.steps).1

/-- A call first stores its specification and looks for the terminal. -/
theorem callAfter_two (hs : HistorySound spec store) (inputs : DurableInputs) :
    callAfter spec inputs store 2 =
      (store.terminal.elim .listAttempts .listRepair, store.withSpec spec) := by
  have hspec := callStep_putSpec_durable hs (inputs.durable 0)
  have hown : ∀ terminal, (store.withSpec spec).terminal = some terminal →
      terminal.workflowId = spec.workflowId := hs.terminal_own
  simp only [callAfter, hspec, callStep_readTerminal hown]
  rfl

/-- An ended call stays as it ended. -/
theorem callAfter_finished {inputs : DurableInputs} {n : ℕ}
    {result : Except DailyPaperWorkflowError DailyPaperWorkflowTerminal}
    (h : (callAfter spec inputs store n).1 = .finished result) (k : ℕ) :
    (callAfter spec inputs store (n + k)).1 = .finished result := by
  induction k with
  | zero => exact h
  | succ k ih =>
    show (callStep spec (inputs.step (n + k)) (callAfter spec inputs store (n + k)).2
      (callAfter spec inputs store (n + k)).1).1 = _
    rw [ih]
    rfl

theorem clockValue_error {reading : ClockReading} {e : DailyPaperWorkflowError}
    (h : clockValue reading = .error e) : e ≠ .retryExhausted := by
  cases reading <;> cases h <;> simp

/-- A call that has neither ended nor reached its worker. -/
def CallPhase.pending : CallPhase → Prop
  | putSpec | readTerminal | listRepair _ | listAttempts | append _ | confirm _ => True
  | work _ | putTerminal _ | finished _ => False

theorem not_resumes {inputs : DurableInputs} {k : ℕ} {e : DailyPaperWorkflowError}
    (hraised : (callAfter spec inputs store k).1 = .raised e) (he : e = .retryExhausted → attempts store.events < spec.maximumAttempts)
    (hpending : ∀ n < k, (callAfter spec inputs store n).1.pending) : ¬Resumes spec store inputs := by
  have hno : ∀ n, (callAfter spec inputs store n).1.pending ∨
      (callAfter spec inputs store n).1 = .raised e := by
    intro n
    by_cases hn : n < k
    · exact .inl (hpending n hn)
    · obtain ⟨m, rfl⟩ := Nat.exists_eq_add_of_le (not_lt.mp hn)
      exact .inr (callAfter_finished hraised m)
  rintro ⟨n, ⟨terminal, -, h⟩ | ⟨hspent, h⟩ | ⟨startedAt, h, -⟩⟩
  · rcases hno n with hn | hn <;> rw [h] at hn
    · exact hn
    · cases hn
  · rcases hno n with hn | hn <;> rw [h] at hn
    · exact hn
    · cases hn
      exact absurd (he rfl) (not_lt.mpr hspent)
  · rcases hno n with hn | hn <;> rw [h] at hn
    · exact hn
    · cases hn

theorem pending_of_lt_three (hs : HistorySound spec store) (inputs : DurableInputs) {n : ℕ} (hn : n < 3) :
    (callAfter spec inputs store n).1.pending := by
  have htwo := callAfter_two hs inputs
  have hone : callAfter spec inputs store 1 = (.readTerminal, store.withSpec spec) :=
    callStep_putSpec_durable hs (inputs.durable 0)
  interval_cases n
  · trivial
  · rw [hone]
    trivial
  · rw [htwo]
    cases store.terminal <;> trivial

theorem callAfter_three (hs : HistorySound spec store) (inputs : DurableInputs) :
    callAfter spec inputs store 3 = callStep spec (inputs.step 2) (store.withSpec spec)
      (store.terminal.elim .listAttempts .listRepair) := by
  show callStep spec (inputs.step 2) (callAfter spec inputs store 2).2
    (callAfter spec inputs store 2).1 = _
  rw [callAfter_two hs]

section Append

variable {inputs : DurableInputs} {event : WorkflowAppend} {current : LocalDailyPaperWorkflowStore}

/-- The two steps of an event that the chain lets in: it is written, and the chain is read back. -/
theorem append_accepted (hthree : callAfter spec inputs store 3 = (.append event, current))
    (haccepted : Accepted spec current event .durable) :
    callAfter spec inputs store 4 = (.confirm event, current.appended spec event) ∧
      ((∀ last ∈ current.events.getLast?, last.occurredAt ≤ event.occurredAt) →
        callAfter spec inputs store 5 = (event.onStored, current.appended spec event)) ∧
      ((¬∀ last ∈ current.events.getLast?, last.occurredAt ≤ event.occurredAt) →
        ∃ e, e ≠ .retryExhausted ∧
          (callAfter spec inputs store 5).1 = event.onError (inputs.step 4) e) := by
  have hfour : callAfter spec inputs store 4 = (.confirm event, current.appended spec event) := by
    show callStep spec (inputs.step 3) (callAfter spec inputs store 3).2
      (callAfter spec inputs store 3).1 = _
    rw [hthree]
    rcases callStep_append_durable (inputs.durable 3) event with ⟨-, hstep⟩ | ⟨hrefused, -⟩
    · exact hstep
    · exact absurd haccepted hrefused
  have hfive : callAfter spec inputs store 5 =
      callStep spec (inputs.step 4) (current.appended spec event) (.confirm event) := by
    show callStep spec (inputs.step 4) (callAfter spec inputs store 4).2
      (callAfter spec inputs store 4).1 = _
    rw [hfour]
  refine ⟨hfour, fun htimes => ?_, fun htimes => ?_⟩
  · rw [hfive, callStep_confirm ((readable_appended haccepted).mpr htimes)]
  · have hbroken : ¬Readable spec.workflowId (current.appended spec event) := fun hread =>
      htimes ((readable_appended haccepted).mp hread)
    obtain ⟨e, he, hstep⟩ := callStep_confirm_unreadable (inputs.step 4) event hbroken
    exact ⟨e, he, by rw [hfive, hstep]⟩

end Append

/-- The condition lets the next call go on. -/
theorem Ready.resumes {inputs : DurableInputs} (hs : HistorySound spec store)
    (h : Ready spec store inputs) : Resumes spec store inputs := by
  obtain ⟨hread, hready⟩ := h
  have hread' : Readable spec.workflowId (store.withSpec spec) := hread
  cases hterminal : store.terminal with
  | some terminal =>
    rw [hterminal] at hready
    have hthree : callAfter spec inputs store 3 =
        callStep spec (inputs.step 2) (store.withSpec spec) (.listRepair terminal) := by
      rw [callAfter_three hs, hterminal]
      rfl
    rcases callStep_listRepair (inputs.step 2) hread' (hs.closed terminal hterminal) with
      ⟨hdangling, hstep⟩ | ⟨-, hstep⟩
    · obtain ⟨occurredAt, hclock, htimes⟩ := hready hdangling
      rw [hclock] at hstep
      have haccepted : Accepted spec (store.withSpec spec) (.repair terminal occurredAt) .durable :=
        ⟨hread, iff_of_true hdangling terminal.expectedStatus_ne_started,
          reasonCode_valid _ (by simp), by simp⟩
      have hfive := (append_accepted (hthree.trans hstep) haccepted).2.1 htimes
      exact ⟨5, .inl ⟨terminal, hterminal, congrArg Prod.fst hfive⟩⟩
    · exact ⟨3, .inl ⟨terminal, hterminal, congrArg Prod.fst (hthree.trans hstep)⟩⟩
  | none =>
    rw [hterminal] at hready
    have hthree : callAfter spec inputs store 3 =
        (startOrExhaust spec (inputs.step 2) store.events, store.withSpec spec) := by
      rw [callAfter_three hs, hterminal]
      simp [callStep, hread'.listEvents]
      rfl
    by_cases hspent : spec.maximumAttempts ≤ attempts store.events
    · refine ⟨3, .inr (.inl ⟨hspent, ?_⟩)⟩
      rw [hthree]
      exact if_pos hspent
    · obtain ⟨hrest, startedAt, hclock, htimes⟩ := hready.resolve_left hspent
      have hstart : startOrExhaust spec (inputs.step 2) store.events = .append (.start startedAt) := by
        unfold startOrExhaust
        rw [if_neg hspent, hclock]
      rw [hstart] at hthree
      have haccepted : Accepted spec (store.withSpec spec) (.start startedAt) .durable :=
        ⟨hread, iff_of_false hrest (by simp [WorkflowAppend.status]), rfl, by simp⟩
      have hfive := (append_accepted hthree haccepted).2.1 htimes
      refine ⟨5, .inr (.inr ⟨startedAt, congrArg Prod.fst hfive, ?_⟩)⟩
      rw [hfive, attempts_appended]
      rfl

theorem pending_of_lt_five {inputs : DurableInputs} {event : WorkflowAppend}
    {current : LocalDailyPaperWorkflowStore} (hs : HistorySound spec store)
    (hthree : callAfter spec inputs store 3 = (.append event, current))
    (hfour : (callAfter spec inputs store 4).1.pending) {n : ℕ} (hn : n < 5) :
    (callAfter spec inputs store n).1.pending := by
  by_cases hearly : n < 3
  · exact pending_of_lt_three hs inputs hearly
  · obtain rfl | rfl : n = 3 ∨ n = 4 := by omega
    · rw [hthree]
      trivial
    · exact hfour

/-- An event from before the last one is written and then breaks the chain. -/
theorem not_resumes_backward {inputs : DurableInputs} {event : WorkflowAppend}
    {current : LocalDailyPaperWorkflowStore} (hs : HistorySound spec store)
    (hthree : callAfter spec inputs store 3 = (.append event, current))
    (haccepted : Accepted spec current event .durable)
    (htimes : ¬∀ last ∈ current.events.getLast?, last.occurredAt ≤ event.occurredAt)
    (hevent : ∀ e, event.onError (inputs.step 4) e = .raised e) : ¬Resumes spec store inputs := by
  obtain ⟨hfour, -, hfive⟩ := append_accepted hthree haccepted
  obtain ⟨e, he, hraised⟩ := hfive htimes
  refine not_resumes (hraised.trans (hevent e)) (fun h => absurd h he) fun n hn => ?_
  refine pending_of_lt_five hs hthree ?_ hn
  rw [hfour]
  trivial

/-- Without the condition the next call fails. -/
theorem Ready.of_resumes {inputs : DurableInputs} (hs : HistorySound spec store)
    (h : Resumes spec store inputs) : Ready spec store inputs := by
  by_contra hnot
  revert h
  by_cases hread : Readable spec.workflowId store
  · have hread' : Readable spec.workflowId (store.withSpec spec) := hread
    cases hterminal : store.terminal with
    | some terminal =>
      have hthree : callAfter spec inputs store 3 =
          callStep spec (inputs.step 2) (store.withSpec spec) (.listRepair terminal) := by
        rw [callAfter_three hs, hterminal]
        rfl
      have hblocked : Dangling store.events ∧ ¬ClockForward store inputs := by
        simpa [Ready, hread, hterminal] using hnot
      rcases callStep_listRepair (inputs.step 2) hread' (hs.closed terminal hterminal) with
        ⟨hdangling, hstep⟩ | ⟨hrest, -⟩
      · rw [hstep] at hthree
        cases hclock : clockValue (inputs.step 2).clock with
        | error e =>
          rw [hclock] at hthree
          refine not_resumes (congrArg Prod.fst hthree) (fun h => absurd h (clockValue_error hclock))
            fun n hn => pending_of_lt_three hs inputs hn
        | ok occurredAt =>
          rw [hclock] at hthree
          have haccepted : Accepted spec (store.withSpec spec) (.repair terminal occurredAt) .durable :=
            ⟨hread, iff_of_true hdangling terminal.expectedStatus_ne_started,
              reasonCode_valid _ (by simp), by simp⟩
          have htimes : ¬∀ last ∈ store.events.getLast?, last.occurredAt ≤ occurredAt :=
            fun htimes => hblocked.2 ⟨occurredAt, hclock, htimes⟩
          exact not_resumes_backward hs hthree haccepted htimes fun _ => rfl
      · exact absurd hblocked.1 hrest
    | none =>
      have hthree : callAfter spec inputs store 3 =
          (startOrExhaust spec (inputs.step 2) store.events, store.withSpec spec) := by
        rw [callAfter_three hs, hterminal]
        simp [callStep, hread'.listEvents]
        rfl
      have hblocked : ¬spec.maximumAttempts ≤ attempts store.events ∧
          ¬(¬Dangling store.events ∧ ClockForward store inputs) := by
        rw [← not_or]
        simpa [Ready, hread, hterminal] using hnot
      obtain ⟨hunspent, hblocked⟩ := hblocked
      unfold startOrExhaust at hthree
      rw [if_neg hunspent] at hthree
      cases hclock : clockValue (inputs.step 2).clock with
      | error e =>
        rw [hclock] at hthree
        exact not_resumes (congrArg Prod.fst hthree) (fun h => absurd h (clockValue_error hclock))
          fun n hn => pending_of_lt_three hs inputs hn
      | ok startedAt =>
        rw [hclock] at hthree
        by_cases hdangling : Dangling store.events
        · have hrefused : ¬Accepted spec (store.withSpec spec) (.start startedAt) .durable :=
            fun haccepted => haccepted.2.1.mp hdangling rfl
          have hfour : ∃ e, (callAfter spec inputs store 4).1 = .raised e := by
            have hcases : (Accepted spec (store.withSpec spec) (.start startedAt) .durable ∧ _) ∨ _ :=
              callStep_append_durable (inputs.durable 3) (.start startedAt)
            rcases hcases with ⟨haccepted, -⟩ | ⟨-, e, hstep⟩
            · exact absurd haccepted hrefused
            · refine ⟨e, ?_⟩
              show (callStep spec (inputs.step 3) (callAfter spec inputs store 3).2
                (callAfter spec inputs store 3).1).1 = _
              rw [hthree]
              exact congrArg Prod.fst hstep
          obtain ⟨e, hraised⟩ := hfour
          refine not_resumes hraised (fun _ => not_le.mp hunspent) fun n hn => ?_
          by_cases hearly : n < 3
          · exact pending_of_lt_three hs inputs hearly
          · obtain rfl : n = 3 := by omega
            rw [hthree]
            trivial
        · have haccepted : Accepted spec (store.withSpec spec) (.start startedAt) .durable :=
            ⟨hread, iff_of_false hdangling (by simp [WorkflowAppend.status]), rfl, by simp⟩
          have htimes : ¬∀ last ∈ store.events.getLast?, last.occurredAt ≤ startedAt :=
            fun htimes => hblocked ⟨hdangling, startedAt, hclock, htimes⟩
          exact not_resumes_backward hs hthree haccepted htimes fun _ => rfl
  · have hbroken : ¬Readable spec.workflowId (store.withSpec spec) := hread
    obtain ⟨e, he, hlist⟩ := listEvents_eq_error hbroken
    have hthree : (callAfter spec inputs store 3).1 = .raised e := by
      rw [callAfter_three hs]
      cases store.terminal <;> simp [callStep, hlist]
    exact not_resumes hthree (fun h => absurd h he) fun n hn => pending_of_lt_three hs inputs hn

theorem resumes_iff_ready (hs : HistorySound spec store) (inputs : DurableInputs) :
    Resumes spec store inputs ↔ Ready spec store inputs :=
  ⟨Ready.of_resumes hs, Ready.resumes hs⟩

/-- The phases of a call that never gets to write an event. -/
def CallPhase.idle : CallPhase → Prop
  | putSpec | readTerminal | listRepair _ | listAttempts | append (.start _) | finished _ => True
  | append _ | confirm _ | work _ | putTerminal _ => False

theorem Ready.resumable {inputs : DurableInputs} (h : Ready spec store inputs) :
    Resumable spec store := by
  obtain ⟨hread, hready⟩ := h
  refine ⟨hread, ?_⟩
  cases hterminal : store.terminal with
  | some terminal => exact .inl (by simp)
  | none =>
    rw [hterminal] at hready
    rcases hready with hspent | ⟨hrest, -⟩
    · exact .inr (.inl hspent)
    · exact .inr (.inr hrest)

/-- Where no later call can go on, a call writes no event and no terminal. -/
theorem stuck_step (hs : HistorySound spec store) (hp : SoleCall spec store phase)
    (hstuck : ¬Resumable spec store) (hidle : phase.idle) (hfate : input.fate = .durable) :
    (callStep spec input store phase).2.events = store.events ∧
      (callStep spec input store phase).2.terminal = store.terminal ∧
      (callStep spec input store phase).1.idle := by
  cases phase with
  | putSpec =>
    rw [callStep_putSpec_durable hs hfate]
    exact ⟨rfl, rfl, trivial⟩
  | readTerminal =>
    rw [callStep_readTerminal hs.terminal_own]
    refine ⟨rfl, rfl, ?_⟩
    cases store.terminal <;> trivial
  | listRepair terminal =>
    have hterminal : store.terminal = some terminal := hp
    have hbroken : ¬Readable spec.workflowId store := fun hread =>
      hstuck ⟨hread, .inl (by simp [hterminal])⟩
    obtain ⟨e, -, hlist⟩ := listEvents_eq_error hbroken
    have hstep : callStep spec input store (.listRepair terminal) = (.raised e, store) := by
      simp [callStep, hlist]
    rw [hstep]
    exact ⟨rfl, rfl, trivial⟩
  | listAttempts =>
    refine ⟨callStep_events (by simp), ?_, ?_⟩
    · cases hread : store.listEvents spec.workflowId <;> simp [callStep, hread]
    · cases hread : store.listEvents spec.workflowId with
      | error e => simp [callStep, hread, CallPhase.raised, CallPhase.idle]
      | ok events =>
        simp only [callStep, hread]
        unfold startOrExhaust
        split
        · trivial
        · cases clockValue input.clock <;> trivial
  | append event =>
    cases event with
    | start startedAt =>
      have hrefused : ¬Accepted spec store (.start startedAt) .durable := by
        rintro ⟨hread, hdangling, -⟩
        refine hstuck ⟨hread, .inr (.inr fun h => ?_)⟩
        exact hdangling.mp h rfl
      rcases callStep_append_durable hfate (.start startedAt) with ⟨haccepted, -⟩ | ⟨-, e, hstep⟩
      · exact absurd haccepted hrefused
      · rw [hstep]
        exact ⟨rfl, rfl, trivial⟩
    | repair | complete | reject | fail => cases hidle
  | finished result => exact ⟨rfl, rfl, trivial⟩
  | confirm | work | putTerminal => cases hidle

theorem Resumable.congr {after : LocalDailyPaperWorkflowStore} (hevents : after.events = store.events)
    (hterminal : after.terminal = store.terminal) :
    Resumable spec after ↔ Resumable spec store := by
  unfold Resumable Readable
  rw [hevents, hterminal]

theorem stuck_call (hs : HistorySound spec store) (hstuck : ¬Resumable spec store)
    (inputs : DurableInputs) (n : ℕ) :
    (callAfter spec inputs store n).2.events = store.events ∧
      (callAfter spec inputs store n).2.terminal = store.terminal ∧
      (callAfter spec inputs store n).1.idle := by
  induction n with
  | zero => exact ⟨rfl, rfl, trivial⟩
  | succ n ih =>
    obtain ⟨hevents, hterminal, hidle⟩ := ih
    obtain ⟨hsound, hsole⟩ := sole_call hs inputs n
    have hstuck' : ¬Resumable spec (callAfter spec inputs store n).2 := by
      rwa [Resumable.congr hevents hterminal]
    obtain ⟨hevents', hterminal', hidle'⟩ := stuck_step hsound hsole hstuck' hidle (inputs.durable n)
    exact ⟨hevents'.trans hevents, hterminal'.trans hterminal, hidle'⟩

theorem stuck_history (history later : List KilledCall)
    (hstuck : ¬Resumable spec (afterCalls spec history)) :
    ¬Resumable spec (afterCalls spec (history ++ later)) := by
  induction later using List.reverseRecOn with
  | nil =>
    rw [List.append_nil]
    exact hstuck
  | append_singleton later call ih =>
    rw [← List.append_assoc, afterCalls_concat]
    obtain ⟨hevents, hterminal, -⟩ :=
      stuck_call (afterCalls_sound spec (history ++ later)) ih call.inputs call.steps
    rwa [Resumable.congr hevents hterminal]

/-- A clock that stands at the last event, or at the epoch before the first one. -/
def standingInputs (store : LocalDailyPaperWorkflowStore) : DurableInputs where
  step _ := ⟨.time (store.events.getLast?.elim 0 (·.occurredAt)), .invalid, .raised, .durable⟩
  durable _ := rfl

theorem Resumable.ready (h : Resumable spec store) : Ready spec store (standingInputs store) := by
  obtain ⟨hread, hgoes⟩ := h
  have hclock : ClockForward store (standingInputs store) := by
    refine ⟨_, rfl, fun last hlast => ?_⟩
    rw [Option.mem_def.mp hlast]
    exact le_refl _
  refine ⟨hread, ?_⟩
  cases hterminal : store.terminal with
  | some terminal => exact fun _ => hclock
  | none =>
    rw [hterminal] at hgoes
    rcases hgoes with hsome | hspent | hrest
    · exact absurd rfl hsome
    · exact .inl hspent
    · exact .inr ⟨hrest, hclock⟩

/-- After any history of killed calls the next call goes on exactly under `Ready`, and some later
call can go on exactly if the chain is readable and, below the budget and without a terminal, at
rest. -/
theorem restart_iff_ready (spec : DailyPaperWorkflowSpec) (history : List KilledCall) :
    (∀ inputs, Resumes spec (afterCalls spec history) inputs ↔
      Ready spec (afterCalls spec history) inputs) ∧
    ((∃ later inputs, Resumes spec (afterCalls spec (history ++ later)) inputs) ↔
      Resumable spec (afterCalls spec history)) := by
  refine ⟨resumes_iff_ready (afterCalls_sound spec history), ?_, fun h => ?_⟩
  · rintro ⟨later, inputs, hresumes⟩
    by_contra hstuck
    have hready := (resumes_iff_ready (afterCalls_sound spec (history ++ later)) inputs).mp hresumes
    exact stuck_history history later hstuck hready.resumable
  · refine ⟨[], standingInputs (afterCalls spec history), ?_⟩
    rw [List.append_nil]
    exact h.ready.resumes (afterCalls_sound spec history)

/-- A specification with a budget of three attempts. -/
def threeAttemptSpec : DailyPaperWorkflowSpec :=
  { singleAttemptSpec with
    maximumAttempts := 3
    attempts_pos := by decide
    attempts_le := by decide }

/-- A clock that advances a minute with every step. -/
def minuteInputs (first : ℤ) : DurableInputs where
  step n := ⟨.time ((first + n) * 60000000), .time ((first + n) * 60000000), .raised, .durable⟩
  durable _ := rfl

/-- A call that is killed in its worker leaves the chain open, and no later call can go on. -/
theorem killed_worker_stuck : attempts (afterCalls threeAttemptSpec [⟨minuteInputs 0, 5⟩]).events = 1 ∧
    ¬Resumable threeAttemptSpec (afterCalls threeAttemptSpec [⟨minuteInputs 0, 5⟩]) := by
  refine ⟨by decide +kernel, ?_⟩
  rintro ⟨-, hterminal | hspent | hrest⟩
  · exact hterminal (by decide +kernel)
  · revert hspent
    decide +kernel
  · exact hrest ⟨_, rfl, rfl⟩

theorem not_all_calls_resume : ¬∀ (spec : DailyPaperWorkflowSpec) (history : List KilledCall)
    (inputs : DurableInputs), ClockForward (afterCalls spec history) inputs →
      Resumes spec (afterCalls spec history) inputs := by
  intro h
  have hforward : ClockForward (afterCalls threeAttemptSpec [⟨minuteInputs 0, 5⟩])
      (standingInputs (afterCalls threeAttemptSpec [⟨minuteInputs 0, 5⟩])) := by
    refine ⟨_, rfl, fun last hlast => ?_⟩
    rw [Option.mem_def.mp hlast]
    exact le_refl _
  have hresumes := h threeAttemptSpec [⟨minuteInputs 0, 5⟩] _ hforward
  have hready := Ready.of_resumes (afterCalls_sound threeAttemptSpec _) hresumes
  exact killed_worker_stuck.2 hready.resumable

end IndiaSwing
