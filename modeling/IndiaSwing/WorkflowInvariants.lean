import IndiaSwing.WorkflowAttempts

namespace IndiaSwing

open ActionRuns

variable {spec : DailyPaperWorkflowSpec} {system : WorkflowSystem} {action : WorkflowAction}
variable {actions : List WorkflowAction} {store : LocalDailyPaperWorkflowStore} {phase : CallPhase}
variable {input : StepInput} {terminal : DailyPaperWorkflowTerminal} {call : ℕ}

/-- The terminal that a call has read from the store or has published. -/
def CallPhase.known : CallPhase → Option DailyPaperWorkflowTerminal
  | listRepair terminal | append (.repair terminal _) | append (.complete terminal)
  | confirm (.repair terminal _) | confirm (.complete terminal) | finished (.ok terminal) =>
    some terminal
  | _ => none

/-- A call between its own `STARTED` and the event that closes it. -/
def CallPhase.live : CallPhase → Bool
  | confirm (.start _) | work _ | putTerminal _ | append (.complete _) | append (.reject _ _)
  | append (.fail _) => true
  | _ => false

/-- What a step must not run into for the stored terminal to stay final. A call that finds the
terminal over an open chain reads its clock. An event that goes in is no earlier than the last one
and does not close the chain in another way than a stored terminal. A repair goes in and is
durable. -/
def StepSafe (spec : DailyPaperWorkflowSpec) (store : LocalDailyPaperWorkflowStore)
    (phase : CallPhase) (input : StepInput) : Prop :=
  match phase with
  | .listRepair _ => Dangling store.events → ∃ occurredAt, clockValue input.clock = .ok occurredAt
  | .append event =>
    (Accepted spec store event input.fate →
      (∀ last ∈ store.events.getLast?, last.occurredAt ≤ event.occurredAt) ∧
      ∀ terminal, store.terminal = some terminal →
        event.status = .started ∨ terminal.Closes event.status event.reasonCode event.terminalId) ∧
    ∀ terminal occurredAt, event = .repair terminal occurredAt →
      Accepted spec store event input.fate ∧ input.fate = .durable
  | _ => True

def FinalSafe (spec : DailyPaperWorkflowSpec) (system : WorkflowSystem) (action : WorkflowAction) :
    Prop :=
  StepSafe spec system.store (system.calls action.call) action.input

/-- The store's own invariant: one specification, a readable chain, and below a stored terminal a
chain that is open or closed the way the terminal says. -/
structure StoreSound (spec : DailyPaperWorkflowSpec) (store : LocalDailyPaperWorkflowStore) : Prop where
  readable : Readable spec.workflowId store
  spec_own : ∀ stored, store.spec = some stored → stored = spec
  terminal_spec : ∀ terminal, store.terminal = some terminal →
    store.spec = some spec ∧ terminal.workflowId = spec.workflowId
  closed : ∀ terminal, store.terminal = some terminal → ∃ last, store.events.getLast? = some last ∧
    (last.status = .started ∨ last.Agrees terminal)

/-- What a call knows of the store. -/
structure CallSound (spec : DailyPaperWorkflowSpec) (store : LocalDailyPaperWorkflowStore)
    (phase : CallPhase) : Prop where
  spec_stored : phase ≠ .putSpec → (∀ result, phase ≠ .finished result) → store.spec = some spec
  own : ∀ terminal, phase = .putTerminal terminal → terminal.workflowId = spec.workflowId
  known : ∀ terminal, phase.known = some terminal → store.terminal = some terminal
  open_ : store.terminal = none → phase.live = true → Dangling store.events

theorem CallSound.raised {e : DailyPaperWorkflowError} : CallSound spec store (.raised e) where
  spec_stored _ h := absurd rfl (h (.error e))
  own _ h := by cases h
  known _ h := by cases h
  open_ _ h := by cases h

theorem CallSound.finished (h : store.terminal = some terminal) :
    CallSound spec store (.finished (.ok terminal)) where
  spec_stored _ hfinished := absurd rfl (hfinished (.ok terminal))
  own _ h := by cases h
  known other hknown := by
    cases hknown
    exact h
  open_ _ h := by cases h

/-- A phase without a claim on the chain, after the specification is stored. -/
theorem CallSound.idle (hspec : store.spec = some spec)
    (hown : ∀ terminal, phase ≠ .putTerminal terminal)
    (hknown : ∀ terminal, phase.known = some terminal → store.terminal = some terminal)
    (hlive : phase.live = false) : CallSound spec store phase where
  spec_stored _ _ := hspec
  own terminal h := absurd h (hown terminal)
  known := hknown
  open_ _ h := by simp [hlive] at h

theorem CallSound.closing (hspec : store.spec = some spec) {event : WorkflowAppend}
    (hopen : store.terminal = none → Dangling store.events)
    (hknown : ∀ terminal, (CallPhase.append event).known = some terminal →
      store.terminal = some terminal) : CallSound spec store (.append event) where
  spec_stored _ _ := hspec
  own _ h := by cases h
  known := hknown
  open_ h _ := hopen h

section Step

theorem putSpec_sound (hs : StoreSound spec store) :
    StoreSound spec (callStep spec input store .putSpec).2 ∧
      CallSound spec (callStep spec input store .putSpec).2 (callStep spec input store .putSpec).1 := by
  cases hspec : store.spec with
  | none =>
    have hnone : store.terminal = none := by
      cases hterminal : store.terminal with
      | none => rfl
      | some terminal =>
        have hstored := (hs.terminal_spec terminal hterminal).1
        rw [hspec] at hstored
        cases hstored
    have hwritten : StoreSound spec { store with spec := some spec } :=
      ⟨hs.readable, fun stored h => (Option.some.inj h).symm,
        fun terminal h => absurd (hnone.symm.trans h) (by simp), hs.closed⟩
    cases hfate : input.fate with
    | durable =>
      have hstep : callStep spec input store .putSpec =
          (.readTerminal, { store with spec := some spec }) := by
        simp [callStep, LocalDailyPaperWorkflowStore.putSpec, hspec, hfate]
      rw [hstep]
      exact ⟨hwritten, .idle rfl (by simp) (by simp [CallPhase.known]) rfl⟩
    | lost =>
      have hstep : callStep spec input store .putSpec =
          (.raised (.error "workflow store is unavailable"), store) := by
        simp [callStep, LocalDailyPaperWorkflowStore.putSpec, hspec, hfate]
      rw [hstep]
      exact ⟨hs, .raised⟩
    | unconfirmed =>
      have hstep : callStep spec input store .putSpec =
          (.raised (.error "workflow store is unavailable"), { store with spec := some spec }) := by
        simp [callStep, LocalDailyPaperWorkflowStore.putSpec, hspec, hfate]
      rw [hstep]
      exact ⟨hwritten, .raised⟩
  | some stored =>
    have hsame := hs.spec_own stored hspec
    have hstep : callStep spec input store .putSpec = (.readTerminal, store) := by
      simp [callStep, LocalDailyPaperWorkflowStore.putSpec, hspec, hsame]
    rw [hstep]
    exact ⟨hs, .idle (by rw [hspec, hsame]) (by simp) (by simp [CallPhase.known]) rfl⟩

theorem callStep_readTerminal
    (hown : ∀ terminal, store.terminal = some terminal → terminal.workflowId = spec.workflowId) :
    callStep spec input store .readTerminal =
      (store.terminal.elim .listAttempts .listRepair, store) := by
  cases hterminal : store.terminal with
  | none => simp [callStep, hterminal]
  | some terminal => simp [callStep, hterminal, hown terminal hterminal]

/-- Under a stored terminal a call repairs an open chain and returns over a closed one. -/
theorem callStep_listRepair (input : StepInput) (hread : Readable spec.workflowId store)
    (hclosed : ∃ last, store.events.getLast? = some last ∧
      (last.status = .started ∨ last.Agrees terminal)) :
    (Dangling store.events ∧ callStep spec input store (.listRepair terminal) =
      ((match clockValue input.clock with
        | .error e => .raised e
        | .ok occurredAt => .append (.repair terminal occurredAt)), store)) ∨
    (¬Dangling store.events ∧
      callStep spec input store (.listRepair terminal) = (.finished (.ok terminal), store)) := by
  obtain ⟨last, hlast, hclosed⟩ := hclosed
  have hdangling : Dangling store.events ↔ last.status = .started := by
    simp [Dangling, hlast]
  by_cases hstarted : last.status = .started
  · left
    refine ⟨hdangling.mpr hstarted, ?_⟩
    cases hclock : clockValue input.clock <;>
      simp only [callStep, hread.listEvents, repairOrReturn, hlast, if_pos hstarted, hclock]
  · right
    refine ⟨fun h => hstarted (hdangling.mp h), ?_⟩
    have hagrees := hclosed.resolve_left hstarted
    simp only [callStep, hread.listEvents, repairOrReturn, hlast, if_neg hstarted,
      if_pos hagrees]

theorem StoreSound.appended (hs : StoreSound spec store) {event : WorkflowAppend}
    (hdangling : Dangling store.events ↔ event.status ≠ .started)
    (hreason : event.reasonCode.all reasonCodeValid = true)
    (htimes : ∀ last ∈ store.events.getLast?, last.occurredAt ≤ event.occurredAt)
    (hcloses : ∀ terminal, store.terminal = some terminal →
      event.status = .started ∨ terminal.Closes event.status event.reasonCode event.terminalId) :
    StoreSound spec (store.appended spec event) where
  readable := (readable_append (nextEvent_append hs.readable hdangling hreason) rfl).mpr htimes
  spec_own := hs.spec_own
  terminal_spec := hs.terminal_spec
  closed terminal hterminal :=
    ⟨event.toEvent spec.workflowId store.events, by simp [LocalDailyPaperWorkflowStore.appended],
      hcloses terminal hterminal⟩

theorem onError_sound {event : WorkflowAppend} {e : DailyPaperWorkflowError}
    (hspec : store.spec = some spec)
    (hknown : ∀ terminal, event = .complete terminal → store.terminal = some terminal) :
    CallSound spec store (event.onError input e) := by
  cases event with
  | complete terminal =>
    have hopen : store.terminal = none → Dangling store.events := by
      intro hnone
      rw [hknown terminal rfl] at hnone
      cases hnone
    exact .closing hspec hopen (by simp [CallPhase.known])
  | start | repair | reject | fail => exact .raised

theorem append_sound {event : WorkflowAppend} (hs : StoreSound spec store)
    (hp : CallSound spec store (.append event)) (hsafe : StepSafe spec store (.append event) input) :
    StoreSound spec (callStep spec input store (.append event)).2 ∧
      CallSound spec (callStep spec input store (.append event)).2
        (callStep spec input store (.append event)).1 := by
  have hspec : store.spec = some spec := hp.spec_stored (by simp) (by simp)
  have hknown : ∀ terminal, event = .complete terminal → store.terminal = some terminal := by
    rintro terminal rfl
    exact hp.known terminal rfl
  by_cases haccepted : Accepted spec store event input.fate
  · obtain ⟨htimes, hcloses⟩ := hsafe.1 haccepted
    have hafter := hs.appended haccepted.2.1 haccepted.2.2.1 htimes hcloses
    rw [callStep_append haccepted]
    refine ⟨hafter, ?_⟩
    rcases callStep_append_phase spec input store event with ⟨-, -, hnext⟩ | ⟨-, e, hnext⟩
    · rw [hnext]
      refine ⟨fun _ _ => hspec, by simp, fun terminal hknown => ?_, fun hnone hlive => ?_⟩
      · refine hp.known terminal ?_
        cases event <;> exact hknown
      · cases event with
        | start startedAt =>
          exact dangling_concat.mpr rfl
        | repair | complete | reject | fail => simp [CallPhase.live] at hlive
    · rw [hnext]
      exact onError_sound hspec hknown
  · have hsame : (callStep spec input store (.append event)).2 = store := by
      rcases callStep_store spec input store (.append event) with
        h | ⟨h, -⟩ | ⟨_, h, -⟩ | ⟨other, h, haccepted', -⟩
      · exact h
      · cases h
      · cases h
      · cases h
        exact absurd haccepted' haccepted
    rw [hsame]
    refine ⟨hs, ?_⟩
    rcases callStep_append_phase spec input store event with ⟨haccepted', -, -⟩ | ⟨-, e, hnext⟩
    · exact absurd haccepted' haccepted
    · rw [hnext]
      exact onError_sound hspec hknown

theorem confirm_sound {event : WorkflowAppend} (hp : CallSound spec store (.confirm event)) :
    CallSound spec store event.onStored := by
  have hspec : store.spec = some spec := hp.spec_stored (by simp) (by simp)
  cases event with
  | start startedAt =>
    refine ⟨fun _ _ => hspec, by simp [WorkflowAppend.onStored], ?_, fun hnone _ => hp.open_ hnone rfl⟩
    simp [WorkflowAppend.onStored, CallPhase.known]
  | repair terminal _ | complete terminal => exact .finished (hp.known terminal rfl)
  | reject | fail => exact .raised

theorem work_sound {startedAt : Instant} (hp : CallSound spec store (.work startedAt)) :
    CallSound spec store (afterWork spec input startedAt) := by
  have hspec : store.spec = some spec := hp.spec_stored (by simp) (by simp)
  have hopen : store.terminal = none → Dangling store.events := fun hnone => hp.open_ hnone rfl
  have hfailed : CallSound spec store (.append (.fail (attemptEndTime input.endClock startedAt))) :=
    .closing hspec hopen (by simp [CallPhase.known])
  unfold afterWork
  cases input.worker with
  | raised => exact hfailed
  | rejected reasonCode => exact .closing hspec hopen (by simp [CallPhase.known])
  | output output =>
    cases clockValue input.clock with
    | error e => exact hfailed
    | ok completedAt =>
      dsimp only
      cases hterminal : DailyPaperWorkflowTerminal.create spec.workflowId output startedAt completedAt with
      | error e => exact hfailed
      | ok terminal =>
        refine ⟨fun _ _ => hspec, fun other hother => ?_, by simp [CallPhase.known],
          fun hnone _ => hopen hnone⟩
        cases hother
        unfold DailyPaperWorkflowTerminal.create at hterminal
        split at hterminal
        · cases hterminal
          rfl
        · cases hterminal

theorem putTerminal_sound (hs : StoreSound spec store)
    (hp : CallSound spec store (.putTerminal terminal)) :
    StoreSound spec (callStep spec input store (.putTerminal terminal)).2 ∧
      CallSound spec (callStep spec input store (.putTerminal terminal)).2
        (callStep spec input store (.putTerminal terminal)).1 := by
  have hspec : store.spec = some spec := hp.spec_stored (by simp) (by simp)
  cases hstored : store.terminal with
  | none =>
    have hdangling := hp.open_ hstored rfl
    have hwritten : StoreSound spec { store with terminal := some terminal } := by
      refine ⟨hs.readable, hs.spec_own, fun other hother => ?_, fun other hother => ?_⟩
      · cases hother
        exact ⟨hspec, hp.own terminal rfl⟩
      · obtain ⟨last, hlast, hstarted⟩ := hdangling
        exact ⟨last, hlast, .inl hstarted⟩
    have hwritten_closing {event : WorkflowAppend}
        (hknown : ∀ other, (CallPhase.append event).known = some other → some terminal = some other) :
        CallSound spec { store with terminal := some terminal } (.append event) :=
      ⟨fun _ _ => hspec, fun _ h => (by cases h), hknown, fun _ _ => hdangling⟩
    cases hfate : input.fate with
    | durable =>
      have hstep : callStep spec input store (.putTerminal terminal) =
          (.append (.complete terminal), { store with terminal := some terminal }) := by
        simp [callStep, LocalDailyPaperWorkflowStore.putTerminal, hstored, hfate]
      rw [hstep]
      exact ⟨hwritten, hwritten_closing (by simp [CallPhase.known])⟩
    | lost =>
      have hstep : callStep spec input store (.putTerminal terminal) =
          (.append (.fail (attemptEndTime input.endClock terminal.startedAt)), store) := by
        simp [callStep, LocalDailyPaperWorkflowStore.putTerminal, hstored, hfate]
      rw [hstep]
      exact ⟨hs, .closing hspec (fun _ => hdangling) (by simp [CallPhase.known])⟩
    | unconfirmed =>
      have hstep : callStep spec input store (.putTerminal terminal) =
          (.append (.fail (attemptEndTime input.endClock terminal.startedAt)),
            { store with terminal := some terminal }) := by
        simp [callStep, LocalDailyPaperWorkflowStore.putTerminal, hstored, hfate]
      rw [hstep]
      exact ⟨hwritten, hwritten_closing (by simp [CallPhase.known])⟩
  | some stored =>
    have hopen : store.terminal = none → Dangling store.events := by
      intro hnone
      rw [hstored] at hnone
      cases hnone
    by_cases hsame : stored = terminal
    · have hstep : callStep spec input store (.putTerminal terminal) =
          (.append (.complete stored), store) := by
        simp [callStep, LocalDailyPaperWorkflowStore.putTerminal, hstored, hsame]
      rw [hstep]
      refine ⟨hs, .closing hspec hopen ?_⟩
      simp [CallPhase.known, hstored]
    · have hstep : callStep spec input store (.putTerminal terminal) =
          (.append (.fail (attemptEndTime input.endClock terminal.startedAt)), store) := by
        simp [callStep, LocalDailyPaperWorkflowStore.putTerminal, hstored, hsame]
      rw [hstep]
      exact ⟨hs, .closing hspec hopen (by simp [CallPhase.known])⟩

/-- A safe step keeps the store's invariant and what the call knows of it. -/
theorem callStep_sound (hs : StoreSound spec store) (hp : CallSound spec store phase)
    (hsafe : StepSafe spec store phase input) :
    StoreSound spec (callStep spec input store phase).2 ∧
      CallSound spec (callStep spec input store phase).2 (callStep spec input store phase).1 := by
  cases phase with
  | putSpec => exact putSpec_sound hs
  | readTerminal =>
    have hspec : store.spec = some spec := hp.spec_stored (by simp) (by simp)
    rw [callStep_readTerminal fun other hother => (hs.terminal_spec other hother).2]
    refine ⟨hs, ?_⟩
    cases hterminal : store.terminal with
    | none => exact .idle hspec (by simp) (by simp [CallPhase.known]) rfl
    | some terminal =>
      exact .idle hspec (by simp) (by simp [CallPhase.known, hterminal]) rfl
  | listRepair terminal =>
    have hspec : store.spec = some spec := hp.spec_stored (by simp) (by simp)
    have hterminal := hp.known terminal rfl
    rcases callStep_listRepair input hs.readable (hs.closed terminal hterminal) with ⟨-, hstep⟩ | ⟨-, hstep⟩
    · rw [hstep]
      refine ⟨hs, ?_⟩
      cases clockValue input.clock with
      | error e => exact .raised
      | ok occurredAt =>
        exact .idle hspec (by simp) (by simp [CallPhase.known, hterminal]) rfl
    · rw [hstep]
      exact ⟨hs, .finished hterminal⟩
  | listAttempts =>
    have hspec : store.spec = some spec := hp.spec_stored (by simp) (by simp)
    have hstep : callStep spec input store .listAttempts =
        (startOrExhaust spec input store.events, store) := by
      simp [callStep, hs.readable.listEvents]
    rw [hstep]
    refine ⟨hs, ?_⟩
    unfold startOrExhaust
    split
    · exact .raised
    · cases clockValue input.clock with
      | error e => exact .raised
      | ok startedAt => exact .idle hspec (by simp) (by simp [CallPhase.known]) rfl
  | append event => exact append_sound hs hp hsafe
  | confirm event =>
    rw [callStep_confirm hs.readable]
    exact ⟨hs, confirm_sound hp⟩
  | work startedAt => exact ⟨hs, work_sound hp⟩
  | putTerminal terminal => exact putTerminal_sound hs hp
  | finished result => exact ⟨hs, hp⟩

end Step

/-- The stored terminal stays, and a call that closes an attempt without one is itself live. -/
theorem callStep_terminal (spec : DailyPaperWorkflowSpec) (input : StepInput)
    (store : LocalDailyPaperWorkflowStore) (phase : CallPhase)
    (h : store.terminal = some terminal) :
    (callStep spec input store phase).2.terminal = some terminal := by
  rcases callStep_store spec input store phase with
    hstore | ⟨-, -, hstore⟩ | ⟨_, -, hnone, -⟩ | ⟨event, -, -, hstore⟩
  · rw [hstore, h]
  · rw [hstore, h]
  · rw [hnone] at h
    cases h
  · rw [hstore, ← h]
    rfl

theorem callStep_spec (h : store.spec = some spec) :
    (callStep spec input store phase).2.spec = some spec := by
  rcases callStep_store spec input store phase with
    hstore | ⟨-, -, hstore⟩ | ⟨_, -, -, hstore⟩ | ⟨event, -, -, hstore⟩
  · rw [hstore, h]
  · rw [hstore]
  · rw [hstore, ← h]
  · rw [hstore, ← h]
    rfl

theorem not_live_putSpec : (callStep spec input store .putSpec).1.live = false := by
  cases hspec : store.spec with
  | none => cases hfate : input.fate <;>
      simp [callStep, LocalDailyPaperWorkflowStore.putSpec, hspec, hfate, CallPhase.raised,
        CallPhase.live]
  | some stored =>
    by_cases hsame : stored = spec <;>
      simp [callStep, LocalDailyPaperWorkflowStore.putSpec, hspec, hsame, CallPhase.raised,
        CallPhase.live]

theorem not_live_readTerminal : (callStep spec input store .readTerminal).1.live = false := by
  cases hterminal : store.terminal with
  | none => simp [callStep, hterminal, CallPhase.live]
  | some terminal =>
    by_cases hid : terminal.workflowId = spec.workflowId <;>
      simp [callStep, hterminal, hid, CallPhase.raised, CallPhase.live]

theorem not_live_repairOrReturn {events : List DailyPaperWorkflowEvent} :
    (repairOrReturn input terminal events).live = false := by
  unfold repairOrReturn
  cases events.getLast? with
  | none => rfl
  | some last =>
    dsimp only
    split
    · cases clockValue input.clock <;> rfl
    · split <;> rfl

theorem not_live_startOrExhaust {events : List DailyPaperWorkflowEvent} :
    (startOrExhaust spec input events).live = false := by
  unfold startOrExhaust
  split
  · rfl
  · cases clockValue input.clock <;> rfl

/-- A call becomes live only by its own `STARTED`, over a chain at rest. -/
theorem callStep_live (hread : Readable spec.workflowId store) (h : (callStep spec input store phase).1.live = true) :
    phase.live = true ∨ ∃ event, phase = .append event ∧ Accepted spec store event input.fate ∧
      event.status = .started := by
  cases phase with
  | putSpec => simp [not_live_putSpec] at h
  | readTerminal => simp [not_live_readTerminal] at h
  | listRepair terminal => simp [callStep, hread.listEvents, not_live_repairOrReturn] at h
  | listAttempts => simp [callStep, hread.listEvents, not_live_startOrExhaust] at h
  | append event =>
    rcases callStep_append_phase spec input store event with ⟨haccepted, -, hnext⟩ | ⟨-, e, hnext⟩
    · rw [hnext] at h
      cases event with
      | start startedAt => exact .inr ⟨_, rfl, haccepted, rfl⟩
      | repair | complete | reject | fail => cases h
    · rw [hnext] at h
      cases event with
      | complete terminal => exact .inl rfl
      | start | repair | reject | fail => cases h
  | confirm event =>
    rw [callStep_confirm hread] at h
    cases event with
    | start startedAt => exact .inl rfl
    | repair | complete | reject | fail => cases h
  | work startedAt => exact .inl rfl
  | putTerminal terminal => exact .inl rfl
  | finished result => exact .inl h

/-- An event goes over an open chain without a terminal only from the live call. -/
theorem accepted_live {event : WorkflowAppend} (hp : CallSound spec store (.append event))
    (hnone : store.terminal = none) (hevent : event.status ≠ .started) :
    (CallPhase.append event).live = true := by
  cases event with
  | start => exact absurd rfl hevent
  | repair terminal _ | complete terminal =>
    have hstored := hp.known terminal rfl
    rw [hnone] at hstored
    cases hstored
  | reject | fail => rfl

/-- The invariant of a run whose steps are safe: without a terminal at most one call is live, and
its `STARTED` is the last event. -/
structure SystemSound (spec : DailyPaperWorkflowSpec) (system : WorkflowSystem) : Prop where
  store : StoreSound spec system.store
  calls : ∀ call, CallSound spec system.store (system.calls call)
  single : system.store.terminal = none → ∀ call other,
    (system.calls call).live = true → (system.calls other).live = true → call = other

theorem systemSound_initial : SystemSound spec .initial where
  store := ⟨rfl, fun _ h => (by cases h), fun _ h => (by cases h), fun _ h => (by cases h)⟩
  calls _ := ⟨fun h => absurd rfl h, fun _ h => (by cases h), fun _ h => (by cases h),
    fun _ h => (by cases h)⟩
  single _ call other h := by cases h

/-- What the step of one call leaves of another call's open attempt. -/
theorem SystemSound.others_open (h : SystemSound spec system) {other : ℕ} (hother : other ≠ action.call)
    (hnone : (systemStep spec system action).store.terminal = none)
    (hlive : (system.calls other).live = true) :
    Dangling (systemStep spec system action).store.events ∧
      (callStep spec action.input system.store (system.calls action.call)).1.live = false := by
  have hbefore : system.store.terminal = none := by
    cases hterminal : system.store.terminal with
    | none => rfl
    | some terminal =>
      rw [systemStep_store, callStep_terminal spec action.input system.store _ hterminal] at hnone
      cases hnone
  have hdangling : Dangling system.store.events := (h.calls other).open_ hbefore hlive
  have hidle : (system.calls action.call).live = true → False := fun hlive' =>
    hother (h.single hbefore other action.call hlive hlive')
  constructor
  · rw [systemStep_store]
    rcases callStep_store spec action.input system.store (system.calls action.call) with
      hstore | ⟨-, -, hstore⟩ | ⟨_, -, -, hstore⟩ | ⟨event, hphase, haccepted, -⟩
    · rw [hstore]
      exact hdangling
    · rw [hstore]
      exact hdangling
    · rw [hstore]
      exact hdangling
    · have hcall := h.calls action.call
      rw [hphase] at hcall hidle
      exact absurd (accepted_live hcall hbefore (haccepted.2.1.mp hdangling)) hidle
  · cases hnext : (callStep spec action.input system.store (system.calls action.call)).1.live with
    | false => rfl
    | true =>
      rcases callStep_live h.store.readable hnext with hlive' | ⟨event, -, haccepted, hstarted⟩
      · exact absurd hlive' hidle
      · exact absurd hstarted (haccepted.2.1.mp hdangling)

theorem SystemSound.step (h : SystemSound spec system) (hsafe : FinalSafe spec system action) :
    SystemSound spec (systemStep spec system action) := by
  obtain ⟨hstore, hcall⟩ := callStep_sound h.store (h.calls action.call) hsafe
  refine ⟨hstore, fun other => ?_, fun hnone call other hlive hlive' => ?_⟩
  · rw [systemStep_calls, systemStep_store]
    by_cases heq : other = action.call
    · rw [heq, Function.update_self]
      exact hcall
    · rw [Function.update_of_ne heq]
      have hother := h.calls other
      refine ⟨fun hput hfinished => callStep_spec (hother.spec_stored hput hfinished),
        hother.own, fun terminal hknown => ?_, fun hnone hlive => ?_⟩
      · exact callStep_terminal spec action.input system.store _ (hother.known terminal hknown)
      · exact (h.others_open heq hnone hlive).1
  · rw [systemStep_calls] at hlive hlive'
    by_cases hcall' : call = action.call <;> by_cases hother' : other = action.call
    · rw [hcall', hother']
    · rw [hcall', Function.update_self] at hlive
      rw [Function.update_of_ne hother'] at hlive'
      simp [(h.others_open hother' hnone hlive').2] at hlive
    · rw [hother', Function.update_self] at hlive'
      rw [Function.update_of_ne hcall'] at hlive
      simp [(h.others_open hcall' hnone hlive).2] at hlive'
    · rw [Function.update_of_ne hcall'] at hlive
      rw [Function.update_of_ne hother'] at hlive'
      refine h.single ?_ call other hlive hlive'
      cases hterminal : system.store.terminal with
      | none => rfl
      | some terminal =>
        rw [systemStep_store, callStep_terminal spec action.input system.store _ hterminal] at hnone
        cases hnone

end IndiaSwing
