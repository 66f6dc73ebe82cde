import IndiaSwing.WorkflowInvariants

namespace IndiaSwing

open ActionRuns

variable {spec : DailyPaperWorkflowSpec} {system : WorkflowSystem} {action : WorkflowAction}
variable {actions before after : List WorkflowAction} {store : LocalDailyPaperWorkflowStore}
variable {phase : CallPhase} {input : StepInput} {terminal : DailyPaperWorkflowTerminal} {call : ℕ}

/-- On the way of a call that starts under a stored terminal, from its beginning to its return. -/
def CallPhase.Returning (terminal : DailyPaperWorkflowTerminal) : CallPhase → Prop
  | putSpec | readTerminal => True
  | listRepair other | append (.repair other _) | confirm (.repair other _)
  | finished (.ok other) => other = terminal
  | _ => False

/-- The steps that such a call still has before it returns. -/
def CallPhase.stepsLeft : CallPhase → ℕ
  | putSpec => 5
  | readTerminal => 4
  | listRepair _ => 3
  | append _ => 2
  | confirm _ => 1
  | _ => 0

theorem CallPhase.Returning.finished (h : phase.Returning terminal)
    (hleft : phase.stepsLeft = 0) : phase = .finished (.ok terminal) := by
  cases phase with
  | finished result =>
    cases result with
    | error e => cases h
    | ok other =>
      cases h
      rfl
  | work | putTerminal | listAttempts => cases h
  | putSpec | readTerminal | listRepair | append | confirm => cases hleft

theorem callStep_returning (hs : StoreSound spec store) (hp : CallSound spec store phase)
    (hterminal : store.terminal = some terminal) (hreturning : phase.Returning terminal)
    (hsafe : StepSafe spec store phase input) :
    (callStep spec input store phase).1.Returning terminal ∧
      ((callStep spec input store phase).1.stepsLeft < phase.stepsLeft ∨
        phase = .finished (.ok terminal)) := by
  cases phase with
  | putSpec =>
    have hspec := (hs.terminal_spec terminal hterminal).1
    have hstep : callStep spec input store .putSpec = (.readTerminal, store) := by
      simp [callStep, LocalDailyPaperWorkflowStore.putSpec, hspec]
    rw [hstep]
    exact ⟨trivial, .inl (Nat.lt_succ_self 4)⟩
  | readTerminal =>
    rw [callStep_readTerminal fun other hother => (hs.terminal_spec other hother).2, hterminal]
    exact ⟨rfl, .inl (by simp [CallPhase.stepsLeft])⟩
  | listRepair other =>
    cases hreturning
    rcases callStep_listRepair input hs.readable (hs.closed terminal hterminal) with ⟨hdangling, hstep⟩ | ⟨-, hstep⟩
    · obtain ⟨occurredAt, hclock⟩ := hsafe hdangling
      rw [hstep, hclock]
      exact ⟨rfl, .inl (by simp [CallPhase.stepsLeft])⟩
    · rw [hstep]
      exact ⟨rfl, .inl (by simp [CallPhase.stepsLeft])⟩
  | append event =>
    cases event with
    | repair other occurredAt =>
      have haccepted := hsafe.2 other occurredAt rfl
      rcases callStep_append_phase spec input store (.repair other occurredAt) with
        ⟨-, -, hnext⟩ | ⟨hrefused, -⟩
      · rw [hnext]
        exact ⟨hreturning, .inl (by simp [CallPhase.stepsLeft])⟩
      · exact absurd haccepted hrefused
    | start | complete | reject | fail => cases hreturning
  | confirm event =>
    cases event with
    | repair other occurredAt =>
      cases hreturning
      rw [callStep_confirm hs.readable]
      exact ⟨rfl, .inl (by simp [CallPhase.stepsLeft, WorkflowAppend.onStored])⟩
    | start | complete | reject | fail => cases hreturning
  | finished result =>
    cases result with
    | error e => cases hreturning
    | ok other =>
      cases hreturning
      exact ⟨rfl, .inr rfl⟩
  | listAttempts | work | putTerminal => cases hreturning

/-- From where a terminal is stored it stays, no event that is added contradicts it, and a call
that starts later runs no worker and returns it within five steps. -/
def TerminalFinal (spec : DailyPaperWorkflowSpec) (actions : List WorkflowAction) : Prop :=
  ∀ before after terminal, actions = before ++ after →
    (runSystem spec before).store.terminal = some terminal →
    (runSystem spec actions).store.terminal = some terminal ∧
    (∃ added, (runSystem spec actions).store.events = (runSystem spec before).store.events ++ added ∧
      ∀ event ∈ added, event.status = .started ∨ event.Agrees terminal) ∧
    ∀ call, (runSystem spec before).calls call = .putSpec →
      call ∉ (runSystem spec actions).executions ∧
      (∀ result, (runSystem spec actions).calls call = .finished result → result = .ok terminal) ∧
      (5 ≤ after.countP (·.call = call) →
        (runSystem spec actions).calls call = .finished (.ok terminal))

/-- What holds of the run after the terminal is stored. -/
structure FinalSince (spec : DailyPaperWorkflowSpec) (terminal : DailyPaperWorkflowTerminal)
    (origin : WorkflowSystem) (taken : List WorkflowAction) (system : WorkflowSystem) : Prop where
  stored : system.store.terminal = some terminal
  added : ∃ added, system.store.events = origin.store.events ++ added ∧
    ∀ event ∈ added, event.status = .started ∨ event.Agrees terminal
  later : ∀ call, origin.calls call = .putSpec →
    call ∉ system.executions ∧ (system.calls call).Returning terminal ∧
      ((system.calls call).stepsLeft + taken.countP (·.call = call) ≤ 5 ∨
        system.calls call = .finished (.ok terminal))

theorem FinalSince.step {origin : WorkflowSystem} {taken : List WorkflowAction}
    (h : FinalSince spec terminal origin taken system) (hsound : SystemSound spec system)
    (hsafe : FinalSafe spec system action) :
    FinalSince spec terminal origin (taken ++ [action]) (systemStep spec system action) where
  stored := callStep_terminal spec action.input system.store _ h.stored
  added := by
    obtain ⟨added, hadded, hagrees⟩ := h.added
    rw [systemStep_store]
    rcases callStep_store spec action.input system.store (system.calls action.call) with
      hstore | ⟨-, -, hstore⟩ | ⟨_, -, -, hstore⟩ | ⟨event, hphase, haccepted, hstore⟩
    · exact ⟨added, by rw [hstore, hadded], hagrees⟩
    · exact ⟨added, by rw [hstore, hadded], hagrees⟩
    · exact ⟨added, by rw [hstore, hadded], hagrees⟩
    · unfold FinalSafe at hsafe
      rw [hphase] at hsafe
      have hcloses := (hsafe.1 haccepted).2 terminal h.stored
      refine ⟨added ++ [event.toEvent spec.workflowId system.store.events], ?_, ?_⟩
      · rw [hstore, ← List.append_assoc, ← hadded]
        rfl
      · intro other hother
        rcases List.mem_append.mp hother with hin | hin
        · exact hagrees other hin
        · rw [List.mem_singleton.mp hin]
          exact hcloses
  later other hother := by
    obtain ⟨hidle, hreturning, hleft⟩ := h.later other hother
    rw [systemStep_calls, List.countP_append, List.countP_singleton]
    by_cases heq : other = action.call
    · subst heq
      obtain ⟨hnext, hfewer⟩ :=
        callStep_returning hsound.store (hsound.calls action.call) h.stored hreturning hsafe
      have hwork : (system.calls action.call).inWork = false := by
        cases hphase : system.calls action.call with
        | work => simp [hphase, CallPhase.Returning] at hreturning
        | _ => rfl
      refine ⟨by simpa [systemStep, hwork] using hidle, ?_, ?_⟩
      · rw [Function.update_self]
        exact hnext
      · rw [Function.update_self]
        rcases hfewer with hfewer | hfinished
        · left
          rcases hleft with hleft | hfinished
          · simp
            omega
          · rw [hfinished] at hfewer
            cases hfewer
        · right
          rw [hfinished]
          rfl
    · rw [Function.update_of_ne heq, if_neg (by simpa using fun h => heq h.symm), Nat.add_zero]
      refine ⟨?_, hreturning, hleft⟩
      unfold systemStep
      dsimp only
      split
      · simp [hidle, heq]
      · exact hidle

/-- At most one write of each call fails. -/
def SingleFailures (actions : List WorkflowAction) : Prop :=
  ∀ call, actions.countP (fun action => action.call = call ∧ action.input.fate ≠ .durable) ≤ 1

/-- The output of a day without active positions. -/
def quietOutput : DailyPaperWorkflowOutput where
  status := .noActivePositions
  preparationId := none
  batchId := none
  stateId := none
  outcomeManifestPins := []
  portfolioManifestPin := none
  telegramReceiptId := 7
  rollover := none
  pins_nodup := List.nodup_nil
  complete_lineage h := by cases h
  empty_lineage _ := ⟨rfl, rfl, rfl, rfl, rfl, rfl⟩

def quietStep (call : ℕ) (fate : WriteFate) (minute : ℤ) : WorkflowAction :=
  ⟨call, .time (minute * 60000000), .time (minute * 60000000), .output quietOutput, fate⟩

def quietTerminal : DailyPaperWorkflowTerminal where
  workflowId := singleAttemptSpec.workflowId
  output := quietOutput
  startedAt := 2 * 60000000
  completedAt := 5 * 60000000
  forward := by decide

/-- The first call publishes its terminal. -/
def publishingRun : List WorkflowAction :=
  [quietStep 0 .durable 0, quietStep 0 .durable 1, quietStep 0 .durable 2, quietStep 0 .durable 3,
    quietStep 0 .durable 4, quietStep 0 .durable 5, quietStep 0 .durable 6]

/-- It closes its attempt, and a later call returns the terminal. -/
def closingRun : List WorkflowAction :=
  [quietStep 0 .durable 7, quietStep 0 .durable 8, quietStep 1 .durable 10, quietStep 1 .durable 11,
    quietStep 1 .durable 12]

/-- Then the event that closes its attempt is lost, and the failure is recorded in its place. -/
def lostClosing : List WorkflowAction :=
  [quietStep 0 .lost 7, quietStep 0 .durable 8, quietStep 0 .durable 9, quietStep 1 .durable 10,
    quietStep 1 .durable 11, quietStep 1 .durable 12]

end IndiaSwing
