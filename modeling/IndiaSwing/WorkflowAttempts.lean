import IndiaSwing.DailyWorkflowRuns

namespace IndiaSwing

open ActionRuns

variable {spec : DailyPaperWorkflowSpec} {system : WorkflowSystem} {action : WorkflowAction}
variable {actions : List WorkflowAction}

/-- How far a call has come: 0 before it has recorded its own `STARTED`, 1 up to the worker's end,
2 afterwards. -/
def CallPhase.stage : CallPhase → ℕ
  | putSpec | readTerminal | listRepair _ | listAttempts | append (.start _)
  | append (.repair _ _) | confirm (.repair _ _) => 0
  | confirm (.start _) | work _ => 1
  | append (.complete _) | append (.reject _ _) | append (.fail _) | confirm (.complete _)
  | confirm (.reject _ _) | confirm (.fail _) | putTerminal _ | finished _ => 2

theorem stage_onError {event : WorkflowAppend} {input : StepInput} {e : DailyPaperWorkflowError} :
    (event.onError input e).stage = 2 := by
  cases event <;> rfl

theorem stage_afterWork {input : StepInput} {startedAt : Instant} :
    (afterWork spec input startedAt).stage = 2 := by
  unfold afterWork
  cases input.worker with
  | raised | rejected => rfl
  | output output =>
    cases clockValue input.clock with
    | error e => rfl
    | ok completedAt =>
      dsimp only
      cases DailyPaperWorkflowTerminal.create spec.workflowId output startedAt completedAt <;> rfl

theorem stage_repairOrReturn {input : StepInput} {terminal : DailyPaperWorkflowTerminal}
    {events : List DailyPaperWorkflowEvent} :
    (repairOrReturn input terminal events).stage ≠ 1 := by
  unfold repairOrReturn
  cases events.getLast? with
  | none => simp [CallPhase.raised, CallPhase.stage]
  | some last =>
    dsimp only
    split
    · cases clockValue input.clock <;> simp [CallPhase.raised, CallPhase.stage]
    · split <;> simp [CallPhase.raised, CallPhase.stage]

theorem stage_startOrExhaust {input : StepInput} {events : List DailyPaperWorkflowEvent} :
    (startOrExhaust spec input events).stage ≠ 1 := by
  unfold startOrExhaust
  split
  · simp [CallPhase.raised, CallPhase.stage]
  · cases clockValue input.clock <;> simp [CallPhase.raised, CallPhase.stage]

/-- A call never goes back, it is in the worker for one step, and it gets to its worker only by
recording its own `STARTED`. -/
structure StageMoves (phase next : CallPhase) (before after : ℕ) : Prop where
  forward : phase.stage ≤ next.stage
  work : phase.inWork = true → phase.stage = 1 ∧ next.stage = 2
  started : next.stage = 1 → (phase.stage = 1 ∧ after = before) ∨ (phase.stage = 0 ∧ after = before + 1)
  fresh : next.stage = 0 → after = before

theorem StageMoves.fresh_step {phase next : CallPhase} {count : ℕ} (hstage : phase.stage = 0)
    (hnext : next.stage ≠ 1) : StageMoves phase next count count where
  forward := by omega
  work h := by cases phase <;> simp [CallPhase.inWork, CallPhase.stage] at h hstage
  started h := absurd h hnext
  fresh _ := rfl

theorem StageMoves.over {phase next : CallPhase} {before after : ℕ} (hnext : next.stage = 2) :
    StageMoves phase next before after where
  forward := by
    rw [hnext]
    cases phase with
    | append event | confirm event => cases event <;> simp [CallPhase.stage]
    | _ => simp [CallPhase.stage]
  work h := by
    refine ⟨?_, hnext⟩
    cases phase <;> simp [CallPhase.inWork, CallPhase.stage] at h ⊢
  started h := by omega
  fresh h := by omega

theorem callStep_putSpec_stage (spec : DailyPaperWorkflowSpec) (input : StepInput)
    (store : LocalDailyPaperWorkflowStore) : (callStep spec input store .putSpec).1.stage ≠ 1 := by
  cases hspec : store.spec with
  | none => cases hfate : input.fate <;>
      simp [callStep, LocalDailyPaperWorkflowStore.putSpec, hspec, hfate, CallPhase.raised,
        CallPhase.stage]
  | some stored =>
    by_cases hsame : stored = spec <;>
      simp [callStep, LocalDailyPaperWorkflowStore.putSpec, hspec, hsame, CallPhase.raised,
        CallPhase.stage]

theorem callStep_readTerminal_stage (spec : DailyPaperWorkflowSpec) (input : StepInput)
    (store : LocalDailyPaperWorkflowStore) : (callStep spec input store .readTerminal).1.stage ≠ 1 := by
  cases hterminal : store.terminal with
  | none => simp [callStep, hterminal, CallPhase.stage]
  | some terminal =>
    by_cases hid : terminal.workflowId = spec.workflowId <;>
      simp [callStep, hterminal, hid, CallPhase.raised, CallPhase.stage]

theorem callStep_putTerminal_stage (spec : DailyPaperWorkflowSpec) (input : StepInput)
    (store : LocalDailyPaperWorkflowStore) (terminal : DailyPaperWorkflowTerminal) :
    (callStep spec input store (.putTerminal terminal)).1.stage = 2 := by
  cases hstored : store.putTerminal input.fate terminal with
  | mk result after => cases result <;> simp [callStep, hstored, CallPhase.stage]

theorem callStep_stage (spec : DailyPaperWorkflowSpec) (input : StepInput)
    (store : LocalDailyPaperWorkflowStore) (phase : CallPhase) :
    StageMoves phase (callStep spec input store phase).1 (attempts store.events)
      (attempts (callStep spec input store phase).2.events) := by
  cases phase with
  | putSpec =>
    rw [callStep_events (by simp)]
    exact .fresh_step rfl (callStep_putSpec_stage spec input store)
  | readTerminal =>
    rw [callStep_events (by simp)]
    exact .fresh_step rfl (callStep_readTerminal_stage spec input store)
  | listRepair terminal =>
    rw [callStep_events (by simp)]
    refine .fresh_step rfl ?_
    cases hread : store.listEvents spec.workflowId with
    | error e => simp [callStep, hread, CallPhase.raised, CallPhase.stage]
    | ok events => simp [callStep, hread, stage_repairOrReturn]
  | listAttempts =>
    rw [callStep_events (by simp)]
    refine .fresh_step rfl ?_
    cases hread : store.listEvents spec.workflowId with
    | error e => simp [callStep, hread, CallPhase.raised, CallPhase.stage]
    | ok events => simp [callStep, hread, stage_startOrExhaust]
  | work startedAt => exact .over stage_afterWork
  | finished result => exact .over rfl
  | putTerminal terminal => exact .over (callStep_putTerminal_stage spec input store terminal)
  | append event =>
    rcases callStep_append_phase spec input store event with ⟨haccepted, -, hnext⟩ | ⟨-, e, hnext⟩
    · rw [hnext, callStep_append haccepted, attempts_appended]
      cases event with
      | start startedAt =>
        refine ⟨by simp [CallPhase.stage], by simp [CallPhase.inWork], fun _ => .inr ⟨rfl, ?_⟩, ?_⟩
        · simp [WorkflowAppend.status]
        · simp [CallPhase.stage]
      | repair terminal occurredAt =>
        have hstatus := terminal.expectedStatus_ne_started
        simp only [WorkflowAppend.status, hstatus, if_false, Nat.add_zero]
        exact .fresh_step rfl (by simp [CallPhase.stage])
      | complete | reject | fail => exact .over rfl
    · rw [hnext]
      exact .over stage_onError
  | confirm event =>
    rw [callStep_events (by simp)]
    by_cases hread : Readable spec.workflowId store
    · rw [callStep_confirm hread]
      cases event with
      | start startedAt =>
        exact ⟨le_refl 1, by simp [CallPhase.inWork], fun _ => .inl ⟨rfl, rfl⟩, fun _ => rfl⟩
      | repair | complete | reject | fail => exact .over rfl
    · obtain ⟨e, -, hnext⟩ := callStep_confirm_unreadable input event hread
      rw [hnext]
      exact .over stage_onError

/-- Every recorded attempt has its own call, and a call runs the worker at most once, after it has
recorded its attempt. -/
structure AttemptsCounted (system : WorkflowSystem) : Prop where
  starts_nodup : system.starts.Nodup
  executions_nodup : system.executions.Nodup
  executions_subset : system.executions ⊆ system.starts
  length_starts : system.starts.length = attempts system.store.events
  fresh : ∀ call, (system.calls call).stage = 0 → call ∉ system.starts
  running : ∀ call, (system.calls call).stage = 1 → call ∈ system.starts ∧ call ∉ system.executions

theorem attemptsCounted_initial : AttemptsCounted .initial where
  starts_nodup := List.nodup_nil
  executions_nodup := List.nodup_nil
  executions_subset := List.Subset.refl []
  length_starts := rfl
  fresh call _ := List.not_mem_nil
  running call h := by cases h

theorem nodup_snoc {α : Type} {xs : List α} {x : α} (h : xs.Nodup) (hx : x ∉ xs) :
    (xs ++ [x]).Nodup := by
  rw [← List.concat_eq_append]
  exact h.concat hx

section Moves

variable {after : LocalDailyPaperWorkflowStore} {call : ℕ} {next : CallPhase}

/-- A step that neither records an attempt nor runs the worker. -/
theorem AttemptsCounted.moved (h : AttemptsCounted system)
    (hcount : attempts after.events = attempts system.store.events)
    (hforward : (system.calls call).stage ≤ next.stage)
    (hrunning : next.stage = 1 → (system.calls call).stage = 1) :
    AttemptsCounted ⟨after, Function.update system.calls call next, system.starts,
      system.executions⟩ where
  starts_nodup := h.starts_nodup
  executions_nodup := h.executions_nodup
  executions_subset := h.executions_subset
  length_starts := h.length_starts.trans hcount.symm
  fresh other hother := by
    dsimp only at hother ⊢
    by_cases heq : other = call
    · subst heq
      rw [Function.update_self] at hother
      exact h.fresh other (by omega)
    · rw [Function.update_of_ne heq] at hother
      exact h.fresh other hother
  running other hother := by
    dsimp only at hother ⊢
    by_cases heq : other = call
    · subst heq
      rw [Function.update_self] at hother
      exact h.running other (hrunning hother)
    · rw [Function.update_of_ne heq] at hother
      exact h.running other hother

/-- The step that runs the worker. -/
theorem AttemptsCounted.worked (h : AttemptsCounted system)
    (hcount : attempts after.events = attempts system.store.events)
    (hrunning : (system.calls call).stage = 1) (hnext : next.stage = 2) :
    AttemptsCounted ⟨after, Function.update system.calls call next, system.starts,
      system.executions ++ [call]⟩ where
  starts_nodup := h.starts_nodup
  executions_nodup := nodup_snoc h.executions_nodup (h.running call hrunning).2
  executions_subset := by
    refine List.append_subset.mpr ⟨h.executions_subset, ?_⟩
    simpa using (h.running call hrunning).1
  length_starts := h.length_starts.trans hcount.symm
  fresh other hother := by
    dsimp only at hother ⊢
    by_cases heq : other = call
    · subst heq
      rw [Function.update_self] at hother
      omega
    · rw [Function.update_of_ne heq] at hother
      exact h.fresh other hother
  running other hother := by
    dsimp only at hother ⊢
    by_cases heq : other = call
    · subst heq
      rw [Function.update_self] at hother
      omega
    · rw [Function.update_of_ne heq] at hother
      obtain ⟨hstarted, hidle⟩ := h.running other hother
      exact ⟨hstarted, by simp [hidle, heq]⟩

/-- The step that records an attempt. -/
theorem AttemptsCounted.recorded (h : AttemptsCounted system)
    (hcount : attempts after.events = attempts system.store.events + 1)
    (hfresh : (system.calls call).stage = 0) (hnext : next.stage ≠ 0) :
    AttemptsCounted ⟨after, Function.update system.calls call next, system.starts ++ [call],
      system.executions⟩ where
  starts_nodup := nodup_snoc h.starts_nodup (h.fresh call hfresh)
  executions_nodup := h.executions_nodup
  executions_subset := List.subset_append_of_subset_left _ h.executions_subset
  length_starts := by rw [List.length_append, List.length_singleton, h.length_starts, hcount]
  fresh other hother := by
    dsimp only at hother ⊢
    by_cases heq : other = call
    · subst heq
      rw [Function.update_self] at hother
      exact absurd hother hnext
    · rw [Function.update_of_ne heq] at hother
      simp [h.fresh other hother, heq]
  running other hother := by
    dsimp only at hother ⊢
    by_cases heq : other = call
    · subst heq
      exact ⟨by simp, fun hin => h.fresh other hfresh (h.executions_subset hin)⟩
    · rw [Function.update_of_ne heq] at hother
      obtain ⟨hstarted, hidle⟩ := h.running other hother
      exact ⟨List.mem_append_left _ hstarted, hidle⟩

end Moves

theorem AttemptsCounted.step (h : AttemptsCounted system) (action : WorkflowAction) :
    AttemptsCounted (systemStep spec system action) := by
  have hmoves := callStep_stage spec action.input system.store (system.calls action.call)
  have hgrowth := callStep_attempts spec action.input system.store (system.calls action.call)
  unfold systemStep
  dsimp only
  rcases hgrowth with hsame | ⟨startedAt, hphase, -, hgrown⟩
  · rw [if_neg (show ¬_ < _ by omega)]
    by_cases hwork : (system.calls action.call).inWork = true
    · rw [if_pos hwork]
      exact h.worked hsame (hmoves.work hwork).1 (hmoves.work hwork).2
    · rw [if_neg hwork]
      refine h.moved hsame hmoves.forward fun hrunning => ?_
      rcases hmoves.started hrunning with ⟨hstarted, -⟩ | ⟨-, hgrown⟩
      · exact hstarted
      · omega
  · have hfresh : (system.calls action.call).stage = 0 := by
      rw [hphase]
      rfl
    have hidle : ¬(system.calls action.call).inWork = true := by
      rw [hphase]
      simp [CallPhase.inWork]
    rw [if_pos (show _ < _ by omega), if_neg hidle]
    refine h.recorded hgrown hfresh fun hnext => ?_
    have hback := hmoves.fresh hnext
    omega

theorem attemptsCounted_run (spec : DailyPaperWorkflowSpec) (actions : List WorkflowAction) :
    AttemptsCounted (runSystem spec actions) :=
  run_invariant attemptsCounted_initial (fun _ action h => h.step action) actions

/-- The attempts that the runner counted are still below the budget when its `STARTED` goes in. -/
def StartWithinBudget (spec : DailyPaperWorkflowSpec) (system : WorkflowSystem)
    (action : WorkflowAction) : Prop :=
  ∀ startedAt, system.calls action.call = .append (.start startedAt) →
    Accepted spec system.store (.start startedAt) action.input.fate →
    attempts system.store.events < spec.maximumAttempts

theorem startWithinBudget_step (h : attempts system.store.events ≤ spec.maximumAttempts) :
    StartWithinBudget spec system action ↔
      attempts (systemStep spec system action).store.events ≤ spec.maximumAttempts := by
  have hgrowth := callStep_attempts spec action.input system.store (system.calls action.call)
  constructor
  · intro hbudget
    rcases hgrowth with hsame | ⟨startedAt, hphase, haccepted, hgrown⟩
    · exact hsame.trans_le h
    · have hbelow := hbudget startedAt hphase haccepted
      exact hgrown.trans_le hbelow
  · intro hafter startedAt hphase haccepted
    have hstored : (callStep spec action.input system.store (.append (.start startedAt))).2 =
        system.store.appended spec (.start startedAt) := callStep_append haccepted
    have hgrown : attempts (systemStep spec system action).store.events =
        attempts system.store.events + 1 := by
      rw [systemStep_store, hphase, hstored, attempts_appended]
      rfl
    omega

/-- A specification whose budget is a single attempt. -/
def singleAttemptSpec : DailyPaperWorkflowSpec where
  runId := 1
  derivedEvidenceId := 2
  stateBucket := "paper-state"
  portfolioGenesisArtifactId := none
  previousRolloverId := none
  dailyLossLimit := ⟨1000, by norm_num⟩
  cumulativeLossLimit := ⟨2000, by norm_num⟩
  maximumAttempts := 1
  lineage := by simp
  attempts_pos := le_refl 1
  attempts_le := by decide

/-- A step of a call at a minute, with a worker that raises and writes that get there. -/
def failingStep (call : ℕ) (minute : ℤ) : WorkflowAction :=
  ⟨call, .time (minute * 60000000), .time (minute * 60000000), .raised, .durable⟩

/-- Two calls count no attempt; the first one fails, and the second one starts all the same. -/
def staleCountRun : List WorkflowAction :=
  (List.range 3).map (failingStep 0) ++ (List.range 3).map (failingStep 1) ++
    [failingStep 0 4, failingStep 0 5, failingStep 0 6, failingStep 0 7, failingStep 1 8]

end IndiaSwing
