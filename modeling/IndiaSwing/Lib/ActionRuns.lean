import IndiaSwing.Lib.Slices
import Mathlib.Data.List.Nodup
import Mathlib.Logic.Function.Basic

namespace ActionRuns

open ListSplits (split_concat)

variable {σ α : Type*} {step : σ → α → σ} {start : σ} {P Q : σ → α → Prop} {I : σ → Prop}
variable {actions : List α} {action : α}

/-- The state that a list of actions leads to. -/
def run (step : σ → α → σ) (start : σ) (actions : List α) : σ := actions.foldl step start

@[simp] theorem run_nil : run step start [] = start := rfl

@[simp] theorem run_concat : run step start (actions ++ [action]) = step (run step start actions) action := by
  simp [run]

/-- `P` holds of every action and the state that it is taken in. -/
def EveryStep (step : σ → α → σ) (start : σ) (P : σ → α → Prop) (actions : List α) : Prop :=
  ∀ before action after, actions = before ++ action :: after → P (run step start before) action

theorem everyStep_nil : EveryStep step start P [] := by
  intro before action after h
  cases before <;> cases h

theorem everyStep_cons : EveryStep step start P (action :: actions) ↔
    P start action ∧ EveryStep step (step start action) P actions := by
  constructor
  · intro h
    refine ⟨h [] action actions rfl, fun before other after heq => ?_⟩
    exact h (action :: before) other after (by rw [heq, List.cons_append])
  · rintro ⟨haction, hactions⟩ before other after heq
    cases before with
    | nil =>
      cases heq
      exact haction
    | cons first before =>
      obtain ⟨rfl, hrest⟩ := List.cons.inj heq
      exact hactions before other after hrest

theorem everyStep_concat : EveryStep step start P (actions ++ [action]) ↔
    EveryStep step start P actions ∧ P (run step start actions) action := by
  constructor
  · intro h
    refine ⟨fun before other after heq => ?_, h actions action [] rfl⟩
    refine h before other (after ++ [action]) ?_
    rw [heq, List.append_assoc, List.cons_append]
  · rintro ⟨hactions, haction⟩ before other after heq
    rcases split_concat heq with ⟨rfl, rfl, -⟩ | ⟨init, heq', -⟩
    · exact haction
    · exact hactions before other init heq'

/-- An invariant that every step under `P` keeps holds wherever a run of such steps leads. -/
theorem EveryStep.invariant (h : EveryStep step start P actions) (hstart : I start)
    (hstep : ∀ s a, I s → P s a → I (step s a)) : I (run step start actions) := by
  induction actions using List.reverseRecOn with
  | nil => exact hstart
  | append_singleton actions action ih =>
    obtain ⟨hactions, haction⟩ := everyStep_concat.mp h
    rw [run_concat]
    exact hstep _ _ (ih hactions) haction

/-- A relation to the point where a run stands now, kept by every later step, holds to its end. -/
theorem EveryStep.since {J : List α → σ → Prop} {before after : List α}
    (h : EveryStep step start P (before ++ after)) (hstart : I start)
    (hstep : ∀ s a, I s → P s a → I (step s a)) (hnow : J [] (run step start before))
    (hnext : ∀ taken s a, I s → J taken s → P s a → J (taken ++ [a]) (step s a)) :
    J after (run step start (before ++ after)) := by
  induction after using List.reverseRecOn with
  | nil =>
    rw [List.append_nil]
    exact hnow
  | append_singleton after action ih =>
    rw [← List.append_assoc] at h ⊢
    obtain ⟨hafter, haction⟩ := everyStep_concat.mp h
    rw [run_concat]
    exact hnext after _ action (hafter.invariant hstart hstep) (ih hafter) haction

theorem run_invariant (hstart : I start) (hstep : ∀ s a, I s → I (step s a)) (actions : List α) :
    I (run step start actions) := by
  have hevery : EveryStep step start (fun _ _ => True) actions := fun _ _ _ _ => trivial
  exact hevery.invariant hstart fun s a hs _ => hstep s a hs

/-- Step properties that agree wherever an invariant holds agree over whole runs. -/
theorem everyStep_congr (hstart : I start) (hstep : ∀ s a, I s → I (step s a))
    (h : ∀ s a, I s → (P s a ↔ Q s a)) : EveryStep step start P actions ↔ EveryStep step start Q actions := by
  constructor
  · intro hevery before action after heq
    exact (h _ _ (run_invariant hstart hstep before)).mp (hevery before action after heq)
  · intro hevery before action after heq
    exact (h _ _ (run_invariant hstart hstep before)).mpr (hevery before action after heq)

/-- Where every step keeps an invariant exactly under `P`, the invariant holds all along a run
exactly if every step is under `P`. -/
theorem everyStep_iff_prefixes (hstart : I start) (hstep : ∀ s a, I s → (I (step s a) ↔ P s a)) :
    (∀ earlier, earlier <+: actions → I (run step start earlier)) ↔ EveryStep step start P actions := by
  constructor
  · intro h before action after heq
    have hbefore := h before ⟨action :: after, heq.symm⟩
    have hnext := h (before ++ [action]) ⟨after, by rw [heq, List.append_assoc]; rfl⟩
    rw [run_concat] at hnext
    exact (hstep _ _ hbefore).mp hnext
  · rintro h earlier ⟨rest, rfl⟩
    have hearlier : EveryStep step start P earlier := by
      intro before action after heq
      exact h before action (after ++ rest) (by rw [heq, List.append_assoc, List.cons_append])
    exact hearlier.invariant hstart fun s a hs hP => (hstep s a hs).mpr hP

end ActionRuns

/-! Any number of calls that take turns on a shared state. A call that is killed is one that takes no
further turn. -/

namespace Interleaving

open ActionRuns

structure System (σ π : Type*) where
  shared : σ
  calls : ℕ → π

structure Turn (ι : Type*) where
  call : ℕ
  input : ι

variable {σ π ι ν : Type*}

/-- The chosen call takes its next step. -/
def turn (callStep : ℕ → ι → σ → π → π × σ) (system : System σ π) (action : Turn ι) : System σ π :=
  let next := callStep action.call action.input system.shared (system.calls action.call)
  ⟨next.2, Function.update system.calls action.call next.1⟩

def runTurns (callStep : ℕ → ι → σ → π → π × σ) (start : System σ π) (turns : List (Turn ι)) :
    System σ π := run (turn callStep) start turns

variable {callStep : ℕ → ι → σ → π → π × σ} {start system : System σ π} {turns : List (Turn ι)}
variable {I : σ → Prop} {J : ℕ → σ → π → Prop}

@[simp] theorem turn_shared (action : Turn ι) : (turn callStep system action).shared =
    (callStep action.call action.input system.shared (system.calls action.call)).2 := rfl

@[simp] theorem turn_calls_self (action : Turn ι) : (turn callStep system action).calls action.call =
    (callStep action.call action.input system.shared (system.calls action.call)).1 :=
  Function.update_self ..

theorem turn_calls_other {action : Turn ι} {i : ℕ} (h : i ≠ action.call) :
    (turn callStep system action).calls i = system.calls i := Function.update_of_ne h ..

/-- The shared state satisfies `I`, and each call is where `J` says it may be. -/
def Holds (I : σ → Prop) (J : ℕ → σ → π → Prop) (system : System σ π) : Prop :=
  I system.shared ∧ ∀ i, J i system.shared (system.calls i)

/-- What a step keeps for its own call and leaves undisturbed for every other one. -/
structure Stable (callStep : ℕ → ι → σ → π → π × σ) (I : σ → Prop) (J : ℕ → σ → π → Prop) : Prop where
  shared : ∀ i input s p, I s → J i s p → I (callStep i input s p).2
  own : ∀ i input s p, I s → J i s p → J i (callStep i input s p).2 (callStep i input s p).1
  others : ∀ i j input s p q, i ≠ j → I s → J i s p → J j s q → J j (callStep i input s p).2 q

theorem Stable.turn (h : Stable callStep I J) (hsystem : Holds I J system) (action : Turn ι) :
    Holds I J (turn callStep system action) := by
  obtain ⟨hshared, hcalls⟩ := hsystem
  refine ⟨h.shared _ _ _ _ hshared (hcalls _), fun i => ?_⟩
  by_cases hi : i = action.call
  · subst hi
    rw [turn_calls_self, turn_shared]
    exact h.own _ _ _ _ hshared (hcalls _)
  · rw [turn_calls_other hi, turn_shared]
    exact h.others _ _ _ _ _ _ (Ne.symm hi) hshared (hcalls _) (hcalls i)

theorem Stable.run (h : Stable callStep I J) (hstart : Holds I J start) (turns : List (Turn ι)) :
    Holds I J (runTurns callStep start turns) :=
  run_invariant hstart (fun _ action hsystem => h.turn hsystem action) turns

/-- A relation between shared states that every step respects is respected by every run. -/
theorem runTurns_rel {R : σ → σ → Prop} (hrefl : ∀ s, R s s)
    (htrans : ∀ s t u, R s t → R t u → R s u)
    (hstep : ∀ i input s p, R s (callStep i input s p).2) (turns : List (Turn ι)) :
    R start.shared (runTurns callStep start turns).shared := by
  induction turns using List.reverseRecOn with
  | nil => exact hrefl _
  | append_singleton turns action ih =>
    unfold runTurns at ih ⊢
    rw [run_concat]
    exact htrans _ _ _ ih (hstep _ _ _ _)

/-- An effect under a name takes a right that a call gets at most once for every name: when it marks
the name as claimed. -/
structure Claimed [DecidableEq ν] (callStep : ℕ → ι → σ → π → π × σ) (holds : ℕ → π → ν → Prop)
    (claimed : σ → ν → Prop) (fired : σ → List ν) : Prop where
  kept : ∀ i input s p name, claimed s name → claimed (callStep i input s p).2 name
  acquired : ∀ i input s p name, holds i (callStep i input s p).1 name → holds i p name ∨
    (¬claimed s name ∧ claimed (callStep i input s p).2 name)
  spent : ∀ i input s p, fired (callStep i input s p).2 = fired s ∨
    ∃ name, holds i p name ∧ ¬holds i (callStep i input s p).1 name ∧
      fired (callStep i input s p).2 = fired s ++ [name]

section Claimed

variable [DecidableEq ν] {holds : ℕ → π → ν → Prop} {claimed : σ → ν → Prop} {fired : σ → List ν}

/-- Rights and effects are claimed, no two calls hold one right, and a held right is unspent. -/
structure Exclusive (holds : ℕ → π → ν → Prop) (claimed : σ → ν → Prop) (fired : σ → List ν)
    (system : System σ π) : Prop where
  held : ∀ i name, holds i (system.calls i) name → claimed system.shared name ∧
    name ∉ fired system.shared
  single : ∀ i j name, holds i (system.calls i) name → holds j (system.calls j) name → i = j
  known : ∀ name ∈ fired system.shared, claimed system.shared name
  once : (fired system.shared).Nodup

theorem Claimed.acquired_of_ne (h : Claimed callStep holds claimed fired)
    (hsystem : Exclusive holds claimed fired system) {action : Turn ι} {j : ℕ} {name : ν}
    (hj : j ≠ action.call) (hheld : holds j (system.calls j) name) :
    ¬holds action.call
      (callStep action.call action.input system.shared (system.calls action.call)).1 name := by
  intro hnext
  rcases h.acquired _ _ _ _ _ hnext with hown | ⟨hfree, -⟩
  · exact hj (hsystem.single j action.call name hheld hown)
  · exact hfree (hsystem.held j name hheld).1

theorem Claimed.turn (h : Claimed callStep holds claimed fired)
    (hsystem : Exclusive holds claimed fired system) (action : Turn ι) :
    Exclusive holds claimed fired (turn callStep system action) := by
  set s := system.shared with hs
  set p := system.calls action.call with hp
  set next := callStep action.call action.input s p with hnext
  have hcalls : ∀ i, (Interleaving.turn callStep system action).calls i =
      if i = action.call then next.1 else system.calls i := by
    intro i
    by_cases hi : i = action.call
    · subst hi
      rw [if_pos rfl, turn_calls_self]
    · rw [if_neg hi, turn_calls_other hi]
  have hshared : (Interleaving.turn callStep system action).shared = next.2 := rfl
  have hfired : ∀ name, name ∈ fired next.2 → name ∈ fired s ∨
      (holds action.call p name ∧ ¬holds action.call next.1 name) := by
    intro name hname
    rcases h.spent action.call action.input s p with hsame | ⟨spent, hheld, hgone, happend⟩
    · exact .inl (hsame ▸ hname)
    · rw [happend, List.mem_append, List.mem_singleton] at hname
      rcases hname with hname | rfl
      · exact .inl hname
      · exact .inr ⟨hheld, hgone⟩
  refine ⟨fun i name hheld => ?_, fun i j name hi hj => ?_, fun name hname => ?_, ?_⟩
  · rw [hcalls] at hheld
    rw [hshared]
    split at hheld
    next hi =>
      subst hi
      rcases h.acquired _ _ _ _ _ hheld with hown | ⟨hfree, hclaimed⟩
      · obtain ⟨hclaimed, hunspent⟩ := hsystem.held action.call name hown
        refine ⟨h.kept _ _ _ _ _ hclaimed, fun hname => ?_⟩
        rcases hfired name hname with hold | ⟨-, hgone⟩
        · exact hunspent hold
        · exact hgone hheld
      · refine ⟨hclaimed, fun hname => ?_⟩
        rcases hfired name hname with hold | ⟨hown, -⟩
        · exact hfree (hsystem.known name hold)
        · exact hfree (hsystem.held action.call name hown).1
    next hi =>
      obtain ⟨hclaimed, hunspent⟩ := hsystem.held i name hheld
      refine ⟨h.kept _ _ _ _ _ hclaimed, fun hname => ?_⟩
      rcases hfired name hname with hold | ⟨hown, -⟩
      · exact hunspent hold
      · exact hi (hsystem.single i action.call name hheld hown)
  · rw [hcalls] at hi hj
    split at hi
    next hi' =>
      split at hj
      next hj' => rw [hi', hj']
      next hj' =>
        subst hi'
        exact absurd hi (h.acquired_of_ne hsystem hj' hj)
    next hi' =>
      split at hj
      next hj' =>
        subst hj'
        exact absurd hj (h.acquired_of_ne hsystem hi' hi)
      next hj' => exact hsystem.single i j name hi hj
  · rw [hshared] at hname ⊢
    rcases hfired name hname with hold | ⟨hown, -⟩
    · exact h.kept _ _ _ _ _ (hsystem.known name hold)
    · exact h.kept _ _ _ _ _ (hsystem.held action.call name hown).1
  · rw [hshared]
    rcases h.spent action.call action.input s p with hsame | ⟨spent, hheld, -, happend⟩
    · rw [hnext, hsame]
      exact hsystem.once
    · have hnew : spent ∉ fired s := (hsystem.held action.call spent hheld).2
      rw [hnext, happend]
      rw [← List.concat_eq_append]
      exact hsystem.once.concat hnew

/-- No effect is repeated, whatever the turns. -/
theorem Claimed.run (h : Claimed callStep holds claimed fired)
    (hstart : Exclusive holds claimed fired start) (turns : List (Turn ι)) :
    Exclusive holds claimed fired (runTurns callStep start turns) :=
  run_invariant hstart (fun _ action hsystem => h.turn hsystem action) turns

end Claimed

end Interleaving
