import IndiaSwing.Lib.ExceptGuards

/-! Two runs of fallible code, compared on what they return. -/

namespace RelatedRuns

open ExceptGuards

universe v

variable {ε : Type*} {α α' β β' : Type v}

/-- Whenever both runs return, what they return is related. -/
structure WhenBoth (R : α → α' → Prop) (x : Except ε α) (y : Except ε α') : Prop where
  related : ∀ a a', x = .ok a → y = .ok a' → R a a'

/-- The runs return together with related values, or fail with one error. -/
inductive InStep (R : α → α' → Prop) : Except ε α → Except ε α' → Prop
  | ok {a a'} : R a a' → InStep R (.ok a) (.ok a')
  | error (e : ε) : InStep R (.error e) (.error e)

variable {R : α → α' → Prop} {S : β → β' → Prop} {x : Except ε α} {y : Except ε α'}
variable {f : α → Except ε β} {g : α' → Except ε β'}

theorem InStep.whenBoth (h : InStep R x y) : WhenBoth R x y := by
  constructor
  intro a a' hx hy
  cases h with
  | ok hr =>
    cases hx
    cases hy
    exact hr
  | error e => cases hx

theorem InStep.bind (h : InStep R x y) (hf : ∀ a a', R a a' → InStep S (f a) (g a')) :
    InStep S (x >>= f) (y >>= g) := by
  cases h with
  | ok hr => exact hf _ _ hr
  | error e => exact .error e

theorem WhenBoth.bind (h : WhenBoth R x y) (hf : ∀ a a', R a a' → WhenBoth S (f a) (g a')) :
    WhenBoth S (x >>= f) (y >>= g) := by
  constructor
  intro b b' hx hy
  obtain ⟨a, ha, hx⟩ := bind_eq_ok.mp hx
  obtain ⟨a', ha', hy⟩ := bind_eq_ok.mp hy
  exact (hf a a' (h.related a a' ha ha')).related b b' hx hy

theorem WhenBoth.ok {a : α} {a' : α'} (h : R a a') :
    WhenBoth R (.ok a : Except ε α) (.ok a') := (InStep.ok h).whenBoth

theorem WhenBoth.error_left (e : ε) : WhenBoth R (.error e) y := by
  constructor
  intro a a' hx
  cases hx

/-- A check that both runs make, on the same data. -/
theorem WhenBoth.guard {γ γ' : Type} {S : γ → γ' → Prop} {bad : Prop} [Decidable bad] {e : ε}
    {f : Unit → Except ε γ} {g : Unit → Except ε γ'} (h : ¬bad → WhenBoth S (f ()) (g ())) :
    WhenBoth S (raiseIf bad e >>= f) (raiseIf bad e >>= g) := by
  by_cases hbad : bad
  · rw [raiseIf_pos hbad]
    exact WhenBoth.error_left e
  · rw [raiseIf_neg hbad]
    exact h hbad

theorem InStep.guard {γ γ' : Type} {S : γ → γ' → Prop} {bad : Prop} [Decidable bad] {e : ε}
    {f : Unit → Except ε γ} {g : Unit → Except ε γ'} (h : ¬bad → InStep S (f ()) (g ())) :
    InStep S (raiseIf bad e >>= f) (raiseIf bad e >>= g) := by
  by_cases hbad : bad
  · rw [raiseIf_pos hbad]
    exact .error e
  · rw [raiseIf_neg hbad]
    exact h hbad

/-- Runs in step on optional results return nothing together. -/
theorem InStep.ok_none_iff {x : Except ε (Option α)} {y : Except ε (Option α')}
    (h : InStep (Option.Rel R) x y) : x = .ok none ↔ y = .ok none := by
  cases h with
  | error e => simp
  | ok hr => cases hr <;> simp

end RelatedRuns
