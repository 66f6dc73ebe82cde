import Mathlib.Data.List.Perm.Basic
import Mathlib.Tactic.TypeStar

namespace ExceptGuards

universe v

variable {ε : Type*} {α β : Type v}

/-- A check that fails with `e` on a bad input and returns nothing otherwise. -/
def raiseIf (bad : Prop) [Decidable bad] (e : ε) : Except ε Unit :=
  if bad then .error e else .ok ()

variable {bad : Prop} [Decidable bad] {e e' : ε} {u : Unit}

theorem raiseIf_neg (h : ¬bad) : raiseIf bad e = .ok () := if_neg h

theorem raiseIf_pos (h : bad) : raiseIf bad e = .error e := if_pos h

@[simp] theorem raiseIf_false [Decidable False] : raiseIf False e = .ok () := if_neg id

@[simp] theorem raiseIf_true [Decidable True] : raiseIf True e = .error e := if_pos trivial

@[simp] theorem raiseIf_eq_ok : raiseIf bad e = .ok u ↔ ¬bad := by
  unfold raiseIf
  split <;> simp_all

@[simp] theorem raiseIf_eq_error : raiseIf bad e = .error e' ↔ bad ∧ e = e' := by
  unfold raiseIf
  split <;> simp_all

variable {x : Except ε α} {f : α → Except ε β} {a : α} {b : β}

@[simp] theorem ok_bind : (Except.ok a >>= f) = f a := rfl

@[simp] theorem error_bind : (Except.error e >>= f) = .error e := rfl

theorem pure_eq_ok : (pure a : Except ε α) = .ok a := rfl

theorem throw_eq_error : (throw e : Except ε α) = .error e := rfl

theorem bind_eq_ok : x >>= f = .ok b ↔ ∃ a, x = .ok a ∧ f a = .ok b := by
  cases x with
  | error e => simp
  | ok a => simp

theorem bind_eq_error : x >>= f = .error e ↔ x = .error e ∨ ∃ a, x = .ok a ∧ f a = .error e := by
  cases x with
  | error e => simp
  | ok a => simp

theorem raiseIf_bind_eq_ok {γ : Type} {c : γ} {f : Unit → Except ε γ} :
    (raiseIf bad e >>= f) = .ok c ↔ ¬bad ∧ f () = .ok c := by
  unfold raiseIf
  split <;> simp_all

theorem raiseIf_bind_eq_error {γ : Type} {f : Unit → Except ε γ} :
    (raiseIf bad e >>= f) = .error e' ↔ (bad ∧ e = e') ∨ (¬bad ∧ f () = .error e') := by
  unfold raiseIf
  split <;> simp_all

theorem ok_mapError {ε' : Type*} (g : ε → ε') (a : α) : (Except.ok a : Except ε α).mapError g = .ok a := rfl

theorem error_mapError {ε' : Type*} (g : ε → ε') (e : ε) : (Except.error e : Except ε α).mapError g = .error (g e) := rfl

theorem mapError_eq_ok {ε' : Type*} {g : ε → ε'} : x.mapError g = .ok a ↔ x = .ok a := by
  cases x <;> simp [ok_mapError, error_mapError]

theorem ok_of_toOption {e : Except ε Unit} (h : e.toOption = some ()) : e = .ok () := by
  cases e with
  | error e => cases h
  | ok u => rfl

theorem exists_ok_of_any {p : α → Bool} (h : x.toOption.any p = true) : ∃ a, x = .ok a ∧ p a = true := by
  cases x with
  | error e => cases h
  | ok a => exact ⟨a, rfl, h⟩

theorem mapM_ok {α β ε : Type} {f : α → Except ε β} {g : α → β} {values : List α}
    (h : ∀ a ∈ values, f a = .ok (g a)) : values.mapM f = .ok (values.map g) := by
  induction values with
  | nil => rfl
  | cons a values ih =>
    rw [List.mapM_cons, h a List.mem_cons_self, ih fun b hb => h b (List.mem_cons_of_mem _ hb)]
    rfl

theorem mapM_congr {α β ε : Type} {f g : α → Except ε β} {values : List α} (h : ∀ a ∈ values, f a = g a) :
    values.mapM f = values.mapM g := by
  induction values with
  | nil => rfl
  | cons a values ih =>
    rw [List.mapM_cons, List.mapM_cons, h a List.mem_cons_self, ih fun b hb => h b (List.mem_cons_of_mem _ hb)]

theorem mapM_eq_ok {α β ε : Type} {f : α → Except ε β} {values : List α} {results : List β} :
    values.mapM f = .ok results ↔ List.Forall₂ (fun a b => f a = .ok b) values results := by
  induction values generalizing results with
  | nil =>
    constructor
    · intro h
      obtain rfl := Except.ok.inj h
      exact .nil
    · intro h
      cases h
      rfl
  | cons a values ih =>
    rw [List.mapM_cons, bind_eq_ok]
    constructor
    · rintro ⟨b, hb, h⟩
      obtain ⟨rest, hrest, h⟩ := bind_eq_ok.mp h
      obtain rfl := Except.ok.inj h
      exact .cons hb (ih.mp hrest)
    · intro h
      cases h with
      | cons hb hrest => exact ⟨_, hb, bind_eq_ok.mpr ⟨_, ih.mpr hrest, rfl⟩⟩

/-- A map over the same values in another order. -/
theorem mapM_perm {α β ε : Type} {f : α → Except ε β} {values others : List α} {results results' : List β}
    (hperm : values.Perm others) (h : values.mapM f = .ok results) (h' : others.mapM f = .ok results') :
    results.Perm results' := by
  have himages : ∀ {values : List α} {results : List β}, values.mapM f = .ok results →
      values.map f = results.map .ok := by
    intro values results h
    rw [← List.forall₂_eq_eq_eq, List.forall₂_map_left_iff, List.forall₂_map_right_iff]
    exact mapM_eq_ok.mp h
  have hresults := hperm.map f
  rw [himages h, himages h'] at hresults
  exact (List.map_perm_map_iff fun _ _ heq => Except.ok.inj heq).mp hresults

theorem mapM_exists {ε α β : Type} {f : α → Except ε β} {P : α → β → Prop} {values : List α}
    (h : ∀ a ∈ values, ∃ b, f a = .ok b ∧ P a b) :
    ∃ results, values.mapM f = .ok results ∧ List.Forall₂ P values results := by
  induction values with
  | nil => exact ⟨[], rfl, .nil⟩
  | cons a values ih =>
    obtain ⟨b, hb, hP⟩ := h a List.mem_cons_self
    obtain ⟨results, hresults, hall⟩ := ih fun c hc => h c (List.mem_cons_of_mem _ hc)
    refine ⟨b :: results, ?_, .cons hP hall⟩
    rw [List.mapM_cons, hb, hresults]
    rfl

/-- A map over values that are related to others: what the step gives is related to the others too. -/
theorem mapM_exists_of_forall₂ {ε α β γ : Type} {f : β → Except ε γ} {R : α → β → Prop} {Q : α → γ → Prop}
    {others : List α} {values : List β} (hrel : List.Forall₂ R others values)
    (h : ∀ a ∈ others, ∀ b, R a b → ∃ c, f b = .ok c ∧ Q a c) :
    ∃ results, values.mapM f = .ok results ∧ List.Forall₂ Q others results := by
  induction hrel with
  | nil => exact ⟨[], rfl, .nil⟩
  | @cons a b others values hab _ ih =>
    obtain ⟨c, hc, hQ⟩ := h a List.mem_cons_self b hab
    obtain ⟨results, hresults, hall⟩ := ih fun a ha => h a (List.mem_cons_of_mem _ ha)
    refine ⟨c :: results, ?_, .cons hQ hall⟩
    rw [List.mapM_cons, hc, hresults]
    rfl

/-- A map whose step succeeds exactly on the values with a property: it succeeds when all have it, and otherwise ends
with the error of one that has not. -/
theorem mapM_cases {ε α β : Type} {f : α → Except ε β} {P : α → Prop} {Q : α → β → Prop} {R : ε → Prop} {values : List α}
    (h : ∀ a ∈ values, (P a ∧ ∃ b, f a = .ok b ∧ Q a b) ∨ (¬P a ∧ ∃ e, f a = .error e ∧ R e)) :
    ((∀ a ∈ values, P a) ∧ ∃ results, values.mapM f = .ok results ∧ List.Forall₂ Q values results) ∨
      ((∃ a ∈ values, ¬P a) ∧ ∃ e, values.mapM f = .error e ∧ R e) := by
  induction values with
  | nil => exact .inl ⟨fun a ha => absurd ha List.not_mem_nil, [], rfl, .nil⟩
  | cons a values ih =>
    rw [List.mapM_cons]
    rcases h a List.mem_cons_self with ⟨hP, b, hb, hQ⟩ | ⟨hP, e, he, hR⟩
    · rcases ih fun c hc => h c (List.mem_cons_of_mem _ hc) with ⟨hall, results, hresults, hpairs⟩ | ⟨⟨c, hc, hnot⟩, e, he, hR⟩
      · refine .inl ⟨List.forall_mem_cons.mpr ⟨hP, hall⟩, b :: results, ?_, .cons hQ hpairs⟩
        rw [hb, hresults]
        rfl
      · refine .inr ⟨⟨c, List.mem_cons_of_mem _ hc, hnot⟩, e, ?_, hR⟩
        rw [hb, he]
        rfl
    · refine .inr ⟨⟨a, List.mem_cons_self, hP⟩, e, ?_, hR⟩
      rw [he]
      rfl

theorem forM_eq_ok {ε α : Type} {f : α → Except ε Unit} {values : List α} :
    values.forM f = .ok () ↔ ∀ a ∈ values, f a = .ok () := by
  induction values with
  | nil => exact ⟨fun _ a ha => absurd ha List.not_mem_nil, fun _ => rfl⟩
  | cons a values ih =>
    show (f a >>= fun _ => values.forM f) = .ok () ↔ _
    rw [bind_eq_ok, List.forall_mem_cons, ← ih]
    constructor
    · rintro ⟨_, hfirst, hrest⟩
      exact ⟨hfirst, hrest⟩
    · rintro ⟨hfirst, hrest⟩
      exact ⟨(), hfirst, hrest⟩

end ExceptGuards
