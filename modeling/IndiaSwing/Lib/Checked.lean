import Mathlib.Tactic.TypeStar

namespace Checked

variable {ε α : Type*} {check : α → Except ε Unit} {a : α}

/-- Builds the record that passed its check. -/
def build (check : α → Except ε Unit) (a : α) : Except ε {a : α // check a = .ok ()} :=
  match h : check a with
  | .ok () => .ok ⟨a, h⟩
  | .error e => .error e

theorem build_of_ok (h : check a = .ok ()) : build check a = .ok ⟨a, h⟩ := by
  unfold build
  split
  · rfl
  · rename_i e he
    rw [h] at he
    cases he

theorem build_of_error {e : ε} (h : check a = .error e) : build check a = .error e := by
  unfold build
  split
  · rename_i hok
    cases hok.symm.trans h
  · rename_i e' herror
    exact congrArg Except.error (Except.error.inj (herror.symm.trans h))

theorem build_eq_ok {v : {a : α // check a = .ok ()}} : build check a = .ok v ↔ a = v.1 := by
  constructor
  · intro h
    unfold build at h
    split at h
    · exact congrArg Subtype.val (Except.ok.inj h)
    · cases h
  · rintro rfl
    exact build_of_ok v.2

/-- Building several records, all of which pass. -/
theorem mapM_build_ok {ε α β : Type} (check : α → Except ε Unit) (make : β → α) {values : List β}
    (h : ∀ b ∈ values, check (make b) = .ok ()) :
    ∃ built, values.mapM (fun b => build check (make b)) = .ok built ∧
      built.map (·.1) = values.map make := by
  induction values with
  | nil => exact ⟨[], rfl, rfl⟩
  | cons b values ih =>
    obtain ⟨built, hbuilt, hmap⟩ := ih fun a ha => h a (List.mem_cons_of_mem _ ha)
    refine ⟨⟨make b, h b List.mem_cons_self⟩ :: built, ?_, ?_⟩
    · rw [List.mapM_cons, build_of_ok (h b List.mem_cons_self), hbuilt]
      rfl
    · rw [List.map_cons, List.map_cons, hmap]

/-- The records that were built are those that were made. -/
theorem map_of_mapM_build {ε α β : Type} {check : α → Except ε Unit} {make : β → α} {values : List β}
    {built : List {a : α // check a = .ok ()}}
    (h : values.mapM (fun b => build check (make b)) = .ok built) : built.map (·.1) = values.map make := by
  induction values generalizing built with
  | nil =>
    obtain rfl := Except.ok.inj h
    rfl
  | cons b values ih =>
    rw [List.mapM_cons] at h
    cases hb : build check (make b) with
    | error e =>
      rw [hb] at h
      cases h
    | ok v =>
      cases hrest : values.mapM (fun b => build check (make b)) with
      | error e =>
        rw [hb, hrest] at h
        cases h
      | ok rest =>
        rw [hb, hrest] at h
        obtain rfl := Except.ok.inj h
        rw [List.map_cons, List.map_cons, ih hrest, build_eq_ok.mp hb]

end Checked
