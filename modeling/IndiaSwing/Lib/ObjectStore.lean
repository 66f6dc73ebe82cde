import Mathlib.Logic.Function.Basic

/-! Objects that are created once and never change: an upload to a taken name is a conflict. -/

namespace ObjectStore

/-- The object under each name, if there is one. -/
abbrev Objects (ν δ : Type*) := ν → Option δ

variable {ν δ : Type*} {objects others later : Objects ν δ} {name other : ν} {content : δ}

/-- Every object is still there, unchanged. -/
def Extends (later objects : Objects ν δ) : Prop :=
  ∀ name content, objects name = some content → later name = some content

theorem Extends.refl (objects : Objects ν δ) : Extends objects objects := fun _ _ h => h

theorem Extends.trans (h : Extends later others) (h' : Extends others objects) :
    Extends later objects := fun name content hobject => h name content (h' name content hobject)

theorem Extends.isSome (h : Extends later objects) (hsome : (objects name).isSome) :
    (later name).isSome := by
  obtain ⟨content, hcontent⟩ := Option.isSome_iff_exists.mp hsome
  exact Option.isSome_iff_exists.mpr ⟨content, h name content hcontent⟩

variable [DecidableEq ν]

/-- Create an object unless its name is taken. -/
def create (name : ν) (content : δ) (objects : Objects ν δ) : Objects ν δ :=
  if (objects name).isSome then objects else Function.update objects name (some content)

theorem create_taken (h : objects name = some content) (fresh : δ) :
    create name fresh objects = objects := by
  unfold create
  rw [h]
  rfl

theorem create_free (h : objects name = none) :
    create name content objects = Function.update objects name (some content) := by
  unfold create
  rw [h]
  rfl

theorem create_same (h : objects name = none) : create name content objects name = some content := by
  rw [create_free h, Function.update_self]

theorem create_other (h : other ≠ name) : create name content objects other = objects other := by
  unfold create
  split
  next => rfl
  next => rw [Function.update_of_ne h]

theorem create_extends (name : ν) (content : δ) (objects : Objects ν δ) :
    Extends (create name content objects) objects := by
  intro other old h
  by_cases hname : other = name
  · subst hname
    rw [create_taken h, h]
  · rw [create_other hname, h]

theorem create_isSome (name : ν) (content : δ) (objects : Objects ν δ) :
    (create name content objects name).isSome := by
  cases h : objects name with
  | none => rw [create_same h]; rfl
  | some old => rw [create_taken h, h]; rfl

/-- An object after a creation is an old one or the one that was to be created. -/
theorem create_eq_some {found : δ} (h : create name content objects other = some found) :
    objects other = some found ∨ (other = name ∧ objects name = none ∧ found = content) := by
  by_cases hname : other = name
  · subst hname
    cases hold : objects other with
    | none =>
      rw [create_same hold] at h
      exact .inr ⟨rfl, rfl, (Option.some.inj h).symm⟩
    | some old =>
      rw [create_taken hold, hold] at h
      exact .inl h
  · rw [create_other hname] at h
    exact .inl h

/-- What becomes of an upload: the store answers it, or the call fails, with or without its effect,
and with or without the appearance of a conflict. -/
inductive Fate
  | answered
  | failed (applied seemsConflict : Bool)
  deriving DecidableEq, Repr

/-- What the caller sees. -/
inductive Answer
  | created
  | conflict
  | failed
  deriving DecidableEq, Repr

def upload (fate : Fate) (name : ν) (content : δ) (objects : Objects ν δ) : Answer × Objects ν δ :=
  match fate with
  | .answered =>
    (if (objects name).isSome then .conflict else .created, create name content objects)
  | .failed applied seemsConflict =>
    (if seemsConflict then .conflict else .failed,
      if applied then create name content objects else objects)

variable {fate : Fate}

theorem upload_extends (fate : Fate) (name : ν) (content : δ) (objects : Objects ν δ) :
    Extends (upload fate name content objects).2 objects := by
  cases fate with
  | answered => exact create_extends name content objects
  | failed applied seemsConflict =>
    cases applied with
    | false => exact Extends.refl objects
    | true => exact create_extends name content objects

/-- An upload that reports success created its object. -/
theorem upload_created (h : (upload fate name content objects).1 = .created) :
    objects name = none ∧ (upload fate name content objects).2 name = some content := by
  cases fate with
  | answered =>
    cases hold : objects name with
    | none => exact ⟨rfl, create_same hold⟩
    | some old => simp [upload, hold] at h
  | failed applied seemsConflict => cases seemsConflict <;> cases h

theorem upload_eq_some {found : δ} (h : (upload fate name content objects).2 other = some found) :
    objects other = some found ∨ (other = name ∧ objects name = none ∧ found = content) := by
  cases fate with
  | answered => exact create_eq_some h
  | failed applied seemsConflict =>
    cases applied with
    | false => exact .inl h
    | true => exact create_eq_some h

end ObjectStore
