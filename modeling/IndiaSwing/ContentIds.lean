import Mathlib.Algebra.Order.Ring.Rat
import Mathlib.Data.Rat.Defs

namespace IndiaSwing

/-- A content id. The SHA-256 of a record's canonical JSON is modelled by the encoded record
itself, so two ids are equal exactly when the records are; an id of something outside the model
is a `digest`. -/
inductive ContentId
  | digest (value : ℕ)
  | int (value : ℤ)
  | decimal (value : ℚ)
  | text (value : String)
  | absent
  | pair (first rest : ContentId)
  deriving DecidableEq, Repr

namespace ContentId

def list : List ContentId → ContentId
  | [] => absent
  | value :: rest => pair value (list rest)

def option {α : Type} (encode : α → ContentId) : Option α → ContentId
  | none => absent
  | some value => pair (encode value) absent

/-- `content_id` of a schema's fields. -/
def ofFields (schema : String) (fields : List ContentId) : ContentId := pair (text schema) (list fields)

theorem list_injective : Function.Injective list := by
  intro xs
  induction xs with
  | nil => intro ys h; cases ys with
    | nil => rfl
    | cons y ys => cases h
  | cons x xs ih => intro ys h; cases ys with
    | nil => cases h
    | cons y ys =>
      obtain ⟨rfl, hrest⟩ := ContentId.pair.inj h
      rw [ih hrest]

theorem option_injective {α : Type} {encode : α → ContentId} (h : Function.Injective encode) :
    Function.Injective (option encode) := by
  intro a b hab
  cases a <;> cases b <;> simp_all [option, h.eq_iff]

@[simp] theorem ofFields_inj {schema schema' : String} {fields fields' : List ContentId} :
    ofFields schema fields = ofFields schema' fields' ↔ schema = schema' ∧ fields = fields' := by
  simp [ofFields, list_injective.eq_iff]

end ContentId

/-- A value that a check for a positive one has let through. -/
theorem positive_of_check {value : ℚ} (h : ¬value ≤ 0) : 0 < value := not_le.mp h

end IndiaSwing
