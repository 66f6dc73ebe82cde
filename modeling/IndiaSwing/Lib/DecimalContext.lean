import Mathlib.Data.Rat.Floor
import Mathlib.Algebra.BigOperators.Group.List.Basic

/-- A decimal context, as the rounding it applies to the exact result of each operation. -/
structure DecimalContext where
  round : ℚ → ℚ

namespace DecimalContext

/-- The context that rounds nothing away. -/
def exact : DecimalContext := ⟨id⟩

variable (ctx : DecimalContext)

def add (a b : ℚ) : ℚ := ctx.round (a + b)

def sub (a b : ℚ) : ℚ := ctx.round (a - b)

def mul (a b : ℚ) : ℚ := ctx.round (a * b)

def div (a b : ℚ) : ℚ := ctx.round (a / b)

/-- A sum that rounds after each addition, from the left. -/
def sum (start : ℚ) (values : List ℚ) : ℚ := values.foldl ctx.add start

theorem sum_cons (start value : ℚ) (values : List ℚ) :
    ctx.sum start (value :: values) = ctx.sum (ctx.add start value) values := rfl

@[simp] theorem exact_add (a b : ℚ) : exact.add a b = a + b := rfl

@[simp] theorem exact_sub (a b : ℚ) : exact.sub a b = a - b := rfl

@[simp] theorem exact_mul (a b : ℚ) : exact.mul a b = a * b := rfl

@[simp] theorem exact_div (a b : ℚ) : exact.div a b = a / b := rfl

@[simp] theorem exact_sum (start : ℚ) (values : List ℚ) :
    exact.sum start values = start + values.sum := by
  induction values generalizing start with
  | nil => simp [sum]
  | cons value values ih => rw [sum_cons, ih, exact_add, List.sum_cons, add_assoc]

/-- Conversion to an integer truncates towards zero. -/
def toInt (value : ℚ) : ℤ := if 0 ≤ value then ⌊value⌋ else ⌈value⌉

/-- `a % b == 0`: the exact remainder is zero. -/
def Divides (step value : ℚ) : Prop := (value / step).den = 1

instance (step value : ℚ) : Decidable (Divides step value) := inferInstanceAs (Decidable (_ = _))

theorem divides_iff {step value : ℚ} (hstep : step ≠ 0) :
    Divides step value ↔ ∃ n : ℤ, value = n * step := by
  unfold Divides
  constructor
  · intro h
    refine ⟨(value / step).num, ?_⟩
    rw [Rat.coe_int_num_of_den_eq_one h, div_mul_cancel₀ _ hstep]
  · rintro ⟨n, rfl⟩
    rw [mul_div_cancel_right₀ _ hstep, Rat.den_intCast]

end DecimalContext
