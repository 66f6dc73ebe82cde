import Mathlib.Algebra.Order.Floor.Semiring
import Mathlib.Algebra.Order.Field.Basic
import Mathlib.Tactic.Linarith

namespace UnitBudget

variable {K : Type*} [Field K] [LinearOrder K] [IsStrictOrderedRing K] [FloorSemiring K]
variable {budget other unit used ceiling : K} {n : ℕ}

/-- The whole units of a price that a budget pays for. -/
def units (budget unit : K) : ℕ := ⌊budget / unit⌋₊

/-- What is left under a ceiling once `used` of it is taken. -/
def remaining (ceiling used : K) : K := max 0 (ceiling - used)

theorem le_units (hu : 0 < unit) (hn : n ≠ 0) : n ≤ units budget unit ↔ unit * n ≤ budget := by
  rw [units, Nat.le_floor_iff' hn, le_div_iff₀ hu, mul_comm]

/-- One floor of a minimum is the minimum of the floors. -/
theorem units_min (hu : 0 < unit) :
    units (min budget other) unit = min (units budget unit) (units other unit) := by
  have hmono : Monotone fun b : K => units b unit := fun a b hab =>
    Nat.floor_le_floor (div_le_div_of_nonneg_right hab hu.le)
  exact hmono.map_min

/-- Spending affordable units keeps the use within the larger of its old value and the ceiling. -/
theorem spend_le_max (hu : 0 < unit) (hn : n ≠ 0) (h : n ≤ units (remaining ceiling used) unit) :
    used + unit * n ≤ max used ceiling := by
  have hspent : unit * n ≤ remaining ceiling used := (le_units hu hn).mp h
  rcases le_total (ceiling - used) 0 with hz | hz
  · have : unit * n ≤ 0 := by simpa [remaining, max_eq_left hz] using hspent
    exact le_max_of_le_left (by linarith)
  · have : unit * n ≤ ceiling - used := by simpa [remaining, max_eq_right hz] using hspent
    exact le_max_of_le_right (by linarith)

/-- A budget pays for the units that fit in it. -/
theorem spend_le (hu : 0 < unit) (hn : n ≠ 0) (h : n ≤ units budget unit) : unit * n ≤ budget :=
  (le_units hu hn).mp h

end UnitBudget
