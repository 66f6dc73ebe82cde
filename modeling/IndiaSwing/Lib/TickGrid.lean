import Mathlib.Algebra.Order.Floor.Ring
import Mathlib.Algebra.Order.Field.Basic
import Mathlib.Data.Rat.Floor
import Mathlib.Tactic.Linarith

namespace TickGrid

variable {tick a b : ℚ}

/-- The values of a grid are the multiples of its tick. -/
def OnGrid (tick value : ℚ) : Prop := ∃ n : ℤ, value = n * tick

def floorTo (value tick : ℚ) : ℚ := ⌊value / tick⌋ * tick

def ceilingTo (value tick : ℚ) : ℚ := ⌈value / tick⌉ * tick

theorem onGrid_floorTo (value tick : ℚ) : OnGrid tick (floorTo value tick) := ⟨⌊value / tick⌋, rfl⟩

theorem onGrid_ceilingTo (value tick : ℚ) : OnGrid tick (ceilingTo value tick) := ⟨⌈value / tick⌉, rfl⟩

theorem floorTo_le (htick : 0 < tick) (value : ℚ) : floorTo value tick ≤ value := by
  have hfloor : (⌊value / tick⌋ : ℚ) ≤ value / tick := Int.floor_le _
  exact (le_div_iff₀ htick).mp hfloor

theorem le_ceilingTo (htick : 0 < tick) (value : ℚ) : value ≤ ceilingTo value tick := by
  have hceiling : value / tick ≤ ⌈value / tick⌉ := Int.le_ceil _
  exact (div_le_iff₀ htick).mp hceiling

theorem ceilingTo_mono (htick : 0 < tick) (h : a ≤ b) : ceilingTo a tick ≤ ceilingTo b tick := by
  apply mul_le_mul_of_nonneg_right _ htick.le
  exact Int.cast_le.mpr (Int.ceil_mono (div_le_div_of_nonneg_right h htick.le))

end TickGrid
