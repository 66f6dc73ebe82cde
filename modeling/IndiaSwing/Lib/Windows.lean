import Mathlib.Data.List.Basic

namespace Windows

variable {α β : Type*} {values : List α} {n : ℕ}

/-- `values[-n:]` -/
def lastOf (n : ℕ) (values : List α) : List α := values.drop (values.length - n)

/-- `values[-(n + 1):-1]` -/
def beforeLast (n : ℕ) (values : List α) : List α := (lastOf (n + 1) values).dropLast

/-- `values[-n]` -/
def fromEnd (n : ℕ) (values : List α) : Option α := if n ≤ values.length then values[values.length - n]? else none

/-- Each value after the first, with the one before it. -/
def steps (values : List α) : List (α × α) := values.zip values.tail

theorem mem_of_mem_lastOf {a : α} (h : a ∈ lastOf n values) : a ∈ values := List.mem_of_mem_drop h

theorem length_lastOf (h : n ≤ values.length) : (lastOf n values).length = n := by
  unfold lastOf
  rw [List.length_drop]
  omega

theorem length_lastOf_le : (lastOf n values).length ≤ values.length := by
  unfold lastOf
  rw [List.length_drop]
  omega

theorem length_beforeLast (h : n + 1 ≤ values.length) : (beforeLast n values).length = n := by
  unfold beforeLast
  rw [List.length_dropLast, length_lastOf h, Nat.add_sub_cancel]

theorem length_steps : (steps values).length = values.length - 1 := by
  unfold steps
  rw [List.length_zip, List.length_tail]
  omega

theorem lastOf_ne_nil (hpos : 0 < n) (hne : values ≠ []) : lastOf n values ≠ [] := by
  have hlength : 0 < values.length := List.length_pos_iff.mpr hne
  unfold lastOf
  rw [Ne, List.drop_eq_nil_iff]
  omega

theorem beforeLast_ne_nil (hpos : 0 < n) (h : n + 1 ≤ values.length) : beforeLast n values ≠ [] := by
  rw [← List.length_pos_iff, length_beforeLast h]
  exact hpos

theorem tail_lastOf (h : n + 1 ≤ values.length) : (lastOf (n + 1) values).tail = lastOf n values := by
  unfold lastOf
  rw [List.tail_drop, show values.length - (n + 1) + 1 = values.length - n by omega]

/-- The steps over one value more end at the last values. -/
theorem map_steps_lastOf (h : n + 1 ≤ values.length) : (steps (lastOf (n + 1) values)).map (·.2) = lastOf n values := by
  unfold steps
  rw [tail_lastOf h]
  apply List.map_snd_zip
  rw [length_lastOf h, length_lastOf (by omega)]
  omega

theorem fromEnd_isSome (hpos : 0 < n) (h : n ≤ values.length) : ∃ a ∈ values, fromEnd n values = some a := by
  have hindex : values.length - n < values.length := by omega
  unfold fromEnd
  rw [if_pos h, List.getElem?_eq_getElem hindex]
  exact ⟨_, List.getElem_mem hindex, rfl⟩

theorem map_lastOf (f : α → β) : (lastOf n values).map f = lastOf n (values.map f) := by
  unfold lastOf
  rw [List.map_drop, List.length_map]

theorem map_beforeLast (f : α → β) : (beforeLast n values).map f = beforeLast n (values.map f) := by
  unfold beforeLast
  rw [List.map_dropLast, map_lastOf]

end Windows
