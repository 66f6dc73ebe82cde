import Mathlib.Data.List.Basic
import Mathlib.Data.List.Nodup
import Mathlib.Data.List.Induction

namespace Slices

variable {α : Type*}

/-- The entries of a list from position `first` up to `last`, which is left out. -/
def slice (values : List α) (first last : ℕ) : List α := (values.take last).drop first

variable {values : List α} {first last first' last' i : ℕ}

theorem getElem?_slice (h : first + i < last) : (slice values first last)[i]? = values[first + i]? := by
  rw [slice, List.getElem?_drop, List.getElem?_take_of_lt h]

theorem length_slice (h : last ≤ values.length) : (slice values first last).length = last - first := by
  rw [slice, List.length_drop, List.length_take, Nat.min_eq_left h]

theorem mem_slice (h : last ≤ values.length) {a : α} :
    a ∈ slice values first last ↔ ∃ i, first ≤ i ∧ i < last ∧ values[i]? = some a := by
  constructor
  · intro ha
    obtain ⟨i, hi, rfl⟩ := List.getElem_of_mem ha
    have hlt : first + i < last := by
      rw [length_slice h] at hi
      omega
    exact ⟨first + i, by omega, hlt, by rw [← getElem?_slice hlt, List.getElem?_eq_getElem hi]⟩
  · rintro ⟨i, hfirst, hlast, hget⟩
    refine List.mem_iff_getElem?.mpr ⟨i - first, ?_⟩
    rw [getElem?_slice (by omega), show first + (i - first) = i by omega, hget]

theorem slice_ne_nil (hlt : first < last) (h : last ≤ values.length) : slice values first last ≠ [] := by
  intro hnil
  have hlength : (slice values first last).length = last - first := length_slice h
  rw [hnil, List.length_nil] at hlength
  omega

theorem slice_sublist : (slice values first last).Sublist values :=
  (List.drop_sublist _ _).trans (List.take_sublist _ _)

theorem head?_slice (hlt : first < last) : (slice values first last).head? = values[first]? := by
  rw [List.head?_eq_getElem?, getElem?_slice (by omega), Nat.add_zero]

theorem getLast?_slice (hlt : first < last) (h : last ≤ values.length) :
    (slice values first last).getLast? = values[last - 1]? := by
  rw [List.getLast?_eq_getElem?, length_slice h, getElem?_slice (by omega),
    show first + (last - first - 1) = last - 1 by omega]

/-- In a sorted list the entries of a slice are before those of a later one. -/
theorem rel_of_slices {r : α → α → Prop} (hsorted : values.Pairwise r) (hle : last ≤ first')
    (h : last ≤ values.length) (h' : last' ≤ values.length) {a b : α} (ha : a ∈ slice values first last)
    (hb : b ∈ slice values first' last') : r a b := by
  obtain ⟨i, -, hi, hai⟩ := (mem_slice h).mp ha
  obtain ⟨j, hj, -, hbj⟩ := (mem_slice h').mp hb
  obtain ⟨hilt, rfl⟩ := List.getElem?_eq_some_iff.mp hai
  obtain ⟨hjlt, rfl⟩ := List.getElem?_eq_some_iff.mp hbj
  exact List.pairwise_iff_getElem.mp hsorted i j hilt hjlt (by omega)

variable [DecidableEq α]

theorem idxOf_of_getElem? (hnodup : values.Nodup) {a : α} (h : values[i]? = some a) : values.idxOf a = i := by
  obtain ⟨hi, rfl⟩ := List.getElem?_eq_some_iff.mp h
  exact hnodup.idxOf_getElem i hi

/-- The positions of a slice's entries are the numbers between its ends. -/
theorem map_idxOf_slice (hnodup : values.Nodup) (h : last ≤ values.length) :
    (slice values first last).map values.idxOf = List.range' first (last - first) := by
  refine List.ext_getElem? fun i => ?_
  by_cases hi : first + i < last
  · have hlt : first + i < values.length := by omega
    rw [List.getElem?_map, getElem?_slice hi, List.getElem?_eq_getElem hlt, Option.map_some,
      hnodup.idxOf_getElem _ hlt, List.getElem?_range' (by omega)]
    simp
  · rw [List.getElem?_eq_none, List.getElem?_eq_none]
    · rw [List.length_range']
      omega
    · rw [List.length_map, length_slice h]
      omega

end Slices

namespace ListSplits

variable {α : Type*} {values front back : List α} {value last : α}

/-- A splitting of a list at one of its elements is at its last element or before it. -/
theorem split_concat (h : values ++ [last] = front ++ value :: back) :
    (front = values ∧ value = last ∧ back = []) ∨ ∃ init, values = front ++ value :: init ∧
      back = init ++ [last] := by
  rcases List.eq_nil_or_concat back with rfl | ⟨init, final, rfl⟩
  · obtain ⟨rfl, hlast⟩ := List.append_inj' h rfl
    exact .inl ⟨rfl, (List.singleton_inj.mp hlast).symm, rfl⟩
  · rw [List.concat_eq_append] at h ⊢
    have h' : values ++ [last] = (front ++ value :: init) ++ [final] := by
      rw [h, List.append_assoc, List.cons_append]
    obtain ⟨hvalues, hfinal⟩ := List.append_inj' h' rfl
    exact .inr ⟨init, hvalues, by rw [List.singleton_inj.mp hfinal]⟩

end ListSplits
