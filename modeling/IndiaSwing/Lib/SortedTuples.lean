import Mathlib.Data.List.Sort

namespace SortedTuples

variable {α : Type*} [LinearOrder α]

/-- `tuple(sorted(values))` -/
def sorted (values : List α) : List α := values.insertionSort (· ≤ ·)

/-- A tuple that is its own sorted form and repeats nothing. -/
def SortedUnique (values : List α) : Prop := values.Nodup ∧ sorted values = values

instance (values : List α) : Decidable (SortedUnique values) := inferInstanceAs (Decidable (_ ∧ _))

variable {values : List α} {value : α}

@[simp] theorem mem_sorted : value ∈ sorted values ↔ value ∈ values := List.mem_insertionSort _

theorem sorted_perm : (sorted values).Perm values := List.perm_insertionSort _ _

@[simp] theorem length_sorted : (sorted values).length = values.length :=
  List.length_insertionSort _ _

theorem sorted_pairwise : (sorted values).Pairwise (· ≤ ·) := List.pairwise_insertionSort _ _

theorem sorted_of_pairwise (h : values.Pairwise (· ≤ ·)) : sorted values = values :=
  h.insertionSort_eq

@[simp] theorem sorted_sorted : sorted (sorted values) = sorted values :=
  sorted_of_pairwise sorted_pairwise

theorem sorted_eq_of_perm {others : List α} (h : values.Perm others) : sorted values = sorted others :=
  (sorted_perm.trans (h.trans sorted_perm.symm)).eq_of_pairwise' sorted_pairwise sorted_pairwise

theorem SortedUnique.pairwise (h : SortedUnique values) : values.Pairwise (· ≤ ·) := by
  rw [← h.2]; exact sorted_pairwise

theorem sortedUnique_sorted (h : values.Nodup) : SortedUnique (sorted values) :=
  ⟨sorted_perm.nodup_iff.mpr h, sorted_sorted⟩

/-- Adding a new value and sorting again keeps a tuple sorted and unique. -/
theorem SortedUnique.insert (h : SortedUnique values) (hnew : value ∉ values) :
    SortedUnique (sorted (values ++ [value])) := by
  refine sortedUnique_sorted (List.nodup_append.mpr ⟨h.1, List.nodup_singleton _, ?_⟩)
  intro a ha b hb hab
  rw [List.mem_singleton] at hb
  exact hnew (hb ▸ hab ▸ ha)

end SortedTuples
