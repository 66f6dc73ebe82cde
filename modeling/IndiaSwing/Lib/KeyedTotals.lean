import Mathlib.Algebra.BigOperators.Group.List.Basic
import Mathlib.Algebra.Order.BigOperators.Group.List
import Mathlib.Data.List.Dedup
import Mathlib.Data.List.Perm.Lattice

/-! Totals of values under a key, as a dictionary accumulates them. -/

namespace KeyedTotals

variable {α κ M : Type*} [DecidableEq κ] [AddCommMonoid M] (key : α → κ) (value : α → M)

/-- The sum of the values under a key. -/
def totalOf (items : List α) (k : κ) : M := ((items.filter (key · = k)).map value).sum

/-- The keys with the sums of the values under them. -/
def totals (items : List α) : List (κ × M) :=
  ((items.map key).dedup).map fun k => (k, totalOf key value items k)

variable {key value} {items others : List α} {a first second : α}

/-- Lists with the same keys and the same sums have the same totals, up to order. -/
theorem totals_perm_of (hkeys : ∀ k, k ∈ items.map key ↔ k ∈ others.map key)
    (hsums : ∀ k, totalOf key value items k = totalOf key value others k) :
    (totals key value items).Perm (totals key value others) := by
  have hperm : ((items.map key).dedup).Perm ((others.map key).dedup) := by
    refine (List.perm_ext_iff_of_nodup (List.nodup_dedup _) (List.nodup_dedup _)).mpr fun k => ?_
    rw [List.mem_dedup, List.mem_dedup, hkeys]
  have hpairs : (fun k => (k, totalOf key value items k)) = fun k => (k, totalOf key value others k) :=
    funext fun k => by rw [hsums]
  unfold totals
  rw [hpairs]
  exact hperm.map _

theorem totalOf_perm (h : items.Perm others) (k : κ) : totalOf key value items k = totalOf key value others k :=
  ((h.filter _).map _).sum_eq

theorem totals_perm (h : items.Perm others) : (totals key value items).Perm (totals key value others) :=
  totals_perm_of (fun _ => (h.map key).mem_iff) fun k => totalOf_perm h k

theorem totalOf_cons (k : κ) : totalOf key value (a :: items) k =
    (if key a = k then value a else 0) + totalOf key value items k := by
  unfold totalOf
  by_cases hk : key a = k
  · simp [hk]
  · simp [hk]

/-- An item whose value is split between two items under its key. -/
structure Splits (key : α → κ) (value : α → M) (a left right : α) : Prop where
  left_key : key left = key a
  right_key : key right = key a
  value_eq : value a = value left + value right

theorem Splits.totalOf_eq (h : Splits key value a first second) (k : κ) :
    totalOf key value (a :: items) k = totalOf key value (first :: second :: items) k := by
  rw [totalOf_cons, totalOf_cons, totalOf_cons, h.left_key, h.right_key, h.value_eq, ← add_assoc]
  by_cases hk : key a = k
  · rw [if_pos hk, if_pos hk, if_pos hk]
  · rw [if_neg hk, if_neg hk, if_neg hk, add_zero]

/-- Splitting an item changes no total. -/
theorem Splits.totals_perm (h : Splits key value a first second) :
    (totals key value (a :: items)).Perm (totals key value (first :: second :: items)) := by
  refine totals_perm_of (fun k => ?_) fun k => h.totalOf_eq k
  simp only [List.map_cons, List.mem_cons, h.left_key, h.right_key]
  tauto

theorem sum_ite_of_mem {keys : List κ} (hkeys : keys.Nodup) {k : κ} (hk : k ∈ keys) (m : M) :
    (keys.map fun k' => if k = k' then m else 0).sum = m := by
  induction keys with
  | nil => cases hk
  | cons k' keys ih =>
    obtain ⟨hnew, hrest⟩ := List.nodup_cons.mp hkeys
    rw [List.map_cons, List.sum_cons]
    rcases List.mem_cons.mp hk with rfl | hk
    · have hzero : (keys.map fun k' => if k = k' then m else 0).sum = 0 := by
        refine List.sum_eq_zero fun x hx => ?_
        obtain ⟨other, hother, rfl⟩ := List.mem_map.mp hx
        have hne : k ≠ other := fun heq => hnew (heq.symm ▸ hother)
        exact if_neg hne
      rw [if_pos rfl, hzero, add_zero]
    · have hne : k ≠ k' := fun heq => hnew (heq ▸ hk)
      rw [if_neg hne, zero_add, ih hrest hk]

/-- The totals add up to the sum of all values. -/
theorem sum_totals (items : List α) : ((totals key value items).map (·.2)).sum = (items.map value).sum := by
  have hfold : ∀ keys : List κ, keys.Nodup → (∀ a ∈ items, key a ∈ keys) →
      (keys.map (totalOf key value items)).sum = (items.map value).sum := by
    intro keys hkeys hall
    induction items with
    | nil =>
      refine List.sum_eq_zero fun x hx => ?_
      obtain ⟨k, -, rfl⟩ := List.mem_map.mp hx
      rfl
    | cons a items ih =>
      have hrest := ih fun b hb => hall b (List.mem_cons_of_mem _ hb)
      have hone := sum_ite_of_mem hkeys (hall a List.mem_cons_self) (value a)
      calc (keys.map (totalOf key value (a :: items))).sum
          = (keys.map fun k => (if key a = k then value a else 0) + totalOf key value items k).sum :=
            congrArg List.sum (List.map_congr_left fun k _ => totalOf_cons k)
        _ = value a + (items.map value).sum := by rw [List.sum_map_add, hone, hrest]
        _ = ((a :: items).map value).sum := by rw [List.map_cons, List.sum_cons]
  unfold totals
  rw [List.map_map]
  exact hfold _ (List.nodup_dedup _) fun a ha => List.mem_dedup.mpr (List.mem_map_of_mem ha)

end KeyedTotals
