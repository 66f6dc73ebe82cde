import Mathlib.Data.List.Basic
import Mathlib.Data.List.Infix
import Mathlib.Data.List.Nodup
import Mathlib.Data.List.Pairwise
import Mathlib.Order.Lattice

namespace OrderedPrefixes

variable {α β : Type*} {f g : α → Option β} {key : α → β} {items xs ys : List α}

/-- On items that their key identifies, a prefix of the keys is a prefix of the items. -/
theorem prefix_of_map_prefix (hkey : ∀ a ∈ items, ∀ b ∈ items, key a = key b → a = b)
    (hxs : xs ⊆ items) (hys : ys ⊆ items) (h : xs.map key <+: ys.map key) : xs <+: ys := by
  induction xs generalizing ys with
  | nil => exact List.nil_prefix
  | cons x xs ih =>
    cases ys with
    | nil => simp at h
    | cons y ys =>
      rw [List.map_cons, List.map_cons, List.cons_prefix_cons] at h
      obtain ⟨hx, hxs⟩ := List.cons_subset.mp hxs
      obtain ⟨hy, hys⟩ := List.cons_subset.mp hys
      rw [hkey x hx y hy h.1]
      exact List.cons_prefix_cons.mpr ⟨rfl, ih hxs hys h.2⟩

/-- Lookups in an increasing order that stop at the first miss grow to a prefix of better ones. -/
theorem filterMap_prefix_filterMap (hgrow : ∀ a b, f a = some b → g a = some b)
    (hstop : items.Pairwise fun a b => f b ≠ none → f a ≠ none) :
    items.filterMap f <+: items.filterMap g := by
  induction items with
  | nil => exact List.nil_prefix
  | cons a rest ih =>
    obtain ⟨hfirst, hrest⟩ := List.pairwise_cons.mp hstop
    cases hf : f a with
    | some b =>
      rw [List.filterMap_cons_some hf, List.filterMap_cons_some (hgrow a b hf)]
      exact List.cons_prefix_cons.mpr ⟨rfl, ih hrest⟩
    | none =>
      have hnone : rest.filterMap f = [] := by
        rw [List.filterMap_eq_nil_iff]
        intro b hb
        by_contra hne
        exact hfirst b hb hne hf
      rw [List.filterMap_cons_none hf, hnone]
      exact List.nil_prefix

/-- A list without repetition is no longer than a prefix of it that has all its items. -/
theorem eq_of_prefix_of_subset (hpre : xs <+: ys) (hnodup : ys.Nodup) (hsubset : ys ⊆ xs) :
    xs = ys := by
  obtain ⟨more, rfl⟩ := hpre
  cases more with
  | nil => rw [List.append_nil]
  | cons a more =>
    have hdisjoint := (List.nodup_append.mp hnodup).2.2
    have ha : a ∈ xs := hsubset (List.mem_append_right _ List.mem_cons_self)
    exact absurd rfl (hdisjoint a ha a List.mem_cons_self)

section Increasing

variable {γ : Type*} [LinearOrder γ] {sessions : List γ} {a b : γ} {n : ℕ}

/-- The first items of an increasing list hold everything below any of them. -/
theorem mem_take_of_increasing (hinc : sessions.Pairwise (· < ·)) (ha : a ∈ sessions) (hab : a < b)
    (hb : b ∈ sessions.take n) : a ∈ sessions.take n := by
  rw [← List.take_append_drop n sessions] at hinc ha
  rcases List.mem_append.mp ha with htake | hdrop
  · exact htake
  · have hlt := (List.pairwise_append.mp hinc).2.2 b hb a hdrop
    exact absurd (hab.trans hlt) (lt_irrefl a)

theorem le_of_mem_drop_idxOf (hinc : sessions.Pairwise (· < ·))
    (h : b ∈ sessions.drop (sessions.idxOf a)) : a ≤ b := by
  by_cases ha : a ∈ sessions
  · have hlt := List.idxOf_lt_length_of_mem ha
    have hcons := List.drop_eq_getElem_cons hlt
    rw [List.getElem_idxOf hlt] at hcons
    rw [hcons] at h
    have hdrop : (a :: sessions.drop (sessions.idxOf a + 1)).Pairwise (· < ·) :=
      hcons ▸ hinc.sublist (List.drop_sublist _ _)
    rcases List.mem_cons.mp h with rfl | hrest
    · exact le_rfl
    · exact ((List.pairwise_cons.mp hdrop).1 b hrest).le
  · rw [List.idxOf_eq_length ha, List.drop_length] at h
    cases h

end Increasing

end OrderedPrefixes
