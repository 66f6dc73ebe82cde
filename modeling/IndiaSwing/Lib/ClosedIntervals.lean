import Mathlib.Data.List.Enum
import Mathlib.Data.List.MinMax
import Mathlib.Data.List.Pairwise
import Mathlib.Order.Basic

namespace ClosedIntervals

section Fronts

variable {α : Type*} {p : α → Prop} [DecidablePred p] {items : List α} {a : α} {i : ℕ}

/-- Where a property passes on to everything before, the items that have it are the first ones. -/
theorem getElem?_front (h : items.Pairwise fun a b => p b → p a) (ha : items[i]? = some a) :
    p a ↔ i < (items.filter p).length := by
  induction items generalizing i with
  | nil => simp at ha
  | cons b items ih =>
    obtain ⟨hfirst, hrest⟩ := List.pairwise_cons.mp h
    by_cases hb : p b
    · rw [List.filter_cons_of_pos (by simpa using hb), List.length_cons]
      cases i with
      | zero =>
        obtain rfl : b = a := by simpa using ha
        exact iff_of_true hb (Nat.succ_pos _)
      | succ i =>
        rw [List.getElem?_cons_succ] at ha
        rw [ih hrest ha]
        omega
    · have hnone : items.filter p = [] := by
        apply List.filter_eq_nil_iff.mpr
        intro c hc hpc
        exact hb (hfirst c hc (by simpa using hpc))
      rw [List.filter_cons_of_neg (by simpa using hb), hnone]
      refine iff_of_false (fun hpa => ?_) (Nat.not_lt_zero _)
      cases i with
      | zero =>
        obtain rfl : b = a := by simpa using ha
        exact hb hpa
      | succ i =>
        rw [List.getElem?_cons_succ] at ha
        exact hb (hfirst a (List.mem_of_getElem? ha) hpa)

theorem filter_eq_take (h : items.Pairwise fun a b => p b → p a) :
    items.filter p = items.take (items.filter p).length := by
  induction items with
  | nil => rfl
  | cons b items ih =>
    obtain ⟨hfirst, hrest⟩ := List.pairwise_cons.mp h
    by_cases hb : p b
    · rw [List.filter_cons_of_pos (by simpa using hb), List.length_cons, List.take_succ_cons, ← ih hrest]
    · have hnone : items.filter p = [] := by
        apply List.filter_eq_nil_iff.mpr
        intro c hc hpc
        exact hb (hfirst c hc (by simpa using hpc))
      rw [List.filter_cons_of_neg (by simpa using hb), hnone]
      rfl

/-- The indices of the items that have a property. -/
def indices (p : α → Prop) [DecidablePred p] (items : List α) : List ℕ :=
  (items.zipIdx.filter fun entry => p entry.1).map (·.2)

theorem mem_indices : i ∈ indices p items ↔ ∃ a, items[i]? = some a ∧ p a := by
  unfold indices
  constructor
  · intro h
    obtain ⟨⟨a, j⟩, hmem, rfl⟩ := List.mem_map.mp h
    obtain ⟨hzip, hp⟩ := List.mem_filter.mp hmem
    exact ⟨a, List.mk_mem_zipIdx_iff_getElem?.mp hzip, by simpa using hp⟩
  · rintro ⟨a, ha, hp⟩
    refine List.mem_map.mpr ⟨(a, i), List.mem_filter.mpr ⟨List.mk_mem_zipIdx_iff_getElem?.mpr ha, ?_⟩, rfl⟩
    simpa using hp

/-- The items through the last index of one that has the property. -/
theorem take_last_index (h : items.Pairwise fun a b => p b → p a) :
    (match (indices p items).max? with
      | none => []
      | some last => items.take (last + 1)) = items.filter p := by
  have hmem : ∀ i, i ∈ indices p items ↔ i < (items.filter p).length := by
    intro i
    rw [mem_indices]
    constructor
    · rintro ⟨a, ha, hp⟩
      exact (getElem?_front h ha).mp hp
    · intro hi
      have hlength : i < items.length := lt_of_lt_of_le hi (List.length_filter_le _ _)
      exact ⟨items[i], List.getElem?_eq_getElem hlength,
        (getElem?_front h (List.getElem?_eq_getElem hlength)).mpr hi⟩
  rcases Nat.eq_zero_or_pos (items.filter p).length with hzero | hpos
  · have hempty : indices p items = [] := by
      apply List.eq_nil_iff_forall_not_mem.mpr
      intro i hi
      have hlt := (hmem i).mp hi
      omega
    rw [hempty, List.length_eq_zero_iff.mp hzero]
    rfl
  · have hmax : (indices p items).max? = some ((items.filter p).length - 1) := by
      apply List.max?_eq_some_iff.mpr
      refine ⟨(hmem _).mpr (by omega), fun i hi => ?_⟩
      have hlt := (hmem i).mp hi
      omega
    rw [hmax]
    dsimp only
    rw [Nat.sub_add_cancel hpos, ← filter_eq_take h]

end Fronts

variable {α τ : Type*} [LinearOrder τ] {opens closes : α → τ} {items : List α} {t : τ}

/-- Intervals in order: each opens before it closes, and closes before a later one opens. -/
structure Apart (opens closes : α → τ) (items : List α) : Prop where
  opens_le : ∀ a ∈ items, opens a ≤ closes a
  apart : items.Pairwise fun a b => closes a < opens b

theorem Apart.closed_front (h : Apart opens closes items) (t : τ) :
    items.Pairwise fun a b => closes b ≤ t → closes a ≤ t := by
  refine h.apart.imp_of_mem fun ha hb hlt hclosed => ?_
  exact (hlt.trans_le (h.opens_le _ hb)).le.trans hclosed

/-- A moment lies in one interval, which is the last that has opened and the only one that has not closed before,
or in none, and then what has opened has closed before. -/
theorem Apart.cases (h : Apart opens closes items) (t : τ) :
    (∃ front a back, items = front ++ a :: back ∧ opens a ≤ t ∧ t ≤ closes a ∧
      items.filter (fun b => opens b ≤ t ∧ t ≤ closes b) = [a] ∧
      items.filter (fun b => opens b ≤ t) = front ++ [a] ∧ ∀ b ∈ front, closes b < t) ∨
    (items.filter (fun b => opens b ≤ t ∧ t ≤ closes b) = [] ∧
      items.filter (fun b => opens b ≤ t) = items.filter (fun b => closes b ≤ t) ∧
      ∀ b ∈ items, opens b ≤ t → closes b < t) := by
  by_cases hin : ∃ a ∈ items, opens a ≤ t ∧ t ≤ closes a
  · left
    obtain ⟨a, ha, hopen, hclose⟩ := hin
    obtain ⟨front, back, rfl⟩ := List.append_of_mem ha
    obtain ⟨-, hcons, hcross⟩ := List.pairwise_append.mp h.apart
    have hfront : ∀ b ∈ front, closes b < t := fun b hb =>
      (hcross b hb a List.mem_cons_self).trans_le hopen
    have hback : ∀ b ∈ back, t < opens b := fun b hb =>
      hclose.trans_lt ((List.pairwise_cons.mp hcons).1 b hb)
    have hfrontOpen : ∀ b ∈ front, opens b ≤ t := fun b hb =>
      (h.opens_le b (List.mem_append_left _ hb)).trans (hfront b hb).le
    have hnoneFront : front.filter (fun b => opens b ≤ t ∧ t ≤ closes b) = [] := by
      apply List.filter_eq_nil_iff.mpr
      intro b hb hmem
      rw [decide_eq_true_eq] at hmem
      exact absurd hmem.2 (not_le.mpr (hfront b hb))
    have hnoneBack : back.filter (fun b => opens b ≤ t ∧ t ≤ closes b) = [] := by
      apply List.filter_eq_nil_iff.mpr
      intro b hb hmem
      rw [decide_eq_true_eq] at hmem
      exact absurd hmem.1 (not_le.mpr (hback b hb))
    have hopenBack : back.filter (fun b => opens b ≤ t) = [] := by
      apply List.filter_eq_nil_iff.mpr
      intro b hb hmem
      rw [decide_eq_true_eq] at hmem
      exact absurd hmem (not_le.mpr (hback b hb))
    have hopenFront : front.filter (fun b => opens b ≤ t) = front :=
      List.filter_eq_self.mpr fun b hb => decide_eq_true (hfrontOpen b hb)
    refine ⟨front, a, back, rfl, hopen, hclose, ?_, ?_, hfront⟩
    · rw [List.filter_append, hnoneFront, List.nil_append, List.filter_cons, hnoneBack]
      simp [hopen, hclose]
    · rw [List.filter_append, hopenFront, List.filter_cons, hopenBack]
      simp [hopen]
  · right
    have hclosed : ∀ b ∈ items, opens b ≤ t → closes b < t := fun b hb hopen =>
      not_le.mp fun hle => hin ⟨b, hb, hopen, hle⟩
    refine ⟨?_, ?_, hclosed⟩
    · apply List.filter_eq_nil_iff.mpr
      intro b hb hmem
      rw [decide_eq_true_eq] at hmem
      exact hin ⟨b, hb, hmem⟩
    · apply List.filter_congr
      intro b hb
      rw [decide_eq_decide]
      exact ⟨fun hopen => (hclosed b hb hopen).le, fun hclose => (h.opens_le b hb).trans hclose⟩

end ClosedIntervals
