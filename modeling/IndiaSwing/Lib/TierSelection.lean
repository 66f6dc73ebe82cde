import Mathlib.Data.Finset.Dedup
import Mathlib.Data.Finset.Card
import IndiaSwing.Lib.KeySort

/-! Taking whole tiers in their order while they fit into a capacity. -/

namespace TierSelection

open KeySort

variable {α κ ν : Type*} [LinearOrder κ] [DecidableEq ν] (tier : α → κ) (name : α → ν)

/-- The tiers of some values, in their order, each once. -/
def tiers (values : List α) : List κ := sortOn id (values.map tier).dedup

/-- The names of the values whose tiers are among the given ones. -/
def namesIn (values : List α) (among : List κ) : Finset ν :=
  ((values.filter (tier · ∈ among)).map name).toFinset

/-- Selects from these tiers on. What does not fit as a whole is turned away, and so is all that
follows. -/
def select (capacity : ℕ) (values : List α) : List κ → Finset ν → Finset ν × Finset ν
  | [], selected => (selected, ∅)
  | next :: rest, selected =>
    let members := values.filter (tier · = next)
    let remaining : ℤ := capacity - selected.card
    if remaining ≤ 0 then (selected, ∅)
    else if remaining < members.length then (selected, (members.map name).toFinset)
    else select capacity values rest (selected ∪ (members.map name).toFinset)

variable {tier name} {values others : List α} {among front rest : List κ} {selected : Finset ν}
variable {a : α} {capacity : ℕ}

theorem mem_tiers {t : κ} : t ∈ tiers tier values ↔ ∃ a ∈ values, tier a = t := by
  rw [tiers, (perm_sortOn _ _).mem_iff, List.mem_dedup, List.mem_map]

theorem tiers_ordered (tier : α → κ) (values : List α) : (tiers tier values).Pairwise (· < ·) := by
  have hnodup : (tiers tier values).Nodup := (perm_sortOn _ _).nodup_iff.mpr (List.nodup_dedup _)
  have hsorted : (tiers tier values).Pairwise (· ≤ ·) := sortOn_pairwise id _
  exact (hsorted.and hnodup).imp fun hab => lt_of_le_of_ne hab.1 hab.2

theorem tiers_perm (h : values.Perm others) : tiers tier values = tiers tier others := by
  refine sortOn_eq_of_perm id ?_ fun a _ b _ heq => heq
  exact (h.map tier).dedup

theorem mem_namesIn (hname : (values.map name).Nodup) (ha : a ∈ values) :
    name a ∈ namesIn tier name values among ↔ tier a ∈ among := by
  rw [namesIn, List.mem_toFinset, List.mem_map]
  constructor
  · rintro ⟨b, hb, hab⟩
    obtain ⟨hb, htier⟩ := List.mem_filter.mp hb
    obtain rfl := List.inj_on_of_nodup_map hname hb ha hab
    exact of_decide_eq_true htier
  · intro htier
    exact ⟨a, List.mem_filter.mpr ⟨ha, decide_eq_true htier⟩, rfl⟩

theorem namesIn_concat (t : κ) : namesIn tier name values (among ++ [t]) =
    namesIn tier name values among ∪ ((values.filter (tier · = t)).map name).toFinset := by
  ext x
  simp only [namesIn, Finset.mem_union, List.mem_toFinset, List.mem_map, List.mem_filter,
    List.mem_append, List.mem_singleton, decide_eq_true_eq]
  constructor
  · rintro ⟨a, ⟨ha, hmem | heq⟩, rfl⟩
    · exact .inl ⟨a, ⟨ha, hmem⟩, rfl⟩
    · exact .inr ⟨a, ⟨ha, heq⟩, rfl⟩
  · rintro (⟨a, ⟨ha, hmem⟩, rfl⟩ | ⟨a, ⟨ha, heq⟩, rfl⟩)
    · exact ⟨a, ⟨ha, .inl hmem⟩, rfl⟩
    · exact ⟨a, ⟨ha, .inr heq⟩, rfl⟩

/-- What is selected is a front of the tiers, and fits. -/
theorem select_front (hfits : (namesIn tier name values among).card ≤ capacity) (rest : List κ) :
    ∃ front, front <+: rest ∧
      (select tier name capacity values rest (namesIn tier name values among)).1 =
        namesIn tier name values (among ++ front) ∧
      (namesIn tier name values (among ++ front)).card ≤ capacity := by
  induction rest generalizing among with
  | nil => exact ⟨[], List.prefix_rfl, by rw [select, List.append_nil], by rwa [List.append_nil]⟩
  | cons next rest ih =>
    have hstop : ∃ front, front <+: next :: rest ∧ namesIn tier name values among =
        namesIn tier name values (among ++ front) ∧
        (namesIn tier name values (among ++ front)).card ≤ capacity :=
      ⟨[], List.nil_prefix, by rw [List.append_nil], by rwa [List.append_nil]⟩
    rw [select]
    split
    next => exact hstop
    next hroom =>
      split
      next => exact hstop
      next hmembers =>
        rw [← namesIn_concat]
        have hcard : (namesIn tier name values (among ++ [next])).card ≤ capacity := by
          rw [namesIn_concat]
          refine (Finset.card_union_le _ _).trans ?_
          have hlength := List.toFinset_card_le ((values.filter (tier · = next)).map name)
          rw [List.length_map] at hlength
          omega
        obtain ⟨front, hfront, hselect, hfit⟩ := ih hcard
        rw [List.append_assoc] at hselect hfit
        exact ⟨next :: front, (List.prefix_cons_inj next).mpr hfront, hselect, hfit⟩

/-- The order of the values does not matter. -/
theorem select_perm (h : values.Perm others) (rest : List κ) (selected : Finset ν) :
    select tier name capacity values rest selected = select tier name capacity others rest selected := by
  induction rest generalizing selected with
  | nil => rfl
  | cons next rest ih =>
    have hmembers := h.filter fun a => decide (tier a = next)
    have hnames : ((values.filter (tier · = next)).map name).toFinset =
        ((others.filter (tier · = next)).map name).toFinset := by
      ext x
      rw [List.mem_toFinset, List.mem_toFinset]
      exact (hmembers.map name).mem_iff
    rw [select, select, hmembers.length_eq, hnames, ih]

end TierSelection
