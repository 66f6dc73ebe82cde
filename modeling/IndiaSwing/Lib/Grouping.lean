import Mathlib.Data.List.Dedup
import Mathlib.Data.List.Perm.Lattice
import Mathlib.Data.String.Basic
import IndiaSwing.Lib.KeySort

/-! Grouping values by a key, and pairing those of two lists that are alone under their key. -/

namespace Grouping

open KeySort

section Groups

variable {α κ : Type*} [DecidableEq κ] (key : α → κ) {values more : List α} {a b : α} {keys : List κ}

/-- The values under each key. -/
def groupsBy (values : List α) : List (κ × List α) :=
  (values.map key).dedup.map fun k => (k, values.filter (key · = k))

variable {key}

theorem mem_groupsBy {group : κ × List α} : group ∈ groupsBy key values ↔
    ∃ a ∈ values, group = (key a, values.filter (key · = key a)) := by
  rw [groupsBy, List.mem_map]
  constructor
  · rintro ⟨k, hk, rfl⟩
    obtain ⟨a, ha, rfl⟩ := List.mem_map.mp (List.mem_dedup.mp hk)
    exact ⟨a, ha, rfl⟩
  · rintro ⟨a, ha, rfl⟩
    exact ⟨key a, List.mem_dedup.mpr (List.mem_map.mpr ⟨a, ha, rfl⟩), rfl⟩

theorem mem_group : b ∈ values.filter (key · = key a) ↔ b ∈ values ∧ key b = key a := by
  rw [List.mem_filter, decide_eq_true_eq]

/-- The groups of some keys hold the values with these keys. -/
theorem flatMap_filter_perm (key : α → κ) (values : List α) (hkeys : keys.Nodup) :
    (keys.flatMap fun k => values.filter (key · = k)).Perm (values.filter (key · ∈ keys)) := by
  induction keys with
  | nil => simp
  | cons k keys ih =>
    obtain ⟨hk, hrest⟩ := List.nodup_cons.mp hkeys
    have hfirst : (values.filter (key · ∈ k :: keys)).filter (key · = k) = values.filter (key · = k) := by
      rw [List.filter_filter]
      refine List.filter_congr fun a _ => ?_
      by_cases ha : key a = k <;> simp [ha]
    have hothers : (values.filter (key · ∈ k :: keys)).filter (fun a => !decide (key a = k)) =
        values.filter (key · ∈ keys) := by
      rw [List.filter_filter]
      refine List.filter_congr fun a _ => ?_
      by_cases ha : key a = k
      · simp [ha, hk]
      · simp [ha]
    have hsplit := List.filter_append_perm (fun a => decide (key a = k)) (values.filter (key · ∈ k :: keys))
    rw [hfirst, hothers] at hsplit
    rw [List.flatMap_cons]
    exact ((ih hrest).append_left _).trans hsplit

/-- The groups are a partition of the values. -/
theorem groupsBy_perm (key : α → κ) (values : List α) : ((groupsBy key values).flatMap (·.2)).Perm values := by
  have hall : values.filter (key · ∈ (values.map key).dedup) = values := by
    refine List.filter_eq_self.mpr fun a ha => decide_eq_true ?_
    exact List.mem_dedup.mpr (List.mem_map.mpr ⟨a, ha, rfl⟩)
  have hperm := flatMap_filter_perm key values (List.nodup_dedup (values.map key))
  rw [hall] at hperm
  rw [groupsBy, List.flatMap_map]
  exact hperm

/-- A value is in a group of a kind when the group of its own key is. -/
theorem mem_groups_filter {P : List α → Prop} [DecidablePred P] :
    (∃ group ∈ ((groupsBy key values).map (·.2)).filter P, b ∈ group) ↔
      b ∈ values ∧ P (values.filter (key · = key b)) := by
  constructor
  · rintro ⟨group, hgroup, hb⟩
    obtain ⟨hgroup, hP⟩ := List.mem_filter.mp hgroup
    obtain ⟨found, hfound, rfl⟩ := List.mem_map.mp hgroup
    obtain ⟨a, -, rfl⟩ := mem_groupsBy.mp hfound
    obtain ⟨hb, hkey⟩ := mem_group.mp hb
    rw [hkey]
    exact ⟨hb, of_decide_eq_true hP⟩
  · rintro ⟨hb, hP⟩
    refine ⟨_, List.mem_filter.mpr ⟨List.mem_map.mpr ⟨_, mem_groupsBy.mpr ⟨b, hb, rfl⟩, rfl⟩, ?_⟩,
      mem_group.mpr ⟨hb, rfl⟩⟩
    exact decide_eq_true hP

theorem one_lt_length_iff (hvalues : values.Nodup) (ha : a ∈ values) :
    1 < values.length ↔ ∃ b ∈ values, b ≠ a := by
  constructor
  · intro hlength
    by_contra hnone
    have hall : ∀ b ∈ values, b = a := by
      intro b hb
      by_contra hne
      exact hnone ⟨b, hb, hne⟩
    have hsub : values.Subperm [a] :=
      hvalues.subperm fun b hb => List.mem_singleton.mpr (hall b hb)
    have hle := hsub.length_le
    rw [List.length_singleton] at hle
    omega
  · rintro ⟨b, hb, hne⟩
    by_contra hlength
    obtain ⟨c, hc⟩ := List.length_eq_one_iff.mp
      (le_antisymm (not_lt.mp hlength) (List.length_pos_of_mem ha))
    rw [hc, List.mem_singleton] at ha hb
    exact hne (hb.trans ha.symm)

/-- Values have several images when some image is another than that of one of them. -/
theorem one_lt_images_iff {β : Type*} [DecidableEq β] {f : α → β} (ha : a ∈ values) :
    1 < (values.map f).dedup.length ↔ ∃ b ∈ values, f b ≠ f a := by
  have hmem : f a ∈ (values.map f).dedup := List.mem_dedup.mpr (List.mem_map.mpr ⟨a, ha, rfl⟩)
  rw [one_lt_length_iff (List.nodup_dedup _) hmem]
  constructor
  · rintro ⟨image, himage, hne⟩
    obtain ⟨b, hb, rfl⟩ := List.mem_map.mp (List.mem_dedup.mp himage)
    exact ⟨b, hb, hne⟩
  · rintro ⟨b, hb, hne⟩
    exact ⟨f b, List.mem_dedup.mpr (List.mem_map.mpr ⟨b, hb, rfl⟩), hne⟩

end Groups

section Lookup

variable {α κ : Type*} [DecidableEq κ] {name : α → κ} {values : List α} {a : α} {k : κ}

/-- The last of the values with a name, as a dictionary finds it. -/
def lastUnder (name : α → κ) (values : List α) (k : κ) : Option α := values.reverse.find? fun a => name a = k

theorem lastUnder_some (h : lastUnder name values k = some a) : a ∈ values ∧ name a = k := by
  unfold lastUnder at h
  have hname := List.find?_some h
  exact ⟨List.mem_reverse.mp (List.mem_of_find?_eq_some h), of_decide_eq_true hname⟩

theorem lastUnder_name (hvalues : (values.map name).Nodup) (ha : a ∈ values) :
    lastUnder name values (name a) = some a := by
  cases hfound : lastUnder name values (name a) with
  | some found =>
    obtain ⟨hmem, hname⟩ := lastUnder_some hfound
    rw [List.inj_on_of_nodup_map hvalues hmem ha hname]
  | none =>
    have hnone := List.find?_eq_none.mp hfound a (List.mem_reverse.mpr ha)
    exact absurd (decide_eq_true rfl) hnone

end Lookup

section Steps

variable {α : Type*} [LinearOrder α] {values : List α} {step : α × α}

/-- Two values that follow each other have none between them. -/
theorem mem_steps (hvalues : values.Pairwise (· < ·)) (hstep : step ∈ values.zip values.tail) :
    step.1 ∈ values ∧ step.2 ∈ values ∧ step.1 < step.2 ∧
      ∀ v ∈ values, ¬(step.1 < v ∧ v < step.2) := by
  induction values with
  | nil => cases hstep
  | cons a values ih =>
    cases values with
    | nil => cases hstep
    | cons b rest =>
      obtain ⟨hfirst, hrest⟩ := List.pairwise_cons.mp hvalues
      rcases List.mem_cons.mp hstep with rfl | hstep
      · refine ⟨List.mem_cons_self, List.mem_cons_of_mem _ List.mem_cons_self,
          hfirst b List.mem_cons_self, fun v hv => ?_⟩
        rintro ⟨hlow, hhigh⟩
        rcases List.mem_cons.mp hv with rfl | hv
        · exact lt_irrefl _ hlow
        · rcases List.mem_cons.mp hv with rfl | hv
          · exact lt_irrefl _ hhigh
          · exact lt_asymm hhigh ((List.pairwise_cons.mp hrest).1 v hv)
      · obtain ⟨hleft, hright, hlt, hnone⟩ := ih hrest hstep
        refine ⟨List.mem_cons_of_mem _ hleft, List.mem_cons_of_mem _ hright, hlt, fun v hv => ?_⟩
        rcases List.mem_cons.mp hv with rfl | hv
        · exact fun hbetween => lt_asymm hbetween.1 (hfirst _ hleft)
        · exact hnone v hv

theorem steps_distinct (hvalues : values.Pairwise (· < ·)) :
    (values.zip values.tail).Pairwise fun s t => s.1 ≠ t.1 ∧ s.2 ≠ t.2 := by
  induction values with
  | nil => exact .nil
  | cons a values ih =>
    cases values with
    | nil => exact .nil
    | cons b rest =>
      obtain ⟨hfirst, hrest⟩ := List.pairwise_cons.mp hvalues
      refine List.pairwise_cons.mpr ⟨fun step hstep => ?_, ih hrest⟩
      have hmem := mem_steps hrest hstep
      have hright : step.2 ∈ rest := (List.of_mem_zip hstep).2
      exact ⟨(hfirst _ hmem.1).ne, ((List.pairwise_cons.mp hrest).1 _ hright).ne⟩

end Steps

section Pairs

variable {α ι κ : Type*} [DecidableEq ι] [DecidableEq κ] (name : α → ι) (key : α → κ) (text : κ → String)

/-- What a pass pairs, and what it leaves of both lists. -/
structure Pairing (α : Type*) where
  pairs : List (α × α)
  previous : List α
  current : List α

/-- The values under a key in both lists, if they are alone under it. -/
def alone (key : α → κ) (previous current : List α) (k : κ) : Option (α × α) :=
  match previous.filter (key · = k), current.filter (key · = k) with
  | [left], [right] => some (left, right)
  | _, _ => none

/-- Pairs the values of two lists that are alone under a key that both lists have. -/
def pairUniqueBy (previous current : List α) : Pairing α :=
  let shared := sortOn text ((previous.map key).dedup.filter (· ∈ current.map key))
  let pairs := shared.filterMap (alone key previous current)
  { pairs := pairs
    previous := previous.filter fun a => name a ∉ pairs.map fun pair => name pair.1
    current := current.filter fun a => name a ∉ pairs.map fun pair => name pair.2 }

/-- The values of both lists are paired at most once, and none is lost. -/
structure Pairing.Of (pairing : Pairing α) (previous current : List α) : Prop where
  previous : (pairing.pairs.map (·.1) ++ pairing.previous).Perm previous
  current : (pairing.pairs.map (·.2) ++ pairing.current).Perm current

/-- Pairing what a pass leaves. -/
def Pairing.andThen (first second : Pairing α) : Pairing α :=
  { second with pairs := first.pairs ++ second.pairs }

variable {name key text} {previous current values taken : List α} {first second : Pairing α}

theorem Pairing.Of.andThen (hfirst : first.Of previous current)
    (hsecond : second.Of first.previous first.current) : (first.andThen second).Of previous current := by
  constructor
  · show ((first.pairs ++ second.pairs).map (·.1) ++ second.previous).Perm previous
    rw [List.map_append, List.append_assoc]
    exact (hsecond.previous.append_left _).trans hfirst.previous
  · show ((first.pairs ++ second.pairs).map (·.2) ++ second.current).Perm current
    rw [List.map_append, List.append_assoc]
    exact (hsecond.current.append_left _).trans hfirst.current

/-- What is taken and what is left of some values with distinct names. -/
theorem taken_append_rest (hvalues : (values.map name).Nodup) (htaken : taken.Nodup)
    (hsub : ∀ a ∈ taken, a ∈ values) :
    (taken ++ values.filter fun a => name a ∉ taken.map name).Perm values := by
  have hmem : ∀ a ∈ values, name a ∈ taken.map name ↔ a ∈ taken := by
    intro a ha
    rw [List.mem_map]
    constructor
    · rintro ⟨b, hb, hname⟩
      exact List.inj_on_of_nodup_map hvalues (hsub b hb) ha hname ▸ hb
    · exact fun h => ⟨a, h, rfl⟩
  have hfilter : (values.filter fun a => name a ∈ taken.map name).Perm taken := by
    refine (List.perm_ext_iff_of_nodup (hvalues.of_map.filter _) htaken).mpr fun a => ?_
    rw [List.mem_filter, decide_eq_true_eq]
    constructor
    · rintro ⟨ha, hname⟩
      exact (hmem a ha).mp hname
    · intro ha
      exact ⟨hsub a ha, (hmem a (hsub a ha)).mpr ha⟩
  have hsplit := List.filter_append_perm (fun a => decide (name a ∈ taken.map name)) values
  have hrest : (values.filter fun a => !decide (name a ∈ taken.map name)) =
      values.filter fun a => name a ∉ taken.map name := by
    refine List.filter_congr fun a _ => ?_
    rw [decide_not]
  rw [hrest] at hsplit
  exact (hfilter.symm.append_right _).trans hsplit

theorem alone_eq_some {k : κ} {pair : α × α} (h : alone key previous current k = some pair) :
    (pair.1 ∈ previous ∧ key pair.1 = k) ∧ pair.2 ∈ current ∧ key pair.2 = k := by
  unfold alone at h
  split at h
  next left right hleft hright =>
    obtain rfl := Option.some.inj h
    have hl : left ∈ previous.filter (key · = k) := hleft ▸ List.mem_singleton_self _
    have hr : right ∈ current.filter (key · = k) := hright ▸ List.mem_singleton_self _
    rw [List.mem_filter, decide_eq_true_eq] at hl hr
    exact ⟨hl, hr⟩
  next => cases h

theorem pairUniqueBy_of (key : α → κ) (text : κ → String) (hprevious : (previous.map name).Nodup)
    (hcurrent : (current.map name).Nodup) :
    (pairUniqueBy name key text previous current).Of previous current := by
  have hshared : (sortOn text ((previous.map key).dedup.filter (· ∈ current.map key))).Nodup :=
    (perm_sortOn _ _).nodup_iff.mpr ((List.nodup_dedup _).filter _)
  have hleft : (((pairUniqueBy name key text previous current).pairs).map (·.1)).Nodup := by
    show (((sortOn text _).filterMap (alone key previous current)).map _).Nodup
    rw [List.map_filterMap]
    refine hshared.filterMap fun k k' a ha ha' => ?_
    obtain ⟨pair, hpair, rfl⟩ := Option.map_eq_some_iff.mp ha
    obtain ⟨pair', hpair', hsame⟩ := Option.map_eq_some_iff.mp ha'
    rw [← (alone_eq_some hpair).1.2, ← (alone_eq_some hpair').1.2, hsame]
  have hright : (((pairUniqueBy name key text previous current).pairs).map (·.2)).Nodup := by
    show (((sortOn text _).filterMap (alone key previous current)).map _).Nodup
    rw [List.map_filterMap]
    refine hshared.filterMap fun k k' a ha ha' => ?_
    obtain ⟨pair, hpair, rfl⟩ := Option.map_eq_some_iff.mp ha
    obtain ⟨pair', hpair', hsame⟩ := Option.map_eq_some_iff.mp ha'
    rw [← (alone_eq_some hpair).2.2, ← (alone_eq_some hpair').2.2, hsame]
  have hmem : ∀ pair ∈ (pairUniqueBy name key text previous current).pairs,
      pair.1 ∈ previous ∧ pair.2 ∈ current := by
    intro pair hpair
    obtain ⟨k, -, hk⟩ := List.mem_filterMap.mp hpair
    have h : alone key previous current k = some pair := hk
    exact ⟨(alone_eq_some h).1.1, (alone_eq_some h).2.1⟩
  constructor
  · have hrest := taken_append_rest hprevious hleft fun a ha => by
      obtain ⟨pair, hpair, rfl⟩ := List.mem_map.mp ha
      exact (hmem pair hpair).1
    rw [List.map_map] at hrest
    exact hrest
  · have hrest := taken_append_rest hcurrent hright fun a ha => by
      obtain ⟨pair, hpair, rfl⟩ := List.mem_map.mp ha
      exact (hmem pair hpair).2
    rw [List.map_map] at hrest
    exact hrest

end Pairs

end Grouping
