import Mathlib.Data.List.Sort
import Mathlib.Data.List.Perm.Basic
import Mathlib.Data.Multiset.Basic

namespace KeySort

variable {α β κ : Type*} [LinearOrder κ] (key : α → κ) {a b : α} {k : κ} {values others front back : List α}

/-- The stable sort by a key. -/
def sortOn (values : List α) : List α := values.insertionSort fun a b => key a ≤ key b

theorem perm_sortOn (values : List α) : (sortOn key values).Perm values := List.perm_insertionSort _ _

theorem sortOn_pairwise (values : List α) : (sortOn key values).Pairwise fun a b => key a ≤ key b :=
  haveI : Std.Total fun a b : α => key a ≤ key b := ⟨fun a b => le_total (key a) (key b)⟩
  haveI : IsTrans α fun a b : α => key a ≤ key b := ⟨fun _ _ _ => le_trans⟩
  List.pairwise_insertionSort _ _

theorem sortOn_of_pairwise (h : values.Pairwise fun a b => key a ≤ key b) : sortOn key values = values :=
  h.insertionSort_eq

/-- Lists sorted by keys that tell their members apart agree when they have the same members. -/
theorem sortOn_eq_of_perm (hperm : values.Perm others)
    (hkey : ∀ a ∈ values, ∀ b ∈ values, key a = key b → a = b) :
    sortOn key values = sortOn key others := by
  have hsorted : (sortOn key values).Perm (sortOn key others) :=
    (perm_sortOn key values).trans (hperm.trans (perm_sortOn key others).symm)
  refine hsorted.eq_of_pairwise ?_ (sortOn_pairwise key values) (sortOn_pairwise key others)
  intro a b ha hb hab hba
  have ha' : a ∈ values := (perm_sortOn key values).mem_iff.mp ha
  have hb' : b ∈ values := hperm.mem_iff.mpr ((perm_sortOn key others).mem_iff.mp hb)
  exact hkey a ha' b hb' (le_antisymm hab hba)

theorem perm_of_sortOn_eq (h : sortOn key values = sortOn key others) : values.Perm others :=
  (perm_sortOn key values).symm.trans (h ▸ perm_sortOn key others)

/-- Sorting before and after a map that keeps the keys. -/
theorem map_sortOn (key' : β → κ) (f : α → β) (h : ∀ a, key' (f a) = key a) (values : List α) :
    (sortOn key values).map f = sortOn key' (values.map f) := by
  refine List.map_insertionSort _ _ f values ?_
  intro a _ b _
  rw [h, h]

theorem filter_orderedInsert (a : α) (values : List α) :
    (values.orderedInsert (fun a b => key a ≤ key b) a).filter (key · = k) =
      (a :: values).filter (key · = k) := by
  induction values with
  | nil => rfl
  | cons b values ih =>
    by_cases hle : key a ≤ key b
    · rw [List.orderedInsert, if_pos hle]
    · rw [List.orderedInsert, if_neg hle, List.filter_cons, ih]
      by_cases ha : key a = k
      · have hb : ¬key b = k := by
          rintro rfl
          exact hle (le_of_eq ha)
        simp [ha, hb]
      · simp [ha, List.filter_cons]

/-- Members with one key keep their order. -/
theorem filter_sortOn (values : List α) :
    (sortOn key values).filter (key · = k) = values.filter (key · = k) := by
  induction values with
  | nil => rfl
  | cons a values ih =>
    unfold sortOn at ih ⊢
    rw [List.insertionSort_cons, filter_orderedInsert, List.filter_cons, ih, List.filter_cons]

/-- Replacing one member of a list changes its members. -/
theorem eq_of_perm_replace (h : (front ++ a :: back).Perm (front ++ b :: back)) : a = b := by
  have hcons : (a :: (front ++ back)).Perm (b :: (front ++ back)) :=
    List.perm_middle.symm.trans (h.trans List.perm_middle)
  have heq := Multiset.coe_eq_coe.mpr hcons
  rw [← Multiset.cons_coe, ← Multiset.cons_coe] at heq
  exact (Multiset.cons_inj_left _).mp heq

/-- Two members with one key, each in turn at the front. -/
theorem eq_of_sortOn_front {rest rest' : List α} (hkey : key a = key b)
    (h : sortOn key (a :: rest) = sortOn key (b :: rest')) : a = b := by
  have hfilter := congrArg (List.filter (key · = key b)) h
  rw [filter_sortOn, filter_sortOn] at hfilter
  simp only [List.filter_cons, hkey, decide_true, if_true] at hfilter
  exact (List.cons.inj hfilter).1

/-- A reordering of mapped members is a reordering of the members. -/
theorem exists_perm_map_eq {f : α → β} {images : List β} (h : (values.map f).Perm images) :
    ∃ order, values.Perm order ∧ order.map f = images := by
  have hcomp := congrFun (congrFun (List.eq_map_comp_perm f) images) values
  obtain ⟨order, himages, horder⟩ := hcomp.mpr h.symm
  exact ⟨order, horder.symm, himages.symm⟩

/-- Reordered entries with the same distinct keys in the same order are the same entries. -/
theorem eq_of_perm_of_keys {entries others : List (α × β)} (hkeys : entries.map (·.1) = others.map (·.1))
    (hnodup : (entries.map (·.1)).Nodup) (hperm : entries.Perm others) : entries = others := by
  induction entries generalizing others with
  | nil => exact (List.nil_perm.mp hperm).symm
  | cons entry entries ih =>
    cases others with
    | nil => simp at hkeys
    | cons other others =>
      obtain ⟨hkey, htail⟩ := List.cons.inj hkeys
      obtain ⟨hnew, hrest⟩ := List.nodup_cons.mp hnodup
      have hentry : entry = other := by
        rcases List.mem_cons.mp (hperm.mem_iff.mp List.mem_cons_self) with heq | hmem
        · exact heq
        · exact absurd (htail ▸ List.mem_map.mpr ⟨entry, hmem, rfl⟩) hnew
      subst hentry
      rw [ih htail hrest (hperm.cons_inv)]

theorem sortOn_inj {key : α → κ} (hkey : Function.Injective key) :
    sortOn key values = sortOn key others ↔ values.Perm others :=
  ⟨perm_of_sortOn_eq key, fun h => sortOn_eq_of_perm key h fun _ _ _ _ heq => hkey heq⟩

section Images

variable {f : α → β} {R : α → α → Prop}

theorem forall₂_of_map_eq (h : values.map f = others.map f) :
    List.Forall₂ (fun a b => f a = f b) values others := by
  have hmap : List.Forall₂ (· = ·) (values.map f) (others.map f) := by
    rw [h]
    exact List.forall₂_same.mpr fun _ _ => rfl
  rwa [List.forall₂_map_left_iff, List.forall₂_map_right_iff] at hmap

/-- Lists with equal images are related member by member, where equal images relate the members. -/
theorem forall₂_of_images (hrel : ∀ a ∈ values, ∀ b, f a = f b → R a b)
    (h : values.map f = others.map f) : List.Forall₂ R values others := by
  have hboth := (List.forall₂_and_left _ _).mpr ⟨hrel, forall₂_of_map_eq h⟩
  exact hboth.imp fun a b hab => hab.1 b hab.2

/-- The same for lists whose images are reordered. -/
theorem forall₂_of_perm_images (hrel : ∀ a ∈ values, ∀ b, f a = f b → R a b)
    (h : (values.map f).Perm (others.map f)) :
    ∃ order, values.Perm order ∧ List.Forall₂ R order others := by
  obtain ⟨order, hperm, heq⟩ := exists_perm_map_eq h
  exact ⟨order, hperm, forall₂_of_images (fun a ha => hrel a (hperm.mem_iff.mpr ha)) heq⟩

theorem map_eq_of_forall₂ (hrel : ∀ a ∈ values, ∀ b, R a b → f a = f b) (h : List.Forall₂ R values others) :
    values.map f = others.map f := by
  induction h with
  | nil => rfl
  | cons hab hrest ih =>
    have htail := ih fun a ha => hrel a (List.mem_cons_of_mem _ ha)
    rw [List.map_cons, List.map_cons, hrel _ List.mem_cons_self _ hab, htail]

/-- A map that tells apart the members of lists tells apart the lists. -/
theorem eq_of_map_eq {P : α → Prop} (hinj : ∀ a b, P a → P b → f a = f b → a = b)
    (hvalues : ∀ a ∈ values, P a) (hothers : ∀ b ∈ others, P b) (h : values.map f = others.map f) :
    values = others := by
  induction values generalizing others with
  | nil => exact (List.map_eq_nil_iff.mp h.symm).symm
  | cons a values ih =>
    cases others with
    | nil => cases h
    | cons b others =>
      obtain ⟨hhead, htail⟩ := List.cons.inj h
      have hab := hinj a b (hvalues a List.mem_cons_self) (hothers b List.mem_cons_self) hhead
      have hrest := ih (fun c hc => hvalues c (List.mem_cons_of_mem _ hc))
        (fun c hc => hothers c (List.mem_cons_of_mem _ hc)) htail
      rw [hab, hrest]

/-- Replacing one member by a related one. -/
theorem forall₂_replace (hrefl : ∀ a, R a a) (h : R a b) :
    List.Forall₂ R (front ++ a :: back) (front ++ b :: back) :=
  List.rel_append (List.forall₂_same.mpr fun c _ => hrefl c)
    (.cons h (List.forall₂_same.mpr fun c _ => hrefl c))

theorem mem_of_forall₂_left {α β : Type*} {R : α → β → Prop} {l : List α} {l' : List β} {a : α}
    (h : List.Forall₂ R l l') (ha : a ∈ l) : ∃ b ∈ l', R a b := by
  induction h with
  | nil => cases ha
  | cons hab _ ih =>
    rcases List.mem_cons.mp ha with rfl | ha
    · exact ⟨_, List.mem_cons_self, hab⟩
    · obtain ⟨b, hb, hR⟩ := ih ha
      exact ⟨b, List.mem_cons_of_mem _ hb, hR⟩

theorem mem_of_forall₂_right {α β : Type*} {R : α → β → Prop} {l : List α} {l' : List β} {b : β}
    (h : List.Forall₂ R l l') (hb : b ∈ l') : ∃ a ∈ l, R a b :=
  mem_of_forall₂_left (List.Forall₂.flip h) hb

theorem forall₂_map_eq {α β γ : Type*} {R : α → β → Prop} {f : α → γ} {g : β → γ} {l : List α}
    {l' : List β} (h : List.Forall₂ R l l') (hR : ∀ a b, R a b → f a = g b) : l.map f = l'.map g := by
  induction h with
  | nil => rfl
  | cons hab _ ih => rw [List.map_cons, List.map_cons, hR _ _ hab, ih]

theorem forall₂_split {α β γ : Type*} {R : α → β → Prop} {S : β → γ → Prop} {l : List α} {l'' : List γ}
    (h : List.Forall₂ (fun a c => ∃ b, R a b ∧ S b c) l l'') :
    ∃ l', List.Forall₂ R l l' ∧ List.Forall₂ S l' l'' := by
  induction h with
  | nil => exact ⟨[], .nil, .nil⟩
  | cons hac _ ih =>
    obtain ⟨b, hab, hbc⟩ := hac
    obtain ⟨l', hleft, hright⟩ := ih
    exact ⟨b :: l', .cons hab hleft, .cons hbc hright⟩

theorem forall₂_trans {α β γ : Type*} {R : α → β → Prop} {S : β → γ → Prop} {T : α → γ → Prop} {l : List α}
    {l' : List β} {l'' : List γ} (h : List.Forall₂ R l l') (h' : List.Forall₂ S l' l'')
    (htrans : ∀ a b c, R a b → S b c → T a c) : List.Forall₂ T l l'' := by
  induction h generalizing l'' with
  | nil =>
    cases h'
    exact .nil
  | cons hab _ ih =>
    cases h' with
    | cons hbc hrest => exact .cons (htrans _ _ _ hab hbc) (ih hrest)

theorem nodup_map_of {α β γ : Type*} {f : α → β} {g : α → γ} {values : List α}
    (h : (values.map f).Nodup) (himp : ∀ a ∈ values, ∀ b ∈ values, g a = g b → f a = f b) :
    (values.map g).Nodup := by
  rw [List.Nodup, List.pairwise_map] at h ⊢
  exact h.imp_of_mem fun ha hb hne heq => hne (himp _ ha _ hb heq)

end Images

end KeySort

namespace TopRanked

open KeySort

variable {α κ : Type*} [LinearOrder κ] (key : α → κ)

/-- How many values come before one. -/
def ahead (values : List α) (a : α) : ℕ := values.countP fun b => key b < key a

variable {key} {values : List α} {a : α} {n : ℕ}

theorem mem_take_iff_of_pairwise (h : values.Pairwise fun a b => key a < key b) (n : ℕ) :
    a ∈ values.take n ↔ a ∈ values ∧ ahead key values a < n := by
  induction values generalizing n with
  | nil => simp
  | cons b values ih =>
    obtain ⟨hfirst, hrest⟩ := List.pairwise_cons.mp h
    have htail : a ∈ values → ahead key (b :: values) a = ahead key values a + 1 := by
      intro ha
      exact List.countP_cons_of_pos (decide_eq_true (hfirst a ha))
    cases n with
    | zero =>
      rw [List.take_zero]
      simp
    | succ n =>
      rw [List.take_succ_cons, List.mem_cons, List.mem_cons, ih hrest]
      constructor
      · intro hmem
        rcases hmem with rfl | ⟨ha, hlt⟩
        · refine ⟨.inl rfl, ?_⟩
          have hnone : ahead key (a :: values) a = 0 := by
            apply List.countP_eq_zero.mpr
            intro c hc
            rw [decide_eq_true_iff, not_lt]
            rcases List.mem_cons.mp hc with rfl | hc
            · exact le_rfl
            · exact (hfirst c hc).le
          omega
        · have hcount := htail ha
          exact ⟨.inr ha, by omega⟩
      · intro hmem
        rcases hmem with ⟨rfl | ha, hlt⟩
        · exact .inl rfl
        · have hcount := htail ha
          exact .inr ⟨ha, by omega⟩

theorem sortOn_strict (h : (values.map key).Nodup) : (sortOn key values).Pairwise fun a b => key a < key b := by
  have hnodup : ((sortOn key values).map key).Nodup := ((perm_sortOn key values).map key).nodup_iff.mpr h
  have hne := List.pairwise_map.mp hnodup
  exact (sortOn_pairwise key values).imp₂ (fun _ _ hle hne => lt_of_le_of_ne hle hne) hne

/-- The first values of a ranking are those with few values ahead of them. -/
theorem mem_take_of_perm {ranked : List α} (hperm : ranked.Perm values)
    (h : ranked.Pairwise fun a b => key a < key b) (n : ℕ) :
    a ∈ ranked.take n ↔ a ∈ values ∧ ahead key values a < n := by
  have hahead : ahead key ranked a = ahead key values a := hperm.countP_eq _
  rw [mem_take_iff_of_pairwise h, hperm.mem_iff, hahead]

theorem mem_take_sortOn (h : (values.map key).Nodup) (n : ℕ) :
    a ∈ (sortOn key values).take n ↔ a ∈ values ∧ ahead key values a < n :=
  mem_take_of_perm (perm_sortOn key values) (sortOn_strict h) n

theorem mem_take_filter_sortOn (h : (values.map key).Nodup) (p : α → Bool) (n : ℕ) :
    a ∈ ((sortOn key values).filter p).take n ↔ a ∈ values.filter p ∧ ahead key (values.filter p) a < n :=
  mem_take_of_perm ((perm_sortOn key values).filter p) ((sortOn_strict h).filter p) n

end TopRanked
