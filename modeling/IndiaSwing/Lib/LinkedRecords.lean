import Mathlib.Data.List.Nodup
import Mathlib.Order.WellFoundedSet
import IndiaSwing.Lib.Slices

namespace LinkedRecords

open ListSplits (split_concat)

variable {α κ : Type*} {key : α → κ} {previous : α → Option κ}
variable {values front : List α} {value last : α}

/-- Every record names the one before it, and the first names none. -/
def Linked (key : α → κ) (previous : α → Option κ) (values : List α) : Prop :=
  ∀ front value back, values = front ++ value :: back → previous value = front.getLast?.map key

theorem linked_nil : Linked key previous [] := by
  intro front value back h
  cases front <;> cases h

theorem linked_concat : Linked key previous (values ++ [value]) ↔
    Linked key previous values ∧ previous value = values.getLast?.map key := by
  constructor
  · intro h
    refine ⟨fun front other back heq => ?_, h values value [] rfl⟩
    refine h front other (back ++ [value]) ?_
    rw [heq, List.append_assoc, List.cons_append]
  · rintro ⟨hvalues, hvalue⟩ front other back heq
    rcases split_concat heq with ⟨rfl, rfl, -⟩ | ⟨init, heq', -⟩
    · exact hvalue
    · exact hvalues front other init heq'

/-- Records that are linked by a key are linked by what the key determines. -/
theorem Linked.map {κ' : Type*} (f : κ → κ') (h : Linked key previous values) :
    Linked (fun value => f (key value)) (fun value => (previous value).map f) values := by
  intro front value back heq
  show (previous value).map f = _
  rw [h front value back heq, Option.map_map]
  rfl

/-- The records that are named are all but the last. -/
theorem filterMap_previous (h : Linked key previous values) :
    values.filterMap previous = values.dropLast.map key := by
  induction values using List.reverseRecOn with
  | nil => rfl
  | append_singleton values value ih =>
    obtain ⟨hvalues, hvalue⟩ := linked_concat.mp h
    rw [List.filterMap_append, ih hvalues, List.dropLast_concat]
    rcases List.eq_nil_or_concat values with rfl | ⟨init, final, rfl⟩
    · have hnone : previous value = none := hvalue
      simp [hnone]
    · have hsome : previous value = some (key final) := by
        rw [hvalue, List.concat_eq_append, List.getLast?_concat]
        rfl
      simp [hsome]

variable [DecidableEq κ]

/-- The records that no record names. -/
def leaves (key : α → κ) (previous : α → Option κ) (values : List α) : List α :=
  values.filter (key · ∉ values.filterMap previous)

/-- A linked list of records with different keys has its last record as its only leaf. -/
theorem leaves_concat (h : Linked key previous (front ++ [last]))
    (hnodup : ((front ++ [last]).map key).Nodup) : leaves key previous (front ++ [last]) = [last] := by
  unfold leaves
  rw [filterMap_previous h, List.dropLast_concat, List.filter_append]
  rw [List.map_append, List.nodup_append] at hnodup
  have hfront : front.filter (key · ∉ front.map key) = [] := by
    refine List.filter_eq_nil_iff.mpr fun value hmem => ?_
    simp only [decide_eq_true_eq, not_not]
    exact List.mem_map_of_mem hmem
  have hlast : key last ∉ front.map key := fun hmem =>
    hnodup.2.2 (key last) hmem (key last) (by simp) rfl
  rw [hfront, List.nil_append, List.filter_singleton]
  simp only [hlast, not_false_eq_true, decide_true, cond_true]

section Chains

open Relation

variable {fuel : ℕ} {current root : κ} {a b : α}

/-- The records from a key on, each the one that names the record before it. -/
def follow (key : α → κ) (previous : α → Option κ) (values : List α) : ℕ → κ → List α
  | 0, _ => []
  | fuel + 1, current =>
    match values.find? fun value => previous value = some current with
    | none => []
    | some value => value :: follow key previous values fuel (key value)

/-- One record names the other, and both are there. -/
structure Follows (key : α → κ) (previous : α → Option κ) (values : List α) (a b : α) : Prop where
  mem : a ∈ values
  mem_previous : b ∈ values
  previous_eq : previous a = some (key b)

/-- Records that form one chain from a root, in whatever order they are listed. -/
structure OneChain (key : α → κ) (previous : α → Option κ) (root : κ) (values : List α) : Prop where
  nodup : values.Nodup
  injective : ∀ a ∈ values, ∀ b ∈ values, previous a = previous b → a = b
  named : ∀ a ∈ values, previous a = some root ∨ ∃ b ∈ values, previous a = some (key b)
  acyclic : ∀ a, ¬TransGen (Follows key previous values) a a

theorem find?_previous (h : values.find? (fun value => previous value = some current) = some value) :
    value ∈ values ∧ previous value = some current :=
  ⟨List.mem_of_find?_eq_some h, by simpa using List.find?_some h⟩

theorem OneChain.find?_eq (h : OneChain key previous root values) (hvalue : value ∈ values)
    (hprevious : previous value = some current) :
    values.find? (fun value => previous value = some current) = some value := by
  cases hfind : values.find? (fun value => previous value = some current) with
  | none => exact absurd (decide_eq_true hprevious) (List.find?_eq_none.mp hfind value hvalue)
  | some found =>
    obtain ⟨hmem, hnames⟩ := find?_previous hfind
    rw [h.injective found hmem value hvalue (hnames.trans hprevious.symm)]

theorem mem_of_mem_follow (h : value ∈ follow key previous values fuel current) : value ∈ values := by
  induction fuel generalizing current with
  | zero => cases h
  | succ fuel ih =>
    unfold follow at h
    split at h
    · cases h
    · rename_i found hfind
      rcases List.mem_cons.mp h with rfl | h
      · exact (find?_previous hfind).1
      · exact ih h

theorem isChain_follow (hkey : key a = current) :
    (a :: follow key previous values fuel current).IsChain fun before after => previous after = some (key before) := by
  induction fuel generalizing current a with
  | zero => exact .singleton a
  | succ fuel ih =>
    unfold follow
    split
    · exact .singleton a
    · rename_i found hfind
      refine .cons_cons ?_ (ih rfl)
      rw [hkey]
      exact (find?_previous hfind).2

/-- Every record of the walk leads back to each one before it. -/
theorem pairwise_follow :
    (follow key previous values fuel current).Pairwise fun a b => TransGen (Follows key previous values) b a := by
  have hchain : (follow key previous values fuel current).IsChain fun before after => previous after = some (key before) := by
    cases fuel with
    | zero => exact .nil
    | succ fuel =>
      unfold follow
      split
      · exact .nil
      · exact isChain_follow rfl
  have hfollows : (follow key previous values fuel current).IsChain fun a b => TransGen (Follows key previous values) b a :=
    hchain.imp_of_mem_imp fun a b ha hb hprevious => .single ⟨mem_of_mem_follow hb, mem_of_mem_follow ha, hprevious⟩
  have : IsTrans α fun a b => TransGen (Follows key previous values) b a := ⟨fun _ _ _ hab hbc => hbc.trans hab⟩
  exact hfollows.pairwise

theorem OneChain.nodup_follow (h : OneChain key previous root values) : (follow key previous values fuel current).Nodup := by
  refine pairwise_follow.imp fun {a b} hpath heq => ?_
  subst heq
  exact h.acyclic a hpath

theorem OneChain.length_follow_le (h : OneChain key previous root values) :
    (follow key previous values fuel current).length ≤ values.length :=
  (List.Nodup.subperm h.nodup_follow fun _ hmem => mem_of_mem_follow hmem).length_le

/-- A walk that ends before its fuel does goes on after every record that is named. -/
theorem OneChain.mem_follow (h : OneChain key previous root values) (ha : a ∈ values)
    (hprevious : previous a = some (key b)) (hb : b ∈ follow key previous values fuel current)
    (hfuel : (follow key previous values fuel current).length < fuel) : a ∈ follow key previous values fuel current := by
  induction fuel generalizing current with
  | zero => cases hb
  | succ fuel ih =>
    unfold follow at hb hfuel ⊢
    split at hb
    · cases hb
    rename_i found hfind
    rw [hfind] at hfuel
    dsimp only at hfuel ⊢
    rw [List.length_cons] at hfuel
    rcases List.mem_cons.mp hb with rfl | hb
    · cases fuel with
      | zero => omega
      | succ fuel =>
        unfold follow
        rw [h.find?_eq ha hprevious]
        exact List.mem_cons_of_mem _ List.mem_cons_self
    · exact List.mem_cons_of_mem _ (ih hb (by omega))

/-- A walk with one step more than there are records meets every one of them once. -/
theorem OneChain.follow_perm (h : OneChain key previous root values) :
    (follow key previous values (values.length + 1) root).Perm values := by
  have hends : (follow key previous values (values.length + 1) root).length < values.length + 1 :=
    Nat.lt_succ_of_le h.length_follow_le
  have : IsStrictOrder α fun b a => TransGen (Follows key previous values) a b :=
    { irrefl := h.acyclic, trans := fun _ _ _ hab hbc => hbc.trans hab }
  have hwell : {a | a ∈ values}.WellFoundedOn fun b a => TransGen (Follows key previous values) a b :=
    (List.finite_toSet values).wellFoundedOn
  refine (List.perm_ext_iff_of_nodup h.nodup_follow h.nodup).mpr fun a => ⟨mem_of_mem_follow, fun ha => ?_⟩
  -- by induction on what the record names, directly or through others
  refine hwell.induction ha fun a ha ih => ?_
  rcases h.named a ha with hroot | ⟨b, hb, hprevious⟩
  · unfold follow
    rw [h.find?_eq ha hroot]
    exact List.mem_cons_self
  · exact h.mem_follow ha hprevious (ih b hb (.single ⟨ha, hb, hprevious⟩)) hends

end Chains

section Neighbours

variable {R : α → α → Prop} {a b : α} {list others : List α}

theorem exists_before (h : b ∈ list) : ∃ front c back, a :: list = front ++ c :: b :: back := by
  induction list generalizing a with
  | nil => cases h
  | cons c list ih =>
    rcases List.mem_cons.mp h with rfl | h
    · exact ⟨[], a, list, rfl⟩
    · obtain ⟨front, d, back, heq⟩ := @ih c h
      exact ⟨a :: front, d, back, by rw [heq, List.cons_append]⟩

theorem eq_getLast_or_exists_after (h : b ∈ a :: list) :
    b = (a :: list).getLast (List.cons_ne_nil _ _) ∨ ∃ front c back, a :: list = front ++ b :: c :: back := by
  induction list generalizing a with
  | nil => exact .inl (List.mem_singleton.mp h)
  | cons c list ih =>
    rcases List.mem_cons.mp h with rfl | h
    · exact .inr ⟨[], c, list, rfl⟩
    · rcases ih h with heq | ⟨front, d, back, heq⟩
      · left
        rw [List.getLast_cons (List.cons_ne_nil _ _)]
        exact heq
      · exact .inr ⟨a :: front, d, back, by rw [heq, List.cons_append]⟩

theorem getLast_mem_after {front back : List α} {c : α} (h : list = front ++ b :: c :: back) (hne : list ≠ []) :
    list.getLast hne ∈ c :: back := by
  subst h
  rw [List.getLast_append_of_ne_nil _ (List.cons_ne_nil _ _), List.getLast_cons (List.cons_ne_nil _ _)]
  exact List.getLast_mem _

/-- In a chain whose links can be told by what they lead to, the members and the first of them fix the order. -/
theorem eq_of_isChain (hlist : (a :: list).IsChain R) (hothers : (a :: others).IsChain R)
    (hunique : ∀ b ∈ a :: list, ∀ c ∈ a :: list, ∀ d ∈ list, R b d → R c d → b = c)
    (hnodup : (a :: list).Nodup) (hnodup' : (a :: others).Nodup) (hmem : ∀ b, b ∈ list ↔ b ∈ others) :
    list = others := by
  induction list generalizing a others with
  | nil =>
    refine (List.eq_nil_iff_forall_not_mem.mpr fun b hb => ?_).symm
    cases (hmem b).mpr hb
  | cons b list ih =>
    obtain ⟨hfirst, hrest⟩ := List.isChain_cons_cons.mp hlist
    have hb : b ∈ others := (hmem b).mp List.mem_cons_self
    obtain ⟨front, c, back, heq⟩ := @exists_before _ a b others hb
    have hlink : R c b := (List.isChain_append_cons_cons.mp (heq ▸ hothers)).2.1
    have hc : c ∈ a :: b :: list := by
      have hmem' : c ∈ a :: others := heq ▸ List.mem_append_right _ List.mem_cons_self
      rcases List.mem_cons.mp hmem' with rfl | hmem'
      · exact List.mem_cons_self
      · exact List.mem_cons_of_mem _ ((hmem c).mpr hmem')
    obtain rfl : a = c := hunique a List.mem_cons_self c hc b List.mem_cons_self hfirst hlink
    -- the first of both lists is followed by the same member
    have hfront : front = [] := by
      cases front with
      | nil => rfl
      | cons d front =>
        obtain ⟨rfl, htail⟩ := List.cons.inj heq
        have hmem' : a ∈ others := htail ▸ List.mem_append_right _ List.mem_cons_self
        exact absurd hmem' (List.nodup_cons.mp hnodup').1
    subst hfront
    obtain rfl : others = b :: back := (List.cons.inj heq).2
    obtain ⟨hnew, hnodup⟩ := List.nodup_cons.mp hnodup
    obtain ⟨hnew', hnodup'⟩ := List.nodup_cons.mp hnodup'
    rw [ih hrest (List.isChain_cons_cons.mp hothers).2 ?_ hnodup hnodup' ?_]
    · intro x hx y hy z hz
      exact hunique x (List.mem_cons_of_mem _ hx) y (List.mem_cons_of_mem _ hy) z (List.mem_cons_of_mem _ hz)
    · intro x
      by_cases hxb : x = b
      · subst hxb
        exact iff_of_false (List.nodup_cons.mp hnodup).1 (List.nodup_cons.mp hnodup').1
      · have hboth := hmem x
        simpa [hxb] using hboth

end Neighbours

end LinkedRecords
