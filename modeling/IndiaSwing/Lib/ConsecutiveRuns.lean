import Mathlib.Data.List.Nodup
import Mathlib.Data.List.SplitBy
import Mathlib.Order.Lattice

/-! The maximal runs of some values in an order that lists them. -/

namespace ConsecutiveRuns

variable {α : Type*} [LinearOrder α]

/-- One value stands right after another in the order. -/
def follows (order : List α) (a b : α) : Bool := order.idxOf b = order.idxOf a + 1

/-- The values, cut where they do not follow each other in the order. -/
def runs (order values : List α) : List (List α) := values.splitBy (follows order)

variable {order values run : List α} {a b : α}

theorem flatten_runs (order values : List α) : (runs order values).flatten = values :=
  List.flatten_splitBy _ values

theorem run_ne_nil (h : run ∈ runs order values) : run ≠ [] := by
  rintro rfl
  exact List.nil_notMem_splitBy _ values h

theorem mem_of_mem_run (h : run ∈ runs order values) (ha : a ∈ run) : a ∈ values := by
  rw [← flatten_runs order values]
  exact List.mem_flatten.mpr ⟨run, h, ha⟩

/-- A value is in one run. -/
theorem run_unique (hvalues : values.Nodup) {run' : List α} (h : run ∈ runs order values) (h' : run' ∈ runs order values)
    (ha : a ∈ run) (ha' : a ∈ run') : run = run' := by
  rw [← flatten_runs order values] at hvalues
  by_contra hne
  have hsymm : ∀ l l' : List α, l.Disjoint l' → l'.Disjoint l := by
    intro l l' h b hb hb'
    exact h hb' hb
  have : Std.Symm (List.Disjoint : List α → List α → Prop) := ⟨hsymm⟩
  exact (List.nodup_flatten.mp hvalues).2.forall h h' hne ha ha'

/-- A chain of values that follow each other is a part of the order. -/
theorem prefix_drop_of_chain {first : α} {rest : List α} (hmem : ∀ v ∈ first :: rest, v ∈ order)
    (hchain : (first :: rest).IsChain fun a b => follows order a b = true) :
    first :: rest <+: order.drop (order.idxOf first) := by
  induction rest generalizing first with
  | nil =>
    have hlt := List.idxOf_lt_length_of_mem (hmem first List.mem_cons_self)
    rw [List.drop_eq_getElem_cons hlt, List.getElem_idxOf hlt]
    exact ⟨_, rfl⟩
  | cons next rest ih =>
    obtain ⟨hnext, hrest⟩ := List.isChain_cons_cons.mp hchain
    have hlt := List.idxOf_lt_length_of_mem (hmem first List.mem_cons_self)
    have hpre := ih (fun v hv => hmem v (List.mem_cons_of_mem _ hv)) hrest
    rw [of_decide_eq_true hnext] at hpre
    rw [List.drop_eq_getElem_cons hlt, List.getElem_idxOf hlt]
    exact List.cons_prefix_cons.mpr ⟨rfl, hpre⟩

/-- In an increasing order the earlier value has the smaller position. -/
theorem idxOf_lt_idxOf (horder : order.Pairwise (· < ·)) (ha : a ∈ order) (hb : b ∈ order) (h : a < b) :
    order.idxOf a < order.idxOf b := by
  have hla := List.idxOf_lt_length_of_mem ha
  have hlb := List.idxOf_lt_length_of_mem hb
  by_contra hle
  rcases Nat.lt_or_eq_of_le (Nat.le_of_not_lt hle) with hlt | heq
  · have hba := List.pairwise_iff_getElem.mp horder _ _ hlb hla hlt
    rw [List.getElem_idxOf hlb, List.getElem_idxOf hla] at hba
    exact lt_asymm h hba
  · exact h.ne ((List.idxOf_inj ha).mp heq.symm)

/-- Where a part of the order begins. -/
theorem idxOf_append_cons {front back : List α} (horder : (front ++ a :: back).Nodup) :
    (front ++ a :: back).idxOf a = front.length := by
  have hnot : a ∉ front := fun h => (List.nodup_append.mp horder).2.2 a h a List.mem_cons_self rfl
  rw [List.idxOf_append_of_notMem hnot, List.idxOf_cons_self, Nat.add_zero]

theorem lt_of_idxOf_lt (horder : order.Pairwise (· < ·)) (ha : a ∈ order) (hb : b ∈ order)
    (h : order.idxOf a < order.idxOf b) : a < b := by
  rcases lt_trichotomy a b with hlt | rfl | hgt
  · exact hlt
  · exact absurd h (lt_irrefl _)
  · exact absurd (idxOf_lt_idxOf horder hb ha hgt) (by omega)

/-- No value comes right before the first of a run. -/
theorem not_follows_head (horder : order.Pairwise (· < ·)) (hvalues : values.Pairwise (· < ·))
    (hsub : ∀ v ∈ values, v ∈ order) {left right : List (List α)} {first : α} {rest : List α}
    (hsplit : runs order values = left ++ (first :: rest) :: right) (ha : a ∈ values) :
    follows order a first = false := by
  by_contra hfollows
  have hnext : order.idxOf first = order.idxOf a + 1 := of_decide_eq_true (eq_true_of_ne_false hfollows)
  have hflat : values = left.flatten ++ (first :: (rest ++ right.flatten)) := by
    rw [← flatten_runs order values, hsplit, List.flatten_append, List.flatten_cons, List.cons_append]
  have hfirst : first ∈ values := by rw [hflat]; simp
  have hlt : a < first := lt_of_idxOf_lt horder (hsub a ha) (hsub first hfirst) (by omega)
  rw [hflat] at hvalues
  obtain ⟨hleft, hright, hcross⟩ := List.pairwise_append.mp hvalues
  -- so `a` is in an earlier run, and the last value before the run is `a`
  have hearlier : a ∈ left.flatten := by
    rw [hflat] at ha
    rcases List.mem_append.mp ha with h | h
    · exact h
    · rcases List.mem_cons.mp h with rfl | h
      · exact absurd hlt (lt_irrefl _)
      · exact absurd ((List.pairwise_cons.mp hright).1 a h) (lt_asymm hlt)
  have hchain := List.isChain_getLast_head_splitBy (follows order) values
  rw [show values.splitBy (follows order) = left ++ (first :: rest) :: right from hsplit] at hchain
  obtain ⟨-, -, hjoin⟩ := List.isChain_append.mp hchain
  rcases List.eq_nil_or_concat left with rfl | ⟨others, last, rfl⟩
  · cases hearlier
  rw [List.concat_eq_append] at *
  obtain ⟨hne, _, hnot⟩ := hjoin last (by simp) (first :: rest) (by simp)
  obtain ⟨values', z, rfl⟩ : ∃ values' z, last = values' ++ [z] :=
    ⟨last.dropLast, last.getLast hne, (List.dropLast_append_getLast hne).symm⟩
  rw [List.getLast_append_singleton, List.head_cons] at hnot
  rw [List.flatten_append, List.flatten_singleton, ← List.append_assoc] at hearlier hleft hcross
  have hz : z < first := hcross z (by simp) first List.mem_cons_self
  rcases List.mem_append.mp hearlier with h | h
  · have haz : a < z := (List.pairwise_append.mp hleft).2.2 a h z (List.mem_singleton_self z)
    have hzmem : z ∈ order := hsub z (by rw [hflat]; simp)
    have h1 := idxOf_lt_idxOf horder (hsub a ha) hzmem haz
    have h2 := idxOf_lt_idxOf horder hzmem (hsub first hfirst) hz
    omega
  · rw [List.mem_singleton.mp h] at hfollows
    exact hfollows hnot

/-- No value comes right after the last of a run. -/
theorem not_getLast_follows (horder : order.Pairwise (· < ·)) (hvalues : values.Pairwise (· < ·))
    (hsub : ∀ v ∈ values, v ∈ order) {left right : List (List α)} {last : α} {rest : List α}
    (hsplit : runs order values = left ++ (rest ++ [last]) :: right) (ha : a ∈ values) :
    follows order last a = false := by
  by_contra hfollows
  have hnext : order.idxOf a = order.idxOf last + 1 := of_decide_eq_true (eq_true_of_ne_false hfollows)
  have hflat : values = (left.flatten ++ rest ++ [last]) ++ right.flatten := by
    rw [← flatten_runs order values, hsplit, List.flatten_append, List.flatten_cons]
    simp only [List.append_assoc]
  have hlast : last ∈ values := by rw [hflat]; simp
  have hlt : last < a := lt_of_idxOf_lt horder (hsub last hlast) (hsub a ha) (by omega)
  rw [hflat] at hvalues
  obtain ⟨hleft, hright, hcross⟩ := List.pairwise_append.mp hvalues
  have hlater : a ∈ right.flatten := by
    rw [hflat] at ha
    rcases List.mem_append.mp ha with h | h
    · rcases List.mem_append.mp h with h | h
      · exact absurd ((List.pairwise_append.mp hleft).2.2 a h last (List.mem_singleton_self last)) (lt_asymm hlt)
      · exact absurd (List.mem_singleton.mp h ▸ hlt) (lt_irrefl _)
    · exact h
  have hchain := List.isChain_getLast_head_splitBy (follows order) values
  rw [show values.splitBy (follows order) = left ++ (rest ++ [last]) :: right from hsplit] at hchain
  obtain ⟨-, hchain, -⟩ := List.isChain_append.mp hchain
  cases right with
  | nil => cases hlater
  | cons next others =>
    obtain ⟨_, hne, hnot⟩ := (List.isChain_cons_cons.mp hchain).1
    cases next with
    | nil => exact absurd rfl hne
    | cons z more =>
      rw [List.getLast_append_singleton, List.head_cons] at hnot
      rw [List.flatten_cons, List.cons_append] at hlater hright hcross
      have hz : last < z := hcross last (by simp) z List.mem_cons_self
      rcases List.mem_cons.mp hlater with rfl | h
      · exact hfollows hnot
      · have hza : z < a := (List.pairwise_cons.mp hright).1 a h
        have hzmem : z ∈ order := hsub z (by rw [hflat]; simp)
        have h1 := idxOf_lt_idxOf horder (hsub last hlast) hzmem hz
        have h2 := idxOf_lt_idxOf horder hzmem (hsub a ha) hza
        omega

/-- A run of increasing values is a part of the order, and neither the value before it nor the one after it is
among the values. -/
structure IsBlock (order values run : List α) (front back : List α) : Prop where
  eq : order = front ++ run ++ back
  before : ∀ a ∈ front.getLast?, a ∉ values
  after : ∀ a ∈ back.head?, a ∉ values

theorem exists_block (horder : order.Pairwise (· < ·)) (hvalues : values.Pairwise (· < ·))
    (hsub : ∀ v ∈ values, v ∈ order) (hrun : run ∈ runs order values) :
    ∃ front back, IsBlock order values run front back := by
  obtain ⟨left, right, hsplit⟩ := List.append_of_mem hrun
  have hmem : ∀ v ∈ run, v ∈ order := fun v hv => hsub v (mem_of_mem_run hrun hv)
  have hchain : run.IsChain fun a b => follows order a b = true := List.isChain_of_mem_splitBy hrun
  have hnodup : order.Nodup := horder.imp fun h => h.ne
  cases run with
  | nil => exact absurd rfl (run_ne_nil hrun)
  | cons first rest =>
    obtain ⟨back, hback⟩ := prefix_drop_of_chain hmem hchain
    have heq : order = order.take (order.idxOf first) ++ (first :: rest) ++ back := by
      rw [List.append_assoc, hback, List.take_append_drop]
    refine ⟨order.take (order.idxOf first), back, heq, ?_, ?_⟩
    · intro a ha hvalue
      obtain ⟨front, hfront⟩ := List.getLast?_eq_some_iff.mp ha
      rw [hfront] at heq
      have hpos : order.idxOf a = front.length := by
        have hsplit : order = front ++ a :: ((first :: rest) ++ back) := by simp [heq]
        rw [hsplit] at hnodup ⊢
        exact idxOf_append_cons hnodup
      have hposFirst : order.idxOf first = (front ++ [a]).length := by
        have hsplit : order = (front ++ [a]) ++ first :: (rest ++ back) := by simp [heq]
        rw [hsplit] at hnodup ⊢
        exact idxOf_append_cons hnodup
      have hnot := not_follows_head horder hvalues hsub hsplit hvalue
      rw [List.length_append, List.length_singleton, ← hpos] at hposFirst
      exact of_decide_eq_false hnot hposFirst
    · intro a ha hvalue
      obtain ⟨more, rfl⟩ := List.head?_eq_some_iff.mp ha
      have hend : first :: rest = (first :: rest).dropLast ++ [(first :: rest).getLast (List.cons_ne_nil _ _)] :=
        (List.dropLast_append_getLast _).symm
      rw [hend] at hsplit
      have hnot := not_getLast_follows horder hvalues hsub hsplit hvalue
      have hpos : order.idxOf a = (order.take (order.idxOf first) ++ (first :: rest)).length := by
        have hafter : order = (order.take (order.idxOf first) ++ (first :: rest)) ++ a :: more := heq
        rw [hafter] at hnodup
        conv_lhs => rw [hafter]
        exact idxOf_append_cons hnodup
      have hposLast : order.idxOf ((first :: rest).getLast (List.cons_ne_nil _ _)) =
          (order.take (order.idxOf first) ++ (first :: rest).dropLast).length := by
        have hafter : order = (order.take (order.idxOf first) ++ (first :: rest).dropLast) ++
            (first :: rest).getLast (List.cons_ne_nil _ _) :: (a :: more) := by
          conv_lhs => rw [heq, hend]
          simp only [List.append_assoc, List.singleton_append]
        rw [hafter] at hnodup
        conv_lhs => rw [hafter]
        exact idxOf_append_cons hnodup
      have hlength : (first :: rest).dropLast.length + 1 = (first :: rest).length := by simp
      refine of_decide_eq_false hnot ?_
      rw [hpos, hposLast, List.length_append, List.length_append]
      omega

end ConsecutiveRuns
