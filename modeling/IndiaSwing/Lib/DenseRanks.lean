import Mathlib.Algebra.Order.Field.Rat
import Mathlib.Data.Finset.Card
import Mathlib.Data.Finset.Dedup
import Mathlib.Tactic.Ring
import Mathlib.Tactic.Linarith
import Mathlib.Tactic.Positivity

namespace DenseRanks

section Shares

/-- The place of an index among a count of places, from zero to one, and a half when there is only one place. -/
def share (count index : ℕ) : ℚ := if count = 1 then 1 / 2 else index / (count - 1 : ℕ)

variable {m i j : ℕ}

theorem share_nonneg (m i : ℕ) : 0 ≤ share m i := by
  unfold share
  split <;> positivity

theorem share_le_one (h : i < m) : share m i ≤ 1 := by
  unfold share
  split
  · norm_num
  · have hcast : (i : ℚ) ≤ (m - 1 : ℕ) := by
      apply Nat.cast_le.mpr
      omega
    exact div_le_one_of_le₀ hcast (Nat.cast_nonneg _)

theorem share_mono (m : ℕ) (h : i ≤ j) : share m i ≤ share m j := by
  unfold share
  split
  · exact le_rfl
  · exact div_le_div_of_nonneg_right (Nat.cast_le.mpr h) (Nat.cast_nonneg _)

theorem share_succ_eq (hm : 1 ≤ m) (i : ℕ) : share (m + 1) i = i / m := by
  unfold share
  rw [if_neg (by omega), Nat.add_sub_cancel]

theorem share_eq (hm : 2 ≤ m) (i : ℕ) : share m i = i / ((m : ℚ) - 1) := by
  unfold share
  rw [if_neg (by omega), Nat.cast_sub (by omega), Nat.cast_one]

/-- One more place makes a place smaller. -/
theorem share_succ_le (h : i < m) : share (m + 1) i ≤ share m i := by
  rcases Nat.lt_or_ge 1 m with hm | hm
  · have hcast : (2 : ℚ) ≤ m := by exact_mod_cast hm
    rw [share_succ_eq (by omega), share_eq hm]
    exact div_le_div_of_nonneg_left (Nat.cast_nonneg _) (by linarith) (by linarith)
  · obtain rfl : m = 1 := by omega
    obtain rfl : i = 0 := by omega
    norm_num [share]

/-- One more place, and one more below it, makes a place larger. -/
theorem share_le_succ (h : i < m) : share m i ≤ share (m + 1) (i + 1) := by
  rcases Nat.lt_or_ge 1 m with hm | hm
  · have hcast : (2 : ℚ) ≤ m := by exact_mod_cast hm
    have hi : (i : ℚ) + 1 ≤ m := by exact_mod_cast h
    rw [share_succ_eq (by omega), share_eq hm, div_le_div_iff₀ (by linarith) (by linarith)]
    push_cast
    linarith
  · obtain rfl : m = 1 := by omega
    obtain rfl : i = 0 := by omega
    norm_num [share]

theorem share_succ_succ (hm : 1 ≤ m) (i : ℕ) : share (m + 1) (i + 1) = share (m + 1) i + 1 / m := by
  rw [share_succ_eq hm, share_succ_eq hm]
  push_cast
  ring

/-- What one place fewer adds is more for the higher of two places. -/
theorem share_sub_mono (hm : 2 ≤ m) (h : i ≤ j) :
    share m i - share (m + 1) i ≤ share m j - share (m + 1) j := by
  have hcast : (2 : ℚ) ≤ m := by exact_mod_cast hm
  have hij : (i : ℚ) ≤ j := by exact_mod_cast h
  have hfactor : 0 ≤ 1 / ((m : ℚ) - 1) - 1 / m := by
    rw [sub_nonneg]
    exact one_div_le_one_div_of_le (by linarith) (by linarith)
  have hscaled := mul_le_mul_of_nonneg_right hij hfactor
  rw [share_succ_eq (by omega), share_succ_eq (by omega), share_eq hm, share_eq hm]
  calc (i : ℚ) / (m - 1) - i / m = i * (1 / (m - 1) - 1 / m) := by ring
    _ ≤ j * (1 / (m - 1) - 1 / m) := hscaled
    _ = j / (m - 1) - j / m := by ring

end Shares

variable {α : Type*} [LinearOrder α] {s others : Finset α} {a b x x' y : α}

section Counts

/-- How many values lie below one. -/
def below (s : Finset α) (a : α) : ℕ := (s.filter (· < a)).card

theorem below_mono (s : Finset α) (h : a ≤ b) : below s a ≤ below s b :=
  Finset.card_le_card (Finset.monotone_filter_right s fun _ _ hlt => lt_of_lt_of_le hlt h)

theorem below_lt_below (ha : a ∈ s) (h : a < b) : below s a < below s b := by
  apply Finset.card_lt_card
  refine ⟨Finset.monotone_filter_right s fun _ _ hlt => hlt.trans h, fun hsubset => ?_⟩
  have hmem : a ∈ s.filter (· < a) := hsubset (Finset.mem_filter.mpr ⟨ha, h⟩)
  exact lt_irrefl a (Finset.mem_filter.mp hmem).2

theorem below_lt_card (ha : a ∈ s) : below s a < s.card := by
  apply Finset.card_lt_card
  refine ⟨Finset.filter_subset _ _, fun hsubset => ?_⟩
  exact lt_irrefl a (Finset.mem_filter.mp (hsubset ha)).2

theorem below_insert_self (s : Finset α) (a : α) : below (insert a s) a = below s a := by
  unfold below
  rw [Finset.filter_insert, if_neg (lt_irrefl a)]

theorem below_insert_of_lt (hx : x ∉ s) (h : x < y) : below (insert x s) y = below s y + 1 := by
  unfold below
  rw [Finset.filter_insert, if_pos h, Finset.card_insert_of_notMem]
  exact fun hmem => hx (Finset.mem_filter.mp hmem).1

theorem below_insert_of_le (h : y ≤ x) : below (insert x s) y = below s y := by
  unfold below
  rw [Finset.filter_insert, if_neg (not_lt.mpr h)]

/-- In a list ordered by a relation, the place of a value is the number of values related to it. -/
theorem idxOf_eq_countP {β : Type*} [DecidableEq β] {r : β → β → Prop} [DecidableRel r] (hirrefl : ∀ a, ¬r a a)
    (hasymm : ∀ a b, r a b → ¬r b a) {l : List β} {a : β} (hl : l.Pairwise r) (ha : a ∈ l) :
    l.idxOf a = l.countP fun b => r b a := by
  induction l with
  | nil => cases ha
  | cons b l ih =>
    obtain ⟨hb, hl⟩ := List.pairwise_cons.mp hl
    by_cases hab : b = a
    · subst hab
      have hnone : (l.countP fun c => r c b) = 0 := by
        apply List.countP_eq_zero.mpr
        intro c hc
        simpa using hasymm b c (hb c hc)
      rw [List.idxOf_cons_self, List.countP_cons_of_neg (by simpa using hirrefl b), hnone]
    · have hmem : a ∈ l := (List.mem_cons.mp ha).resolve_left (Ne.symm hab)
      rw [List.idxOf_cons_ne _ hab, List.countP_cons_of_pos (by simpa using hb a hmem), ih hl hmem]

end Counts

section Percentiles

/-- The dense percentile of a value. -/
def percentile (s : Finset α) (a : α) : ℚ := share s.card (below s a)

theorem percentile_nonneg (s : Finset α) (a : α) : 0 ≤ percentile s a := share_nonneg _ _

theorem percentile_le_one (ha : a ∈ s) : percentile s a ≤ 1 := share_le_one (below_lt_card ha)

theorem percentile_insert_self (hx : x ∉ others) :
    percentile (insert x others) x = share (others.card + 1) (below others x) := by
  rw [percentile, Finset.card_insert_of_notMem hx, below_insert_self]

/-- A value that is increased among the same others does not lose. -/
theorem percentile_self_mono (h : x ≤ x') :
    percentile (insert x others) x ≤ percentile (insert x' others) x' := by
  rcases eq_or_lt_of_le h with rfl | hlt
  · exact le_rfl
  have hmono := below_mono others h
  by_cases hx : x ∈ others
  · rw [Finset.insert_eq_of_mem hx]
    by_cases hx' : x' ∈ others
    · rw [Finset.insert_eq_of_mem hx']
      exact share_mono _ hmono
    · rw [percentile_insert_self hx']
      exact (share_le_succ (below_lt_card hx)).trans (share_mono _ (below_lt_below hx hlt))
  · rw [percentile_insert_self hx]
    by_cases hx' : x' ∈ others
    · rw [Finset.insert_eq_of_mem hx']
      exact (share_succ_le (hmono.trans_lt (below_lt_card hx'))).trans (share_mono _ hmono)
    · rw [percentile_insert_self hx']
      exact share_mono _ hmono

/-- The value joins a tie above another value, or leaves a tie below it: with the number of distinct values
the other value's percentile grows. -/
def Rebased (others : Finset α) (x x' y : α) : Prop :=
  (x ∉ others ∧ x' ∈ others ∧ y < x) ∨ (x ∈ others ∧ x' ∉ others ∧ x' < y)

/-- Another value only gains when it is rebased. -/
theorem percentile_other_le (hy : y ∈ others) (h : x ≤ x') (hsame : ¬Rebased others x x' y) :
    percentile (insert x' others) y ≤ percentile (insert x others) y := by
  rw [Rebased, not_or] at hsame
  by_cases hx : x ∈ others
  · rw [Finset.insert_eq_of_mem hx]
    by_cases hx' : x' ∈ others
    · rw [Finset.insert_eq_of_mem hx']
    · have hyx' : y ≤ x' := not_lt.mp fun hlt => hsame.2 ⟨hx, hx', hlt⟩
      rw [percentile, Finset.card_insert_of_notMem hx', below_insert_of_le hyx']
      exact share_succ_le (below_lt_card hy)
  · by_cases hx' : x' ∈ others
    · have hxy : x < y := by
        refine lt_of_le_of_ne (not_lt.mp fun hlt => hsame.1 ⟨hx, hx', hlt⟩) ?_
        rintro rfl
        exact hx hy
      rw [Finset.insert_eq_of_mem hx', percentile, percentile, Finset.card_insert_of_notMem hx,
        below_insert_of_lt hx hxy]
      exact share_le_succ (below_lt_card hy)
    · rw [percentile, percentile, Finset.card_insert_of_notMem hx, Finset.card_insert_of_notMem hx']
      apply share_mono
      rcases lt_or_ge x y with hxy | hyx
      · rw [below_insert_of_lt hx hxy]
        rcases lt_or_ge x' y with hx'y | hyx'
        · rw [below_insert_of_lt hx' hx'y]
        · rw [below_insert_of_le hyx']
          omega
      · rw [below_insert_of_le hyx, below_insert_of_le (hyx.trans h)]

/-- The value that is increased gains at least as much as any other value. -/
theorem percentile_gain (hy : y ∈ others) (h : x ≤ x') :
    percentile (insert x' others) y - percentile (insert x others) y ≤
      percentile (insert x' others) x' - percentile (insert x others) x := by
  have hself := @percentile_self_mono _ _ others _ _ h
  by_cases hrebased : Rebased others x x' y
  · rcases hrebased with ⟨hx, hx', hyx⟩ | ⟨hx, hx', hx'y⟩
    · have htwo : 2 ≤ others.card := Finset.one_lt_card.mpr ⟨y, hy, x', hx', (hyx.trans_le h).ne⟩
      have hindex := below_mono others hyx.le
      have hgrow := share_mono others.card (below_mono others h)
      have hmore := share_sub_mono htwo hindex
      rw [Finset.insert_eq_of_mem hx', percentile_insert_self hx, percentile, percentile, percentile,
        Finset.card_insert_of_notMem hx, below_insert_of_le hyx.le]
      linarith
    · have hxx' : x < x' := lt_of_le_of_ne h (by rintro rfl; exact hx' hx)
      have htwo : 2 ≤ others.card := Finset.one_lt_card.mpr ⟨x, hx, y, hy, (hxx'.trans hx'y).ne⟩
      have hindex := below_mono others (hxx'.trans hx'y).le
      have hgrow := share_mono (others.card + 1) (below_lt_below hx hxx')
      have hmore := share_sub_mono htwo hindex
      have hup := share_succ_succ (show 1 ≤ others.card by omega) (below others y)
      have hown := share_succ_succ (show 1 ≤ others.card by omega) (below others x)
      rw [Nat.succ_eq_add_one] at hgrow
      rw [Finset.insert_eq_of_mem hx, percentile_insert_self hx', percentile, percentile, percentile,
        Finset.card_insert_of_notMem hx', below_insert_of_lt hx' hx'y]
      linarith
  · have hother := percentile_other_le hy h hrebased
    linarith

end Percentiles

end DenseRanks
