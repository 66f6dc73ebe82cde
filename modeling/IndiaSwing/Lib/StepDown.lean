import Mathlib.Data.List.Sort
import Mathlib.Data.List.Perm.Basic
import Mathlib.Data.Finset.Max

namespace StepDown

variable {P K : Type*} [LinearOrder P] [LinearOrder K] {threshold : ℕ → P} {value : K → P}
  {family others : List K} {key key' : K} {rank i : ℕ} {go : Bool} {values : List P}

/-- The scan of a step-down test from a rank on: it rejects as long as the values meet their thresholds. -/
def stepDown (threshold : ℕ → P) : ℕ → Bool → List P → List Bool
  | _, _, [] => []
  | rank, go, value :: values =>
    (go && decide (value ≤ threshold rank)) ::
      stepDown threshold (rank + 1) (go && decide (value ≤ threshold rank)) values

@[simp] theorem length_stepDown : (stepDown threshold rank go values).length = values.length := by
  induction values generalizing rank go with
  | nil => rfl
  | cons value values ih => rw [stepDown, List.length_cons, List.length_cons, ih]

/-- A place is rejected exactly when it and all places before it meet their thresholds. -/
theorem stepDown_eq_true : (stepDown threshold rank go values)[i]? = some true ↔
    go = true ∧ i < values.length ∧ ∀ j ≤ i, ∀ v, values[j]? = some v → v ≤ threshold (rank + j) := by
  induction values generalizing rank go i with
  | nil => simp [stepDown]
  | cons value values ih =>
    cases i with
    | zero =>
      rw [stepDown, List.getElem?_cons_zero, Option.some_inj, Bool.and_eq_true, decide_eq_true_iff]
      refine and_congr_right fun _ => ⟨fun hvalue => ⟨Nat.succ_pos _, ?_⟩, fun h => ?_⟩
      · intro j hj v hv
        obtain rfl : j = 0 := by omega
        obtain rfl := Option.some.inj hv
        exact hvalue
      · exact h.2 0 le_rfl value rfl
    | succ i =>
      rw [stepDown, List.getElem?_cons_succ, ih, Bool.and_eq_true, decide_eq_true_iff]
      constructor
      · rintro ⟨⟨hgo, hvalue⟩, hi, hrest⟩
        refine ⟨hgo, Nat.succ_lt_succ hi, ?_⟩
        intro j hj v hv
        cases j with
        | zero =>
          obtain rfl := Option.some.inj hv
          exact hvalue
        | succ j =>
          have hnext := hrest j (by omega) v hv
          rwa [Nat.add_right_comm] at hnext
      · rintro ⟨hgo, hi, hall⟩
        refine ⟨⟨hgo, hall 0 (Nat.zero_le _) value rfl⟩, Nat.lt_of_succ_lt_succ hi, ?_⟩
        intro j hj v hv
        have hnext := hall (j + 1) (by omega) v hv
        rwa [Nat.add_right_comm]

/-- How many members of a family a key is not above. -/
def above (family : List K) (key : K) : ℕ := (family.filter (key ≤ ·)).length

/-- A key is rejected in a family when it and each smaller member meet the threshold of what is not below it. -/
def Rejects (value : K → P) (threshold : ℕ → P) (family : List K) (key : K) : Prop :=
  ∀ k ∈ family, k ≤ key → value k ≤ threshold (above family k)

theorem above_cons (h : key ≤ key') : above (key' :: family) key = above family key + 1 := by
  simp [above, h]

theorem above_perm (h : family.Perm others) : above family key = above others key := (h.filter _).length_eq

theorem rejects_perm (h : family.Perm others) :
    Rejects value threshold family key ↔ Rejects value threshold others key := by
  refine forall_congr' fun k => ?_
  rw [h.mem_iff, above_perm h]

/-- In an increasing family the members from a place on are those not below it. -/
theorem above_getElem? (hsorted : family.Pairwise (· < ·)) (h : family[i]? = some key) :
    above family key = family.length - i := by
  induction family generalizing i with
  | nil => cases h
  | cons k family ih =>
    obtain ⟨hhead, hrest⟩ := List.pairwise_cons.mp hsorted
    cases i with
    | zero =>
      obtain rfl := Option.some.inj h
      have hall : ∀ k' ∈ k :: family, decide (k ≤ k') = true := by
        intro k' hk'
        rcases List.mem_cons.mp hk' with rfl | hk'
        · exact decide_eq_true le_rfl
        · exact decide_eq_true (hhead k' hk').le
      unfold above
      rw [List.filter_eq_self.mpr hall, Nat.sub_zero]
    | succ i =>
      rw [List.getElem?_cons_succ] at h
      have hlt : k < key := hhead key (List.mem_of_getElem? h)
      have hskip : (k :: family).filter (key ≤ ·) = family.filter (key ≤ ·) :=
        List.filter_cons_of_neg (by simpa using hlt)
      have hcount := ih hrest h
      unfold above at hcount ⊢
      rw [hskip, hcount, List.length_cons]
      omega

/-- The scan of an increasing family rejects as `Rejects` says. -/
theorem stepDown_iff_rejects {ranked : ℕ → P} (hsorted : family.Pairwise (· < ·)) (h : family[i]? = some key)
    (hranked : ∀ j < family.length, ranked (1 + j) = threshold (family.length - j)) :
    (stepDown ranked 1 true (family.map value))[i]? = some true ↔ Rejects value threshold family key := by
  have hi : i < family.length := (List.getElem?_eq_some_iff.mp h).1
  rw [stepDown_eq_true]
  constructor
  · rintro ⟨-, -, hall⟩ k hk hle
    obtain ⟨j, hj⟩ := List.mem_iff_getElem?.mp hk
    have hjlt : j < family.length := (List.getElem?_eq_some_iff.mp hj).1
    have hji : j ≤ i := by
      by_contra hlt
      obtain ⟨hj', rfl⟩ := List.getElem?_eq_some_iff.mp hj
      obtain ⟨hi', rfl⟩ := List.getElem?_eq_some_iff.mp h
      exact absurd (List.pairwise_iff_getElem.mp hsorted i j hi' hj' (by omega)) (not_lt.mpr hle)
    have hvalue := hall j hji (value k) (by rw [List.getElem?_map, hj]; rfl)
    rw [above_getElem? hsorted hj]
    rwa [hranked j hjlt] at hvalue
  · intro hrejects
    refine ⟨rfl, by rwa [List.length_map], ?_⟩
    intro j hj v hv
    rw [List.getElem?_map] at hv
    obtain ⟨k, hk, rfl⟩ := Option.map_eq_some_iff.mp hv
    have hjlt : j < family.length := (List.getElem?_eq_some_iff.mp hk).1
    have hle : k ≤ key := by
      obtain ⟨hj', rfl⟩ := List.getElem?_eq_some_iff.mp hk
      obtain ⟨hi', rfl⟩ := List.getElem?_eq_some_iff.mp h
      rcases eq_or_lt_of_le hj with rfl | hlt
      · exact le_rfl
      · exact (List.pairwise_iff_getElem.mp hsorted j i hj' hi' hlt).le
    have hvalue := hrejects k (List.mem_of_getElem? hk) hle
    rwa [above_getElem? hsorted hk, ← hranked j hjlt] at hvalue

theorem above_le_cons (new : K) : above family key ≤ above (new :: family) key :=
  ((List.sublist_cons_self new family).filter _).length_le

theorem above_pos (h : key ∈ family) : 1 ≤ above family key :=
  List.length_pos_of_mem (List.mem_filter.mpr ⟨h, decide_eq_true le_rfl⟩)

/-- What a larger family rejects the smaller one rejects. -/
theorem Rejects.of_cons (hthreshold : AntitoneOn threshold (Set.Ici 1)) {new : K}
    (h : Rejects value threshold (new :: family) key) : Rejects value threshold family key := by
  intro k hk hle
  have hmember := above_pos hk
  have hgrown : above family k ≤ above (new :: family) k := above_le_cons new
  exact (h k (List.mem_cons_of_mem _ hk) hle).trans (hthreshold hmember (hmember.trans hgrown) hgrown)

/-- A key that is lowered stays rejected: either it takes the place of the first member that was not below it, or
the members up to it are those they were. -/
theorem Rejects.of_lower (hvalue : Monotone value) (hle : key' ≤ key)
    (h : Rejects value threshold (key :: family) key) : Rejects value threshold (key' :: family) key' := by
  intro k hk hkle
  rcases List.mem_cons.mp hk with rfl | hmem
  · -- the least member at or above the lowered key has as many members above it
    obtain ⟨w, hw, hleast⟩ : ∃ w ∈ (key :: family).filter (k ≤ ·), ∀ u ∈ (key :: family).filter (k ≤ ·), w ≤ u := by
      have hne : ((key :: family).filter (k ≤ ·)).toFinset.Nonempty :=
        ⟨key, List.mem_toFinset.mpr (List.mem_filter.mpr ⟨List.mem_cons_self, decide_eq_true hle⟩)⟩
      refine ⟨_, List.mem_toFinset.mp (Finset.min'_mem _ hne), fun u hu => ?_⟩
      exact Finset.min'_le _ _ (List.mem_toFinset.mpr hu)
    obtain ⟨hwmem, hwge⟩ := List.mem_filter.mp hw
    have hwge := of_decide_eq_true hwge
    have hwkey : w ≤ key := hleast key (List.mem_filter.mpr ⟨List.mem_cons_self, decide_eq_true hle⟩)
    have habove : above (key :: family) w = above (k :: family) k := by
      have hsame : (key :: family).filter (w ≤ ·) = (key :: family).filter (k ≤ ·) := by
        refine List.filter_congr fun u hu => decide_eq_decide.mpr ⟨hwge.trans, fun hku => ?_⟩
        exact hleast u (List.mem_filter.mpr ⟨hu, decide_eq_true hku⟩)
      have hsame' : above (key :: family) w = above (key :: family) k := congrArg List.length hsame
      rw [hsame', above_cons hle, above_cons le_rfl]
    calc value k ≤ value w := hvalue hwge
      _ ≤ threshold (above (key :: family) w) := h w hwmem hwkey
      _ = threshold (above (k :: family) k) := by rw [habove]
  · rw [above_cons hkle, ← above_cons (hkle.trans hle)]
    exact h k (List.mem_cons_of_mem _ hmem) (hkle.trans hle)

end StepDown
