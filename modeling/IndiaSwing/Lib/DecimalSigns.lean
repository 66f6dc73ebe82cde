import IndiaSwing.Lib.DecimalPrecision
import Mathlib.Tactic.Ring

namespace DecimalContext

variable {digits : ℕ} {a b v start : ℚ} {values : List ℚ}

section Rounding

theorem ofPrecision_nonpos (h : v ≤ 0) : (ofPrecision digits).round v ≤ 0 := by
  unfold ofPrecision
  dsimp only
  split
  · exact le_rfl
  · have hscaled : v / lastPlace digits v ≤ ((0 : ℤ) : ℚ) := by
      rw [Int.cast_zero]
      exact div_nonpos_of_nonpos_of_nonneg h lastPlace_pos.le
    have hrounded := roundHalfEven_le 0 hscaled
    exact mul_nonpos_of_nonpos_of_nonneg (by exact_mod_cast hrounded) lastPlace_pos.le

/-- Rounding keeps the sign. -/
theorem ofPrecision_pos_iff (hdigits : 1 ≤ digits) : 0 < (ofPrecision digits).round v ↔ 0 < v := by
  refine ⟨fun hround => ?_, ofPrecision_pos hdigits⟩
  by_contra hneg
  exact absurd hround (not_lt.mpr (ofPrecision_nonpos (not_lt.mp hneg)))

/-- A rounded value is not rounded again. -/
theorem fits_round (hdigits : 1 ≤ digits) : Fits digits ((ofPrecision digits).round v) := by
  by_cases hv : v = 0
  · rw [hv, ofPrecision_zero]
    exact ofPrecision_zero
  have hscaled : |v / lastPlace digits v| ≤ ((10 ^ digits : ℤ) : ℚ) := by
    have hself := Int.lt_zpow_succ_log_self (b := 10) (by norm_num) |v|
    rw [abs_div, abs_of_pos (lastPlace_pos), div_le_iff₀ lastPlace_pos]
    push_cast
    rw [pow_mul_lastPlace]
    exact_mod_cast hself.le
  obtain ⟨hbelow, habove⟩ := abs_le.mp hscaled
  obtain ⟨n, hn⟩ : ∃ n, n = roundHalfEven (v / lastPlace digits v) := ⟨_, rfl⟩
  have hvalue : (ofPrecision digits).round v = n * 10 ^ (Int.log 10 |v| + 1 - digits) := by
    unfold ofPrecision
    dsimp only
    rw [if_neg hv, ← hn]
    rfl
  have hupper : n ≤ 10 ^ digits := hn ▸ roundHalfEven_le _ habove
  have hlower : -(10 ^ digits) ≤ n := by
    have hmono : roundHalfEven ((-(10 ^ digits) : ℤ) : ℚ) ≤ roundHalfEven (v / lastPlace digits v) :=
      roundHalfEven_mono (by rw [Int.cast_neg]; exact hbelow)
    rwa [roundHalfEven_intCast, ← hn] at hmono
  rw [hvalue]
  rcases lt_or_eq_of_le (abs_le.mpr ⟨hlower, hupper⟩) with hlt | heq
  · exact fits_of_decimal hlt
  · -- the value is a power of ten
    have hpow : (10 : ℚ) ^ digits * 10 ^ (Int.log 10 |v| + 1 - digits) = 10 ^ (Int.log 10 |v| + 1) := by
      rw [← zpow_natCast, ← zpow_add₀ (by norm_num)]
      congr 1
      omega
    have hone : (1 : ℤ) < 10 ^ digits := one_lt_pow₀ (by norm_num) (by omega)
    rcases abs_eq (by positivity) |>.mp heq with rfl | rfl
    · have hfits : Fits digits (((1 : ℤ) : ℚ) * 10 ^ (Int.log 10 |v| + 1)) := fits_of_decimal (by rwa [abs_one])
      push_cast at hfits ⊢
      rwa [hpow, ← one_mul ((10 : ℚ) ^ (Int.log 10 |v| + 1))]
    · have hfits : Fits digits (((-1 : ℤ) : ℚ) * 10 ^ (Int.log 10 |v| + 1)) := fits_of_decimal (by rwa [abs_neg, abs_one])
      push_cast at hfits ⊢
      rwa [neg_mul, hpow, neg_eq_neg_one_mul]

end Rounding

section Operations

theorem sub_pos_iff_of (hdigits : 1 ≤ digits) : 0 < (ofPrecision digits).sub a b ↔ b < a :=
  (ofPrecision_pos_iff hdigits).trans sub_pos

theorem div_nonneg_of (ha : 0 ≤ a) (hb : 0 < b) : 0 ≤ (ofPrecision digits).div a b :=
  ofPrecision_nonneg (div_nonneg ha hb.le)

theorem div_pos_iff_of (hdigits : 1 ≤ digits) (hb : 0 < b) : 0 < (ofPrecision digits).div a b ↔ 0 < a := by
  refine (ofPrecision_pos_iff hdigits).trans ?_
  rw [lt_div_iff₀ hb, zero_mul]

theorem div_le_one_of (hdigits : 1 ≤ digits) (ha : 0 ≤ a) (hb : 0 < b) (hab : a ≤ b) : (ofPrecision digits).div a b ≤ 1 :=
  ofPrecision_le_one hdigits (div_nonneg ha hb.le) ((div_le_one hb).mpr hab)

/-- A sum of values that are not negative is positive exactly if one of them is. -/
theorem sum_pos_iff_of (hdigits : 1 ≤ digits) (hstart : 0 ≤ start) (h : ∀ v ∈ values, 0 ≤ v) :
    0 < (ofPrecision digits).sum start values ↔ 0 < start ∨ ∃ v ∈ values, 0 < v := by
  induction values generalizing start with
  | nil => simp [DecimalContext.sum]
  | cons v values ih =>
    have hv := h v List.mem_cons_self
    rw [sum_cons, ih (add_nonneg_of hstart hv) fun w hw => h w (List.mem_cons_of_mem _ hw)]
    have hadd : 0 < (ofPrecision digits).add start v ↔ 0 < start ∨ 0 < v := by
      refine (ofPrecision_pos_iff hdigits).trans ?_
      constructor
      · intro hpos
        by_contra hnone
        obtain ⟨h1, h2⟩ := not_or.mp hnone
        linarith [not_lt.mp h1, not_lt.mp h2]
      · rintro (hpos | hpos) <;> linarith
    rw [hadd, List.exists_mem_cons_iff, or_assoc]

/-- A sum of values that are not above those of another one. -/
theorem sum_mono_of (hdigits : 1 ≤ digits) {start' : ℚ} {others : List ℚ} (hstart : 0 ≤ start) (hle : start ≤ start')
    (h : List.Forall₂ (fun v w => 0 ≤ v ∧ v ≤ w) values others) :
    (ofPrecision digits).sum start values ≤ (ofPrecision digits).sum start' others := by
  induction h generalizing start start' with
  | nil => exact hle
  | cons hpair _ ih =>
    rw [sum_cons, sum_cons]
    refine ih (add_nonneg_of hstart hpair.1) ?_
    exact ofPrecision_mono hdigits (add_nonneg hstart hpair.1) (add_le_add hle hpair.2)

end Operations

end DecimalContext

namespace DecimalContext

variable {digits : ℕ} {x y value : ℚ}

theorem roundHalfEven_le_add_half (value : ℚ) : (roundHalfEven value : ℚ) ≤ value + 1 / 2 := by
  have hfloor : (⌊value⌋ : ℚ) ≤ value := Int.floor_le value
  unfold roundHalfEven
  split
  · linarith
  next hlow =>
    have hhigh : 1 / 2 ≤ value - ⌊value⌋ := not_lt.mp hlow
    split
    · push_cast
      linarith
    · split
      · linarith
      · push_cast
        linarith

/-- A value up to one is rounded up by half of the last place below one at most. -/
theorem ofPrecision_le_add_half (hdigits : 1 ≤ digits) (hnonneg : 0 ≤ value) (hle : value ≤ 1) :
    (ofPrecision digits).round value ≤ value + 1 / 2 * (10 : ℚ) ^ (-digits : ℤ) := by
  have hunit : (0 : ℚ) < (10 : ℚ) ^ (-digits : ℤ) := by positivity
  rcases eq_or_lt_of_le hnonneg with rfl | hpos
  · rw [ofPrecision_zero]
    linarith
  rcases eq_or_lt_of_le hle with rfl | hlt
  · have hone := @ofPrecision_le_one digits 1 hdigits zero_le_one le_rfl
    linarith
  have hlog : Int.log 10 |value| < 0 := by
    rw [abs_of_pos hpos, ← Int.lt_zpow_iff_log_lt (by norm_num) hpos]
    simpa using hlt
  have hplace : lastPlace digits value ≤ (10 : ℚ) ^ (-digits : ℤ) := by
    unfold lastPlace
    exact zpow_le_zpow_right₀ (by norm_num) (by omega)
  have hstep : (roundHalfEven (value / lastPlace digits value) : ℚ) * lastPlace digits value ≤
      (value / lastPlace digits value + 1 / 2) * lastPlace digits value :=
    mul_le_mul_of_nonneg_right (roundHalfEven_le_add_half _) lastPlace_pos.le
  have hcancel : value / lastPlace digits value * lastPlace digits value = value := div_mul_cancel₀ _ lastPlace_pos.ne'
  show (if value = 0 then 0 else (roundHalfEven (value / lastPlace digits value) : ℚ) * lastPlace digits value) ≤ _
  rw [if_neg hpos.ne']
  rw [add_mul, hcancel] at hstep
  linarith

/-- Less than half of the last place is rounded away above one. -/
theorem ofPrecision_one_add (hdigits : 1 ≤ digits) {units : ℚ} (hunits : 0 ≤ units) (hhalf : units < 5) :
    (ofPrecision digits).round (1 + units * (10 : ℚ) ^ (-digits : ℤ)) = 1 := by
  obtain ⟨d, rfl⟩ : ∃ d, digits = d + 1 := ⟨digits - 1, by omega⟩
  obtain ⟨power, hpower⟩ : ∃ power, power = (10 : ℚ) ^ d := ⟨_, rfl⟩
  have hone : 1 ≤ power := hpower ▸ one_le_pow₀ (by norm_num)
  have hunit : (10 : ℚ) ^ (-(d + 1 : ℕ) : ℤ) = 1 / (10 * power) := by
    rw [hpower, zpow_neg, zpow_natCast, pow_succ]
    field_simp
  have hsmall : 0 ≤ units / (10 * power) ∧ units / (10 * power) < 1 := by
    constructor
    · positivity
    · rw [div_lt_one (by linarith)]
      linarith
  rw [hunit, mul_one_div]
  have hlog : Int.log 10 |1 + units / (10 * power)| = 0 := by
    rw [abs_of_pos (by linarith)]
    apply le_antisymm
    · apply Int.lt_add_one_iff.mp
      rw [← Int.lt_zpow_iff_log_lt (by norm_num) (by linarith)]
      rw [zero_add, zpow_one]
      push_cast
      linarith
    · rw [← Int.zpow_le_iff_le_log (by norm_num) (by linarith)]
      rw [zpow_zero]
      linarith
  have hplace : lastPlace (d + 1) (1 + units / (10 * power)) = 1 / power := by
    unfold lastPlace
    rw [hlog, hpower, show (0 : ℤ) + 1 - ((d + 1 : ℕ) : ℤ) = -(d : ℤ) by push_cast; ring, zpow_neg, zpow_natCast, one_div]
  have hscaled : (1 + units / (10 * power)) / (1 / power) = ((10 ^ d : ℕ) : ℚ) + units / 10 := by
    push_cast
    rw [← hpower]
    field_simp
  have hround : roundHalfEven (((10 ^ d : ℕ) : ℚ) + units / 10) = ((10 ^ d : ℕ) : ℤ) := by
    have hfloor : ⌊((10 ^ d : ℕ) : ℚ) + units / 10⌋ = ((10 ^ d : ℕ) : ℤ) := by
      apply Int.floor_eq_iff.mpr
      push_cast
      constructor <;> linarith
    have hfraction : ((10 ^ d : ℕ) : ℚ) + units / 10 - ⌊((10 ^ d : ℕ) : ℚ) + units / 10⌋ < 1 / 2 := by
      rw [hfloor]
      push_cast
      linarith
    rw [roundHalfEven, if_pos hfraction, hfloor]
  show (if 1 + units / (10 * power) = 0 then 0 else _) = (1 : ℚ)
  rw [if_neg (by linarith), hplace, hscaled, hround]
  push_cast
  rw [← hpower]
  exact mul_one_div_cancel (by linarith)

/-- One more share, rounded and added to a rounded sum of `k` shares of one: each rounding adds half of the last place at
most, and what the sum has above one is rounded away. -/
theorem add_share_le (hdigits : 1 ≤ digits) {total share : ℚ} {k : ℕ} (hk : k ≤ 4) (htotal : 0 ≤ total) (hx : 0 ≤ x)
    (hbound : total ≤ share + k * (10 : ℚ) ^ (-digits : ℤ)) (hshare : 0 ≤ share) (h : share + x ≤ 1) :
    (ofPrecision digits).add total ((ofPrecision digits).round x) ≤ 1 ∧
      (ofPrecision digits).add total ((ofPrecision digits).round x) ≤
        share + x + (k + 1 : ℕ) * (10 : ℚ) ^ (-digits : ℤ) := by
  have hround := ofPrecision_le_add_half hdigits hx (by linarith)
  have hnonneg := @ofPrecision_nonneg digits x hx
  obtain ⟨unit, hunit⟩ : ∃ unit, unit = (10 : ℚ) ^ (-digits : ℤ) := ⟨_, rfl⟩
  have hpos : 0 < unit := hunit ▸ by positivity
  have hcount : (k : ℚ) ≤ 4 := by exact_mod_cast hk
  have hone := @ofPrecision_one_add digits hdigits ((k : ℚ) + 1 / 2) (by positivity) (by linarith)
  rw [← hunit] at hbound hround hone ⊢
  have hsum : total + (ofPrecision digits).round x ≤ share + x + (k + 1 / 2) * unit := by
    rw [add_mul]
    linarith
  have hle : (ofPrecision digits).add total ((ofPrecision digits).round x) ≤ 1 := by
    rw [← hone]
    exact ofPrecision_mono hdigits (by linarith) (by linarith)
  refine ⟨hle, ?_⟩
  push_cast
  by_cases habove : total + (ofPrecision digits).round x ≤ 1
  · have hhalf := ofPrecision_le_add_half hdigits (add_nonneg htotal hnonneg) habove
    rw [← hunit] at hhalf
    show (ofPrecision digits).round (total + (ofPrecision digits).round x) ≤ _
    linarith
  · linarith [not_le.mp habove]

/-- Two shares of one, each rounded, do not add up to more than one when their sum is rounded too. -/
theorem add_shares_le_one (hdigits : 1 ≤ digits) (hx : 0 ≤ x) (hy : 0 ≤ y) (h : x + y ≤ 1) :
    (ofPrecision digits).add ((ofPrecision digits).round x) ((ofPrecision digits).round y) ≤ 1 :=
  (@add_share_le digits y hdigits _ x 1 (by norm_num) (ofPrecision_nonneg hx) hy
    (by
      have hround := ofPrecision_le_add_half hdigits hx (by linarith)
      have hunit : (0 : ℚ) < (10 : ℚ) ^ (-digits : ℤ) := by positivity
      push_cast
      linarith) hx h).1

end DecimalContext
