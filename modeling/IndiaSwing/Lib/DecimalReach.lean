import IndiaSwing.Lib.DecimalPrecision
import Mathlib.Tactic.Ring

/-! From where rounding to digits reaches a value. -/

namespace DecimalContext

variable {digits : ℕ} {value : ℚ}

/-- An odd multiple of five units is no power of ten. -/
theorem zpow_ne_odd {c : ℕ} {e j : ℤ} (hodd : Odd c) (hle : j ≤ e) : (10 : ℚ) ^ e ≠ (5 * c : ℚ) * 10 ^ j := by
  intro hpower
  obtain ⟨k, hk⟩ : ∃ k : ℕ, (k : ℤ) = e - j := ⟨(e - j).toNat, by omega⟩
  have hunit : (0 : ℚ) < 10 ^ j := by positivity
  have hsame : (5 * c : ℚ) = 10 ^ k := by
    refine mul_right_cancel₀ hunit.ne' ?_
    rw [← zpow_natCast, ← zpow_add₀ (by norm_num), hk, sub_add_cancel, hpower]
  have hnat : 5 * c = 10 ^ k := by exact_mod_cast hsame
  obtain ⟨half, rfl⟩ := hodd
  cases k with
  | zero => omega
  | succ k =>
    rw [pow_succ] at hnat
    omega

/-- Rounding reaches an odd multiple of five units, of a place above the last one, from half a last place below it. -/
theorem five_le_ofPrecision_iff {c : ℕ} {j : ℤ} (hodd : Odd c)
    (hplace : Int.log 10 ((5 * c : ℚ) * 10 ^ j) + 2 ≤ digits + j) (h : 0 < value) :
    (5 * c : ℚ) * 10 ^ j ≤ (ofPrecision digits).round value ↔
      (5 * c : ℚ) * 10 ^ j - 5 * 10 ^ (Int.log 10 ((5 * c : ℚ) * 10 ^ j) - digits) ≤ value := by
  set point : ℚ := (5 * c : ℚ) * 10 ^ j with hpoint
  set e : ℤ := Int.log 10 point with he
  have hc : (1 : ℚ) ≤ c := by exact_mod_cast hodd.pos
  have hpos : 0 < point := by positivity
  have hself : (10 : ℚ) ^ e ≤ point := Int.zpow_log_le_self (b := 10) (by norm_num) hpos
  have hsucc : point < (10 : ℚ) ^ (e + 1) := by
    have hlt := Int.lt_zpow_succ_log_self (b := 10) (by norm_num) point
    exact_mod_cast hlt
  have hlog : j ≤ e := by
    refine (Int.zpow_le_iff_le_log (by norm_num) hpos).mp ?_
    have hj : (0 : ℚ) < 10 ^ j := by positivity
    push_cast
    rw [hpoint]
    nlinarith
  have hunit : (0 : ℚ) < 10 ^ (e + 1 - digits) := by positivity
  obtain ⟨width, hwidth⟩ : ∃ width : ℕ, (width : ℤ) + 1 = digits + j - (e + 1) := ⟨(digits + j - (e + 2)).toNat, by omega⟩
  -- the point in units of the last place
  have hunits : ((5 * c * 10 ^ (width + 1) : ℤ) : ℚ) * 10 ^ (e + 1 - digits) = point := by
    push_cast
    rw [hpoint, mul_assoc, ← zpow_natCast, ← zpow_add₀ (by norm_num)]
    congr 2
    push_cast
    omega
  have hpowers : ∀ k : ℕ, ((10 ^ k : ℤ) : ℚ) * 10 ^ (e + 1 - digits) = 10 ^ (k + (e + 1 - digits) : ℤ) := by
    intro k
    push_cast
    rw [← zpow_natCast, ← zpow_add₀ (by norm_num)]
  have heven : Even (5 * c * 10 ^ (width + 1) : ℤ) := by
    rw [pow_succ]
    exact (Even.mul_left (by decide) _).mul_left _
  have hlow : (10 ^ (digits - 1) : ℤ) < 5 * c * 10 ^ (width + 1) := by
    refine Int.cast_lt.mp (lt_of_mul_lt_mul_right ?_ hunit.le)
    rw [hunits, hpowers, show ((digits - 1 : ℕ) : ℤ) + (e + 1 - digits) = e by omega]
    exact lt_of_le_of_ne hself (zpow_ne_odd hodd hlog)
  have hhigh : (5 * c * 10 ^ (width + 1) : ℤ) < 10 ^ digits := by
    refine Int.cast_lt.mp (lt_of_mul_lt_mul_right ?_ hunit.le)
    rw [hunits, hpowers, show (digits : ℤ) + (e + 1 - digits) = e + 1 by omega]
    exact hsucc
  have hhalf : (1 / 2 : ℚ) * 10 ^ (e + 1 - digits) = 5 * 10 ^ (e - digits) := by
    rw [show e + 1 - (digits : ℤ) = e - digits + 1 by ring, zpow_add_one₀ (by norm_num)]
    ring
  have hiff := le_ofPrecision_iff (by omega) heven hlow hhigh h (k := e + 1 - digits)
  rw [sub_mul, hunits, hhalf] at hiff
  exact hiff

/-- An even integer is not passed up to half a unit above it. -/
theorem roundHalfEven_le_iff {n : ℤ} (hn : Even n) : roundHalfEven value ≤ n ↔ value ≤ (n : ℚ) + 1 / 2 := by
  constructor
  · intro h
    by_contra habove
    have hle := floor_le_roundHalfEven value
    have hfloor : n ≤ ⌊value⌋ := by
      apply Int.le_floor.mpr
      linarith
    have heq : ⌊value⌋ = n := by omega
    have hfraction : 1 / 2 < value - ⌊value⌋ := by
      rw [heq]
      linarith
    rw [roundHalfEven, if_neg (by linarith), if_pos hfraction] at h
    omega
  · intro h
    have hfloor : ⌊(n : ℚ) + 1 / 2⌋ = n := by
      apply Int.floor_eq_iff.mpr
      constructor <;> linarith
    have hfraction : (n : ℚ) + 1 / 2 - ⌊(n : ℚ) + 1 / 2⌋ = 1 / 2 := by
      rw [hfloor]
      ring
    have heven : n % 2 = 0 := by
      obtain ⟨m, rfl⟩ := hn
      omega
    have hhalf : roundHalfEven ((n : ℚ) + 1 / 2) = n := by
      rw [roundHalfEven, hfraction, if_neg (lt_irrefl _), if_neg (lt_irrefl _), hfloor, if_pos heven]
    exact (roundHalfEven_mono h).trans hhalf.le

theorem roundHalfEven_neg (value : ℚ) : roundHalfEven (-value) = -roundHalfEven value := by
  have hlow := Int.floor_le value
  have hhigh := Int.lt_floor_add_one value
  rcases eq_or_lt_of_le hlow with hint | hlt
  · rw [← hint, ← Int.cast_neg, roundHalfEven_intCast, roundHalfEven_intCast]
  have hfloor : ⌊-value⌋ = -⌊value⌋ - 1 := by
    apply Int.floor_eq_iff.mpr
    push_cast
    constructor <;> linarith
  unfold roundHalfEven
  rw [hfloor]
  push_cast
  split_ifs <;> first | omega | (exfalso; linarith)

theorem ofPrecision_neg (value : ℚ) : (ofPrecision digits).round (-value) = -(ofPrecision digits).round value := by
  by_cases hzero : value = 0
  · rw [hzero, neg_zero, ofPrecision_zero, neg_zero]
  unfold ofPrecision lastPlace
  dsimp only
  rw [if_neg (neg_ne_zero.mpr hzero), if_neg hzero, abs_neg, neg_div, roundHalfEven_neg, Int.cast_neg, neg_mul]

theorem abs_ofPrecision (value : ℚ) : |(ofPrecision digits).round value| = (ofPrecision digits).round |value| := by
  rcases le_total 0 value with h | h
  · rw [abs_of_nonneg h, abs_of_nonneg (ofPrecision_nonneg h)]
  · rw [abs_of_nonpos h, ofPrecision_neg, abs_of_nonpos]
    have hrounded : 0 ≤ (ofPrecision digits).round (-value) := ofPrecision_nonneg (neg_nonneg.mpr h)
    rw [ofPrecision_neg] at hrounded
    linarith

/-- Rounding stays at a power of ten up to half a last place above it. -/
theorem ofPrecision_le_pow_iff (hdigits : 2 ≤ digits) {k : ℤ} (h : 0 ≤ value) :
    (ofPrecision digits).round value ≤ 10 ^ k ↔ value ≤ 10 ^ k + 5 * 10 ^ (k - digits) := by
  have hhalf : (0 : ℚ) < 10 ^ (k - digits) := by positivity
  rcases eq_or_lt_of_le h with rfl | hpos
  · rw [ofPrecision_zero]
    exact iff_of_true (by positivity) (by positivity)
  have hself : (10 : ℚ) ^ Int.log 10 |value| ≤ value := by
    have hle := Int.zpow_log_le_self (b := 10) (by norm_num) (abs_pos.mpr hpos.ne')
    rw [abs_of_pos hpos] at hle ⊢
    exact_mod_cast hle
  have hsucc : value < (10 : ℚ) ^ (Int.log 10 |value| + 1) := by
    have hlt := Int.lt_zpow_succ_log_self (b := 10) (by norm_num) |value|
    rw [abs_of_pos hpos] at hlt ⊢
    exact_mod_cast hlt
  rcases lt_trichotomy (Int.log 10 |value|) k with hbelow | hsame | habove
  · have hpower : (10 : ℚ) ^ (Int.log 10 |value| + 1) ≤ 10 ^ k := zpow_le_zpow_right₀ (by norm_num) (by omega)
    exact iff_of_true ((ofPrecision_le_pow hpos).trans hpower) (by linarith)
  · have hplace : (0 : ℚ) < 10 ^ (k + 1 - digits) := by positivity
    have hround : (ofPrecision digits).round value = roundHalfEven (value / 10 ^ (k + 1 - digits)) * 10 ^ (k + 1 - digits) := by
      unfold ofPrecision lastPlace
      dsimp only
      rw [if_neg hpos.ne', hsame]
    have hunits : ((10 ^ (digits - 1) : ℤ) : ℚ) * 10 ^ (k + 1 - digits) = 10 ^ k := by
      push_cast
      rw [← zpow_natCast, ← zpow_add₀ (by norm_num)]
      congr 1
      omega
    have heven : Even (10 ^ (digits - 1) : ℤ) := Even.pow_of_ne_zero (by decide) (by omega)
    have hunit : (1 / 2 : ℚ) * 10 ^ (k + 1 - digits) = 5 * 10 ^ (k - digits) := by
      rw [show k + 1 - (digits : ℤ) = k - digits + 1 by ring, zpow_add_one₀ (by norm_num)]
      ring
    rw [hround, ← hunits, mul_le_mul_iff_of_pos_right hplace, Int.cast_le, roundHalfEven_le_iff heven,
      div_le_iff₀ hplace, add_mul, hunit]
  · have hpower : (10 : ℚ) ^ (k + 1) ≤ 10 ^ Int.log 10 |value| := zpow_le_zpow_right₀ (by norm_num) (by omega)
    have hstep : (10 : ℚ) ^ (k + 1) = 10 * 10 ^ k := by
      rw [zpow_add_one₀ (by norm_num), mul_comm]
    have hunit : (10 : ℚ) ^ (k - digits) ≤ 10 ^ k := zpow_le_zpow_right₀ (by norm_num) (by omega)
    have hk : (0 : ℚ) < 10 ^ k := by positivity
    have hrounded := pow_le_ofPrecision (by omega : 1 ≤ digits) hpos
    exact iff_of_false (not_le.mpr (by linarith)) (not_le.mpr (by linarith))

end DecimalContext
