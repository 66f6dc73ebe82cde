import IndiaSwing.Lib.DecimalPrecision

/-- What an operation of a context with exponent limits can raise. -/
inductive DecimalSignal
  | overflow
  | divisionByZero
  | invalidOperation
  deriving DecidableEq, Repr

/-- A context of limited digits and exponents. It raises on overflow, and underflow goes to zero. -/
structure RangedContext where
  digits : ℕ
  minExponent : ℤ
  maxExponent : ℤ
  digits_pos : 1 ≤ digits

namespace RangedContext

open DecimalContext

variable (ctx : RangedContext) {value a b : ℚ}

/-- The exponent of the last digit kept of a value. -/
def lastExponent (value : ℚ) : ℤ :=
  max (Int.log 10 |value| + 1 - ctx.digits) (ctx.minExponent + 1 - ctx.digits)

/-- The nearest value of the context, half to even. -/
def round (value : ℚ) : ℚ :=
  if value = 0 then 0 else roundHalfEven (value / 10 ^ ctx.lastExponent value) * 10 ^ ctx.lastExponent value

def Overflows (value : ℚ) : Prop := 10 ^ (ctx.maxExponent + 1) ≤ |ctx.round value|

instance : Decidable (ctx.Overflows value) := inferInstanceAs (Decidable (_ ≤ _))

def finalize (value : ℚ) : Except DecimalSignal ℚ :=
  if ctx.Overflows value then .error .overflow else .ok (ctx.round value)

def mul (a b : ℚ) : Except DecimalSignal ℚ := ctx.finalize (a * b)

def div (a b : ℚ) : Except DecimalSignal ℚ :=
  if b = 0 then .error (if a = 0 then .invalidOperation else .divisionByZero) else ctx.finalize (a / b)

/-- The value keeps in the range of the context: it neither overflows nor vanishes. -/
def InRange (value : ℚ) : Prop := ¬ctx.Overflows value ∧ ctx.round value ≠ 0

instance : Decidable (ctx.InRange value) := inferInstanceAs (Decidable (_ ∧ _))

variable {ctx}

theorem finalize_ok (h : ¬ctx.Overflows value) : ctx.finalize value = .ok (ctx.round value) := if_neg h

theorem finalize_error (h : ctx.Overflows value) : ctx.finalize value = .error .overflow := if_pos h

theorem div_of_ne_zero (h : b ≠ 0) : ctx.div a b = ctx.finalize (a / b) := if_neg h

theorem div_zero_error (h : a ≠ 0) : ctx.div a 0 = .error .divisionByZero := by
  rw [div, if_pos rfl, if_neg h]

@[simp] theorem round_zero : ctx.round 0 = 0 := if_pos rfl

theorem round_of_ne_zero (h : value ≠ 0) : ctx.round value =
    roundHalfEven (value / 10 ^ ctx.lastExponent value) * 10 ^ ctx.lastExponent value := if_neg h

theorem round_nonneg (h : 0 ≤ value) : 0 ≤ ctx.round value := by
  rcases eq_or_lt_of_le h with rfl | hpos
  · exact round_zero.ge
  · rw [round_of_ne_zero hpos.ne']
    have hrounded : 0 ≤ roundHalfEven (value / 10 ^ ctx.lastExponent value) := roundHalfEven_nonneg (by positivity)
    exact mul_nonneg (Int.cast_nonneg hrounded) (by positivity)

variable (ctx) in
theorem lastExponent_mono (ha : 0 < a) (h : a ≤ b) : ctx.lastExponent a ≤ ctx.lastExponent b := by
  have hlog : Int.log 10 |a| ≤ Int.log 10 |b| := by
    rw [abs_of_pos ha, abs_of_pos (ha.trans_le h)]
    exact Int.log_mono_right ha h
  unfold lastExponent
  omega

theorem pow_div_pow {n place : ℤ} (h : place ≤ n) :
    (10 : ℚ) ^ n / 10 ^ place = ((10 ^ (n - place).toNat : ℤ) : ℚ) := by
  push_cast
  rw [← zpow_natCast, Int.toNat_of_nonneg (by omega), zpow_sub₀ (by norm_num)]

theorem round_le_pow {n : ℤ} (ha : 0 < a) (h : a ≤ 10 ^ n) (hplace : ctx.lastExponent a ≤ n) : ctx.round a ≤ 10 ^ n := by
  have hpos : (0 : ℚ) < 10 ^ ctx.lastExponent a := by positivity
  have hquotient : a / 10 ^ ctx.lastExponent a ≤ ((10 ^ (n - ctx.lastExponent a).toNat : ℤ) : ℚ) := by
    rw [← pow_div_pow hplace]
    exact div_le_div_of_nonneg_right h hpos.le
  have hrounded : (roundHalfEven (a / 10 ^ ctx.lastExponent a) : ℚ) ≤ 10 ^ n / 10 ^ ctx.lastExponent a := by
    rw [pow_div_pow hplace]
    exact Int.cast_le.mpr (roundHalfEven_le _ hquotient)
  rw [round_of_ne_zero ha.ne']
  exact (le_div_iff₀ hpos).mp hrounded

theorem pow_le_round {n : ℤ} (h : 10 ^ n ≤ b) (hplace : ctx.lastExponent b ≤ n) : 10 ^ n ≤ ctx.round b := by
  have hb : 0 < b := lt_of_lt_of_le (by positivity) h
  have hpos : (0 : ℚ) < 10 ^ ctx.lastExponent b := by positivity
  have hquotient : ((10 ^ (n - ctx.lastExponent b).toNat : ℤ) : ℚ) ≤ b / 10 ^ ctx.lastExponent b := by
    rw [← pow_div_pow hplace]
    exact div_le_div_of_nonneg_right h hpos.le
  have hrounded : 10 ^ n / 10 ^ ctx.lastExponent b ≤ (roundHalfEven (b / 10 ^ ctx.lastExponent b) : ℚ) := by
    have hmono := roundHalfEven_mono hquotient
    rw [roundHalfEven_intCast] at hmono
    rw [pow_div_pow hplace]
    exact Int.cast_le.mpr hmono
  rw [round_of_ne_zero hb.ne']
  exact (div_le_iff₀ hpos).mp hrounded

/-- Rounding keeps the order of two values. -/
theorem round_mono (ha : 0 ≤ a) (h : a ≤ b) : ctx.round a ≤ ctx.round b := by
  rcases eq_or_lt_of_le ha with rfl | hpos
  · rw [round_zero]
    exact round_nonneg h
  have hb : 0 < b := hpos.trans_le h
  rcases eq_or_lt_of_le (lastExponent_mono ctx hpos h) with heq | hlt
  · rw [round_of_ne_zero hpos.ne', round_of_ne_zero hb.ne', heq]
    have hquotient : a / 10 ^ ctx.lastExponent b ≤ b / 10 ^ ctx.lastExponent b :=
      div_le_div_of_nonneg_right h (by positivity)
    exact mul_le_mul_of_nonneg_right (Int.cast_le.mpr (roundHalfEven_mono hquotient)) (by positivity)
  -- the power of ten at the larger value separates the two
  have hdigits := ctx.digits_pos
  have hplaceB : ctx.lastExponent b ≤ Int.log 10 b := by
    unfold lastExponent at hlt ⊢
    rw [abs_of_pos hb] at hlt ⊢
    omega
  have hplaceA : ctx.lastExponent a ≤ Int.log 10 b := hlt.le.trans hplaceB
  have hlog : Int.log 10 a < Int.log 10 b := by
    unfold lastExponent at hlt
    rw [abs_of_pos hb, abs_of_pos hpos] at hlt
    omega
  have hbelow : a ≤ 10 ^ Int.log 10 b := ((Int.lt_zpow_iff_log_lt (by norm_num) hpos).mpr hlog).le
  have habove : 10 ^ Int.log 10 b ≤ b := Int.zpow_log_le_self (by norm_num) hb
  exact (round_le_pow hpos hbelow hplaceA).trans (pow_le_round habove hplaceB)

theorem overflows_mono (ha : 0 ≤ a) (h : a ≤ b) (hover : ctx.Overflows a) : ctx.Overflows b := by
  have hround : ctx.round a ≤ ctx.round b := round_mono ha h
  unfold Overflows at hover ⊢
  rw [abs_of_nonneg (round_nonneg ha)] at hover
  rw [abs_of_nonneg (round_nonneg (ha.trans h))]
  exact hover.trans hround

theorem inRange_pos (ha : 0 ≤ a) (h : ctx.InRange a) : 0 < ctx.round a :=
  lt_of_le_of_ne (round_nonneg ha) h.2.symm

/-- A value below half of the last place of the smallest exponent vanishes. -/
theorem round_eq_zero (ha : 0 ≤ a) (h : a < 10 ^ (ctx.minExponent + 1 - ctx.digits) / 2) : ctx.round a = 0 := by
  rcases eq_or_lt_of_le ha with rfl | hpos
  · exact round_zero
  have hplace : (10 : ℚ) ^ (ctx.minExponent + 1 - ctx.digits) ≤ 10 ^ ctx.lastExponent a :=
    zpow_le_zpow_right₀ (by norm_num) (le_max_right _ _)
  have hquotient : a / 10 ^ ctx.lastExponent a < 1 / 2 := by
    rw [div_lt_iff₀ (by positivity)]
    linarith
  have hfloor : ⌊a / 10 ^ ctx.lastExponent a⌋ = 0 :=
    Int.floor_eq_iff.mpr ⟨by push_cast; positivity, by push_cast; linarith⟩
  rw [round_of_ne_zero hpos.ne', roundHalfEven, hfloor, if_pos (by push_cast; linarith), Int.cast_zero, zero_mul]

end RangedContext
