import Mathlib.Data.Int.Log
import Mathlib.Algebra.Order.Field.Power
import Mathlib.Algebra.Order.Field.Rat
import Mathlib.Tactic.FieldSimp
import Mathlib.Tactic.Linarith
import Mathlib.Tactic.Positivity
import IndiaSwing.Lib.DecimalContext

namespace DecimalContext

/-- The nearest integer, the even one of two. -/
def roundHalfEven (value : ℚ) : ℤ :=
  if value - ⌊value⌋ < 1 / 2 then ⌊value⌋
  else if 1 / 2 < value - ⌊value⌋ then ⌊value⌋ + 1
  else if ⌊value⌋ % 2 = 0 then ⌊value⌋ else ⌊value⌋ + 1

/-- The place value of the last of `digits` significant digits. -/
def lastPlace (digits : ℕ) (value : ℚ) : ℚ := 10 ^ (Int.log 10 |value| + 1 - digits)

/-- A context of `digits` significant digits that rounds to the nearest value, half to even. -/
def ofPrecision (digits : ℕ) : DecimalContext :=
  ⟨fun value => if value = 0 then 0 else roundHalfEven (value / lastPlace digits value) * lastPlace digits value⟩

/-- The sums of the initial segments of a list. -/
def partialSums (values : List ℚ) : List ℚ := values.scanl (· + ·) 0

/-- The value has at most `digits` significant digits. -/
def Fits (digits : ℕ) (value : ℚ) : Prop := (ofPrecision digits).round value = value

instance (digits : ℕ) (value : ℚ) : Decidable (Fits digits value) := inferInstanceAs (Decidable (_ = _))

variable {digits : ℕ} {value : ℚ}

variable {ctx : DecimalContext}

theorem sum_eq_of_round {start : ℚ} {values : List ℚ}
    (h : ∀ total ∈ values.scanl (· + ·) start, ctx.round total = total) : ctx.sum start values = start + values.sum := by
  induction values generalizing start with
  | nil => simp [DecimalContext.sum]
  | cons v values ih =>
    rw [List.scanl_cons] at h
    have hnext : ctx.add start v = start + v := by
      refine h _ (List.mem_cons_of_mem _ ?_)
      cases values <;> simp
    rw [sum_cons, hnext, ih fun total ht => h total (List.mem_cons_of_mem _ ht), List.sum_cons, add_assoc]

/-- A sum whose partial sums are not rounded is exact. -/
theorem round_sum {values : List ℚ} (h : ∀ total ∈ partialSums values, ctx.round total = total) :
    ctx.round (ctx.sum 0 values) = values.sum := by
  have hlast : values.sum ∈ partialSums values := by
    rw [List.sum_eq_foldl]
    exact List.mem_of_getLast? List.getLast?_scanl
  rw [sum_eq_of_round h, zero_add]
  exact h _ hlast

theorem roundHalfEven_intCast (n : ℤ) : roundHalfEven n = n := by
  unfold roundHalfEven
  rw [Int.floor_intCast, sub_self, if_pos (by norm_num)]

theorem floor_le_roundHalfEven (value : ℚ) : ⌊value⌋ ≤ roundHalfEven value := by
  unfold roundHalfEven
  split
  · exact le_rfl
  · split
    · omega
    · split <;> omega

theorem roundHalfEven_le_floor_succ (value : ℚ) : roundHalfEven value ≤ ⌊value⌋ + 1 := by
  unfold roundHalfEven
  split
  · omega
  · split
    · exact le_rfl
    · split <;> omega

theorem roundHalfEven_mono {a b : ℚ} (h : a ≤ b) : roundHalfEven a ≤ roundHalfEven b := by
  have hge := floor_le_roundHalfEven b
  rcases eq_or_lt_of_le (Int.floor_mono h) with heq | hlt
  · by_cases hbelow : a - ⌊a⌋ < 1 / 2
    · rw [roundHalfEven, if_pos hbelow, heq]
      exact hge
    · have hb : ¬b - ⌊b⌋ < 1 / 2 := by
        rw [← heq]
        linarith
      by_cases habove : 1 / 2 < b - ⌊b⌋
      · have hsucc := roundHalfEven_le_floor_succ a
        rw [roundHalfEven.eq_def b, if_neg hb, if_pos habove, ← heq]
        exact hsucc
      · -- both lie halfway
        have ha : ¬1 / 2 < a - ⌊a⌋ := by
          rw [heq]
          linarith
        rw [roundHalfEven, if_neg hbelow, if_neg ha, roundHalfEven, if_neg hb, if_neg habove, heq]
  · have hle := roundHalfEven_le_floor_succ a
    omega

theorem roundHalfEven_nonneg (h : 0 ≤ value) : 0 ≤ roundHalfEven value := by
  have hfloor : 0 ≤ ⌊value⌋ := Int.floor_nonneg.mpr h
  unfold roundHalfEven
  split
  · exact hfloor
  · split
    · omega
    · split <;> omega

theorem lastPlace_pos : 0 < lastPlace digits value := by
  unfold lastPlace
  positivity

@[simp] theorem ofPrecision_zero : (ofPrecision digits).round 0 = 0 := by
  simp [ofPrecision]

theorem ofPrecision_nonneg (h : 0 ≤ value) : 0 ≤ (ofPrecision digits).round value := by
  unfold ofPrecision
  dsimp only
  split
  · exact le_rfl
  · have hplace : 0 < lastPlace digits value := lastPlace_pos
    have hrounded := roundHalfEven_nonneg (div_nonneg h hplace.le)
    exact mul_nonneg (Int.cast_nonneg hrounded) lastPlace_pos.le

theorem add_nonneg_of {a b : ℚ} (ha : 0 ≤ a) (hb : 0 ≤ b) : 0 ≤ (ofPrecision digits).add a b :=
  ofPrecision_nonneg (add_nonneg ha hb)

theorem sum_nonneg_of {values : List ℚ} {start : ℚ} (hstart : 0 ≤ start) (h : ∀ v ∈ values, 0 ≤ v) :
    0 ≤ (ofPrecision digits).sum start values := by
  induction values generalizing start with
  | nil => exact hstart
  | cons v values ih =>
    rw [sum_cons]
    exact ih (add_nonneg_of hstart (h v List.mem_cons_self)) fun w hw => h w (List.mem_cons_of_mem _ hw)

/-- A decimal of few enough digits is not rounded. -/
theorem fits_of_decimal {n k : ℤ} (h : |n| < 10 ^ digits) : Fits digits (n * 10 ^ k) := by
  unfold Fits ofPrecision
  dsimp only
  by_cases hn : n = 0
  · simp [hn]
  have hvalue : (n : ℚ) * 10 ^ k ≠ 0 := mul_ne_zero (Int.cast_ne_zero.mpr hn) (by positivity)
  rw [if_neg hvalue]
  have hlog : Int.log 10 |(n : ℚ) * 10 ^ k| < k + digits := by
    rw [← Int.lt_zpow_iff_log_lt (by norm_num) (abs_pos.mpr hvalue), abs_mul, abs_of_pos (by positivity : (0 : ℚ) < 10 ^ k),
      Nat.cast_ofNat, zpow_add₀ (by norm_num), mul_comm, zpow_natCast]
    have hcast : |(n : ℚ)| < 10 ^ digits := by exact_mod_cast h
    exact mul_lt_mul_of_pos_left hcast (by positivity)
  -- the last place divides the place of the integer
  obtain ⟨j, hj⟩ : ∃ j : ℕ, k = Int.log 10 |(n : ℚ) * 10 ^ k| + 1 - digits + j :=
    ⟨(k - (Int.log 10 |(n : ℚ) * 10 ^ k| + 1 - digits)).toNat, by omega⟩
  have hquotient : (n : ℚ) * 10 ^ k / lastPlace digits ((n : ℚ) * 10 ^ k) = ((n * 10 ^ j : ℤ) : ℚ) := by
    unfold lastPlace
    rw [div_eq_iff (by positivity)]
    push_cast
    rw [mul_assoc, ← zpow_natCast, ← zpow_add₀ (by norm_num : (10 : ℚ) ≠ 0), add_comm (j : ℤ), ← hj]
  rw [hquotient, roundHalfEven_intCast, ← hquotient, div_mul_cancel₀ _ lastPlace_pos.ne']

theorem one_le_abs_div_lastPlace (hdigits : 1 ≤ digits) (h : value ≠ 0) : 1 ≤ |value / lastPlace digits value| := by
  have hpower : (10 : ℚ) ^ Int.log 10 |value| ≤ |value| := by
    have hle := Int.zpow_log_le_self (b := 10) (by norm_num) (abs_pos.mpr h)
    exact_mod_cast hle
  have hplace : lastPlace digits value ≤ (10 : ℚ) ^ Int.log 10 |value| := by
    unfold lastPlace
    exact zpow_le_zpow_right₀ (by norm_num) (by omega)
  have hpos : 0 < lastPlace digits value := lastPlace_pos
  rw [abs_div, abs_of_pos hpos, le_div_iff₀ hpos, one_mul]
  exact hplace.trans hpower

theorem roundHalfEven_ne_zero (h : 1 ≤ |value|) : roundHalfEven value ≠ 0 := by
  have hfloor : 1 ≤ ⌊value⌋ ∨ ⌊value⌋ ≤ -2 ∨ (⌊value⌋ = -1 ∧ value = -1) := by
    rcases le_abs'.mp h with hneg | hpos
    · rcases eq_or_lt_of_le hneg with rfl | hlt
      · exact .inr (.inr ⟨by simpa using Int.floor_intCast (-1), rfl⟩)
      · have hbelow : ⌊value⌋ < -1 := Int.floor_lt.mpr (by exact_mod_cast hlt)
        exact .inr (.inl (by omega))
    · exact .inl (Int.le_floor.mpr (by exact_mod_cast hpos))
  rcases hfloor with hpos | hneg | ⟨-, rfl⟩
  · unfold roundHalfEven
    split
    · omega
    · split
      · omega
      · split <;> omega
  · unfold roundHalfEven
    split
    · omega
    · split
      · omega
      · split <;> omega
  · have hint : roundHalfEven ((-1 : ℤ) : ℚ) = -1 := roundHalfEven_intCast _
    norm_num at hint
    omega

/-- Rounding to digits takes only zero to zero. -/
theorem ofPrecision_eq_zero_iff (hdigits : 1 ≤ digits) : (ofPrecision digits).round value = 0 ↔ value = 0 := by
  constructor
  · intro hzero
    by_contra hne
    unfold ofPrecision at hzero
    dsimp only at hzero
    rw [if_neg hne] at hzero
    rcases mul_eq_zero.mp hzero with hround | hplace
    · exact roundHalfEven_ne_zero (one_le_abs_div_lastPlace hdigits hne) (Int.cast_eq_zero.mp hround)
    · have hpos : 0 < lastPlace digits value := lastPlace_pos
      exact hpos.ne' hplace
  · rintro rfl
    exact ofPrecision_zero

theorem ofPrecision_pos (hdigits : 1 ≤ digits) (h : 0 < value) : 0 < (ofPrecision digits).round value := by
  refine lt_of_le_of_ne (ofPrecision_nonneg h.le) fun hzero => ?_
  exact h.ne' ((ofPrecision_eq_zero_iff hdigits).mp hzero.symm)

theorem roundHalfEven_le (n : ℤ) (h : value ≤ n) : roundHalfEven value ≤ n := by
  rcases eq_or_lt_of_le h with rfl | hlt
  · exact (roundHalfEven_intCast n).le
  have hfloor : ⌊value⌋ < n := Int.floor_lt.mpr hlt
  unfold roundHalfEven
  split
  · omega
  · split
    · omega
    · split <;> omega

theorem pow_mul_lastPlace : (10 : ℚ) ^ digits * lastPlace digits value = 10 ^ (Int.log 10 |value| + 1) := by
  unfold lastPlace
  rw [← zpow_natCast, ← zpow_add₀ (by norm_num)]
  congr 1
  omega

/-- A rounded value is at most the power of ten above the value. -/
theorem ofPrecision_le_pow (h : 0 < value) : (ofPrecision digits).round value ≤ 10 ^ (Int.log 10 |value| + 1) := by
  have hbelow : value / lastPlace digits value ≤ ((10 ^ digits : ℤ) : ℚ) := by
    have hself := Int.lt_zpow_succ_log_self (b := 10) (by norm_num) |value|
    rw [div_le_iff₀ lastPlace_pos]
    push_cast
    rw [pow_mul_lastPlace]
    exact (le_abs_self value).trans (by exact_mod_cast hself.le)
  have hrounded : ((roundHalfEven (value / lastPlace digits value) : ℤ) : ℚ) ≤ 10 ^ digits := by
    exact_mod_cast roundHalfEven_le _ hbelow
  unfold ofPrecision
  dsimp only
  rw [if_neg h.ne', ← @pow_mul_lastPlace digits]
  exact mul_le_mul_of_nonneg_right hrounded lastPlace_pos.le

/-- A rounded value is at least the power of ten below the value. -/
theorem pow_le_ofPrecision (hdigits : 1 ≤ digits) (h : 0 < value) :
    10 ^ Int.log 10 |value| ≤ (ofPrecision digits).round value := by
  have hplace : (10 : ℚ) ^ (digits - 1) * lastPlace digits value = 10 ^ Int.log 10 |value| := by
    unfold lastPlace
    rw [← zpow_natCast, ← zpow_add₀ (by norm_num)]
    congr 1
    omega
  have habove : ((10 ^ (digits - 1) : ℤ) : ℚ) ≤ value / lastPlace digits value := by
    have hself := Int.zpow_log_le_self (b := 10) (by norm_num) (abs_pos.mpr h.ne')
    rw [le_div_iff₀ lastPlace_pos]
    push_cast
    rw [hplace]
    exact (by exact_mod_cast hself : (10 : ℚ) ^ Int.log 10 |value| ≤ |value|).trans_eq (abs_of_pos h)
  have hrounded : ((10 ^ (digits - 1) : ℤ) : ℚ) ≤ roundHalfEven (value / lastPlace digits value) := by
    have hmono := roundHalfEven_mono habove
    rw [roundHalfEven_intCast] at hmono
    exact_mod_cast hmono
  unfold ofPrecision
  dsimp only
  rw [if_neg h.ne', ← hplace]
  push_cast at hrounded
  exact mul_le_mul_of_nonneg_right hrounded lastPlace_pos.le

/-- Rounding to digits keeps the order. -/
theorem ofPrecision_mono (hdigits : 1 ≤ digits) {a b : ℚ} (ha : 0 ≤ a) (hab : a ≤ b) :
    (ofPrecision digits).round a ≤ (ofPrecision digits).round b := by
  rcases eq_or_lt_of_le ha with rfl | hpos
  · rw [ofPrecision_zero]
    exact ofPrecision_nonneg hab
  have hbpos : 0 < b := hpos.trans_le hab
  have hlog : Int.log 10 |a| ≤ Int.log 10 |b| := by
    rw [abs_of_pos hpos, abs_of_pos hbpos]
    exact Int.log_mono_right hpos hab
  rcases eq_or_lt_of_le hlog with heq | hlt
  · -- one last place for both
    have hplace : lastPlace digits a = lastPlace digits b := by
      unfold lastPlace
      rw [heq]
    have hscaled : a / lastPlace digits b ≤ b / lastPlace digits b := div_le_div_of_nonneg_right hab lastPlace_pos.le
    have hrounded : ((roundHalfEven (a / lastPlace digits b) : ℤ) : ℚ) ≤ roundHalfEven (b / lastPlace digits b) := by
      exact_mod_cast roundHalfEven_mono hscaled
    unfold ofPrecision
    dsimp only
    rw [if_neg hpos.ne', if_neg hbpos.ne', hplace]
    exact mul_le_mul_of_nonneg_right hrounded lastPlace_pos.le
  · -- a power of ten lies between the two
    calc (ofPrecision digits).round a ≤ 10 ^ (Int.log 10 |a| + 1) := ofPrecision_le_pow hpos
      _ ≤ 10 ^ Int.log 10 |b| := zpow_le_zpow_right₀ (by norm_num) (by omega)
      _ ≤ (ofPrecision digits).round b := pow_le_ofPrecision hdigits hbpos

/-- Rounding to digits takes no value up to one above it. -/
theorem ofPrecision_le_one (hdigits : 1 ≤ digits) (hnonneg : 0 ≤ value) (h : value ≤ 1) :
    (ofPrecision digits).round value ≤ 1 := by
  rcases eq_or_lt_of_le h with rfl | hlt
  · have hone : Fits digits ((1 : ℤ) * 10 ^ (0 : ℤ)) := fits_of_decimal (by
      rw [abs_one]
      exact one_lt_pow₀ (by norm_num) (by omega))
    norm_num at hone
    exact hone.le
  rcases eq_or_lt_of_le hnonneg with rfl | hpos
  · rw [ofPrecision_zero]
    exact zero_le_one
  have hlog : Int.log 10 |value| < 0 := by
    rw [abs_of_pos hpos, ← Int.lt_zpow_iff_log_lt (by norm_num) hpos]
    simpa using hlt
  calc (ofPrecision digits).round value ≤ 10 ^ (Int.log 10 |value| + 1) := ofPrecision_le_pow hpos
    _ ≤ 10 ^ (0 : ℤ) := zpow_le_zpow_right₀ (by norm_num) (by omega)
    _ = 1 := zpow_zero _

/-- An even integer is reached from half a unit below it. -/
theorem le_roundHalfEven_iff {n : ℤ} (hn : Even n) : n ≤ roundHalfEven value ↔ (n : ℚ) - 1 / 2 ≤ value := by
  constructor
  · intro h
    by_contra hbelow
    have hfloor : ⌊value⌋ < n := by
      apply Int.floor_lt.mpr
      linarith
    have hsucc := roundHalfEven_le_floor_succ value
    have heq : ⌊value⌋ = n - 1 := by omega
    have hfraction : value - ⌊value⌋ < 1 / 2 := by
      rw [heq]
      push_cast
      linarith
    rw [roundHalfEven, if_pos hfraction] at h
    omega
  · intro h
    have hfloor : ⌊(n : ℚ) - 1 / 2⌋ = n - 1 := by
      apply Int.floor_eq_iff.mpr
      push_cast
      constructor <;> linarith
    have hfraction : (n : ℚ) - 1 / 2 - ⌊(n : ℚ) - 1 / 2⌋ = 1 / 2 := by
      rw [hfloor]
      push_cast
      ring
    have hodd : ¬(n - 1) % 2 = 0 := by
      obtain ⟨m, rfl⟩ := hn
      omega
    have hhalf : roundHalfEven ((n : ℚ) - 1 / 2) = n := by
      rw [roundHalfEven, hfraction, if_neg (lt_irrefl _), if_neg (lt_irrefl _), hfloor, if_neg hodd]
      omega
    exact hhalf.symm.le.trans (roundHalfEven_mono h)

/-- Rounding reaches a value with an even last digit from half a place below it. -/
theorem le_ofPrecision_iff (hdigits : 1 ≤ digits) {n k : ℤ} (hn : Even n) (hlow : 10 ^ (digits - 1) < n)
    (hhigh : n < 10 ^ digits) (h : 0 < value) :
    (n : ℚ) * 10 ^ k ≤ (ofPrecision digits).round value ↔ ((n : ℚ) - 1 / 2) * 10 ^ k ≤ value := by
  have hplace : (0 : ℚ) < 10 ^ k := by positivity
  have hlowCast : ((10 : ℚ) ^ (digits - 1)) + 1 ≤ n := by exact_mod_cast hlow
  have hhighCast : (n : ℚ) < 10 ^ digits := by exact_mod_cast hhigh
  have hself : (10 : ℚ) ^ Int.log 10 |value| ≤ value := by
    have hle := Int.zpow_log_le_self (b := 10) (by norm_num) (abs_pos.mpr h.ne')
    rw [abs_of_pos h] at hle ⊢
    exact_mod_cast hle
  have hsucc : value < (10 : ℚ) ^ (Int.log 10 |value| + 1) := by
    have hlt := Int.lt_zpow_succ_log_self (b := 10) (by norm_num) |value|
    rw [abs_of_pos h] at hlt ⊢
    exact_mod_cast hlt
  rcases lt_trichotomy (Int.log 10 |value| + 1 - digits) k with hbelow | hsame | habove
  · -- the value and what it rounds to lie below the first value with this last place
    have hpower : (10 : ℚ) ^ (Int.log 10 |value| + 1) ≤ 10 ^ (digits - 1) * 10 ^ k := by
      rw [← zpow_natCast, ← zpow_add₀ (by norm_num)]
      exact zpow_le_zpow_right₀ (by norm_num) (by omega)
    have hrounded := @ofPrecision_le_pow digits value h
    have hfirst : (10 : ℚ) ^ (digits - 1) * 10 ^ k < (n - 1 / 2) * 10 ^ k :=
      mul_lt_mul_of_pos_right (by linarith) hplace
    have hlast : ((n : ℚ) - 1 / 2) * 10 ^ k < n * 10 ^ k := mul_lt_mul_of_pos_right (by linarith) hplace
    constructor
    · intro hle
      linarith
    · intro hle
      linarith
  · have hround : (ofPrecision digits).round value = roundHalfEven (value / 10 ^ k) * 10 ^ k := by
      unfold ofPrecision lastPlace
      dsimp only
      rw [if_neg h.ne', hsame]
    rw [hround, mul_le_mul_iff_of_pos_right hplace, ← le_div_iff₀ hplace, ← le_roundHalfEven_iff hn]
    exact Int.cast_le
  · have hpower : (n : ℚ) * 10 ^ k ≤ 10 ^ Int.log 10 |value| := by
      refine (mul_le_mul_of_nonneg_right hhighCast.le hplace.le).trans ?_
      rw [← zpow_natCast, ← zpow_add₀ (by norm_num)]
      exact zpow_le_zpow_right₀ (by norm_num) (by omega)
    have hhalf : ((n : ℚ) - 1 / 2) * 10 ^ k ≤ n * 10 ^ k := mul_le_mul_of_nonneg_right (by linarith) hplace.le
    exact iff_of_true (hpower.trans (pow_le_ofPrecision hdigits h)) ((hhalf.trans hpower).trans hself)

/-- The square root, rounded to the nearest value of `digits` significant digits. -/
def sqrt (digits : ℕ) (value : ℚ) : ℚ :=
  if value ≤ 0 then 0
  else
    let place : ℚ := 10 ^ (Int.log 10 value / 2 + 1 - digits)
    let scaled := value / place ^ 2
    let root := Nat.sqrt ⌊scaled⌋₊
    let middle : ℚ := (root + 1 / 2) ^ 2
    (if scaled < middle then root else if middle < scaled then root + 1
      else if root % 2 = 0 then root else root + 1 : ℕ) * place

theorem sqrt_nonneg : 0 ≤ sqrt digits value := by
  unfold sqrt
  split
  · exact le_rfl
  · dsimp only
    positivity

end DecimalContext
