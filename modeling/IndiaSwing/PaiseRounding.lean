import IndiaSwing.LegacyArchive
import IndiaSwing.Lib.DecimalReach
import Mathlib.Tactic.NormNum

namespace IndiaSwing

namespace LegacyArchive

variable {digits m : ℕ} {quotient : ℚ}

/-- The amount halfway between so many paise and the next. -/
def halfPaisa (m : ℕ) : ℚ := (2 * m + 1) / 200

/-- From where a quotient of so many digits is rounded up to half a paisa. -/
def reach (digits m : ℕ) : ℚ := halfPaisa m - 5 * 10 ^ (Int.log 10 (halfPaisa m) - digits)

/-- A quotient just below half a paisa: 28 digits round it up to that, 50 do not. -/
def ReachesEarly (quotient : ℚ) : Prop := ∃ m, reach 28 m ≤ quotient ∧ quotient < reach 50 m

theorem digits_quantizeCents_le {amount : ℚ} (h : amount ≤ maximumDecimal) : (quantizeCents amount).digits ≤ 10 ^ 22 := by
  have hfloor : ⌊amount * 100 + 1 / 2⌋ < (10 ^ 22 + 1 : ℤ) := by
    unfold maximumDecimal at h
    rw [Int.floor_lt]
    push_cast
    linarith
  show ⌊amount * 100 + 1 / 2⌋.toNat ≤ 10 ^ 22
  omega

/-- Rounding keeps a value within the supported range. -/
theorem round_le_maximum {amount : ℚ} (hdigits : 23 ≤ digits) (hpos : 0 ≤ amount) (h : amount ≤ maximumDecimal) :
    (DecimalContext.ofPrecision digits).round amount ≤ maximumDecimal := by
  have hfits : DecimalContext.Fits digits (((1 : ℤ) : ℚ) * 10 ^ (20 : ℤ)) :=
    DecimalContext.fits_of_decimal (by rw [abs_one]; exact one_lt_pow₀ (by decide) (by omega))
  have hmaximum : ((1 : ℤ) : ℚ) * 10 ^ (20 : ℤ) = maximumDecimal := by
    unfold maximumDecimal
    norm_num
  rw [hmaximum] at hfits
  have hround := DecimalContext.ofPrecision_mono (by omega : 1 ≤ digits) hpos h
  rw [hfits] at hround
  exact hround

theorem halfPaisa_eq (m : ℕ) : halfPaisa m = (5 * (2 * m + 1 : ℕ) : ℚ) * 10 ^ (-3 : ℤ) := by
  unfold halfPaisa
  push_cast
  norm_num
  ring

theorem halfPaisa_pos (m : ℕ) : 0 < halfPaisa m := by
  unfold halfPaisa
  positivity

theorem lt_digits_quantizeCents {amount : ℚ} : m < (quantizeCents amount).digits ↔ halfPaisa m ≤ amount := by
  have hfloor : (m : ℤ) + 1 ≤ ⌊amount * 100 + 1 / 2⌋ ↔ halfPaisa m ≤ amount := by
    unfold halfPaisa
    rw [Int.le_floor]
    push_cast
    constructor <;> intro h <;> linarith
  show m < ⌊amount * 100 + 1 / 2⌋.toNat ↔ _
  rw [← hfloor]
  omega

/-- The paise of a rounded quotient, from the quotient itself. -/
theorem lt_digits_round (hdigits : 28 ≤ digits) (hm : m < 10 ^ 22) (h : 0 < quotient) :
    m < (quantizeCents ((DecimalContext.ofPrecision digits).round quotient)).digits ↔ reach digits m ≤ quotient := by
  have hlog : Int.log 10 (halfPaisa m) < 21 := by
    refine (Int.lt_zpow_iff_log_lt (by norm_num) (halfPaisa_pos m)).mp ?_
    have hcast : (m : ℚ) < 10 ^ 22 := by exact_mod_cast hm
    unfold halfPaisa
    norm_num
    linarith
  rw [lt_digits_quantizeCents]
  unfold reach
  rw [halfPaisa_eq] at hlog ⊢
  exact DecimalContext.five_le_ofPrecision_iff ⟨m, rfl⟩ (by omega) h

theorem reach_le_reach {digits' : ℕ} (h : digits ≤ digits') : reach digits m ≤ reach digits' m := by
  have hpower : (10 : ℚ) ^ (Int.log 10 (halfPaisa m) - digits') ≤ 10 ^ (Int.log 10 (halfPaisa m) - digits) :=
    zpow_le_zpow_right₀ (by norm_num) (by omega)
  unfold reach
  linarith

/-- A quotient within the supported range reaches no half paisa beyond it. -/
theorem lt_of_reach_le (hle : quotient ≤ maximumDecimal) (h : reach 28 m ≤ quotient) : m < 10 ^ 22 := by
  by_contra hm
  have hcast : (10 : ℚ) ^ 22 ≤ m := by exact_mod_cast not_lt.mp hm
  have hself : (10 : ℚ) ^ Int.log 10 (halfPaisa m) ≤ halfPaisa m :=
    Int.zpow_log_le_self (b := 10) (by norm_num) (halfPaisa_pos m)
  have hhalf : (10 : ℚ) ^ 20 + 1 / 200 ≤ halfPaisa m := by
    unfold halfPaisa
    linarith
  unfold reach at h
  rw [zpow_sub₀ (by norm_num)] at h
  unfold maximumDecimal at hle
  norm_num at h
  linarith

/-- Two precisions give the same paise unless the quotient reaches half a paisa early. -/
theorem quantizeCents_eq_iff (hpos : 0 < quotient) (hle : quotient ≤ maximumDecimal) :
    quantizeCents ((DecimalContext.ofPrecision 28).round quotient) =
      quantizeCents ((DecimalContext.ofPrecision 50).round quotient) ↔ ¬ReachesEarly quotient := by
  constructor
  · rintro hsame ⟨m, hreach, hlate⟩
    have hm := lt_of_reach_le hle hreach
    have hdigits := (lt_digits_round (by decide) hm hpos).mpr hreach
    rw [hsame] at hdigits
    exact absurd ((lt_digits_round (by decide) hm hpos).mp hdigits) (not_le.mpr hlate)
  · intro hnot
    have hsame : (quantizeCents ((DecimalContext.ofPrecision 28).round quotient)).digits =
        (quantizeCents ((DecimalContext.ofPrecision 50).round quotient)).digits := by
      refine eq_of_forall_lt_iff fun m => ?_
      by_cases hm : m < 10 ^ 22
      · rw [lt_digits_round (by decide) hm hpos, lt_digits_round (by decide) hm hpos]
        constructor
        · intro hreach
          by_contra hlate
          exact hnot ⟨m, hreach, not_le.mp hlate⟩
        · exact (reach_le_reach (by decide)).trans
      · have hbound : ∀ digits, 23 ≤ digits →
            (quantizeCents ((DecimalContext.ofPrecision digits).round quotient)).digits ≤ 10 ^ 22 := fun digits hdigits =>
          digits_quantizeCents_le (round_le_maximum hdigits hpos.le hle)
        have h28 := hbound 28 (by decide)
        have h50 := hbound 50 (by decide)
        omega
    unfold quantizeCents at hsame ⊢
    rw [PlainDecimal.mk.injEq]
    exact ⟨hsame, rfl⟩

end LegacyArchive

end IndiaSwing
