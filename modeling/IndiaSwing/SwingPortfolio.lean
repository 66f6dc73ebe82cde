import Mathlib.Data.Rat.Floor
import IndiaSwing.Lib.UnitBudget
import IndiaSwing.Timestamps

namespace IndiaSwing

structure SwingPortfolioSizingError where
  message : String
  deriving DecidableEq, Repr

/-- `_floor_units`: the whole units of an amount, none of a non-positive one. -/
def floorUnits (value : ℚ) : ℕ := if value ≤ 0 then 0 else ⌊value⌋.toNat

theorem floorUnits_eq_floor (value : ℚ) : floorUnits value = ⌊value⌋₊ := by
  unfold floorUnits
  split
  next h => exact (Nat.floor_of_nonpos h).symm
  next => rw [Int.floor_toNat]

theorem floorUnits_div (budget unit : ℚ) : floorUnits (budget / unit) = UnitBudget.units budget unit :=
  floorUnits_eq_floor _

/-- The aggregate portfolio a sizing run starts from, with the checks of its constructor. -/
@[ext] structure SwingPortfolioSnapshot where
  capital : ℚ
  cashAvailable : ℚ
  grossExposure : ℚ
  openRisk : ℚ
  openPositions : ℕ
  dailyRealizedPnl : ℚ
  pilotRealizedPnl : ℚ
  asOf : Instant
  capital_pos : 0 < capital
  cash_nonneg : 0 ≤ cashAvailable
  gross_nonneg : 0 ≤ grossExposure
  risk_nonneg : 0 ≤ openRisk
  cash_add_gross_le : cashAvailable + grossExposure ≤ capital
  risk_le : openRisk ≤ capital
  deriving Repr

instance : DecidableEq SwingPortfolioSnapshot := fun _ _ => decidable_of_iff _ SwingPortfolioSnapshot.ext_iff.symm

/-- Sizing fractions are in `(0, 1]`. -/
def IsFraction (value : ℚ) : Prop := 0 < value ∧ value ≤ 1

instance (value : ℚ) : Decidable (IsFraction value) := inferInstanceAs (Decidable (_ ∧ _))

@[ext] structure SwingPortfolioSizingPolicy where
  perTradeRiskFraction : ℚ
  maximumTotalOpenRiskFraction : ℚ
  maximumPositionNotionalFraction : ℚ
  maximumGrossExposureFraction : ℚ
  maximumDailyTurnoverParticipation : ℚ
  maximumTopAskParticipation : ℚ
  maximumDailyLossFraction : ℚ
  maximumPilotDrawdownFraction : ℚ
  minimumNetRewardRisk : ℚ
  maximumOpenPositions : ℕ
  maximumNewPositionsPerRun : ℕ
  perTradeRisk_fraction : IsFraction perTradeRiskFraction
  totalOpenRisk_fraction : IsFraction maximumTotalOpenRiskFraction
  positionNotional_fraction : IsFraction maximumPositionNotionalFraction
  grossExposure_fraction : IsFraction maximumGrossExposureFraction
  dailyTurnover_fraction : IsFraction maximumDailyTurnoverParticipation
  topAsk_fraction : IsFraction maximumTopAskParticipation
  dailyLoss_fraction : IsFraction maximumDailyLossFraction
  pilotDrawdown_fraction : IsFraction maximumPilotDrawdownFraction
  minimumNetRewardRisk_pos : 0 < minimumNetRewardRisk
  openPositions_pos : 0 < maximumOpenPositions
  newPositions_pos : 0 < maximumNewPositionsPerRun
  newPositions_le : maximumNewPositionsPerRun ≤ maximumOpenPositions
  perTradeRisk_le : perTradeRiskFraction ≤ maximumTotalOpenRiskFraction
  positionNotional_le : maximumPositionNotionalFraction ≤ maximumGrossExposureFraction
  dailyLoss_le : maximumDailyLossFraction ≤ maximumPilotDrawdownFraction
  deriving Repr

instance : DecidableEq SwingPortfolioSizingPolicy := fun _ _ => decidable_of_iff _ SwingPortfolioSizingPolicy.ext_iff.symm

/-- The policy that a run uses when it is given none. -/
def SwingPortfolioSizingPolicy.default : SwingPortfolioSizingPolicy where
  perTradeRiskFraction := 5 / 1000
  maximumTotalOpenRiskFraction := 2 / 100
  maximumPositionNotionalFraction := 25 / 100
  maximumGrossExposureFraction := 80 / 100
  maximumDailyTurnoverParticipation := 25 / 10000
  maximumTopAskParticipation := 20 / 100
  maximumDailyLossFraction := 1 / 100
  maximumPilotDrawdownFraction := 2 / 100
  minimumNetRewardRisk := 250 / 100
  maximumOpenPositions := 4
  maximumNewPositionsPerRun := 1
  perTradeRisk_fraction := by decide +kernel
  totalOpenRisk_fraction := by decide +kernel
  positionNotional_fraction := by decide +kernel
  grossExposure_fraction := by decide +kernel
  dailyTurnover_fraction := by decide +kernel
  topAsk_fraction := by decide +kernel
  dailyLoss_fraction := by decide +kernel
  pilotDrawdown_fraction := by decide +kernel
  minimumNetRewardRisk_pos := by decide +kernel
  openPositions_pos := by decide
  newPositions_pos := by decide
  newPositions_le := by decide
  perTradeRisk_le := by decide +kernel
  positionNotional_le := by decide +kernel
  dailyLoss_le := by decide +kernel

end IndiaSwing
