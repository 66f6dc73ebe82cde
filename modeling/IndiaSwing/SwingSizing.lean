import IndiaSwing.Lib.ExceptFold
import IndiaSwing.Lib.ExceptGuards
import IndiaSwing.Quotes
import IndiaSwing.SwingPortfolio

namespace IndiaSwing

open ExceptGuards (raiseIf)

@[ext] structure SwingTradeLevels where
  entryLow : ℚ
  entryHigh : ℚ
  stop : ℚ
  target : ℚ
  estimatedCostBps : ℚ
  entryLow_pos : 0 < entryLow
  entryHigh_pos : 0 < entryHigh
  stop_pos : 0 < stop
  target_pos : 0 < target
  cost_nonneg : 0 ≤ estimatedCostBps
  deriving Repr

instance : DecidableEq SwingTradeLevels := fun _ _ => decidable_of_iff _ SwingTradeLevels.ext_iff.symm

namespace SwingTradeLevels

variable (levels : SwingTradeLevels)

def costPerShare : ℚ := levels.entryHigh * levels.estimatedCostBps / 10000

def lossPerShare : ℚ := levels.entryHigh - levels.stop + levels.costPerShare

def rewardPerShare : ℚ := levels.target - levels.entryHigh - levels.costPerShare

theorem costPerShare_nonneg : 0 ≤ levels.costPerShare :=
  div_nonneg (mul_nonneg levels.entryHigh_pos.le levels.cost_nonneg) (by norm_num)

theorem entry_add_cost_pos : 0 < levels.entryHigh + levels.costPerShare :=
  add_pos_of_pos_of_nonneg levels.entryHigh_pos levels.costPerShare_nonneg

end SwingTradeLevels

/-- The part of a quote-gate outcome that ranking and sizing read. -/
@[ext] structure SwingQuoteGateOutcome where
  symbol : String
  medianTradedValue : ℚ
  quote : KiteFullQuote
  quoteAdjustedLevels : Option SwingTradeLevels
  medianTradedValue_nonneg : 0 ≤ medianTradedValue
  deriving Repr

instance : DecidableEq SwingQuoteGateOutcome := fun _ _ => decidable_of_iff _ SwingQuoteGateOutcome.ext_iff.symm

@[ext] structure SwingRankedOpportunity where
  quoteGateOutcome : SwingQuoteGateOutcome
  rank : ℕ
  rank_pos : 0 < rank
  deriving Repr

instance : DecidableEq SwingRankedOpportunity := fun _ _ => decidable_of_iff _ SwingRankedOpportunity.ext_iff.symm

structure SwingOpportunityRankingBatch where
  rankedOpportunities : List SwingRankedOpportunity
  vetoedOutcomes : List SwingQuoteGateOutcome
  evaluatedAt : Instant
  deriving DecidableEq, Repr

inductive SwingSizingDisposition
  | sized
  | veto
  deriving DecidableEq, Repr

inductive SwingSizingReason
  | dailyLossHalt
  | pilotDrawdownHalt
  | maxOpenPositionsReached
  | maxNewPositionsPerRunReached
  | perTradeRiskTooSmall
  | totalOpenRiskExhausted
  | positionNotionalCapTooSmall
  | grossExposureExhausted
  | cashExhausted
  | liquidityCapTooSmall
  | askDepthCapTooSmall
  | netRewardRiskBelowMinimum
  deriving DecidableEq, Repr

/-- The reasons in the order of their texts, so that a filtered list is `sorted(set(...))`. -/
def SwingSizingReason.sortedValues : List SwingSizingReason :=
  [.askDepthCapTooSmall, .cashExhausted, .dailyLossHalt, .grossExposureExhausted,
    .liquidityCapTooSmall, .maxNewPositionsPerRunReached, .maxOpenPositionsReached,
    .netRewardRiskBelowMinimum, .perTradeRiskTooSmall, .pilotDrawdownHalt,
    .positionNotionalCapTooSmall, .totalOpenRiskExhausted]

theorem SwingSizingReason.mem_sortedValues (reason : SwingSizingReason) :
    reason ∈ sortedValues := by
  cases reason <;> decide

@[ext] structure SwingCapitalAllocationState where
  cashAvailable : ℚ
  grossExposure : ℚ
  openRisk : ℚ
  openPositions : ℕ
  cash_nonneg : 0 ≤ cashAvailable
  gross_nonneg : 0 ≤ grossExposure
  risk_nonneg : 0 ≤ openRisk
  deriving Repr

instance : DecidableEq SwingCapitalAllocationState := fun _ _ => decidable_of_iff _ SwingCapitalAllocationState.ext_iff.symm

def SwingCapitalAllocationState.create (cashAvailable grossExposure openRisk : ℚ)
    (openPositions : ℕ) : Except SwingPortfolioSizingError SwingCapitalAllocationState :=
  if h : 0 ≤ cashAvailable ∧ 0 ≤ grossExposure ∧ 0 ≤ openRisk then
    .ok ⟨cashAvailable, grossExposure, openRisk, openPositions, h.1, h.2.1, h.2.2⟩
  else
    .error ⟨"allocation state values must be non-negative"⟩

def initialState (portfolio : SwingPortfolioSnapshot) : SwingCapitalAllocationState where
  cashAvailable := portfolio.cashAvailable
  grossExposure := portfolio.grossExposure
  openRisk := portfolio.openRisk
  openPositions := portfolio.openPositions
  cash_nonneg := portfolio.cash_nonneg
  gross_nonneg := portfolio.gross_nonneg
  risk_nonneg := portfolio.risk_nonneg

def topAskQuantity (outcome : SwingQuoteGateOutcome) : Except SwingPortfolioSizingError ℕ :=
  match outcome.quote.bestAsk with
  | none => .error ⟨"passing outcome has no best ask"⟩
  | some bestAsk =>
    match outcome.quote.depthSell.find? (·.price = bestAsk) with
    | some level => .ok level.quantity
    | none => .error ⟨"passing outcome has no bound best-ask depth"⟩

/-- The floor-divided caps on the quantity of one opportunity, with the amounts they divide. -/
structure SizingCaps where
  perTradeBudget : ℚ
  remainingOpenRisk : ℚ
  riskQuantity : ℕ
  positionQuantity : ℕ
  grossQuantity : ℕ
  cashQuantity : ℕ
  liquidityQuantity : ℕ
  askQuantityCap : ℕ
  deriving DecidableEq, Repr

def SizingCaps.quantity (caps : SizingCaps) : ℕ :=
  min caps.riskQuantity (min caps.positionQuantity (min caps.grossQuantity
    (min caps.cashQuantity (min caps.liquidityQuantity caps.askQuantityCap))))

section Evaluation

variable (portfolio : SwingPortfolioSnapshot) (policy : SwingPortfolioSizingPolicy)
variable (stateBefore : SwingCapitalAllocationState)

def sizingCaps (levels : SwingTradeLevels) (medianTradedValue : ℚ) (askQuantity : ℕ) : SizingCaps :=
  let perTradeBudget := portfolio.capital * policy.perTradeRiskFraction
  let maximumOpenRisk := portfolio.capital * policy.maximumTotalOpenRiskFraction
  let maximumPositionNotional := portfolio.capital * policy.maximumPositionNotionalFraction
  let maximumGrossExposure := portfolio.capital * policy.maximumGrossExposureFraction
  let remainingOpenRisk := max 0 (maximumOpenRisk - stateBefore.openRisk)
  let remainingGrossExposure := max 0 (maximumGrossExposure - stateBefore.grossExposure)
  let historicalLiquidityNotional := medianTradedValue * policy.maximumDailyTurnoverParticipation
  { perTradeBudget
    remainingOpenRisk
    riskQuantity := floorUnits (min perTradeBudget remainingOpenRisk / levels.lossPerShare)
    positionQuantity := floorUnits (maximumPositionNotional / levels.entryHigh)
    grossQuantity := floorUnits (remainingGrossExposure / levels.entryHigh)
    cashQuantity := floorUnits
      (stateBefore.cashAvailable / (levels.entryHigh + levels.costPerShare))
    liquidityQuantity := floorUnits (historicalLiquidityNotional / levels.entryHigh)
    askQuantityCap := floorUnits (askQuantity * policy.maximumTopAskParticipation) }

/-- The test that adds each reason code. -/
def sizingReasonHolds (levels : SwingTradeLevels) (caps : SizingCaps) : SwingSizingReason → Bool
  | .dailyLossHalt =>
    portfolio.dailyRealizedPnl ≤ -(portfolio.capital * policy.maximumDailyLossFraction)
  | .pilotDrawdownHalt =>
    portfolio.pilotRealizedPnl ≤ -(portfolio.capital * policy.maximumPilotDrawdownFraction)
  | .maxOpenPositionsReached => policy.maximumOpenPositions ≤ stateBefore.openPositions
  | .maxNewPositionsPerRunReached =>
    (policy.maximumNewPositionsPerRun : ℤ) ≤ stateBefore.openPositions - portfolio.openPositions
  | .netRewardRiskBelowMinimum =>
    levels.rewardPerShare / levels.lossPerShare < policy.minimumNetRewardRisk
  | .perTradeRiskTooSmall => floorUnits (caps.perTradeBudget / levels.lossPerShare) < 1
  | .totalOpenRiskExhausted => floorUnits (caps.remainingOpenRisk / levels.lossPerShare) < 1
  | .positionNotionalCapTooSmall => caps.positionQuantity < 1
  | .grossExposureExhausted => caps.grossQuantity < 1
  | .cashExhausted => caps.cashQuantity < 1
  | .liquidityCapTooSmall => caps.liquidityQuantity < 1
  | .askDepthCapTooSmall => caps.askQuantityCap < 1

def sizingReasons (levels : SwingTradeLevels) (caps : SizingCaps) : List SwingSizingReason :=
  SwingSizingReason.sortedValues.filter (sizingReasonHolds portfolio policy stateBefore levels caps)

/-- What `_evaluate_sizing` returns. -/
structure SizingEvaluation where
  disposition : SwingSizingDisposition
  reasons : List SwingSizingReason
  quantity : ℕ
  notional : ℚ
  cost : ℚ
  loss : ℚ
  stateAfter : SwingCapitalAllocationState
  deriving DecidableEq, Repr

def evaluateSizing (opportunity : SwingRankedOpportunity) :
    Except SwingPortfolioSizingError SizingEvaluation := do
  let outcome := opportunity.quoteGateOutcome
  let some levels := outcome.quoteAdjustedLevels
    | throw ⟨"ranked opportunity lacks quote-adjusted levels"⟩
  raiseIf (levels.lossPerShare ≤ 0 ∨ levels.rewardPerShare ≤ 0)
    ⟨"ranked opportunity has invalid risk/reward"⟩
  let askQuantity ← topAskQuantity outcome
  let caps := sizingCaps portfolio policy stateBefore levels outcome.medianTradedValue askQuantity
  let reasons := sizingReasons portfolio policy stateBefore levels caps
  if reasons ≠ [] ∨ caps.quantity < 1 then
    raiseIf (caps.quantity < 1 ∧ reasons = []) ⟨"sizing produced an unexplained zero quantity"⟩
    return ⟨.veto, reasons, 0, 0, 0, 0, stateBefore⟩
  let entryNotional := levels.entryHigh * caps.quantity
  let estimatedCost := levels.costPerShare * caps.quantity
  let plannedMaxLoss := levels.lossPerShare * caps.quantity
  let stateAfter ← SwingCapitalAllocationState.create
    (stateBefore.cashAvailable - entryNotional - estimatedCost)
    (stateBefore.grossExposure + entryNotional)
    (stateBefore.openRisk + plannedMaxLoss)
    (stateBefore.openPositions + 1)
  return ⟨.sized, [], caps.quantity, entryNotional, estimatedCost, plannedMaxLoss, stateAfter⟩

end Evaluation

end IndiaSwing

namespace IndiaSwing

open ExceptGuards

variable {portfolio : SwingPortfolioSnapshot} {policy : SwingPortfolioSizingPolicy}
variable {state : SwingCapitalAllocationState} {opportunity : SwingRankedOpportunity}
variable {levels : SwingTradeLevels} {caps : SizingCaps}

/-- The errors of `evaluateSizing` that an opportunity itself can cause. -/
def opportunityErrors : List SwingPortfolioSizingError :=
  [⟨"ranked opportunity lacks quote-adjusted levels"⟩,
    ⟨"ranked opportunity has invalid risk/reward"⟩, ⟨"passing outcome has no best ask"⟩]

theorem topAskQuantity_error {outcome : SwingQuoteGateOutcome} {e : SwingPortfolioSizingError}
    (h : topAskQuantity outcome = .error e) :
    outcome.quote.bestAsk = none ∧ e = ⟨"passing outcome has no best ask"⟩ := by
  unfold topAskQuantity at h
  split at h
  next hnone => exact ⟨hnone, (Except.error.inj h).symm⟩
  next bestAsk hask =>
    obtain ⟨level, hlevel⟩ := firstPositivePrice_find hask
    simp [hlevel] at h

theorem sizingReasons_eq_nil :
    sizingReasons portfolio policy state levels caps = [] ↔
      ∀ reason, sizingReasonHolds portfolio policy state levels caps reason = false := by
  simp [sizingReasons, List.filter_eq_nil_iff, SwingSizingReason.mem_sortedValues]

/-- What a sized opportunity does to the state. -/
structure SizedFrom (portfolio : SwingPortfolioSnapshot) (policy : SwingPortfolioSizingPolicy)
    (state : SwingCapitalAllocationState) (levels : SwingTradeLevels) (caps : SizingCaps)
    (result : SizingEvaluation) : Prop where
  disposition : result.disposition = .sized
  reasons : result.reasons = []
  unreasoned : sizingReasons portfolio policy state levels caps = []
  quantity : result.quantity = caps.quantity
  quantity_pos : 0 < result.quantity
  notional : result.notional = levels.entryHigh * result.quantity
  cost : result.cost = levels.costPerShare * result.quantity
  loss : result.loss = levels.lossPerShare * result.quantity
  cashAfter : result.stateAfter.cashAvailable = state.cashAvailable - result.notional - result.cost
  grossAfter : result.stateAfter.grossExposure = state.grossExposure + result.notional
  riskAfter : result.stateAfter.openRisk = state.openRisk + result.loss
  positionsAfter : result.stateAfter.openPositions = state.openPositions + 1

/-- A veto carries at least one reason and leaves the state as it was. -/
structure VetoedFrom (state : SwingCapitalAllocationState) (result : SizingEvaluation) : Prop where
  disposition : result.disposition = .veto
  reasons : result.reasons ≠ []
  sorted : ∃ holds, result.reasons = SwingSizingReason.sortedValues.filter holds
  quantity : result.quantity = 0
  notional : result.notional = 0
  cost : result.cost = 0
  loss : result.loss = 0
  stateAfter : result.stateAfter = state

section Caps

variable {medianTradedValue : ℚ} {ask : ℕ}

theorem sizingCaps_riskQuantity (hloss : 0 < levels.lossPerShare) :
    (sizingCaps portfolio policy state levels medianTradedValue ask).riskQuantity =
      min (UnitBudget.units (portfolio.capital * policy.perTradeRiskFraction) levels.lossPerShare)
        (UnitBudget.units (UnitBudget.remaining
          (portfolio.capital * policy.maximumTotalOpenRiskFraction) state.openRisk)
          levels.lossPerShare) := by
  simp only [sizingCaps, floorUnits_div, UnitBudget.units_min hloss, UnitBudget.remaining]

theorem sizingCaps_grossQuantity :
    (sizingCaps portfolio policy state levels medianTradedValue ask).grossQuantity =
      UnitBudget.units (UnitBudget.remaining
        (portfolio.capital * policy.maximumGrossExposureFraction) state.grossExposure)
        levels.entryHigh :=
  floorUnits_div _ _

theorem sizingCaps_cashQuantity :
    (sizingCaps portfolio policy state levels medianTradedValue ask).cashQuantity =
      UnitBudget.units state.cashAvailable (levels.entryHigh + levels.costPerShare) :=
  floorUnits_div _ _

end Caps

theorem SizingCaps.quantity_le_risk : caps.quantity ≤ caps.riskQuantity := min_le_left _ _

theorem SizingCaps.quantity_le_gross : caps.quantity ≤ caps.grossQuantity := by
  simp only [SizingCaps.quantity, min_le_iff, le_refl, true_or, or_true]

theorem SizingCaps.quantity_le_cash : caps.quantity ≤ caps.cashQuantity := by
  simp only [SizingCaps.quantity, min_le_iff, le_refl, true_or, or_true]

/-- A zero quantity always has a reason: the floor of the smaller risk budget is the smaller of
the two floors that the risk reasons test. -/
theorem sizingCaps_quantity_pos {medianTradedValue : ℚ} {ask : ℕ} (hloss : 0 < levels.lossPerShare)
    (hcaps : caps = sizingCaps portfolio policy state levels medianTradedValue ask)
    (h : sizingReasons portfolio policy state levels caps = []) : 0 < caps.quantity := by
  have hno := sizingReasons_eq_nil.mp h
  have hrisk := hno .perTradeRiskTooSmall
  have hopen := hno .totalOpenRiskExhausted
  have hposition := hno .positionNotionalCapTooSmall
  have hgross := hno .grossExposureExhausted
  have hcash := hno .cashExhausted
  have hliquidity := hno .liquidityCapTooSmall
  have hask := hno .askDepthCapTooSmall
  simp only [sizingReasonHolds, decide_eq_false_iff_not, not_lt]
    at hrisk hopen hposition hgross hcash hliquidity hask
  have hboth : 1 ≤ caps.riskQuantity := by
    rw [floorUnits_div] at hrisk hopen
    rw [hcaps] at hrisk hopen ⊢
    rw [sizingCaps_riskQuantity hloss]
    exact le_min hrisk hopen
  exact le_min hboth (le_min hposition (le_min hgross (le_min hcash (le_min hliquidity hask))))

/-- The values of a sized state pass the checks of its constructor. -/
theorem sizedState_nonneg {medianTradedValue : ℚ} {ask : ℕ} (hloss : 0 < levels.lossPerShare)
    (hcaps : caps = sizingCaps portfolio policy state levels medianTradedValue ask)
    (hquantity : 0 < caps.quantity) :
    0 ≤ state.cashAvailable - levels.entryHigh * caps.quantity - levels.costPerShare * caps.quantity ∧
      0 ≤ state.grossExposure + levels.entryHigh * caps.quantity ∧
      0 ≤ state.openRisk + levels.lossPerShare * caps.quantity := by
  have hcash : caps.quantity ≤ UnitBudget.units state.cashAvailable
      (levels.entryHigh + levels.costPerShare) := by
    rw [← sizingCaps_cashQuantity, ← hcaps]
    exact caps.quantity_le_cash
  have hspent := UnitBudget.spend_le levels.entry_add_cost_pos hquantity.ne' hcash
  have hnotional : 0 ≤ levels.entryHigh * caps.quantity :=
    mul_nonneg levels.entryHigh_pos.le (Nat.cast_nonneg _)
  have hrisk : 0 ≤ levels.lossPerShare * caps.quantity := mul_nonneg hloss.le (Nat.cast_nonneg _)
  exact ⟨by linarith, add_nonneg state.gross_nonneg hnotional, add_nonneg state.risk_nonneg hrisk⟩

/-- An opportunity with levels, a positive loss and reward, and a best ask is always decided. -/
theorem evaluateSizing_decided {ask : ℕ}
    (hlevels : opportunity.quoteGateOutcome.quoteAdjustedLevels = some levels)
    (hloss : 0 < levels.lossPerShare) (hreward : 0 < levels.rewardPerShare)
    (hask : topAskQuantity opportunity.quoteGateOutcome = .ok ask)
    (hcaps : caps = sizingCaps portfolio policy state levels
      opportunity.quoteGateOutcome.medianTradedValue ask) :
    ∃ result, evaluateSizing portfolio policy state opportunity = .ok result ∧
      (VetoedFrom state result ∨ SizedFrom portfolio policy state levels caps result) := by
  have hvalid : ¬(levels.lossPerShare ≤ 0 ∨ levels.rewardPerShare ≤ 0) := by
    simp only [not_or, not_le]; exact ⟨hloss, hreward⟩
  by_cases hreasons : sizingReasons portfolio policy state levels caps = []
  · have hquantity := sizingCaps_quantity_pos hloss hcaps hreasons
    have hcreate := sizedState_nonneg hloss hcaps hquantity
    have hone : ¬(caps.quantity < 1) := by omega
    refine ⟨⟨.sized, [], caps.quantity, levels.entryHigh * caps.quantity,
      levels.costPerShare * caps.quantity, levels.lossPerShare * caps.quantity,
      ⟨_, _, _, state.openPositions + 1, hcreate.1, hcreate.2.1, hcreate.2.2⟩⟩, ?_, .inr ?_⟩
    · simp only [evaluateSizing, hlevels, hvalid, hask, ← hcaps, hreasons, hone, hcreate,
        SwingCapitalAllocationState.create, raiseIf_false, ok_bind, pure_eq_ok, ne_eq,
        not_true_eq_false, or_self, and_self, if_false, dite_true]
    · constructor <;> first | rfl | assumption
  · refine ⟨⟨.veto, sizingReasons portfolio policy state levels caps, 0, 0, 0, 0, state⟩, ?_,
      .inl ⟨rfl, hreasons, ⟨_, rfl⟩, rfl, rfl, rfl, rfl, rfl⟩⟩
    simp only [evaluateSizing, hlevels, hvalid, hask, ← hcaps, hreasons, raiseIf_false, ok_bind,
      pure_eq_ok, ne_eq, not_false_eq_true, true_or, and_false, if_true]

/-- The opportunities that sizing decides instead of refusing them. -/
def SwingRankedOpportunity.Sizable (opportunity : SwingRankedOpportunity) : Prop :=
  ∃ levels, opportunity.quoteGateOutcome.quoteAdjustedLevels = some levels ∧
    0 < levels.lossPerShare ∧ 0 < levels.rewardPerShare ∧
    opportunity.quoteGateOutcome.quote.bestAsk ≠ none

theorem evaluateSizing_error {e : SwingPortfolioSizingError}
    (h : evaluateSizing portfolio policy state opportunity = .error e) :
    e ∈ opportunityErrors ∧ ¬ opportunity.Sizable := by
  cases hlevels : opportunity.quoteGateOutcome.quoteAdjustedLevels with
  | none =>
    simp only [evaluateSizing, hlevels, throw_eq_error, Except.error.injEq] at h
    refine ⟨by simp [opportunityErrors, ← h], ?_⟩
    rintro ⟨levels, hsome, -⟩
    rw [hlevels] at hsome
    cases hsome
  | some levels =>
    by_cases hvalid : levels.lossPerShare ≤ 0 ∨ levels.rewardPerShare ≤ 0
    · simp only [evaluateSizing, hlevels, hvalid, raiseIf_true, error_bind, Except.error.injEq] at h
      refine ⟨by simp [opportunityErrors, ← h], ?_⟩
      rintro ⟨levels', hsome, hloss, hreward, -⟩
      obtain rfl := Option.some.inj (hlevels.symm.trans hsome)
      rcases hvalid with hl | hr
      · exact absurd hloss (not_lt.mpr hl)
      · exact absurd hreward (not_lt.mpr hr)
    · cases hask : topAskQuantity opportunity.quoteGateOutcome with
      | error e' =>
        obtain ⟨hnone, rfl⟩ := topAskQuantity_error hask
        simp only [evaluateSizing, hlevels, hvalid, hask, raiseIf_false, ok_bind, error_bind,
          Except.error.injEq] at h
        refine ⟨by simp [opportunityErrors, ← h], ?_⟩
        rintro ⟨-, -, -, -, hbest⟩
        exact hbest hnone
      | ok ask =>
        simp only [not_or, not_le] at hvalid
        obtain ⟨result, hok, -⟩ := evaluateSizing_decided
          hlevels hvalid.1 hvalid.2 hask rfl
        rw [hok] at h
        cases h

/-- What `evaluateSizing` can return: a veto, or a sized step under the caps of its levels. -/
theorem evaluateSizing_ok {result : SizingEvaluation}
    (h : evaluateSizing portfolio policy state opportunity = .ok result) :
    ∃ levels ask, opportunity.quoteGateOutcome.quoteAdjustedLevels = some levels ∧
      0 < levels.lossPerShare ∧ (VetoedFrom state result ∨
        SizedFrom portfolio policy state levels (sizingCaps portfolio policy state levels
          opportunity.quoteGateOutcome.medianTradedValue ask) result) := by
  cases hlevels : opportunity.quoteGateOutcome.quoteAdjustedLevels with
  | none => simp [evaluateSizing, hlevels, throw_eq_error] at h
  | some levels =>
    by_cases hvalid : levels.lossPerShare ≤ 0 ∨ levels.rewardPerShare ≤ 0
    · simp [evaluateSizing, hlevels, hvalid] at h
    · cases hask : topAskQuantity opportunity.quoteGateOutcome with
      | error e => simp [evaluateSizing, hlevels, hvalid, hask] at h
      | ok ask =>
        simp only [not_or, not_le] at hvalid
        obtain ⟨result', hok, hstep⟩ := evaluateSizing_decided
          hlevels hvalid.1 hvalid.2 hask rfl
        obtain rfl := Except.ok.inj (hok.symm.trans h)
        exact ⟨levels, ask, rfl, hvalid.1, hstep⟩

end IndiaSwing
