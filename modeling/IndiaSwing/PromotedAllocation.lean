import Mathlib.Data.String.Basic
import IndiaSwing.Lib.ExceptFold
import IndiaSwing.Lib.SortedTuples
import IndiaSwing.Quotes
import IndiaSwing.SwingPortfolio
import IndiaSwing.TradeIntents

namespace IndiaSwing

open ExceptFold (foldItems)
open ExceptGuards (raiseIf)
open SortedTuples (sorted SortedUnique)

structure PromotedOperationalAllocationError where
  message : String
  deriving DecidableEq, Repr

namespace PromotedOperationalAllocationError

def context : PromotedOperationalAllocationError :=
  ⟨"promoted operational portfolio context is invalid"⟩

def state : PromotedOperationalAllocationError :=
  ⟨"promoted operational allocation state is invalid"⟩

def quote : PromotedOperationalAllocationError :=
  ⟨"promoted operational allocation quote input is invalid"⟩

def outcome : PromotedOperationalAllocationError :=
  ⟨"promoted operational allocation outcome is invalid"⟩

def coverage : PromotedOperationalAllocationError :=
  ⟨"promoted operational allocation coverage is invalid"⟩

def portfolio : PromotedOperationalAllocationError :=
  ⟨"promoted operational allocation portfolio snapshot is invalid"⟩

end PromotedOperationalAllocationError

inductive SwingQuoteGateDisposition
  | pass
  | veto
  deriving DecidableEq, Repr

/-- A quote-gate outcome. A PASS carries the best ask as its reference price, inside the stop,
limit and target of its candidate; a VETO carries none. -/
structure PromotedOperationalQuoteOutcome where
  candidate : PromotedOperationalCandidate
  quote : KiteFullQuote
  disposition : SwingQuoteGateDisposition
  referenceEntryPrice : Option ℚ
  pass_reference : disposition = .pass → quote.bestAsk ≠ none ∧ referenceEntryPrice = quote.bestAsk
  pass_window : disposition = .pass → ∀ ask, quote.bestAsk = some ask →
    ask ≤ candidate.researchIntent.evaluationIntent.entryOrder.limitPrice ∧
      candidate.researchIntent.evaluationIntent.stopPrice < ask ∧
      ask < candidate.researchIntent.evaluationIntent.targetPrice
  veto_reference : disposition = .veto → referenceEntryPrice = none
  deriving DecidableEq

structure VerifiedPromotedOperationalQuoteGateBatch where
  outcomes : List PromotedOperationalQuoteOutcome
  evaluatedAt : Instant
  deriving DecidableEq

/-- `_canonical_listing_keys` -/
def CanonicalListingKeys (keys : List String) : Prop :=
  (∀ key ∈ keys, isListingKey key = true) ∧ SortedUnique keys

instance (keys : List String) : Decidable (CanonicalListingKeys keys) :=
  inferInstanceAs (Decidable (_ ∧ _))

structure PromotedOperationalPortfolioContext where
  portfolio : SwingPortfolioSnapshot
  openListingKeys : List String
  keys_canonical : CanonicalListingKeys openListingKeys
  keys_length : openListingKeys.length = portfolio.openPositions
  deriving DecidableEq

@[ext] structure PromotedOperationalAllocationPolicy where
  policy : SwingPortfolioSizingPolicy
  maximumPortfolioAgeSeconds : ℕ
  age_pos : 0 < maximumPortfolioAgeSeconds

instance : DecidableEq PromotedOperationalAllocationPolicy := fun _ _ => decidable_of_iff _ PromotedOperationalAllocationPolicy.ext_iff.symm

@[ext] structure PromotedOperationalAllocationState where
  cashAvailable : ℚ
  grossExposure : ℚ
  openRisk : ℚ
  openListingKeys : List String
  cash_nonneg : 0 ≤ cashAvailable
  gross_nonneg : 0 ≤ grossExposure
  risk_nonneg : 0 ≤ openRisk
  keys_canonical : CanonicalListingKeys openListingKeys

instance : DecidableEq PromotedOperationalAllocationState := fun _ _ => decidable_of_iff _ PromotedOperationalAllocationState.ext_iff.symm

def PromotedOperationalAllocationState.openPositionCount
    (state : PromotedOperationalAllocationState) : ℕ := state.openListingKeys.length

def PromotedOperationalAllocationState.create (cashAvailable grossExposure openRisk : ℚ)
    (openListingKeys : List String) :
    Except PromotedOperationalAllocationError PromotedOperationalAllocationState :=
  if h : (0 ≤ cashAvailable ∧ 0 ≤ grossExposure ∧ 0 ≤ openRisk) ∧
      CanonicalListingKeys openListingKeys then
    .ok ⟨cashAvailable, grossExposure, openRisk, openListingKeys, h.1.1, h.1.2.1, h.1.2.2, h.2⟩
  else
    .error .state

inductive PromotedOperationalAllocationDisposition
  | allocated
  | veto
  deriving DecidableEq, Repr

inductive PromotedOperationalAllocationReason
  | duplicateOpenListing
  | dailyLossHalt
  | pilotDrawdownHalt
  | maxOpenPositionsReached
  | maxNewPositionsPerRunReached
  | researchLiquidityPolicyTooWide
  | perTradeRiskTooSmall
  | totalOpenRiskExhausted
  | positionNotionalCapTooSmall
  | grossExposureExhausted
  | cashExhausted
  | askDepthCapTooSmall
  | netRewardRiskBelowMinimum
  deriving DecidableEq, Repr

/-- The reasons in the order of their texts. -/
def PromotedOperationalAllocationReason.sortedValues : List PromotedOperationalAllocationReason :=
  [.askDepthCapTooSmall, .cashExhausted, .dailyLossHalt, .duplicateOpenListing,
    .grossExposureExhausted, .maxNewPositionsPerRunReached, .maxOpenPositionsReached,
    .netRewardRiskBelowMinimum, .perTradeRiskTooSmall, .pilotDrawdownHalt,
    .positionNotionalCapTooSmall, .researchLiquidityPolicyTooWide, .totalOpenRiskExhausted]

def promotedTopAskQuantity (quoteOutcome : PromotedOperationalQuoteOutcome) :
    Except PromotedOperationalAllocationError ℕ :=
  match quoteOutcome.quote.bestAsk with
  | none => .error .quote
  | some bestAsk =>
    match quoteOutcome.quote.depthSell.find? (·.price = bestAsk) with
    | some level => .ok level.quantity
    | none => .error .quote

structure AllocationCeilings where
  researchQuantity : ℕ
  perTradeRiskQuantity : ℕ
  totalOpenRiskQuantity : ℕ
  positionNotionalQuantity : ℕ
  grossExposureQuantity : ℕ
  cashQuantity : ℕ
  askDepthQuantity : ℕ
  feasibleQuantity : ℕ
  lossPerShare : ℚ
  rewardPerShare : ℚ
  netRewardRisk : ℚ
  deriving DecidableEq, Repr

/-- What `_evaluate_allocation` returns. -/
structure AllocationEvaluation where
  disposition : PromotedOperationalAllocationDisposition
  reasons : List PromotedOperationalAllocationReason
  quantity : ℕ
  notional : ℚ
  cost : ℚ
  loss : ℚ
  netRewardRisk : ℚ
  stateAfter : PromotedOperationalAllocationState
  deriving DecidableEq

section Evaluation

variable (portfolioContext : PromotedOperationalPortfolioContext)
variable (allocationPolicy : PromotedOperationalAllocationPolicy)
variable (stateBefore : PromotedOperationalAllocationState)

/-- The ceilings at a reference price and a top-of-book quantity. -/
def ceilingsAt (intent : PromotedResearchTradeIntent) (reference : ℚ) (askQuantity : ℕ) :
    AllocationCeilings :=
  let costBuffer := intent.estimatedCostBuffer
  let lossPerShare := reference - intent.evaluationIntent.stopPrice + costBuffer
  let rewardPerShare := intent.evaluationIntent.targetPrice - reference - costBuffer
  let policy := allocationPolicy.policy
  let capital := portfolioContext.portfolio.capital
  let perTradeBudget := capital * policy.perTradeRiskFraction
  let maximumOpenRisk := capital * policy.maximumTotalOpenRiskFraction
  let maximumPositionNotional := capital * policy.maximumPositionNotionalFraction
  let maximumGrossExposure := capital * policy.maximumGrossExposureFraction
  let remainingOpenRisk := max 0 (maximumOpenRisk - stateBefore.openRisk)
  let remainingGrossExposure := max 0 (maximumGrossExposure - stateBefore.grossExposure)
  let researchQuantity := intent.evaluationIntent.entryOrder.quantity
  let perTradeRiskQuantity := floorUnits (perTradeBudget / lossPerShare)
  let totalOpenRiskQuantity := floorUnits (remainingOpenRisk / lossPerShare)
  let positionNotionalQuantity := floorUnits (maximumPositionNotional / reference)
  let grossExposureQuantity := floorUnits (remainingGrossExposure / reference)
  let cashQuantity := floorUnits (stateBefore.cashAvailable / (reference + costBuffer))
  let askDepthQuantity := floorUnits (askQuantity * policy.maximumTopAskParticipation)
  { researchQuantity, perTradeRiskQuantity, totalOpenRiskQuantity, positionNotionalQuantity
    grossExposureQuantity, cashQuantity, askDepthQuantity
    feasibleQuantity := min researchQuantity (min perTradeRiskQuantity (min totalOpenRiskQuantity
      (min positionNotionalQuantity (min grossExposureQuantity (min cashQuantity askDepthQuantity)))))
    lossPerShare, rewardPerShare
    netRewardRisk := rewardPerShare / lossPerShare }

def computeAllocationCeilings (quoteOutcome : PromotedOperationalQuoteOutcome) :
    Except PromotedOperationalAllocationError AllocationCeilings := do
  let intent := quoteOutcome.candidate.researchIntent
  let some reference := quoteOutcome.referenceEntryPrice | throw .quote
  raiseIf (reference - intent.evaluationIntent.stopPrice + intent.estimatedCostBuffer ≤ 0 ∨
    intent.evaluationIntent.targetPrice - reference - intent.estimatedCostBuffer ≤ 0) .quote
  let askQuantity ← promotedTopAskQuantity quoteOutcome
  return ceilingsAt portfolioContext allocationPolicy stateBefore intent reference askQuantity

/-- The test that adds each reason code. -/
def allocationReasonHolds (candidate : PromotedOperationalCandidate) (ceilings : AllocationCeilings) :
    PromotedOperationalAllocationReason → Bool
  | .duplicateOpenListing => candidate.listingKey ∈ stateBefore.openListingKeys
  | .researchLiquidityPolicyTooWide =>
    allocationPolicy.policy.maximumDailyTurnoverParticipation <
      candidate.researchIntent.evaluationIntent.entryOrder.maximumParticipation
  | .dailyLossHalt => portfolioContext.portfolio.dailyRealizedPnl ≤
    -(portfolioContext.portfolio.capital * allocationPolicy.policy.maximumDailyLossFraction)
  | .pilotDrawdownHalt => portfolioContext.portfolio.pilotRealizedPnl ≤
    -(portfolioContext.portfolio.capital * allocationPolicy.policy.maximumPilotDrawdownFraction)
  | .maxOpenPositionsReached =>
    allocationPolicy.policy.maximumOpenPositions ≤ stateBefore.openPositionCount
  | .maxNewPositionsPerRunReached => (allocationPolicy.policy.maximumNewPositionsPerRun : ℤ) ≤
    stateBefore.openPositionCount - portfolioContext.portfolio.openPositions
  | .netRewardRiskBelowMinimum =>
    ceilings.netRewardRisk < allocationPolicy.policy.minimumNetRewardRisk
  | .perTradeRiskTooSmall => ceilings.perTradeRiskQuantity < 1
  | .totalOpenRiskExhausted => ceilings.totalOpenRiskQuantity < 1
  | .positionNotionalCapTooSmall => ceilings.positionNotionalQuantity < 1
  | .grossExposureExhausted => ceilings.grossExposureQuantity < 1
  | .cashExhausted => ceilings.cashQuantity < 1
  | .askDepthCapTooSmall => ceilings.askDepthQuantity < 1

def allocationReasons (candidate : PromotedOperationalCandidate) (ceilings : AllocationCeilings) :
    List PromotedOperationalAllocationReason :=
  PromotedOperationalAllocationReason.sortedValues.filter
    (allocationReasonHolds portfolioContext allocationPolicy stateBefore candidate ceilings)

def evaluateAllocation (quoteOutcome : PromotedOperationalQuoteOutcome) :
    Except PromotedOperationalAllocationError AllocationEvaluation := do
  let candidate := quoteOutcome.candidate
  let ceilings ← computeAllocationCeilings portfolioContext allocationPolicy stateBefore quoteOutcome
  let reasons := allocationReasons portfolioContext allocationPolicy stateBefore candidate ceilings
  let quantity := ceilings.feasibleQuantity
  if reasons ≠ [] ∨ quantity < 1 then
    raiseIf (quantity < 1 ∧ reasons = []) .quote
    return ⟨.veto, reasons, 0, 0, 0, 0, ceilings.netRewardRisk, stateBefore⟩
  let some reference := quoteOutcome.referenceEntryPrice | throw .quote
  let entryNotional := reference * quantity
  let estimatedRoundTripCost := candidate.researchIntent.estimatedCostBuffer * quantity
  let plannedMaxLoss := ceilings.lossPerShare * quantity
  let stateAfter ← PromotedOperationalAllocationState.create
    (stateBefore.cashAvailable - entryNotional - estimatedRoundTripCost)
    (stateBefore.grossExposure + entryNotional)
    (stateBefore.openRisk + plannedMaxLoss)
    (sorted (stateBefore.openListingKeys ++ [candidate.listingKey]))
  return ⟨.allocated, [], quantity, entryNotional, estimatedRoundTripCost, plannedMaxLoss,
    ceilings.netRewardRisk, stateAfter⟩

end Evaluation

end IndiaSwing

namespace IndiaSwing

open ExceptGuards
open SortedTuples (sorted SortedUnique)

variable {portfolioContext : PromotedOperationalPortfolioContext}
variable {allocationPolicy : PromotedOperationalAllocationPolicy}
variable {state : PromotedOperationalAllocationState} {quoteOutcome : PromotedOperationalQuoteOutcome}
variable {candidate : PromotedOperationalCandidate} {ceilings : AllocationCeilings}
variable {intent : PromotedResearchTradeIntent} {reference : ℚ} {ask : ℕ}

theorem promotedTopAskQuantity_ok (h : quoteOutcome.quote.bestAsk ≠ none) :
    ∃ quantity, promotedTopAskQuantity quoteOutcome = .ok quantity := by
  cases hask : quoteOutcome.quote.bestAsk with
  | none => exact absurd hask h
  | some bestAsk =>
    obtain ⟨level, hlevel⟩ := firstPositivePrice_find hask
    exact ⟨level.quantity, by simp [promotedTopAskQuantity, hask, hlevel]⟩

/-- The prices that a PASS hands to the allocation. -/
structure PassPrices (intent : PromotedResearchTradeIntent) (reference : ℚ) : Prop where
  reference_pos : 0 < reference
  loss_pos : 0 < reference - intent.evaluationIntent.stopPrice + intent.estimatedCostBuffer
  reward_pos : 0 < intent.evaluationIntent.targetPrice - reference - intent.estimatedCostBuffer

theorem PassPrices.cash_pos (h : PassPrices intent reference) :
    0 < reference + intent.estimatedCostBuffer := add_pos h.reference_pos intent.buffer_pos

/-- A PASS never fails its ceilings: its ask is between the stop and the limit, where the planned
ratio leaves a reward. -/
theorem computeAllocationCeilings_pass (hpass : quoteOutcome.disposition = .pass) :
    ∃ reference ask, quoteOutcome.referenceEntryPrice = some reference ∧
      PassPrices quoteOutcome.candidate.researchIntent reference ∧
      computeAllocationCeilings portfolioContext allocationPolicy state quoteOutcome =
        .ok (ceilingsAt portfolioContext allocationPolicy state
          quoteOutcome.candidate.researchIntent reference ask) := by
  obtain ⟨hask, href⟩ := quoteOutcome.pass_reference hpass
  obtain ⟨reference, hreference⟩ := Option.ne_none_iff_exists'.mp hask
  obtain ⟨hlimit, hstop, htarget⟩ := quoteOutcome.pass_window hpass reference hreference
  obtain ⟨ask, hquantity⟩ := promotedTopAskQuantity_ok hask
  rw [hreference] at href
  have hbuffer := quoteOutcome.candidate.researchIntent.buffer_pos
  have hreward := quoteOutcome.candidate.researchIntent.reward_pos
  have hprices : PassPrices quoteOutcome.candidate.researchIntent reference :=
    ⟨firstPositivePrice_pos hreference, by linarith, by linarith⟩
  refine ⟨reference, ask, href, hprices, ?_⟩
  have hvalid := not_or.mpr ⟨not_le.mpr hprices.loss_pos, not_le.mpr hprices.reward_pos⟩
  simp only [computeAllocationCeilings, href, hvalid, hquantity, raiseIf_false, ok_bind, pure_eq_ok]

theorem PromotedOperationalAllocationReason.mem_sortedValues
    (reason : PromotedOperationalAllocationReason) : reason ∈ sortedValues := by
  cases reason <;> decide

theorem allocationReasons_eq_nil :
    allocationReasons portfolioContext allocationPolicy state candidate ceilings = [] ↔
      ∀ reason, allocationReasonHolds portfolioContext allocationPolicy state candidate ceilings
        reason = false := by
  simp [allocationReasons, List.filter_eq_nil_iff, PromotedOperationalAllocationReason.mem_sortedValues]

/-- The quantity is at most the research quantity and every named ceiling. -/
structure WithinCeilings (ceilings : AllocationCeilings) (quantity : ℕ) : Prop where
  research : quantity ≤ ceilings.researchQuantity
  perTradeRisk : quantity ≤ ceilings.perTradeRiskQuantity
  totalOpenRisk : quantity ≤ ceilings.totalOpenRiskQuantity
  positionNotional : quantity ≤ ceilings.positionNotionalQuantity
  grossExposure : quantity ≤ ceilings.grossExposureQuantity
  cash : quantity ≤ ceilings.cashQuantity
  askDepth : quantity ≤ ceilings.askDepthQuantity

theorem ceilingsAt_feasible_within :
    WithinCeilings (ceilingsAt portfolioContext allocationPolicy state intent reference ask)
      (ceilingsAt portfolioContext allocationPolicy state intent reference ask).feasibleQuantity := by
  constructor <;> simp only [ceilingsAt, min_le_iff, le_refl, true_or, or_true]

/-- The feasible quantity is the largest one within all the ceilings. -/
theorem le_feasible_of_within {quantity : ℕ}
    (h : WithinCeilings (ceilingsAt portfolioContext allocationPolicy state intent reference ask)
      quantity) :
    quantity ≤ (ceilingsAt portfolioContext allocationPolicy state intent reference
      ask).feasibleQuantity :=
  le_min h.research (le_min h.perTradeRisk (le_min h.totalOpenRisk (le_min h.positionNotional
    (le_min h.grossExposure (le_min h.cash h.askDepth)))))

/-- The feasible quantity with the two risk ceilings combined before the division. -/
def combinedFeasibleQuantity (portfolioContext : PromotedOperationalPortfolioContext)
    (allocationPolicy : PromotedOperationalAllocationPolicy)
    (state : PromotedOperationalAllocationState) (ceilings : AllocationCeilings) : ℕ :=
  let policy := allocationPolicy.policy
  let capital := portfolioContext.portfolio.capital
  let remainingOpenRisk := max 0 (capital * policy.maximumTotalOpenRiskFraction - state.openRisk)
  let riskQuantity := floorUnits
    (min (capital * policy.perTradeRiskFraction) remainingOpenRisk / ceilings.lossPerShare)
  min ceilings.researchQuantity (min riskQuantity (min ceilings.positionNotionalQuantity
    (min ceilings.grossExposureQuantity (min ceilings.cashQuantity ceilings.askDepthQuantity))))

theorem computeAllocationCeilings_ok
    (h : computeAllocationCeilings portfolioContext allocationPolicy state quoteOutcome =
      .ok ceilings) :
    ∃ reference ask, ceilings = ceilingsAt portfolioContext allocationPolicy state
      quoteOutcome.candidate.researchIntent reference ask ∧ 0 < ceilings.lossPerShare := by
  unfold computeAllocationCeilings at h
  split at h
  next reference href =>
    obtain ⟨hvalid, h⟩ := raiseIf_bind_eq_ok.mp h
    obtain ⟨ask, -, h⟩ := bind_eq_ok.mp h
    obtain rfl := Except.ok.inj h
    exact ⟨reference, ask, rfl, not_le.mp (not_or.mp hvalid).1⟩
  next => cases h

/-- Splitting the combined risk ceiling in two leaves the feasible quantity as it was. -/
theorem combinedFeasibleQuantity_eq
    (h : computeAllocationCeilings portfolioContext allocationPolicy state quoteOutcome =
      .ok ceilings) :
    combinedFeasibleQuantity portfolioContext allocationPolicy state ceilings =
      ceilings.feasibleQuantity := by
  obtain ⟨reference, ask, rfl, hloss⟩ := computeAllocationCeilings_ok h
  rw [combinedFeasibleQuantity, floorUnits_div, UnitBudget.units_min hloss]
  simp only [ceilingsAt, floorUnits_div, min_assoc]

/-- Without a veto reason every ceiling leaves at least one unit. -/
theorem ceilingsAt_feasible_pos
    (hceilings : ceilings = ceilingsAt portfolioContext allocationPolicy state intent reference ask)
    (h : allocationReasons portfolioContext allocationPolicy state candidate ceilings = []) :
    0 < ceilings.feasibleQuantity := by
  have hno := allocationReasons_eq_nil.mp h
  have hrisk := hno .perTradeRiskTooSmall
  have hopen := hno .totalOpenRiskExhausted
  have hposition := hno .positionNotionalCapTooSmall
  have hgross := hno .grossExposureExhausted
  have hcash := hno .cashExhausted
  have hask := hno .askDepthCapTooSmall
  simp only [allocationReasonHolds, decide_eq_false_iff_not, not_lt]
    at hrisk hopen hposition hgross hcash hask
  subst hceilings
  exact le_feasible_of_within ⟨intent.evaluationIntent.entryOrder.quantity_pos, hrisk, hopen,
    hposition, hgross, hcash, hask⟩

/-- What an allocated candidate does to the state. -/
structure AllocatedFrom (portfolioContext : PromotedOperationalPortfolioContext)
    (allocationPolicy : PromotedOperationalAllocationPolicy)
    (state : PromotedOperationalAllocationState) (candidate : PromotedOperationalCandidate)
    (reference : ℚ) (ceilings : AllocationCeilings) (result : AllocationEvaluation) : Prop where
  disposition : result.disposition = .allocated
  reasons : result.reasons = []
  unreasoned : allocationReasons portfolioContext allocationPolicy state candidate ceilings = []
  quantity : result.quantity = ceilings.feasibleQuantity
  quantity_pos : 0 < result.quantity
  notional : result.notional = reference * result.quantity
  cost : result.cost = candidate.researchIntent.estimatedCostBuffer * result.quantity
  loss : result.loss = ceilings.lossPerShare * result.quantity
  ratio : result.netRewardRisk = ceilings.netRewardRisk
  cashAfter : result.stateAfter.cashAvailable = state.cashAvailable - result.notional - result.cost
  grossAfter : result.stateAfter.grossExposure = state.grossExposure + result.notional
  riskAfter : result.stateAfter.openRisk = state.openRisk + result.loss
  keysAfter : result.stateAfter.openListingKeys =
    sorted (state.openListingKeys ++ [candidate.listingKey])

structure AllocationVetoedFrom (state : PromotedOperationalAllocationState)
    (ceilings : AllocationCeilings) (result : AllocationEvaluation) : Prop where
  disposition : result.disposition = .veto
  reasons : result.reasons ≠ []
  sorted : ∃ holds,
    result.reasons = PromotedOperationalAllocationReason.sortedValues.filter holds
  quantity : result.quantity = 0
  notional : result.notional = 0
  cost : result.cost = 0
  loss : result.loss = 0
  ratio : result.netRewardRisk = ceilings.netRewardRisk
  stateAfter : result.stateAfter = state

theorem canonicalListingKeys_insert {keys : List String} (h : CanonicalListingKeys keys)
    (hnew : candidate.listingKey ∉ keys) :
    CanonicalListingKeys (sorted (keys ++ [candidate.listingKey])) := by
  refine ⟨fun key hkey => ?_, h.2.insert hnew⟩
  rw [SortedTuples.mem_sorted, List.mem_append, List.mem_singleton] at hkey
  rcases hkey with hold | rfl
  · exact h.1 key hold
  · exact candidate.listingKey_valid

/-- The values of an allocated state pass the checks of its constructor. -/
theorem allocatedState_valid (hprices : PassPrices candidate.researchIntent reference)
    (hceilings : ceilings = ceilingsAt portfolioContext allocationPolicy state
      candidate.researchIntent reference ask)
    (hreasons : allocationReasons portfolioContext allocationPolicy state candidate ceilings = []) :
    (0 ≤ state.cashAvailable - reference * ceilings.feasibleQuantity -
        candidate.researchIntent.estimatedCostBuffer * ceilings.feasibleQuantity ∧
      0 ≤ state.grossExposure + reference * ceilings.feasibleQuantity ∧
      0 ≤ state.openRisk + ceilings.lossPerShare * ceilings.feasibleQuantity) ∧
    CanonicalListingKeys (sorted (state.openListingKeys ++ [candidate.listingKey])) := by
  have hquantity := ceilingsAt_feasible_pos hceilings hreasons
  have hnew := allocationReasons_eq_nil.mp hreasons .duplicateOpenListing
  simp only [allocationReasonHolds, decide_eq_false_iff_not] at hnew
  have hcash : ceilings.feasibleQuantity ≤ UnitBudget.units state.cashAvailable
      (reference + candidate.researchIntent.estimatedCostBuffer) := by
    rw [hceilings]
    exact ceilingsAt_feasible_within.cash.trans (floorUnits_div _ _).le
  have hspent := UnitBudget.spend_le hprices.cash_pos hquantity.ne' hcash
  have hnonneg : (0 : ℚ) ≤ ceilings.feasibleQuantity := Nat.cast_nonneg _
  have hnotional := mul_nonneg hprices.reference_pos.le hnonneg
  have hloss : 0 ≤ ceilings.lossPerShare := by rw [hceilings]; exact hprices.loss_pos.le
  exact ⟨⟨by linarith, add_nonneg state.gross_nonneg hnotional,
    add_nonneg state.risk_nonneg (mul_nonneg hloss hnonneg)⟩,
    canonicalListingKeys_insert state.keys_canonical hnew⟩

/-- A PASS outcome is always decided: vetoed with a reason, or allocated under its ceilings. -/
theorem evaluateAllocation_pass (portfolioContext : PromotedOperationalPortfolioContext)
    (allocationPolicy : PromotedOperationalAllocationPolicy)
    (state : PromotedOperationalAllocationState) (hpass : quoteOutcome.disposition = .pass) :
    ∃ reference ask result, quoteOutcome.referenceEntryPrice = some reference ∧
      PassPrices quoteOutcome.candidate.researchIntent reference ∧
      computeAllocationCeilings portfolioContext allocationPolicy state quoteOutcome =
        .ok (ceilingsAt portfolioContext allocationPolicy state
          quoteOutcome.candidate.researchIntent reference ask) ∧
      evaluateAllocation portfolioContext allocationPolicy state quoteOutcome = .ok result ∧
      (AllocationVetoedFrom state (ceilingsAt portfolioContext allocationPolicy state
          quoteOutcome.candidate.researchIntent reference ask) result ∨
        AllocatedFrom portfolioContext allocationPolicy state quoteOutcome.candidate reference
          (ceilingsAt portfolioContext allocationPolicy state
            quoteOutcome.candidate.researchIntent reference ask) result) := by
  obtain ⟨reference, ask, href, hprices, hcompute⟩ := computeAllocationCeilings_pass hpass
  refine ⟨reference, ask, ?_⟩
  generalize hceilings : ceilingsAt portfolioContext allocationPolicy state
    quoteOutcome.candidate.researchIntent reference ask = ceilings at hcompute ⊢
  by_cases hreasons : allocationReasons portfolioContext allocationPolicy state
      quoteOutcome.candidate ceilings = []
  · have hquantity := ceilingsAt_feasible_pos hceilings.symm hreasons
    have hvalid := allocatedState_valid hprices hceilings.symm hreasons
    have hone : ¬(ceilings.feasibleQuantity < 1) := by omega
    refine ⟨⟨.allocated, [], ceilings.feasibleQuantity,
      reference * ceilings.feasibleQuantity,
      quoteOutcome.candidate.researchIntent.estimatedCostBuffer * ceilings.feasibleQuantity,
      ceilings.lossPerShare * ceilings.feasibleQuantity, ceilings.netRewardRisk,
      ⟨_, _, _, _, hvalid.1.1, hvalid.1.2.1, hvalid.1.2.2, hvalid.2⟩⟩, href, hprices, hcompute, ?_, .inr ?_⟩
    · simp only [evaluateAllocation, hcompute, hreasons, hone, href, hvalid,
        PromotedOperationalAllocationState.create, ok_bind, pure_eq_ok, ne_eq, not_true_eq_false,
        or_self, and_self, if_false, dite_true]
    · constructor <;> first | rfl | assumption
  · refine ⟨⟨.veto, allocationReasons portfolioContext allocationPolicy state
      quoteOutcome.candidate ceilings, 0, 0, 0, 0, ceilings.netRewardRisk, state⟩, href, hprices,
      hcompute, ?_, .inl ⟨rfl, hreasons, ⟨_, rfl⟩, rfl, rfl, rfl, rfl, rfl, rfl⟩⟩
    simp only [evaluateAllocation, hcompute, hreasons, raiseIf_false, ok_bind, pure_eq_ok, ne_eq,
      not_false_eq_true, true_or, and_false, if_true]

end IndiaSwing
