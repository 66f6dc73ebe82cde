import IndiaSwing.RiskGate

namespace IndiaSwing

open ExceptGuards

namespace Decision

section Evaluations

variable {ctx : TrappingContext} {policy : RiskPolicy} {candidate : Candidate} {research : ResearchAssessment}
  {portfolio : PortfolioState} {rank : ℤ} {identityContext : ContentId} {referenceReadiness : String}
  {executionEligible : Bool} {evaluation : RiskEvaluation}

/-- The reasons against a trade whose amounts are known. -/
def rejectionReasons (policy : RiskPolicy) (candidate : Candidate) (research : ResearchAssessment)
    (portfolio : PortfolioState) (lossHalt drawdownHalt : ℚ) (amounts : RiskAmounts) : List String :=
  haltReasons policy candidate.setup research portfolio lossHalt drawdownHalt ++ amountReasons policy amounts

/-- The decimal operations before the verdict stay in the range of the context and have these results. -/
structure Priced (ctx : TrappingContext) (policy : RiskPolicy) (candidate : Candidate) (portfolio : PortfolioState)
    (lossHalt drawdownHalt : ℚ) (amounts : RiskAmounts) : Prop where
  lossHalt : ctx.round (-policy.maxDailyLoss) = .ok lossHalt
  drawdownHalt : ctx.round (-policy.maxPilotDrawdown) = .ok drawdownHalt
  amounts : riskAmounts ctx policy candidate portfolio = .ok amounts

variable {lossHalt drawdownHalt : ℚ} {amounts : RiskAmounts}

theorem evaluateRisk_of_priced (h : Priced ctx policy candidate portfolio lossHalt drawdownHalt amounts) :
    evaluateRisk ctx policy candidate research portfolio rank identityContext referenceReadiness
        executionEligible =
      if rejectionReasons policy candidate research portfolio lossHalt drawdownHalt amounts ≠ [] then
        .ok ⟨false, none, rejectionReasons policy candidate research portfolio lossHalt drawdownHalt amounts⟩
      else approveTrade ctx policy candidate research portfolio rank identityContext referenceReadiness
          executionEligible amounts >>= fun decision => .ok ⟨true, some decision, []⟩ := by
  unfold evaluateRisk
  rw [h.lossHalt, ok_bind, h.drawdownHalt, ok_bind, h.amounts, ok_bind]
  rfl

theorem evaluateRisk_priced
    (h : evaluateRisk ctx policy candidate research portfolio rank identityContext referenceReadiness
      executionEligible = .ok evaluation) :
    ∃ lossHalt drawdownHalt amounts, Priced ctx policy candidate portfolio lossHalt drawdownHalt amounts := by
  unfold evaluateRisk at h
  obtain ⟨lossHalt, hloss, h⟩ := bind_eq_ok.mp h
  obtain ⟨drawdownHalt, hdrawdown, h⟩ := bind_eq_ok.mp h
  obtain ⟨amounts, hamounts, -⟩ := bind_eq_ok.mp h
  exact ⟨lossHalt, drawdownHalt, amounts, hloss, hdrawdown, hamounts⟩

theorem priced_exact : Priced .exact policy candidate portfolio (-policy.maxDailyLoss) (-policy.maxPilotDrawdown)
    (exactAmounts policy candidate portfolio) :=
  ⟨rfl, rfl, riskAmounts_exact policy candidate portfolio⟩

/-- A trade without a reason against it has an entry window and a positive quantity. -/
theorem unopposed (h : rejectionReasons policy candidate research portfolio lossHalt drawdownHalt amounts = []) :
    candidate.setup.entryExpiresAt ≠ none ∧ 1 ≤ amounts.quantity := by
  obtain ⟨hhalt, hamount⟩ := List.append_eq_nil_iff.mp h
  have hexpiry := findings_eq_nil.mp hhalt (decide (candidate.setup.entryExpiresAt = none),
    "entry validity window is missing") (by simp)
  have hquantity := findings_eq_nil.mp hamount (decide (amounts.quantity < 1),
    "risk, exposure, or liquidity caps produce zero quantity") (by simp)
  exact ⟨of_decide_eq_false hexpiry, not_lt.mp (of_decide_eq_false hquantity)⟩

/-- An approval in exact arithmetic is a recorded decision about a trade that clears the gate. -/
theorem approved_exact (h : evaluateRisk .exact policy candidate research portfolio rank identityContext
      referenceReadiness executionEligible = .ok evaluation) (happroved : evaluation.approved = true) :
    Clears policy candidate portfolio research ∧ ∃ decision, evaluation.decision = some decision ∧
      approveTrade .exact policy candidate research portfolio rank identityContext referenceReadiness
        executionEligible (exactAmounts policy candidate portfolio) = .ok decision := by
  rw [evaluateRisk_of_priced priced_exact] at h
  split at h
  · obtain rfl := Except.ok.inj h
    cases happroved
  · rename_i hnone
    obtain ⟨decision, hdecision, h⟩ := bind_eq_ok.mp h
    obtain rfl := Except.ok.inj h
    exact ⟨reasons_exact_eq_nil.mp (not_not.mp hnone), decision, rfl, hdecision⟩

end Evaluations

section Quantity

variable {policy policy' : RiskPolicy} {candidate : Candidate} {portfolio portfolio' : PortfolioState}

/-- The quantity of a trade is the largest number of shares within the risk budget and the notional cap. -/
theorem le_cappedQuantity {units : ℤ} (hloss : 0 < netLossPerShare policy candidate)
    (hprice : 0 < candidate.setup.entryHigh) (hunits : 1 ≤ units) :
    units ≤ cappedQuantity policy candidate portfolio ↔
      units * netLossPerShare policy candidate ≤ riskBudget policy portfolio ∧
        units * candidate.setup.entryHigh ≤ notionalCap policy candidate portfolio := by
  rw [cappedQuantity, if_pos hloss, if_pos hprice, le_min_iff, le_floorUnits_div hloss hunits,
    le_floorUnits_div hprice hunits]

/-- Every cap of the second policy is at most that of the first, every floor at least, and the second portfolio
has more at risk and less of its own. -/
structure Tightened (policy policy' : RiskPolicy) (portfolio portfolio' : PortfolioState) : Prop where
  perTradeRisk : policy'.perTradeRisk ≤ policy.perTradeRisk
  maxOpenRisk : policy'.maxOpenRisk ≤ policy.maxOpenRisk
  maxPositionNotional : policy'.maxPositionNotional ≤ policy.maxPositionNotional
  maxGrossExposure : policy'.maxGrossExposure ≤ policy.maxGrossExposure
  maxTurnoverParticipation : policy'.maxTurnoverParticipation ≤ policy.maxTurnoverParticipation
  maxOpenPositions : policy'.maxOpenPositions ≤ policy.maxOpenPositions
  maxDailyLoss : policy'.maxDailyLoss ≤ policy.maxDailyLoss
  maxPilotDrawdown : policy'.maxPilotDrawdown ≤ policy.maxPilotDrawdown
  minNetRewardRisk : policy.minNetRewardRisk ≤ policy'.minNetRewardRisk
  minExpectedR : policy.minExpectedR ≤ policy'.minExpectedR
  estimatedRoundTripCostBps : policy.estimatedRoundTripCostBps ≤ policy'.estimatedRoundTripCostBps
  requireValidatedProbabilities : policy.requireValidatedProbabilities = true →
    policy'.requireValidatedProbabilities = true
  minCalibrationSampleSize : policy.minCalibrationSampleSize ≤ policy'.minCalibrationSampleSize
  capital : portfolio'.capital ≤ portfolio.capital
  openRisk : portfolio.openRisk ≤ portfolio'.openRisk
  grossExposure : portfolio.grossExposure ≤ portfolio'.grossExposure
  openPositions : portfolio.openPositions ≤ portfolio'.openPositions
  dailyRealizedPnl : portfolio'.dailyRealizedPnl ≤ portfolio.dailyRealizedPnl
  pilotRealizedPnl : portfolio'.pilotRealizedPnl ≤ portfolio.pilotRealizedPnl

variable {research : ResearchAssessment}

theorem policy_check_eq_ok (h : policy.check = .ok ()) :
    0 < policy.maxTurnoverParticipation ∧ 0 ≤ policy.estimatedRoundTripCostBps := by
  unfold RiskPolicy.check at h
  simp only [raiseIf_bind_eq_ok] at h
  obtain ⟨hlimits, hcosts, -⟩ := h
  refine ⟨not_le.mp fun hle => hlimits ⟨_, ?_, hle⟩, not_lt.mp fun hlt => hcosts (.inl hlt)⟩
  simp

theorem costPerShare_mono (h : Tightened policy policy' portfolio portfolio')
    (hprice : 0 < candidate.setup.entryHigh) : costPerShare policy candidate ≤ costPerShare policy' candidate := by
  have hbps : costBps policy candidate ≤ costBps policy' candidate :=
    max_le_max_right _ h.estimatedRoundTripCostBps
  unfold costPerShare
  gcongr

theorem costPerShare_nonneg (hpolicy : policy.check = .ok ()) (hprice : 0 < candidate.setup.entryHigh) :
    0 ≤ costPerShare policy candidate := by
  have hbps : 0 ≤ costBps policy candidate := (policy_check_eq_ok hpolicy).2.trans (le_max_left _ _)
  unfold costPerShare
  positivity

/-- What clears the gate under tighter limits clears it under the wider ones, with no smaller quantity. -/
theorem clears_of_tightened (hsetup : candidate.setup.check = .ok ()) (hpolicy : policy.check = .ok ())
    (hpolicy' : policy'.check = .ok ()) (h : Tightened policy policy' portfolio portfolio')
    (hclears : Clears policy' candidate portfolio' research) :
    Clears policy candidate portfolio research ∧
      cappedQuantity policy' candidate portfolio' ≤ cappedQuantity policy candidate portfolio := by
  obtain ⟨-, -, ⟨hstop, hlow, hhigh, -⟩, hprobability, -⟩ := setup_check_eq_ok hsetup
  have hprice : 0 < candidate.setup.entryHigh := by linarith
  have hcost := costPerShare_mono h hprice
  have hnonneg := costPerShare_nonneg hpolicy hprice
  have hloss : 0 < netLossPerShare policy candidate := by unfold netLossPerShare; linarith
  have hlosses : netLossPerShare policy candidate ≤ netLossPerShare policy' candidate := by
    unfold netLossPerShare
    linarith
  have hrewards : netRewardPerShare policy' candidate ≤ netRewardPerShare policy candidate := by
    unfold netRewardPerShare
    linarith
  have hreward := hclears.netReward.trans_le hrewards
  have hratio : netRewardRisk policy' candidate ≤ netRewardRisk policy candidate := by
    unfold netRewardRisk
    rw [if_neg (by simp [hclears.netLoss, hclears.netReward]), if_neg (by simp [hloss, hreward])]
    have := hclears.netReward
    gcongr
  have hexpected : expectedR policy' candidate ≤ expectedR policy candidate := by
    have : 0 ≤ candidate.setup.targetProbability := not_lt.mp fun hlt => hprobability (.inl hlt)
    unfold expectedR
    gcongr
  have hquantity : cappedQuantity policy' candidate portfolio' ≤ cappedQuantity policy candidate portfolio := by
    have hone := hclears.quantity
    have hunits : (1 : ℚ) ≤ cappedQuantity policy' candidate portfolio' := by exact_mod_cast hone
    obtain ⟨hbudget, hcap⟩ := (le_cappedQuantity hclears.netLoss hprice hone).mp le_rfl
    have hliquidity : liquidityNotional policy' candidate ≤ liquidityNotional policy candidate := by
      have hwithin : 0 < liquidityNotional policy' candidate :=
        lt_of_lt_of_le (by positivity) (hcap.trans (min_le_right _ _))
      have hvalue : 0 < candidate.instrument.medianDailyTradedValue :=
        (mul_pos_iff_of_pos_right (policy_check_eq_ok hpolicy').1).mp hwithin
      unfold liquidityNotional
      have := h.maxTurnoverParticipation
      gcongr
    refine (le_cappedQuantity hloss hprice hone).mpr ⟨?_, ?_⟩
    · calc (cappedQuantity policy' candidate portfolio' : ℚ) * netLossPerShare policy candidate
          ≤ cappedQuantity policy' candidate portfolio' * netLossPerShare policy' candidate := by gcongr
        _ ≤ riskBudget policy' portfolio' := hbudget
        _ ≤ riskBudget policy portfolio :=
          min_le_min h.perTradeRisk (sub_le_sub h.maxOpenRisk h.openRisk)
    · refine hcap.trans ?_
      exact min_le_min (min_le_min (min_le_min h.maxPositionNotional
        (sub_le_sub h.maxGrossExposure h.grossExposure)) (sub_le_sub h.capital h.grossExposure)) hliquidity
  refine ⟨⟨hclears.verdict, hclears.entryTime, ?_, ?_, ?_, ?_, hclears.expiry, ?_, hloss, hreward, ?_, ?_, ?_⟩,
    hquantity⟩
  · exact (h.openRisk.trans_lt hclears.openRisk).trans_le h.maxOpenRisk
  · exact (h.openPositions.trans_lt hclears.openPositions).trans_le h.maxOpenPositions
  · exact ((neg_le_neg h.maxDailyLoss).trans_lt hclears.dailyLoss).trans_le h.dailyRealizedPnl
  · exact ((neg_le_neg h.maxPilotDrawdown).trans_lt hclears.drawdown).trans_le h.pilotRealizedPnl
  · intro required
    obtain ⟨hvalidated, hsample⟩ := hclears.probability (h.requireValidatedProbabilities required)
    exact ⟨hvalidated, h.minCalibrationSampleSize.trans hsample⟩
  · exact h.minNetRewardRisk.trans (hclears.rewardRisk.trans hratio)
  · exact h.minExpectedR.trans (hclears.expected.trans hexpected)
  · exact hclears.quantity.trans hquantity

end Quantity

section Gate

/-- A decision to buy as many shares as every cap of the policy allows, and no more. -/
structure WithinCaps (policy : RiskPolicy) (candidate : Candidate) (portfolio : PortfolioState)
    (decision : TradeDecision) : Prop where
  quantity : 1 ≤ decision.quantity
  plannedMaxLoss : decision.plannedMaxLoss = netLossPerShare policy candidate * decision.quantity
  risk : decision.plannedMaxLoss ≤ min policy.perTradeRisk (policy.maxOpenRisk - portfolio.openRisk)
  position : decision.quantity * candidate.setup.entryHigh ≤ policy.maxPositionNotional
  exposure : decision.quantity * candidate.setup.entryHigh ≤ policy.maxGrossExposure - portfolio.grossExposure
  cash : decision.quantity * candidate.setup.entryHigh ≤ portfolio.capital - portfolio.grossExposure
  liquidity : decision.quantity * candidate.setup.entryHigh ≤
    candidate.instrument.medianDailyTradedValue * policy.maxTurnoverParticipation
  netRewardRisk : policy.minNetRewardRisk ≤ decision.netRewardRisk
  expectedR : policy.minExpectedR ≤ decision.expectedR
  largest : min policy.perTradeRisk (policy.maxOpenRisk - portfolio.openRisk) <
        netLossPerShare policy candidate * (decision.quantity + 1) ∨
      policy.maxPositionNotional < (decision.quantity + 1) * candidate.setup.entryHigh ∨
      policy.maxGrossExposure - portfolio.grossExposure < (decision.quantity + 1) * candidate.setup.entryHigh ∨
      portfolio.capital - portfolio.grossExposure < (decision.quantity + 1) * candidate.setup.entryHigh ∨
      candidate.instrument.medianDailyTradedValue * policy.maxTurnoverParticipation <
        (decision.quantity + 1) * candidate.setup.entryHigh

variable {ctx : TrappingContext} {policy : RiskPolicy} {candidate : Candidate} {research : ResearchAssessment}
  {portfolio : PortfolioState} {rank : ℤ} {identityContext : ContentId} {referenceReadiness : String}
  {executionEligible : Bool}

theorem withinCaps_of_clears {decision : TradeDecision} (hsetup : candidate.setup.check = .ok ())
    (hclears : Clears policy candidate portfolio research)
    (h : approveTrade .exact policy candidate research portfolio rank identityContext referenceReadiness
      executionEligible (exactAmounts policy candidate portfolio) = .ok decision) :
    WithinCaps policy candidate portfolio decision := by
  obtain ⟨-, -, ⟨hstop, hlow, hhigh, -⟩, -⟩ := setup_check_eq_ok hsetup
  have hprice : 0 < candidate.setup.entryHigh := by linarith
  obtain ⟨hplanned, -, -, hquantity, -, hratio, hexpected, -⟩ := approveTrade_fields h
  replace hplanned : decision.plannedMaxLoss = netLossPerShare policy candidate * decision.quantity := by
    rw [hquantity]
    exact (Except.ok.inj hplanned).symm
  replace hquantity : decision.quantity = cappedQuantity policy candidate portfolio := hquantity
  obtain ⟨hbudget, hcap⟩ := (le_cappedQuantity hclears.netLoss hprice hclears.quantity).mp le_rfl
  rw [← hquantity] at hbudget hcap
  have hnext : ¬decision.quantity + 1 ≤ cappedQuantity policy candidate portfolio := by omega
  rw [le_cappedQuantity hclears.netLoss hprice (by have := hclears.quantity; omega), not_and_or, not_le, not_le,
    notionalCap, min_lt_iff, min_lt_iff, min_lt_iff, or_assoc, or_assoc] at hnext
  push_cast at hnext
  unfold notionalCap at hcap
  simp only [le_min_iff] at hcap
  obtain ⟨⟨⟨hposition, hexposure⟩, hcash⟩, hliquidity⟩ := hcap
  refine ⟨hquantity ▸ hclears.quantity, hplanned, ?_, hposition, hexposure, hcash, hliquidity,
    hratio ▸ hclears.rewardRisk, hexpected ▸ hclears.expected, ?_⟩
  · rw [hplanned, mul_comm]
    exact hbudget
  · rw [mul_comm (netLossPerShare policy candidate)]
    exact hnext

/-- An approved trade respects every cap and uses them up, and tighter limits neither approve what wider ones
reject nor allow more shares. -/
theorem approvals_within_caps_and_monotone (hsetup : candidate.setup.check = .ok ())
    (hpolicy : policy.check = .ok ()) :
    (∀ evaluation, evaluateRisk .exact policy candidate research portfolio rank identityContext
        referenceReadiness executionEligible = .ok evaluation → evaluation.approved = true →
      ∃ decision, evaluation.decision = some decision ∧ WithinCaps policy candidate portfolio decision) ∧
    ∀ policy' portfolio' evaluation', policy'.check = .ok () → Tightened policy policy' portfolio portfolio' →
      evaluateRisk .exact policy' candidate research portfolio' rank identityContext referenceReadiness
        executionEligible = .ok evaluation' → evaluation'.approved = true →
      ∃ evaluation decision decision', evaluateRisk .exact policy candidate research portfolio rank
          identityContext referenceReadiness executionEligible = .ok evaluation ∧ evaluation.approved = true ∧
        evaluation.decision = some decision ∧ evaluation'.decision = some decision' ∧
          decision'.quantity ≤ decision.quantity := by
  constructor
  · intro evaluation h happroved
    obtain ⟨hclears, decision, hdecision, htrade⟩ := approved_exact h happroved
    exact ⟨decision, hdecision, withinCaps_of_clears hsetup hclears htrade⟩
  · intro policy' portfolio' evaluation' hpolicy' htight h happroved
    obtain ⟨hclears', decision', hdecision', htrade'⟩ := approved_exact h happroved
    obtain ⟨hclears, hquantity⟩ := clears_of_tightened hsetup hpolicy hpolicy' htight hclears'
    have hrecordable := ((approveTrade_exists hsetup hclears'.expiry hclears'.quantity).mp ⟨_, htrade'⟩).2.2
    have hexists : ∃ decision, approveTrade .exact policy candidate research portfolio rank identityContext
        referenceReadiness executionEligible (exactAmounts policy candidate portfolio) = .ok decision :=
      (approveTrade_exists hsetup hclears.expiry hclears.quantity).mpr ⟨⟨_, rfl⟩, ⟨_, rfl⟩, hrecordable⟩
    obtain ⟨decision, htrade⟩ := hexists
    have hnone : rejectionReasons policy candidate research portfolio (-policy.maxDailyLoss)
        (-policy.maxPilotDrawdown) (exactAmounts policy candidate portfolio) = [] :=
      reasons_exact_eq_nil.mpr hclears
    refine ⟨⟨true, some decision, []⟩, decision, decision', ?_, rfl, rfl, hdecision', ?_⟩
    · rw [evaluateRisk_of_priced priced_exact, if_neg (not_not.mpr hnone), htrade]
      rfl
    · obtain ⟨-, -, -, heq, -⟩ := approveTrade_fields htrade
      obtain ⟨-, -, -, heq', -⟩ := approveTrade_fields htrade'
      rw [heq, heq']
      exact hquantity

section Samples

def sampleBinding : SnapshotBinding where
  instrumentId := .of "I1"
  listingId := .of "L1"
  universeSnapshotId := .written (.digest 1)
  dataSnapshotId := .of "D1"
  dataSnapshotFingerprint := .of "F1"
  instrumentFingerprint := .written (.digest 2)

/-- A candidate whose setup gives this reason. -/
def sampleCandidate (setupReason : String) : Candidate where
  instrument := {
    instrumentId := "I1", listingId := "L1", universeSnapshotId := .digest 1, exchange := "NSE", segment := "EQ",
    symbol := "ALPHA", board := .main, marketCapBucket := .large, active := true, suspended := false,
    surveillance := .none, lastPrice := 100, medianDailyTradedValue := 100000000, quotedSpreadBps := 5,
    lowerCircuitLocked := false, historySessions := 200, priceSession := 0, dataAvailableAt := 0,
    contentFingerprint := .digest 2 }
  forecast := {
    sampleBinding with
    symbol := .of "ALPHA", asOf := 0, horizonSessions := 10, medianReturnPct := 5, downsideReturnPct := -3,
    uncertainty := 1 / 5, sampleCount := 100, modelVersion := .of "model-v1" }
  signals := {
    sampleBinding with
    relativeStrength := 1, trendQuality := 1, volumeConfirmation := 1, liquidityQuality := 1, newsScore := 0,
    estimatedCostBps := 20, providerVersion := .of "signals-v1" }
  setup := {
    sampleBinding with
    symbol := .of "ALPHA", decisionTime := 0, earliestEntryAt := ⟨10, 330⟩, entryLow := 99, entryHigh := 100,
    stop := 95, target := 120, targetProbability := 1 / 2, stopProbability := 3 / 10, expectedTimeExitR := 0,
    maxHoldingSessions := 10, setupReason := .of setupReason, stopReason := .of "below support",
    targetReason := .of "measured move", cancelConditions := [.of "gap above entry"],
    probabilityStatus := .validated, calibrationSampleSize := 150, entryExpiresAt := some ⟨20, 330⟩,
    providerVersion := .of "setup-v1" }
  evidenceIds := [.of "E1"]

def sampleResearch : ResearchAssessment where
  toSnapshotBinding := sampleBinding
  symbol := .of "ALPHA"
  verdict := .approve
  thesis := .of "breakout"
  bearCase := .of "failed breakout"
  risks := []
  evidenceIds := [.of "E1"]
  modelVersion := .of "research-v1"

def samplePortfolio : PortfolioState := ⟨100000, 0, 0, 0, 0, 0⟩

end Samples

theorem approvals_within_caps_and_monotone_sample :
    ∃ (evaluation : RiskEvaluation) (decision decision' : TradeDecision),
      evaluateRisk .exact defaultRiskPolicy (sampleCandidate "breakout")
        sampleResearch samplePortfolio 1 .absent "UNBOUND" false = .ok evaluation ∧ evaluation.approved = true ∧
      evaluation.decision = some decision ∧ decision'.quantity = 18 ∧ decision'.quantity ≤ decision.quantity := by
  have h := @approvals_within_caps_and_monotone defaultRiskPolicy (sampleCandidate "breakout") sampleResearch
    samplePortfolio 1 .absent "UNBOUND" false (by decide +kernel) defaultRiskPolicy_check
  obtain ⟨evaluation', heval, htests⟩ := @exists_ok_of_any _ _
    (evaluateRisk .exact { defaultRiskPolicy with perTradeRisk := 100 } (sampleCandidate "breakout")
      sampleResearch samplePortfolio 1 .absent "UNBOUND" false)
    (fun e => e.approved && e.decision.any (·.quantity = 18)) (by decide +kernel)
  rw [Bool.and_eq_true] at htests
  obtain ⟨evaluation, decision, decision', hreturns, happroved, hdecision, hdecision', hle⟩ :=
    h.2 { defaultRiskPolicy with perTradeRisk := 100 } samplePortfolio evaluation' (by decide +kernel)
      ⟨by decide +kernel, le_rfl, le_rfl, le_rfl, le_rfl, le_rfl, le_rfl, le_rfl, le_rfl, le_rfl, le_rfl, id,
        le_rfl, le_rfl, le_rfl, le_rfl, le_rfl, le_rfl, le_rfl⟩ heval htests.1
  refine ⟨evaluation, decision, decision', hreturns, happroved, hdecision, ?_, hle⟩
  simpa [hdecision'] using htests.2

end Gate

end Decision

end IndiaSwing
