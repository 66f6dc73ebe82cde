import Mathlib.Algebra.Order.Field.Basic
import Mathlib.Tactic.Linarith
import Mathlib.Tactic.Positivity
import IndiaSwing.DecisionRisk

namespace IndiaSwing

open ExceptGuards

namespace Decision

theorem findings_eq_nil {cases : List (Bool × String)} : findings cases = [] ↔ ∀ pair ∈ cases, pair.1 = false := by
  simp [findings, List.filter_eq_nil_iff]

/-- A positive number of units is within the floor exactly when it is within the value. -/
theorem le_floorUnits {value : ℚ} {units : ℤ} (hunits : 1 ≤ units) :
    units ≤ floorUnits value ↔ (units : ℚ) ≤ value := by
  have positive : (1 : ℚ) ≤ units := by exact_mod_cast hunits
  unfold floorUnits
  split
  · rename_i low
    constructor
    · intro h
      omega
    · intro h
      linarith
  · exact Int.le_floor

theorem le_floorUnits_div {budget price : ℚ} {units : ℤ} (hprice : 0 < price) (hunits : 1 ≤ units) :
    units ≤ floorUnits (budget / price) ↔ (units : ℚ) * price ≤ budget := by
  rw [le_floorUnits hunits, le_div_iff₀ hprice]

section Exact

variable (policy : RiskPolicy) (candidate : Candidate) (portfolio : PortfolioState)

def costBps : ℚ := max policy.estimatedRoundTripCostBps candidate.signals.estimatedCostBps

def costPerShare : ℚ := candidate.setup.entryHigh * costBps policy candidate / 10000

def netLossPerShare : ℚ := candidate.setup.entryHigh - candidate.setup.stop + costPerShare policy candidate

def netRewardPerShare : ℚ := candidate.setup.target - candidate.setup.entryHigh - costPerShare policy candidate

def netRewardRisk : ℚ :=
  if netLossPerShare policy candidate ≤ 0 ∨ netRewardPerShare policy candidate ≤ 0 then 0
  else netRewardPerShare policy candidate / netLossPerShare policy candidate

def expectedR : ℚ :=
  candidate.setup.targetProbability * netRewardRisk policy candidate - candidate.setup.stopProbability +
    (1 - candidate.setup.targetProbability - candidate.setup.stopProbability) * candidate.setup.expectedTimeExitR

def riskBudget : ℚ := min policy.perTradeRisk (policy.maxOpenRisk - portfolio.openRisk)

def liquidityNotional : ℚ := candidate.instrument.medianDailyTradedValue * policy.maxTurnoverParticipation

def notionalCap : ℚ :=
  min (min (min policy.maxPositionNotional (policy.maxGrossExposure - portfolio.grossExposure))
    (portfolio.capital - portfolio.grossExposure)) (liquidityNotional policy candidate)

def cappedQuantity : ℤ :=
  min (if 0 < netLossPerShare policy candidate
      then floorUnits (riskBudget policy portfolio / netLossPerShare policy candidate) else 0)
    (if 0 < candidate.setup.entryHigh
      then floorUnits (notionalCap policy candidate portfolio / candidate.setup.entryHigh) else 0)

/-- The amounts of an evaluation in arithmetic that neither rounds nor raises. -/
def exactAmounts : RiskAmounts where
  costPerShare := costPerShare policy candidate
  netLossPerShare := netLossPerShare policy candidate
  netRewardPerShare := netRewardPerShare policy candidate
  netRewardRisk := netRewardRisk policy candidate
  expectedR := expectedR policy candidate
  quantity := cappedQuantity policy candidate portfolio

theorem riskAmounts_exact :
    riskAmounts .exact policy candidate portfolio = .ok (exactAmounts policy candidate portfolio) := by
  unfold riskAmounts exactAmounts cappedQuantity expectedR netRewardRisk
  simp only [TrappingContext.exact, TrappingContext.add, TrappingContext.sub, TrappingContext.mul,
    TrappingContext.div, ok_bind]
  unfold netLossPerShare netRewardPerShare costPerShare costBps riskBudget notionalCap liquidityNotional
  split
  · split <;> split <;> rfl
  · split <;> split <;> rfl

/-- What an evaluation without a reason to reject has established. -/
structure Clears (research : ResearchAssessment) : Prop where
  verdict : research.verdict = .approve
  entryTime : candidate.setup.decisionTime < candidate.setup.earliestEntryAt.instant
  openRisk : portfolio.openRisk < policy.maxOpenRisk
  openPositions : portfolio.openPositions < policy.maxOpenPositions
  dailyLoss : -policy.maxDailyLoss < portfolio.dailyRealizedPnl
  drawdown : -policy.maxPilotDrawdown < portfolio.pilotRealizedPnl
  expiry : candidate.setup.entryExpiresAt ≠ none
  probability : policy.requireValidatedProbabilities = true → candidate.setup.probabilityStatus = .validated ∧
    policy.minCalibrationSampleSize ≤ candidate.setup.calibrationSampleSize
  netLoss : 0 < netLossPerShare policy candidate
  netReward : 0 < netRewardPerShare policy candidate
  rewardRisk : policy.minNetRewardRisk ≤ netRewardRisk policy candidate
  expected : policy.minExpectedR ≤ expectedR policy candidate
  quantity : 1 ≤ cappedQuantity policy candidate portfolio

variable {policy candidate portfolio}

theorem reasons_exact_eq_nil {research : ResearchAssessment} :
    haltReasons policy candidate.setup research portfolio (-policy.maxDailyLoss) (-policy.maxPilotDrawdown) ++
      amountReasons policy (exactAmounts policy candidate portfolio) = [] ↔
    Clears policy candidate portfolio research := by
  rw [List.append_eq_nil_iff, haltReasons, amountReasons, findings_eq_nil, findings_eq_nil]
  simp only [List.forall_mem_cons, List.not_mem_nil, false_implies, forall_true_iff, and_true,
    decide_eq_false_iff_not, not_le, not_lt, Bool.and_eq_false_iff, Bool.or_eq_false_iff,
    Bool.not_eq_false', Bool.or_eq_true, decide_eq_true_eq, ne_eq, not_not]
  simp only [exactAmounts]
  constructor
  · rintro ⟨⟨hverdict, hentry, hrisk, hpositions, hdaily, hdrawdown, hexpiry, hstatus, hsample⟩,
      ⟨hloss, hreward⟩, hratio, hexpected, hquantity⟩
    refine ⟨hverdict, hentry, hrisk, hpositions, hdaily, hdrawdown, hexpiry, ?_, hloss, hreward, ?_, hexpected,
      hquantity⟩
    · intro required
      exact ⟨hstatus.resolve_left (by simp [required]), hsample.resolve_left (by simp [required])⟩
    · refine hratio.resolve_left ?_
      rintro (h | h)
      · exact absurd hloss (not_lt.mpr h)
      · exact absurd hreward (not_lt.mpr h)
  · intro h
    refine ⟨⟨h.verdict, h.entryTime, h.openRisk, h.openPositions, h.dailyLoss, h.drawdown, h.expiry, ?_, ?_⟩,
      ⟨h.netLoss, h.netReward⟩, .inr h.rewardRisk, h.expected, h.quantity⟩
    · by_cases required : policy.requireValidatedProbabilities = true
      · exact .inr (h.probability required).1
      · exact .inl (Bool.not_eq_true _ ▸ required)
    · by_cases required : policy.requireValidatedProbabilities = true
      · exact .inr (h.probability required).2
      · exact .inl (Bool.not_eq_true _ ▸ required)

end Exact

section Records

/-- A text that UTF-8 can write. -/
def PyText.IsWritten (text : PyText) : Prop := ∃ id, text = .written id

instance (text : PyText) : Decidable text.IsWritten :=
  match text with
  | .written id => .isTrue ⟨id, rfl⟩
  | .surrogates _ => .isFalse (by rintro ⟨_, h⟩; cases h)

def Candidate.texts (c : Candidate) : List PyText :=
  ([c.forecast.symbol, c.forecast.modelVersion] ++ c.forecast.texts) ++
    (c.signals.texts ++ [c.signals.providerVersion]) ++
    ([c.setup.symbol, c.setup.setupReason, c.setup.stopReason, c.setup.targetReason, c.setup.providerVersion] ++
      c.setup.texts) ++ c.setup.cancelConditions ++ c.evidenceIds

def ResearchAssessment.writtenTexts (a : ResearchAssessment) : List PyText :=
  ([a.symbol, a.thesis, a.bearCase, a.modelVersion] ++ a.texts) ++ a.risks ++ a.evidenceIds

/-- What an approved trade needs so that its decision can be recorded. -/
structure Recordable (candidate : Candidate) (research : ResearchAssessment) (referenceReadiness : String)
    (executionEligible : Bool) : Prop where
  reasons : ¬anyBlank [candidate.setup.setupReason, candidate.setup.stopReason, candidate.setup.targetReason]
  candidateTexts : ∀ text ∈ candidate.texts, text.IsWritten
  researchTexts : ∀ text ∈ research.writtenTexts, text.IsWritten
  readiness : isBlankText referenceReadiness = false
  eligibility : executionEligible = true → referenceReadiness = "POINT_IN_TIME_VERIFIED"

theorem writeTexts_exists {texts : List PyText} :
    (∃ id, writeTexts texts = .ok id) ↔ ∀ text ∈ texts, text.IsWritten := by
  have hcases : ∀ text ∈ texts, (text.IsWritten ∧ ∃ id, writeText text = .ok id ∧ True) ∨
      (¬text.IsWritten ∧ ∃ e, writeText text = .error e ∧ True) := by
    intro text _
    cases text with
    | written id => exact .inl ⟨⟨id, rfl⟩, id, rfl, trivial⟩
    | surrogates codePoints =>
      refine .inr ⟨?_, unicodeEncodeError, rfl, trivial⟩
      rintro ⟨_, h⟩
      cases h
  rcases mapM_cases hcases with ⟨hall, ids, hids, -⟩ | ⟨⟨text, hmem, hnot⟩, e, he, -⟩
  · exact ⟨fun _ => hall, fun _ => ⟨.list ids, by rw [writeTexts, hids]; rfl⟩⟩
  · constructor
    · rintro ⟨id, h⟩
      rw [writeTexts, he] at h
      cases h
    · intro h
      exact absurd (h text hmem) hnot

theorem exists_bind_eq_ok {ε α β : Type} {x : Except ε α} {f : α → Except ε β} :
    (∃ b, (x >>= f) = .ok b) ↔ ∃ a, x = .ok a ∧ ∃ b, f a = .ok b := by
  constructor
  · rintro ⟨b, h⟩
    obtain ⟨a, ha, hb⟩ := bind_eq_ok.mp h
    exact ⟨a, ha, b, hb⟩
  · rintro ⟨a, ha, b, hb⟩
    exact ⟨b, bind_eq_ok.mpr ⟨a, ha, hb⟩⟩

theorem exists_pure_eq_ok {ε α : Type} (a : α) : (∃ b, (pure a : Except ε α) = .ok b) ↔ True :=
  iff_true_intro ⟨a, rfl⟩

theorem candidate_identity_exists {candidate : Candidate} :
    (∃ id, candidate.identity = .ok id) ↔ ∀ text ∈ candidate.texts, text.IsWritten := by
  simp only [Candidate.identity, ForecastSummary.identity, SignalFeatures.identity, TradeSetup.identity,
    exists_bind_eq_ok, exists_pure_eq_ok, exists_and_right, and_true, writeTexts_exists]
  simp only [Candidate.texts, List.forall_mem_append]
  tauto

theorem research_identity_exists {research : ResearchAssessment} :
    (∃ id, research.identity = .ok id) ↔ ∀ text ∈ research.writtenTexts, text.IsWritten := by
  simp only [ResearchAssessment.identity, exists_bind_eq_ok, exists_pure_eq_ok, exists_and_right, and_true,
    writeTexts_exists]
  simp only [ResearchAssessment.writtenTexts, List.forall_mem_append]
  tauto

/-- The material of a trade writes only texts that its candidate and its research write too. -/
theorem buyMaterial_material_exists {policy : RiskPolicy} {candidate : Candidate} {research : ResearchAssessment}
    {rank : ℤ} {referenceReadiness : String} {executionEligible : Bool} {amounts : RiskAmounts}
    {plannedMaxLoss estimatedCost : ℚ} (hcandidate : ∀ text ∈ candidate.texts, text.IsWritten)
    (hresearch : ∀ text ∈ research.writtenTexts, text.IsWritten) :
    ∃ id, (buyMaterial policy candidate research rank referenceReadiness executionEligible amounts plannedMaxLoss
      estimatedCost).material = .ok id := by
  simp only [TradeDecision.material, exists_bind_eq_ok, exists_pure_eq_ok, exists_and_right, and_true,
    writeTexts_exists]
  simp only [Candidate.texts, List.forall_mem_append, List.forall_mem_cons] at hcandidate
  simp only [ResearchAssessment.writtenTexts, List.forall_mem_append, List.forall_mem_cons] at hresearch
  simp only [buyMaterial, List.map_cons, List.map_nil, List.forall_mem_cons]
  have hwritten : ∀ id, (PyText.written id).IsWritten := fun id => ⟨id, rfl⟩
  have hof : ∀ text, (PyText.of text).IsWritten := fun text => ⟨_, rfl⟩
  tauto

section Approval

variable {ctx : TrappingContext} {policy : RiskPolicy} {candidate : Candidate} {research : ResearchAssessment}
  {portfolio : PortfolioState} {rank : ℤ} {identityContext : ContentId} {referenceReadiness : String}
  {executionEligible : Bool} {amounts : RiskAmounts}

theorem setup_check_eq_ok {setup : TradeSetup} (h : setup.check = .ok ()) :
    (∀ expiry ∈ setup.entryExpiresAt, setup.earliestEntryAt.instant < expiry.instant) ∧
      ¬anyBlank setup.cancelConditions ∧
      (0 < setup.stop ∧ setup.stop < setup.entryLow ∧ setup.entryLow ≤ setup.entryHigh ∧
        setup.entryHigh < setup.target) ∧
      ¬outsideUnit setup.targetProbability ∧ ¬outsideUnit setup.stopProbability ∧
      0 < setup.maxHoldingSessions ∧ 0 ≤ setup.calibrationSampleSize := by
  unfold TradeSetup.check at h
  simp only [raiseIf_bind_eq_ok] at h
  obtain ⟨-, hexpiry, hconditions, hprices, htarget, hstop, -, hholding, hsample, -⟩ := h
  refine ⟨?_, hconditions, not_not.mp hprices, htarget, hstop, not_le.mp hholding, not_lt.mp hsample⟩
  intro expiry hmem
  exact not_le.mp fun hle => hexpiry ⟨expiry, hmem, hle⟩

theorem approveTrade_fields {decision : TradeDecision}
    (h : approveTrade ctx policy candidate research portfolio rank identityContext referenceReadiness
      executionEligible amounts = .ok decision) :
    ctx.mul amounts.netLossPerShare amounts.quantity = .ok decision.plannedMaxLoss ∧
      ctx.mul amounts.costPerShare amounts.quantity = .ok decision.estimatedCost ∧
      decision.action = .buy ∧ decision.quantity = amounts.quantity ∧
      decision.entryHigh = some candidate.setup.entryHigh ∧ decision.netRewardRisk = amounts.netRewardRisk ∧
      decision.expectedR = amounts.expectedR ∧ decision.check = .ok () := by
  unfold approveTrade at h
  obtain ⟨loss, hloss, h⟩ := bind_eq_ok.mp h
  obtain ⟨cost, hcost, h⟩ := bind_eq_ok.mp h
  obtain ⟨candidateId, -, h⟩ := bind_eq_ok.mp h
  obtain ⟨researchId, -, h⟩ := bind_eq_ok.mp h
  obtain ⟨materialId, -, h⟩ := bind_eq_ok.mp h
  obtain ⟨_, hcheck, h⟩ := bind_eq_ok.mp h
  obtain rfl := Except.ok.inj h
  exact ⟨hloss, hcost, rfl, rfl, rfl, rfl, rfl, hcheck⟩

/-- Of the checks of a decision, a trade from a checked setup leaves three open. -/
theorem buyMaterial_check {plannedMaxLoss estimatedCost : ℚ} (signalId : ContentId)
    (hsetup : candidate.setup.check = .ok ()) (hexpiry : candidate.setup.entryExpiresAt ≠ none)
    (hquantity : 1 ≤ amounts.quantity) :
    ({ buyMaterial policy candidate research rank referenceReadiness executionEligible amounts plannedMaxLoss
        estimatedCost with signalId := signalId } : TradeDecision).check = .ok () ↔
      ¬anyBlank [candidate.setup.setupReason, candidate.setup.stopReason, candidate.setup.targetReason] ∧
        isBlankText referenceReadiness = false ∧
        (executionEligible = true → referenceReadiness = "POINT_IN_TIME_VERIFIED") := by
  obtain ⟨hwindow, hconditions, -, htarget, hstop, hholding, hsample⟩ := setup_check_eq_ok hsetup
  obtain ⟨expiry, hsome⟩ := Option.ne_none_iff_exists'.mp hexpiry
  have hlater : candidate.setup.earliestEntryAt.instant < expiry.instant := hwindow expiry hsome
  have hnonneg : 0 ≤ amounts.quantity := by omega
  have hpositive : ¬amounts.quantity ≤ 0 := by omega
  unfold TradeDecision.check
  simp only [raiseIf_bind_eq_ok, raiseIf_eq_ok]
  simp only [buyMaterial, TradeDecision.lacksEntry, hconditions, htarget, hstop, hsome, not_lt.mpr hnonneg,
    not_lt.mpr hsample, hpositive, not_le.mpr hholding, not_false_iff, true_and, and_true, false_or, reduceCtorEq,
    Option.mem_some_iff, exists_eq_left', not_le.mpr hlater]
  have hlimit : isBlankText "LIMIT" = false := by decide
  rw [hlimit]
  simp only [Bool.false_eq_true, false_or, Bool.not_eq_true, not_and, not_not, ne_eq]

/-- An unopposed trade becomes a decision exactly when its products are in range and it is recordable. -/
theorem approveTrade_exists (hsetup : candidate.setup.check = .ok ())
    (hexpiry : candidate.setup.entryExpiresAt ≠ none) (hquantity : 1 ≤ amounts.quantity) :
    (∃ decision, approveTrade ctx policy candidate research portfolio rank identityContext referenceReadiness
      executionEligible amounts = .ok decision) ↔
      (∃ loss, ctx.mul amounts.netLossPerShare amounts.quantity = .ok loss) ∧
        (∃ cost, ctx.mul amounts.costPerShare amounts.quantity = .ok cost) ∧
        Recordable candidate research referenceReadiness executionEligible := by
  constructor
  · rintro ⟨decision, h⟩
    unfold approveTrade at h
    obtain ⟨loss, hloss, h⟩ := bind_eq_ok.mp h
    obtain ⟨cost, hcost, h⟩ := bind_eq_ok.mp h
    obtain ⟨candidateId, hcandidate, h⟩ := bind_eq_ok.mp h
    obtain ⟨researchId, hresearch, h⟩ := bind_eq_ok.mp h
    obtain ⟨materialId, -, h⟩ := bind_eq_ok.mp h
    obtain ⟨_, hcheck, -⟩ := bind_eq_ok.mp h
    obtain ⟨hreasons, hreadiness, heligible⟩ := (buyMaterial_check _ hsetup hexpiry hquantity).mp hcheck
    exact ⟨⟨loss, hloss⟩, ⟨cost, hcost⟩, hreasons, candidate_identity_exists.mp ⟨_, hcandidate⟩,
      research_identity_exists.mp ⟨_, hresearch⟩, hreadiness, heligible⟩
  · rintro ⟨⟨loss, hloss⟩, ⟨cost, hcost⟩, hrecordable⟩
    obtain ⟨candidateId, hcandidate⟩ := candidate_identity_exists.mpr hrecordable.candidateTexts
    obtain ⟨researchId, hresearch⟩ := research_identity_exists.mpr hrecordable.researchTexts
    have hmaterial : ∃ id, (buyMaterial policy candidate research rank referenceReadiness executionEligible
        amounts loss cost).material = .ok id :=
      buyMaterial_material_exists hrecordable.candidateTexts hrecordable.researchTexts
    obtain ⟨materialId, hmaterial⟩ := hmaterial
    unfold approveTrade
    rw [hloss, ok_bind, hcost, ok_bind, hcandidate, ok_bind, hresearch, ok_bind, hmaterial, ok_bind]
    refine ⟨_, bind_eq_ok.mpr ⟨(), ?_, rfl⟩⟩
    exact (buyMaterial_check _ hsetup hexpiry hquantity).mpr
      ⟨hrecordable.reasons, hrecordable.readiness, hrecordable.eligibility⟩

end Approval

end Records

end Decision

end IndiaSwing
