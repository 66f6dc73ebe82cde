import IndiaSwing.Lib.DecimalSigns
import IndiaSwing.PromotedIntentBatches

namespace IndiaSwing

open ExceptGuards TextPatterns DecimalContext

section Intents

variable (ctx : DecimalContext)

/-- The cost that is kept back for a candidate. -/
def estimatedCostBuffer (config : IntentPolicyFields) (candidate : PreparedCandidateFields) : ℚ :=
  ctx.mul candidate.entryPrice config.roundTripCostBufferFraction

def netReward (entry target costBuffer : ℚ) : ℚ := ctx.sub (ctx.sub target entry) costBuffer

def netRisk (entry stop costBuffer : ℚ) : ℚ := ctx.add (ctx.sub entry stop) costBuffer

/-- The reward to risk that the third loop of `generate` computes for a candidate. -/
def plannedNetRewardRisk (config : IntentPolicyFields) (candidate : PreparedCandidateFields) : ℚ :=
  let costBuffer := estimatedCostBuffer ctx config candidate
  ctx.div (netReward ctx candidate.entryPrice candidate.targetPrice costBuffer)
    (netRisk ctx candidate.entryPrice candidate.stopPrice costBuffer)

structure ResearchIntentFields where
  decisionId : ContentId
  sourceCrossSectionPanelId : ContentId
  sourceFeatureId : ContentId
  opportunityId : ContentId
  stableInstrumentId : ContentId
  stableListingId : ContentId
  universeSnapshotId : ContentId
  evaluationIntent : EvaluationTradeIntent
  estimatedCostBuffer : ℚ
  plannedNetRewardRisk : ℚ

/-- The reward to risk that an intent computes again from its own orders. -/
def ResearchIntentFields.recomputedRewardRisk (intent : ResearchIntentFields) : ℚ :=
  let entry := intent.evaluationIntent.entryOrder.limitPrice
  ctx.div (netReward ctx entry intent.evaluationIntent.targetPrice intent.estimatedCostBuffer)
    (netRisk ctx entry intent.evaluationIntent.stopPrice intent.estimatedCostBuffer)

/-- `PromotedResearchTradeIntent.__post_init__` under a context -/
def validateResearchIntent (intent : ResearchIntentFields) : Except String Unit := do
  raiseIf (intent.evaluationIntent.signalId ≠ intent.decisionId ∨
      intent.evaluationIntent.universeSnapshotId ≠ intent.universeSnapshotId ∨
      intent.estimatedCostBuffer ≤ 0 ∨ intent.plannedNetRewardRisk ≤ 0 ∨
      intent.plannedNetRewardRisk < 5 / 2)
    "promoted intent graph is invalid"
  raiseIf (netRisk ctx intent.evaluationIntent.entryOrder.limitPrice intent.evaluationIntent.stopPrice
        intent.estimatedCostBuffer ≤ 0 ∨
      intent.recomputedRewardRisk ctx ≠ intent.plannedNetRewardRisk)
    "promoted intent graph is invalid"

/-- The body of the third loop of `generate`, under a context: the intent of a selected candidate. -/
def researchIntent (panel : VerifiedPromotedCrossSectionPanel) (config : IntentPolicyFields)
    (entrySession : SessionDate) (candidate : PreparedCandidate) (decision : PromotedCandidateDecision) :
    Except String {intent : ResearchIntentFields // validateResearchIntent ctx intent = .ok ()} := do
  let prepared := candidate.1
  raiseIf (prepared.symbol = "" ∨ ¬isNormalizedUpper prepared.symbol)
    "symbol must be normalized uppercase text"
  let entryOrder ← (LimitEntryOrder.create prepared.symbol panel.signalSession entrySession entrySession
    prepared.quantity.toNat prepared.entryPrice prepared.vector.signalTickSize
      config.maximumParticipation).mapError (·.message)
  let evaluationIntent ← EvaluationTradeIntent.create decision.1.decisionId prepared.universeSnapshotId
    prepared.isin entryOrder prepared.stopPrice prepared.targetPrice config.maximumHoldingSessions
  Checked.build (validateResearchIntent ctx)
    { decisionId := decision.1.decisionId
      sourceCrossSectionPanelId := panel.panelId
      sourceFeatureId := prepared.vector.featureId
      opportunityId := prepared.opportunity.opportunityId
      stableInstrumentId := prepared.opportunity.stableInstrumentId
      stableListingId := prepared.opportunity.stableListingId
      universeSnapshotId := prepared.universeSnapshotId
      evaluationIntent := evaluationIntent
      estimatedCostBuffer := estimatedCostBuffer ctx config prepared
      plannedNetRewardRisk := plannedNetRewardRisk ctx config prepared }

/-- Every price of a candidate is a multiple of its tick. -/
structure PricesOnTick (candidate : PreparedCandidateFields) : Prop where
  entry : OnTick candidate.entryPrice candidate.vector.signalTickSize
  stop : OnTick candidate.stopPrice candidate.vector.signalTickSize
  target : OnTick candidate.targetPrice candidate.vector.signalTickSize

/-- The reward that a candidate's prices leave over its cost comes within half a unit of the last place
of two and a half times the risk. -/
def LeavesReward (config : IntentPolicyFields) (candidate : PreparedCandidateFields) : Prop :=
  let costBuffer := estimatedCostBuffer (ofPrecision 28) config candidate
  (5 / 2 - 5 / 10 ^ 28) * netRisk (ofPrecision 28) candidate.entryPrice candidate.stopPrice costBuffer ≤
    netReward (ofPrecision 28) candidate.entryPrice candidate.targetPrice costBuffer

end Intents

section Checks

variable {ctx : DecimalContext} {panel : VerifiedPromotedCrossSectionPanel}
variable {config : PromotedIntentPolicyConfig} {entrySession : SessionDate} {capital : ℚ}
variable {candidate : PreparedCandidate} {decision : PromotedCandidateDecision}
variable {result : PromotedCrossSectionResult} {opportunity : PromotedOpportunityScore}
variable {vector : PromotedTechnicalFeatureVector} {intent : ResearchIntentFields}

theorem validateResearchIntent_eq_ok : validateResearchIntent ctx intent = .ok () ↔
    (intent.evaluationIntent.signalId = intent.decisionId ∧
      intent.evaluationIntent.universeSnapshotId = intent.universeSnapshotId ∧
      0 < intent.estimatedCostBuffer ∧ 5 / 2 ≤ intent.plannedNetRewardRisk) ∧
    0 < netRisk ctx intent.evaluationIntent.entryOrder.limitPrice intent.evaluationIntent.stopPrice
      intent.estimatedCostBuffer ∧
    intent.recomputedRewardRisk ctx = intent.plannedNetRewardRisk := by
  unfold validateResearchIntent
  simp only [raiseIf_bind_eq_ok, raiseIf_eq_ok]
  simp only [not_or, not_not, not_le, not_lt]
  constructor
  · rintro ⟨⟨hsignal, hsnapshot, hbuffer, -, hplanned⟩, hrisk, hratio⟩
    exact ⟨⟨hsignal, hsnapshot, hbuffer, hplanned⟩, hrisk, hratio⟩
  · rintro ⟨⟨hsignal, hsnapshot, hbuffer, hplanned⟩, hrisk, hratio⟩
    exact ⟨⟨hsignal, hsnapshot, hbuffer, by linarith, hplanned⟩, hrisk, hratio⟩

/-- Under exact arithmetic these are the checks with which an intent is made. -/
theorem validateResearchIntent_exact (decisionId panelId : ContentId) (candidate : PreparedCandidateFields)
    (evaluationIntent : EvaluationTradeIntent) (costBuffer planned : ℚ) :
    validateResearchIntent .exact
        ⟨decisionId, panelId, candidate.vector.featureId, candidate.opportunity.opportunityId,
          candidate.opportunity.stableInstrumentId, candidate.opportunity.stableListingId,
          candidate.universeSnapshotId, evaluationIntent, costBuffer, planned⟩ = .ok () ↔
      ∃ intent, IdentifiedResearchIntent.create decisionId panelId candidate evaluationIntent costBuffer
        planned = .ok intent := by
  rw [validateResearchIntent_eq_ok]
  constructor
  · rintro ⟨⟨hsignal, hsnapshot, hbuffer, hplanned⟩, hrisk, hratio⟩
    have hexact : 0 < evaluationIntent.entryOrder.limitPrice - evaluationIntent.stopPrice + costBuffer := hrisk
    have hsame : (evaluationIntent.targetPrice - evaluationIntent.entryOrder.limitPrice - costBuffer) /
        (evaluationIntent.entryOrder.limitPrice - evaluationIntent.stopPrice + costBuffer) = planned := hratio
    unfold IdentifiedResearchIntent.create
    dsimp only
    rw [dif_neg (not_or.mpr ⟨not_not.mpr hsignal, not_not.mpr hsnapshot⟩), dif_neg (not_le.mpr hbuffer),
      dif_neg (not_lt.mpr hplanned), dif_neg (not_le.mpr hexact), dif_neg (not_not.mpr hsame)]
    exact ⟨_, rfl⟩
  · rintro ⟨intent, h⟩
    unfold IdentifiedResearchIntent.create at h
    dsimp only at h
    split_ifs at h with hids hbuffer hplanned hrisk hratio
    rw [not_or, not_not, not_not] at hids
    exact ⟨⟨hids.1, hids.2, not_le.mp hbuffer, not_lt.mp hplanned⟩, not_le.mp hrisk, not_not.mp hratio⟩

theorem limitEntryOrder_create_ok {symbol : String} {signalSession firstSession expirySession : SessionDate}
    {quantity : ℕ} {limitPrice tickSize participation : ℚ} {order : LimitEntryOrder}
    (h : LimitEntryOrder.create symbol signalSession firstSession expirySession quantity limitPrice tickSize
      participation = .ok order) :
    order.limitPrice = limitPrice ∧ order.tickSize = tickSize ∧ OnTick limitPrice tickSize := by
  unfold LimitEntryOrder.create at h
  split_ifs at h with _ _ _ _ _ hon
  obtain rfl := Except.ok.inj h
  exact ⟨rfl, rfl, hon⟩

theorem evaluationTradeIntent_create_ok {signalId snapshotId : ContentId} {isin : String}
    {order : LimitEntryOrder} {stop target : ℚ} {holding : ℕ} {evaluationIntent : EvaluationTradeIntent}
    (h : EvaluationTradeIntent.create signalId snapshotId isin order stop target holding =
      .ok evaluationIntent) :
    evaluationIntent.signalId = signalId ∧ evaluationIntent.universeSnapshotId = snapshotId ∧
      evaluationIntent.entryOrder = order ∧ evaluationIntent.stopPrice = stop ∧
      evaluationIntent.targetPrice = target := by
  unfold EvaluationTradeIntent.create at h
  split_ifs at h
  obtain rfl := Except.ok.inj h
  exact ⟨rfl, rfl, rfl, rfl, rfl⟩

/-- What a prepared candidate passed. -/
structure CandidateBounds (candidate : PreparedCandidateFields) : Prop where
  symbol : candidate.symbol ≠ "" ∧ isNormalizedUpper candidate.symbol = true
  entry_pos : 0 < candidate.entryPrice
  stop_pos : 0 < candidate.stopPrice
  target_pos : 0 < candidate.targetPrice
  stop_lt : candidate.stopPrice < candidate.entryPrice
  lt_target : candidate.entryPrice < candidate.targetPrice
  quantity_pos : 0 < candidate.quantity

theorem candidateBounds (candidate : PreparedCandidate) : CandidateBounds candidate.1 := by
  have h := candidate.2
  simp only [validatePreparedCandidate, raiseIf_eq_ok, not_or, not_not, not_le] at h
  obtain ⟨hsymbol, hupper, -, -, hentry, hstop, htarget, hprices, hquantity⟩ := h
  exact ⟨⟨hsymbol, hupper⟩, hentry, hstop, htarget, hprices.1, hprices.2, hquantity⟩

/-- The ISIN of a prepared candidate is that of the last bar of its history. -/
theorem prepareCandidate_isin
    (h : prepareCandidate ctx result opportunity vector config.1 capital = .ok (some candidate)) :
    candidate.1.isin.toList.length = 12 ∧ isNormalizedUpper candidate.1.isin = true := by
  obtain ⟨security, hsecurity, h⟩ := bind_eq_ok.mp h
  have hisin : candidate.1.isin = security.isin := by
    split at h
    · cases Except.ok.inj h
    · obtain ⟨built, hbuilt, h⟩ := bind_eq_ok.mp h
      obtain rfl := Option.some.inj (Except.ok.inj h)
      rw [← Checked.build_eq_ok.mp hbuilt]
  unfold sourceSecurity at hsecurity
  dsimp only at hsecurity
  split at hsecurity
  · cases hsecurity
  · split at hsecurity
    · next bar binding hbar hbinding =>
      rw [raiseIf_bind_eq_ok, raiseIf_bind_eq_ok] at hsecurity
      obtain rfl := Except.ok.inj hsecurity.2.2
      rw [hisin]
      exact isin_normalized bar.isin_valid
    · cases hsecurity

theorem estimatedCostBuffer_pos {digits : ℕ} (hdigits : 1 ≤ digits) (config : PromotedIntentPolicyConfig)
    (candidate : PreparedCandidate) : 0 < estimatedCostBuffer (ofPrecision digits) config.1 candidate.1 :=
  ofPrecision_pos hdigits (mul_pos (candidateBounds candidate).entry_pos (policyBounds config).buffer)

theorem netRisk_pos {digits : ℕ} (hdigits : 1 ≤ digits) (config : PromotedIntentPolicyConfig)
    (candidate : PreparedCandidate) :
    0 < netRisk (ofPrecision digits) candidate.1.entryPrice candidate.1.stopPrice
      (estimatedCostBuffer (ofPrecision digits) config.1 candidate.1) := by
  have hspread : 0 < (ofPrecision digits).sub candidate.1.entryPrice candidate.1.stopPrice :=
    ofPrecision_pos hdigits (sub_pos.mpr (candidateBounds candidate).stop_lt)
  exact ofPrecision_pos hdigits (add_pos hspread (estimatedCostBuffer_pos hdigits config candidate))

/-- A prepared candidate's intent is made when its prices are on its tick and the planned ratio reaches
its bound: the ratio that the intent computes again is the same. -/
theorem researchIntent_iff {digits : ℕ} (hdigits : 1 ≤ digits)
    (h : prepareCandidate (ofPrecision digits) result opportunity vector config.1 capital = .ok (some candidate))
    (hsession : panel.signalSession < entrySession) (decision : PromotedCandidateDecision) :
    (∃ intent, researchIntent (ofPrecision digits) panel config.1 entrySession candidate decision = .ok intent) ↔
      PricesOnTick candidate.1 ∧ 5 / 2 ≤ plannedNetRewardRisk (ofPrecision digits) config.1 candidate.1 := by
  have hbounds := candidateBounds candidate
  have hpolicy := policyBounds config
  have hisin := prepareCandidate_isin h
  unfold researchIntent
  dsimp only
  constructor
  · rintro ⟨intent, hintent⟩
    rw [raiseIf_bind_eq_ok] at hintent
    obtain ⟨order, horder, hintent⟩ := bind_eq_ok.mp hintent.2
    obtain ⟨evaluationIntent, hevaluation, hintent⟩ := bind_eq_ok.mp hintent
    obtain ⟨-, htick, hon⟩ := limitEntryOrder_create_ok (mapError_eq_ok.mp horder)
    obtain ⟨-, -, heq, hstop, htarget⟩ := evaluationTradeIntent_create_ok hevaluation
    have hstopTick := evaluationIntent.stop_onTick
    have htargetTick := evaluationIntent.target_onTick
    rw [heq, htick] at hstopTick htargetTick
    have hchecks := intent.2
    rw [← Checked.build_eq_ok.mp hintent, validateResearchIntent_eq_ok] at hchecks
    exact ⟨⟨hon, hstop ▸ hstopTick, htarget ▸ htargetTick⟩, hchecks.1.2.2.2⟩
  · rintro ⟨hticks, hplanned⟩
    have hbuffer := estimatedCostBuffer_pos hdigits config candidate
    have hrisk := netRisk_pos hdigits config candidate
    have hquantity : candidate.1.quantity.toNat ≠ 0 := by
      have := hbounds.quantity_pos
      omega
    have hsymbol : ¬(candidate.1.symbol = "" ∨ ¬isNormalizedUpper candidate.1.symbol) := by
      rw [not_or, not_not]
      exact hbounds.symbol
    have hisinChecks : ¬(candidate.1.isin.toList.length ≠ 12 ∨ ¬isNormalizedUpper candidate.1.isin) := by
      rw [not_or, not_not, not_not]
      exact hisin
    rw [raiseIf_neg hsymbol, ok_bind]
    unfold LimitEntryOrder.create
    rw [dif_neg (not_le.mpr hsession), dif_neg (lt_irrefl _), dif_neg hquantity,
      dif_neg (not_le.mpr hbounds.entry_pos), dif_neg (not_le.mpr candidate.1.vector.tick_pos),
      dif_neg (not_not.mpr hticks.entry), dif_neg (not_not.mpr hpolicy.participation)]
    rw [ok_mapError, ok_bind]
    unfold EvaluationTradeIntent.create
    rw [if_neg hisinChecks, dif_neg (not_le.mpr hbounds.stop_pos), dif_neg (not_not.mpr hticks.stop),
      dif_neg (not_le.mpr hbounds.target_pos), dif_neg (not_not.mpr hticks.target),
      dif_neg (not_not.mpr ⟨hbounds.stop_lt, hbounds.lt_target⟩), dif_neg hpolicy.holding.ne', ok_bind]
    exact ⟨_, Checked.build_of_ok (validateResearchIntent_eq_ok.mpr ⟨⟨rfl, rfl, hbuffer, hplanned⟩, hrisk, rfl⟩)⟩

/-- The ratio that an intent carries is the planned one, and the one that it computes again. -/
theorem researchIntent_ratio {intent : {intent : ResearchIntentFields // validateResearchIntent ctx intent = .ok ()}}
    (h : researchIntent ctx panel config.1 entrySession candidate decision = .ok intent) :
    intent.1.plannedNetRewardRisk = plannedNetRewardRisk ctx config.1 candidate.1 ∧
      intent.1.recomputedRewardRisk ctx = plannedNetRewardRisk ctx config.1 candidate.1 := by
  unfold researchIntent at h
  dsimp only at h
  rw [raiseIf_bind_eq_ok] at h
  obtain ⟨order, -, h⟩ := bind_eq_ok.mp h.2
  obtain ⟨evaluationIntent, -, h⟩ := bind_eq_ok.mp h
  have hplanned : intent.1.plannedNetRewardRisk = plannedNetRewardRisk ctx config.1 candidate.1 := by
    rw [← Checked.build_eq_ok.mp h]
  exact ⟨hplanned, (validateResearchIntent_eq_ok.mp intent.2).2.2.trans hplanned⟩

end Checks

section Bound

variable {panel : VerifiedPromotedCrossSectionPanel} {config : PromotedIntentPolicyConfig}
variable {entrySession : SessionDate} {capital : ℚ} {candidate : PreparedCandidate}
variable {result : PromotedCrossSectionResult} {opportunity : PromotedOpportunityScore}
variable {vector : PromotedTechnicalFeatureVector} {value : ℚ}

/-- Two and a half has an even last digit among 28. -/
theorem fiveHalves_le_round_iff : 5 / 2 ≤ (ofPrecision 28).round value ↔ 5 / 2 - 5 / 10 ^ 28 ≤ value := by
  rcases le_or_gt value 0 with hneg | hpos
  · have hround := @ofPrecision_nonpos 28 value hneg
    constructor
    · intro h
      linarith
    · intro h
      norm_num at h
      linarith
  · have hplaces := @le_ofPrecision_iff 28 value (by decide) (25 * 10 ^ 26) (-27) (by decide) (by decide) (by decide) hpos
    norm_num at hplaces ⊢
    exact hplaces

theorem fiveHalves_le_planned_iff (config : PromotedIntentPolicyConfig) (candidate : PreparedCandidate) :
    5 / 2 ≤ plannedNetRewardRisk (ofPrecision 28) config.1 candidate.1 ↔ LeavesReward config.1 candidate.1 := by
  have hrisk := @netRisk_pos 28 (by decide) config candidate
  rw [plannedNetRewardRisk, DecimalContext.div, fiveHalves_le_round_iff, le_div_iff₀ hrisk]
  exact Iff.rfl

/-- A policy at the smallest ratio, with a cost fraction of many digits. -/
def narrowIntentPolicy : IntentPolicyFields :=
  { plainIntentPolicy with
    stopAtrMultiple := 5 / 2
    minimumNetRewardRisk := 5 / 2
    roundTripCostBufferFraction := 28571428571428571428571429 / 10 ^ 28 }

theorem narrowIntentPolicy_valid : validateIntentPolicy narrowIntentPolicy = .ok () := by
  unfold validateIntentPolicy
  rw [raiseIf_eq_ok]
  decide +kernel

end Bound

end IndiaSwing
