import IndiaSwing.SwingSizingSafety

namespace IndiaSwing

open ExceptFold (foldItems)
open ExceptGuards (raiseIf raiseIf_neg raiseIf_false ok_bind pure_eq_ok bind_eq_ok raiseIf_bind_eq_ok)

/-- One sizing outcome, with the inputs it was evaluated from. -/
structure SwingPortfolioSizingOutcome where
  opportunity : SwingRankedOpportunity
  portfolio : SwingPortfolioSnapshot
  policy : SwingPortfolioSizingPolicy
  stateBefore : SwingCapitalAllocationState
  disposition : SwingSizingDisposition
  reasonCodes : List SwingSizingReason
  quantity : ℕ
  entryNotional : ℚ
  estimatedRoundTripCost : ℚ
  plannedMaxLoss : ℚ
  stateAfter : SwingCapitalAllocationState
  deriving DecidableEq, Repr

def sortedReasonSet (reasons : List SwingSizingReason) : List SwingSizingReason :=
  SwingSizingReason.sortedValues.filter (· ∈ reasons)

/-- The constructor's `_verify`: the outcome has to replay from its own inputs. -/
def SwingPortfolioSizingOutcome.verify (outcome : SwingPortfolioSizingOutcome) :
    Except SwingPortfolioSizingError Unit := do
  raiseIf (outcome.entryNotional < 0 ∨ outcome.estimatedRoundTripCost < 0 ∨ outcome.plannedMaxLoss < 0)
    ⟨"sizing amounts must be non-negative Decimals"⟩
  let replayed ← evaluateSizing outcome.portfolio outcome.policy outcome.stateBefore
    outcome.opportunity
  raiseIf (replayed.disposition ≠ outcome.disposition) ⟨"sizing disposition does not replay"⟩
  raiseIf (outcome.reasonCodes ≠ replayed.reasons) ⟨"sizing reasons do not replay"⟩
  raiseIf (outcome.reasonCodes ≠ sortedReasonSet outcome.reasonCodes)
    ⟨"sizing reasons must be sorted and unique"⟩
  raiseIf (outcome.quantity ≠ replayed.quantity) ⟨"sizing quantity does not replay"⟩
  raiseIf (outcome.entryNotional ≠ replayed.notional ∨
      outcome.estimatedRoundTripCost ≠ replayed.cost ∨ outcome.plannedMaxLoss ≠ replayed.loss)
    ⟨"sizing amounts do not replay"⟩
  raiseIf (outcome.stateAfter ≠ replayed.stateAfter) ⟨"allocation state does not replay"⟩
  match outcome.disposition with
  | .sized =>
    raiseIf (outcome.reasonCodes ≠ [] ∨ outcome.quantity = 0) ⟨"sized outcome is inconsistent"⟩
  | .veto =>
    raiseIf (outcome.reasonCodes = [] ∨ outcome.quantity ≠ 0)
      ⟨"vetoed sizing outcome is inconsistent"⟩

def sizedOutcomeCount (outcomes : List SwingPortfolioSizingOutcome) : ℕ :=
  (outcomes.filter (·.disposition = .sized)).length

structure SwingPortfolioSizingBatch where
  rankingBatch : SwingOpportunityRankingBatch
  portfolio : SwingPortfolioSnapshot
  policy : SwingPortfolioSizingPolicy
  outcomes : List SwingPortfolioSizingOutcome
  upstreamVetoes : List SwingQuoteGateOutcome
  sizedSubjectCount : ℕ
  vetoedSubjectCount : ℕ
  finalState : SwingCapitalAllocationState
  deriving DecidableEq, Repr

/-- The chain check of `_verify_coverage`, from the state the next outcome has to start in. -/
def SwingPortfolioSizingBatch.verifyChain (batch : SwingPortfolioSizingBatch) :
    SwingCapitalAllocationState → List (SwingPortfolioSizingOutcome × SwingRankedOpportunity) →
      Except SwingPortfolioSizingError SwingCapitalAllocationState
  | expectedState, [] => .ok expectedState
  | expectedState, (outcome, opportunity) :: rest => do
    outcome.verify
    raiseIf (outcome.opportunity ≠ opportunity)
      ⟨"sizing outcome is not bound to its ranked opportunity"⟩
    raiseIf (outcome.portfolio ≠ batch.portfolio) ⟨"sizing outcome portfolio differs"⟩
    raiseIf (outcome.policy ≠ batch.policy) ⟨"sizing outcome policy differs"⟩
    raiseIf (outcome.stateBefore ≠ expectedState) ⟨"allocation state chain is broken"⟩
    batch.verifyChain outcome.stateAfter rest

def SwingPortfolioSizingBatch.verifyCoverage (batch : SwingPortfolioSizingBatch) :
    Except SwingPortfolioSizingError Unit := do
  raiseIf (batch.upstreamVetoes ≠ batch.rankingBatch.vetoedOutcomes)
    ⟨"upstream vetoes were not preserved exactly"⟩
  raiseIf (batch.outcomes.length ≠ batch.rankingBatch.rankedOpportunities.length)
    ⟨"sizing outcomes do not exactly cover ranked opportunities"⟩
  let expectedState ← batch.verifyChain (initialState batch.portfolio)
    (batch.outcomes.zip batch.rankingBatch.rankedOpportunities)
  raiseIf (batch.finalState ≠ expectedState) ⟨"final allocation state does not replay"⟩
  raiseIf (batch.sizedSubjectCount ≠ sizedOutcomeCount batch.outcomes ∨
      batch.vetoedSubjectCount ≠ batch.outcomes.length - sizedOutcomeCount batch.outcomes)
    ⟨"sizing subject counts are inconsistent"⟩
  raiseIf (batch.finalState.openRisk > max batch.portfolio.openRisk
      (batch.portfolio.capital * batch.policy.maximumTotalOpenRiskFraction))
    ⟨"final open risk exceeds the policy limit"⟩
  raiseIf (batch.finalState.grossExposure > max batch.portfolio.grossExposure
      (batch.portfolio.capital * batch.policy.maximumGrossExposureFraction))
    ⟨"final gross exposure exceeds the policy limit"⟩

section Assembly

variable (portfolio : SwingPortfolioSnapshot) (policy : SwingPortfolioSizingPolicy)

def sizingOutcome (state : SwingCapitalAllocationState) (opportunity : SwingRankedOpportunity)
    (result : SizingEvaluation) : SwingPortfolioSizingOutcome where
  opportunity := opportunity
  portfolio := portfolio
  policy := policy
  stateBefore := state
  disposition := result.disposition
  reasonCodes := result.reasons
  quantity := result.quantity
  entryNotional := result.notional
  estimatedRoundTripCost := result.cost
  plannedMaxLoss := result.loss
  stateAfter := result.stateAfter

/-- One turn of the assembly loop: evaluate, then construct the outcome. -/
def assembleStep (state : SwingCapitalAllocationState) (opportunity : SwingRankedOpportunity) :
    Except SwingPortfolioSizingError (SwingPortfolioSizingOutcome × SwingCapitalAllocationState) := do
  let replayed ← evaluateSizing portfolio policy state opportunity
  let outcome := sizingOutcome portfolio policy state opportunity replayed
  outcome.verify
  return (outcome, replayed.stateAfter)

def sizingBatch (rankingBatch : SwingOpportunityRankingBatch)
    (outcomes : List SwingPortfolioSizingOutcome) (finalState : SwingCapitalAllocationState) :
    SwingPortfolioSizingBatch where
  rankingBatch := rankingBatch
  portfolio := portfolio
  policy := policy
  outcomes := outcomes
  upstreamVetoes := rankingBatch.vetoedOutcomes
  sizedSubjectCount := sizedOutcomeCount outcomes
  vetoedSubjectCount := outcomes.length - sizedOutcomeCount outcomes
  finalState := finalState

def assembleSwingPortfolioSizingBatch (rankingBatch : SwingOpportunityRankingBatch) :
    Except SwingPortfolioSizingError SwingPortfolioSizingBatch := do
  raiseIf (portfolio.asOf > rankingBatch.evaluatedAt)
    ⟨"portfolio snapshot is future-known"⟩
  let (outcomes, state) ← foldItems (assembleStep portfolio policy) (initialState portfolio)
    rankingBatch.rankedOpportunities
  let batch := sizingBatch portfolio policy rankingBatch outcomes state
  batch.verifyCoverage
  return batch

end Assembly

variable {portfolio : SwingPortfolioSnapshot} {policy : SwingPortfolioSizingPolicy}
variable {state final : SwingCapitalAllocationState} {opportunity : SwingRankedOpportunity}
variable {opportunities : List SwingRankedOpportunity} {outcomes : List SwingPortfolioSizingOutcome}

theorem sortedReasonSet_filter (holds : SwingSizingReason → Bool) :
    sortedReasonSet (SwingSizingReason.sortedValues.filter holds) =
      SwingSizingReason.sortedValues.filter holds := by
  refine List.filter_congr fun reason hreason => ?_
  simp [List.mem_filter, hreason]

/-- The constructor accepts every outcome that the loop builds from an evaluation. -/
theorem sizingOutcome_verify {result : SizingEvaluation}
    (h : evaluateSizing portfolio policy state opportunity = .ok result) :
    (sizingOutcome portfolio policy state opportunity result).verify = .ok () := by
  obtain ⟨levels, ask, -, hloss, hveto | hsized⟩ := evaluateSizing_ok h
  · obtain ⟨holds, hholds⟩ := hveto.sorted
    have hsorted : sortedReasonSet result.reasons = result.reasons := by
      rw [hholds]; exact sortedReasonSet_filter holds
    simp [SwingPortfolioSizingOutcome.verify, sizingOutcome, h, hveto.disposition, hveto.reasons,
      hveto.quantity, hveto.notional, hveto.cost, hveto.loss, hsorted]
  · have hquantity : (0 : ℚ) ≤ result.quantity := Nat.cast_nonneg _
    have hnotional : ¬result.notional < 0 := by
      rw [hsized.notional]; exact not_lt.mpr (mul_nonneg levels.entryHigh_pos.le hquantity)
    have hcost : ¬result.cost < 0 := by
      rw [hsized.cost]; exact not_lt.mpr (mul_nonneg levels.costPerShare_nonneg hquantity)
    have hlossAmount : ¬result.loss < 0 := by
      rw [hsized.loss]; exact not_lt.mpr (mul_nonneg hloss.le hquantity)
    have hpos : result.quantity ≠ 0 := hsized.quantity_pos.ne'
    simp [SwingPortfolioSizingOutcome.verify, sizingOutcome, h, hnotional, hcost, hlossAmount,
      hsized.disposition, hsized.reasons, hpos, sortedReasonSet]

theorem assembleStep_eq :
    assembleStep portfolio policy state opportunity =
      match evaluateSizing portfolio policy state opportunity with
      | .error e => .error e
      | .ok result =>
        .ok (sizingOutcome portfolio policy state opportunity result, result.stateAfter) := by
  unfold assembleStep
  cases h : evaluateSizing portfolio policy state opportunity with
  | error e => rfl
  | ok result => simp [sizingOutcome_verify h, pure_eq_ok]

theorem assembleStep_ok {outcome : SwingPortfolioSizingOutcome}
    (h : assembleStep portfolio policy state opportunity = .ok (outcome, final)) :
    ∃ result, evaluateSizing portfolio policy state opportunity = .ok result ∧
      outcome = sizingOutcome portfolio policy state opportunity result ∧
      final = result.stateAfter := by
  rw [assembleStep_eq] at h
  split at h
  next => cases h
  next result heval =>
    obtain ⟨rfl, rfl⟩ := Prod.mk.inj (Except.ok.inj h)
    exact ⟨result, heval, rfl, rfl⟩

/-- The evaluation that an outcome records. -/
def SwingPortfolioSizingOutcome.evaluation (outcome : SwingPortfolioSizingOutcome) : SizingEvaluation where
  disposition := outcome.disposition
  reasons := outcome.reasonCodes
  quantity := outcome.quantity
  notional := outcome.entryNotional
  cost := outcome.estimatedRoundTripCost
  loss := outcome.plannedMaxLoss
  stateAfter := outcome.stateAfter

/-- A turn of the assembly records a step of the plain fold. -/
theorem sizingStep_eq : sizingStep portfolio policy state opportunity =
    (assembleStep portfolio policy state opportunity).map (Prod.map (·.evaluation) id) := by
  rw [assembleStep_eq, sizingStep]
  cases evaluateSizing portfolio policy state opportunity with
  | error e => rfl
  | ok result => rfl

theorem verifyChain_assembled {batch : SwingPortfolioSizingBatch} (hportfolio : batch.portfolio = portfolio)
    (hpolicy : batch.policy = policy)
    (h : foldItems (assembleStep portfolio policy) state opportunities = .ok (outcomes, final)) :
    batch.verifyChain state (outcomes.zip opportunities) = .ok final := by
  induction opportunities generalizing state outcomes with
  | nil =>
    simp only [ExceptFold.foldItems_nil, Except.ok.injEq, Prod.mk.injEq] at h
    simp [← h.1, ← h.2, SwingPortfolioSizingBatch.verifyChain]
  | cons opportunity rest ih =>
    obtain ⟨outcome, next, outs, hstep, hrest, rfl⟩ := ExceptFold.foldItems_cons_ok h
    obtain ⟨result, heval, rfl, rfl⟩ := assembleStep_ok hstep
    have hverify := sizingOutcome_verify heval
    have htail := ih hrest
    simp only [List.zip_cons_cons, SwingPortfolioSizingBatch.verifyChain, hverify, ok_bind]
    simpa [sizingOutcome, hportfolio, hpolicy] using htail

/-- None of the batch checks rejects what the loop built. -/
theorem verifyCoverage_assembled {rankingBatch : SwingOpportunityRankingBatch}
    {results : List SizingEvaluation}
    (hassemble : foldItems (assembleStep portfolio policy) (initialState portfolio)
      rankingBatch.rankedOpportunities = .ok (outcomes, final))
    (hsafe : AllocationSafe portfolio policy results final) :
    (sizingBatch portfolio policy rankingBatch outcomes final).verifyCoverage = .ok () := by
  have hlength := ExceptFold.foldItems_length hassemble
  have hchain : (sizingBatch portfolio policy rankingBatch outcomes final).verifyChain
      (initialState portfolio) (outcomes.zip rankingBatch.rankedOpportunities) = .ok final :=
    verifyChain_assembled rfl rfl hassemble
  have hrisk : ¬(max portfolio.openRisk (portfolio.capital * policy.maximumTotalOpenRiskFraction) <
      final.openRisk) := not_lt.mpr hsafe.risk
  have hgross : ¬(max portfolio.grossExposure
      (portfolio.capital * policy.maximumGrossExposureFraction) < final.grossExposure) :=
    not_lt.mpr hsafe.gross
  simp only [SwingPortfolioSizingBatch.verifyCoverage, sizingBatch] at hchain ⊢
  rw [hchain]
  simp only [hlength, hrisk, hgross, ne_eq, not_true_eq_false, or_self, raiseIf_false, ok_bind]

/-- The assembly makes what the plain fold makes: none of the checks of an outcome or of the batch ever
rejects what the loop built. -/
theorem assembleSwingPortfolioSizingBatch_iff {rankingBatch : SwingOpportunityRankingBatch}
    {results : List SizingEvaluation} :
    (∃ batch, assembleSwingPortfolioSizingBatch portfolio policy rankingBatch = .ok batch ∧
        batch.outcomes.map (·.evaluation) = results ∧ batch.finalState = final) ↔
      portfolio.asOf ≤ rankingBatch.evaluatedAt ∧
        foldSizing portfolio policy rankingBatch.rankedOpportunities = .ok (results, final) := by
  have hfold : foldSizing portfolio policy rankingBatch.rankedOpportunities = _ :=
    ExceptFold.foldItems_map fun _ _ => sizingStep_eq
  constructor
  · rintro ⟨batch, h, rfl, rfl⟩
    obtain ⟨hasOf, h⟩ := raiseIf_bind_eq_ok.mp h
    obtain ⟨⟨outcomes, final⟩, hassemble, h⟩ := bind_eq_ok.mp h
    obtain ⟨_, -, h⟩ := bind_eq_ok.mp h
    obtain rfl := Except.ok.inj h
    rw [hassemble] at hfold
    exact ⟨not_lt.mp hasOf, hfold⟩
  · rintro ⟨hasOf, h⟩
    have hsafe := foldSizing_safe h
    rw [hfold] at h
    cases hassemble : foldItems (assembleStep portfolio policy) (initialState portfolio)
        rankingBatch.rankedOpportunities with
    | error e =>
      rw [hassemble] at h
      cases h
    | ok made =>
      obtain ⟨outcomes, reached⟩ := made
      rw [hassemble] at h
      obtain ⟨rfl, rfl⟩ := Prod.mk.inj (Except.ok.inj h)
      have hcoverage := verifyCoverage_assembled hassemble hsafe
      refine ⟨sizingBatch portfolio policy rankingBatch outcomes reached, ?_, rfl, rfl⟩
      simp only [assembleSwingPortfolioSizingBatch, raiseIf_neg (not_lt.mpr hasOf), ok_bind, hassemble,
        hcoverage, pure_eq_ok]

end IndiaSwing
