import IndiaSwing.SwingSizing

namespace IndiaSwing

open ExceptFold (foldItems)

section Fold

variable (portfolio : SwingPortfolioSnapshot) (policy : SwingPortfolioSizingPolicy)

def sizingStep (state : SwingCapitalAllocationState) (opportunity : SwingRankedOpportunity) :
    Except SwingPortfolioSizingError (SizingEvaluation × SwingCapitalAllocationState) :=
  match evaluateSizing portfolio policy state opportunity with
  | .error e => .error e
  | .ok result => .ok (result, result.stateAfter)

/-- The allocation loop: every opportunity is evaluated in the state its predecessors left. -/
def foldSizing (opportunities : List SwingRankedOpportunity) :
    Except SwingPortfolioSizingError (List SizingEvaluation × SwingCapitalAllocationState) :=
  foldItems (sizingStep portfolio policy) (initialState portfolio) opportunities

end Fold

/-- The notionals and costs of the sized results. -/
def sizedSpend (results : List SizingEvaluation) : ℚ :=
  ((results.filter (·.disposition = .sized)).map fun result => result.notional + result.cost).sum

def sizedCount (results : List SizingEvaluation) : ℕ :=
  (results.filter (·.disposition = .sized)).length

/-- The limits that every state of a run keeps, given the results that led to it. -/
structure AllocationSafe (portfolio : SwingPortfolioSnapshot) (policy : SwingPortfolioSizingPolicy)
    (results : List SizingEvaluation) (state : SwingCapitalAllocationState) : Prop where
  cash_nonneg : 0 ≤ state.cashAvailable
  cash : state.cashAvailable = portfolio.cashAvailable - sizedSpend results
  risk : state.openRisk ≤
    max portfolio.openRisk (portfolio.capital * policy.maximumTotalOpenRiskFraction)
  gross : state.grossExposure ≤
    max portfolio.grossExposure (portfolio.capital * policy.maximumGrossExposureFraction)
  positions : state.openPositions = portfolio.openPositions + sizedCount results
  positions_le : state.openPositions ≤ max portfolio.openPositions policy.maximumOpenPositions
  new_le : sizedCount results ≤ policy.maximumNewPositionsPerRun
  loss_le : ∀ result ∈ results, result.disposition = .sized →
    result.loss ≤ portfolio.capital * policy.perTradeRiskFraction

variable {portfolio : SwingPortfolioSnapshot} {policy : SwingPortfolioSizingPolicy}
variable {state : SwingCapitalAllocationState} {results : List SizingEvaluation}
variable {result : SizingEvaluation} {levels : SwingTradeLevels} {opportunity : SwingRankedOpportunity}

theorem sizingStep_ok {after : SwingCapitalAllocationState}
    (h : sizingStep portfolio policy state opportunity = .ok (result, after)) :
    evaluateSizing portfolio policy state opportunity = .ok result ∧ after = result.stateAfter := by
  unfold sizingStep at h
  split at h
  next => cases h
  next result' heval =>
    obtain ⟨rfl, rfl⟩ := Prod.mk.inj (Except.ok.inj h)
    exact ⟨heval, rfl⟩

theorem sizedSpend_append_vetoed (h : result.disposition = .veto) :
    sizedSpend (results ++ [result]) = sizedSpend results := by
  simp [sizedSpend, List.filter_append, h]

theorem sizedSpend_append_sized (h : result.disposition = .sized) :
    sizedSpend (results ++ [result]) = sizedSpend results + (result.notional + result.cost) := by
  simp [sizedSpend, List.filter_append, h]

theorem sizedCount_append_vetoed (h : result.disposition = .veto) :
    sizedCount (results ++ [result]) = sizedCount results := by
  simp [sizedCount, List.filter_append, h]

theorem sizedCount_append_sized (results : List SizingEvaluation) (h : result.disposition = .sized) :
    sizedCount (results ++ [result]) = sizedCount results + 1 := by
  simp [sizedCount, List.filter_append, h]

theorem allocationSafe_initial : AllocationSafe portfolio policy [] (initialState portfolio) where
  cash_nonneg := portfolio.cash_nonneg
  cash := by simp [initialState, sizedSpend]
  risk := le_max_left _ _
  gross := le_max_left _ _
  positions := rfl
  positions_le := le_max_left _ _
  new_le := Nat.zero_le _
  loss_le := by simp

theorem AllocationSafe.vetoed (hsafe : AllocationSafe portfolio policy results state)
    (h : VetoedFrom state result) :
    AllocationSafe portfolio policy (results ++ [result]) result.stateAfter := by
  rw [h.stateAfter]
  refine { hsafe with
    cash := (sizedSpend_append_vetoed h.disposition).symm ▸ hsafe.cash
    positions := (sizedCount_append_vetoed h.disposition).symm ▸ hsafe.positions
    new_le := (sizedCount_append_vetoed h.disposition).symm ▸ hsafe.new_le
    loss_le := fun r hr hsized => ?_ }
  rcases List.mem_append.mp hr with hold | hnew
  · exact hsafe.loss_le r hold hsized
  · rw [List.mem_singleton.mp hnew, h.disposition] at hsized
    cases hsized

section Sized

variable {medianTradedValue : ℚ} {ask : ℕ} (hloss : 0 < levels.lossPerShare)
  (h : SizedFrom portfolio policy state levels
    (sizingCaps portfolio policy state levels medianTradedValue ask) result)

include hloss h

theorem SizedFrom.loss_le : result.loss ≤ portfolio.capital * policy.perTradeRiskFraction := by
  have hcap := h.quantity.le.trans SizingCaps.quantity_le_risk
  rw [sizingCaps_riskQuantity hloss] at hcap
  rw [h.loss]
  exact UnitBudget.spend_le hloss h.quantity_pos.ne' (hcap.trans (min_le_left _ _))

theorem SizedFrom.risk_le : result.stateAfter.openRisk ≤
    max state.openRisk (portfolio.capital * policy.maximumTotalOpenRiskFraction) := by
  have hcap := h.quantity.le.trans SizingCaps.quantity_le_risk
  rw [sizingCaps_riskQuantity hloss] at hcap
  rw [h.riskAfter, h.loss]
  exact UnitBudget.spend_le_max hloss h.quantity_pos.ne' (hcap.trans (min_le_right _ _))

omit hloss in
theorem SizedFrom.gross_le : result.stateAfter.grossExposure ≤
    max state.grossExposure (portfolio.capital * policy.maximumGrossExposureFraction) := by
  have hcap := h.quantity.le.trans SizingCaps.quantity_le_gross
  rw [sizingCaps_grossQuantity] at hcap
  rw [h.grossAfter, h.notional]
  exact UnitBudget.spend_le_max levels.entryHigh_pos h.quantity_pos.ne' hcap

omit hloss in
theorem SizedFrom.slots : state.openPositions < policy.maximumOpenPositions ∧
    (state.openPositions : ℤ) - portfolio.openPositions < policy.maximumNewPositionsPerRun := by
  have hno := sizingReasons_eq_nil.mp h.unreasoned
  have hopen := hno .maxOpenPositionsReached
  have hnew := hno .maxNewPositionsPerRunReached
  simp only [sizingReasonHolds, decide_eq_false_iff_not, not_le] at hopen hnew
  exact ⟨hopen, hnew⟩

theorem AllocationSafe.sized (hsafe : AllocationSafe portfolio policy results state) :
    AllocationSafe portfolio policy (results ++ [result]) result.stateAfter := by
  obtain ⟨hopen, hnew⟩ := h.slots
  have hcount := sizedCount_append_sized results h.disposition
  have hpositions := hsafe.positions
  refine ⟨result.stateAfter.cash_nonneg, ?_, ?_, ?_, ?_, ?_, ?_, ?_⟩
  · rw [h.cashAfter, hsafe.cash, sizedSpend_append_sized h.disposition]
    ring
  · exact (h.risk_le hloss).trans (max_le hsafe.risk (le_max_right _ _))
  · exact h.gross_le.trans (max_le hsafe.gross (le_max_right _ _))
  · rw [h.positionsAfter, hcount]
    omega
  · rw [h.positionsAfter]
    exact le_max_of_le_right hopen
  · rw [hcount]
    omega
  · intro r hr hsized
    rcases List.mem_append.mp hr with hold | hlast
    · exact hsafe.loss_le r hold hsized
    · rw [List.mem_singleton.mp hlast]
      exact h.loss_le hloss

end Sized

theorem AllocationSafe.step {after : SwingCapitalAllocationState}
    (hsafe : AllocationSafe portfolio policy results state)
    (h : sizingStep portfolio policy state opportunity = .ok (result, after)) :
    AllocationSafe portfolio policy (results ++ [result]) after := by
  obtain ⟨heval, rfl⟩ := sizingStep_ok h
  obtain ⟨levels, ask, -, hloss, hveto | hsized⟩ := evaluateSizing_ok heval
  · exact hsafe.vetoed hveto
  · exact AllocationSafe.sized hloss hsized hsafe

theorem foldSizing_safe {opportunities : List SwingRankedOpportunity}
    (h : foldSizing portfolio policy opportunities = .ok (results, state)) :
    AllocationSafe portfolio policy results state := by
  refine ExceptFold.foldItems_invariant (P := AllocationSafe portfolio policy) []
    allocationSafe_initial ?_ h
  intro done s opportunity result next _ hsafe hstep
  exact hsafe.step hstep

theorem foldSizing_error {opportunities : List SwingRankedOpportunity} {e : SwingPortfolioSizingError}
    (h : foldSizing portfolio policy opportunities = .error e) :
    e ∈ opportunityErrors ∧ ∃ opportunity ∈ opportunities, ¬ opportunity.Sizable := by
  obtain ⟨before, opportunity, after, outs, s, rfl, -, hstep⟩ := ExceptFold.foldItems_error h
  unfold sizingStep at hstep
  split at hstep
  next e' heval =>
    obtain rfl := Except.error.inj hstep
    obtain ⟨hmem, hsizable⟩ := evaluateSizing_error heval
    exact ⟨hmem, opportunity, by simp, hsizable⟩
  next => cases hstep

theorem foldSizing_of_sizable {opportunities : List SwingRankedOpportunity}
    (h : ∀ opportunity ∈ opportunities, opportunity.Sizable) :
    ∃ results state, foldSizing portfolio policy opportunities = .ok (results, state) := by
  cases hfold : foldSizing portfolio policy opportunities with
  | ok pair => exact ⟨pair.1, pair.2, rfl⟩
  | error e =>
    obtain ⟨-, opportunity, hmem, hnot⟩ := foldSizing_error hfold
    exact absurd (h opportunity hmem) hnot

theorem evaluateSizing_veto_state
    (h : evaluateSizing portfolio policy state opportunity = .ok result)
    (hveto : result.disposition = .veto) : result.stateAfter = state := by
  obtain ⟨levels, ask, -, -, hv | hs⟩ := evaluateSizing_ok h
  · exact hv.stateAfter
  · rw [hs.disposition] at hveto
    cases hveto

/-- Every prefix of a ranked list leaves the allocation inside its limits, a veto changes nothing,
and the two internal errors of the sizing never arise. -/
theorem foldSizing_capital_safety (portfolio : SwingPortfolioSnapshot)
    (policy : SwingPortfolioSizingPolicy) (opportunities : List SwingRankedOpportunity) :
    (∀ n results state, foldSizing portfolio policy (opportunities.take n) = .ok (results, state) →
      AllocationSafe portfolio policy results state) ∧
    (∀ state opportunity result, evaluateSizing portfolio policy state opportunity = .ok result →
      result.disposition = .veto → result.stateAfter = state) ∧
    (∀ n e, foldSizing portfolio policy (opportunities.take n) = .error e →
      e ≠ ⟨"sizing produced an unexplained zero quantity"⟩ ∧
      e ≠ ⟨"allocation state values must be non-negative"⟩) ∧
    ((∀ opportunity ∈ opportunities, opportunity.Sizable) →
      ∀ n, ∃ results state,
        foldSizing portfolio policy (opportunities.take n) = .ok (results, state)) := by
  refine ⟨fun n results state h => foldSizing_safe h,
    fun state opportunity result h hveto => evaluateSizing_veto_state h hveto, fun n e h => ?_,
    fun h n => foldSizing_of_sizable fun o ho => h o (List.mem_of_mem_take ho)⟩
  have hmem := (foldSizing_error h).1
  simp only [opportunityErrors, List.mem_cons, List.not_mem_nil, or_false] at hmem
  rcases hmem with rfl | rfl | rfl <;> exact ⟨by decide, by decide⟩

end IndiaSwing
