import IndiaSwing.PromotedAllocationBatch

namespace IndiaSwing

open ExceptFold (foldItems)
open ExceptGuards

variable {portfolioContext : PromotedOperationalPortfolioContext}
variable {allocationPolicy : PromotedOperationalAllocationPolicy}
variable {state final : PromotedOperationalAllocationState}
variable {quoteOutcome : PromotedOperationalQuoteOutcome} {result : AllocationEvaluation}
variable {quoteOutcomes : List PromotedOperationalQuoteOutcome} {ceilings : AllocationCeilings}
variable {outcome : PromotedOperationalAllocationOutcome}
variable {outcomes : List PromotedOperationalAllocationOutcome}

/-- The limits that every state of a batch keeps. -/
structure AllocationStateSafe (portfolioContext : PromotedOperationalPortfolioContext)
    (allocationPolicy : PromotedOperationalAllocationPolicy)
    (state : PromotedOperationalAllocationState) : Prop where
  keys_sorted : state.openListingKeys.Pairwise (· ≤ ·)
  keys_nodup : state.openListingKeys.Nodup
  keys_kept : ∀ key ∈ portfolioContext.openListingKeys, key ∈ state.openListingKeys
  cash_nonneg : 0 ≤ state.cashAvailable
  risk : state.openRisk ≤ max portfolioContext.portfolio.openRisk
    (portfolioContext.portfolio.capital * allocationPolicy.policy.maximumTotalOpenRiskFraction)
  gross : state.grossExposure ≤ max portfolioContext.portfolio.grossExposure
    (portfolioContext.portfolio.capital * allocationPolicy.policy.maximumGrossExposureFraction)
  added : portfolioContext.portfolio.openPositions ≤ state.openPositionCount
  added_le : state.openPositionCount ≤
    portfolioContext.portfolio.openPositions + allocationPolicy.policy.maximumNewPositionsPerRun
  count_le : state.openPositionCount ≤
    max portfolioContext.portfolio.openPositions allocationPolicy.policy.maximumOpenPositions

/-- The operational quantity is within the research quantity and the ceilings it was decided by. -/
def QuantityWithinCeilings (outcome : PromotedOperationalAllocationOutcome) : Prop :=
  outcome.operationalQuantity ≤ outcome.researchQuantity ∧
    ∃ ceilings, computeAllocationCeilings outcome.portfolioContext outcome.allocationPolicy
      outcome.stateBefore outcome.quoteOutcome = .ok ceilings ∧
      WithinCeilings ceilings outcome.operationalQuantity

theorem allocationStateSafe_initial : AllocationStateSafe portfolioContext allocationPolicy
    (initialAllocationState portfolioContext) where
  keys_sorted := portfolioContext.keys_canonical.2.pairwise
  keys_nodup := portfolioContext.keys_canonical.2.1
  keys_kept := fun _ hkey => hkey
  cash_nonneg := portfolioContext.portfolio.cash_nonneg
  risk := le_max_left _ _
  gross := le_max_left _ _
  added := portfolioContext.keys_length.ge
  added_le := portfolioContext.keys_length.le.trans (Nat.le_add_right _ _)
  count_le := portfolioContext.keys_length.le.trans (le_max_left _ _)

theorem AllocatedFrom.count {reference : ℚ} {candidate : PromotedOperationalCandidate}
    (h : AllocatedFrom portfolioContext allocationPolicy state candidate reference ceilings result) :
    result.stateAfter.openPositionCount = state.openPositionCount + 1 := by
  simp [PromotedOperationalAllocationState.openPositionCount, h.keysAfter]

theorem AllocatedFrom.slots {reference : ℚ} {candidate : PromotedOperationalCandidate}
    (h : AllocatedFrom portfolioContext allocationPolicy state candidate reference ceilings result) :
    state.openPositionCount < allocationPolicy.policy.maximumOpenPositions ∧
      (state.openPositionCount : ℤ) - portfolioContext.portfolio.openPositions <
        allocationPolicy.policy.maximumNewPositionsPerRun := by
  have hno := allocationReasons_eq_nil.mp h.unreasoned
  have hopen := hno .maxOpenPositionsReached
  have hnew := hno .maxNewPositionsPerRunReached
  simp only [allocationReasonHolds, decide_eq_false_iff_not, not_le] at hopen hnew
  exact ⟨hopen, hnew⟩

section Allocated

variable {reference : ℚ} {ask : ℕ} {candidate : PromotedOperationalCandidate}
  (hprices : PassPrices candidate.researchIntent reference)
  (h : AllocatedFrom portfolioContext allocationPolicy state candidate reference
    (ceilingsAt portfolioContext allocationPolicy state candidate.researchIntent reference ask) result)

include hprices h

theorem AllocatedFrom.risk_le : result.stateAfter.openRisk ≤ max state.openRisk
    (portfolioContext.portfolio.capital * allocationPolicy.policy.maximumTotalOpenRiskFraction) := by
  have hcap := h.quantity.le.trans ceilingsAt_feasible_within.totalOpenRisk
  rw [h.riskAfter, h.loss]
  exact UnitBudget.spend_le_max hprices.loss_pos h.quantity_pos.ne'
    (hcap.trans (floorUnits_div _ _).le)

theorem AllocatedFrom.gross_le : result.stateAfter.grossExposure ≤ max state.grossExposure
    (portfolioContext.portfolio.capital * allocationPolicy.policy.maximumGrossExposureFraction) := by
  have hcap := h.quantity.le.trans ceilingsAt_feasible_within.grossExposure
  rw [h.grossAfter, h.notional]
  exact UnitBudget.spend_le_max hprices.reference_pos h.quantity_pos.ne'
    (hcap.trans (floorUnits_div _ _).le)

theorem AllocationStateSafe.allocated
    (hsafe : AllocationStateSafe portfolioContext allocationPolicy state) :
    AllocationStateSafe portfolioContext allocationPolicy result.stateAfter := by
  obtain ⟨hopen, hnew⟩ := h.slots
  have hcount := h.count
  have hadded := hsafe.added
  refine ⟨result.stateAfter.keys_canonical.2.pairwise, result.stateAfter.keys_canonical.2.1,
    fun key hkey => ?_, result.stateAfter.cash_nonneg, ?_, ?_, ?_, ?_, ?_⟩
  · rw [h.keysAfter, SortedTuples.mem_sorted]
    exact List.mem_append_left _ (hsafe.keys_kept key hkey)
  · exact (h.risk_le hprices).trans (max_le hsafe.risk (le_max_right _ _))
  · exact (h.gross_le hprices).trans (max_le hsafe.gross (le_max_right _ _))
  · omega
  · omega
  · exact le_max_of_le_right (by omega)

end Allocated

theorem allocateStep_ok (hstep : allocateStep portfolioContext allocationPolicy state quoteOutcome =
      .ok (outcome, final)) :
    ∃ result, evaluateAllocation portfolioContext allocationPolicy state quoteOutcome = .ok result ∧
      outcome = allocationOutcome portfolioContext allocationPolicy state quoteOutcome result ∧
      final = result.stateAfter := by
  unfold allocateStep at hstep
  obtain ⟨result, heval, hstep⟩ := bind_eq_ok.mp hstep
  obtain ⟨-, -, hstep⟩ := bind_eq_ok.mp hstep
  obtain ⟨rfl, rfl⟩ := Prod.mk.inj (Except.ok.inj hstep)
  exact ⟨result, heval, rfl, rfl⟩

/-- One turn of the loop keeps the limits and decides a quantity within its ceilings. -/
theorem AllocationStateSafe.step (hpass : quoteOutcome.disposition = .pass)
    (hsafe : AllocationStateSafe portfolioContext allocationPolicy state)
    (hstep : allocateStep portfolioContext allocationPolicy state quoteOutcome =
      .ok (outcome, final)) :
    AllocationStateSafe portfolioContext allocationPolicy final ∧ outcome.stateAfter = final ∧
      QuantityWithinCeilings outcome := by
  obtain ⟨result, heval, rfl, rfl⟩ := allocateStep_ok hstep
  obtain ⟨reference, ask, result', href, hprices, hcompute, heval', hresult⟩ :=
    evaluateAllocation_pass portfolioContext allocationPolicy state hpass
  obtain rfl := Except.ok.inj (heval'.symm.trans heval)
  rcases hresult with hveto | hallocated
  · have hzero : WithinCeilings (ceilingsAt portfolioContext allocationPolicy state
        quoteOutcome.candidate.researchIntent reference ask) 0 := by
      constructor <;> exact Nat.zero_le _
    have hquantity := hveto.quantity
    refine ⟨hveto.stateAfter ▸ hsafe, rfl, ?_, _, hcompute, ?_⟩
    · exact hquantity.le.trans (Nat.zero_le _)
    · simpa only [allocationOutcome, hquantity] using hzero
  · have hwithin : WithinCeilings (ceilingsAt portfolioContext allocationPolicy state
        quoteOutcome.candidate.researchIntent reference ask) result'.quantity := by
      rw [hallocated.quantity]
      exact ceilingsAt_feasible_within
    exact ⟨hsafe.allocated hprices hallocated, rfl, hwithin.research, _, hcompute, hwithin⟩

/-- The constructor accepts every outcome that the loop builds from a PASS. -/
theorem allocationOutcome_verify (hpass : quoteOutcome.disposition = .pass)
    (heval : evaluateAllocation portfolioContext allocationPolicy state quoteOutcome = .ok result) :
    (allocationOutcome portfolioContext allocationPolicy state quoteOutcome result).verify = .ok () := by
  obtain ⟨reference, ask, result', href, hprices, hcompute, heval', hresult⟩ :=
    evaluateAllocation_pass portfolioContext allocationPolicy state hpass
  obtain rfl := Except.ok.inj (heval'.symm.trans heval)
  have hreference : ¬reference ≤ 0 := not_le.mpr hprices.reference_pos
  rcases hresult with hveto | hallocated
  · obtain ⟨holds, hholds⟩ := hveto.sorted
    have hsorted : result'.reasons = PromotedOperationalAllocationReason.sortedValues.filter
        (· ∈ result'.reasons) := by
      rw [hholds]
      refine List.filter_congr fun reason hreason => ?_
      simp [List.mem_filter, hreason]
    simp [PromotedOperationalAllocationOutcome.verify, allocationOutcome, hpass, href, hreference,
      heval, hveto.disposition, hveto.quantity, hveto.notional, hveto.cost, hveto.loss,
      hveto.stateAfter, hveto.reasons, PromotedOperationalAllocationOutcome.inconsistent, ← hsorted]
  · have hquantity : (0 : ℚ) ≤ result'.quantity := Nat.cast_nonneg _
    have hnotional : ¬result'.notional < 0 := by
      rw [hallocated.notional]; exact not_lt.mpr (mul_nonneg hprices.reference_pos.le hquantity)
    have hcost : ¬result'.cost < 0 := by
      rw [hallocated.cost]
      exact not_lt.mpr (mul_nonneg quoteOutcome.candidate.researchIntent.buffer_pos.le hquantity)
    have hloss : ¬result'.loss < 0 := by
      rw [hallocated.loss]; exact not_lt.mpr (mul_nonneg hprices.loss_pos.le hquantity)
    have hpos : result'.quantity ≠ 0 := hallocated.quantity_pos.ne'
    have hresearch : ¬(quoteOutcome.candidate.researchIntent.evaluationIntent.entryOrder.quantity <
        result'.quantity) :=
      not_lt.mpr (hallocated.quantity.le.trans ceilingsAt_feasible_within.research)
    simp [PromotedOperationalAllocationOutcome.verify, allocationOutcome, hpass, href, hreference,
      heval, hnotional, hcost, hloss, hallocated.disposition, hallocated.reasons, hpos,
      PromotedOperationalAllocationOutcome.inconsistent,
      PromotedOperationalAllocationOutcome.researchQuantity, hresearch]

theorem allocateStep_pass (hpass : quoteOutcome.disposition = .pass) :
    ∃ outcome final, allocateStep portfolioContext allocationPolicy state quoteOutcome =
      .ok (outcome, final) := by
  obtain ⟨reference, ask, result, -, -, -, heval, -⟩ :=
    evaluateAllocation_pass portfolioContext allocationPolicy state hpass
  refine ⟨allocationOutcome portfolioContext allocationPolicy state quoteOutcome result,
    result.stateAfter, ?_⟩
  simp only [allocateStep, heval, ok_bind, allocationOutcome_verify hpass heval, pure_eq_ok]

theorem mem_passOutcomes {batch : VerifiedPromotedOperationalQuoteGateBatch}
    (h : quoteOutcome ∈ passOutcomes batch) : quoteOutcome.disposition = .pass := by
  simpa using (List.mem_filter.mp h).2

/-- What the whole loop keeps, about its last state and about each outcome. -/
def AllocationRunSafe (portfolioContext : PromotedOperationalPortfolioContext)
    (allocationPolicy : PromotedOperationalAllocationPolicy)
    (outcomes : List PromotedOperationalAllocationOutcome)
    (state : PromotedOperationalAllocationState) : Prop :=
  AllocationStateSafe portfolioContext allocationPolicy state ∧
    ∀ outcome ∈ outcomes, AllocationStateSafe portfolioContext allocationPolicy outcome.stateAfter ∧
      QuantityWithinCeilings outcome

theorem allocationRunSafe_of_fold {batch : VerifiedPromotedOperationalQuoteGateBatch}
    (h : foldItems (allocateStep portfolioContext allocationPolicy)
      (initialAllocationState portfolioContext) (passOutcomes batch) = .ok (outcomes, final)) :
    AllocationRunSafe portfolioContext allocationPolicy outcomes final := by
  refine ExceptFold.foldItems_invariant
    (P := AllocationRunSafe portfolioContext allocationPolicy) [] ⟨allocationStateSafe_initial, by simp⟩
    ?_ h
  · intro done s quoteOutcome outcome next hmem hdone hstep
    obtain ⟨hnext, hafter, hquantity⟩ := hdone.1.step (mem_passOutcomes hmem) hstep
    refine ⟨hnext, fun o ho => ?_⟩
    rcases List.mem_append.mp ho with hold | hlast
    · exact hdone.2 o hold
    · rw [List.mem_singleton.mp hlast, hafter]
      exact ⟨hnext, hquantity⟩

theorem verifyChain_allocated {batch : VerifiedPromotedOperationalAllocationBatch}
    (hcontext : batch.portfolioContext = portfolioContext)
    (hpolicy : batch.allocationPolicy = allocationPolicy)
    (hpass : ∀ quoteOutcome ∈ quoteOutcomes, quoteOutcome.disposition = .pass)
    (h : foldItems (allocateStep portfolioContext allocationPolicy) state quoteOutcomes =
      .ok (outcomes, final)) :
    batch.verifyChain state (outcomes.zip quoteOutcomes) = .ok final := by
  induction quoteOutcomes generalizing state outcomes with
  | nil =>
    simp only [ExceptFold.foldItems_nil, Except.ok.injEq, Prod.mk.injEq] at h
    simp [← h.1, ← h.2, VerifiedPromotedOperationalAllocationBatch.verifyChain]
  | cons quoteOutcome rest ih =>
    obtain ⟨outcome, next, outs, hstep, hrest, rfl⟩ := ExceptFold.foldItems_cons_ok h
    obtain ⟨result, heval, rfl, rfl⟩ := allocateStep_ok hstep
    have hverify := allocationOutcome_verify (hpass quoteOutcome List.mem_cons_self) heval
    have htail := ih (fun q hq => hpass q (List.mem_cons_of_mem _ hq)) hrest
    simp only [List.zip_cons_cons, VerifiedPromotedOperationalAllocationBatch.verifyChain, hverify,
      ok_bind]
    simpa [allocationOutcome, hcontext, hpolicy] using htail

/-- A batch whose snapshot is fresh is always assembled. -/
theorem assemblePromotedOperationalAllocationBatch_total
    {quoteGateBatch : VerifiedPromotedOperationalQuoteGateBatch}
    (hfresh : portfolioUnacceptable quoteGateBatch.evaluatedAt portfolioContext allocationPolicy =
      false) :
    ∃ batch, assemblePromotedOperationalAllocationBatch portfolioContext allocationPolicy
      quoteGateBatch = .ok batch := by
  obtain ⟨outcomes, final, hfold, -⟩ := ExceptFold.foldItems_total
    (f := allocateStep portfolioContext allocationPolicy) (P := fun _ => True)
    (s := initialAllocationState portfolioContext) (l := passOutcomes quoteGateBatch) trivial
    (fun s quoteOutcome hmem _ => by
      obtain ⟨outcome, next, hstep⟩ := allocateStep_pass (mem_passOutcomes hmem)
      exact ⟨outcome, next, hstep, trivial⟩)
  have hlength := ExceptFold.foldItems_length hfold
  have hchain : (allocationBatch portfolioContext allocationPolicy quoteGateBatch outcomes
      final).verifyChain (initialAllocationState portfolioContext)
        (outcomes.zip (passOutcomes quoteGateBatch)) = .ok final :=
    verifyChain_allocated rfl rfl (fun _ => mem_passOutcomes) hfold
  have hcoverage : (allocationBatch portfolioContext allocationPolicy quoteGateBatch outcomes
      final).verifyCoverage = .ok () := by
    simp only [VerifiedPromotedOperationalAllocationBatch.verifyCoverage, allocationBatch] at hchain ⊢
    rw [hchain]
    simp only [hlength, hfresh, ne_eq, not_true_eq_false, or_self, raiseIf_false, ok_bind,
      Bool.false_eq_true]
  refine ⟨allocationBatch portfolioContext allocationPolicy quoteGateBatch outcomes final, ?_⟩
  simp only [assemblePromotedOperationalAllocationBatch, hfresh, hfold, hcoverage, raiseIf_false,
    ok_bind, pure_eq_ok, Bool.false_eq_true]

theorem assemblePromotedOperationalAllocationBatch_ok
    {quoteGateBatch : VerifiedPromotedOperationalQuoteGateBatch}
    {batch : VerifiedPromotedOperationalAllocationBatch}
    (h : assemblePromotedOperationalAllocationBatch portfolioContext allocationPolicy
      quoteGateBatch = .ok batch) :
    ∃ outcomes final, foldItems (allocateStep portfolioContext allocationPolicy)
        (initialAllocationState portfolioContext) (passOutcomes quoteGateBatch) =
          .ok (outcomes, final) ∧
      batch = allocationBatch portfolioContext allocationPolicy quoteGateBatch outcomes final := by
  unfold assemblePromotedOperationalAllocationBatch at h
  obtain ⟨-, h⟩ := raiseIf_bind_eq_ok.mp h
  obtain ⟨⟨outcomes, final⟩, hfold, h⟩ := bind_eq_ok.mp h
  obtain ⟨-, -, h⟩ := bind_eq_ok.mp h
  exact ⟨outcomes, final, hfold, (Except.ok.inj h).symm⟩

/-- Every state an assembled batch goes through is inside its limits, every quantity is within its
ceilings, and a feasible quantity of zero always has a veto reason. -/
theorem assemble_allocation_safety (portfolioContext : PromotedOperationalPortfolioContext)
    (allocationPolicy : PromotedOperationalAllocationPolicy)
    (quoteGateBatch : VerifiedPromotedOperationalQuoteGateBatch) :
    (portfolioUnacceptable quoteGateBatch.evaluatedAt portfolioContext allocationPolicy = false →
      ∃ batch, assemblePromotedOperationalAllocationBatch portfolioContext allocationPolicy
        quoteGateBatch = .ok batch) ∧
    (∀ batch, assemblePromotedOperationalAllocationBatch portfolioContext allocationPolicy
        quoteGateBatch = .ok batch →
      AllocationStateSafe portfolioContext allocationPolicy batch.initialState ∧
      AllocationStateSafe portfolioContext allocationPolicy batch.finalState ∧
      ∀ outcome ∈ batch.allocationOutcomes,
        AllocationStateSafe portfolioContext allocationPolicy outcome.stateAfter ∧
        QuantityWithinCeilings outcome) ∧
    (∀ state quoteOutcome ceilings,
      computeAllocationCeilings portfolioContext allocationPolicy state quoteOutcome = .ok ceilings →
      (allocationReasons portfolioContext allocationPolicy state quoteOutcome.candidate ceilings = [] →
        ¬ceilings.feasibleQuantity < 1) ∧
      combinedFeasibleQuantity portfolioContext allocationPolicy state ceilings =
        ceilings.feasibleQuantity) := by
  refine ⟨assemblePromotedOperationalAllocationBatch_total, fun batch h => ?_,
    fun state quoteOutcome ceilings h => ⟨fun hreasons => ?_, combinedFeasibleQuantity_eq h⟩⟩
  · obtain ⟨outcomes, final, hfold, rfl⟩ := assemblePromotedOperationalAllocationBatch_ok h
    obtain ⟨hfinal, houtcomes⟩ := allocationRunSafe_of_fold hfold
    exact ⟨allocationStateSafe_initial, hfinal, houtcomes⟩
  · obtain ⟨reference, ask, hceilings, -⟩ := computeAllocationCeilings_ok h
    have := ceilingsAt_feasible_pos hceilings hreasons
    omega

end IndiaSwing
