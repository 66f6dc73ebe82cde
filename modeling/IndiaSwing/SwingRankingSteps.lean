import IndiaSwing.SwingProposalCoverage
import IndiaSwing.SwingQuoteGateSteps
import IndiaSwing.SwingRanking

namespace IndiaSwing.Signals

open DecimalContext ExceptGuards KeySort

section Scores

variable {outcome : SwingQuoteGateOutcome} {policy : SwingOpportunityRankingPolicy}

/-- What the checks of a ranking policy establish. -/
structure RankingPolicyFacts (p : SwingRankingPolicyFields) : Prop where
  unit : ∀ weight ∈ p.weights, 0 ≤ weight.2 ∧ weight.2 ≤ 1
  sum : signalContext.sum 0 (p.weights.map (·.2)) = 1

theorem rankingPolicyFacts (policy : SwingOpportunityRankingPolicy) : RankingPolicyFacts policy.1 := by
  obtain ⟨_, hweights, hsum⟩ := bind_eq_ok.mp policy.2
  refine ⟨fun weight hweight => ?_, not_not.mp (raiseIf_eq_ok.mp hsum)⟩
  have hunit := raiseIf_eq_ok.mp (forM_eq_ok.mp hweights weight hweight)
  exact ⟨not_lt.mp (not_or.mp hunit).1, not_lt.mp (not_or.mp hunit).2⟩

theorem unitDecimal_ok {value : ℚ} {message : String} (h : 0 ≤ value ∧ value ≤ 1) : unitDecimal value message = .ok () :=
  raiseIf_neg (not_or.mpr ⟨not_lt.mpr h.1, not_lt.mpr h.2⟩)

/-- A passing outcome has a live quote and its spread. -/
theorem outcome_live (hpassed : outcome.1.passed = true) :
    LiveQuote outcome.1.proposal.1 outcome.1.quote.1 outcome.1.evaluatedAt outcome.1.policy.1 ∧
      outcome.1.evaluation.observedSpreadBps = outcome.1.quote.1.spreadBps := by
  obtain ⟨_, -, h⟩ := bind_eq_ok.mp outcome.2
  obtain ⟨_, -, h⟩ := bind_eq_ok.mp h
  obtain ⟨hkey, h⟩ := raiseIf_bind_eq_ok.mp h
  obtain ⟨replayed, hreplayed, h⟩ := bind_eq_ok.mp h
  obtain ⟨hdisposition, h⟩ := raiseIf_bind_eq_ok.mp h
  obtain ⟨-, h⟩ := raiseIf_bind_eq_ok.mp h
  obtain ⟨-, h⟩ := raiseIf_bind_eq_ok.mp h
  obtain ⟨hspread, -⟩ := raiseIf_bind_eq_ok.mp h
  obtain ⟨e, hok, he⟩ := @evaluateQuoteGate_ok outcome.1.proposal outcome.1.quote outcome.1.evaluatedAt outcome.1.policy
    (not_not.mp hkey)
  obtain rfl : e = replayed := Except.ok.inj (hok.symm.trans (mapError_eq_ok.mp hreplayed))
  refine ⟨he.pass_iff.mp ?_, (not_not.mp hspread).trans he.spread⟩
  exact (not_not.mp hdisposition).trans (of_decide_eq_true hpassed)

/-- The contributions under a policy. -/
def contributions (raw : SwingRankingFactor → ℚ) (policy : SwingOpportunityRankingPolicy) : List ℚ :=
  policy.1.weights.map fun weight => signalContext.mul (raw weight.1) weight.2

/-- The components of a passing outcome whose proposal has an entry range. -/
theorem calculateComponents_ok (hpassed : outcome.1.passed = true)
    (hrange : outcome.1.proposal.1.levels.1.entryLow < outcome.1.proposal.1.levels.1.entryHigh) :
    ∃ components raw, calculateComponents outcome policy = .ok components ∧ (∀ factor, 0 ≤ raw factor ∧ raw factor ≤ 1) ∧
      components.map (·.1.contribution) = contributions raw policy := by
  obtain ⟨hlive, hspread⟩ := outcome_live hpassed
  obtain ⟨spread, hvalue, -⟩ := hlive.spread
  obtain ⟨-, bestAsk, -, hask, -, -⟩ := hlive.depth
  have hmetrics := (proposalFacts outcome.1.proposal).metrics
  have hwidth : 0 < signalContext.sub outcome.1.proposal.1.levels.1.entryHigh outcome.1.proposal.1.levels.1.entryLow :=
    (sub_pos_iff_of (by decide)).mpr hrange
  have hquality : ∃ quality, spreadQuality spread outcome.1.policy.1.maximumSpreadBps = .ok quality ∧
      0 ≤ quality ∧ quality ≤ 1 := by
    unfold spreadQuality
    rw [divide_ok (gatePolicyFacts outcome.1.policy).spread.ne', ok_bind]
    exact ⟨_, rfl, clamp_unit _⟩
  have hentry : ∃ quality, entryQuality outcome.1.proposal.1.levels bestAsk = .ok quality ∧ 0 ≤ quality ∧ quality ≤ 1 := by
    unfold entryQuality
    dsimp only
    rw [raiseIf_neg (not_le.mpr hwidth), ok_bind, divide_ok hwidth.ne', ok_bind]
    exact ⟨_, rfl, clamp_unit _⟩
  obtain ⟨spreadUnit, hspreadOk, hspreadUnit⟩ := hquality
  obtain ⟨entryUnit, hentryOk, hentryUnit⟩ := hentry
  have hraw : ∀ factor, 0 ≤ rawValue outcome.1.proposal.1.metrics spreadUnit entryUnit factor ∧
      rawValue outcome.1.proposal.1.metrics spreadUnit entryUnit factor ≤ 1 := by
    intro factor
    cases factor with
    | relativeStrength => exact hmetrics.relativeStrength
    | trendQuality => exact hmetrics.trendQuality
    | volumeConfirmation => exact hmetrics.volumeConfirmation
    | liquidityQuality => exact hmetrics.liquidityQuality
    | spreadQuality => exact hspreadUnit
    | entryQuality => exact hentryUnit
  have hchecks : ∀ weight ∈ policy.1.weights, SwingRankingComponentFields.check
      ⟨weight.1, rawValue outcome.1.proposal.1.metrics spreadUnit entryUnit weight.1, weight.2,
        signalContext.mul (rawValue outcome.1.proposal.1.metrics spreadUnit entryUnit weight.1) weight.2⟩ = .ok () := by
    intro weight hweight
    unfold SwingRankingComponentFields.check
    rw [unitDecimal_ok (hraw weight.1), ok_bind, unitDecimal_ok ((rankingPolicyFacts policy).unit weight hweight), ok_bind,
      raiseIf_neg (not_not.mpr rfl)]
  obtain ⟨components, hbuilt, hmap⟩ := Checked.mapM_build_ok _ _ hchecks
  refine ⟨components, rawValue outcome.1.proposal.1.metrics spreadUnit entryUnit, ?_, hraw, ?_⟩
  · unfold calculateComponents
    rw [outcome.2, ok_bind, raiseIf_neg (not_not.mpr (of_decide_eq_true hpassed)), ok_bind, hspread, hvalue, hask]
    dsimp only
    rw [hspreadOk, ok_bind, hentryOk, ok_bind]
    exact hbuilt
  · have hcontributions := congrArg (List.map SwingRankingComponentFields.contribution) hmap
    rw [List.map_map, List.map_map] at hcontributions
    exact hcontributions

/-- A score is not negative, and not above one where the weights fit the context. -/
theorem score_unit {raw : SwingRankingFactor → ℚ} (hraw : ∀ factor, 0 ≤ raw factor ∧ raw factor ≤ 1)
    (hweights : ∀ weight ∈ policy.1.weights, DecimalContext.Fits 28 weight.2) :
    0 ≤ signalContext.sum 0 (contributions raw policy) ∧ signalContext.sum 0 (contributions raw policy) ≤ 1 := by
  have hpolicy := rankingPolicyFacts policy
  have hnonneg : ∀ weight ∈ policy.1.weights, 0 ≤ raw weight.1 * weight.2 := fun weight hweight =>
    mul_nonneg (hraw weight.1).1 (hpolicy.unit weight hweight).1
  constructor
  · refine sum_nonneg_of le_rfl fun v hv => ?_
    obtain ⟨weight, hweight, rfl⟩ := List.mem_map.mp hv
    exact ofPrecision_nonneg (hnonneg weight hweight)
  · rw [← hpolicy.sum]
    refine sum_mono_of (by decide) le_rfl le_rfl ?_
    unfold contributions
    rw [List.forall₂_map_left_iff, List.forall₂_map_right_iff, List.forall₂_same]
    intro weight hweight
    refine ⟨ofPrecision_nonneg (hnonneg weight hweight), round_le_of_fits (hweights weight hweight) (hnonneg weight hweight) ?_⟩
    exact mul_le_of_le_one_left (hpolicy.unit weight hweight).1 (hraw weight.1).2

end Scores

section Ranking

variable {gate gate' : SwingQuoteGateBatch} {policy : SwingOpportunityRankingPolicy} {outcome : SwingQuoteGateOutcome}
  {scored : ScoredOutcome} {ranking ranking' : SwingOpportunityRankingBatch} {batch : SwingProposalBatch}
  {quotes : FullQuoteBatch} {evaluatedAt : Instant} {limits : SwingQuoteGatePolicy}

/-- The subject of an outcome. -/
def outcomeKey (outcome : SwingQuoteGateOutcome) : SubjectKey := outcome.1.proposal.1.key

/-- The passing outcomes of a gate batch. -/
def passing (gate : SwingQuoteGateBatch) : List SwingQuoteGateOutcome := gate.1.outcomes.filter (·.1.passed)

/-- Outcomes with one id are of one subject. -/
theorem outcomeId_key {o o' : SwingQuoteGateOutcome} (h : o.1.outcomeId = o'.1.outcomeId) : outcomeKey o = outcomeKey o' := by
  have hproposal := (List.cons.inj (ContentId.ofFields_inj.mp h).2).1
  have hentry := (List.cons.inj (List.cons.inj (ContentId.ofFields_inj.mp hproposal).2).2).1
  have hlisting := (List.cons.inj (List.cons.inj (ContentId.ofFields_inj.mp hentry).2).2).1
  obtain ⟨hinstrument, hrest⟩ := List.cons.inj (ContentId.ofFields_inj.mp hlisting).2
  have hlistingId := (List.cons.inj hrest).1
  unfold outcomeKey
  rw [(proposalFacts o.1.proposal).key, (proposalFacts o'.1.proposal).key]
  exact Prod.ext (ContentId.text.inj hinstrument) (ContentId.text.inj hlistingId)

/-- The subjects of an assembled gate batch are distinct. -/
theorem Gates.nodup (h : Gates batch quotes evaluatedAt limits gate) : (gate.1.outcomes.map outcomeKey).Nodup := by
  have hkeys : batch.1.proposals.map (·.1.key) = gate.1.outcomes.map outcomeKey :=
    forall₂_map_eq h.outcomes fun proposal outcome hgated => by
      unfold outcomeKey
      rw [hgated.proposed]
  rw [← hkeys]
  obtain ⟨_, -, hcheck⟩ := bind_eq_ok.mp batch.2
  obtain ⟨_, -, hcheck⟩ := bind_eq_ok.mp hcheck
  exact not_not.mp (raiseIf_bind_eq_ok.mp hcheck).1

/-- A passing outcome that is scored under a policy: its score is that of its components and lies between zero and one. -/
structure Scored (policy : SwingOpportunityRankingPolicy) (outcome : SwingQuoteGateOutcome) (scored : ScoredOutcome) :
    Prop where
  scores : scored.outcome = outcome
  passed : outcome.1.passed = true
  components : calculateComponents outcome policy = .ok scored.components
  score : scored.score = rankingScore scored.components
  unit : 0 ≤ scored.score ∧ scored.score ≤ 1
  spread : outcome.1.evaluation.observedSpreadBps ≠ none

theorem scoreOutcome_ok (hpassed : outcome.1.passed = true)
    (hrange : outcome.1.proposal.1.levels.1.entryLow < outcome.1.proposal.1.levels.1.entryHigh)
    (hweights : ∀ weight ∈ policy.1.weights, DecimalContext.Fits 28 weight.2) :
    ∃ scored, scoreOutcome policy outcome = .ok scored ∧ Scored policy outcome scored := by
  obtain ⟨components, raw, hcomponents, hraw, hcontributions⟩ := @calculateComponents_ok outcome policy hpassed hrange
  obtain ⟨hlive, hspread⟩ := outcome_live hpassed
  obtain ⟨spread, hvalue, -⟩ := hlive.spread
  have hunit := score_unit hraw hweights
  rw [← hcontributions] at hunit
  unfold scoreOutcome
  rw [hcomponents, ok_bind]
  refine ⟨_, rfl, ⟨rfl, hpassed, hcomponents, rfl, hunit, ?_⟩⟩
  rw [hspread, hvalue]
  exact Option.some_ne_none _

/-- A scored outcome takes its rank. -/
theorem rankOutcome_ok {rank : ℕ} (hscored : Scored policy outcome scored) (hrank : rank ≠ 0) :
    ∃ o, rankOutcome policy (scored, rank) = .ok o ∧ o.1 = ⟨outcome, policy, rank, scored.components, scored.score⟩ := by
  have hcheck : SwingRankedOpportunityFields.check ⟨outcome, policy, rank, scored.components, scored.score⟩ = .ok () := by
    unfold SwingRankedOpportunityFields.check
    dsimp only
    rw [raiseIf_neg hrank, ok_bind, outcome.2, ok_bind, raiseIf_neg (not_not.mpr (of_decide_eq_true hscored.passed)), ok_bind,
      hscored.components, ok_bind, raiseIf_neg (not_not.mpr rfl), ok_bind, unitDecimal_ok hscored.unit, ok_bind,
      raiseIf_neg (not_not.mpr hscored.score)]
  refine ⟨⟨_, hcheck⟩, ?_, rfl⟩
  unfold rankOutcome
  dsimp only
  rw [hscored.scores]
  exact Checked.build_of_ok hcheck

/-- The key of a scored outcome. -/
def scoredKey (scored : ScoredOutcome) : ℚ ×ₗ ℚ ×ₗ String ×ₗ String := opportunityKey scored.score scored.outcome

/-- Opportunities with one key are of one subject. -/
theorem opportunityKey_subject {score score' : ℚ} {o o' : SwingQuoteGateOutcome}
    (h : opportunityKey score o = opportunityKey score' o') : outcomeKey o = outcomeKey o' := by
  unfold opportunityKey at h
  have hrest := (Prod.mk.inj (toLex.injective h)).2
  have hids := (Prod.mk.inj (toLex.injective hrest)).2
  exact toLex.injective hids

/-- What a ranking of a gate batch is. -/
structure Ranks (gate : SwingQuoteGateBatch) (ranking : SwingOpportunityRankingBatch) : Prop where
  covered : (ranking.1.rankedOpportunities.map (·.1.quoteGateOutcome) ++ ranking.1.vetoedOutcomes).Perm gate.1.outcomes
  passed : ∀ o ∈ ranking.1.rankedOpportunities, o.1.quoteGateOutcome.1.passed = true
  vetoed : ∀ o ∈ ranking.1.vetoedOutcomes, o.1.passed = false
  ranks : ranking.1.rankedOpportunities.map (·.1.rank) = List.range' 1 ranking.1.rankedOpportunities.length
  order : ranking.1.rankedOpportunities.Pairwise fun a b =>
    opportunityKey a.1.rankingScore a.1.quoteGateOutcome < opportunityKey b.1.rankingScore b.1.quoteGateOutcome
  unit : ∀ o ∈ ranking.1.rankedOpportunities, 0 ≤ o.1.rankingScore ∧ o.1.rankingScore ≤ 1

theorem passing_vetoed_perm (gate : SwingQuoteGateBatch) :
    (passing gate ++ gate.1.outcomes.filter (¬·.1.passed)).Perm gate.1.outcomes := by
  have hvetoed : gate.1.outcomes.filter (¬·.1.passed) = gate.1.outcomes.filter fun outcome => !outcome.1.passed :=
    List.filter_congr fun outcome _ => by cases outcome.1.passed <;> rfl
  rw [hvetoed]
  exact List.filter_append_perm _ _

/-- What the places of the sorted scores become. -/
structure Placed (policy : SwingOpportunityRankingPolicy) (place : ScoredOutcome × ℕ) (o : SwingRankedOpportunity) :
    Prop where
  outcome : o.1.quoteGateOutcome = place.1.outcome
  policy : o.1.policy = policy
  rank : o.1.rank = place.2
  score : o.1.rankingScore = place.1.score

/-- The scores of the passing outcomes, sorted and ranked. -/
theorem ranked_ok {ordered : List ScoredOutcome} (h : ∀ scored ∈ ordered, Scored policy scored.outcome scored) :
    ∃ ranked, (ordered.zipIdx 1).mapM (rankOutcome policy) = .ok ranked ∧
      List.Forall₂ (Placed policy) (ordered.zipIdx 1) ranked := by
  refine mapM_exists fun place hplace => ?_
  have hmem : place.1 ∈ ordered := by
    have hfirst := List.mem_map_of_mem (f := Prod.fst) hplace
    rwa [List.zipIdx_map_fst] at hfirst
  have hrank : place.2 ≠ 0 := by
    have hle := List.le_snd_of_mem_zipIdx hplace
    omega
  obtain ⟨o, hok, ho⟩ := rankOutcome_ok (h place.1 hmem) hrank
  refine ⟨o, hok, ?_, ?_, ?_, ?_⟩ <;> rw [ho]

/-- A gate batch whose passing proposals have an entry range is ranked. -/
theorem ranking_ok (choice : Option SwingOpportunityRankingPolicy)
    (hpolicy : choice.getD defaultSwingRankingPolicy = policy) (hnodup : (gate.1.outcomes.map outcomeKey).Nodup)
    (hranges : ∀ outcome ∈ gate.1.outcomes, outcome.1.passed = true →
      outcome.1.proposal.1.levels.1.entryLow < outcome.1.proposal.1.levels.1.entryHigh)
    (hweights : ∀ weight ∈ policy.1.weights, DecimalContext.Fits 28 weight.2) :
    ∃ ranking, assembleSwingOpportunityRankingBatch gate choice = .ok ranking ∧ Ranks gate ranking := by
  obtain ⟨scored, hscored, hpairs⟩ := mapM_exists fun outcome houtcome =>
    @scoreOutcome_ok policy outcome (List.mem_filter.mp houtcome).2
      (hranges outcome (List.mem_filter.mp houtcome).1 (List.mem_filter.mp houtcome).2) hweights
  have hordered : ∀ value ∈ sortOn scoredKey scored, Scored policy value.outcome value ∧ value.outcome ∈ passing gate := by
    intro value hvalue
    obtain ⟨outcome, houtcome, hvalue⟩ := mem_of_forall₂_right hpairs ((perm_sortOn _ _).mem_iff.mp hvalue)
    rw [hvalue.scores]
    exact ⟨hvalue, houtcome⟩
  obtain ⟨ranked, hranked, hplaces⟩ := ranked_ok fun value hvalue => (hordered value hvalue).1
  have hscoredOutcomes : scored.map (·.outcome) = passing gate := by
    have hmap := forall₂_map_eq hpairs (f := id) (g := ScoredOutcome.outcome) fun outcome value hvalue => hvalue.scores.symm
    rw [← hmap, List.map_id]
    rfl
  have hplaced : (sortOn scoredKey scored).map (·.outcome) = ranked.map (·.1.quoteGateOutcome) := by
    rw [← List.zipIdx_map_fst 1 (sortOn scoredKey scored), List.map_map]
    exact forall₂_map_eq hplaces fun place o ho => ho.outcome.symm
  have hoPerm : (ranked.map (·.1.quoteGateOutcome)).Perm (passing gate) := by
    rw [← hplaced, ← hscoredOutcomes]
    exact (perm_sortOn _ _).map _
  have hkeys : ranked.map (fun o => opportunityKey o.1.rankingScore o.1.quoteGateOutcome) =
      (sortOn scoredKey scored).map scoredKey := by
    rw [← List.zipIdx_map_fst 1 (sortOn scoredKey scored), List.map_map]
    refine (forall₂_map_eq hplaces fun place o ho => ?_).symm
    rw [ho.score, ho.outcome]
    rfl
  have hpassingKeys : ((passing gate).map outcomeKey).Nodup := hnodup.sublist (List.filter_sublist.map _)
  have hrankedKeys : ((ranked.map (·.1.quoteGateOutcome)).map outcomeKey).Nodup :=
    (hoPerm.map outcomeKey).nodup_iff.mpr hpassingKeys
  have hlengths : ranked.length = (sortOn scoredKey scored).length := by
    rw [← hplaces.length_eq, List.length_zipIdx]
  have hranks : ranked.map (·.1.rank) = List.range' 1 ranked.length := by
    rw [hlengths, ← List.zipIdx_map_snd 1 (sortOn scoredKey scored)]
    exact (forall₂_map_eq hplaces fun place o ho => ho.rank.symm).symm
  have hsorted : ranked.Pairwise fun a b =>
      opportunityKey a.1.rankingScore a.1.quoteGateOutcome ≤ opportunityKey b.1.rankingScore b.1.quoteGateOutcome := by
    have hpairwise : ((sortOn scoredKey scored).map scoredKey).Pairwise (· ≤ ·) :=
      List.pairwise_map.mpr (sortOn_pairwise scoredKey scored)
    rw [← hkeys] at hpairwise
    exact List.pairwise_map.mp hpairwise
  have hstrict : ranked.Pairwise fun a b =>
      opportunityKey a.1.rankingScore a.1.quoteGateOutcome < opportunityKey b.1.rankingScore b.1.quoteGateOutcome := by
    have hdistinct : ranked.Pairwise fun a b => outcomeKey a.1.quoteGateOutcome ≠ outcomeKey b.1.quoteGateOutcome := by
      rw [List.map_map] at hrankedKeys
      exact List.pairwise_map.mp hrankedKeys
    refine (hsorted.and hdistinct).imp fun ⟨hle, hne⟩ => lt_of_le_of_ne hle fun heq => hne (opportunityKey_subject heq)
  have hids : (ranked.map (·.1.quoteGateOutcome.1.outcomeId)).Nodup := by
    have hids := @nodup_map_of _ _ _ outcomeKey (·.1.outcomeId) _ hrankedKeys fun o _ o' _ => outcomeId_key
    rwa [List.map_map] at hids
  have hcovered : (ranked.map (·.1.quoteGateOutcome.1.outcomeId)).toFinset =
      ((passing gate).map (·.1.outcomeId)).toFinset := by
    have hperm := hoPerm.map (·.1.outcomeId)
    rw [List.map_map] at hperm
    exact List.toFinset_eq_of_perm _ _ hperm
  have hcount : ranked.length + (gate.1.outcomes.filter (¬·.1.passed)).length = gate.1.outcomes.length := by
    rw [← (passing_vetoed_perm gate).length_eq, List.length_append, ← hoPerm.length_eq, List.length_map]
  have hscore : ∀ o ∈ ranked, (0 ≤ o.1.rankingScore ∧ o.1.rankingScore ≤ 1) ∧ o.1.quoteGateOutcome ∈ passing gate ∧
      o.1.policy = policy := by
    intro o ho
    obtain ⟨place, hplace, hplaced⟩ := mem_of_forall₂_right hplaces ho
    have hmem : place.1 ∈ sortOn scoredKey scored := by
      have hfirst := List.mem_map_of_mem (f := Prod.fst) hplace
      rwa [List.zipIdx_map_fst] at hfirst
    rw [hplaced.score, hplaced.outcome, hplaced.policy]
    exact ⟨(hordered _ hmem).1.unit, (hordered _ hmem).2, rfl⟩
  have hverified : ranked.forM (fun value => do
      value.1.check
      raiseIf (value.1.policy.1.policyId ≠ policy.1.policyId)
        (SignalError.ranking "ranked opportunity policy differs from the batch")) = .ok () := by
    refine forM_eq_ok.mpr fun o ho => ?_
    rw [o.2, ok_bind, (hscore o ho).2.2, raiseIf_neg (not_not.mpr rfl)]
  have hvetoVerified : (gate.1.outcomes.filter (¬·.1.passed)).forM (·.1.check) = .ok () :=
    forM_eq_ok.mpr fun outcome _ => outcome.2
  have hexpected : sortOpportunities (·.1.rankingScore) (·.1.quoteGateOutcome) ranked = .ok ranked := by
    unfold sortOpportunities
    have hnone : ¬∃ value ∈ ranked, value.1.quoteGateOutcome.1.evaluation.observedSpreadBps = none := by
      rintro ⟨o, ho, hnone⟩
      obtain ⟨hlive, hspread⟩ := outcome_live (List.mem_filter.mp (hscore o ho).2.1).2
      obtain ⟨spread, hvalue, -⟩ := hlive.spread
      rw [hspread, hvalue] at hnone
      cases hnone
    rw [raiseIf_neg hnone, ok_bind]
    exact congrArg Except.ok (sortOn_of_pairwise _ hsorted)
  have hcheck : SwingOpportunityRankingBatchFields.check
      { quoteGateBatch := gate
        policy := policy
        rankedOpportunities := ranked
        vetoedOutcomes := gate.1.outcomes.filter (¬·.1.passed)
        rankedSubjectCount := ranked.length
        vetoedSubjectCount := (gate.1.outcomes.filter (¬·.1.passed)).length } = .ok () := by
    unfold SwingOpportunityRankingBatchFields.check SwingOpportunityRankingBatchFields.vetoed
      SwingOpportunityRankingBatchFields.passed
    dsimp only
    have hcoverage : ¬(¬(ranked.map (·.1.quoteGateOutcome.1.outcomeId)).Nodup ∨
        (ranked.map (·.1.quoteGateOutcome.1.outcomeId)).toFinset ≠
          ((gate.1.outcomes.filter (·.1.passed)).map (·.1.outcomeId)).toFinset) :=
      not_or.mpr ⟨not_not.mpr hids, not_not.mpr hcovered⟩
    have hcounts : ¬(ranked.length ≠ ranked.length ∨
        (gate.1.outcomes.filter (¬·.1.passed)).length ≠ (gate.1.outcomes.filter (¬·.1.passed)).length ∨
        ranked.length + (gate.1.outcomes.filter (¬·.1.passed)).length ≠ gate.1.outcomes.length) := by
      rw [hcount]
      simp
    rw [gate.2, ok_bind, hverified, ok_bind, hvetoVerified, ok_bind, raiseIf_neg (not_not.mpr rfl), ok_bind,
      raiseIf_neg hcoverage, ok_bind, raiseIf_neg (not_not.mpr hranks), ok_bind, hexpected, ok_bind,
      raiseIf_neg (not_not.mpr rfl), ok_bind, raiseIf_neg hcounts]
  refine ⟨⟨_, hcheck⟩, ?_, ⟨?_, fun o ho => ?_, fun o ho => ?_, hranks, hstrict, fun o ho => (hscore o ho).1⟩⟩
  · unfold assembleSwingOpportunityRankingBatch
    rw [gate.2, ok_bind, hpolicy]
    dsimp only
    rw [hscored, ok_bind]
    unfold sortOpportunities
    have hspreads : ¬∃ value ∈ scored, value.outcome.1.evaluation.observedSpreadBps = none := by
      rintro ⟨value, hvalue, hnone⟩
      have hmem := (perm_sortOn scoredKey scored).mem_iff.mpr hvalue
      exact (hordered value hmem).1.spread hnone
    rw [raiseIf_neg hspreads, ok_bind]
    show ((sortOn scoredKey scored).zipIdx 1).mapM (rankOutcome policy) >>= _ = _
    rw [hranked, ok_bind]
    exact Checked.build_of_ok hcheck
  · exact (hoPerm.append_right _).trans (passing_vetoed_perm gate)
  · exact (List.mem_filter.mp (hscore o ho).2.1).2
  · exact Bool.eq_false_iff.mpr (of_decide_eq_true (List.mem_filter.mp ho).2)

/-- A ranking is determined by the passing outcomes and the policy. -/
theorem ranking_of_ok {choice : Option SwingOpportunityRankingPolicy}
    (h : assembleSwingOpportunityRankingBatch gate choice = .ok ranking) : ∃ scored,
      (passing gate).mapM (scoreOutcome (choice.getD defaultSwingRankingPolicy)) = .ok scored ∧
      ((sortOn scoredKey scored).zipIdx 1).mapM (rankOutcome (choice.getD defaultSwingRankingPolicy)) =
        .ok ranking.1.rankedOpportunities := by
  obtain ⟨_, -, hscoring⟩ := bind_eq_ok.mp h
  obtain ⟨scored, hscored, hordering⟩ := bind_eq_ok.mp hscoring
  obtain ⟨ordered, hordered, hranking⟩ := bind_eq_ok.mp hordering
  obtain ⟨ranked, hranked, hbuilt⟩ := bind_eq_ok.mp hranking
  have hsorted : sortOn scoredKey scored = ordered := Except.ok.inj (raiseIf_bind_eq_ok.mp hordered).2
  refine ⟨scored, hscored, ?_⟩
  rw [← Checked.build_eq_ok.mp hbuilt, hsorted]
  exact hranked

/-- Rankings of the same passing outcomes are the same. -/
theorem ranking_eq_of_perm {choice : Option SwingOpportunityRankingPolicy}
    (hnodup : ((passing gate).map outcomeKey).Nodup) (hperm : (passing gate').Perm (passing gate))
    (h : assembleSwingOpportunityRankingBatch gate choice = .ok ranking)
    (h' : assembleSwingOpportunityRankingBatch gate' choice = .ok ranking') :
    ranking'.1.rankedOpportunities = ranking.1.rankedOpportunities := by
  obtain ⟨scored, hscored, hranked⟩ := ranking_of_ok h
  obtain ⟨scored', hscored', hranked'⟩ := ranking_of_ok h'
  have hscoredPerm : scored.Perm scored' := mapM_perm hperm.symm hscored hscored'
  have houtcome : ∀ value ∈ scored, value.outcome ∈ passing gate ∧
      scoreOutcome (choice.getD defaultSwingRankingPolicy) value.outcome = .ok value := by
    intro value hvalue
    obtain ⟨outcome, houtcome, hok⟩ := mem_of_forall₂_right (mapM_eq_ok.mp hscored) hvalue
    obtain ⟨components, -, heq⟩ := bind_eq_ok.mp hok
    obtain rfl := Except.ok.inj heq
    exact ⟨houtcome, hok⟩
  have hkey : ∀ a ∈ scored, ∀ b ∈ scored, scoredKey a = scoredKey b → a = b := by
    intro a ha b hb heq
    obtain ⟨haPassing, haScore⟩ := houtcome a ha
    obtain ⟨hbPassing, hbScore⟩ := houtcome b hb
    have hsame : a.outcome = b.outcome :=
      List.inj_on_of_nodup_map hnodup haPassing hbPassing (opportunityKey_subject heq)
    rw [hsame] at haScore
    exact Except.ok.inj (haScore.symm.trans hbScore)
  rw [sortOn_eq_of_perm scoredKey hscoredPerm hkey] at hranked
  exact Except.ok.inj (hranked'.symm.trans hranked)

end Ranking

section Claim

variable {batch : SwingProposalBatch} {quotes : FullQuoteBatch} {evaluatedAt : Instant}

/-- A quote batch that covers the distinct symbols of a proposal batch, was collected within the policy's duration and
observed before the evaluation. -/
structure Covers (batch : SwingProposalBatch) (quotes : FullQuoteBatch) (evaluatedAt : Instant)
    (limits : SwingQuoteGatePolicy) : Prop where
  symbols : (batch.1.proposals.map (·.1.symbol)).Nodup
  keys : ∀ key, key ∈ quotes.1.requestedKeys ↔ key ∈ batch.1.proposals.map fun p => nseKey p.1.symbol
  observed : quotes.1.observedAt ≤ evaluatedAt
  collection : quotes.1.observedAt - quotes.1.requestedAt ≤ seconds limits.1.maximumBatchCollectionSeconds

/-- A quote batch that covers the symbols of a proposal batch is gated: each proposal has one outcome on the quote of its
symbol, which passes exactly when that quote is live, and never turns from a veto into a pass under a tighter policy.
Where the passing proposals have an entry range and the weights fit the context the passing outcomes are ranked, in
the same way in all batches with these passing outcomes. -/
theorem live_quotes_ranked (limits : Option SwingQuoteGatePolicy) (weights : Option SwingOpportunityRankingPolicy)
    (hcovers : Covers batch quotes evaluatedAt (limits.getD defaultSwingQuoteGatePolicy)) :
    ∃ gate, assembleSwingQuoteGateBatch batch quotes evaluatedAt limits = .ok gate ∧
      gate.1.outcomes.map (·.1.proposal) = batch.1.proposals ∧
      (∀ outcome ∈ gate.1.outcomes, outcome.1.quote ∈ quotes.1.quotes ∧
        outcome.1.quote.1.listingKey = nseKey outcome.1.proposal.1.symbol ∧
        (outcome.1.passed = true ↔ LiveQuote outcome.1.proposal.1 outcome.1.quote.1 evaluatedAt
          (limits.getD defaultSwingQuoteGatePolicy).1)) ∧
      (∀ strict tight, Tightens strict.1 (limits.getD defaultSwingQuoteGatePolicy).1 →
        assembleSwingQuoteGateBatch batch quotes evaluatedAt (some strict) = .ok tight →
        List.Forall₂ (fun outcome tightened => tightened.1.passed = true → outcome.1.passed = true) gate.1.outcomes
          tight.1.outcomes) ∧
      ((∀ outcome ∈ gate.1.outcomes, outcome.1.passed = true →
          outcome.1.proposal.1.levels.1.entryLow < outcome.1.proposal.1.levels.1.entryHigh) →
        (∀ weight ∈ (weights.getD defaultSwingRankingPolicy).1.weights, DecimalContext.Fits 28 weight.2) →
        ∃ ranking, assembleSwingOpportunityRankingBatch gate weights = .ok ranking ∧ Ranks gate ranking ∧
          ∀ gate' ranking', (passing gate').Perm (passing gate) →
            assembleSwingOpportunityRankingBatch gate' weights = .ok ranking' →
            ranking'.1.rankedOpportunities = ranking.1.rankedOpportunities) := by
  have hkeys := requestedKeys_eq hcovers.symbols hcovers.keys
  obtain ⟨gate, hgate, hgates⟩ := quoteGate_ok limits rfl hkeys hcovers.observed hcovers.collection
  refine ⟨gate, hgate, ?_, ?_, ?_, ?_⟩
  · have hproposals := forall₂_map_eq hgates.outcomes (f := id) (g := fun o : SwingQuoteGateOutcome => o.1.proposal)
      fun proposal outcome hgated => hgated.proposed.symm
    rw [← hproposals, List.map_id]
  · intro outcome houtcome
    obtain ⟨proposal, hproposal, hgated⟩ := mem_of_forall₂_right hgates.outcomes houtcome
    obtain ⟨quote, hquote, hfound, hlistingKey⟩ := quoteOf_ok hkeys hproposal
    have hsame : quote = outcome.1.quote := Except.ok.inj (hfound.symm.trans hgated.quote)
    rw [hgated.proposed, ← hsame]
    refine ⟨hquote, hlistingKey, ?_⟩
    rw [hsame]
    exact hgated.passed_iff
  · intro strict tight htightens htight
    have htightGates := gates_of_ok htight
    have hboth : List.Forall₂ (fun outcome tightened => ∃ proposal,
        Gated quotes evaluatedAt (limits.getD defaultSwingQuoteGatePolicy) proposal outcome ∧
          Gated quotes evaluatedAt strict proposal tightened) gate.1.outcomes tight.1.outcomes := by
      refine forall₂_trans (R := fun outcome proposal => Gated quotes evaluatedAt
        (limits.getD defaultSwingQuoteGatePolicy) proposal outcome) hgates.outcomes.flip htightGates.outcomes ?_
      exact fun outcome proposal tightened hgated htightened => ⟨proposal, hgated, htightened⟩
    refine hboth.imp fun outcome tightened ⟨proposal, hgated, htightened⟩ hpassed => ?_
    have hsame : tightened.1.quote = outcome.1.quote := Except.ok.inj (htightened.quote.symm.trans hgated.quote)
    have hlive := htightened.passed_iff.mp hpassed
    rw [hsame] at hlive
    exact hgated.passed_iff.mpr (hlive.loosen htightens)
  · intro hranges hweights
    obtain ⟨ranking, hranking, hranks⟩ := ranking_ok weights rfl hgates.nodup hranges hweights
    refine ⟨ranking, hranking, hranks, fun gate' ranking' hperm hranking' => ?_⟩
    exact ranking_eq_of_perm (hgates.nodup.sublist (List.filter_sublist.map _)) hperm hranking hranking'

end Claim

section Samples

variable {batch : SwingProposalBatch} {quotes : FullQuoteBatch}

/-- The proposals of two subjects under a config. -/
def sampleProposalBatch (config : DeterministicSwingSignalConfig) : Except SignalError SwingProposalBatch := do
  let batch ← sampleUniverseBatch 102
  assembleSwingProposalBatch batch sampleSwingCalendar (some config)

/-- A minute after the entry window opens. -/
def sampleEvaluatedAt : Instant := 1728100260000000

/-- A quote at the close, with a given ask. -/
def sampleFullQuote (symbol : String) (token : ℕ) (bestAsk : ℚ) : Except SignalError KiteFullQuote :=
  Checked.build KiteFullQuoteFields.check
    { listingKey := nseKey symbol
      instrumentToken := token
      exchangeTimestamp := sampleEvaluatedAt - 3000000
      lastTradeTime := some (sampleEvaluatedAt - 4000000)
      lastPrice := 102
      lowerCircuitLimit := 90
      upperCircuitLimit := 110
      depthBuy := [⟨10195 / 100, 10, 1⟩]
      depthSell := [⟨bestAsk, 10, 1⟩] }

/-- The quotes of the two subjects. -/
def sampleFullQuoteBatch (alphaAsk betaAsk : ℚ) : Except SignalError FullQuoteBatch := do
  let alpha ← sampleFullQuote "ALPHA" 1 alphaAsk
  let beta ← sampleFullQuote "BETA" 2 betaAsk
  Checked.build FullQuoteBatchFields.check
    { requestedKeys := ["NSE:ALPHA", "NSE:BETA"]
      requestedAt := sampleEvaluatedAt - 5000000
      observedAt := sampleEvaluatedAt - 2000000
      providerVersion := "kite/v1"
      quotes := [alpha, beta] }

/-- An entry buffer below the last of 28 digits. -/
def narrowSwingConfig : DeterministicSwingSignalConfig :=
  ⟨{ sampleSwingConfig.1 with entryAtrBuffer := 1 / 10 ^ 40 }, by decide +kernel⟩

/-- Full scores for the sample's momentum and liquidity. -/
def fullScoreSwingConfig : DeterministicSwingSignalConfig :=
  ⟨{ sampleSwingConfig.1 with fullMomentumScore := 1 / 100, minimumDailyTradedValue := 100 }, by decide +kernel⟩

/-- Weights of more than 28 digits, whose contributions are rounded to more than one. -/
def longWeightsPolicy : SwingOpportunityRankingPolicy :=
  ⟨⟨4 / 100 - 4 / 10 ^ 29, 0, 0, 86 / 100 + 6 / 10 ^ 29, 0, 1 / 10 + 5 / 10 ^ 28⟩, by decide +kernel⟩

/-- The sample quotes cover the sample proposals. -/
theorem sample_covers {limits : SwingQuoteGatePolicy} (hsymbols : batch.1.proposals.map (·.1.symbol) = ["ALPHA", "BETA"])
    (hkeys : quotes.1.requestedKeys = ["NSE:ALPHA", "NSE:BETA"])
    (htimes : quotes.1.requestedAt = sampleEvaluatedAt - 5000000 ∧ quotes.1.observedAt = sampleEvaluatedAt - 2000000)
    (hlimits : 3 ≤ limits.1.maximumBatchCollectionSeconds) : Covers batch quotes sampleEvaluatedAt limits := by
  constructor
  · rw [hsymbols]
    decide
  · intro key
    have hmap : (batch.1.proposals.map fun p => nseKey p.1.symbol) = (batch.1.proposals.map (·.1.symbol)).map nseKey := by
      rw [List.map_map]
      rfl
    rw [hkeys, hmap, hsymbols]
    rfl
  · rw [htimes.2]
    exact sub_le_self _ (by norm_num)
  · rw [htimes.1, htimes.2]
    have hseconds := seconds_mono hlimits
    have hthree : sampleEvaluatedAt - 2000000 - (sampleEvaluatedAt - 5000000) = seconds 3 := by decide
    rwa [hthree]

/-- What is decided of a sample before it is gated. -/
def isSample (batch : SwingProposalBatch) (quotes : FullQuoteBatch) : Bool :=
  decide (batch.1.proposals.map (·.1.symbol) = ["ALPHA", "BETA"]) &&
    decide (quotes.1.requestedKeys = ["NSE:ALPHA", "NSE:BETA"]) &&
    decide (quotes.1.requestedAt = sampleEvaluatedAt - 5000000 ∧ quotes.1.observedAt = sampleEvaluatedAt - 2000000)

theorem isSample_covers (h : isSample batch quotes = true) :
    Covers batch quotes sampleEvaluatedAt defaultSwingQuoteGatePolicy := by
  obtain ⟨h, htimes⟩ := Bool.and_eq_true_iff.mp h
  obtain ⟨hsymbols, hkeys⟩ := Bool.and_eq_true_iff.mp h
  exact sample_covers (of_decide_eq_true hsymbols) (of_decide_eq_true hkeys) (of_decide_eq_true htimes) (by decide)

/-- A sample whose second quote asks more than the entry range is gated and ranked. -/
theorem live_quotes_ranked_sample : ∃ batch quotes gate ranking,
    sampleProposalBatch sampleSwingConfig = .ok batch ∧ sampleFullQuoteBatch (10205 / 100) 103 = .ok quotes ∧
      assembleSwingQuoteGateBatch batch quotes sampleEvaluatedAt none = .ok gate ∧
      assembleSwingOpportunityRankingBatch gate none = .ok ranking ∧ Ranks gate ranking := by
  obtain ⟨batch, hbatch, hrange⟩ := @exists_ok_of_any _ _ (sampleProposalBatch sampleSwingConfig)
    (fun batch => batch.1.proposals.all fun p => p.1.levels.1.entryLow < p.1.levels.1.entryHigh) (by decide +kernel)
  obtain ⟨quotes, hquotes, hsample⟩ := @exists_ok_of_any _ _ (sampleFullQuoteBatch (10205 / 100) 103)
    (fun quotes => (sampleProposalBatch sampleSwingConfig).toOption.any fun batch => isSample batch quotes) (by decide +kernel)
  rw [hbatch] at hsample
  obtain ⟨gate, hgate, hproposals, -, -, hranked⟩ := live_quotes_ranked none none (isSample_covers hsample)
  have hranges : ∀ outcome ∈ gate.1.outcomes, outcome.1.passed = true →
      outcome.1.proposal.1.levels.1.entryLow < outcome.1.proposal.1.levels.1.entryHigh := by
    intro outcome houtcome _
    have hmem : outcome.1.proposal ∈ batch.1.proposals := hproposals ▸ List.mem_map_of_mem houtcome
    exact of_decide_eq_true (List.all_eq_true.mp hrange _ hmem)
  have hweights : ∀ weight ∈ defaultSwingRankingPolicy.1.weights, DecimalContext.Fits 28 weight.2 := by
    unfold DecimalContext.Fits
    decide +kernel
  obtain ⟨ranking, hranking, hranks, -⟩ := hranked hranges hweights
  exact ⟨batch, quotes, gate, ranking, hbatch, hquotes, hgate, hranking, hranks⟩

/-- Neither an entry range that is lost in rounding nor weights of more than 28 digits are ranked. -/
theorem covered_quotes_refused :
    (¬∀ batch quotes evaluatedAt limits weights, Covers batch quotes evaluatedAt limits →
      ∃ gate ranking, assembleSwingQuoteGateBatch batch quotes evaluatedAt (some limits) = .ok gate ∧
        assembleSwingOpportunityRankingBatch gate weights = .ok ranking) ∧
    ¬∀ batch quotes evaluatedAt limits weights, Covers batch quotes evaluatedAt limits →
      (∀ proposal ∈ batch.1.proposals, proposal.1.levels.1.entryLow < proposal.1.levels.1.entryHigh) →
      ∃ gate ranking, assembleSwingQuoteGateBatch batch quotes evaluatedAt (some limits) = .ok gate ∧
        assembleSwingOpportunityRankingBatch gate (some weights) = .ok ranking := by
  constructor
  · intro hclaim
    obtain ⟨batch, hbatch, -⟩ := @exists_ok_of_any _ _ (sampleProposalBatch narrowSwingConfig) (fun _ => true)
      (by decide +kernel)
    obtain ⟨quotes, hquotes, hsample⟩ := @exists_ok_of_any _ _ (sampleFullQuoteBatch 102 102)
      (fun quotes => (sampleProposalBatch narrowSwingConfig).toOption.any fun batch => isSample batch quotes &&
        ((assembleSwingQuoteGateBatch batch quotes sampleEvaluatedAt (some defaultSwingQuoteGatePolicy)).bind fun gate =>
          assembleSwingOpportunityRankingBatch gate none).toOption.isNone) (by decide +kernel)
    rw [hbatch] at hsample
    obtain ⟨hsample, hrefused⟩ := Bool.and_eq_true_iff.mp hsample
    obtain ⟨gate, ranking, hgate, hranking⟩ := hclaim batch quotes sampleEvaluatedAt defaultSwingQuoteGatePolicy none
      (isSample_covers hsample)
    rw [hgate] at hrefused
    change (assembleSwingOpportunityRankingBatch gate none).toOption.isNone = true at hrefused
    rw [hranking] at hrefused
    cases hrefused
  · intro hclaim
    obtain ⟨batch, hbatch, hrange⟩ := @exists_ok_of_any _ _ (sampleProposalBatch fullScoreSwingConfig)
      (fun batch => batch.1.proposals.all fun p => p.1.levels.1.entryLow < p.1.levels.1.entryHigh) (by decide +kernel)
    obtain ⟨quotes, hquotes, hsample⟩ := @exists_ok_of_any _ _ (sampleFullQuoteBatch 102 102)
      (fun quotes => (sampleProposalBatch fullScoreSwingConfig).toOption.any fun batch => isSample batch quotes &&
        ((assembleSwingQuoteGateBatch batch quotes sampleEvaluatedAt (some defaultSwingQuoteGatePolicy)).bind fun gate =>
          assembleSwingOpportunityRankingBatch gate (some longWeightsPolicy)).toOption.isNone) (by decide +kernel)
    rw [hbatch] at hsample
    obtain ⟨hsample, hrefused⟩ := Bool.and_eq_true_iff.mp hsample
    obtain ⟨gate, ranking, hgate, hranking⟩ := hclaim batch quotes sampleEvaluatedAt defaultSwingQuoteGatePolicy
      longWeightsPolicy (isSample_covers hsample) fun proposal hproposal =>
        of_decide_eq_true (List.all_eq_true.mp hrange proposal hproposal)
    rw [hgate] at hrefused
    change (assembleSwingOpportunityRankingBatch gate (some longWeightsPolicy)).toOption.isNone = true at hrefused
    rw [hranking] at hrefused
    cases hrefused

end Samples

end IndiaSwing.Signals
