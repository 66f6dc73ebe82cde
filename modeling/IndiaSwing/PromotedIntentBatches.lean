import Mathlib.Algebra.Order.BigOperators.Group.List
import IndiaSwing.PromotedIntentSafety
import IndiaSwing.StatePublicationInputs

namespace IndiaSwing

open ExceptGuards KeySort DecimalContext TierSelection

section Selection

variable {panel other : VerifiedPromotedCrossSectionPanel} {config : PromotedIntentPolicyConfig}
variable {capital : ℚ} {result : PromotedCrossSectionResult} {candidate : PreparedCandidate}
variable {results : List PromotedCrossSectionResult}

theorem filterMap_map_sublist {α β γ : Type*} {f : α → Option β} {g : α → Option γ} {k : β → γ}
    (h : ∀ a b, f a = some b → g a = some (k b)) (values : List α) :
    ((values.filterMap f).map k).Sublist (values.filterMap g) := by
  induction values with
  | nil => exact .slnil
  | cons a values ih =>
    cases hf : f a with
    | some b =>
      rw [List.filterMap_cons_some hf, List.filterMap_cons_some (h a b hf), List.map_cons]
      exact ih.cons_cons _
    | none =>
      rw [List.filterMap_cons_none hf]
      cases hg : g a with
      | none => rwa [List.filterMap_cons_none hg]
      | some c =>
        rw [List.filterMap_cons_some hg]
        exact ih.cons _

def PreparedCandidate.cell (candidate : PreparedCandidate) : ContentId × ContentId :=
  (candidate.1.opportunity.stableInstrumentId, candidate.1.opportunity.stableListingId)

/-- No two candidates are for one opportunity: an opportunity is of one instrument and listing. -/
theorem opportunityIds_nodup (panel : VerifiedPromotedCrossSectionPanel)
    (config : PromotedIntentPolicyConfig) (capital : ℚ) :
    ((candidates panel config capital panel.results).map (·.opportunityId)).Nodup := by
  have hcells : ((candidates panel config capital panel.results).map (·.cell)).Nodup := by
    refine List.Nodup.sublist (filterMap_map_sublist (fun result candidate hresult => ?_) _)
      panel.distinctCells
    have hscreens := (screenResult_eq panel config capital result).2
    cases hscreened : screenedOf panel config capital result with
    | blocked status =>
      rw [hscreened] at hresult
      cases hresult
    | prepared found =>
      rw [hscreened] at hresult hscreens
      obtain rfl := Option.some.inj hresult
      rw [PromotedCrossSectionResult.cell, hscreens.score]
      rfl
  refine nodup_map_of hcells fun a _ b _ heq => ?_
  simp only [PreparedCandidate.opportunityId, PromotedOpportunityScore.opportunityId,
    ContentId.ofFields_inj, true_and, List.cons.injEq] at heq
  exact Prod.ext heq.2.2.1 heq.2.2.2.1

/-- The tiers that are taken are a front of the tiers of the candidates. -/
theorem selectionOf_front (panel : VerifiedPromotedCrossSectionPanel)
    (config : PromotedIntentPolicyConfig) (capital : ℚ) :
    ∃ front, front <+: tiers PreparedCandidate.rankTier (candidates panel config capital panel.results) ∧
      (selectionOf panel config capital).1 = namesIn PreparedCandidate.rankTier
        PreparedCandidate.opportunityId (candidates panel config capital panel.results) front ∧
      (selectionOf panel config capital).1.card ≤ config.1.maximumPositions := by
  have hnone : namesIn PreparedCandidate.rankTier PreparedCandidate.opportunityId
      (candidates panel config capital panel.results) [] = ∅ := by simp [namesIn]
  have hfits : (namesIn PreparedCandidate.rankTier PreparedCandidate.opportunityId
      (candidates panel config capital panel.results) []).card ≤ config.1.maximumPositions := by
    rw [hnone]
    exact Nat.zero_le _
  obtain ⟨front, hfront, hselect, hcard⟩ := select_front hfits
    (tiers PreparedCandidate.rankTier (candidates panel config capital panel.results))
  rw [hnone, List.nil_append] at hselect
  rw [List.nil_append] at hcard
  refine ⟨front, hfront, hselect, ?_⟩
  show (select _ _ _ _ _ _).1.card ≤ _
  rw [hselect]
  exact hcard

/-- The candidates that are taken. -/
def chosen (panel : VerifiedPromotedCrossSectionPanel) (config : PromotedIntentPolicyConfig)
    (capital : ℚ) : List PreparedCandidate :=
  (candidates panel config capital panel.results).filter fun candidate =>
    decide (candidate.opportunityId ∈ (selectionOf panel config capital).1)

theorem chosen_length (panel : VerifiedPromotedCrossSectionPanel) (config : PromotedIntentPolicyConfig)
    (capital : ℚ) : (chosen panel config capital).length ≤ config.1.maximumPositions := by
  obtain ⟨front, -, -, hcard⟩ := selectionOf_front panel config capital
  have hnodup : ((chosen panel config capital).map (·.opportunityId)).Nodup :=
    (opportunityIds_nodup panel config capital).sublist (List.filter_sublist.map _)
  have hsubset : ((chosen panel config capital).map (·.opportunityId)).toFinset ⊆
      (selectionOf panel config capital).1 := by
    intro id hid
    obtain ⟨candidate, hcandidate, rfl⟩ := List.mem_map.mp (List.mem_toFinset.mp hid)
    exact of_decide_eq_true (List.mem_filter.mp hcandidate).2
  have hle := Finset.card_le_card hsubset
  rw [List.toFinset_card_of_nodup hnodup, List.length_map] at hle
  exact hle.trans hcard

theorem mem_chosen (hcandidate : candidate ∈ candidates panel config capital panel.results) :
    candidate.opportunityId ∈ (chosen panel config capital).map (·.opportunityId) ↔
      candidate.opportunityId ∈ (selectionOf panel config capital).1 := by
  constructor
  · intro h
    obtain ⟨found, hfound, heq⟩ := List.mem_map.mp h
    rw [← heq]
    exact of_decide_eq_true (List.mem_filter.mp hfound).2
  · intro h
    exact List.mem_map.mpr ⟨candidate, List.mem_filter.mpr ⟨hcandidate, decide_eq_true h⟩, rfl⟩

/-- What is taken is of better tiers than what is prepared and not taken. -/
theorem chosen_better {taken left : PreparedCandidate}
    (htaken : taken ∈ candidates panel config capital panel.results)
    (hleft : left ∈ candidates panel config capital panel.results)
    (hin : taken.opportunityId ∈ (selectionOf panel config capital).1)
    (hout : left.opportunityId ∉ (selectionOf panel config capital).1) :
    taken.rankTier < left.rankTier := by
  obtain ⟨front, ⟨rest, hrest⟩, hselect, -⟩ := selectionOf_front panel config capital
  have hnodup := opportunityIds_nodup panel config capital
  rw [hselect] at hin hout
  have hinFront := (mem_namesIn hnodup htaken).mp hin
  have houtFront : left.rankTier ∉ front := fun h => hout ((mem_namesIn hnodup hleft).mpr h)
  have hleftTier : left.rankTier ∈ front ++ rest := hrest ▸ mem_tiers.mpr ⟨left, hleft, rfl⟩
  have hleftRest : left.rankTier ∈ rest := (List.mem_append.mp hleftTier).resolve_left houtFront
  have hordered := tiers_ordered PreparedCandidate.rankTier
    (candidates panel config capital panel.results)
  rw [← hrest, List.pairwise_append] at hordered
  exact hordered.2.2 _ hinFront _ hleftRest

theorem statusOf_prepared (selection : Finset ContentId × Finset ContentId)
    (candidate : PreparedCandidate) :
    statusOf selection (.prepared candidate) = .selectedResearchOnly ↔
      candidate.opportunityId ∈ selection.1 := by
  show selectionStatus selection candidate = _ ↔ _
  unfold selectionStatus
  by_cases hin : candidate.opportunityId ∈ selection.1
  · simp [hin]
  · rw [if_neg hin]
    split <;> simp [hin]

/-- The results that are selected are those of the candidates that are taken. -/
theorem selected_results (panel : VerifiedPromotedCrossSectionPanel) (config : PromotedIntentPolicyConfig)
    (capital : ℚ) (selection : Finset ContentId × Finset ContentId)
    (results : List PromotedCrossSectionResult) :
    results.filter (fun result => decide (statusOf selection (screenedOf panel config capital result) =
        .selectedResearchOnly)) =
      ((candidates panel config capital results).filter fun candidate =>
        decide (candidate.opportunityId ∈ selection.1)).map (·.1.sourceResult) := by
  induction results with
  | nil => rfl
  | cons result results ih =>
    have hscreens := (screenResult_eq panel config capital result).2
    rw [List.filter_cons, ih]
    cases hscreened : screenedOf panel config capital result with
    | blocked status =>
      rw [hscreened] at hscreens
      have hcandidates : candidates panel config capital (result :: results) =
          candidates panel config capital results := by
        simp [candidates, hscreened, Screened.toCandidate]
      rw [hcandidates, if_neg]
      exact fun h => hscreens.1 (of_decide_eq_true h)
    | prepared candidate =>
      rw [hscreened] at hscreens
      have hcandidates : candidates panel config capital (result :: results) =
          candidate :: candidates panel config capital results := by
        simp [candidates, hscreened, Screened.toCandidate]
      have hstatus := statusOf_prepared selection candidate
      rw [hcandidates, List.filter_cons]
      by_cases hin : candidate.opportunityId ∈ selection.1
      · rw [if_pos (decide_eq_true (hstatus.mpr hin)), if_pos (decide_eq_true hin), List.map_cons]
        exact congrArg (· :: _) hscreens.source.symm
      · rw [if_neg fun h => hin (hstatus.mp (of_decide_eq_true h)),
          if_neg fun h => hin (of_decide_eq_true h)]

end Selection

section Batches

variable {panel other : VerifiedPromotedCrossSectionPanel} {config : PromotedIntentPolicyConfig}
variable {capital : ℚ} {entrySession : SessionDate} {batch : IntentBatchFields}

/-- A candidate that the first loop prepares from some result of a panel. -/
def IsPrepared (panel : VerifiedPromotedCrossSectionPanel) (config : IntentPolicyFields) (capital : ℚ)
    (candidate : PreparedCandidate) : Prop :=
  ∃ result ∈ panel.results, screenResult .exact panel config capital result = .ok (.prepared candidate)

def IntentBatchFields.opportunityIds (batch : IntentBatchFields) : List ContentId :=
  batch.intents.map (·.opportunityId)

/-- What one intent puts at risk, and what it buys. -/
def IdentifiedResearchIntent.plannedRisk (intent : IdentifiedResearchIntent) : ℚ :=
  intent.evaluationIntent.entryOrder.quantity * (intent.evaluationIntent.entryOrder.limitPrice -
    intent.evaluationIntent.stopPrice + intent.estimatedCostBuffer)

def IdentifiedResearchIntent.plannedNotional (intent : IdentifiedResearchIntent) : ℚ :=
  intent.evaluationIntent.entryOrder.quantity * intent.evaluationIntent.entryOrder.limitPrice

/-- Prices in their order on the tick grid, with the reward that the configuration asks for. -/
structure SafePrices (config : IntentPolicyFields) (intent : EvaluationTradeIntent) (costBuffer : ℚ) :
    Prop where
  stop_pos : 0 < intent.stopPrice
  stop_lt : intent.stopPrice < intent.entryOrder.limitPrice
  lt_target : intent.entryOrder.limitPrice < intent.targetPrice
  entry_onTick : OnTick intent.entryOrder.limitPrice intent.entryOrder.tickSize
  stop_onTick : OnTick intent.stopPrice intent.entryOrder.tickSize
  target_onTick : OnTick intent.targetPrice intent.entryOrder.tickSize
  reward : config.minimumNetRewardRisk ≤
    (intent.targetPrice - intent.entryOrder.limitPrice - costBuffer) /
      (intent.entryOrder.limitPrice - intent.stopPrice + costBuffer)

/-- A batch within the limits of its configuration and capital, made of whole tiers. -/
structure SafeBatch (panel : VerifiedPromotedCrossSectionPanel) (config : IntentPolicyFields)
    (capital : ℚ) (batch : IntentBatchFields) : Prop where
  decisions : batch.decisions.map (·.1.sourceResultId) = panel.results.map (·.resultId)
  selected : (batch.decisions.filter (·.1.selected)).map (·.1.decisionId) =
    batch.intents.map (·.decisionId)
  positions : batch.intents.length ≤ config.maximumPositions
  risk : (batch.intents.map (·.plannedRisk)).sum ≤ capital * config.portfolioRiskFraction
  gross : (batch.intents.map (·.plannedNotional)).sum ≤ capital * config.grossExposureFraction
  prices : ∀ intent ∈ batch.intents, SafePrices config intent.evaluationIntent intent.estimatedCostBuffer
  wholeTiers : ∀ a b, IsPrepared panel config capital a → IsPrepared panel config capital b →
    a.rankTier = b.rankTier → (a.opportunityId ∈ batch.opportunityIds ↔ b.opportunityId ∈ batch.opportunityIds)
  betterTiers : ∀ a b, IsPrepared panel config capital a → IsPrepared panel config capital b →
    a.opportunityId ∈ batch.opportunityIds → b.opportunityId ∉ batch.opportunityIds →
      a.rankTier < b.rankTier

theorem isPrepared_iff {candidate : PreparedCandidate} : IsPrepared panel config.1 capital candidate ↔
    candidate ∈ candidates panel config capital panel.results := by
  constructor
  · rintro ⟨result, hresult, hscreen⟩
    refine List.mem_filterMap.mpr ⟨result, hresult, ?_⟩
    rw [(screenResult_eq panel config capital result).1, Except.ok.injEq] at hscreen
    rw [hscreen]
    rfl
  · intro h
    obtain ⟨result, hresult, hscreened, -⟩ := mem_candidates h
    exact ⟨result, hresult, (screenResult_eq panel config capital result).1.trans
      (congrArg Except.ok hscreened)⟩

/-- A budget in equal parts, of which no more are spent than there are. -/
theorem sum_le_budget {α : Type*} {cost : α → ℚ} {values : List α} {budget : ℚ} {parts : ℕ}
    (hbudget : 0 ≤ budget) (hparts : 0 < parts) (hlength : values.length ≤ parts)
    (hcost : ∀ a ∈ values, cost a ≤ budget / parts) : (values.map cost).sum ≤ budget := by
  have hparts' : (0 : ℚ) < parts := Nat.cast_pos.mpr hparts
  have hsum := List.sum_le_card_nsmul (values.map cost) (budget / parts) fun x hx => by
    obtain ⟨a, ha, rfl⟩ := List.mem_map.mp hx
    exact hcost a ha
  rw [List.length_map, nsmul_eq_mul] at hsum
  calc (values.map cost).sum ≤ values.length * (budget / parts) := hsum
    _ ≤ parts * (budget / parts) :=
      mul_le_mul_of_nonneg_right (Nat.cast_le.mpr hlength) (div_nonneg hbudget hparts'.le)
    _ = budget := mul_div_cancel₀ budget hparts'.ne'

/-- What one intent puts at risk and buys is what its candidate was sized for. -/
theorem IntentFor.sized {config : IntentPolicyFields} {result : PromotedCrossSectionResult}
    {candidate : PreparedCandidate} {decisionId : ContentId} {intent : IdentifiedResearchIntent}
    (h : IntentFor panel config entrySession candidate decisionId intent)
    (hprepares : Prepares config capital result candidate) :
    intent.plannedRisk ≤ capital * config.portfolioRiskFraction / config.maximumPositions ∧
      intent.plannedNotional ≤ capital * config.grossExposureFraction / config.maximumPositions ∧
      (0 < config.roundTripCostBufferFraction →
        SafePrices config intent.evaluationIntent intent.estimatedCostBuffer) := by
  have hsized := hprepares.sized
  have hquantity : (intent.evaluationIntent.entryOrder.quantity : ℚ) = candidate.1.quantity := by
    have := congrArg (Int.cast : ℤ → ℚ) h.quantity
    rwa [Int.cast_natCast] at this
  refine ⟨?_, ?_, fun hbuffer => ?_⟩
  · rw [IdentifiedResearchIntent.plannedRisk, hquantity, h.entry, h.stop, h.buffer]
    exact hsized.risk
  · rw [IdentifiedResearchIntent.plannedNotional, hquantity, h.entry]
    exact hsized.notional
  · have hentry := hsized.stop_pos.trans hsized.stop_lt
    have hrisk : 0 < candidate.1.entryPrice - candidate.1.stopPrice +
        candidate.1.entryPrice * config.roundTripCostBufferFraction := by
      have hcost := mul_pos hentry hbuffer
      have hstop := hsized.stop_lt
      linarith
    constructor
    · exact h.stop ▸ hsized.stop_pos
    · rw [h.stop, h.entry]
      exact hsized.stop_lt
    · rw [h.entry, h.target]
      exact hsized.lt_target
    · rw [h.entry, h.tick]
      exact hsized.entry_onTick
    · rw [h.stop, h.tick]
      exact hsized.stop_onTick
    · rw [h.target, h.tick]
      exact hsized.target_onTick
    · rw [h.entry, h.stop, h.target, h.buffer, le_div_iff₀ hrisk]
      exact hsized.reward

theorem decision_selected {candidate : PreparedCandidate}
    (h : candidate ∈ candidates panel config capital panel.results) :
    (decisionOf panel config capital candidate.1.sourceResult).1.selected =
      decide (candidate.opportunityId ∈ (selectionOf panel config capital).1) := by
  obtain ⟨result, -, hscreened, hprepares⟩ := mem_candidates h
  have hsource : candidate.1.sourceResult = result := hprepares.source
  rw [hsource]
  show decide (statusOf _ (screenedOf panel config capital result) = _) = _
  rw [hscreened, decide_eq_decide]
  exact statusOf_prepared _ _

/-- The decisions that are selections are those about the candidates that are taken. -/
theorem selected_decisions (panel : VerifiedPromotedCrossSectionPanel)
    (config : PromotedIntentPolicyConfig) (capital : ℚ) :
    (panel.results.map (decisionOf panel config capital)).filter (·.1.selected) =
      (chosen panel config capital).map fun candidate =>
        decisionOf panel config capital candidate.1.sourceResult := by
  have hresults := selected_results panel config capital
    (selectionOf panel config capital) panel.results
  rw [List.filter_map]
  refine (congrArg (List.map _) hresults).trans ?_
  rw [List.map_map]
  rfl

theorem decisionIds_nodup (panel : VerifiedPromotedCrossSectionPanel)
    (config : PromotedIntentPolicyConfig) (capital : ℚ) :
    ((panel.results.map (decisionOf panel config capital)).map (·.1.decisionId)).Nodup := by
  rw [List.map_map]
  exact nodup_map_of (resultIds_nodup panel) fun _ _ _ _ => decisionId_inj

/-- A batch of one decision for each result, and one intent for each candidate that is taken. -/
structure GeneratedBatch (panel : VerifiedPromotedCrossSectionPanel) (config : PromotedIntentPolicyConfig)
    (entrySession : SessionDate) (capital : ℚ) (batch : IntentBatchFields) : Prop where
  decisions : batch.decisions = panel.results.map (decisionOf panel config capital)
  intents : List.Forall₂ (fun candidate intent => IntentFor panel config.1 entrySession candidate
    (decisionOf panel config capital candidate.1.sourceResult).1.decisionId intent)
    (chosen panel config capital) batch.intents

theorem GeneratedBatch.decisionIds (h : GeneratedBatch panel config entrySession capital batch) :
    (batch.decisions.filter (·.1.selected)).map (·.1.decisionId) = batch.intents.map (·.decisionId) := by
  rw [h.decisions, selected_decisions, List.map_map]
  exact forall₂_map_eq h.intents fun _ _ hfor => hfor.decision.symm

theorem GeneratedBatch.opportunityIds_eq (h : GeneratedBatch panel config entrySession capital batch) :
    batch.opportunityIds = (chosen panel config capital).map (·.opportunityId) :=
  (forall₂_map_eq h.intents fun _ _ hfor => hfor.opportunity.symm).symm

/-- Such a batch passes its own checks. -/
theorem GeneratedBatch.valid (h : GeneratedBatch panel config entrySession capital batch)
    (hresults : panel.results ≠ []) (hentry : panel.signalSession < entrySession) (hcapital : 0 < capital)
    (hpanel : batch.sourcePanelId = panel.panelId) (hsignal : batch.signalSession = panel.signalSession)
    (hentryOf : batch.entrySession = entrySession) (hcapitalOf : batch.initialCapital = capital)
    (hselected : batch.selectedCount = batch.intents.length)
    (hblocked : batch.blockedCount = batch.decisions.length - batch.selectedCount) :
    validateIntentBatch batch = .ok () := by
  have hfirst : ¬(batch.entrySession ≤ batch.signalSession ∨ batch.initialCapital ≤ 0 ∨
      batch.decisions = [] ∨ batch.selectedCount ≠ batch.intents.length ∨
      batch.blockedCount ≠ batch.decisions.length - batch.selectedCount) := by
    rw [not_or, not_or, not_or, not_or, not_le, not_le, not_not, not_not, hentryOf, hsignal, hcapitalOf]
    refine ⟨hentry, hcapital, ?_, hselected, hblocked⟩
    rw [h.decisions]
    exact fun hnil => hresults (List.map_eq_nil_iff.mp hnil)
  have hsecond : ¬∃ intent ∈ batch.intents, intent.sourceCrossSectionPanelId ≠ batch.sourcePanelId ∨
      intent.evaluationIntent.entryOrder.signalSession ≠ batch.signalSession ∨
      intent.evaluationIntent.entryOrder.firstEligibleSession ≠ batch.entrySession := by
    rintro ⟨intent, hintent, hne⟩
    obtain ⟨candidate, -, hfor⟩ := mem_of_forall₂_left h.intents.flip hintent
    rw [hpanel, hsignal, hentryOf] at hne
    rcases hne with hne | hne | hne
    · exact hne hfor.panelId
    · exact hne hfor.signalSession
    · exact hne hfor.entrySession
  have hids := h.decisionIds
  have hnodup : ((batch.decisions.filter (·.1.selected)).map (·.1.decisionId)).Nodup := by
    have hall := decisionIds_nodup panel config capital
    rw [← h.decisions] at hall
    exact hall.sublist (List.filter_sublist.map _)
  have hthird : ¬(((batch.decisions.filter (·.1.selected)).map (·.1.decisionId)).toFinset.card ≠
      batch.selectedCount ∨ ((batch.decisions.filter (·.1.selected)).map (·.1.decisionId)).toFinset ≠
        (batch.intents.map (·.decisionId)).toFinset) := by
    rw [not_or, not_not, not_not, List.toFinset_card_of_nodup hnodup, hids, List.length_map]
    exact ⟨hselected.symm, rfl⟩
  unfold validateIntentBatch
  rw [raiseIf_neg hfirst, ok_bind, raiseIf_neg hsecond, ok_bind]
  exact raiseIf_neg hthird

/-- What is generated passes the checks of a batch. -/
theorem generate_ok (config : PromotedIntentPolicyConfig) (hresults : panel.results ≠ []) (hentry : panel.signalSession < entrySession)
    (hcapital : 0 < capital) : ∃ batch, generate .exact panel config entrySession capital = .ok batch ∧
      GeneratedBatch panel config entrySession capital batch.1 := by
  have hsessions : ¬∃ result ∈ panel.results, ∃ vector ∈ result.sourceResult.featureVector,
      vector.signalSession ≠ panel.signalSession := by
    rintro ⟨result, hresult, vector, hvector, hne⟩
    exact hne (panel.sessions result hresult vector hvector)
  have hstatuses : ((candidates panel config capital panel.results).foldl (fun statuses candidate =>
      (candidate.1.sourceResult.resultId, selectionStatus (selectionOf panel config capital) candidate) ::
        statuses) ((vetoes panel config capital panel.results).reverse ++ [])).Perm
      (panel.results.map fun result => (result.resultId,
        statusOf (selectionOf panel config capital) (screenedOf panel config capital result))) := by
    rw [foldl_cons_eq (fun candidate : PreparedCandidate => (candidate.1.sourceResult.resultId,
      selectionStatus (selectionOf panel config capital) candidate)), List.append_nil]
    exact ((List.reverse_perm _).append (List.reverse_perm _)).trans (statuses_perm _ _)
  have hdecisions := makeDecisions_eq hstatuses
  unfold selectionOf at hdecisions
  have hzip : (((panel.results.map (·.resultId)).zip
      (panel.results.map (decisionOf panel config capital))).reverse).Perm
      (panel.results.map fun result => (result.resultId, decisionOf panel config capital result)) := by
    rw [List.zip_map']
    exact List.reverse_perm _
  have hlookup : ∀ candidate ∈ candidates panel config capital panel.results,
      (((panel.results.map (·.resultId)).zip
        (panel.results.map (decisionOf panel config capital))).reverse).lookup
          candidate.1.sourceResult.resultId =
        some (decisionOf panel config capital candidate.1.sourceResult) := by
    intro candidate hcandidate
    obtain ⟨result, hresult, -, hprepares⟩ := mem_candidates hcandidate
    have hsource : candidate.1.sourceResult = result := hprepares.source
    rw [hsource]
    exact lookup_result hzip hresult
  obtain ⟨intents, hintents, hall⟩ := makeIntents_ok hentry hlookup fun candidate hcandidate => by
    obtain ⟨result, -, -, hprepares⟩ := mem_candidates hcandidate
    exact ⟨result, hprepares⟩
  rw [List.filter_congr fun candidate hcandidate => decision_selected hcandidate] at hall
  have hgenerated : GeneratedBatch panel config entrySession capital
      { sourcePanelId := panel.panelId
        configId := config.1.configId
        signalSession := panel.signalSession
        entrySession := entrySession
        initialCapital := capital
        decisions := panel.results.map (decisionOf panel config capital)
        intents := intents
        selectedCount := intents.length
        blockedCount := (panel.results.map (decisionOf panel config capital)).length - intents.length
        sourceUniverseComplete := panel.sourceUniverseCrossSectionComplete } := ⟨rfl, hall⟩
  have hvalid := hgenerated.valid hresults hentry hcapital rfl rfl rfl rfl rfl rfl
  unfold generate
  rw [raiseIf_neg (not_le.mpr hcapital), ok_bind, raiseIf_neg hsessions, ok_bind,
    raiseIf_neg (not_le.mpr hentry), ok_bind, screenResults_eq, ok_bind]
  show ∃ batch, (makeDecisions _ _ >>= _) = .ok batch ∧ _
  rw [List.nil_append, hdecisions, ok_bind]
  show ∃ batch, (makeIntents _ _ _ _ _ _ >>= _) = .ok batch ∧ _
  rw [hintents, ok_bind]
  exact ⟨⟨_, hvalid⟩, Checked.build_of_ok hvalid, hgenerated⟩

theorem GeneratedBatch.safe (h : GeneratedBatch panel config entrySession capital batch)
    (hcapital : 0 < capital) : SafeBatch panel config.1 capital batch := by
  have hbounds := policyBounds config
  have hids := h.opportunityIds_eq
  have hlength : batch.intents.length ≤ config.1.maximumPositions := by
    rw [← h.intents.length_eq]
    exact chosen_length panel config capital
  have hsized : ∀ intent ∈ batch.intents, ∃ candidate result decisionId,
      IntentFor panel config.1 entrySession candidate decisionId intent ∧
        Prepares config.1 capital result candidate := by
    intro intent hintent
    obtain ⟨candidate, hcandidate, hfor⟩ := mem_of_forall₂_left h.intents.flip hintent
    obtain ⟨result, -, -, hprepares⟩ := mem_candidates (List.mem_filter.mp hcandidate).1
    exact ⟨candidate, result, _, hfor, hprepares⟩
  have hbetter : ∀ a b, IsPrepared panel config.1 capital a → IsPrepared panel config.1 capital b →
      a.opportunityId ∈ batch.opportunityIds → b.opportunityId ∉ batch.opportunityIds →
        a.rankTier < b.rankTier := by
    intro a b ha hb hin hout
    rw [isPrepared_iff] at ha hb
    rw [hids, mem_chosen ha] at hin
    rw [hids, mem_chosen hb] at hout
    exact chosen_better ha hb hin hout
  refine ⟨?_, h.decisionIds, hlength, ?_, ?_, ?_, ?_, hbetter⟩
  · rw [h.decisions, List.map_map]
    rfl
  · refine sum_le_budget (mul_nonneg hcapital.le hbounds.risk.le) hbounds.positions hlength ?_
    intro intent hintent
    obtain ⟨candidate, result, decisionId, hfor, hprepares⟩ := hsized intent hintent
    exact (hfor.sized hprepares).1
  · refine sum_le_budget (mul_nonneg hcapital.le hbounds.gross.le) hbounds.positions hlength ?_
    intro intent hintent
    obtain ⟨candidate, result, decisionId, hfor, hprepares⟩ := hsized intent hintent
    exact (hfor.sized hprepares).2.1
  · intro intent hintent
    obtain ⟨candidate, result, decisionId, hfor, hprepares⟩ := hsized intent hintent
    exact (hfor.sized hprepares).2.2 hbounds.buffer
  · intro a b ha hb htier
    constructor
    · intro hin
      by_contra hout
      exact absurd htier (hbetter a b ha hb hin hout).ne
    · intro hin
      by_contra hout
      exact absurd htier.symm (hbetter b a hb ha hin hout).ne

end Batches

section Order

variable {panel other : VerifiedPromotedCrossSectionPanel} {config : PromotedIntentPolicyConfig}
variable {capital : ℚ} {entrySession : SessionDate}

/-- The same evidence, with its results in another order. -/
structure Reorders (other panel : VerifiedPromotedCrossSectionPanel) : Prop where
  signalSession : other.signalSession = panel.signalSession
  complete : other.sourceUniverseCrossSectionComplete = panel.sourceUniverseCrossSectionComplete
  regime : other.regime = panel.regime
  results : other.results.Perm panel.results

theorem Reorders.screenedOf_eq (h : Reorders other panel) (result : PromotedCrossSectionResult) :
    screenedOf other config capital result = screenedOf panel config capital result := by
  unfold screenedOf screenResult
  rw [h.complete, h.regime]

theorem Reorders.candidates (h : Reorders other panel) :
    (candidates other config capital other.results).Perm (candidates panel config capital panel.results) := by
  have hsame : IndiaSwing.candidates other config capital other.results =
      IndiaSwing.candidates panel config capital other.results := by
    unfold IndiaSwing.candidates
    simp only [h.screenedOf_eq]
  rw [hsame]
  exact h.results.filterMap _

theorem Reorders.selectionOf_eq (h : Reorders other panel) :
    selectionOf other config capital = selectionOf panel config capital := by
  unfold selectionOf selectCompleteTiers
  rw [tiers_perm h.candidates]
  exact select_perm h.candidates _ _

/-- What is taken does not depend on the order of the results. -/
theorem Reorders.chosen (h : Reorders other panel) :
    (chosen other config capital).Perm (chosen panel config capital) := by
  unfold IndiaSwing.chosen
  rw [h.selectionOf_eq]
  exact h.candidates.filter _

/-- From any panel with a result, an entry session after its signal session and a positive capital, a
safe batch is generated, and the same opportunities from the same results in any other order. -/
theorem generate_safe (panel : VerifiedPromotedCrossSectionPanel) (config : PromotedIntentPolicyConfig)
    (entrySession : SessionDate) (capital : ℚ) (hresults : panel.results ≠ [])
    (hentry : panel.signalSession < entrySession) (hcapital : 0 < capital) :
    ∃ batch, generate .exact panel config entrySession capital = .ok batch ∧
      SafeBatch panel config.1 capital batch.1 ∧
      ∀ other, Reorders other panel → ∃ batch',
        generate .exact other config entrySession capital = .ok batch' ∧
          batch'.1.opportunityIds.Perm batch.1.opportunityIds := by
  obtain ⟨batch, hbatch, hgenerated⟩ := generate_ok config hresults hentry hcapital
  refine ⟨batch, hbatch, hgenerated.safe hcapital, fun other h => ?_⟩
  have hother : other.results ≠ [] := by
    intro hnil
    exact hresults (List.nil_perm.mp (hnil ▸ h.results))
  obtain ⟨batch', hbatch', hgenerated'⟩ :=
    generate_ok config hother (h.signalSession ▸ hentry) hcapital
  refine ⟨batch', hbatch', ?_⟩
  rw [hgenerated.opportunityIds_eq, hgenerated'.opportunityIds_eq]
  exact h.chosen.map _

def plainInputBar : FeatureInputBar where
  marketSession := 1
  listingKey := "NSE:ABC"
  isin := "INE000000001"
  barId := .digest 1
  adjustedClose := 100
  listingKey_valid := by decide
  isin_valid := by decide
  close_pos := by norm_num

def plainVector : PromotedTechnicalFeatureVector where
  featureId := .digest 2
  stableInstrumentId := .digest 3
  stableListingId := .digest 4
  signalSession := 1
  averageTrueRange := 2
  annualizedRealizedVolatility := 1 / 5
  medianPriorTradedValue := 1000000
  signalTradedValueRatio := 2
  zeroVolumeFraction := 0
  signalTickSize := 1 / 20
  signalTickFraction := 1 / 2000
  averageTrueRangeInTicks := 40
  range_pos := by norm_num
  tick_pos := by norm_num

def plainHistory : PromotedFeatureInputHistory where
  signalSession := 1
  bars := [plainInputBar]
  bars_ne_nil := by simp
  last_session := rfl

def plainFeatures : PromotedTechnicalFeatureResult where
  sourceResult :=
    { resultId := .digest 5
      identityBindings := [⟨1, .digest 1, .digest 6⟩]
      inputHistory := some plainHistory
      bound := by
        intro history hhistory
        obtain rfl := Option.some.inj hhistory
        exact .cons ⟨rfl, rfl⟩ .nil }
  featureVector := some plainVector
  resultId := .digest 7
  computed := by
    intro vector hvector
    obtain rfl := Option.some.inj hvector
    exact ⟨plainHistory, rfl, rfl⟩

def plainScore : PromotedOpportunityScore where
  sourceFeatureId := .digest 2
  regimeEvidenceId := .digest 8
  stableInstrumentId := .digest 3
  stableListingId := .digest 4
  specialistScoreIds := [.digest 9]
  ensembleScore := 4 / 5
  rankTier := 1
  tieSize := 1
  tier_pos := Nat.one_pos
  tie_pos := Nat.one_pos

def plainResult : PromotedCrossSectionResult where
  sourceResult := plainFeatures
  status := .scoredResolvedSubset
  opportunityScore := some plainScore
  scored := fun _ => ⟨plainVector, plainScore, rfl, rfl, rfl, rfl, rfl⟩
  unscored := fun h => absurd rfl h
  blocked := by simp
  tooSmall := by simp

def plainPanel : VerifiedPromotedCrossSectionPanel where
  panelId := .digest 10
  signalSession := 1
  sourceUniverseCrossSectionComplete := true
  regime := some .trending
  results := [plainResult]
  sessions := by
    intro result hresult vector hvector
    obtain rfl := List.mem_singleton.mp hresult
    obtain rfl := Option.some.inj hvector
    rfl
  distinctSources := List.nodup_singleton _
  distinctCells := List.nodup_singleton _

def plainIntentPolicy : IntentPolicyFields where
  maximumPositions := 3
  grossExposureFraction := 9 / 10
  portfolioRiskFraction := 1 / 100
  minimumEnsembleScore := 3 / 5
  minimumMedianTradedValue := 100000
  minimumSignalTradedValueRatio := 1
  maximumTickFraction := 1 / 100
  minimumAverageTrueRangeTicks := 10
  maximumAnnualizedVolatility := 1 / 2
  maximumZeroVolumeFraction := 1 / 10
  stopAtrMultiple := 2
  minimumNetRewardRisk := 3
  roundTripCostBufferFraction := 1 / 200
  maximumHoldingSessions := 10
  maximumParticipation := 1 / 100
  allowedRegimes := [.trending]

theorem plainIntentPolicy_valid : validateIntentPolicy plainIntentPolicy = .ok () := by
  simp only [validateIntentPolicy, raiseIf_eq_ok, not_or, not_not, isFraction, plainIntentPolicy]
  norm_num
  decide

theorem generate_safe_plainPanel :
    plainPanel.results ≠ [] ∧ ∃ batch,
      generate .exact plainPanel ⟨plainIntentPolicy, plainIntentPolicy_valid⟩ 2 1000000 = .ok batch ∧
        SafeBatch plainPanel plainIntentPolicy 1000000 batch.1 := by
  obtain ⟨batch, hbatch, hsafe, -⟩ := generate_safe plainPanel ⟨plainIntentPolicy, plainIntentPolicy_valid⟩ 2 1000000
    (List.cons_ne_nil _ _) (by decide) (by norm_num)
  exact ⟨List.cons_ne_nil _ _, batch, hbatch, hsafe⟩

/-- An entry session that is not after the signal session is rejected. -/
theorem generate_at_signal_session :
    generate .exact plainPanel ⟨plainIntentPolicy, plainIntentPolicy_valid⟩ 1 1000000 =
      .error "promoted intent source is invalid" := by
  have hsessions : ¬∃ result ∈ plainPanel.results, ∃ vector ∈ result.sourceResult.featureVector,
      vector.signalSession ≠ plainPanel.signalSession := by
    rintro ⟨result, hresult, vector, hvector, hne⟩
    exact hne (plainPanel.sessions result hresult vector hvector)
  unfold generate
  rw [raiseIf_neg (by norm_num), ok_bind, raiseIf_neg hsessions, ok_bind]
  rfl

end Order

end IndiaSwing
