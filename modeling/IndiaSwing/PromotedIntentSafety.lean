import IndiaSwing.PromotedIntentSteps

namespace IndiaSwing

open ExceptGuards KeySort TextPatterns DecimalContext

section Statuses

variable {panel : VerifiedPromotedCrossSectionPanel} {config : PromotedIntentPolicyConfig}
variable {capital : ℚ} {result : PromotedCrossSectionResult} {candidate : PreparedCandidate}
variable {results : List PromotedCrossSectionResult}

/-- What the first loop makes of a result. -/
def screenedOf (panel : VerifiedPromotedCrossSectionPanel) (config : PromotedIntentPolicyConfig)
    (capital : ℚ) (result : PromotedCrossSectionResult) : Screened :=
  match screenResult .exact panel config.1 capital result with
  | .ok screened => screened
  | .error _ => .blocked .sourceResultBlocked

theorem screenResult_eq (panel : VerifiedPromotedCrossSectionPanel) (config : PromotedIntentPolicyConfig)
    (capital : ℚ) (result : PromotedCrossSectionResult) :
    screenResult .exact panel config.1 capital result = .ok (screenedOf panel config capital result) ∧
      Screens config.1 capital result (screenedOf panel config capital result) := by
  obtain ⟨screened, hscreened, hscreens⟩ := screenResult_ok panel config capital result
  unfold screenedOf
  rw [hscreened]
  exact ⟨rfl, hscreens⟩

def Screened.toCandidate : Screened → Option PreparedCandidate
  | .prepared candidate => some candidate
  | .blocked _ => none

def Screened.veto : Screened → Option CandidateDecisionStatus
  | .prepared _ => none
  | .blocked status => some status

def candidates (panel : VerifiedPromotedCrossSectionPanel) (config : PromotedIntentPolicyConfig)
    (capital : ℚ) (results : List PromotedCrossSectionResult) : List PreparedCandidate :=
  results.filterMap fun result => (screenedOf panel config capital result).toCandidate

def vetoes (panel : VerifiedPromotedCrossSectionPanel) (config : PromotedIntentPolicyConfig)
    (capital : ℚ) (results : List PromotedCrossSectionResult) : Statuses :=
  results.filterMap fun result =>
    (screenedOf panel config capital result).veto.map fun status => (result.resultId, status)

theorem screenResults_eq (results : List PromotedCrossSectionResult) (statuses : Statuses)
    (prepared : List PreparedCandidate) :
    screenResults .exact panel config.1 capital results statuses prepared =
      .ok ((vetoes panel config capital results).reverse ++ statuses,
        prepared ++ candidates panel config capital results) := by
  induction results generalizing statuses prepared with
  | nil => simp [screenResults, vetoes, candidates]
  | cons result results ih =>
    rw [screenResults, (screenResult_eq panel config capital result).1, ok_bind]
    cases hscreened : screenedOf panel config capital result with
    | blocked status =>
      have hveto : vetoes panel config capital (result :: results) =
          (result.resultId, status) :: vetoes panel config capital results := by
        simp [vetoes, hscreened, Screened.veto]
      have hcandidates : candidates panel config capital (result :: results) =
          candidates panel config capital results := by
        simp [candidates, hscreened, Screened.toCandidate]
      rw [hveto, hcandidates, List.reverse_cons, List.append_assoc]
      exact ih _ _
    | prepared candidate =>
      have hveto : vetoes panel config capital (result :: results) =
          vetoes panel config capital results := by
        simp [vetoes, hscreened, Screened.veto]
      have hcandidates : candidates panel config capital (result :: results) =
          candidate :: candidates panel config capital results := by
        simp [candidates, hscreened, Screened.toCandidate]
      rw [hveto, hcandidates, List.append_cons]
      exact ih _ _

theorem mem_candidates (h : candidate ∈ candidates panel config capital results) :
    ∃ result ∈ results, screenedOf panel config capital result = .prepared candidate ∧
      Prepares config.1 capital result candidate := by
  obtain ⟨result, hresult, hcandidate⟩ := List.mem_filterMap.mp h
  have hscreens := (screenResult_eq panel config capital result).2
  cases hscreened : screenedOf panel config capital result with
  | blocked status =>
    rw [hscreened] at hcandidate
    cases hcandidate
  | prepared found =>
    rw [hscreened] at hcandidate hscreens
    obtain rfl := Option.some.inj hcandidate
    exact ⟨result, hresult, hscreened, hscreens⟩

/-- The status of a result after a selection. -/
def statusOf (selection : Finset ContentId × Finset ContentId) (screened : Screened) :
    CandidateDecisionStatus :=
  match screened with
  | .blocked status => status
  | .prepared candidate => selectionStatus selection candidate

theorem statuses_perm (selection : Finset ContentId × Finset ContentId)
    (results : List PromotedCrossSectionResult) :
    ((candidates panel config capital results).map
      (fun candidate => (candidate.1.sourceResult.resultId, selectionStatus selection candidate)) ++
        vetoes panel config capital results).Perm
    (results.map fun result =>
      (result.resultId, statusOf selection (screenedOf panel config capital result))) := by
  induction results with
  | nil => exact .nil
  | cons result results ih =>
    have hscreens := (screenResult_eq panel config capital result).2
    simp only [candidates, vetoes, List.filterMap_cons, List.map_cons] at ih ⊢
    cases hscreened : screenedOf panel config capital result with
    | blocked status =>
      simp only [Screened.toCandidate, Screened.veto, Option.map_some, statusOf]
      exact List.perm_middle.trans (ih.cons _)
    | prepared candidate =>
      rw [hscreened] at hscreens
      have hsource : candidate.1.sourceResult = result := hscreens.source
      simp only [Screened.toCandidate, Screened.veto, Option.map_none, statusOf, List.map_cons,
        List.cons_append, hsource]
      exact ih.cons _

theorem foldl_cons_eq {α β : Type*} (f : α → β) (values : List α) (start : List β) :
    values.foldl (fun done value => f value :: done) start = (values.map f).reverse ++ start := by
  induction values generalizing start with
  | nil => rfl
  | cons value values ih => simp [ih]

theorem resultId_inj {a b : PromotedCrossSectionResult} (h : a.resultId = b.resultId) :
    a.sourceResult.resultId = b.sourceResult.resultId := by
  simp only [PromotedCrossSectionResult.resultId, ContentId.ofFields_inj, true_and,
    List.cons.injEq] at h
  exact h.1

theorem resultIds_nodup (panel : VerifiedPromotedCrossSectionPanel) :
    (panel.results.map (·.resultId)).Nodup :=
  nodup_map_of panel.distinctSources fun _ _ _ _ => resultId_inj

/-- Entries with the results' own ids as keys are found under them. -/
theorem lookup_result {α : Type*} {entries : List (ContentId × α)} {f : PromotedCrossSectionResult → α}
    (hperm : entries.Perm (panel.results.map fun result => (result.resultId, f result)))
    (hresult : result ∈ panel.results) : entries.lookup result.resultId = some (f result) := by
  have hkeys : (entries.map (·.1)).Nodup := by
    have hnodup := resultIds_nodup panel
    refine ((hperm.map (·.1)).nodup_iff).mpr ?_
    rwa [List.map_map]
  rw [JsonText.lookup_eq_some_iff hkeys, hperm.mem_iff]
  exact List.mem_map.mpr ⟨result, hresult, rfl⟩

end Statuses

section Decisions

variable {panel : VerifiedPromotedCrossSectionPanel} {config : PromotedIntentPolicyConfig}
variable {capital : ℚ} {result : PromotedCrossSectionResult}

theorem decisionReasonCodes_ne_nil (status : CandidateDecisionStatus) : decisionReasonCodes status ≠ [] := by
  intro h
  have hperm := perm_sortOn id [status.value, "NO_LIVE_ALERT_AUTHORITY", "NO_EXECUTION_AUTHORITY",
    "SCORE_IS_NOT_A_PROBABILITY"].dedup
  have hmem : status.value ∈ decisionReasonCodes status :=
    hperm.mem_iff.mpr (List.mem_dedup.mpr List.mem_cons_self)
  rw [h] at hmem
  cases hmem

/-- Every decision about a result passes its own checks. -/
theorem decision_valid (result : PromotedCrossSectionResult) (status : CandidateDecisionStatus) :
    validateDecision (decisionFields result status) = .ok () := by
  have hshape : (result.opportunityScore.isSome → result.sourceResult.featureVector.isSome) := by
    intro hsome
    by_cases hstatus : result.status = .scoredResolvedSubset
    · obtain ⟨vector, opportunity, hvector, -⟩ := result.scored hstatus
      rw [hvector]
      rfl
    · rw [result.unscored hstatus] at hsome
      cases hsome
  have hreasons := decisionReasonCodes_ne_nil status
  have htier : result.opportunityScore.map (·.rankTier) ≠ some 0 := by
    intro h
    obtain ⟨opportunity, -, hzero⟩ := Option.map_eq_some_iff.mp h
    exact absurd hzero opportunity.tier_pos.ne'
  have htie : result.opportunityScore.map (·.tieSize) ≠ some 0 := by
    intro h
    obtain ⟨opportunity, -, hzero⟩ := Option.map_eq_some_iff.mp h
    exact absurd hzero opportunity.tie_pos.ne'
  have hfirst : ¬((decisionFields result status).rankTier = some 0 ∨
      (decisionFields result status).tieSize = some 0 ∨
      (decisionFields result status).reasonCodes = [] ∨ (decisionFields result status).selected ≠
        decide ((decisionFields result status).status = .selectedResearchOnly)) := by
    rw [not_or, not_or, not_or, not_not]
    exact ⟨htier, htie, hreasons, rfl⟩
  unfold validateDecision
  rw [raiseIf_neg hfirst, ok_bind]
  cases hscore : result.opportunityScore with
  | none => simp [decisionFields, hscore]
  | some opportunity =>
    obtain ⟨vector, hvector⟩ := Option.isSome_iff_exists.mp (hshape (by rw [hscore]; rfl))
    simp [decisionFields, hscore, hvector]

def selectionOf (panel : VerifiedPromotedCrossSectionPanel) (config : PromotedIntentPolicyConfig)
    (capital : ℚ) : Finset ContentId × Finset ContentId :=
  selectCompleteTiers (candidates panel config capital panel.results) config.1.maximumPositions

/-- The decision about a result of the panel. -/
def decisionOf (panel : VerifiedPromotedCrossSectionPanel) (config : PromotedIntentPolicyConfig)
    (capital : ℚ) (result : PromotedCrossSectionResult) : PromotedCandidateDecision :=
  ⟨decisionFields result
    (statusOf (selectionOf panel config capital) (screenedOf panel config capital result)),
    decision_valid _ _⟩

theorem makeDecisions_eq {statuses : Statuses}
    (h : statuses.Perm (panel.results.map fun result => (result.resultId,
      statusOf (selectionOf panel config capital) (screenedOf panel config capital result)))) :
    makeDecisions statuses panel.results = .ok (panel.results.map (decisionOf panel config capital)) := by
  refine mapM_ok fun result hresult => ?_
  rw [lookup_result h hresult]
  exact Checked.build_of_ok _

theorem decisionId_inj {a b : PromotedCrossSectionResult}
    (h : (decisionOf panel config capital a).1.decisionId =
      (decisionOf panel config capital b).1.decisionId) : a.resultId = b.resultId := by
  simp only [CandidateDecision.decisionId, ContentId.ofFields_inj, true_and, List.cons.injEq] at h
  exact h.1

end Decisions

section Intents

variable {panel : VerifiedPromotedCrossSectionPanel} {config : PromotedIntentPolicyConfig}
variable {capital : ℚ} {entrySession : SessionDate} {candidate : PreparedCandidate}
variable {decision : PromotedCandidateDecision} {result : PromotedCrossSectionResult}

/-- The intent of a candidate under a decision. -/
structure IntentFor (panel : VerifiedPromotedCrossSectionPanel) (config : IntentPolicyFields)
    (entrySession : SessionDate) (candidate : PreparedCandidate) (decisionId : ContentId)
    (intent : IdentifiedResearchIntent) : Prop where
  decision : intent.decisionId = decisionId
  panelId : intent.sourceCrossSectionPanelId = panel.panelId
  opportunity : intent.opportunityId = candidate.opportunityId
  signalSession : intent.evaluationIntent.entryOrder.signalSession = panel.signalSession
  entrySession : intent.evaluationIntent.entryOrder.firstEligibleSession = entrySession
  tick : intent.evaluationIntent.entryOrder.tickSize = candidate.1.vector.signalTickSize
  entry : intent.evaluationIntent.entryOrder.limitPrice = candidate.1.entryPrice
  stop : intent.evaluationIntent.stopPrice = candidate.1.stopPrice
  target : intent.evaluationIntent.targetPrice = candidate.1.targetPrice
  quantity : (intent.evaluationIntent.entryOrder.quantity : ℤ) = candidate.1.quantity
  buffer : intent.estimatedCostBuffer = candidate.1.entryPrice * config.roundTripCostBufferFraction

/-- The order of a sized candidate passes its own checks. -/
theorem entryOrder_create (hentry : panel.signalSession < entrySession)
    (hprepares : Prepares config.1 capital result candidate) :
    ∃ order, LimitEntryOrder.create candidate.1.symbol panel.signalSession entrySession entrySession
        candidate.1.quantity.toNat candidate.1.entryPrice candidate.1.vector.signalTickSize
          config.1.maximumParticipation = .ok order ∧
      order.signalSession = panel.signalSession ∧ order.firstEligibleSession = entrySession ∧
      order.quantity = candidate.1.quantity.toNat ∧ order.limitPrice = candidate.1.entryPrice ∧
      order.tickSize = candidate.1.vector.signalTickSize := by
  have hsized := hprepares.sized
  have hbounds := policyBounds config
  have hquantity : candidate.1.quantity.toNat ≠ 0 := by
    have := hsized.quantity_pos
    omega
  have hlimit : ¬candidate.1.entryPrice ≤ 0 := not_le.mpr (hsized.stop_pos.trans hsized.stop_lt)
  have htick : ¬candidate.1.vector.signalTickSize ≤ 0 := not_le.mpr candidate.1.vector.tick_pos
  unfold LimitEntryOrder.create
  rw [dif_neg (not_le.mpr hentry), dif_neg (lt_irrefl _), dif_neg hquantity, dif_neg hlimit,
    dif_neg htick, dif_neg (not_not.mpr hsized.entry_onTick), dif_neg (not_not.mpr hbounds.participation)]
  exact ⟨_, rfl, rfl, rfl, rfl, rfl, rfl⟩

/-- The intent of a sized candidate passes its own checks. -/
theorem makeIntent_ok (hentry : panel.signalSession < entrySession)
    (hprepares : Prepares config.1 capital result candidate) (decision : PromotedCandidateDecision) :
    ∃ intent, makeIntent .exact panel config.1 entrySession candidate decision = .ok intent ∧
      IntentFor panel config.1 entrySession candidate decision.1.decisionId intent := by
  obtain ⟨order, horder, hsignal, hfirst, hquantity, hlimit, htick⟩ := entryOrder_create hentry hprepares
  have hsized := hprepares.sized
  have hbounds := policyBounds config
  have hentryPos := hsized.stop_pos.trans hsized.stop_lt
  have htargetPos := hentryPos.trans hsized.lt_target
  have hbuffer : 0 < candidate.1.entryPrice * config.1.roundTripCostBufferFraction :=
    mul_pos hentryPos hbounds.buffer
  have hrisk : 0 < candidate.1.entryPrice - candidate.1.stopPrice +
      candidate.1.entryPrice * config.1.roundTripCostBufferFraction := by
    have := hsized.stop_lt
    linarith
  have hratio : 5 / 2 ≤ (candidate.1.targetPrice - candidate.1.entryPrice -
      candidate.1.entryPrice * config.1.roundTripCostBufferFraction) /
      (candidate.1.entryPrice - candidate.1.stopPrice +
        candidate.1.entryPrice * config.1.roundTripCostBufferFraction) := by
    rw [le_div_iff₀ hrisk]
    exact (mul_le_mul_of_nonneg_right hbounds.ratio hrisk.le).trans hsized.reward
  have hsymbol : ¬(candidate.1.symbol = "" ∨ ¬isNormalizedUpper candidate.1.symbol) := by
    rw [not_or, not_not]
    exact hprepares.symbol
  have hisin : ¬(candidate.1.isin.toList.length ≠ 12 ∨ ¬isNormalizedUpper candidate.1.isin) := by
    rw [not_or, not_not, not_not]
    exact hprepares.isin
  have hstopTick : OnTick candidate.1.stopPrice order.tickSize := htick ▸ hsized.stop_onTick
  have htargetTick : OnTick candidate.1.targetPrice order.tickSize := htick ▸ hsized.target_onTick
  have hprices : candidate.1.stopPrice < order.limitPrice ∧ order.limitPrice < candidate.1.targetPrice := by
    rw [hlimit]
    exact ⟨hsized.stop_lt, hsized.lt_target⟩
  unfold makeIntent
  dsimp only
  rw [raiseIf_neg hsymbol, ok_bind, horder]
  show ∃ intent, (EvaluationTradeIntent.create decision.1.decisionId candidate.1.universeSnapshotId
    candidate.1.isin order candidate.1.stopPrice candidate.1.targetPrice
      config.1.maximumHoldingSessions >>= _) = .ok intent ∧ _
  unfold EvaluationTradeIntent.create
  rw [if_neg hisin, dif_neg (not_le.mpr hsized.stop_pos), dif_neg (not_not.mpr hstopTick),
    dif_neg (not_le.mpr htargetPos), dif_neg (not_not.mpr htargetTick), dif_neg (not_not.mpr hprices),
    dif_neg hbounds.holding.ne', ok_bind]
  rw [exact_mul, exact_sub, exact_sub, exact_sub, exact_add, exact_div]
  have hids : ¬(decision.1.decisionId ≠ decision.1.decisionId ∨
      candidate.1.universeSnapshotId ≠ candidate.1.universeSnapshotId) := by
    rw [not_or, not_not, not_not]
    exact ⟨rfl, rfl⟩
  unfold IdentifiedResearchIntent.create
  dsimp only
  rw [dif_neg hids, dif_neg (not_le.mpr hbuffer), dif_neg (not_lt.mpr hratio),
    dif_neg (by rw [hlimit]; exact not_le.mpr hrisk), dif_neg (by rw [hlimit]; exact not_not.mpr rfl)]
  refine ⟨_, rfl, rfl, rfl, rfl, hsignal, hfirst, htick, hlimit, rfl, rfl, ?_, rfl⟩
  show (order.quantity : ℤ) = candidate.1.quantity
  rw [hquantity, Int.toNat_of_nonneg hsized.quantity_pos.le]

/-- The candidates whose decisions are selections, one intent each. -/
theorem makeIntents_ok (hentry : panel.signalSession < entrySession)
    {decisions : List (ContentId × PromotedCandidateDecision)} {chosen : List PreparedCandidate}
    (hlookup : ∀ candidate ∈ chosen, decisions.lookup candidate.1.sourceResult.resultId =
      some (decisionOf panel config capital candidate.1.sourceResult))
    (hprepares : ∀ candidate ∈ chosen, ∃ result, Prepares config.1 capital result candidate) :
    ∃ intents, makeIntents .exact panel config.1 entrySession decisions chosen = .ok intents ∧
      List.Forall₂ (fun candidate intent => IntentFor panel config.1 entrySession candidate
          (decisionOf panel config capital candidate.1.sourceResult).1.decisionId intent)
        (chosen.filter fun candidate =>
          (decisionOf panel config capital candidate.1.sourceResult).1.selected) intents := by
  induction chosen with
  | nil => exact ⟨[], rfl, .nil⟩
  | cons candidate chosen ih =>
    obtain ⟨intents, hintents, hall⟩ := ih
      (fun other hother => hlookup other (List.mem_cons_of_mem _ hother))
      (fun other hother => hprepares other (List.mem_cons_of_mem _ hother))
    obtain ⟨result, hcandidate⟩ := hprepares candidate List.mem_cons_self
    rw [makeIntents, hlookup candidate List.mem_cons_self]
    dsimp only
    by_cases hselected : (decisionOf panel config capital candidate.1.sourceResult).1.selected = true
    · obtain ⟨intent, hintent, hfor⟩ := makeIntent_ok hentry hcandidate
        (decisionOf panel config capital candidate.1.sourceResult)
      rw [if_pos hselected, hintent, ok_bind, hintents, List.filter_cons, if_pos hselected]
      exact ⟨intent :: intents, rfl, .cons hfor hall⟩
    · rw [if_neg hselected, hintents, List.filter_cons, if_neg hselected]
      exact ⟨intents, rfl, hall⟩

end Intents

end IndiaSwing
