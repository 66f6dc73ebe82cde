import IndiaSwing.Lib.JsonRecord
import IndiaSwing.PromotedIntents

namespace IndiaSwing

open ExceptGuards KeySort TextPatterns DecimalContext

section Policy

/-- What a valid configuration gives. -/
structure PolicyBounds (config : IntentPolicyFields) : Prop where
  positions : 0 < config.maximumPositions
  gross : 0 < config.grossExposureFraction
  risk : 0 < config.portfolioRiskFraction
  ratio : 5 / 2 ≤ config.minimumNetRewardRisk
  buffer : 0 < config.roundTripCostBufferFraction
  holding : 0 < config.maximumHoldingSessions
  participation : 0 < config.maximumParticipation ∧ config.maximumParticipation ≤ 1

theorem policyBounds (config : PromotedIntentPolicyConfig) : PolicyBounds config.1 := by
  have h := config.2
  simp only [validateIntentPolicy, raiseIf_eq_ok, not_or, not_not, isFraction, Bool.and_eq_true,
    decide_eq_true_eq, not_lt] at h
  obtain ⟨hpositions, hgross, hrisk, -, -, -, -, -, -, -, -, -, hratio, hbuffer, hholding,
    hparticipation, -⟩ := h
  exact ⟨Nat.pos_of_ne_zero hpositions, hgross.1.1, hrisk.1.1, hratio, hbuffer.1.1,
    Nat.pos_of_ne_zero hholding, hparticipation.1⟩

end Policy

section Texts

/-- A character of a symbol or of an ISIN is its own upper case, and no space. -/
theorem upper_character {c : Char} (h : c.isUpper = true ∨ c.isDigit = true ∨ c = '&' ∨ c = '-') :
    isSpace c = false ∧ c.toUpper = c := by
  have hrange : (38 ≤ c.toNat ∧ c.toNat ≤ 90) ∧ c.toNat < 97 := by
    rcases h with h | h | rfl | rfl
    · obtain ⟨hlow, hhigh⟩ := range_of_isUpper h
      omega
    · simp only [Char.isDigit, Bool.and_eq_true, decide_eq_true_eq] at h
      have hlow : 48 ≤ c.toNat := h.1
      have hhigh : c.toNat ≤ 57 := h.2
      omega
    · decide
    · decide
  constructor
  · simp only [isSpace]
    simp
    omega
  · unfold Char.toUpper
    split
    next hlower =>
      exfalso
      have hlow : 97 ≤ c.toNat := hlower.1
      omega
    next => rfl

theorem isNormalizedUpper_of {text : String}
    (h : ∀ c ∈ text.toList, c.isUpper = true ∨ c.isDigit = true ∨ c = '&' ∨ c = '-') :
    isNormalizedUpper text = true := by
  rw [isNormalizedUpper, decide_eq_true_eq, stripText_eq fun c hc => (upper_character (h c hc)).1]
  exact (List.map_congr_left fun c hc => (upper_character (h c hc)).2).trans (List.map_id' _)

/-- What is written of a bar into an intent is normalized. -/
theorem symbol_normalized {key : List Char} (h : isCorpusListingKey key = true) :
    String.ofList (key.drop 4) ≠ "" ∧ isNormalizedUpper (String.ofList (key.drop 4)) = true := by
  simp only [isCorpusListingKey, Bool.and_eq_true, List.all_eq_true, Bool.or_eq_true,
    decide_eq_true_eq] at h
  obtain ⟨⟨⟨-, hhead⟩, hall⟩, -⟩ := h
  constructor
  · intro hempty
    have hnil := congrArg String.toList hempty
    rw [String.toList_ofList] at hnil
    rw [hnil] at hhead
    cases hhead
  · refine isNormalizedUpper_of fun c hc => ?_
    rw [String.toList_ofList] at hc
    rcases hall c hc with ((hupper | hdigit) | hand) | hdash
    · exact .inl hupper
    · exact .inr (.inl hdigit)
    · exact .inr (.inr (.inl hand))
    · exact .inr (.inr (.inr hdash))

theorem isin_normalized {isin : String} (h : isEquityIsin isin.toList = true) :
    isin.toList.length = 12 ∧ isNormalizedUpper isin = true := by
  simp only [isEquityIsin, Bool.and_eq_true, List.all_eq_true, Bool.or_eq_true, decide_eq_true_eq,
    List.length_drop] at h
  obtain ⟨⟨htake, hall⟩, hlength⟩ := h
  refine ⟨by omega, isNormalizedUpper_of fun c hc => ?_⟩
  rw [← List.take_append_drop 3 isin.toList, htake, List.mem_append] at hc
  rcases hc with hc | hc
  · have hcountry : ['I', 'N', 'E'].all (·.isUpper) = true := by decide
    exact .inl (List.all_eq_true.mp hcountry c hc)
  · rcases hall c hc with hupper | hdigit
    · exact .inl hupper
    · exact .inr (.inl hdigit)

end Texts

section Sizing

variable {vector : PromotedTechnicalFeatureVector} {config : IntentPolicyFields}
variable {capital signalClose entry stop target : ℚ} {quantity : ℤ}

/-- The prices and the size of a candidate. -/
structure Sized (config : IntentPolicyFields) (capital tickSize entry stop target : ℚ) (quantity : ℤ) :
    Prop where
  stop_pos : 0 < stop
  stop_lt : stop < entry
  lt_target : entry < target
  entry_onTick : OnTick entry tickSize
  stop_onTick : OnTick stop tickSize
  target_onTick : OnTick target tickSize
  quantity_pos : 0 < quantity
  risk : quantity * (entry - stop + entry * config.roundTripCostBufferFraction) ≤
    capital * config.portfolioRiskFraction / config.maximumPositions
  notional : quantity * entry ≤ capital * config.grossExposureFraction / config.maximumPositions
  reward : config.minimumNetRewardRisk * (entry - stop + entry * config.roundTripCostBufferFraction) ≤
    target - entry - entry * config.roundTripCostBufferFraction

/-- A whole number of units that a budget pays for costs no more than the budget. -/
theorem toInt_mul_le {budget price : ℚ} (hprice : 0 < price) (hpos : 0 < toInt (budget / price)) :
    toInt (budget / price) * price ≤ budget := by
  have hfloor : (toInt (budget / price) : ℚ) ≤ budget / price := by
    unfold toInt at hpos ⊢
    split
    next => exact Int.floor_le _
    next hneg =>
      rw [if_neg hneg] at hpos
      have hle : ⌈budget / price⌉ ≤ 0 := Int.ceil_le.mpr (le_of_lt (not_le.mp hneg))
      omega
  exact (le_div_iff₀ hprice).mp hfloor

theorem onTick_floor {value tickSize : ℚ} (htick : 0 < tickSize) :
    OnTick (onTickFloor .exact value tickSize) tickSize := onTick_intCast_mul _ htick

theorem onTick_ceiling {value tickSize : ℚ} (htick : 0 < tickSize) :
    OnTick (onTickCeiling .exact value tickSize) tickSize := onTick_intCast_mul _ htick

theorem le_onTickCeiling {value tickSize : ℚ} (htick : 0 < tickSize) :
    value ≤ onTickCeiling .exact value tickSize := by
  have hceil := Int.le_ceil (value / tickSize)
  exact (div_le_iff₀ htick).mp hceil

theorem pricesAndQuantity_sized
    (h : pricesAndQuantity .exact vector config capital signalClose = some (entry, stop, target, quantity)) :
    Sized config capital vector.signalTickSize entry stop target quantity := by
  have htick := vector.tick_pos
  unfold pricesAndQuantity at h
  dsimp only at h
  split at h
  · cases h
  next hstop =>
    split at h
    · cases h
    next hrisk =>
      split at h
      · cases h
      next hquantity =>
        split at h
        · cases h
        next htarget =>
          rw [Option.some.injEq, Prod.mk.injEq, Prod.mk.injEq, Prod.mk.injEq] at h
          obtain ⟨hentryEq, hstopEq, htargetEq, hquantityEq⟩ := h
          have hentryTick : OnTick entry vector.signalTickSize := hentryEq ▸ onTick_floor htick
          have hstopTick : OnTick stop vector.signalTickSize := hstopEq ▸ onTick_floor htick
          have htargetTick : OnTick target vector.signalTickSize := htargetEq ▸ onTick_ceiling htick
          have htargetLe := htargetEq ▸ le_onTickCeiling htick
          rw [hentryEq] at hstop hrisk hquantity htarget hquantityEq htargetEq hstopEq htargetLe
          rw [hstopEq] at hstop hrisk hquantity htarget hquantityEq htargetEq htargetLe
          rw [htargetEq] at htarget
          rw [hquantityEq] at hquantity
          simp only [exact_mul, exact_div, exact_add, exact_sub] at hrisk hquantityEq htargetLe
          rw [not_or, not_le, not_le] at hstop
          rw [not_le] at hrisk hquantity htarget
          obtain ⟨hriskQuantity, hnotionalQuantity⟩ := lt_min_iff.mp (hquantityEq ▸ hquantity)
          have hentry := hstop.1.trans hstop.2
          have hleRisk : quantity ≤ toInt (capital * config.portfolioRiskFraction /
              config.maximumPositions / (entry - stop + entry * config.roundTripCostBufferFraction)) :=
            hquantityEq ▸ min_le_left _ _
          have hleNotional : quantity ≤ toInt (capital * config.grossExposureFraction /
              config.maximumPositions / entry) := hquantityEq ▸ min_le_right _ _
          refine ⟨hstop.1, hstop.2, htarget, hentryTick, hstopTick, htargetTick, hquantity, ?_, ?_, ?_⟩
          · refine le_trans ?_ (toInt_mul_le hrisk hriskQuantity)
            exact mul_le_mul_of_nonneg_right (Int.cast_le.mpr hleRisk) hrisk.le
          · refine le_trans ?_ (toInt_mul_le hentry hnotionalQuantity)
            exact mul_le_mul_of_nonneg_right (Int.cast_le.mpr hleNotional) hentry.le
          · linarith

end Sizing

section Screening

variable {panel : VerifiedPromotedCrossSectionPanel} {config : PromotedIntentPolicyConfig}
variable {result : PromotedCrossSectionResult} {opportunity : PromotedOpportunityScore}
variable {vector : PromotedTechnicalFeatureVector} {capital : ℚ}

theorem forall₂_getLast? {α β : Type*} {R : α → β → Prop} {l : List α} {l' : List β} {b : β}
    (h : List.Forall₂ R l l') (hb : l'.getLast? = some b) : ∃ a, l.getLast? = some a ∧ R a b := by
  have hreverse : List.Forall₂ R l.reverse l'.reverse := List.rel_reverse h
  rw [← List.head?_reverse] at hb
  cases hl' : l'.reverse with
  | nil => rw [hl'] at hb; cases hb
  | cons b' rest' =>
    rw [hl'] at hb hreverse
    obtain rfl := Option.some.inj hb
    cases hl : l.reverse with
    | nil => rw [hl] at hreverse; cases hreverse
    | cons a rest =>
      rw [hl] at hreverse
      cases hreverse with
      | cons hab _ => exact ⟨a, by rw [← List.head?_reverse, hl]; rfl, hab⟩

/-- The security of a computed vector is found, with a normalized symbol and ISIN and a positive close. -/
theorem sourceSecurity_ok (hvector : result.sourceResult.featureVector = some vector) :
    ∃ security, sourceSecurity vector result = .ok security ∧ security.symbol ≠ "" ∧
      isNormalizedUpper security.symbol = true ∧ security.isin.toList.length = 12 ∧
      isNormalizedUpper security.isin = true ∧ 0 < security.signalClose := by
  obtain ⟨history, hhistory, hsession⟩ := result.sourceResult.computed vector hvector
  have hbound := result.sourceResult.sourceResult.bound history hhistory
  have hbar : history.bars.getLast? = some (history.bars.getLast history.bars_ne_nil) :=
    List.getLast?_eq_some_getLast history.bars_ne_nil
  obtain ⟨binding, hbinding, hraw, hbindingSession⟩ := forall₂_getLast? hbound hbar
  have hlast := history.last_session
  generalize history.bars.getLast history.bars_ne_nil = bar at *
  have hkey : bar.listingKey.toList.take 4 = ['N', 'S', 'E', ':'] := by
    have hvalid := bar.listingKey_valid
    simp only [isCorpusListingKey, Bool.and_eq_true, decide_eq_true_eq] at hvalid
    exact hvalid.1.1.1
  obtain ⟨hsymbol, hupper⟩ := symbol_normalized bar.listingKey_valid
  obtain ⟨hisin, hisinUpper⟩ := isin_normalized bar.isin_valid
  refine ⟨⟨_, bar.isin, binding.identitySnapshotId, bar.adjustedClose⟩, ?_, hsymbol, hupper, hisin,
    hisinUpper, bar.close_pos⟩
  have hsessions : ¬(history.signalSession ≠ vector.signalSession ∨
      result.sourceResult.sourceResult.identityBindings.length ≠ history.bars.length) := by
    rw [not_or, not_not, not_not]
    exact ⟨hsession.symm, hbound.length_eq⟩
  have hlastBar : ¬(bar.marketSession ≠ vector.signalSession ∨
      bar.listingKey.toList.take 4 ≠ ['N', 'S', 'E', ':'] ∨
      binding.marketSession ≠ vector.signalSession ∨ binding.rawBarId ≠ bar.barId) := by
    rw [not_or, not_or, not_or, not_not, not_not, not_not, not_not]
    exact ⟨hlast.trans hsession.symm, hkey, (hbindingSession.trans hlast).trans hsession.symm, hraw⟩
  unfold sourceSecurity
  simp only [hhistory, hbar, hbinding]
  rw [raiseIf_neg hsessions, ok_bind, raiseIf_neg hlastBar, ok_bind]
  rfl

/-- A prepared candidate, sized for its capital, of the vector and the score of its result. -/
structure Prepares (config : IntentPolicyFields) (capital : ℚ) (result : PromotedCrossSectionResult)
    (candidate : PreparedCandidate) : Prop where
  source : candidate.1.sourceResult = result
  score : result.opportunityScore = some candidate.1.opportunity
  isin : candidate.1.isin.toList.length = 12 ∧ isNormalizedUpper candidate.1.isin = true
  symbol : candidate.1.symbol ≠ "" ∧ isNormalizedUpper candidate.1.symbol = true
  sized : Sized config capital candidate.1.vector.signalTickSize candidate.1.entryPrice
    candidate.1.stopPrice candidate.1.targetPrice candidate.1.quantity

/-- What is prepared passes the candidate's own checks. -/
theorem prepareCandidate_ok (hvector : result.sourceResult.featureVector = some vector)
    (hscore : result.opportunityScore = some opportunity) :
    ∃ outcome, prepareCandidate .exact result opportunity vector config.1 capital = .ok outcome ∧
      ∀ candidate ∈ outcome, Prepares config.1 capital result candidate := by
  obtain ⟨security, hsecurity, hsymbol, hupper, hisin, hisinUpper, hclose⟩ := sourceSecurity_ok hvector
  unfold prepareCandidate
  rw [hsecurity, ok_bind]
  cases hprices : pricesAndQuantity .exact vector config.1 capital security.signalClose with
  | none => exact ⟨none, rfl, fun candidate hcandidate => by cases hcandidate⟩
  | some prices =>
    obtain ⟨entry, stop, target, quantity⟩ := prices
    have hsized := pricesAndQuantity_sized hprices
    have hvalid : validatePreparedCandidate ⟨result, opportunity, vector, security.identitySnapshotId,
        security.symbol, security.isin, security.signalClose, entry, stop, target, quantity⟩ = .ok () := by
      have hentry := hsized.stop_pos.trans hsized.stop_lt
      have htarget := hentry.trans hsized.lt_target
      simp only [validatePreparedCandidate, raiseIf_eq_ok, not_or, not_not, not_le]
      exact ⟨hsymbol, hupper, hisin, hclose, hentry, hsized.stop_pos, htarget,
        ⟨hsized.stop_lt, hsized.lt_target⟩, hsized.quantity_pos⟩
    dsimp only
    rw [Checked.build_of_ok hvalid, ok_bind]
    refine ⟨some ⟨_, hvalid⟩, rfl, fun candidate hcandidate => ?_⟩
    obtain rfl := Option.some.inj hcandidate
    exact ⟨rfl, hscore, ⟨hisin, hisinUpper⟩, ⟨hsymbol, hupper⟩, hsized⟩

theorem preparationStatus_ne {opportunity : PromotedOpportunityScore}
    {vector : PromotedTechnicalFeatureVector} {config : IntentPolicyFields}
    {status : CandidateDecisionStatus} (h : preparationStatus opportunity vector config = some status) :
    status ≠ .selectedResearchOnly ∧ status ≠ .boundaryTieRejected ∧
      status ≠ .outsidePositionCapacity := by
  unfold preparationStatus at h
  repeat' split at h
  all_goals first
    | (obtain rfl := Option.some.inj h; decide)
    | cases h

/-- A status that is given before the selection. -/
def CandidateDecisionStatus.isVeto (status : CandidateDecisionStatus) : Prop :=
  status ≠ .selectedResearchOnly ∧ status ≠ .boundaryTieRejected ∧ status ≠ .outsidePositionCapacity

/-- What screening a result gives. -/
def Screens (config : IntentPolicyFields) (capital : ℚ) (result : PromotedCrossSectionResult) :
    Screened → Prop
  | .blocked status => status.isVeto
  | .prepared candidate => Prepares config capital result candidate

theorem screenResult_ok (panel : VerifiedPromotedCrossSectionPanel) (config : PromotedIntentPolicyConfig)
    (capital : ℚ) (result : PromotedCrossSectionResult) :
    ∃ screened, screenResult .exact panel config.1 capital result = .ok screened ∧
      Screens config.1 capital result screened := by
  have hblocked : ∃ screened,
      (Except.ok (.blocked .sourceResultBlocked) : Except String Screened) = .ok screened ∧
        Screens config.1 capital result screened := by
    refine ⟨_, rfl, ?_⟩
    exact ⟨by decide, by decide, by decide⟩
  unfold screenResult
  split
  next opportunity vector hstatus hscore hvector =>
    split
    next =>
      refine ⟨_, rfl, ?_⟩
      exact ⟨by decide, by decide, by decide⟩
    next =>
      split
      next =>
        refine ⟨_, rfl, ?_⟩
        exact ⟨by decide, by decide, by decide⟩
      next =>
        split
        next status hpreparation => exact ⟨_, rfl, preparationStatus_ne hpreparation⟩
        next =>
          obtain ⟨outcome, houtcome, hprepares⟩ := prepareCandidate_ok hvector hscore
          rw [houtcome, ok_bind]
          cases outcome with
          | none =>
            refine ⟨_, rfl, ?_⟩
            exact ⟨by decide, by decide, by decide⟩
          | some candidate => exact ⟨_, rfl, hprepares candidate rfl⟩
  next => exact hblocked

end Screening

end IndiaSwing
