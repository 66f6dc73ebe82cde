import IndiaSwing.PriceAdjustments

namespace IndiaSwing.CorporateActions

open ExceptGuards KeySort RangedContext

variable {ctx : RangedContext} {hex : ContentId → String} {s : CorporateActionSnapshotFields}
variable {e : CorporateActionEvent} {events : List CorporateActionEvent} {listing : ContentId} {bar : CorpusBar}

section Ratios

/-- The exact ratio of the shares before and after an event. -/
def shareRatio (e : CorporateActionEvent) : ℚ := e.1.preActionShares.getD 0 / e.1.postActionShares.getD 1

/-- Confirmed events that change shares. -/
def Automatic (e : CorporateActionEvent) : Prop := e.1.status = .confirmed ∧ e.1.changesShares = true

theorem checkPositive_ok {value : Option ℚ} {name : String} (h : checkPositive value name = .ok ()) :
    ∃ v, value = some v ∧ 0 < v := by
  obtain ⟨v, hv, hpos⟩ := not_not.mp (raiseIf_eq_ok.mp h)
  exact ⟨v, hv, hpos⟩

theorem automatic_shares (h : Automatic e) : ∃ pre post, e.1.preActionShares = some pre ∧
    e.1.postActionShares = some post ∧ 0 < pre ∧ 0 < post := by
  obtain ⟨-, hterms⟩ := raiseIf_bind_eq_ok.mp e.2
  unfold CorporateActionEventFields.checkTerms at hterms
  rw [if_neg (by rw [h.1]; decide), if_pos h.2] at hterms
  obtain ⟨_, hpre, hterms⟩ := bind_eq_ok.mp hterms
  obtain ⟨_, hpost, -⟩ := bind_eq_ok.mp hterms
  obtain ⟨pre, hpreEq, hprePos⟩ := checkPositive_ok hpre
  obtain ⟨post, hpostEq, hpostPos⟩ := checkPositive_ok hpost
  exact ⟨pre, post, hpreEq, hpostEq, hprePos, hpostPos⟩

theorem shareRatio_pos (h : Automatic e) : 0 < shareRatio e := by
  obtain ⟨pre, post, hpre, hpost, hprePos, hpostPos⟩ := automatic_shares h
  unfold shareRatio
  rw [hpre, hpost]
  exact div_pos hprePos hpostPos

/-- The factor of an event is its rounded share ratio, unless the ratio overflows. -/
theorem automaticRawPriceFactor_eq (h : Automatic e) : e.1.automaticRawPriceFactor ctx =
    if ctx.Overflows (shareRatio e) then .error (.decimal .overflow) else .ok (some (ctx.round (shareRatio e))) := by
  obtain ⟨pre, post, hpre, hpost, -, hpostPos⟩ := automatic_shares h
  have hratio : shareRatio e = pre / post := by
    unfold shareRatio
    rw [hpre, hpost]
    rfl
  unfold CorporateActionEventFields.automaticRawPriceFactor
  rw [if_pos (show e.1.status = .confirmed ∧ e.1.changesShares = true from h), hpre, hpost, hratio]
  dsimp only
  rw [div_of_ne_zero hpostPos.ne']
  by_cases hover : ctx.Overflows (pre / post)
  · rw [finalize_error hover, if_pos hover]
    rfl
  · rw [finalize_ok hover, if_neg hover]
    rfl

theorem automatic_of_active (hactive : e ∈ s.activeEvents) (h : needsReview listing e = false) : Automatic e := by
  unfold CorporateActionSnapshotFields.activeEvents at hactive
  obtain ⟨-, hconfirmed⟩ := List.mem_filter.mp hactive
  obtain ⟨-, hconfirmed⟩ := Bool.and_eq_true_iff.mp hconfirmed
  obtain ⟨-, hchanges⟩ := Bool.or_eq_false_iff.mp h
  exact ⟨of_decide_eq_true hconfirmed, (Bool.not_eq_false' _).mp hchanges⟩

/-- The events before the first one that needs a review. -/
def reviewedEvents (listing : ContentId) (events : List CorporateActionEvent) : List CorporateActionEvent :=
  events.takeWhile fun e => !needsReview listing e

theorem reviewedEvents_review (h : needsReview listing e = true) : reviewedEvents listing (e :: events) = [] := by
  unfold reviewedEvents
  rw [List.takeWhile_cons_of_neg (by rw [h]; decide)]

theorem reviewedEvents_automatic (h : needsReview listing e = false) :
    reviewedEvents listing (e :: events) = e :: reviewedEvents listing events := by
  unfold reviewedEvents
  rw [List.takeWhile_cons_of_pos (by rw [h]; decide)]

theorem isManual_review (h : needsReview listing e = true) : isManual ctx listing e = .ok true := by
  unfold isManual
  rw [if_pos h]
  rfl

theorem isManual_automatic (h : needsReview listing e = false) (hautomatic : Automatic e) :
    isManual ctx listing e = if ctx.Overflows (shareRatio e) then .error (.decimal .overflow) else .ok false := by
  unfold isManual
  rw [if_neg (by rw [h]; decide), automaticRawPriceFactor_eq hautomatic]
  by_cases hover : ctx.Overflows (shareRatio e)
  · rw [if_pos hover, if_pos hover]
    rfl
  · rw [if_neg hover, if_neg hover]
    rfl

theorem anyManual_eq (hactive : ∀ e ∈ events, e ∈ s.activeEvents) : anyManual ctx listing events =
    if ∀ e ∈ reviewedEvents listing events, ¬ctx.Overflows (shareRatio e) then .ok (events.any (needsReview listing))
    else .error (.decimal .overflow) := by
  induction events with
  | nil => rfl
  | cons e events ih =>
    have ih := ih fun e' he' => hactive e' (List.mem_cons_of_mem _ he')
    unfold anyManual
    cases hreview : needsReview listing e with
    | true =>
      rw [isManual_review hreview, reviewedEvents_review hreview, List.any_cons, hreview]
      rfl
    | false =>
      have hautomatic := automatic_of_active (hactive e List.mem_cons_self) hreview
      rw [isManual_automatic hreview hautomatic, reviewedEvents_automatic hreview, List.any_cons, hreview,
        Bool.false_or]
      by_cases hover : ctx.Overflows (shareRatio e)
      · rw [if_pos hover, if_neg fun h => h e List.mem_cons_self hover]
        rfl
      · rw [if_neg hover]
        simp only [List.forall_mem_cons, hover, not_false_eq_true, true_and]
        exact ih

theorem reviewedEvents_all (h : ∀ e ∈ events, needsReview listing e = false) : reviewedEvents listing events = events := by
  induction events with
  | nil => rfl
  | cons e events ih =>
    rw [reviewedEvents_automatic (h e List.mem_cons_self), ih fun e' he' => h e' (List.mem_cons_of_mem _ he')]

theorem selectAutomatic_ok {instrument : ContentId} {historyStart signalSession : SessionDate}
    (hstart : historyStart ≤ signalSession)
    (hreview : ∀ e ∈ relevantEvents s instrument historyStart signalSession, needsReview listing e = false)
    (hover : ∀ e ∈ relevantEvents s instrument historyStart signalSession, ¬ctx.Overflows (shareRatio e)) :
    selectAutomaticAdjustmentEvents ctx s instrument listing historyStart signalSession =
      .ok (relevantEvents s instrument historyStart signalSession) := by
  have hall : (relevantEvents s instrument historyStart signalSession).forM (checkAutomatic ctx listing) = .ok () := by
    refine forM_eq_ok.mpr fun e he => ?_
    have hactive : e ∈ s.activeEvents := List.mem_of_mem_filter he
    have hautomatic := automatic_of_active hactive (hreview e he)
    obtain ⟨hlisting, -⟩ := Bool.or_eq_false_iff.mp (hreview e he)
    unfold checkAutomatic
    rw [raiseIf_neg (of_decide_eq_false hlisting), ok_bind, raiseIf_neg (by rw [hautomatic.2]; decide), ok_bind,
      automaticRawPriceFactor_eq hautomatic, if_neg (hover e he), ok_bind]
    exact raiseIf_neg (by simp)
  unfold selectAutomaticAdjustmentEvents
  rw [raiseIf_neg (not_lt.mpr hstart), ok_bind]
  dsimp only
  rw [hall]
  rfl

end Ratios

section Products

/-- The product of some ratios, rounded at every step. -/
def productOf (ctx : RangedContext) : ℚ → List ℚ → ℚ
  | factor, [] => factor
  | factor, ratio :: ratios => productOf ctx (ctx.round (factor * ctx.round ratio)) ratios

/-- Every ratio and every product of a prefix keeps in range. -/
def ProductKeeps (ctx : RangedContext) : ℚ → List ℚ → Prop
  | _, [] => True
  | factor, ratio :: ratios => ctx.InRange ratio ∧ ctx.InRange (factor * ctx.round ratio) ∧
    ProductKeeps ctx (ctx.round (factor * ctx.round ratio)) ratios

theorem multiplyFactors_ok {factor : ℚ} (hfactor : 0 < factor) (hautomatic : ∀ e ∈ events, Automatic e)
    (h : ProductKeeps ctx factor (events.map shareRatio)) :
    multiplyFactors ctx factor events = .ok (productOf ctx factor (events.map shareRatio)) ∧
      0 < productOf ctx factor (events.map shareRatio) := by
  induction events generalizing factor with
  | nil => exact ⟨rfl, hfactor⟩
  | cons e events ih =>
    obtain ⟨hratio, hproduct, hrest⟩ := h
    have hautomaticE := hautomatic e List.mem_cons_self
    have hround := inRange_pos (shareRatio_pos hautomaticE).le hratio
    have hnext := inRange_pos (mul_pos hfactor hround).le hproduct
    obtain ⟨hok, hpos⟩ := ih hnext (fun e' he' => hautomatic e' (List.mem_cons_of_mem _ he')) hrest
    refine ⟨?_, hpos⟩
    unfold multiplyFactors
    rw [automaticRawPriceFactor_eq hautomaticE, if_neg hratio.1, ok_bind]
    dsimp only
    rw [RangedContext.mul, finalize_ok hproduct.1]
    exact hok

/-- A product that has vanished stays zero. -/
theorem multiplyFactors_zero {product : ℚ} (h : multiplyFactors ctx 0 events = .ok product) : product = 0 := by
  induction events with
  | nil => exact (Except.ok.inj h).symm
  | cons e events ih =>
    unfold multiplyFactors at h
    obtain ⟨factor, -, h⟩ := bind_eq_ok.mp h
    cases factor with
    | none => cases h
    | some factor =>
      dsimp only at h
      obtain ⟨next, hnext, h⟩ := bind_eq_ok.mp h
      have hzero := mapError_eq_ok.mp hnext
      rw [RangedContext.mul, zero_mul, finalize] at hzero
      split at hzero
      · cases hzero
      · rw [← Except.ok.inj hzero, round_zero] at h
        exact ih h

theorem multiplyFactors_keeps {factor product : ℚ} (hfactor : 0 < factor) (hautomatic : ∀ e ∈ events, Automatic e)
    (h : multiplyFactors ctx factor events = .ok product) (hproduct : product ≠ 0) :
    ProductKeeps ctx factor (events.map shareRatio) := by
  induction events generalizing factor with
  | nil => exact trivial
  | cons e events ih =>
    have hautomaticE := hautomatic e List.mem_cons_self
    have hratioPos := shareRatio_pos hautomaticE
    unfold multiplyFactors at h
    rw [automaticRawPriceFactor_eq hautomaticE] at h
    by_cases hover : ctx.Overflows (shareRatio e)
    · rw [if_pos hover] at h
      cases h
    rw [if_neg hover, ok_bind] at h
    dsimp only at h
    rw [RangedContext.mul] at h
    by_cases hoverNext : ctx.Overflows (factor * ctx.round (shareRatio e))
    · rw [finalize_error hoverNext] at h
      cases h
    rw [finalize_ok hoverNext] at h
    have h : multiplyFactors ctx (ctx.round (factor * ctx.round (shareRatio e))) events = .ok product := h
    have hnext : ctx.round (factor * ctx.round (shareRatio e)) ≠ 0 := by
      intro hzero
      rw [hzero] at h
      exact hproduct (multiplyFactors_zero h)
    have hratio : ctx.round (shareRatio e) ≠ 0 := by
      intro hzero
      rw [hzero, mul_zero, round_zero] at hnext
      exact hnext rfl
    have hratioRound := inRange_pos hratioPos.le ⟨hover, hratio⟩
    have hnextPos := inRange_pos (mul_pos hfactor hratioRound).le ⟨hoverNext, hnext⟩
    exact ⟨⟨hover, hratio⟩, ⟨hoverNext, hnext⟩,
      ih hnextPos (fun e' he' => hautomatic e' (List.mem_cons_of_mem _ he')) h⟩

end Products

section Bars

/-- The factor of a bar, its prices and its volume keep in range. -/
structure PriceKeeps (ctx : RangedContext) (bar : CorpusBar) (factor : ℚ) : Prop where
  volumeFactor : ctx.InRange (1 / factor)
  low : ctx.InRange (bar.low * factor)
  high : ¬ctx.Overflows (bar.high * factor)
  volume : ¬ctx.Overflows (bar.volume * ctx.round (1 / factor))

/-- The ratios that apply to a bar adjust it within the range of the context. -/
def BarKeeps (ctx : RangedContext) (bar : CorpusBar) (ratios : List ℚ) : Prop :=
  ProductKeeps ctx 1 ratios ∧ PriceKeeps ctx bar (productOf ctx 1 ratios)

/-- The adjusted prices and the adjusted volume of a bar. -/
structure AdjustedPrices where
  session : SessionDate
  open_ : ℚ
  high : ℚ
  low : ℚ
  close : ℚ
  volume : ℚ
  deriving DecidableEq

def AdjustedCorpusBarFields.prices (b : AdjustedCorpusBarFields) : AdjustedPrices :=
  ⟨b.sourceBar.session, b.adjustedOpen, b.adjustedHigh, b.adjustedLow, b.adjustedClose, b.adjustedVolume⟩

/-- The prices of a bar, rounded after the multiplication with its factor. -/
def adjustedBy (ctx : RangedContext) (bar : CorpusBar) (factor : ℚ) : AdjustedPrices :=
  ⟨bar.session, ctx.round (bar.open_ * factor), ctx.round (bar.high * factor), ctx.round (bar.low * factor),
    ctx.round (bar.close * factor), ctx.round (bar.volume * ctx.round (1 / factor))⟩

variable {factor : ℚ} {ids : List ContentId} {binding : StableRawBarBinding} {instrument snapshotId : ContentId}
variable {knowledgeTime : Instant}

theorem recheck_ok {value exactValue : ℚ} (h : ¬ctx.Overflows exactValue) (hvalue : value = ctx.round exactValue) :
    AdjustedCorpusBarFields.recheck value (ctx.finalize exactValue) = .ok () := by
  unfold AdjustedCorpusBarFields.recheck
  rw [finalize_ok h]
  exact raiseIf_neg (not_not.mpr hvalue)

variable (ctx bar) in
/-- The four prices of a bar lie between its low and its high, before and after an adjustment. -/
theorem prices_between (hfactor : 0 < factor) : ∀ price ∈ [bar.open_, bar.high, bar.low, bar.close],
    ctx.round (bar.low * factor) ≤ ctx.round (price * factor) ∧
      ctx.round (price * factor) ≤ ctx.round (bar.high * factor) ∧
        (ctx.Overflows (price * factor) → ctx.Overflows (bar.high * factor)) := by
  obtain ⟨hhigh, hclose⟩ := max_le_iff.mp bar.high_bound
  obtain ⟨hopen, hlowHigh⟩ := max_le_iff.mp hhigh
  obtain ⟨hlow, hlowClose⟩ := le_min_iff.mp bar.low_bound
  obtain ⟨hlowOpen, -⟩ := le_min_iff.mp hlow
  have hbetween : ∀ price, bar.low ≤ price → price ≤ bar.high →
      ctx.round (bar.low * factor) ≤ ctx.round (price * factor) ∧
        ctx.round (price * factor) ≤ ctx.round (bar.high * factor) ∧
          (ctx.Overflows (price * factor) → ctx.Overflows (bar.high * factor)) := by
    intro price hle hge
    have hbelow : bar.low * factor ≤ price * factor := mul_le_mul_of_nonneg_right hle hfactor.le
    have habove : price * factor ≤ bar.high * factor := mul_le_mul_of_nonneg_right hge hfactor.le
    have hlowNonneg : 0 ≤ bar.low * factor := (mul_pos bar.low_pos hfactor).le
    exact ⟨round_mono hlowNonneg hbelow, round_mono (hlowNonneg.trans hbelow) habove,
      overflows_mono (hlowNonneg.trans hbelow) habove⟩
  intro price hprice
  simp only [List.mem_cons, List.not_mem_nil, or_false] at hprice
  rcases hprice with rfl | rfl | rfl | rfl
  · exact hbetween _ hlowOpen hopen
  · exact hbetween _ hlowHigh le_rfl
  · exact hbetween _ le_rfl hlowHigh
  · exact hbetween _ hlowClose hclose

theorem adjustedCorpusBar_ok (hfactor : 0 < factor) (hkeeps : PriceKeeps ctx bar factor)
    (hids : ids = sortOn hex ids.dedup) (hknown : bar.observedAt ≤ knowledgeTime) :
    ∃ b, adjustedCorpusBar ctx hex bar binding instrument listing snapshotId (factor, ctx.round (1 / factor), ids)
        knowledgeTime = .ok b ∧ b.1.prices = adjustedBy ctx bar factor ∧ b.1.sourceBar = bar ∧
      b.1.stableInstrumentId = instrument ∧ b.1.stableListingId = listing ∧
      b.1.corporateActionSnapshotId = snapshotId ∧ b.1.identityBindingId = binding.bindingId ∧
      b.1.knowledgeTime = knowledgeTime := by
  have hbetween := prices_between ctx bar hfactor
  simp only [List.forall_mem_cons] at hbetween
  obtain ⟨⟨hopenLow, hopenHigh, hopenOver⟩, ⟨-, -, -⟩, ⟨-, hlowHigh, hlowOver⟩, ⟨hcloseLow, hcloseHigh, hcloseOver⟩, -⟩ :=
    hbetween
  have hopen := fun h => hkeeps.high (hopenOver h)
  have hclose := fun h => hkeeps.high (hcloseOver h)
  have hlowPos : 0 < ctx.round (bar.low * factor) := inRange_pos (mul_pos bar.low_pos hfactor).le hkeeps.low
  have hopenPos := hlowPos.trans_le hopenLow
  have hclosePos := hlowPos.trans_le hcloseLow
  have hhighPos := hlowPos.trans_le hlowHigh
  have hvolumeFactor : 0 < ctx.round (1 / factor) :=
    inRange_pos (one_div_pos.mpr hfactor).le hkeeps.volumeFactor
  have hvolume : 0 ≤ ctx.round (bar.volume * ctx.round (1 / factor)) :=
    round_nonneg (mul_nonneg (Nat.cast_nonneg _) hvolumeFactor.le)
  have hchecked : (⟨bar, instrument, listing, binding.bindingId, snapshotId, factor, ctx.round (1 / factor),
      ctx.round (bar.open_ * factor), ctx.round (bar.high * factor), ctx.round (bar.low * factor),
      ctx.round (bar.close * factor), ctx.round (bar.volume * ctx.round (1 / factor)), ids, knowledgeTime⟩ :
        AdjustedCorpusBarFields).check ctx hex = .ok () := by
    have hnonneg : ¬∃ value ∈ [factor, ctx.round (1 / factor), ctx.round (bar.open_ * factor),
        ctx.round (bar.high * factor), ctx.round (bar.low * factor), ctx.round (bar.close * factor),
        ctx.round (bar.volume * ctx.round (1 / factor))], value < 0 := by
      simp only [List.mem_cons, List.not_mem_nil, or_false, exists_eq_or_imp, exists_eq_left, not_or, not_lt]
      exact ⟨hfactor.le, hvolumeFactor.le, hopenPos.le, hhighPos.le, hlowPos.le, hclosePos.le, hvolume⟩
    unfold AdjustedCorpusBarFields.check
    dsimp only
    rw [raiseIf_neg hnonneg, ok_bind, raiseIf_neg, ok_bind, div_of_ne_zero hfactor.ne',
      recheck_ok hkeeps.volumeFactor.1 rfl, ok_bind, RangedContext.mul, recheck_ok hopen rfl, ok_bind, RangedContext.mul,
      recheck_ok hkeeps.high rfl, ok_bind, RangedContext.mul, recheck_ok hkeeps.low.1 rfl, ok_bind, RangedContext.mul,
      recheck_ok hclose rfl, ok_bind, RangedContext.mul, recheck_ok hkeeps.volume rfl, ok_bind,
      raiseIf_neg (not_not.mpr hids), ok_bind, raiseIf_neg (not_lt.mpr hknown)]
    simp only [not_or, not_le, not_lt, max_le_iff, le_min_iff]
    exact ⟨hfactor, hvolumeFactor, hopenPos, hhighPos, hlowPos, hclosePos, ⟨⟨hopenHigh, hlowHigh⟩, hcloseHigh⟩,
      ⟨hopenLow, hlowHigh⟩, hcloseLow⟩
  unfold adjustedCorpusBar
  dsimp only
  rw [RangedContext.mul, finalize_ok hopen, RangedContext.mul, finalize_ok hkeeps.high, RangedContext.mul,
    finalize_ok hkeeps.low.1, RangedContext.mul, finalize_ok hclose, RangedContext.mul, finalize_ok hkeeps.volume]
  exact ⟨⟨_, hchecked⟩, Checked.build_of_ok hchecked, rfl, rfl, rfl, rfl, rfl, rfl, rfl⟩

/-- A bar is adjusted only by a factor that keeps it in range. -/
theorem adjustedCorpusBar_keeps (hfactor : 0 < factor) (hover : ¬ctx.Overflows (1 / factor))
    {b : AdjustedCorpusBar ctx hex} (h : adjustedCorpusBar ctx hex bar binding instrument listing snapshotId
      (factor, ctx.round (1 / factor), ids) knowledgeTime = .ok b) : PriceKeeps ctx bar factor := by
  unfold adjustedCorpusBar at h
  dsimp only at h
  obtain ⟨_, -, h⟩ := bind_eq_ok.mp h
  obtain ⟨_, hhigh, h⟩ := bind_eq_ok.mp h
  obtain ⟨low, hlow, h⟩ := bind_eq_ok.mp h
  obtain ⟨_, -, h⟩ := bind_eq_ok.mp h
  obtain ⟨_, hvolume, h⟩ := bind_eq_ok.mp h
  have hinrange : ∀ {value result : ℚ}, (ctx.finalize value).mapError CorporateActionError.decimal = .ok result →
      ¬ctx.Overflows value ∧ result = ctx.round value := by
    intro value result hvalue
    by_cases hvalueOver : ctx.Overflows value
    · rw [finalize_error hvalueOver] at hvalue
      cases hvalue
    · rw [finalize_ok hvalueOver] at hvalue
      exact ⟨hvalueOver, (Except.ok.inj hvalue).symm⟩
  obtain ⟨hlowOver, rfl⟩ := hinrange hlow
  have hchecked := Checked.build_eq_ok.mp h
  have hcheck := b.2
  rw [← hchecked] at hcheck
  unfold AdjustedCorpusBarFields.check at hcheck
  obtain ⟨-, hcheck⟩ := raiseIf_bind_eq_ok.mp hcheck
  obtain ⟨hpositive, -⟩ := raiseIf_bind_eq_ok.mp hcheck
  dsimp only at hpositive
  simp only [not_or, not_le] at hpositive
  obtain ⟨-, hvolumeFactor, -, -, hlowPos, -⟩ := hpositive
  exact ⟨⟨hover, hvolumeFactor.ne'⟩, ⟨hlowOver, hlowPos.ne'⟩, (hinrange hhigh).1, (hinrange hvolume).1⟩

end Bars

end IndiaSwing.CorporateActions
